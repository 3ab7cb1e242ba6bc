import AACS.Server.Frames

/-!
What one turn of the server can do, thread by thread.

The turns of the head unit's pump and of the streaming threads leave the clients
alone. A turn of a client's thread does one of six things (`ClientTurn`).
-/

namespace AACS

namespace AAServer

open Effects FanOut

section Operations

def State.withThread (state : State) (scl : Nat) (thread : ClientThread) : State :=
  state.updateSocket scl fun client => { client with thread }

def State.register (state : State) (pointer : Nat) (clientId : Int) : State :=
  state.updateHandler pointer (ChannelHandler.updateInput (.registerClient clientId))

def State.forget (state : State) (scl : Nat) (clientId : Int) : State :=
  { state with
    handlers := state.handlers.mapIdx fun pointer handler =>
      if state.isInstalled pointer then handler.disconnected clientId else handler
    clients := eraseClient scl state.clients }

theorem clientIdOf_run {state : State} {scl : Nat} {clientId : Int}
    (known : state.clients.lookup scl = some clientId) :
    (clientIdOf scl).run state = ⟨.ok clientId, state, []⟩ := by
  simp [clientIdOf, known]

theorem removeClient_run {state : State} {scl : Nat} {clientId : Int}
    (known : state.clients.lookup scl = some clientId) :
    (removeClient scl).run state = ⟨.ok (), state.forget scl clientId, []⟩ := by
  simp [removeClient, clientIdOf_run known, disconnected, State.forget, State.isInstalled]

theorem guarded_run {state : State} {scl : Nat} (body : ServerAct ClientThread) :
    (guarded scl body).run state =
      match (body.run state).result with
      | .ok _ => body.run state
      | .error .undefinedBehaviour => body.run state
      | .error (.thrown exception) =>
          let removed := (removeClient scl).run (body.run state).state
          ⟨match removed.result with
            | .ok () => .error (.thrown exception)
            | .error fault => .error fault,
          removed.state, (body.run state).log ++ removed.log⟩ := by
  unfold guarded Act.tryCatch
  dsimp only
  cases result : (body.run state).result with
  | ok thread => rfl
  | error fault =>
      cases fault with
      | undefinedBehaviour => rfl
      | thrown exception =>
          simp only [Fault.isException, if_true, Act.run_bind]
          rcases (removeClient scl).run (body.run state).state with ⟨fault | value, after, log⟩
          · rfl
          · simp

end Operations

theorem gotPacket_rawData {state : State} {scl : Nat} {clientId : Int} {p : Packet}
    (write : Nat → WriteResult) (known : state.clients.lookup scl = some clientId)
    (raw : p.packetType = PacketType.RawData.code) :
    (gotPacket write scl p).run state =
      match state.channelHandlers p.channelNumber with
      | none => ⟨.error (.thrown (.runtimeError ("No handler for channel " ++
          toString p.channelNumber.toNat))), state.forget scl clientId, []⟩
      | some pointer =>
          match (state.handlers[pointer]?).map ChannelHandler.kind with
          | none => ⟨.error .undefinedBehaviour, state, []⟩
          | some .default => ⟨.ok .reading, state, [.enqueue p.channelNumber
              (if p.specific != 0 then 0x0f else 0x0b) p.data]⟩
          | some (.video _) => ⟨.ok .reading, state, []⟩
          | some (.input _) =>
              ⟨.ok (.opening pointer .resetChannelOpen), state.register pointer clientId, []⟩ := by
  have notLookup : PacketType.RawData.code ≠ PacketType.GetChannelNumberByChannelType.code := by
    decide
  simp only [gotPacket, raw, notLookup, if_false, if_true, guarded_run, Act.run_bind,
    clientIdOf_run known, Act.andThen_ok, List.nil_append]
  cases installed : state.channelHandlers p.channelNumber with
  | none => simp [sendToChannel, installed, throw, removeClient_run known]
  | some pointer =>
      cases present : state.handlers[pointer]? with
      | none =>
          simp [sendToChannel, installed, handleMessageFromClient, readHandler, present,
            undefinedBehaviour]
      | some handler =>
          obtain ⟨channelId, flag, kind⟩ := handler
          cases kind with
          | default =>
              by_cases specific : p.specific = 0
              · simp [sendToChannel, installed, handleMessageFromClient, readHandler_run present,
                  DefaultChannelHandler.handleMessageFromClient, sendToHeadunit, specific, present]
                rfl
              · simp [sendToChannel, installed, handleMessageFromClient, readHandler_run present,
                  DefaultChannelHandler.handleMessageFromClient, sendToHeadunit, specific, present]
                rfl
          | video video =>
              simp [sendToChannel, installed, handleMessageFromClient, readHandler_run present,
                present]
          | input input =>
              simp [sendToChannel, installed, handleMessageFromClient, readHandler_run present,
                writeHandler, State.register, present]

def State.reply (state : State) (p : Packet) : Option Bytes :=
  if p.packetType = PacketType.GetChannelNumberByChannelType.code then
    if p.channelNumber = 0 then some [state.channelTypeToChannelNumber .Video]
    else if p.channelNumber = 1 then some [state.channelTypeToChannelNumber .Input]
    else none
  else if p.packetType = PacketType.GetServiceDescriptor.code then some state.serviceDescriptor
  else none

theorem reply_run (state : State) (write : Nat → WriteResult) (scl : Nat) (bytes : Bytes) :
    (do SocketClient.sendMessage write scl bytes; pure ClientThread.reading : ServerAct _).run
      state =
      match state.destination write scl with
      | .ok connection => ⟨.ok .reading, state, [.packet connection bytes]⟩
      | .error errno => ⟨.error (writeFault errno), state, []⟩ := by
  cases sent : state.destination write scl with
  | ok connection => simp [SocketClient.sendMessage, sent]
  | error errno => simp [SocketClient.sendMessage, sent]

/-- A request that has an answer gets it, or the `write` fails. -/
theorem gotPacket_request {state : State} {p : Packet} {bytes : Bytes}
    (write : Nat → WriteResult) (scl : Nat) (answer : state.reply p = some bytes) :
    (gotPacket write scl p).run state =
      match state.destination write scl with
      | .ok connection => ⟨.ok .reading, state, [.packet connection bytes]⟩
      | .error errno => ⟨.error (writeFault errno), state, []⟩ := by
  rw [← reply_run]
  unfold State.reply at answer
  by_cases lookup : p.packetType = PacketType.GetChannelNumberByChannelType.code
  · rw [if_pos lookup] at answer
    by_cases video : p.channelNumber = 0
    · rw [if_pos video] at answer
      cases answer
      simp [gotPacket, lookup, getChannelNumberByChannelType, video]
    · rw [if_neg video] at answer
      by_cases input : p.channelNumber = 1
      · rw [if_pos input] at answer
        cases answer
        simp [gotPacket, lookup, getChannelNumberByChannelType, input]
      · rw [if_neg input] at answer
        cases answer
  · rw [if_neg lookup] at answer
    by_cases descriptor : p.packetType = PacketType.GetServiceDescriptor.code
    · rw [if_pos descriptor] at answer
      cases answer
      have notRaw : PacketType.GetServiceDescriptor.code ≠ PacketType.RawData.code := by decide
      have notLookup : PacketType.GetServiceDescriptor.code ≠
          PacketType.GetChannelNumberByChannelType.code := by decide
      simp [gotPacket, descriptor, notRaw, notLookup]
    · rw [if_neg descriptor] at answer
      cases answer

/-- Any other packet but raw data: an unknown type, or a channel type outside the table. -/
theorem gotPacket_unknown {state : State} {p : Packet} (write : Nat → WriteResult) (scl : Nat)
    (other : p.packetType ≠ PacketType.RawData.code) (unanswered : state.reply p = none) :
    ∃ fault, (gotPacket write scl p).run state = ⟨.error fault, state, []⟩ := by
  unfold State.reply at unanswered
  by_cases lookup : p.packetType = PacketType.GetChannelNumberByChannelType.code
  · rw [if_pos lookup] at unanswered
    by_cases video : p.channelNumber = 0
    · simp [video] at unanswered
    · by_cases input : p.channelNumber = 1
      · simp [input] at unanswered
      · exact ⟨.undefinedBehaviour, by
          simp [gotPacket, lookup, getChannelNumberByChannelType, video, input,
            undefinedBehaviour]⟩
  · rw [if_neg lookup] at unanswered
    by_cases descriptor : p.packetType = PacketType.GetServiceDescriptor.code
    · simp [descriptor] at unanswered
    · exact ⟨.thrown (.runtimeError "Unknown packetType"), by
        simp [gotPacket, lookup, other, descriptor, throw]⟩

section Clients

/-- What a turn of a client's thread can do. -/
inductive ClientTurn (state : State) (scl : Nat) (clientId : Int) :
    State → List Output → Prop where
  | goesOn {thread : ClientThread} {outputs : List Output} (alive : thread ≠ .ended)
      (silent : ∀ output ∈ outputs, output.isEnqueue) :
      ClientTurn state scl clientId (state.withThread scl thread) outputs
  | registers (pointer : Nat) :
      ClientTurn state scl clientId
        ((state.register pointer clientId).withThread scl (.opening pointer .resetChannelOpen)) []
  | answered {client : SocketClient} {connection : Nat} (bytes : Bytes)
      (present : state.sockets scl = some client)
      (wired : state.descriptors client.fd = some connection) :
      ClientTurn state scl clientId (state.withThread scl .reading) [.packet connection bytes]
  | fails : ClientTurn state scl clientId (state.close scl) []
  | thrownOut {outputs : List Output} (silent : ∀ output ∈ outputs, output.isEnqueue) :
      ClientTurn state scl clientId ((state.forget scl clientId).close scl) outputs
  | leaves :
      ClientTurn state scl clientId
        (({ state with socketClients := state.socketClients.erase scl }.forget scl
          clientId).withThread scl .ended) []

variable {state next : State} {scl : Nat} {clientId : Int} {outputs : List Output}

theorem destination_ok {write : Nat → WriteResult} {connection : Nat}
    (sent : state.destination write scl = .ok connection) :
    ∃ client, state.sockets scl = some client ∧ state.descriptors client.fd = some connection := by
  unfold State.destination at sent
  split at sent
  next => cases sent
  next other wired =>
    obtain ⟨client, present, opened⟩ := Option.bind_eq_some_iff.mp wired
    split at sent
    · cases sent
      exact ⟨client, present, opened⟩
    · cases sent

theorem finishClient_error {body : ServerAct ClientThread} {fault : Fault} {after : State}
    {log : List Output} (outcome : body.run state = ⟨.error fault, after, log⟩)
    (took : finishClient scl body state = some (next, outputs)) :
    next = after.close scl ∧ outputs = log := by
  unfold finishClient at took
  rw [outcome] at took
  cases fault with
  | thrown exception =>
      cases took
      exact ⟨rfl, rfl⟩
  | undefinedBehaviour => cases took

theorem finishClient_thrown {body : ServerAct ClientThread} {exception : Thrown} {after : State}
    {log : List Output} (outcome : body.run state = ⟨.error (.thrown exception), after, log⟩) :
    finishClient scl body state = some (after.close scl, log) := by
  unfold finishClient
  rw [outcome]

theorem writeFault_thrown (errno : Nat) : ∃ exception, writeFault errno = .thrown exception := by
  unfold writeFault
  split <;> exact ⟨_, rfl⟩

theorem finishClient_ok {body : ServerAct ClientThread} {thread : ClientThread} {after : State}
    {log : List Output} (outcome : body.run state = ⟨.ok thread, after, log⟩) :
    finishClient scl body state = some (after.withThread scl thread, log) := by
  unfold finishClient
  rw [outcome]
  rfl

theorem gotPacket_turn {p : Packet} {write : Nat → WriteResult}
    (known : state.clients.lookup scl = some clientId)
    (took : finishClient scl (gotPacket write scl p) state = some (next, outputs)) :
    ClientTurn state scl clientId next outputs := by
  by_cases raw : p.packetType = PacketType.RawData.code
  · have outcome := gotPacket_rawData write known raw
    split at outcome
    · obtain ⟨rfl, rfl⟩ := finishClient_error outcome took
      exact .thrownOut (by simp)
    · split at outcome
      · obtain ⟨rfl, rfl⟩ := finishClient_error outcome took
        exact .fails
      · rw [finishClient_ok outcome] at took
        cases took
        exact .goesOn (by simp) (by simp [Output.isEnqueue])
      · rw [finishClient_ok outcome] at took
        cases took
        exact .goesOn (by simp) (by simp)
      · rw [finishClient_ok outcome] at took
        cases took
        exact .registers _
  · cases answer : state.reply p with
    | none =>
        obtain ⟨fault, outcome⟩ := gotPacket_unknown write scl raw answer
        obtain ⟨rfl, rfl⟩ := finishClient_error outcome took
        exact .fails
    | some bytes =>
        have outcome := gotPacket_request write scl answer
        split at outcome
        next connection sent =>
          obtain ⟨client, present, wired⟩ := destination_ok sent
          rw [finishClient_ok outcome] at took
          cases took
          exact .answered bytes present wired
        next errno failed =>
          obtain ⟨rfl, rfl⟩ := finishClient_error outcome took
          exact .fails

def State.buffered (state : State) (scl : Nat) (client : SocketClient) (reading : Reading) :
    State :=
  state.updateSocket scl fun other =>
    { other with buffer := client.buffer.overwrite (reading.bytes.take clientBufSize) }

theorem buffered_quiet (state : State) (scl : Nat) (client : SocketClient) (reading : Reading) :
    state.Quiet (state.buffered scl client reading) := by
  refine ⟨rfl, rfl, rfl, rfl, rfl, rfl, rfl, fun other => ?_, rfl⟩
  by_cases same : other = scl
  · subst same
    cases present : state.sockets other <;>
      simp [State.buffered, State.updateSocket, SocketClient.status, present]
  · simp [State.buffered, State.updateSocket, same]

def SocketClient.packet (client : SocketClient) (reading : Reading) : Packet :=
  let bytes := reading.bytes.take clientBufSize
  packetOf (client.buffer.overwrite bytes) bytes

theorem packet_data (client : SocketClient) (packetType channelNumber specific : UInt8)
    (data : Bytes) :
    client.packet (.data (packetType :: channelNumber :: specific :: data)) =
      { packetType, channelNumber, specific, data := data.take (clientBufSize - 3) } := by
  have header : (packetType :: channelNumber :: specific :: data).take clientBufSize =
      packetType :: channelNumber :: specific :: data.take (clientBufSize - 3) := by
    have room : clientBufSize = clientBufSize - 3 + 1 + 1 + 1 := by decide
    rw [room, List.take_succ_cons, List.take_succ_cons, List.take_succ_cons]
    rfl
  simp only [SocketClient.packet, Reading.bytes, header]
  rfl

theorem clientRead_packet {client : SocketClient} {reading : Reading} (write : Nat → WriteResult)
    (packet : reading ≠ .data []) :
    (clientRead write scl client reading).run state =
      (gotPacket write scl (client.packet reading)).run (state.buffered scl client reading) := by
  unfold clientRead
  split
  · exact absurd rfl packet
  · simp only [Act.run_bind, Act.run_modify, Act.andThen_ok, List.nil_append]
    rfl

theorem clientRead_eof {client : SocketClient} (write : Nat → WriteResult)
    (known : state.clients.lookup scl = some clientId) :
    (clientRead write scl client (.data [])).run state =
      ⟨.ok .ended,
        { state with socketClients := state.socketClients.erase scl }.forget scl clientId, []⟩ := by
  have removed : (removeClient scl).run
      { state with socketClients := state.socketClients.erase scl } = _ := removeClient_run known
  simp only [clientRead, Act.run_bind, Act.run_modify, Act.andThen_ok, removed, Act.run_pure,
    List.append_nil]

theorem step_read_packet {client : SocketClient} {reading : Reading} (protobuf : Protobuf)
    (write : Nat → WriteResult) (present : state.sockets scl = some client)
    (ready : client.thread = .reading) (packet : reading ≠ .data []) :
    (machine protobuf).step state (.read scl reading write) =
      finishClient scl (gotPacket write scl (client.packet reading))
        (state.buffered scl client reading) := by
  simp only [machine, step, present, ready, if_true]
  unfold finishClient
  rw [clientRead_packet write packet]

theorem step_read_body {protobuf : Protobuf} {client : SocketClient} {reading : Reading}
    {write : Nat → WriteResult} (present : state.sockets scl = some client)
    (ready : client.thread = .reading)
    (took : (machine protobuf).step state (.read scl reading write) = some (next, outputs)) :
    finishClient scl (clientRead write scl client reading) state = some (next, outputs) := by
  simp only [machine, step, present, ready, if_true] at took
  exact took

theorem step_read_eof {client : SocketClient} (protobuf : Protobuf) (write : Nat → WriteResult)
    (present : state.sockets scl = some client) (ready : client.thread = .reading)
    (known : state.clients.lookup scl = some clientId) :
    (machine protobuf).step state (.read scl (.data []) write) =
      some (({ state with socketClients := state.socketClients.erase scl }.forget scl
        clientId).withThread scl .ended, []) := by
  simp only [machine, step, present, ready, if_true]
  exact finishClient_ok (clientRead_eof write known)

theorem step_read_ready {protobuf : Protobuf} {reading : Reading} {write : Nat → WriteResult}
    (took : (machine protobuf).step state (.read scl reading write) = some (next, outputs)) :
    ∃ client, state.sockets scl = some client ∧ client.thread = .reading := by
  simp only [machine, step] at took
  split at took
  next => cases took
  next client present =>
    split at took
    next ready => exact ⟨client, present, ready⟩
    next => cases took

theorem read_turn {protobuf : Protobuf} {reading : Reading} {write : Nat → WriteResult}
    (known : state.clients.lookup scl = some clientId)
    (took : (machine protobuf).step state (.read scl reading write) = some (next, outputs)) :
    ∃ before, state.Quiet before ∧ ClientTurn before scl clientId next outputs := by
  obtain ⟨client, present, ready⟩ := step_read_ready took
  by_cases eof : reading = .data []
  · subst eof
    rw [step_read_eof protobuf write present ready known] at took
    cases took
    exact ⟨state, refl state, .leaves⟩
  · rw [step_read_packet protobuf write present ready eof] at took
    exact ⟨_, buffered_quiet state scl client reading, gotPacket_turn known took⟩

/-- Opening a channel fails only where the handshake cannot be serialized. -/
theorem openStep_throws {protobuf : Protobuf} {pointer : Nat} {openStep : OpenStep}
    {exception : Thrown} {after : State} {log : List Output}
    (ran : (openStep.run protobuf pointer).run state = ⟨.error (.thrown exception), after, log⟩) :
    after = state ∧ openStep = .sendRequest ∧
      ∃ handler input, state.handlers[pointer]? = some handler ∧ handler.kind = .input input ∧
        protobuf.inputChannelHandshakeRequest input.available_buttons = none := by
  cases openStep with
  | resetChannelOpen => cases ran
  | awaitChannelOpen => cases ran
  | resetAnswer => cases ran
  | awaitAnswer => cases ran
  | sendChannelOpen =>
      cases present : state.handlers[pointer]? with
      | none => simp [OpenStep.run, readHandler, present, undefinedBehaviour] at ran
      | some handler =>
          simp [OpenStep.run, readHandler_run present, ChannelHandler.sendChannelOpenRequest,
            sendToHeadunit] at ran
  | sendRequest =>
      cases present : state.handlers[pointer]? with
      | none => simp [OpenStep.run, readHandler, present, undefinedBehaviour] at ran
      | some handler =>
          simp only [OpenStep.run, Act.run_bind, readHandler_run present, Act.andThen_ok,
            List.nil_append, ChannelHandler.sendRequest] at ran
          cases kind : handler.kind with
          | default => simp [kind] at ran
          | video video =>
              simp [kind, VideoChannelHandler.sendSetupRequest, sendToHeadunit] at ran
          | input input =>
              cases handshake : protobuf.inputChannelHandshakeRequest input.available_buttons with
              | none =>
                  simp [kind, InputChannelHandler.sendHandshakeRequest, handshake, throw] at ran
                  exact ⟨ran.2.1.symm, rfl, handler, input, rfl, kind, handshake⟩
              | some buffer =>
                  simp [kind, InputChannelHandler.sendHandshakeRequest, handshake,
                    sendToHeadunit] at ran

theorem clientOpen_ok {protobuf : Protobuf} {pointer : Nat} {openStep : OpenStep}
    {further : Option OpenStep} {after : State} {log : List Output}
    (ran : (openStep.run protobuf pointer).run state = ⟨.ok further, after, log⟩) :
    ∃ thread, thread ≠ .ended ∧
      (clientOpen protobuf scl pointer openStep).run state = ⟨.ok thread, after, log⟩ := by
  simp only [clientOpen, guarded_run, Act.run_bind, ran, Act.andThen_ok]
  cases further with
  | none => exact ⟨.reading, by simp, by simp⟩
  | some further => exact ⟨.opening pointer further, by simp, by simp⟩

theorem clientOpen_undefined {protobuf : Protobuf} {pointer : Nat} {openStep : OpenStep}
    {after : State} {log : List Output}
    (ran : (openStep.run protobuf pointer).run state = ⟨.error .undefinedBehaviour, after, log⟩) :
    (clientOpen protobuf scl pointer openStep).run state =
      ⟨.error .undefinedBehaviour, after, log⟩ := by
  simp only [clientOpen, guarded_run, Act.run_bind, ran, Act.andThen_error]

theorem clientOpen_thrown {protobuf : Protobuf} {pointer : Nat} {openStep : OpenStep}
    {exception : Thrown} {after : State} {log : List Output}
    (ran : (openStep.run protobuf pointer).run state = ⟨.error (.thrown exception), after, log⟩)
    (known : after.clients.lookup scl = some clientId) :
    (clientOpen protobuf scl pointer openStep).run state =
      ⟨.error (.thrown exception), after.forget scl clientId, log⟩ := by
  simp only [clientOpen, guarded_run, Act.run_bind, ran, Act.andThen_error, removeClient_run known,
    List.append_nil]

theorem clientOpen_error {protobuf : Protobuf} {pointer : Nat} {openStep : OpenStep}
    {fault : Fault} {after : State} {log : List Output}
    (ran : (openStep.run protobuf pointer).run state = ⟨.error fault, after, log⟩)
    (known : after.clients.lookup scl = some clientId)
    (took : finishClient scl (clientOpen protobuf scl pointer openStep) state =
      some (next, outputs)) :
    (∃ exception, fault = .thrown exception) ∧
      next = (after.forget scl clientId).close scl ∧ outputs = log := by
  cases fault with
  | undefinedBehaviour =>
      unfold finishClient at took
      rw [clientOpen_undefined ran] at took
      cases took
  | thrown exception =>
      exact ⟨⟨exception, rfl⟩, finishClient_error (clientOpen_thrown ran known) took⟩

theorem clientOpen_turn {protobuf : Protobuf} {pointer : Nat} {openStep : OpenStep}
    (known : state.clients.lookup scl = some clientId)
    (took : finishClient scl (clientOpen protobuf scl pointer openStep) state =
      some (next, outputs)) :
    ∃ before, state.Quiet before ∧ ClientTurn before scl clientId next outputs := by
  have quiet := openStep_quiet protobuf pointer openStep state
  have silent := openStep_enqueues protobuf pointer openStep state
  rcases ran : (openStep.run protobuf pointer).run state with ⟨fault | further, before, log⟩
  · rw [ran] at quiet silent
    obtain ⟨-, rfl, rfl⟩ := clientOpen_error ran (quiet.clients ▸ known) took
    exact ⟨before, quiet, .thrownOut silent⟩
  · rw [ran] at quiet silent
    obtain ⟨thread, alive, outcome⟩ := clientOpen_ok ran
    rw [finishClient_ok outcome] at took
    cases took
    exact ⟨before, quiet, .goesOn alive silent⟩

theorem clientStep_turn {protobuf : Protobuf} (known : state.clients.lookup scl = some clientId)
    (took : (machine protobuf).step state (.clientStep scl) = some (next, outputs)) :
    ∃ before, state.Quiet before ∧ ClientTurn before scl clientId next outputs := by
  simp only [machine, step] at took
  split at took
  next => cases took
  next client present =>
    split at took
    next pointer openStep opening =>
      split at took
      next => cases took
      next handler installed =>
        split at took
        next enabled => exact clientOpen_turn known took
        next => cases took
    next => cases took

end Clients

section Sockets

variable {state next : State} {scl other : Nat} {outputs : List Output}

theorem withThread_other (state : State) (thread : ClientThread) (different : other ≠ scl) :
    (state.withThread scl thread).sockets other = state.sockets other := by
  simp [State.withThread, State.updateSocket, different]

theorem sockets_withThread {client : SocketClient} (present : state.sockets scl = some client)
    (thread : ClientThread) :
    (state.withThread scl thread).sockets scl = some { client with thread } := by
  simp [State.withThread, State.updateSocket, present]

theorem close_other (state : State) (different : other ≠ scl) :
    (state.close scl).sockets other = state.sockets other := by
  unfold State.close
  split
  · rfl
  · simp [different]

theorem ClientTurn.sockets_other {clientId : Int}
    (turn : ClientTurn state scl clientId next outputs)
    (different : other ≠ scl) : next.sockets other = state.sockets other := by
  cases turn with
  | goesOn => exact withThread_other _ _ different
  | registers pointer => exact withThread_other _ _ different
  | answered => exact withThread_other _ _ different
  | fails => exact close_other _ different
  | thrownOut => exact close_other _ different
  | leaves => exact withThread_other _ _ different

end Sockets

section Others

variable {state next : State} {outputs : List Output} {protobuf : Protobuf}

theorem finishPump_turn {body : ServerAct Unit}
    (took : finishPump body state = some (next, outputs)) :
    outputs = (body.run state).log ∧ (body.run state).state.Quiet next := by
  unfold finishPump at took
  dsimp only at took
  split at took
  · cases took
    exact ⟨rfl, refl _⟩
  · cases took
    exact ⟨rfl, ⟨rfl, rfl, rfl, rfl, rfl, rfl, rfl, fun _ => rfl, rfl⟩⟩
  · cases took

theorem headunit_turn {message : Message} {accept : Accept} {write : Nat → WriteResult}
    (took : (machine protobuf).step state (.headunit message accept write) =
      some (next, outputs)) :
    outputs = ((handleMessageContent protobuf accept write message).run state).log ∧
      ((handleMessageContent protobuf accept write message).run state).state.Quiet next := by
  simp only [machine, step] at took
  split at took
  · cases took
  · exact finishPump_turn took

theorem headunit_quiet {message : Message} {accept : Accept} {write : Nat → WriteResult}
    (other : isServiceDiscoveryResponse message = false)
    (took : (machine protobuf).step state (.headunit message accept write) =
      some (next, outputs)) : state.Quiet next :=
  trans_of State.Quiet (handleMessageContent_quiet protobuf accept write other state)
    (headunit_turn took).2

theorem headunit_packet_iff {message : Message} {accept : Accept} {write : Nat → WriteResult}
    (took : (machine protobuf).step state (.headunit message accept write) = some (next, outputs))
    (connection : Nat) (bytes : Bytes) :
    .packet connection bytes ∈ outputs ↔
      ∃ recipients, state.route message = some (recipients, bytes) ∧
        connection ∈ (fanOut (state.destination write) isReset recipients).2 := by
  obtain ⟨rfl, -⟩ := headunit_turn took
  cases routed : state.route message with
  | none =>
      simp only [reduceCtorEq, false_and, exists_false, iff_false]
      intro membership
      exact handleMessageContent_unrouted protobuf accept write routed _ membership
  | some target =>
      rw [handleMessageContent_routed protobuf accept write routed]
      simp only [State.broadcast, List.mem_map, Output.packet.injEq, Option.some.injEq]
      constructor
      · rintro ⟨delivered, membership, rfl, rfl⟩
        exact ⟨target.1, rfl, membership⟩
      · rintro ⟨recipients, rfl, membership⟩
        exact ⟨connection, membership, rfl, rfl⟩

/-- A service descriptor adds handlers that nobody listens to yet. -/
structure State.Discovers (before after : State) : Prop where
  handlers : ∃ added, after.handlers = before.handlers ++ added ∧
    ∀ handler ∈ added, ∀ input, handler.kind = .input input → input.registered_clients = []
  clients : after.clients = before.clients
  clientCount : after.clientCount = before.clientCount
  socketClients : after.socketClients = before.socketClients
  sockets : after.sockets = before.sockets
  descriptors : after.descriptors = before.descriptors

instance : Std.Refl State.Discovers :=
  ⟨fun _ => ⟨⟨[], by simp, by simp⟩, rfl, rfl, rfl, rfl, rfl⟩⟩

instance : IsTrans State State.Discovers where
  trans _ _ _ first second := by
    obtain ⟨early, eq, silent⟩ := first.handlers
    obtain ⟨late, eq', silent'⟩ := second.handlers
    refine ⟨⟨early ++ late, by rw [eq', eq, List.append_assoc], ?_⟩,
      second.clients.trans first.clients, second.clientCount.trans first.clientCount,
      second.socketClients.trans first.socketClients, second.sockets.trans first.sockets,
      second.descriptors.trans first.descriptors⟩
    intro handler membership
    rcases List.mem_append.mp membership with old | new
    · exact silent handler old
    · exact silent' handler new

theorem newHandler_unheard {channel : Channel} {input : InputChannelHandler}
    (kind : Channel.newHandler channel = .input input) : input.registered_clients = [] := by
  unfold Channel.newHandler at kind
  split at kind
  · cases kind
  · split at kind
    · cases kind
      rfl
    · cases kind

theorem handleServiceDiscoveryResponse_discovers (accept : Accept) (buf : Bytes) :
    (handleServiceDiscoveryResponse protobuf accept buf).Preserves State.Discovers := by
  refine .bind (.modify fun _ => ⟨⟨[], by simp, by simp⟩, rfl, rfl, rfl, rfl, rfl⟩) fun _ =>
    .forM _ fun entry _ => installHandler_preserves _ _
      (fun _ _ => ⟨⟨[], by simp, by simp⟩, rfl, rfl, rfl, rfl, rfl⟩) fun state =>
        ⟨⟨_, rfl, ?_⟩, rfl, rfl, rfl, rfl, rfl⟩
  intro handler membership input kind
  obtain rfl := List.mem_singleton.mp membership
  exact newHandler_unheard kind

theorem headunit_discovery {frame : State → State → Prop} {message : Message} {accept : Accept}
    {write : Nat → WriteResult}
    (framed : ∀ accept buf, (handleServiceDiscoveryResponse protobuf accept buf).Preserves frame)
    (discovery : isServiceDiscoveryResponse message = true)
    (took : (machine protobuf).step state (.headunit message accept write) =
      some (next, outputs)) : ∃ found, frame state found ∧ found.Quiet next := by
  refine ⟨_, ?_, (headunit_turn took).2⟩
  obtain ⟨high, low, rest, content, control, type⟩ := content_of_discovery discovery
  rw [handleMessageContent_control protobuf accept write state content control, type]
  exact framed _ _ _

theorem headunit_discovers {message : Message} {accept : Accept} {write : Nat → WriteResult}
    (discovery : isServiceDiscoveryResponse message = true)
    (took : (machine protobuf).step state (.headunit message accept write) =
      some (next, outputs)) : ∃ found, state.Discovers found ∧ found.Quiet next :=
  headunit_discovery handleServiceDiscoveryResponse_discovers discovery took

theorem finishStream_turn {body : ServerAct Unit} (quiet : body.Preserves State.Quiet)
    (silent : body.Emits Output.isEnqueue)
    (took : finishStream body state = some (next, outputs)) :
    state.Quiet next ∧ ∀ output ∈ outputs, output.isEnqueue := by
  unfold finishStream at took
  dsimp only at took
  split at took
  · cases took
    exact ⟨quiet state, silent state⟩
  · cases took

def Event.isBackground : Event → Prop
  | .sample _ _ | .streamStep _ | .threadTerminated => True
  | _ => False

theorem background_turn {event : Event}
    (took : (machine protobuf).step state event = some (next, outputs))
    (background : event.isBackground) :
    state.Quiet next ∧ ∀ output ∈ outputs, output.isEnqueue := by
  cases event with
  | sample pointer sample =>
      simp only [machine, step] at took
      split at took
      · exact finishStream_turn (newSample_quiet _ _ _) (newSample_enqueues _ _ _) took
      · cases took
  | streamStep pointer =>
      simp only [machine, step] at took
      split at took
      · split at took
        · split at took
          · exact finishStream_turn (streamOpen_quiet _ _ _ _ _) (streamOpen_enqueues _ _ _ _ _)
              took
          · cases took
        · cases took
      · cases took
  | threadTerminated =>
      cases took
      exact ⟨⟨rfl, rfl, rfl, rfl, rfl, rfl, rfl, fun _ => rfl, rfl⟩, by simp⟩
  | connect scl fd stack => exact background.elim
  | read scl reading write => exact background.elim
  | clientStep scl => exact background.elim
  | headunit message accept write => exact background.elim

theorem connect_turn {scl fd : Nat} {stack : Buffer}
    (took : (machine protobuf).step state (.connect scl fd stack) = some (next, outputs)) :
    state.sockets scl = none ∧ state.descriptors fd = none ∧
      next = state.accept scl fd stack ∧ outputs = [] := by
  simp only [machine, step] at took
  split at took
  next free =>
    cases took
    exact ⟨free.1, free.2, rfl, rfl⟩
  next => cases took

theorem clientStep_opening {scl : Nat}
    (took : (machine protobuf).step state (.clientStep scl) = some (next, outputs)) :
    ∃ client, state.sockets scl = some client ∧ client.thread ≠ .ended := by
  simp only [machine, step] at took
  split at took
  next => cases took
  next client present =>
    split at took
    next pointer openStep opening => exact ⟨client, present, by simp [opening]⟩
    next => cases took

end Others

end AAServer

end AACS
