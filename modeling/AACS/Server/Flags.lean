import AACS.Server.Accesses
import AACS.Server.Process

/-!
What the turns of the server do to one handler.

A property of a handler that its updates keep holds after a turn when it did before.
Which updates matter is in the hypotheses: the flags are set by the head unit's pump
only, and reset by the threads that open a channel.
-/

namespace AACS

namespace AAServer

open Effects

/-- The property has nothing to do with who is registered. -/
structure Settled (P : ChannelHandler → Prop) : Prop where
  registers : ∀ handler clientId, P handler → P (handler.updateInput (.registerClient clientId))
  disconnects : ∀ handler clientId, P handler → P (handler.disconnected clientId)

def State.HandsTo (state : State) (message : Message) (pointer : Nat) : Prop :=
  message.channel ≠ 0 ∧ state.channelHandlers message.channel = some pointer

/-- The handler keeps the property; the threads and the flag that ends the pump are the
same. -/
structure State.Holds (pointer : Nat) (P : ChannelHandler → Prop) (before after : State) :
    Prop where
  threadFinished : after.threadFinished = before.threadFinished
  threads : ∀ scl, (after.sockets scl).map SocketClient.thread =
    (before.sockets scl).map SocketClient.thread
  handler : ∀ handler, before.handlers[pointer]? = some handler → P handler →
    ∃ later, after.handlers[pointer]? = some later ∧ P later

def ChannelHandler.channelOpened (handler : ChannelHandler) : Bool :=
  match handler.kind with
  | .video video => video.channelOpened
  | _ => false

def OpenStep.next : OpenStep → Option OpenStep
  | .resetChannelOpen => some .sendChannelOpen
  | .sendChannelOpen => some .awaitChannelOpen
  | .awaitChannelOpen => some .resetAnswer
  | .resetAnswer => some .sendRequest
  | .sendRequest => some .awaitAnswer
  | .awaitAnswer => none

theorem openStep_next (protobuf : Protobuf) (pointer : Nat) (step : OpenStep) :
    (step.run protobuf pointer).Returns (· = step.next) := by
  cases step with
  | resetChannelOpen => exact .bind fun _ => .pure rfl
  | sendChannelOpen => exact .bind fun _ => .bind fun _ => .pure rfl
  | awaitChannelOpen => exact .pure rfl
  | resetAnswer => exact .bind fun _ => .pure rfl
  | sendRequest => exact .bind fun _ => .bind fun _ => .pure rfl
  | awaitAnswer => exact .pure rfl

theorem updateHandler_present {state : State} {pointer : Nat} {handler : ChannelHandler}
    (present : state.handlers[pointer]? = some handler)
    (update : ChannelHandler → ChannelHandler) :
    (state.updateHandler pointer update).handlers[pointer]? = some (update handler) := by
  rw [State.updateHandler, List.getElem?_modify_eq, present]
  rfl

theorem kind_updateInput {handler : ChannelHandler} {input : InputChannelHandler}
    (kind : handler.kind = .input input) (update : InputChannelHandler → InputChannelHandler) :
    (handler.updateInput update).kind = .input (update input) := by
  rw [ChannelHandler.updateInput, kind]

variable {pointer : Nat} {P : ChannelHandler → Prop}

instance : Std.Refl (State.Holds pointer P) :=
  ⟨fun _ => ⟨rfl, fun _ => rfl, fun handler present holds => ⟨handler, present, holds⟩⟩⟩

instance : IsTrans State (State.Holds pointer P) where
  trans _ _ _ first second := by
    refine ⟨second.threadFinished.trans first.threadFinished,
      fun scl => (second.threads scl).trans (first.threads scl), fun handler present holds => ?_⟩
    obtain ⟨later, found, kept⟩ := first.handler handler present holds
    exact second.handler later found kept

section Bodies

theorem writeHandler_holds {target : Nat} {update : ChannelHandler → ChannelHandler}
    (kept : target = pointer → ∀ handler, P handler → P (update handler)) :
    (writeHandler target update).Preserves (State.Holds pointer P) := by
  refine .modify fun state => ⟨rfl, fun _ => rfl, fun handler present holds => ?_⟩
  simp only [State.updateHandler, List.getElem?_modify, present]
  split
  next same => exact ⟨update handler, rfl, kept same handler holds⟩
  next => exact ⟨handler, rfl, holds⟩

theorem readHandler_holds (target : Nat) :
    (readHandler target).Preserves (State.Holds pointer P) := by
  refine .bind .get fun state => ?_
  split
  · exact .pure _
  · exact .throw _

theorem messageType_holds (content : Bytes) :
    (messageType content).Preserves (State.Holds pointer P) := by
  unfold messageType
  split
  · exact .pure _
  · exact .throw _

theorem sendMessage_holds (write : Nat → WriteResult) (scl : Nat) (msg : Bytes) :
    (SocketClient.sendMessage write scl msg).Preserves (State.Holds pointer P) := by
  refine .bind .get fun state => ?_
  split
  · exact .emit _
  · exact .throw _

theorem gotMessage_holds (write : Nat → WriteResult) (clientId : Int) (channel : UInt8)
    (specific : Bool) (content : Bytes) :
    (gotMessage write clientId channel specific content).Preserves (State.Holds pointer P) :=
  .of_eq fun state => by rw [gotMessage_run]; rfl

theorem sendRequest_holds (protobuf : Protobuf) (handler : ChannelHandler) :
    (handler.sendRequest protobuf).Preserves (State.Holds pointer P) := by
  unfold ChannelHandler.sendRequest
  split
  · exact .pure _
  · exact .emit _
  · unfold InputChannelHandler.sendHandshakeRequest
    split
    · exact .throw _
    · exact .emit _

theorem openStep_holds (protobuf : Protobuf) (target : Nat) (step : OpenStep)
    (reopens : step = .resetChannelOpen → target = pointer →
      ∀ handler, P handler → P { handler with gotChannelOpenResponse := false })
    (resets : step = .resetAnswer → target = pointer →
      ∀ handler, P handler → P (handler.setAnswered false)) :
    (step.run protobuf target).Preserves (State.Holds pointer P) := by
  cases step with
  | resetChannelOpen => exact .bind (writeHandler_holds (reopens rfl)) fun _ => .pure _
  | sendChannelOpen =>
      exact .bind (readHandler_holds _) fun _ => .bind (.emit _) fun _ => .pure _
  | awaitChannelOpen => exact .pure _
  | resetAnswer => exact .bind (writeHandler_holds (resets rfl)) fun _ => .pure _
  | sendRequest =>
      exact .bind (readHandler_holds _) fun handler => .bind (sendRequest_holds _ handler) fun _ =>
        .pure _
  | awaitAnswer => exact .pure _

theorem clientIdOf_holds (scl : Nat) : (clientIdOf scl).Preserves (State.Holds pointer P) := by
  refine .bind .get fun state => ?_
  split
  · exact .pure _
  · exact .bind (.modify fun _ => ⟨rfl, fun _ => rfl, fun handler present holds =>
      ⟨handler, present, holds⟩⟩) fun _ => .pure _

theorem installHandler_holds (linked : Bool) (channel : Channel) :
    (installHandler linked channel).Preserves (State.Holds pointer P) := by
  refine installHandler_preserves _ _
    (fun state types => ⟨rfl, fun _ => rfl, fun handler present holds =>
      ⟨handler, present, holds⟩⟩)
    fun state => ⟨rfl, fun _ => rfl, fun handler present holds => ?_⟩
  refine ⟨handler, ?_, holds⟩
  rw [List.getElem?_append_left (List.getElem?_eq_some_iff.mp present).1, present]

theorem handleVersionRequest_holds (buf : Bytes) :
    (handleVersionRequest buf).Preserves (State.Holds pointer P) := by
  unfold handleVersionRequest
  split
  · split
    · exact .emit _
    · exact .throw _
  · exact .throw _

theorem handlePingRequest_holds (protobuf : Protobuf) (buf : Bytes) :
    (handlePingRequest protobuf buf).Preserves (State.Holds pointer P) := by
  unfold handlePingRequest
  split
  · exact .throw _
  · exact .emit _

section Clients

variable (settled : Settled P)

include settled

theorem disconnected_holds (clientId : Int) :
    (disconnected clientId).Preserves (State.Holds pointer P) := by
  refine .modify fun state => ⟨rfl, fun _ => rfl, fun handler present holds => ?_⟩
  simp only [List.getElem?_mapIdx, present, Option.map_some, Option.some.injEq, exists_eq_left']
  split
  · exact settled.disconnects handler clientId holds
  · exact holds

theorem removeClient_holds (scl : Nat) :
    (removeClient scl).Preserves (State.Holds pointer P) :=
  .bind (clientIdOf_holds scl) fun clientId => .bind (disconnected_holds settled clientId)
    fun _ => .modify fun _ => ⟨rfl, fun _ => rfl, fun handler present holds =>
      ⟨handler, present, holds⟩⟩

theorem guarded_holds {scl : Nat} {body : ServerAct ClientThread}
    (kept : body.Preserves (State.Holds pointer P)) :
    (guarded scl body).Preserves (State.Holds pointer P) :=
  .tryCatch kept fun _ => .bind (removeClient_holds settled scl) fun _ => .throw _

theorem clientOpen_holds (protobuf : Protobuf) (scl target : Nat) (step : OpenStep)
    (reopens : step = .resetChannelOpen → target = pointer →
      ∀ handler, P handler → P { handler with gotChannelOpenResponse := false })
    (resets : step = .resetAnswer → target = pointer →
      ∀ handler, P handler → P (handler.setAnswered false)) :
    (clientOpen protobuf scl target step).Preserves (State.Holds pointer P) := by
  refine guarded_holds settled (.bind (openStep_holds protobuf target step reopens resets)
    fun next => ?_)
  split
  · exact .pure _
  · exact .pure _

theorem handleMessageFromClient_holds (target : Nat) (clientId : Int) (channelId : UInt8)
    (specific : Bool) (data : Bytes) :
    (handleMessageFromClient target clientId channelId specific data).Preserves
      (State.Holds pointer P) := by
  refine .bind (readHandler_holds target) fun base => ?_
  split
  · exact .bind (.emit _) fun _ => .pure _
  · exact .pure _
  · exact .bind (writeHandler_holds fun _ handler => settled.registers handler clientId) fun _ =>
      .pure _

theorem gotPacket_holds (write : Nat → WriteResult) (scl : Nat) (p : Packet) :
    (gotPacket write scl p).Preserves (State.Holds pointer P) := by
  unfold gotPacket
  split
  · refine .bind (.bind .get fun state => ?_) fun _ => .bind (sendMessage_holds _ _ _) fun _ =>
      .pure _
    split
    · exact .pure _
    · split
      · exact .pure _
      · exact .throw _
  split
  · refine guarded_holds settled (.bind (clientIdOf_holds scl) fun clientId =>
      .bind .get fun state => ?_)
    split
    · exact .throw _
    · exact handleMessageFromClient_holds settled _ _ _ _ _
  split
  · exact .bind .get fun _ => .bind (sendMessage_holds _ _ _) fun _ => .pure _
  · exact .throw _

theorem clientRead_holds (write : Nat → WriteResult) (scl : Nat) (client : SocketClient)
    (reading : Reading) :
    (clientRead write scl client reading).Preserves (State.Holds pointer P) := by
  unfold clientRead
  split
  · exact .bind (.modify fun _ => ⟨rfl, fun _ => rfl, fun handler present holds =>
      ⟨handler, present, holds⟩⟩) fun _ => .bind (removeClient_holds settled scl) fun _ => .pure _
  · refine .bind (.modify fun state => ⟨rfl, fun other => ?_, fun handler present holds =>
      ⟨handler, present, holds⟩⟩) fun _ => gotPacket_holds settled _ _ _
    simp only [State.updateSocket, Function.update_apply]
    split
    next same =>
      subst same
      rw [Option.map_map]
      rfl
    next => rfl

end Clients

section Streams

theorem newSample_holds (target : Nat) (channelId : UInt8) (sample : Sample)
    (streams : target = pointer → ∀ handler update, P handler → P (handler.updateVideo update)) :
    (newSample target channelId sample).Preserves (State.Holds pointer P) := by
  refine .bind .get fun state => ?_
  split
  · exact writeHandler_holds fun same handler => streams same handler _
  · exact .emit _

theorem streamOpen_holds (protobuf : Protobuf) (target : Nat) (channelId : UInt8) (step : OpenStep)
    (sample : Sample)
    (streams : target = pointer → ∀ handler update, P handler → P (handler.updateVideo update))
    (reopens : step = .resetChannelOpen → target = pointer →
      ∀ handler, P handler → P { handler with gotChannelOpenResponse := false })
    (resets : step = .resetAnswer → target = pointer →
      ∀ handler, P handler → P (handler.setAnswered false)) :
    (streamOpen protobuf target channelId step sample).Preserves (State.Holds pointer P) := by
  refine .bind (openStep_holds protobuf target step reopens resets) fun next => ?_
  split
  · exact writeHandler_holds fun same handler => streams same handler _
  · exact .bind (.emit _) fun _ => .bind (.modify fun _ => ⟨rfl, fun _ => rfl,
      fun handler present holds => ⟨handler, present, holds⟩⟩) fun _ =>
        writeHandler_holds fun same handler => streams same handler _

end Streams

section Headunit

theorem messageType_returns (content : Bytes) :
    (messageType content).Returns fun type => typeOf content = some type := by
  unfold messageType
  split
  · exact .pure rfl
  · exact .throw _

theorem setupResponse_code :
    MediaMessageType.SetupResponse.code = InputChannelMessageType.HandshakeResponse.code := rfl

variable {target : Nat} {message : Message}

theorem baseHandler_holds
    (opens : target = pointer → typeOf message.content = some MessageType.ChannelOpenResponse.code →
      ∀ handler, P handler → P { handler with gotChannelOpenResponse := true }) :
    (ChannelHandler.handleMessageFromHeadunit target message).Preserves
      (State.Holds pointer P) := by
  refine .bind_returns (messageType_holds _) (messageType_returns _) fun type found => ?_
  split
  next isResponse =>
    exact .bind (writeHandler_holds fun same => opens same (isResponse ▸ found)) fun _ => .pure _
  next => exact .pure _

theorem handleMessageFromHeadunit_holds (write : Nat → WriteResult)
    (opens : target = pointer → typeOf message.content = some MessageType.ChannelOpenResponse.code →
      ∀ handler, P handler → P { handler with gotChannelOpenResponse := true })
    (answers : target = pointer →
      typeOf message.content = some InputChannelMessageType.HandshakeResponse.code →
      ∀ handler, P handler → P (handler.setAnswered true)) :
    (handleMessageFromHeadunit write target message).Preserves (State.Holds pointer P) := by
  refine .bind (readHandler_holds target) fun base => ?_
  split
  · exact .bind (gotMessage_holds _ _ _ _ _) fun _ => .pure _
  · unfold VideoChannelHandler.handleMessageFromHeadunit
    split
    · exact .bind (gotMessage_holds _ _ _ _ _) fun _ => .pure _
    refine .bind (baseHandler_holds opens) fun handled => ?_
    split
    · exact .pure _
    refine .bind_returns (messageType_holds _) (messageType_returns _) fun type found => ?_
    split
    next isResponse =>
      have answered := (isResponse.trans setupResponse_code) ▸ found
      exact .bind (writeHandler_holds fun same => answers same answered) fun _ => .pure _
    next =>
      split
      · exact .bind (.emit _) fun _ => .pure _
      · exact .pure _
  · refine .bind (baseHandler_holds opens) fun handled => ?_
    split
    · exact .pure _
    refine .bind_returns (messageType_holds _) (messageType_returns _) fun type found => ?_
    split
    next isResponse =>
      exact .bind (writeHandler_holds fun same => answers same (isResponse ▸ found)) fun _ =>
        .pure _
    next =>
      split
      · exact .bind (.forM _ fun rc _ => gotMessage_holds _ _ _ _ _) fun _ => .pure _
      · exact .pure _

theorem handleChannelMessage_holds {state : State} (write : Nat → WriteResult)
    (opens : state.HandsTo message pointer →
      typeOf message.content = some MessageType.ChannelOpenResponse.code →
      ∀ handler, P handler → P { handler with gotChannelOpenResponse := true })
    (answers : state.HandsTo message pointer →
      typeOf message.content = some InputChannelMessageType.HandshakeResponse.code →
      ∀ handler, P handler → P (handler.setAnswered true)) :
    State.Holds pointer P state ((handleChannelMessage write message).run state).state := by
  rcases content : message.content with _ | ⟨high, _ | ⟨low, rest⟩⟩
  · rw [handleChannelMessage, content]
    exact refl state
  · rw [handleChannelMessage, content]
    exact refl state
  by_cases control : message.channel = 0
  · have delivered : (handleChannelMessage write message).Preserves (State.Holds pointer P) := by
      refine .bind (messageType_holds _) fun type => ?_
      rw [if_neg (not_not.mpr control)]
      exact gotMessage_holds _ _ _ _ _
    exact delivered state
  cases installed : state.channelHandlers message.channel with
  | none =>
      have unhandled : ((handleChannelMessage write message).run state).state = state := by
        simp only [handleChannelMessage, content, ne_eq, control, not_false_eq_true, if_true,
          Act.run_bind, messageType_run, Act.andThen_ok, Act.run_get, installed]
        rfl
      rw [unhandled]
      exact refl state
  | some target =>
      rw [handleChannelMessage_run write content control installed]
      have framed : ((handleMessageFromHeadunit write target message) >>= fun handled =>
          if handled then pure ()
          else throw (.aaRuntimeError ("Unknown packet on channel " ++
            toString message.channel.toNat ++ " with message type " ++
            toString (bigEndian16 high low).toNat))).Preserves (State.Holds pointer P) := by
        refine .bind (handleMessageFromHeadunit_holds write (fun same => opens ⟨control, ?_⟩)
          (fun same => answers ⟨control, ?_⟩)) fun handled => ?_
        · rw [installed, same]
        · rw [installed, same]
        · split
          · exact .pure _
          · exact .throw _
      exact framed state

theorem handleMessageContent_holds {state : State} (protobuf : Protobuf) (accept : Accept)
    (write : Nat → WriteResult)
    (opens : state.HandsTo message pointer →
      typeOf message.content = some MessageType.ChannelOpenResponse.code →
      ∀ handler, P handler → P { handler with gotChannelOpenResponse := true })
    (answers : state.HandsTo message pointer →
      typeOf message.content = some InputChannelMessageType.HandshakeResponse.code →
      ∀ handler, P handler → P (handler.setAnswered true)) :
    State.Holds pointer P state
      ((handleMessageContent protobuf accept write message).run state).state := by
  have routed := handleChannelMessage_holds write opens answers
  rcases content : message.content with _ | ⟨high, _ | ⟨low, rest⟩⟩
  · rw [handleMessageContent_short protobuf accept write state (by simp [content])]
    exact refl state
  · rw [handleMessageContent_short protobuf accept write state (by simp [content])]
    exact refl state
  by_cases control : message.channel = 0
  · rw [handleMessageContent_control protobuf accept write state content control]
    split
    · exact routed
    split
    · exact handleVersionRequest_holds rest state
    split
    · refine Act.Preserves.bind (.modify fun _ => ⟨rfl, fun _ => rfl, fun handler present holds =>
        ⟨handler, present, holds⟩⟩) (fun _ => ?_) state
      split
      · exact .emit _
      · exact .throw _
    split
    · exact Act.Preserves.emit _ state
    split
    · exact Act.Preserves.bind (.modify fun _ => ⟨rfl, fun _ => rfl, fun handler present holds =>
        ⟨handler, present, holds⟩⟩) (fun _ => .forM _ fun _ _ => installHandler_holds _ _)
          state
    split
    · exact handlePingRequest_holds protobuf rest state
    · exact Act.Preserves.throw _ state
  · rw [handleMessageContent_ordinary protobuf accept write state content control]
    exact routed

end Headunit

end Bodies

section Turns

variable {protobuf : Protobuf} {state next : State} {scl : Nat} {outputs : List Output}
  {event : Event}

theorem finishClient_after {body : ServerAct ClientThread}
    (took : finishClient scl body state = some (next, outputs)) :
    next.threadFinished = (body.run state).state.threadFinished ∧
      next.handlers = (body.run state).state.handlers ∧
      (∀ other, other ≠ scl → next.sockets other = (body.run state).state.sockets other) ∧
      ∀ client, next.sockets scl = some client →
        client.thread = .ended ∨ (body.run state).result = .ok client.thread := by
  unfold finishClient at took
  dsimp only at took
  split at took
  next thread ended =>
    cases took
    refine ⟨rfl, rfl, fun other different => withThread_other _ _ different, fun client found => ?_⟩
    rw [State.updateSocket] at found
    dsimp only at found
    rw [Function.update_self] at found
    obtain ⟨old, -, rfl⟩ := Option.map_eq_some_iff.mp found
    exact .inr ended
  next exception ended =>
    cases took
    cases present : (body.run state).state.sockets scl with
    | none =>
        have unchanged : (body.run state).state.close scl = (body.run state).state := by
          rw [State.close, present]
        rw [unchanged]
        refine ⟨rfl, rfl, fun _ _ => rfl, fun client found => ?_⟩
        rw [present] at found
        cases found
    | some old =>
        rw [close_eq present]
        refine ⟨rfl, rfl, fun other different => Function.update_of_ne different _ _,
          fun client found => ?_⟩
        dsimp only at found
        rw [Function.update_self] at found
        cases found
        exact .inl rfl
  next => cases took

theorem finishPump_handlers {body : ServerAct Unit}
    (took : finishPump body state = some (next, outputs)) :
    next.handlers = (body.run state).state.handlers := by
  unfold finishPump at took
  dsimp only at took
  split at took
  · cases took
    rfl
  · cases took
    rfl
  · cases took

theorem finishStream_after {body : ServerAct Unit}
    (took : finishStream body state = some (next, outputs)) : next = (body.run state).state := by
  unfold finishStream at took
  dsimp only at took
  split at took
  · cases took
    rfl
  · cases took

/-- The statement that a turn runs, and the handler whose channel it opens. -/
def State.openingAt (state : State) : Event → Option (Nat × OpenStep)
  | .clientStep scl =>
      match (state.sockets scl).map SocketClient.thread with
      | some (.opening pointer step) => some (pointer, step)
      | _ => none
  | .streamStep pointer =>
      match (state.handlers[pointer]?).map ChannelHandler.kind with
      | some (.video { stream := some (step, _), .. }) => some (pointer, step)
      | _ => none
  | _ => none

theorem clientStep_body (took : (machine protobuf).step state (.clientStep scl) =
      some (next, outputs)) :
    ∃ client pointer step handler, state.sockets scl = some client ∧
      client.thread = .opening pointer step ∧ state.handlers[pointer]? = some handler ∧
      step.enabled handler = true ∧
      finishClient scl (clientOpen protobuf scl pointer step) state = some (next, outputs) := by
  simp only [machine, AAServer.step] at took
  split at took
  next => cases took
  next client present =>
    split at took
    next pointer openStep opening =>
      split at took
      next => cases took
      next handler installed =>
        split at took
        next enabled =>
          exact ⟨client, pointer, openStep, handler, present, opening, installed, enabled, took⟩
        next => cases took
    next => cases took

theorem streamStep_body {pointer : Nat}
    (took : (machine protobuf).step state (.streamStep pointer) = some (next, outputs)) :
    ∃ handler video step sample, state.handlers[pointer]? = some handler ∧
      handler.kind = .video video ∧ video.stream = some (step, sample) ∧
      step.enabled handler = true ∧
      finishStream (streamOpen protobuf pointer handler.channelId step sample) state =
        some (next, outputs) := by
  simp only [machine, AAServer.step] at took
  split at took
  next handler present =>
    split at took
    next channelOpened gotSetupResponse openStep sample kind =>
      split at took
      next enabled => exact ⟨handler, _, openStep, sample, present, kind, rfl, enabled, took⟩
      next => cases took
    next => cases took
  next => cases took

theorem sample_body {pointer : Nat} {sample : Sample}
    (took : (machine protobuf).step state (.sample pointer sample) = some (next, outputs)) :
    ∃ handler video, state.handlers[pointer]? = some handler ∧ handler.kind = .video video ∧
      video.stream = none ∧
      finishStream (newSample pointer handler.channelId sample) state = some (next, outputs) := by
  simp only [machine, AAServer.step] at took
  split at took
  next channelId flag channelOpened gotSetupResponse present =>
    exact ⟨_, _, present, rfl, rfl, took⟩
  next => cases took

def Event.streams : Event → Option Nat
  | .sample pointer _ | .streamStep pointer => some pointer
  | _ => none

/-- What a turn does to a handler: a property that it had it has, unless the turn is about
it. -/
theorem step_handler {pointer : Nat} {P : ChannelHandler → Prop} (settled : Settled P)
    (streams : event.streams = some pointer →
      ∀ handler update, P handler → P (handler.updateVideo update))
    (reopens : state.openingAt event = some (pointer, .resetChannelOpen) →
      ∀ handler, P handler → P { handler with gotChannelOpenResponse := false })
    (resets : state.openingAt event = some (pointer, .resetAnswer) →
      ∀ handler, P handler → P (handler.setAnswered false))
    (opens : ∀ message accept write, event = .headunit message accept write →
      state.threadFinished = false → state.HandsTo message pointer →
      typeOf message.content = some MessageType.ChannelOpenResponse.code →
      ∀ handler, P handler → P { handler with gotChannelOpenResponse := true })
    (answers : ∀ message accept write, event = .headunit message accept write →
      state.threadFinished = false → state.HandsTo message pointer →
      typeOf message.content = some InputChannelMessageType.HandshakeResponse.code →
      ∀ handler, P handler → P (handler.setAnswered true))
    (took : (machine protobuf).step state event = some (next, outputs)) {handler : ChannelHandler}
    (present : state.handlers[pointer]? = some handler) (holds : P handler) :
    ∃ later, next.handlers[pointer]? = some later ∧ P later := by
  cases event with
  | connect scl fd stack =>
      obtain ⟨-, -, rfl, -⟩ := connect_turn took
      exact ⟨handler, present, holds⟩
  | read scl reading write =>
      obtain ⟨client, there, ready⟩ := step_read_ready took
      obtain ⟨-, handlers, -⟩ := finishClient_after (step_read_body there ready took)
      rw [handlers]
      exact (clientRead_holds settled write scl client reading state).handler handler present holds
  | clientStep scl =>
      obtain ⟨client, target, step, other, there, opening, -, -, ran⟩ := clientStep_body took
      obtain ⟨-, handlers, -⟩ := finishClient_after ran
      have at_ : state.openingAt (.clientStep scl) = some (target, step) := by
        simp [State.openingAt, there, opening]
      rw [handlers]
      exact (clientOpen_holds settled protobuf scl target step
        (fun isStep same => reopens (by rw [at_, isStep, same]))
        (fun isStep same => resets (by rw [at_, isStep, same])) state).handler handler present holds
  | headunit message accept write =>
      simp only [machine, AAServer.step] at took
      split at took
      next => cases took
      next running =>
        have active : state.threadFinished = false := by simpa using running
        obtain ⟨later, found, kept⟩ := (handleMessageContent_holds protobuf accept write
          (opens message accept write rfl active) (answers message accept write rfl active)).handler
            handler present holds
        refine ⟨later, ?_, kept⟩
        rw [finishPump_handlers took]
        exact found
  | sample target sample =>
      obtain ⟨other, video, -, -, -, ran⟩ := sample_body took
      rw [finishStream_after ran]
      exact (newSample_holds target other.channelId sample
        (fun same => streams (congrArg some same)) state).handler handler present holds
  | streamStep target =>
      obtain ⟨other, video, step, sample, there, kind, stream, -, ran⟩ := streamStep_body took
      rw [finishStream_after ran]
      have at_ : state.openingAt (.streamStep target) = some (target, step) := by
        obtain ⟨channelOpened, gotSetupResponse, running⟩ := video
        subst stream
        simp [State.openingAt, there, kind]
      exact (streamOpen_holds protobuf target other.channelId step sample
        (fun same => streams (congrArg some same))
        (fun isStep same => reopens (by rw [at_, isStep, same]))
        (fun isStep same => resets (by rw [at_, isStep, same])) state).handler handler present holds
  | threadTerminated =>
      cases took
      exact ⟨handler, present, holds⟩

/-- Only the end of a thread of the communicator moves the flag for it. -/
theorem quiet_threadFinished (took : (machine protobuf).step state event = some (next, outputs))
    (headunit : ∀ message accept write, event ≠ .headunit message accept write)
    (terminated : event ≠ .threadTerminated) : next.threadFinished = state.threadFinished := by
  have settled : Settled fun _ => True := ⟨fun _ _ _ => trivial, fun _ _ _ => trivial⟩
  cases event with
  | connect scl fd stack =>
      obtain ⟨-, -, rfl, -⟩ := connect_turn took
      rfl
  | read scl reading write =>
      obtain ⟨client, there, ready⟩ := step_read_ready took
      obtain ⟨same, -⟩ := finishClient_after (step_read_body there ready took)
      exact same.trans (@clientRead_holds 0 _ settled write scl client reading
        state).threadFinished
  | clientStep scl =>
      obtain ⟨client, pointer, step, handler, -, -, -, -, ran⟩ := clientStep_body took
      obtain ⟨same, -⟩ := finishClient_after ran
      exact same.trans (@clientOpen_holds 0 _ settled protobuf scl pointer step
        (fun _ _ _ _ => trivial) (fun _ _ _ _ => trivial) state).threadFinished
  | headunit message accept write => exact absurd rfl (headunit message accept write)
  | sample pointer sample =>
      obtain ⟨handler, video, -, -, -, ran⟩ := sample_body took
      rw [finishStream_after ran]
      exact (@newSample_holds 0 (fun _ => True) pointer handler.channelId sample
        (fun _ _ _ _ => trivial) state).threadFinished
  | streamStep pointer =>
      obtain ⟨handler, video, step, sample, -, -, -, -, ran⟩ := streamStep_body took
      rw [finishStream_after ran]
      exact (@streamOpen_holds 0 (fun _ => True) protobuf pointer handler.channelId step sample
        (fun _ _ _ _ => trivial) (fun _ _ _ _ => trivial) (fun _ _ _ _ => trivial)
          state).threadFinished
  | threadTerminated => exact absurd rfl terminated

theorem step_threadFinished (took : (machine protobuf).step state event = some (next, outputs))
    (finished : state.threadFinished = true) : next.threadFinished = true := by
  cases event with
  | headunit message accept write =>
      simp only [machine, AAServer.step, finished, if_true] at took
      cases took
  | threadTerminated =>
      cases took
      rfl
  | connect | read | clientStep | sample | streamStep =>
      exact (quiet_threadFinished took (by simp) (by simp)).trans finished

end Turns

end AAServer

end AACS
