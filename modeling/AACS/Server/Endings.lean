import AACS.Server.Process

/-!
How the thread of a client ends.

A turn of the thread lets it go on, or the thread ends because the client has left, or
because of an exception. `State.Spares` says beforehand which turns let it go on, and
`SocketTurn` what becomes of the set of clients.
-/

namespace AACS

namespace AAServer

open Effects

def ClientThread.hasEnded : ClientThread → Bool
  | .ended => true
  | _ => false

theorem hasEnded_eq_false {thread : ClientThread} : thread.hasEnded = false ↔ thread ≠ .ended := by
  cases thread <;> simp [ClientThread.hasEnded]

def State.ended (state : State) (scl : Nat) : Option Bool :=
  (state.sockets scl).map fun client => client.thread.hasEnded

def State.Serves (state : State) (write : Nat → WriteResult) (scl : Nat) (p : Packet) : Prop :=
  if p.packetType = PacketType.RawData.code then state.channelHandlers p.channelNumber ≠ none
  else ∃ bytes connection, state.reply p = some bytes ∧
    state.destination write scl = .ok connection

def State.Spares (protobuf : Protobuf) (state : State) : Event → Prop
  | .read scl reading write => reading ≠ .data [] ∧ ∀ client, state.sockets scl = some client →
      state.Serves write scl (client.packet reading)
  | .clientStep scl => ∀ client pointer handler input, state.sockets scl = some client →
      client.thread = .opening pointer .sendRequest → state.handlers[pointer]? = some handler →
      handler.kind = .input input →
      protobuf.inputChannelHandshakeRequest input.available_buttons ≠ none
  | _ => True

section Endings

variable {protobuf : Protobuf} {state next : State} {scl : Nat} {outputs : List Output}

structure State.SameThreads (before after : State) : Prop where
  socketClients : after.socketClients = before.socketClients
  ended : after.ended = before.ended

theorem State.SameThreads.trans {middle : State} (first : state.SameThreads middle)
    (second : middle.SameThreads next) : state.SameThreads next :=
  ⟨second.socketClients.trans first.socketClients, second.ended.trans first.ended⟩

theorem ended_of_sockets (sockets : ∀ scl, (next.sockets scl).map SocketClient.status =
    (state.sockets scl).map SocketClient.status) : next.ended = state.ended := by
  funext scl
  have same := congrArg (Option.map fun status => status.2.hasEnded) (sockets scl)
  rw [Option.map_map, Option.map_map] at same
  exact same

theorem State.Quiet.sameThreads (quiet : state.Quiet next) : state.SameThreads next :=
  ⟨quiet.socketClients, ended_of_sockets quiet.sockets⟩

theorem withThread_ended (present : (state.sockets scl).isSome) (thread : ClientThread) :
    (state.withThread scl thread).ended =
      Function.update state.ended scl (some thread.hasEnded) := by
  obtain ⟨client, found⟩ := Option.isSome_iff_exists.mp present
  funext other
  rw [State.ended, withThread_sockets found, Function.update_apply, Function.update_apply]
  split
  · rfl
  · rfl

theorem close_ended (present : (state.sockets scl).isSome) :
    (state.close scl).ended = Function.update state.ended scl (some true) := by
  obtain ⟨client, found⟩ := Option.isSome_iff_exists.mp present
  funext other
  rw [close_eq found, State.ended]
  dsimp only
  rw [Function.update_apply, Function.update_apply]
  split
  · rfl
  · rfl

theorem close_socketClients (state : State) (scl : Nat) :
    (state.close scl).socketClients = state.socketClients := by
  unfold State.close
  split <;> rfl

/-- How a turn of a client's thread ends that is no end of file: the thread goes on when the
client is served, and gets an exception otherwise. -/
inductive Ending (state : State) (served : Prop) : Outcome State Output Fault ClientThread → Prop
  | goesOn {thread : ClientThread} {after : State} {log : List Output} (isServed : served)
      (runs : thread ≠ .ended) (same : state.SameThreads after) :
      Ending state served ⟨.ok thread, after, log⟩
  | throws {exception : Thrown} {after : State} {log : List Output} (unserved : ¬ served)
      (same : state.SameThreads after) :
      Ending state served ⟨.error (.thrown exception), after, log⟩
  | undefined {after : State} {log : List Output} :
      Ending state served ⟨.error .undefinedBehaviour, after, log⟩

theorem gotPacket_ending {clientId : Int} (known : state.clients.lookup scl = some clientId)
    (write : Nat → WriteResult) (p : Packet) :
    Ending state (state.Serves write scl p) ((gotPacket write scl p).run state) := by
  have unchanged : state.SameThreads state := ⟨rfl, rfl⟩
  unfold State.Serves
  by_cases raw : p.packetType = PacketType.RawData.code
  · rw [if_pos raw, gotPacket_rawData write known raw]
    cases installed : state.channelHandlers p.channelNumber with
    | none => exact .throws (by simp) ⟨rfl, rfl⟩
    | some pointer =>
        dsimp only
        cases (state.handlers[pointer]?).map ChannelHandler.kind with
        | none => exact .undefined
        | some kind =>
            cases kind with
            | default => exact .goesOn (by simp) (by simp) unchanged
            | video video => exact .goesOn (by simp) (by simp) unchanged
            | input input => exact .goesOn (by simp) (by simp) ⟨rfl, rfl⟩
  · rw [if_neg raw]
    cases answer : state.reply p with
    | none =>
        obtain ⟨fault, outcome⟩ := gotPacket_unknown write scl raw answer
        rw [outcome]
        cases fault with
        | thrown exception => exact .throws (by simp) unchanged
        | undefinedBehaviour => exact .undefined
    | some bytes =>
        rw [gotPacket_request write scl answer]
        cases sent : state.destination write scl with
        | ok connection => exact .goesOn ⟨bytes, connection, rfl, rfl⟩ (by simp) unchanged
        | error errno =>
            obtain ⟨exception, thrown⟩ := writeFault_thrown errno
            simp only [thrown]
            exact .throws (by simp) unchanged

theorem openStep_unserialized {pointer : Nat} {handler : ChannelHandler}
    {input : InputChannelHandler} (installed : state.handlers[pointer]? = some handler)
    (kind : handler.kind = .input input)
    (refused : protobuf.inputChannelHandshakeRequest input.available_buttons = none) :
    ∃ exception, (OpenStep.sendRequest.run protobuf pointer).run state =
      ⟨.error (.thrown exception), state, []⟩ := by
  refine ⟨.aaRuntimeError "handshakeRequest.SerializeToArray failed", ?_⟩
  simp only [OpenStep.run, Act.run_bind, readHandler_run installed, Act.andThen_ok,
    ChannelHandler.sendRequest, kind, InputChannelHandler.sendHandshakeRequest, refused, throw,
    Act.run_throw, Act.andThen_error]
  rfl

theorem clientOpen_ending {clientId : Int} {client : SocketClient} {pointer : Nat}
    {openStep : OpenStep} (known : state.clients.lookup scl = some clientId)
    (present : state.sockets scl = some client)
    (opening : client.thread = .opening pointer openStep) :
    Ending state (state.Spares protobuf (.clientStep scl))
      ((clientOpen protobuf scl pointer openStep).run state) := by
  have quiet := openStep_quiet protobuf pointer openStep state
  rcases ran : (openStep.run protobuf pointer).run state with ⟨fault | further, after, log⟩
  · rw [ran] at quiet
    cases fault with
    | undefinedBehaviour =>
        rw [clientOpen_undefined ran]
        exact .undefined
    | thrown exception =>
        obtain ⟨rfl, rfl, handler, input, installed, kind, refused⟩ := openStep_throws ran
        rw [clientOpen_thrown ran known]
        refine .throws (fun spared => ?_) ⟨rfl, rfl⟩
        exact spared client pointer handler input present opening installed kind refused
  · rw [ran] at quiet
    obtain ⟨thread, runs, outcome⟩ := clientOpen_ok ran
    rw [outcome]
    refine .goesOn ?_ runs quiet.sameThreads
    intro other target handler input found atRequest installed kind refused
    rw [present] at found
    cases found
    rw [opening] at atRequest
    cases atRequest
    obtain ⟨exception, failed⟩ := @openStep_unserialized protobuf state _ _ _ installed kind refused
    rw [ran] at failed
    cases failed

inductive SocketTurn (protobuf : Protobuf) (state : State) (event : Event) (next : State) : Prop
  | accepts (scl fd : Nat) (stack : Buffer) (connects : event = .connect scl fd stack)
      (fresh : state.ended scl = none)
      (member : next.socketClients.Perm (scl :: state.socketClients))
      (ended : next.ended = Function.update state.ended scl (some false))
      (silent : state.closings protobuf event = [])
  | goesOn (spared : event.actor ≠ none → state.Spares protobuf event)
      (same : state.SameThreads next) (silent : state.closings protobuf event = [])
  | leaves (scl : Nat) (acts : event.actor = some scl) (unspared : ¬ state.Spares protobuf event)
      (ran : state.ended scl = some false)
      (member : next.socketClients = state.socketClients.erase scl)
      (ended : next.ended = Function.update state.ended scl (some true))
      (silent : state.closings protobuf event = [])
  | throws (scl : Nat) (acts : event.actor = some scl) (unspared : ¬ state.Spares protobuf event)
      (ran : state.ended scl = some false) (member : next.socketClients = state.socketClients)
      (ended : next.ended = Function.update state.ended scl (some true))
      (closed : state.closings protobuf event = [scl])

theorem Ending.turn {event : Event} {client : SocketClient} {body : ServerAct ClientThread}
    (acts : event.actor = some scl) (present : state.sockets scl = some client)
    (runs : client.thread ≠ .ended) (runsBody : state.clientBody protobuf event = some (scl, body))
    (ending : Ending state (state.Spares protobuf event) (body.run state))
    (took : finishClient scl body state = some (next, outputs)) :
    SocketTurn protobuf state event next := by
  have ran : state.ended scl = some false := by
    simp [State.ended, present, hasEnded_eq_false.mpr runs]
  have there {after : State} (same : state.SameThreads after) : (after.sockets scl).isSome := by
    have ended := congrFun same.ended scl
    rw [ran] at ended
    obtain ⟨later, found, -⟩ := Option.map_eq_some_iff.mp ended
    rw [found]
    rfl
  unfold finishClient at took
  generalize outcome : body.run state = result at ending took
  cases ending with
  | @goesOn thread after log spared alive same =>
      cases took
      refine .goesOn (fun _ => spared) ⟨same.socketClients, ?_⟩ ?_
      · calc (after.withThread scl thread).ended
          _ = Function.update after.ended scl (some thread.hasEnded) :=
              withThread_ended (there same) thread
          _ = Function.update state.ended scl (state.ended scl) := by
              rw [same.ended, hasEnded_eq_false.mpr alive, ran]
          _ = state.ended := Function.update_eq_self scl state.ended
      · simp only [State.closings, runsBody, outcome]
  | throws unspared same =>
      cases took
      refine .throws scl acts unspared ran ((close_socketClients _ scl).trans same.socketClients)
        ?_ ?_
      · rw [close_ended (there same), same.ended]
      · simp only [State.closings, runsBody, outcome]
  | undefined => cases took

theorem read_socketTurn {reading : Reading} {write : Nat → WriteResult} (named : state.Named)
    (took : (machine protobuf).step state (.read scl reading write) = some (next, outputs)) :
    SocketTurn protobuf state (.read scl reading write) next := by
  obtain ⟨client, present, ready⟩ := step_read_ready took
  have runs : client.thread ≠ .ended := by simp [ready]
  obtain ⟨clientId, known⟩ := named.known present runs
  have runsBody : state.clientBody protobuf (.read scl reading write) =
      some (scl, clientRead write scl client reading) := by
    simp [State.clientBody, present]
  by_cases eof : reading = .data []
  · subst eof
    rw [step_read_eof protobuf write present ready known] at took
    cases took
    refine .leaves scl rfl (fun spared => spared.1 rfl)
      (by simp [State.ended, present, hasEnded_eq_false.mpr runs]) rfl ?_ ?_
    · have kept : ((({ state with
        socketClients := state.socketClients.erase scl } : State).forget scl clientId).sockets
          scl).isSome := by
        change (state.sockets scl).isSome
        rw [present]
        rfl
      exact withThread_ended kept .ended
    · simp only [State.closings, runsBody, clientRead_eof write known]
  · have quiet := buffered_quiet state scl client reading
    have same := quiet.sameThreads
    have served : (state.buffered scl client reading).Serves write scl (client.packet reading) ↔
        state.Spares protobuf (.read scl reading write) := by
      unfold State.Spares State.Serves
      rw [quiet.channelHandlers, quiet.destination write scl]
      simp only [eof, ne_eq, not_false_eq_true, true_and, present, Option.some.injEq,
        forall_eq']
      rfl
    have knownToo : (state.buffered scl client reading).clients.lookup scl = some clientId := by
      rw [quiet.clients]
      exact known
    have ending := gotPacket_ending knownToo write (client.packet reading)
    rw [served, ← clientRead_packet write eof] at ending
    refine Ending.turn rfl present runs runsBody ?_ (step_read_body present ready took)
    generalize (clientRead write scl client reading).run state = outcome at ending
    cases ending with
    | goesOn spared alive kept => exact .goesOn spared alive (same.trans kept)
    | throws unspared kept => exact .throws unspared (same.trans kept)
    | undefined => exact .undefined

theorem clientStep_socketTurn (named : state.Named)
    (took : (machine protobuf).step state (.clientStep scl) = some (next, outputs)) :
    SocketTurn protobuf state (.clientStep scl) next := by
  simp only [machine, step] at took
  split at took
  next => cases took
  next client present =>
    split at took
    next pointer openStep opening =>
      split at took
      next => cases took
      next handler installed =>
        split at took
        next enabled =>
          have runs : client.thread ≠ .ended := by simp [opening]
          obtain ⟨clientId, known⟩ := named.known present runs
          have runsBody : state.clientBody protobuf (.clientStep scl) =
              some (scl, clientOpen protobuf scl pointer openStep) := by
            simp [State.clientBody, present, opening]
          exact (clientOpen_ending known present opening).turn rfl present runs runsBody took
        next => cases took
    next => cases took

theorem socketTurn {event : Event} (named : state.Named)
    (took : (machine protobuf).step state event = some (next, outputs)) :
    SocketTurn protobuf state event next := by
  cases event with
  | connect scl fd stack =>
      obtain ⟨fresh, -, rfl, -⟩ := connect_turn took
      refine .accepts scl fd stack rfl (by rw [State.ended, fresh]; rfl) ?_ ?_ rfl
      · exact List.perm_orderedInsert _ scl state.socketClients
      · funext other
        rw [State.accept, State.ended]
        dsimp only
        rw [Function.update_apply, Function.update_apply]
        split
        · rfl
        · rfl
  | read scl reading write => exact read_socketTurn named took
  | clientStep scl => exact clientStep_socketTurn named took
  | headunit message accept write =>
      refine .goesOn (fun acts => absurd rfl acts) ?_ rfl
      cases discovery : isServiceDiscoveryResponse message with
      | false => exact (headunit_quiet discovery took).sameThreads
      | true =>
          obtain ⟨found, discovers, quiet⟩ := headunit_discovers discovery took
          exact State.SameThreads.trans ⟨discovers.socketClients, by
            rw [show found.ended = state.ended from by
              unfold State.ended; rw [discovers.sockets]]⟩ quiet.sameThreads
  | sample | streamStep | threadTerminated =>
      exact .goesOn (fun acts => absurd rfl acts) (background_turn took trivial).1.sameThreads rfl

end Endings

end AAServer

end AACS
