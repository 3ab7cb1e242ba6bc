import AACS.Server.Flags

/-!
Threads that wait while the process ends.

The thread of a client that opens an input channel waits for answers that only the head
unit's pump can take. When the pump has ended, nothing sets the flags any more, and the
destructor waits for the thread for ever. It does not come to that exactly when all
threads inside a handler have their last answer when the pump ends, and none goes into
one later.
-/

namespace AACS

namespace AAServer

open Effects Transitions

def State.BlockedAt (state : State) (scl pointer : Nat) (step : OpenStep) : Prop :=
  ∃ client handler, state.sockets scl = some client ∧ client.thread = .opening pointer step ∧
    state.handlers[pointer]? = some handler ∧ step.enabled handler = false

/-- The threads of the communicator have ended and the destructors run, and a client's
thread waits for a flag that nothing that can still happen sets. -/
structure Process.Stuck (protobuf : Protobuf) (current : Process) (scl : Nat) : Prop where
  ended : current.server.threadFinished = true
  begun : current.main ≠ .waiting
  blocked : ∃ pointer step, current.server.BlockedAt scl pointer step ∧
    ∀ events later trace, (process protobuf).run current events = some (later, trace) →
      ∀ handler, later.server.handlers[pointer]? = some handler → step.enabled handler = false

def ChannelHandler.Handshaken (handler : ChannelHandler) : Prop :=
  ∃ input, handler.kind = .input input ∧ input.gotHandshakeResponse = true

/-- The threads inside an input handler have asked for the last answer, or are about to, and
the flag for it is set. -/
def State.Answered (state : State) : Prop :=
  ∀ scl client pointer step, state.sockets scl = some client →
    client.thread = .opening pointer step →
    (step = .sendRequest ∨ step = .awaitAnswer) ∧
      ∃ handler, state.handlers[pointer]? = some handler ∧ handler.Handshaken

/-- The event ends the threads of the communicator: one of them fails, or the handling of a
message does. -/
def State.EndsThreads (protobuf : Protobuf) (state : State) : Event → Prop
  | .threadTerminated => True
  | .headunit message accept write => ∃ exception,
      ((handleMessageContent protobuf accept write message).run state).result =
        .error (.thrown exception)
  | _ => False

def State.OpensInput (state : State) : Event → Prop
  | .read scl reading _ => reading ≠ .data [] ∧ ∃ client handler input,
      state.sockets scl = some client ∧
      (client.packet reading).packetType = PacketType.RawData.code ∧
      state.handlerAt (client.packet reading).channelNumber = some handler ∧
      handler.kind = .input input
  | _ => False

/-- All threads have their answers when the pump ends, and none opens a channel later. -/
def Prepared (protobuf : Protobuf) (current : Process) : ProcessEvent → Prop
  | .server event => (current.server.EndsThreads protobuf event → current.server.Answered) ∧
      (current.server.threadFinished = true → ¬ current.server.OpensInput event)
  | _ => True

section Handlers

theorem updateVideo_input {handler : ChannelHandler} {input : InputChannelHandler}
    (kind : handler.kind = .input input) (update : VideoChannelHandler → VideoChannelHandler) :
    handler.updateVideo update = handler := by
  rw [ChannelHandler.updateVideo, kind]

theorem handshaken_settled : Settled ChannelHandler.Handshaken where
  registers handler clientId := by
    rintro ⟨input, kind, set⟩
    exact ⟨_, kind_updateInput kind _, set⟩
  disconnects handler clientId := by
    rintro ⟨input, kind, set⟩
    exact ⟨_, kind_updateInput kind _, set⟩

theorem handshaken_updateVideo (handler : ChannelHandler)
    (update : VideoChannelHandler → VideoChannelHandler) (handshaken : handler.Handshaken) :
    (handler.updateVideo update).Handshaken := by
  obtain ⟨input, kind, set⟩ := handshaken
  rw [updateVideo_input kind]
  exact ⟨input, kind, set⟩

theorem handshaken_setAnswered (handler : ChannelHandler) (handshaken : handler.Handshaken) :
    (handler.setAnswered true).Handshaken := by
  obtain ⟨input, kind, set⟩ := handshaken
  rw [ChannelHandler.setAnswered, kind]
  exact ⟨_, rfl, rfl⟩

def OpenStep.Unset (step : OpenStep) (handler : ChannelHandler) : Prop :=
  (∃ input, handler.kind = .input input) ∧ step.enabled handler = false

theorem enabled_updateInput {handler : ChannelHandler} {input : InputChannelHandler}
    (kind : handler.kind = .input input) {update : InputChannelHandler → InputChannelHandler}
    (same : (update input).gotHandshakeResponse = input.gotHandshakeResponse) (step : OpenStep) :
    step.enabled (handler.updateInput update) = step.enabled handler := by
  obtain ⟨channelId, flag, other⟩ := handler
  cases kind
  cases step <;> first | rfl | exact same

theorem unset_settled (step : OpenStep) : Settled step.Unset where
  registers handler clientId := by
    rintro ⟨⟨input, kind⟩, unset⟩
    exact ⟨⟨_, kind_updateInput kind _⟩, (enabled_updateInput kind (by rfl) step).trans unset⟩
  disconnects handler clientId := by
    rintro ⟨⟨input, kind⟩, unset⟩
    exact ⟨⟨_, kind_updateInput kind _⟩, (enabled_updateInput kind (by rfl) step).trans unset⟩

theorem unset_updateVideo {step : OpenStep} (handler : ChannelHandler)
    (update : VideoChannelHandler → VideoChannelHandler) (unset : step.Unset handler) :
    step.Unset (handler.updateVideo update) := by
  obtain ⟨⟨input, kind⟩, waits⟩ := unset
  rw [updateVideo_input kind]
  exact ⟨⟨input, kind⟩, waits⟩

theorem unset_reopened {step : OpenStep} (handler : ChannelHandler) (unset : step.Unset handler) :
    step.Unset { handler with gotChannelOpenResponse := false } := by
  obtain ⟨⟨input, kind⟩, waits⟩ := unset
  refine ⟨⟨input, kind⟩, ?_⟩
  cases step with
  | awaitChannelOpen => rfl
  | awaitAnswer => exact waits
  | resetChannelOpen | sendChannelOpen | resetAnswer | sendRequest => cases waits

theorem unset_reset {step : OpenStep} (handler : ChannelHandler) (unset : step.Unset handler) :
    step.Unset (handler.setAnswered false) := by
  obtain ⟨⟨input, kind⟩, waits⟩ := unset
  obtain ⟨channelId, flag, other⟩ := handler
  cases kind
  refine ⟨⟨_, rfl⟩, ?_⟩
  cases step with
  | awaitChannelOpen => exact waits
  | awaitAnswer => rfl
  | resetChannelOpen | sendChannelOpen | resetAnswer | sendRequest => cases waits

end Handlers

section Turns

variable {protobuf : Protobuf} {state next : State} {scl : Nat} {outputs : List Output}
  {event : Event}

theorem clientOpen_thread (scl pointer : Nat) (step : OpenStep) :
    (clientOpen protobuf scl pointer step).Returns fun thread =>
      thread = (step.next.elim .reading fun further => .opening pointer further) := by
  refine .tryCatch ?_ fun _ => .bind fun _ => .throw _
  intro before thread ended
  rw [Act.run_bind, Outcome.andThen] at ended
  split at ended
  next further continued =>
    rw [← openStep_next protobuf pointer step before further continued]
    cases further with
    | none =>
        cases ended
        rfl
    | some further =>
        cases ended
        rfl
  next => cases ended

theorem clientRead_thread {clientId : Int} {client : SocketClient} {reading : Reading}
    {write : Nat → WriteResult} {thread : ClientThread}
    (known : state.clients.lookup scl = some clientId)
    (present : state.sockets scl = some client)
    (ended : ((clientRead write scl client reading).run state).result = .ok thread) :
    thread = .ended ∨ thread = .reading ∨ state.OpensInput (.read scl reading write) := by
  by_cases eof : reading = .data []
  · subst eof
    rw [clientRead_eof write known] at ended
    cases ended
    exact .inl rfl
  rw [clientRead_packet write eof] at ended
  by_cases raw : (client.packet reading).packetType = PacketType.RawData.code
  · have knownToo : (state.buffered scl client reading).clients.lookup scl = some clientId := known
    rw [gotPacket_rawData write knownToo raw] at ended
    cases installed : state.channelHandlers (client.packet reading).channelNumber with
    | none =>
        have missing : (state.buffered scl client reading).channelHandlers
            (client.packet reading).channelNumber = none := installed
        simp only [missing] at ended
        cases ended
    | some pointer =>
        have found : (state.buffered scl client reading).channelHandlers
            (client.packet reading).channelNumber = some pointer := installed
        simp only [found] at ended
        cases there : state.handlers[pointer]? with
        | none =>
            have missing : (state.buffered scl client reading).handlers[pointer]? = none := there
            simp only [missing, Option.map_none] at ended
            cases ended
        | some handler =>
            have here : (state.buffered scl client reading).handlers[pointer]? = some handler :=
              there
            cases kind : handler.kind with
            | default =>
                simp only [here, Option.map_some, kind] at ended
                cases ended
                exact .inr (.inl rfl)
            | video video =>
                simp only [here, Option.map_some, kind] at ended
                cases ended
                exact .inr (.inl rfl)
            | input input =>
                refine .inr (.inr ⟨eof, client, handler, input, present, raw, ?_, kind⟩)
                rw [State.handlerAt, installed, Option.bind_some, there]
  · cases answer : (state.buffered scl client reading).reply (client.packet reading) with
    | none =>
        obtain ⟨fault, outcome⟩ := gotPacket_unknown write scl raw answer
        rw [outcome] at ended
        cases ended
    | some bytes =>
        rw [gotPacket_request write scl answer] at ended
        split at ended
        · cases ended
          exact .inr (.inl rfl)
        · cases ended

end Turns

section Answers

variable {protobuf : Protobuf} {state next : State} {outputs : List Output} {event : Event}

theorem anything_settled : Settled fun _ => True := ⟨fun _ _ _ => trivial, fun _ _ _ => trivial⟩

theorem answered_of (answered : state.Answered)
    (handlers : ∀ (pointer : Nat) (handler : ChannelHandler),
      state.handlers[pointer]? = some handler → handler.Handshaken →
      ∃ later : ChannelHandler, next.handlers[pointer]? = some later ∧ later.Handshaken)
    (threads : ∀ scl client pointer step, next.sockets scl = some client →
      client.thread = .opening pointer step → ∃ old earlier, state.sockets scl = some old ∧
        old.thread = .opening pointer earlier ∧
        (step = earlier ∨ earlier = .sendRequest ∧ step = .awaitAnswer)) : next.Answered := by
  intro scl client pointer step present opening
  obtain ⟨old, earlier, found, before, moved⟩ := threads scl client pointer step present opening
  obtain ⟨place, handler, there, handshaken⟩ := answered scl old pointer earlier found before
  refine ⟨?_, handlers pointer handler there handshaken⟩
  rcases moved with rfl | ⟨-, rfl⟩
  · exact place
  · exact .inr rfl

theorem same_threads (threads : ∀ scl, (next.sockets scl).map SocketClient.thread =
      (state.sockets scl).map SocketClient.thread) {scl : Nat} {client : SocketClient}
    (present : next.sockets scl = some client) :
    ∃ old, state.sockets scl = some old ∧ old.thread = client.thread := by
  have same := threads scl
  rw [present, Option.map_some] at same
  exact Option.map_eq_some_iff.mp same.symm

theorem answered_handlers (answered : state.Answered)
    (took : (machine protobuf).step state event = some (next, outputs)) {pointer : Nat}
    {handler : ChannelHandler} (present : state.handlers[pointer]? = some handler)
    (handshaken : handler.Handshaken) :
    ∃ later, next.handlers[pointer]? = some later ∧ later.Handshaken := by
  by_cases stream : event = .streamStep pointer
  · subst stream
    obtain ⟨other, video, -, -, found, kind, -⟩ := streamStep_body took
    rw [present] at found
    cases found
    obtain ⟨input, isInput, -⟩ := handshaken
    rw [kind] at isInput
    cases isInput
  · refine step_handler handshaken_settled (fun _ => handshaken_updateVideo)
      (fun _ _ kept => kept) (fun resets => ?_) (fun _ _ _ _ _ _ _ _ kept => kept)
      (fun _ _ _ _ _ _ _ => handshaken_setAnswered) took present handshaken
    cases event with
    | clientStep scl =>
        obtain ⟨client, target, step, other, found, opening, -⟩ := clientStep_body took
        have place := (answered scl client target step found opening).1
        simp only [State.openingAt, found, Option.map_some, opening, Option.some.injEq,
          Prod.mk.injEq] at resets
        rw [resets.2] at place
        simp at place
    | streamStep target =>
        obtain ⟨other, video, step, sample, found, kind, opening, -⟩ := streamStep_body took
        obtain ⟨channelOpened, gotSetupResponse, running⟩ := video
        subst opening
        simp only [State.openingAt, found, Option.map_some, kind, Option.some.injEq,
          Prod.mk.injEq] at resets
        exact absurd (congrArg Event.streamStep resets.1) stream
    | connect | read | headunit | sample | threadTerminated => cases resets

/-- A turn brings no thread into an input handler. -/
theorem answered_threads (named : state.Named) (answered : state.Answered)
    (finished : state.threadFinished = true) (outside : ¬ state.OpensInput event)
    (took : (machine protobuf).step state event = some (next, outputs)) {scl pointer : Nat}
    {client : SocketClient} {step : OpenStep} (present : next.sockets scl = some client)
    (opening : client.thread = .opening pointer step) :
    ∃ old earlier, state.sockets scl = some old ∧ old.thread = .opening pointer earlier ∧
      (step = earlier ∨ earlier = .sendRequest ∧ step = .awaitAnswer) := by
  have fromSame {after : State} (threads : ∀ scl, (after.sockets scl).map SocketClient.thread =
        (state.sockets scl).map SocketClient.thread) (found : after.sockets scl = some client) :
      ∃ old earlier, state.sockets scl = some old ∧ old.thread = .opening pointer earlier ∧
        (step = earlier ∨ earlier = .sendRequest ∧ step = .awaitAnswer) := by
    obtain ⟨old, before, same⟩ := same_threads threads found
    exact ⟨old, step, before, same.trans opening, .inl rfl⟩
  cases event with
  | connect other fd stack =>
      obtain ⟨-, -, rfl, -⟩ := connect_turn took
      simp only [State.accept, Function.update_apply] at present
      split at present
      · cases present
        cases opening
      · exact ⟨client, step, present, opening, .inl rfl⟩
  | read actor reading write =>
      obtain ⟨reader, there, ready⟩ := step_read_ready took
      obtain ⟨clientId, known⟩ := named.known there (by simp [ready])
      obtain ⟨-, -, others, own⟩ := finishClient_after (step_read_body there ready took)
      by_cases same : scl = actor
      · subst same
        rcases own client present with ended | returned
        · rw [opening] at ended
          cases ended
        · rcases @clientRead_thread state scl clientId reader reading write client.thread known
              there returned with ended | reads | opens
          · rw [opening] at ended
            cases ended
          · rw [opening] at reads
            cases reads
          · exact absurd opens outside
      · rw [others scl same] at present
        exact fromSame (@clientRead_holds 0 _ anything_settled write actor reader reading
          state).threads present
  | clientStep actor =>
      obtain ⟨opener, target, current, handler, there, inside, -, -, ran⟩ := clientStep_body took
      obtain ⟨-, -, others, own⟩ := finishClient_after ran
      by_cases same : scl = actor
      · subst same
        have place := (answered scl opener target current there inside).1
        rcases own client present with ended | returned
        · rw [opening] at ended
          cases ended
        · have moved := clientOpen_thread scl target current state client.thread returned
          rw [opening] at moved
          rcases place with rfl | rfl
          · cases moved
            exact ⟨opener, .sendRequest, there, inside, .inr ⟨rfl, rfl⟩⟩
          · cases moved
      · rw [others scl same] at present
        exact fromSame (@clientOpen_holds 0 _ anything_settled protobuf actor target current
          (fun _ _ _ _ => trivial) (fun _ _ _ _ => trivial) state).threads present
  | headunit message accept write =>
      simp only [machine, AAServer.step, finished, if_true] at took
      cases took
  | sample | streamStep | threadTerminated =>
      have quiet := (background_turn took trivial).1
      obtain ⟨old, before, -, same⟩ := quiet.alive present
      exact ⟨old, step, before, same.trans opening, .inl rfl⟩

theorem step_endsThreads (running : state.threadFinished = false)
    (took : (machine protobuf).step state event = some (next, outputs))
    (finished : next.threadFinished = true) : state.EndsThreads protobuf event := by
  cases event with
  | headunit message accept write =>
      simp only [machine, AAServer.step, running, Bool.false_eq_true, if_false] at took
      unfold finishPump at took
      dsimp only at took
      split at took
      · cases took
        have same := (@handleMessageContent_holds 0 (fun _ => True) message state protobuf accept
          write (fun _ _ _ _ => trivial) (fun _ _ _ _ => trivial)).threadFinished
        rw [finished, running] at same
        cases same
      next exception thrown => exact ⟨exception, thrown⟩
      · cases took
  | threadTerminated => trivial
  | connect | read | clientStep | sample | streamStep =>
      have same := (quiet_threadFinished took (by simp) (by simp)).symm.trans finished
      rw [running] at same
      cases same

theorem finished_of_ends (ends : state.EndsThreads protobuf event)
    (took : (machine protobuf).step state event = some (next, outputs)) :
    next.threadFinished = true := by
  cases event with
  | headunit message accept write =>
      obtain ⟨exception, thrown⟩ := ends
      simp only [machine, AAServer.step, finishPump, thrown] at took
      split at took
      · cases took
      · cases took
        rfl
  | threadTerminated =>
      cases took
      rfl
  | connect | read | clientStep | sample | streamStep => cases ends

theorem ending_answered (answered : state.Answered) (ends : state.EndsThreads protobuf event)
    (took : (machine protobuf).step state event = some (next, outputs)) : next.Answered := by
  cases event with
  | headunit message accept write =>
      have framed (pointer : Nat) : State.Holds pointer ChannelHandler.Handshaken state
          ((handleMessageContent protobuf accept write message).run state).state :=
        handleMessageContent_holds protobuf accept write (fun _ _ _ kept => kept)
          fun _ _ => handshaken_setAnswered
      have after : next.handlers =
          ((handleMessageContent protobuf accept write message).run state).state.handlers ∧
          next.sockets =
            ((handleMessageContent protobuf accept write message).run state).state.sockets := by
        simp only [machine, AAServer.step] at took
        split at took
        · cases took
        unfold finishPump at took
        dsimp only at took
        split at took <;> cases took
        · exact ⟨rfl, rfl⟩
        · exact ⟨rfl, rfl⟩
      refine answered_of answered (fun pointer handler present handshaken => ?_)
        fun scl client pointer step present opening => ?_
      · rw [after.1]
        exact (framed pointer).handler handler present handshaken
      · rw [after.2] at present
        obtain ⟨old, before, same⟩ := same_threads (framed 0).threads present
        exact ⟨old, step, before, same.trans opening, .inl rfl⟩
  | threadTerminated =>
      cases took
      exact answered
  | connect | read | clientStep | sample | streamStep => cases ends

/-- When the pump has ended, all threads inside a handler have their answers. -/
theorem step_answered (named : state.Named)
    (calm : state.threadFinished = true → state.Answered)
    (ending : state.EndsThreads protobuf event → state.Answered)
    (outside : state.threadFinished = true → ¬ state.OpensInput event)
    (took : (machine protobuf).step state event = some (next, outputs)) :
    next.threadFinished = true → next.Answered := by
  intro finished
  cases running : state.threadFinished with
  | true =>
      exact answered_of (calm running)
        (fun pointer handler present handshaken =>
          answered_handlers (calm running) took present handshaken)
        fun scl client pointer step present opening =>
          answered_threads named (calm running) running (outside running) took present opening
  | false =>
      have ends := step_endsThreads running took finished
      exact ending_answered (ending ends) ends took

end Answers

section Runs

variable {protobuf : Protobuf} {before after : Process} {event : ProcessEvent}
  {outputs : List Output} {events : List ProcessEvent} {final : Process}
  {trace : List (ProcessEvent × List Output)}

theorem main_step_server (took : (process protobuf).step before event = some (after, outputs))
    (main : ∀ other, event ≠ .server other) :
    after.server.threadFinished = before.server.threadFinished ∧
      after.server.handlers = before.server.handlers ∧
      ∀ scl client, after.server.sockets scl = some client → client.thread ≠ .ended →
        before.server.sockets scl = some client := by
  rcases main_step took main with ⟨thread, rfl, -⟩ | ⟨-, rfl⟩ |
      ⟨scl, client, -, present, -, rfl⟩ | ⟨scl, client, -, -, -, -, rfl⟩
  · exact ⟨rfl, rfl, fun _ _ found _ => found⟩
  · exact ⟨rfl, rfl, fun _ _ found _ => found⟩
  · refine ⟨rfl, rfl, fun other otherClient found runs => ?_⟩
    rw [withThread_sockets present, Function.update_apply] at found
    split at found
    · cases found
      exact absurd rfl runs
    · exact found
  · exact ⟨rfl, rfl, fun _ _ found _ => found⟩

theorem process_answered (named : before.server.Named)
    (calm : before.server.threadFinished = true → before.server.Answered)
    (prepared : Prepared protobuf before event)
    (took : (process protobuf).step before event = some (after, outputs)) :
    after.server.threadFinished = true → after.server.Answered := by
  by_cases main : ∀ other, event ≠ .server other
  · obtain ⟨finished, handlers, threads⟩ := main_step_server took main
    rw [finished]
    intro finishing scl client pointer step present opening
    rw [handlers]
    exact calm finishing scl client pointer step (threads scl client present (by simp [opening]))
      opening
  · push Not at main
    obtain ⟨other, rfl⟩ := main
    obtain ⟨server, -, stepped, rfl⟩ := server_step took
    exact step_answered named calm prepared.1 prepared.2 stepped

/-- Nothing sets a flag after the end of the pump. -/
theorem run_unset {pointer : Nat} {step : OpenStep} {handler : ChannelHandler}
    (finished : before.server.threadFinished = true)
    (present : before.server.handlers[pointer]? = some handler) (unset : step.Unset handler)
    (ran : (process protobuf).run before events = some (after, trace)) :
    ∃ later, after.server.handlers[pointer]? = some later ∧ step.Unset later := by
  have kept : ∀ {before event after outputs}, (before.server.threadFinished = true ∧
        ∃ handler, before.server.handlers[pointer]? = some handler ∧ step.Unset handler) →
      (process protobuf).step before event = some (after, outputs) →
      after.server.threadFinished = true ∧
        ∃ later, after.server.handlers[pointer]? = some later ∧ step.Unset later := by
    rintro before event after outputs ⟨finished, handler, present, unset⟩ took
    by_cases main : ∀ other, event ≠ .server other
    · obtain ⟨same, handlers, -⟩ := main_step_server took main
      rw [same, handlers]
      exact ⟨finished, handler, present, unset⟩
    · push Not at main
      obtain ⟨other, rfl⟩ := main
      obtain ⟨server, -, stepped, rfl⟩ := server_step took
      refine ⟨step_threadFinished stepped finished,
        step_handler (unset_settled step) (fun _ => unset_updateVideo) (fun _ => unset_reopened)
          (fun _ => unset_reset) (fun _ _ _ _ active => ?_) (fun _ _ _ _ active => ?_) stepped
            present unset⟩
      · rw [finished] at active
        cases active
      · rw [finished] at active
        cases active
  exact ((process protobuf).run_keeps kept ⟨finished, handler, present, unset⟩ ran).2

theorem prepared_of_pumping (ran : (process protobuf).run before events = some (after, trace))
    (pumping : after.server.threadFinished = false) :
    (process protobuf).Within (Prepared protobuf) before events := by
  have stays : ∀ {before event after outputs}, before.server.threadFinished = true →
      (process protobuf).step before event = some (after, outputs) →
      after.server.threadFinished = true := by
    intro before event after outputs finished took
    by_cases main : ∀ other, event ≠ .server other
    · rw [(main_step_server took main).1, finished]
    · push Not at main
      obtain ⟨other, rfl⟩ := main
      obtain ⟨server, -, stepped, rfl⟩ := server_step took
      exact step_threadFinished stepped finished
  have damaged : ∀ {before event after outputs}, ¬ Prepared protobuf before event →
      (process protobuf).step before event = some (after, outputs) →
      after.server.threadFinished = true := by
    intro before event after outputs unprepared took
    cases event with
    | server other =>
        obtain ⟨server, -, stepped, rfl⟩ := server_step took
        by_contra running
        refine unprepared ⟨fun ends => absurd (finished_of_ends ends stepped) running,
          fun finished => absurd (step_threadFinished stepped finished) running⟩
    | _ => exact absurd trivial unprepared
  rcases @Machine.run_within_or _ _ _ (process protobuf) (fun _ => True) (fun _ => True)
      (fun current => current.server.threadFinished = true) (Prepared protobuf) (fun _ _ => trivial)
      (fun _ _ _ _ => trivial) (fun _ _ => damaged) (fun _ => stays) _ _ _ _ trivial trivial ran
    with ⟨within, -⟩ | ⟨-, ended⟩
  · exact within
  · rw [pumping] at ended
    cases ended

/-- In no state that a prepared run reaches does the destructor wait for a thread that waits
for ever. -/
theorem shutdown_not_stuck
    (prepared : (process protobuf).Within (Prepared protobuf) .initial events)
    (ran : (process protobuf).run .initial events = some (final, trace)) (scl : Nat) :
    ¬ final.Stuck protobuf scl := by
  have kept : ∀ {before event after outputs}, (before.server.Named ∧
        (before.server.threadFinished = true → before.server.Answered)) →
      Prepared protobuf before event →
      (process protobuf).step before event = some (after, outputs) →
      after.server.Named ∧ (after.server.threadFinished = true → after.server.Answered) :=
    fun both prepared took => ⟨process_named both.1 took,
      process_answered both.1 both.2 prepared took⟩
  have start : Process.initial.server.Named ∧
      (Process.initial.server.threadFinished = true → Process.initial.server.Answered) :=
    ⟨by simp [Process.initial, State.Named, AAServer.initial], fun finishing => by cases finishing⟩
  have calm := ((process protobuf).run_invariant kept start prepared ran).2
  rintro ⟨ended, -, pointer, step, ⟨client, handler, present, opening, there, waits⟩, -⟩
  obtain ⟨place, other, found, input, kind, set⟩ := calm ended scl client pointer step present
    opening
  rw [there] at found
  cases found
  rcases place with rfl | rfl
  · cases waits
  · have answered : handler.answered = true := by rw [ChannelHandler.answered, kind]; exact set
    have enabled : OpenStep.awaitAnswer.enabled handler = true := answered
    rw [waits] at enabled
    cases enabled

/-- A client opens the input channel and gets as far as the head unit's first answer. -/
def openingRun : List ProcessEvent :=
  [.server (.connect 1 10 fun _ => 0),
    .server (.headunit ⟨0, 0x0b, [0x00, 0x06, 0x0a, 0x04, 0x08, 0x07, 0x22, 0x00], 0⟩ .failed
      fun _ => .complete),
    .server (.read 1 (.data [0x01, 0x07, 0x00]) fun _ => .complete),
    .server (.clientStep 1), .server (.clientStep 1)]

def bothAnswers : List ProcessEvent :=
  [.server (.headunit ⟨7, 0x0b, [0x00, 0x08], 0⟩ .failed fun _ => .complete),
    .server (.clientStep 1), .server (.clientStep 1), .server (.clientStep 1),
    .server (.headunit ⟨7, 0x0b, [0x80, 0x03], 0⟩ .failed fun _ => .complete)]

def answeredRun : List ProcessEvent :=
  openingRun ++ bothAnswers ++ [.server .threadTerminated, .mreSet]

theorem shutdown_not_stuck_answered :
    ∃ final trace client, (process .small).run .initial answeredRun = some (final, trace) ∧
      final.server.threadFinished = true ∧ final.server.sockets 1 = some client ∧
      client.thread = .opening 1 .awaitAnswer ∧ ¬ final.Stuck .small 1 := by
  obtain ⟨middle, early, client, handler, before, pumping, alone, present, opening, there, input,
      kind, answered⟩ : ∃ middle early client handler,
        (process .small).run .initial (openingRun ++ bothAnswers) = some (middle, early) ∧
      middle.server.threadFinished = false ∧
      (∀ scl, scl ≠ 1 → middle.server.sockets scl = none) ∧
      middle.server.sockets 1 = some client ∧ client.thread = .opening 1 .awaitAnswer ∧
      middle.server.handlers[1]? = some handler ∧ handler.Handshaken := by
    refine ⟨_, _, _, _, rfl, rfl, fun scl other => ?_, rfl, rfl, rfl, _, rfl, rfl⟩
    match scl with
    | 0 => rfl
    | scl + 2 => rfl
  have ready : middle.server.Answered := by
    intro scl other pointer step found inside
    by_cases same : scl = 1
    · subst same
      rw [present] at found
      cases found
      rw [opening] at inside
      cases inside
      exact ⟨.inr rfl, handler, there, input, kind, answered⟩
    · rw [alone scl same] at found
      cases found
  obtain ⟨final, trace, ran, finished, kept⟩ : ∃ final trace,
      (process .small).run .initial answeredRun = some (final, trace) ∧
      final.server.threadFinished = true ∧ final.server.sockets 1 = middle.server.sockets 1 := by
    cases before
    exact ⟨_, _, rfl, rfl, rfl⟩
  refine ⟨final, trace, client, ran, finished, kept.trans present, opening,
    shutdown_not_stuck ?_ ran 1⟩
  refine ((process .small).within_append_iff before).mpr ⟨prepared_of_pumping before pumping,
    ⟨fun _ => ready, fun finishing => by simp [pumping] at finishing⟩,
    fun _ _ _ => ⟨trivial, fun _ _ _ => trivial⟩⟩

/-- The link fails while the head unit's first answer is on its way. -/
theorem opening_stuck_at_shutdown :
    ∃ final trace, (process .small).run .initial
      (openingRun ++ [.server .threadTerminated, .mreSet]) = some (final, trace) ∧
        final.Stuck .small 1 := by
  obtain ⟨final, trace, client, handler, ran, finished, begun, present, opening, there, kind,
      waits⟩ : ∃ final trace client handler, (process .small).run .initial
        (openingRun ++ [.server .threadTerminated, .mreSet]) = some (final, trace) ∧
      final.server.threadFinished = true ∧ final.main = .joiningListenThread ∧
      final.server.sockets 1 = some client ∧ client.thread = .opening 1 .awaitChannelOpen ∧
      final.server.handlers[1]? = some handler ∧ (∃ input, handler.kind = .input input) ∧
      OpenStep.awaitChannelOpen.enabled handler = false :=
    ⟨_, _, _, _, rfl, rfl, rfl, rfl, rfl, rfl, ⟨_, rfl⟩, rfl⟩
  refine ⟨final, trace, ran, finished, by simp [begun], 1, .awaitChannelOpen,
    ⟨client, handler, present, opening, there, waits⟩, ?_⟩
  intro events later after continued other found
  obtain ⟨last, lastFound, unset⟩ := run_unset finished there ⟨kind, waits⟩ continued
  rw [lastFound] at found
  cases found
  exact unset.2

end Runs

end AAServer

end AACS
