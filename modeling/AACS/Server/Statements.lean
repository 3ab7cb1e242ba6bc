import AACS.Server.Shutdown
import AACS.Server.VideoOpening

/-!
The threads that open channels, from statement to statement.

A thread is inside the handler whose channel it opens: the thread of a client that has sent a
packet for an input channel, or the streaming thread of a video handler. Its own turn takes it to
the next statement, and the turns of others leave it where it is.
-/

namespace AACS

namespace AAServer

open Effects Transitions

def ClientThread.statement : ClientThread → Option (Nat × OpenStep)
  | .opening pointer step => some (pointer, step)
  | .reading | .ended => none

def State.HasThreadAt (state : State) (pointer : Nat) (step : OpenStep) : Prop :=
  ∃ opener, state.openingAt opener = some (pointer, step)

section Statements

variable {protobuf : Protobuf} {state next : State} {event : Event} {outputs : List Output}
  {pointer : Nat} {step : OpenStep} {handler : ChannelHandler}

theorem openingAt_client {scl : Nat} {client : SocketClient}
    (present : state.sockets scl = some client) :
    state.openingAt (.clientStep scl) = client.thread.statement := by
  obtain ⟨fd, thread, buffer⟩ := client
  cases thread <;> simp [State.openingAt, present, ClientThread.statement]

theorem openingAt_clientStep {scl : Nat} :
    state.openingAt (.clientStep scl) = some (pointer, step) ↔
      ∃ client, state.sockets scl = some client ∧ client.thread = .opening pointer step := by
  cases present : state.sockets scl with
  | none => simp [State.openingAt, present]
  | some client =>
      obtain ⟨fd, thread, buffer⟩ := client
      rw [openingAt_client present]
      cases thread <;> simp [ClientThread.statement]

theorem openingAt_stream (present : state.handlers[pointer]? = some handler) :
    state.openingAt (.streamStep pointer) = handler.streamStep.map fun step => (pointer, step) := by
  obtain ⟨channelId, flag, kind⟩ := handler
  cases kind with
  | default | input => simp [State.openingAt, present, ChannelHandler.streamStep]
  | video video =>
      obtain ⟨opened, answered, stream⟩ := video
      cases stream <;> simp [State.openingAt, present, ChannelHandler.streamStep]

theorem openingAt_streamStep {target : Nat} :
    state.openingAt (.streamStep target) = some (pointer, step) ↔
      target = pointer ∧ ∃ handler, state.handlers[target]? = some handler ∧
        handler.streamStep = some step := by
  cases present : state.handlers[target]? with
  | none => simp [State.openingAt, present]
  | some handler =>
      rw [openingAt_stream present]
      cases stepping : handler.streamStep <;> simp [stepping]

theorem openingAt_opener (opening : state.openingAt event = some (pointer, step)) :
    (∃ scl client, event = .clientStep scl ∧ state.sockets scl = some client ∧
      client.thread = .opening pointer step) ∨
    event = .streamStep pointer ∧ ∃ handler video sample, state.handlers[pointer]? = some handler ∧
      handler.kind = .video video ∧ video.stream = some (step, sample) := by
  cases event with
  | clientStep scl =>
      obtain ⟨client, present, inside⟩ := openingAt_clientStep.mp opening
      exact .inl ⟨scl, client, rfl, present, inside⟩
  | streamStep target =>
      obtain ⟨rfl, handler, present, stepping⟩ := openingAt_streamStep.mp opening
      cases kind : handler.kind with
      | default | input => simp [ChannelHandler.streamStep, kind] at stepping
      | video video =>
          simp only [ChannelHandler.streamStep, kind, Option.map_eq_some_iff] at stepping
          obtain ⟨⟨_, sample⟩, stream, rfl⟩ := stepping
          exact .inr ⟨rfl, handler, video, sample, present, kind, stream⟩
  | connect | read | headunit | sample | threadTerminated => cases opening

theorem opening_goes_on
    (serializes : ∀ buttons, protobuf.inputChannelHandshakeRequest buttons ≠ none)
    (opening : state.openingAt event = some (pointer, step))
    (took : (machine protobuf).step state event = some (next, outputs)) :
    next.openingAt event = step.next.map fun further => (pointer, further) := by
  rcases openingAt_opener opening with ⟨scl, client, rfl, present, inside⟩ |
    ⟨rfl, handler, video, sample, present, kind, stream⟩
  · obtain ⟨same, target, current, other, there, opens, -, -, ran⟩ := clientStep_body took
    rw [present] at there
    cases there
    rw [inside] at opens
    cases opens
    have quiet := openStep_quiet protobuf pointer step state
    have follows := openStep_next protobuf pointer step state
    rcases outcome : (step.run protobuf pointer).run state with ⟨fault | further, after, log⟩
    · cases fault with
      | undefinedBehaviour =>
          unfold finishClient at ran
          rw [clientOpen_undefined outcome] at ran
          cases ran
      | thrown exception =>
          obtain ⟨-, -, handler, input, -, -, refused⟩ := openStep_throws outcome
          exact absurd refused (serializes _)
    · rw [outcome] at quiet follows
      obtain rfl := follows further rfl
      have same := quiet.sockets scl
      rw [present] at same
      obtain ⟨later, stays, -⟩ : ∃ later, after.sockets scl = some later ∧ _ :=
        Option.map_eq_some_iff.mp same
      have opened : (clientOpen protobuf scl pointer step).run state =
          ⟨.ok (step.next.elim .reading fun further => .opening pointer further), after, log⟩ := by
        simp only [clientOpen, guarded_run, Act.run_bind, outcome, Act.andThen_ok]
        cases step.next <;> simp
      rw [finishClient_ok opened] at ran
      cases ran
      rw [openingAt_client (sockets_withThread stays _)]
      cases step <;> rfl
  · obtain ⟨other, otherVideo, current, waiting, there, otherKind, running, -, ran⟩ :=
      streamStep_body took
    rw [present] at there
    cases there
    rw [kind] at otherKind
    cases otherKind
    rw [stream] at running
    cases running
    have left := (streamOpen_leaves present kind ran).1
    rw [openingAt_stream left]
    cases step <;> rfl

theorem step_keeps {P : ChannelHandler → Prop} (settled : Settled P)
    (starts : ∀ handler video sample, handler.kind = .video video → P handler →
      P { handler with kind := .video { video with
        channelOpened := true, stream := some (.resetChannelOpen, sample) } })
    (leaves : ∀ step handler video sample, state.openingAt event = some (pointer, step) →
      handler.kind = .video video → P handler → P (step.leaves handler video sample))
    (reopens : state.openingAt event = some (pointer, .resetChannelOpen) →
      ∀ handler, P handler → P { handler with gotChannelOpenResponse := false })
    (resets : state.openingAt event = some (pointer, .resetAnswer) →
      ∀ handler, P handler → P (handler.setAnswered false))
    (opens : ∀ handler, P handler → P { handler with gotChannelOpenResponse := true })
    (answers : ∀ handler, P handler → P (handler.setAnswered true))
    (took : (machine protobuf).step state event = some (next, outputs))
    (present : state.handlers[pointer]? = some handler) (holds : P handler) :
    ∃ later, next.handlers[pointer]? = some later ∧ P later := by
  by_cases streams : event.streams = some pointer
  · cases event with
    | sample target sample =>
        cases streams
        obtain ⟨same, video, there, kind, -, ran⟩ := sample_body took
        rw [present] at there
        cases there
        rw [finishStream_after ran]
        simp only [newSample, Act.run_bind, Act.run_get, Act.andThen_ok]
        split
        · simp only [writeHandler, Act.run_modify]
          refine ⟨_, updateHandler_present present _, ?_⟩
          rw [updateVideo_video kind]
          exact starts handler video sample kind holds
        · exact ⟨handler, present, holds⟩
    | streamStep target =>
        cases streams
        obtain ⟨same, video, step, sample, there, kind, stream, -, ran⟩ := streamStep_body took
        rw [present] at there
        cases there
        have here : state.openingAt (.streamStep pointer) = some (pointer, step) := by
          rw [openingAt_stream present, ChannelHandler.streamStep, kind]
          simp [stream]
        exact ⟨_, (streamOpen_leaves present kind ran).1,
          leaves step handler video sample here kind holds⟩
    | connect | read | clientStep | headunit | threadTerminated => cases streams
  · exact step_handler settled (fun own => absurd own streams) reopens resets
      (fun _ _ _ _ _ _ _ => opens) (fun _ _ _ _ _ _ _ => answers) took present holds

/-- The handler takes answers: a video handler does when its own channel is being opened. -/
def ChannelHandler.Takes (handler : ChannelHandler) : Prop :=
  handler.kind ≠ .default ∧ ∀ video, handler.kind = .video video → video.channelOpened = true

theorem takes_updateInput (update : InputChannelHandler → InputChannelHandler)
    (takes : handler.Takes) : (handler.updateInput update).Takes := by
  obtain ⟨channelId, opened, kind⟩ := handler
  cases kind with
  | default => exact absurd rfl takes.1
  | video video => exact takes
  | input input =>
      exact ⟨by simp [ChannelHandler.updateInput], by simp [ChannelHandler.updateInput]⟩

theorem takes_setAnswered (answered : Bool) (takes : handler.Takes) :
    (handler.setAnswered answered).Takes := by
  obtain ⟨channelId, opened, kind⟩ := handler
  cases kind with
  | default => exact absurd rfl takes.1
  | input input =>
      exact ⟨by simp [ChannelHandler.setAnswered], by simp [ChannelHandler.setAnswered]⟩
  | video video =>
      refine ⟨by simp [ChannelHandler.setAnswered], fun later same => ?_⟩
      cases same
      exact takes.2 video rfl

theorem step_takes (present : state.handlers[pointer]? = some handler) (takes : handler.Takes)
    (took : (machine protobuf).step state event = some (next, outputs)) :
    ∃ later, next.handlers[pointer]? = some later ∧ later.Takes := by
  have settled : Settled ChannelHandler.Takes :=
    ⟨fun _ _ takes => takes_updateInput _ takes, fun _ _ takes => takes_updateInput _ takes⟩
  refine step_keeps settled (fun handler video sample kind takes => ?_)
    (fun step handler video sample here kind takes => ?_) (fun _ _ takes => takes)
    (fun _ _ takes => takes_setAnswered false takes) (fun _ takes => takes)
    (fun _ takes => takes_setAnswered true takes) took present takes
  · refine ⟨by simp, fun later same => ?_⟩
    cases same
    rfl
  · have opened := takes.2 video kind
    cases step <;> refine ⟨by simp [OpenStep.leaves], fun later same => ?_⟩ <;> cases same <;>
      exact opened

def State.Inside (state : State) : Prop :=
  ∀ pointer step, state.HasThreadAt pointer step →
    ∃ handler, state.handlers[pointer]? = some handler ∧ handler.Takes

theorem clientRead_enters {write : Nat → WriteResult} {scl : Nat} {clientId : Int}
    {client : SocketClient} {reading : Reading} {thread : ClientThread}
    (known : state.clients.lookup scl = some clientId) (present : state.sockets scl = some client)
    (ended : ((clientRead write scl client reading).run state).result = .ok thread) :
    thread.statement = none ∨ ∃ pointer handler input, state.handlers[pointer]? = some handler ∧
      handler.kind = .input input ∧ thread.statement = some (pointer, .resetChannelOpen) := by
  rcases clientRead_thread known present ended with rfl | rfl |
    ⟨packet, same, handler, input, there, raw, found, kind⟩
  · exact .inl rfl
  · exact .inl rfl
  rw [present] at there
  cases there
  obtain ⟨pointer, installed, pointed⟩ := Option.bind_eq_some_iff.mp found
  have knownToo : (state.buffered scl client reading).clients.lookup scl = some clientId := known
  have installedToo : (state.buffered scl client reading).channelHandlers
      (client.packet reading).channelNumber = some pointer := installed
  have pointedToo : (state.buffered scl client reading).handlers[pointer]? = some handler := pointed
  rw [clientRead_packet write packet, gotPacket_rawData write knownToo raw] at ended
  simp only [installedToo, pointedToo, Option.map_some, kind] at ended
  cases ended
  exact .inr ⟨pointer, handler, input, pointed, kind, rfl⟩

def Begins (next : State) (before after : Option (Nat × OpenStep)) : Prop :=
  after = before ∨ before = none ∧ ∃ pointer handler, next.handlers[pointer]? = some handler ∧
    handler.Takes ∧ after = some (pointer, .resetChannelOpen)

theorem openingAt_of_threads {scl : Nat} (same : (next.sockets scl).map SocketClient.thread =
      (state.sockets scl).map SocketClient.thread) :
    next.openingAt (.clientStep scl) = state.openingAt (.clientStep scl) := by
  simp only [State.openingAt, same]

theorem State.Quiet.threads (quiet : state.Quiet next) (scl : Nat) :
    (next.sockets scl).map SocketClient.thread = (state.sockets scl).map SocketClient.thread := by
  have same := congrArg (Option.map Prod.snd) (quiet.sockets scl)
  rw [Option.map_map, Option.map_map] at same
  exact same

theorem client_begins {scl : Nat} (wired : state.Wired) (different : event ≠ .clientStep scl)
    (took : (machine protobuf).step state event = some (next, outputs)) :
    Begins next (state.openingAt (.clientStep scl)) (next.openingAt (.clientStep scl)) := by
  have quietly (quiet : state.Quiet next) :
      Begins next (state.openingAt (.clientStep scl)) (next.openingAt (.clientStep scl)) :=
    .inl (openingAt_of_threads (quiet.threads scl))
  cases event with
  | connect other fd stack =>
      obtain ⟨absent, -, rfl, -⟩ := connect_turn took
      by_cases same : other = scl
      · subst same
        refine .inl ?_
        have before : state.openingAt (.clientStep other) = none := by
          simp [State.openingAt, absent]
        have present : (state.accept other fd stack).sockets other =
            some { fd, buffer := stack } := Function.update_self ..
        rw [before, openingAt_client present]
        rfl
      · exact .inl (openingAt_of_threads (congrArg _ (Function.update_of_ne (Ne.symm same) _ _)))
  | read other reading write =>
      obtain ⟨client, present, ready⟩ := step_read_ready took
      obtain ⟨-, -, others, own⟩ := finishClient_after (step_read_body present ready took)
      by_cases same : other = scl
      · subst same
        have before : state.openingAt (.clientStep other) = none := by
          rw [openingAt_client present, ready]
          rfl
        cases there : next.sockets other with
        | none => exact .inl (by rw [before]; simp [State.openingAt, there])
        | some later =>
            rw [before, openingAt_client there]
            rcases own later there with gone | ended
            · rw [gone]
              exact .inl rfl
            · obtain ⟨clientId, known⟩ := wired.known present (by simp [ready])
              rcases clientRead_enters known present ended with none | begins
              · exact .inl none
              obtain ⟨pointer, handler, input, pointed, kind, enters⟩ := begins
              have takes : handler.Takes := by simp [ChannelHandler.Takes, kind]
              obtain ⟨after, found, still⟩ := step_takes pointed takes took
              exact .inr ⟨rfl, pointer, after, found, still, enters⟩
      · have held := (@clientRead_holds 0 _ anything_settled write other client reading
          state).threads scl
        rw [← others scl (Ne.symm same)] at held
        exact .inl (openingAt_of_threads held)
  | clientStep other =>
      obtain ⟨client, pointer, step, handler, -, -, -, -, ran⟩ := clientStep_body took
      obtain ⟨-, -, others, -⟩ := finishClient_after ran
      have elsewhere : scl ≠ other := fun same => different (by rw [same])
      have held := (@clientOpen_holds 0 _ anything_settled protobuf other pointer step
        (fun _ _ _ _ => trivial) (fun _ _ _ _ => trivial) state).threads scl
      rw [← others scl elsewhere] at held
      exact .inl (openingAt_of_threads held)
  | headunit message accept write =>
      have held := (@handleMessageContent_holds 0 (fun _ => True) message state protobuf accept
        write (fun _ _ _ _ => trivial) (fun _ _ _ _ => trivial)).threads scl
      rw [← (headunit_turn took).2.threads scl] at held
      exact .inl (openingAt_of_threads held)
  | sample | streamStep | threadTerminated => exact quietly (background_turn took trivial).1

theorem handler_streamStep (channel : Channel) : (Channel.handler channel).streamStep = none := by
  unfold Channel.handler Channel.newHandler ChannelHandler.streamStep
  by_cases video : channel.media_channel = some .Video
  · simp [video]
  · cases channel.input_channel <;> simp [video]

theorem stream_begins {target : Nat} (wired : state.Wired) (different : event ≠ .streamStep target)
    (took : (machine protobuf).step state event = some (next, outputs)) :
    Begins next (state.openingAt (.streamStep target)) (next.openingAt (.streamStep target)) := by
  cases present : state.handlers[target]? with
  | none =>
      cases found : next.handlers[target]? with
      | none => exact .inl (by simp [State.openingAt, present, found])
      | some later =>
          -- a handler that a descriptor has brought has no thread yet
          obtain ⟨channel, rfl⟩ := step_added wired took present found
          rw [openingAt_stream found, handler_streamStep channel]
          exact .inl (by simp [State.openingAt, present])
  | some handler =>
      by_cases streams : event.streams = some target
      · cases event with
        | streamStep other =>
            cases streams
            exact absurd rfl different
        | sample other sample =>
            cases streams
            obtain ⟨same, video, there, kind, idle, ran⟩ := sample_body took
            rw [present] at there
            cases there
            have before : state.openingAt (.streamStep target) = none := by
              rw [openingAt_stream present, ChannelHandler.streamStep, kind]
              simp [idle]
            rw [before, finishStream_after ran]
            simp only [newSample, Act.run_bind, Act.run_get, Act.andThen_ok]
            split
            · simp only [writeHandler, Act.run_modify]
              have begun := updateHandler_present present (ChannelHandler.updateVideo fun video =>
                { video with channelOpened := true, stream := some (.resetChannelOpen, sample) })
              rw [updateVideo_video kind] at begun
              refine .inr ⟨rfl, target, _, begun, ⟨by simp, fun later same => ?_⟩, ?_⟩
              · cases same
                rfl
              · rw [openingAt_stream begun]
                rfl
            · refine .inl (.trans ?_ before)
              rfl
        | connect | read | clientStep | headunit | threadTerminated => cases streams
      · have settled : Settled fun later => later.streamStep = handler.streamStep :=
          ⟨fun later _ same => (streamStep_updateInput _).trans same,
            fun later _ same => (streamStep_updateInput _).trans same⟩
        obtain ⟨later, found, same⟩ := step_handler settled (fun own => absurd own streams)
          (fun _ _ same => same)
          (fun _ later same => (streamStep_setAnswered later false).trans same)
          (fun _ _ _ _ _ _ _ _ same => same)
          (fun _ _ _ _ _ _ _ later same => (streamStep_setAnswered later true).trans same) took
          present rfl
        exact .inl (by rw [openingAt_stream found, openingAt_stream present, same])

theorem opening_before {pointer : Nat} {step : OpenStep}
    (after : next.openingAt event = some (pointer, step))
    (took : (machine protobuf).step state event = some (next, outputs)) :
    ∃ pointer step, state.openingAt event = some (pointer, step) := by
  cases event with
  | clientStep scl =>
      obtain ⟨client, pointer, step, handler, present, inside, -⟩ := clientStep_body took
      exact ⟨pointer, step, openingAt_clientStep.mpr ⟨client, present, inside⟩⟩
  | streamStep target =>
      obtain ⟨handler, video, step, sample, present, kind, stream, -⟩ := streamStep_body took
      refine ⟨target, step, openingAt_streamStep.mpr ⟨rfl, handler, present, ?_⟩⟩
      simp [ChannelHandler.streamStep, kind, stream]
  | connect | read | headunit | sample | threadTerminated => cases after

theorem opening_begins {opener : Event} (wired : state.Wired) (different : event ≠ opener)
    (took : (machine protobuf).step state event = some (next, outputs)) :
    Begins next (state.openingAt opener) (next.openingAt opener) := by
  cases opener with
  | clientStep scl => exact client_begins wired different took
  | streamStep target => exact stream_begins wired different took
  | connect | read | headunit | sample | threadTerminated => exact .inl rfl

theorem initial_inside : initial.Inside := by
  rintro pointer step ⟨opener, here⟩
  rcases openingAt_opener here with ⟨scl, client, -, present, -⟩ |
    ⟨-, handler, video, sample, present, kind, -⟩
  · cases present
  · rcases pointer with _ | pointer
    · cases present
      cases kind
    · cases present

theorem step_inside (serializes : ∀ buttons, protobuf.inputChannelHandshakeRequest buttons ≠ none)
    (wired : state.Wired) (inside : state.Inside)
    (took : (machine protobuf).step state event = some (next, outputs)) : next.Inside := by
  rintro pointer step ⟨opener, here⟩
  have stays {before : OpenStep} (there : state.HasThreadAt pointer before) :
      ∃ handler, next.handlers[pointer]? = some handler ∧ handler.Takes := by
    obtain ⟨handler, present, takes⟩ := inside pointer before there
    exact step_takes present takes took
  by_cases own : event = opener
  · subst own
    obtain ⟨target, before, there⟩ := opening_before here took
    rw [opening_goes_on serializes there took] at here
    obtain ⟨further, -, same⟩ := Option.map_eq_some_iff.mp here
    cases same
    exact stays ⟨event, there⟩
  · rcases opening_begins wired own took with same | ⟨-, begun, handler, present, takes, begins⟩
    · exact stays ⟨opener, same.symm.trans here⟩
    · rw [begins] at here
      cases here
      exact ⟨handler, present, takes⟩

theorem openStep_runs (serializes : ∀ buttons, protobuf.inputChannelHandshakeRequest buttons ≠ none)
    (present : state.handlers[pointer]? = some handler) (step : OpenStep) :
    ∃ after log, (step.run protobuf pointer).run state = ⟨.ok step.next, after, log⟩ := by
  have follows := openStep_next protobuf pointer step state
  rcases ran : (step.run protobuf pointer).run state with ⟨fault | further, after, log⟩
  · cases fault with
    | thrown exception =>
        obtain ⟨-, -, other, input, -, -, refused⟩ := openStep_throws ran
        exact absurd refused (serializes _)
    | undefinedBehaviour =>
        cases step with
        | resetChannelOpen | awaitChannelOpen | resetAnswer | awaitAnswer => cases ran
        | sendChannelOpen =>
            simp [OpenStep.run, readHandler_run present, ChannelHandler.sendChannelOpenRequest,
              sendToHeadunit] at ran
        | sendRequest =>
            simp only [OpenStep.run, Act.run_bind, readHandler_run present, Act.andThen_ok,
              ChannelHandler.sendRequest] at ran
            cases kind : handler.kind with
            | default => simp [kind] at ran
            | video video =>
                simp [kind, VideoChannelHandler.sendSetupRequest, sendToHeadunit] at ran
            | input input =>
                obtain ⟨buffer, serialized⟩ :=
                  Option.ne_none_iff_exists'.mp (serializes input.available_buttons)
                simp [kind, InputChannelHandler.sendHandshakeRequest, serialized,
                  sendToHeadunit] at ran
  · rw [ran] at follows
    exact ⟨after, log, by rw [follows further rfl]⟩

theorem opening_enabled
    (serializes : ∀ buttons, protobuf.inputChannelHandshakeRequest buttons ≠ none)
    (opening : state.openingAt event = some (pointer, step))
    (present : state.handlers[pointer]? = some handler) (enabled : step.enabled handler = true) :
    ∃ next outputs, (machine protobuf).step state event = some (next, outputs) := by
  obtain ⟨after, log, ran⟩ := openStep_runs serializes present step
  rcases openingAt_opener opening with ⟨scl, client, rfl, there, inside⟩ |
    ⟨rfl, same, video, sample, there, kind, stream⟩
  · have opened : (clientOpen protobuf scl pointer step).run state =
        ⟨.ok (step.next.elim .reading fun further => .opening pointer further), after, log⟩ := by
      simp only [clientOpen, guarded_run, Act.run_bind, ran, Act.andThen_ok]
      cases step.next <;> simp
    simp only [machine, AAServer.step, there, inside, present, enabled, if_true]
    exact ⟨_, _, finishClient_ok opened⟩
  · rw [present] at there
    cases there
    obtain ⟨channelId, flag, other⟩ := handler
    obtain ⟨opened, answered, running⟩ := video
    subst kind stream
    simp only [machine, AAServer.step, present, enabled, if_true, finishStream, streamOpen,
      Act.run_bind, ran, Act.andThen_ok]
    cases step <;> exact ⟨_, _, rfl⟩

theorem run_inside {events : List Event} {final : State} {trace : List (Event × List Output)}
    (serializes : ∀ buttons, protobuf.inputChannelHandshakeRequest buttons ≠ none)
    (ran : (machine protobuf).run initial events = some (final, trace)) : final.Inside := by
  have kept : ∀ {state event next outputs}, state.Wired ∧ state.Inside →
      (machine protobuf).step state event = some (next, outputs) → next.Wired ∧ next.Inside :=
    fun both took => ⟨step_wired both.1 took, step_inside serializes both.1 both.2 took⟩
  exact ((machine protobuf).run_keeps kept ⟨wired_initial, initial_inside⟩ ran).2

end Statements

end AAServer

end AACS
