import AACS.Server.Milestones
import AACS.Server.Tables

/-!
The order in which a video channel is opened.

A handler opens its channel when the first sample of all handlers comes, not when its
own does: `firstSample` is one variable. What it has sent and received comes in the right
order as long as its samples come while it opens the channel or later, and no answer comes
before the request.
-/

namespace AACS

namespace AAServer

open Effects Transitions

/-- A handler gets a sample while no handler has sent one, or after it has begun to open its
channel itself; no answer comes between the reset of its flag and the request. -/
def Timely (state : State) : Event → Prop
  | .sample pointer _ => state.firstSample = true ∨
      ∃ handler, state.handlers[pointer]? = some handler ∧ handler.channelOpened = true
  | .headunit message _ _ => ∀ pointer handler, state.HandsTo message pointer →
      state.handlers[pointer]? = some handler →
      (typeOf message.content = some MessageType.ChannelOpenResponse.code →
        handler.streamStep ≠ some .sendChannelOpen) ∧
      (typeOf message.content = some MediaMessageType.SetupResponse.code →
        handler.streamStep ≠ some .sendRequest)
  | _ => True

structure State.InOrder (pointer : Nat) (state : State) (log : List Milestone) : Prop where
  stages : ∀ handler, state.handlers[pointer]? = some handler → handler.Stage log log
  media : OpenedBeforeMedia log

section Turns

variable {protobuf : Protobuf} {state next : State} {pointer : Nat} {outputs : List Output}
  {event : Event} {log : List Milestone} {handler : ChannelHandler} {video : VideoChannelHandler}
  {step : OpenStep} {sample : Sample}

theorem sent_sample (channelId : UInt8) (state : State) (sample : Sample) :
    ((VideoChannelHandler.sendSample channelId sample).run state).log.filterMap
      Milestone.ofOutput = [.media] := by
  unfold VideoChannelHandler.sendSample
  by_cases untimed : sample.pts = 0 - 1
  · rw [if_pos untimed]
    rfl
  · rw [if_neg untimed]
    rfl

theorem updateVideo_video (kind : handler.kind = .video video)
    (update : VideoChannelHandler → VideoChannelHandler) :
    handler.updateVideo update = { handler with kind := .video (update video) } := by
  rw [ChannelHandler.updateVideo, kind]

theorem setAnswered_video (kind : handler.kind = .video video) (answered : Bool) :
    handler.setAnswered answered =
      { handler with kind := .video { video with gotSetupResponse := answered } } := by
  rw [ChannelHandler.setAnswered, kind]

theorem streamOpen_leaves (present : state.handlers[pointer]? = some handler)
    (kind : handler.kind = .video video)
    (took : finishStream (streamOpen protobuf pointer handler.channelId step sample) state =
      some (next, outputs)) :
    next.handlers[pointer]? = some (step.leaves handler video sample) ∧
      outputs.filterMap Milestone.ofOutput = step.milestones := by
  simp only [finishStream, streamOpen, writeHandler, Act.run_bind] at took
  cases step with
  | resetChannelOpen =>
      simp only [OpenStep.run, writeHandler, Act.run_bind, Act.run_modify, Act.run_pure,
        Act.andThen_ok] at took
      cases took
      refine ⟨?_, rfl⟩
      rw [updateHandler_present (updateHandler_present present _)]
      exact congrArg some
        (@updateVideo_video { handler with gotChannelOpenResponse := false } video kind _)
  | sendChannelOpen =>
      simp only [OpenStep.run, readHandler_run present, ChannelHandler.sendChannelOpenRequest,
        sendToHeadunit, Act.run_emit, Act.run_bind, Act.run_modify, Act.run_pure,
        Act.andThen_ok] at took
      cases took
      refine ⟨?_, rfl⟩
      rw [updateHandler_present present, updateVideo_video kind]
      rfl
  | awaitChannelOpen =>
      simp only [OpenStep.run, Act.run_modify, Act.run_pure, Act.andThen_ok] at took
      cases took
      refine ⟨?_, rfl⟩
      rw [updateHandler_present present, updateVideo_video kind]
      rfl
  | resetAnswer =>
      simp only [OpenStep.run, writeHandler, Act.run_bind, Act.run_modify, Act.run_pure,
        Act.andThen_ok] at took
      cases took
      refine ⟨?_, rfl⟩
      rw [updateHandler_present (updateHandler_present present _), setAnswered_video kind]
      rfl
  | sendRequest =>
      simp only [OpenStep.run, readHandler_run present, ChannelHandler.sendRequest, kind,
        VideoChannelHandler.sendSetupRequest, sendToHeadunit, Act.run_emit, Act.run_bind,
        Act.run_modify, Act.run_pure, Act.andThen_ok] at took
      cases took
      refine ⟨?_, rfl⟩
      rw [updateHandler_present present, updateVideo_video kind]
      rfl
  | awaitAnswer =>
      simp only [OpenStep.run, VideoChannelHandler.sendSample, sendToHeadunit, Act.run_emit,
        Act.run_bind, Act.run_modify, Act.run_pure, Act.andThen_ok] at took
      cases took
      refine ⟨?_, sent_sample handler.channelId state sample⟩
      exact (updateHandler_present present _).trans (congrArg some (updateVideo_video kind _))

theorem streamStep_inOrder (inOrder : state.InOrder pointer log)
    (took : (machine protobuf).step state (.streamStep pointer) = some (next, outputs)) :
    next.InOrder pointer (log ++ state.milestones pointer (.streamStep pointer) outputs) := by
  obtain ⟨handler, video, step, sample, present, kind, stream, enabled, ran⟩ := streamStep_body took
  obtain ⟨left, put⟩ := streamOpen_leaves present kind ran
  have observed : state.milestones pointer (.streamStep pointer) outputs = step.milestones := by
    simp [State.milestones, present, ChannelHandler.isVideo, kind, put]
  have stage := inOrder.stages handler present
  rw [observed]
  refine ⟨fun later found => ?_, media_leaves kind stream stage enabled inOrder.media⟩
  rw [left] at found
  cases found
  exact stage_leaves kind stream stage enabled

theorem sample_inOrder (inOrder : state.InOrder pointer log)
    (timely : Timely state (.sample pointer sample))
    (took : (machine protobuf).step state (.sample pointer sample) = some (next, outputs)) :
    next.InOrder pointer (log ++ state.milestones pointer (.sample pointer sample) outputs) := by
  obtain ⟨handler, video, present, kind, idle, ran⟩ := sample_body took
  have observed : state.milestones pointer (.sample pointer sample) outputs =
      outputs.filterMap Milestone.ofOutput := by
    simp [State.milestones, present, ChannelHandler.isVideo, kind]
  rw [observed]
  simp only [finishStream, newSample, Act.run_bind, Act.run_get, Act.andThen_ok] at ran
  cases first : state.firstSample with
  | true =>
      simp only [first, if_true, writeHandler, Act.run_modify] at ran
      cases ran
      refine ⟨fun later found => ?_, inOrder.media.append (by simp)⟩
      rw [updateHandler_present present, updateVideo_video kind] at found
      cases found
      intro opened isVideo
      cases isVideo
      trivial
  | false =>
      have begun : video.channelOpened = true := by
        rcases timely with same | ⟨other, there, opened⟩
        · rw [first] at same
          cases same
        · rw [present] at there
          cases there
          rw [← opened, ChannelHandler.channelOpened, kind]
      have opened : opening.Sublist log := by
        have before := inOrder.stages handler present video kind
        rw [idle] at before
        exact before begun
      simp only [first, Bool.false_eq_true, if_false] at ran
      have put := sent_sample handler.channelId state sample
      simp only [VideoChannelHandler.sendSample, sendToHeadunit, Act.run_emit] at ran put
      cases ran
      rw [List.nil_append, put]
      exact ⟨fun later found => (inOrder.stages later found).mono (by simp) (by simp),
        inOrder.media.concat opened⟩

/-- A handler that is there after a turn was there, or belongs to a channel of a descriptor
that has come. -/
theorem step_added (wired : state.Wired)
    (took : (machine protobuf).step state event = some (next, outputs))
    (missing : state.handlers[pointer]? = none)
    (found : next.handlers[pointer]? = some handler) :
    ∃ channel, handler = Channel.handler channel := by
  cases plain : event.discovers with
  | false =>
      obtain ⟨old, present, -⟩ := (step_sameTable wired plain took).symm.handler found
      rw [missing] at present
      cases present
  | true =>
      cases event with
      | headunit message accept write =>
          obtain ⟨-, rfl, -⟩ := discovery_turn plain took
          rw [discover_handlers, List.getElem?_append_right
            (List.getElem?_eq_none_iff.mp missing), List.getElem?_map] at found
          obtain ⟨channel, -, rfl⟩ := Option.map_eq_some_iff.mp found
          exact ⟨channel, rfl⟩
      | connect | read | clientStep | sample | streamStep | threadTerminated => cases plain

theorem milestones_noSample (other : event.streams ≠ some pointer)
    (took : (machine protobuf).step state event = some (next, outputs)) :
    .media ∉ state.milestones pointer event outputs := by
  unfold State.milestones
  split
  swap
  · simp
  cases event with
  | headunit message accept write =>
      dsimp only
      split
      next given =>
        simp only [List.mem_append, Option.mem_toList, List.mem_filterMap, not_or]
        refine ⟨fun received => ?_, ?_⟩
        · unfold Milestone.received at received
          grind
        · rintro ⟨output, membership, isMedia⟩
          obtain ⟨rfl, -⟩ := headunit_turn took
          rcases content : message.content with _ | ⟨high, _ | ⟨low, rest⟩⟩
          · rw [handleMessageContent_short protobuf accept write state (by simp [content])]
              at membership
            simp at membership
          · rw [handleMessageContent_short protobuf accept write state (by simp [content])]
              at membership
            simp at membership
          · rw [handleMessageContent_ordinary protobuf accept write state content given.1]
              at membership
            exact handleChannelMessage_noSample write message state output membership isMedia
      next => simp
  | sample target sample =>
      dsimp only
      rw [if_neg fun same => other (congrArg some same)]
      simp
  | streamStep target =>
      dsimp only
      rw [if_neg fun same => other (congrArg some same)]
      simp
  | connect | read | clientStep | threadTerminated => simp

theorem isVideo_updateInput (update : InputChannelHandler → InputChannelHandler)
    (handler : ChannelHandler) : (handler.updateInput update).isVideo = handler.isVideo := by
  obtain ⟨channelId, flag, kind⟩ := handler
  cases kind <;> rfl

theorem isVideo_setAnswered (answered : Bool) (handler : ChannelHandler) :
    (handler.setAnswered answered).isVideo = handler.isVideo := by
  obtain ⟨channelId, flag, kind⟩ := handler
  cases kind <;> rfl

theorem stage_of_not_video {before now : List Milestone} (other : handler.isVideo = false) :
    handler.Stage before now := by
  intro video kind
  rw [ChannelHandler.isVideo, kind] at other
  cases other

theorem step_not_video (other : event.streams ≠ some pointer)
    (took : (machine protobuf).step state event = some (next, outputs))
    (present : state.handlers[pointer]? = some handler) (plain : handler.isVideo = false) :
    ∃ later, next.handlers[pointer]? = some later ∧ later.isVideo = false := by
  have settled : Settled fun handler => handler.isVideo = false :=
    ⟨fun handler _ plain => (isVideo_updateInput _ handler).trans plain,
      fun handler _ plain => (isVideo_updateInput _ handler).trans plain⟩
  exact step_handler settled (fun same => absurd same other) (fun _ _ plain => plain)
    (fun _ handler plain => (isVideo_setAnswered false handler).trans plain)
    (fun _ _ _ _ _ _ _ _ plain => plain)
    (fun _ _ _ _ _ _ _ handler plain => (isVideo_setAnswered true handler).trans plain)
    took present plain

theorem step_video (other : event.streams ≠ some pointer) (timely : Timely state event)
    (took : (machine protobuf).step state event = some (next, outputs))
    (present : state.handlers[pointer]? = some handler) (video : handler.isVideo = true)
    (stage : handler.Stage log log) :
    ∃ later, next.handlers[pointer]? = some later ∧
      later.Stage log (log ++ state.milestones pointer event outputs) := by
  have settled : Settled fun later =>
      later.Stage log (log ++ state.milestones pointer event outputs) ∧
        later.streamStep = handler.streamStep :=
    ⟨fun later _ both => ⟨stage_updateInput _ both.1, (streamStep_updateInput _).trans both.2⟩,
      fun later _ both => ⟨stage_updateInput _ both.1, (streamStep_updateInput _).trans both.2⟩⟩
  have received {message : Message} {accept : Accept} {write : Nat → WriteResult}
      (given : state.HandsTo message pointer) :
      state.milestones pointer (.headunit message accept write) outputs =
        (Milestone.received message.content).toList ++ outputs.filterMap Milestone.ofOutput := by
    simp [State.milestones, present, video, given]
  obtain ⟨later, found, stageLater, -⟩ := step_handler settled (fun same => absurd same other)
    (fun _ later both => ⟨stage_opened false both.1 (by simp), both.2⟩)
    (fun _ later both => ⟨stage_setAnswered false both.1 (by simp),
      (streamStep_setAnswered later false).trans both.2⟩)
    (fun message accept write headunit _ given type later both => by
      subst headunit
      refine ⟨stage_opened true both.1 fun _ => ⟨?_, fun asked => ?_⟩, both.2⟩
      · rw [both.2]
        exact (timely pointer handler given present).1 type
      · rw [received given, Milestone.received_openAnswered type]
        exact asked.append (List.sublist_append_left [Milestone.openAnswered] _))
    (fun message accept write headunit _ given type later both => by
      subst headunit
      refine ⟨stage_setAnswered true both.1 fun _ => ⟨?_, fun asked => ?_⟩,
        (streamStep_setAnswered later true).trans both.2⟩
      · rw [both.2]
        exact (timely pointer handler given present).2 type
      · rw [received given, Milestone.received_setupAnswered type]
        exact asked.append (List.sublist_append_left [Milestone.setupAnswered] _))
    took present ⟨stage.mono (.refl _) (by simp), rfl⟩
  exact ⟨later, found, stageLater⟩

theorem step_inOrder (wired : state.Wired) (inOrder : state.InOrder pointer log)
    (timely : Timely state event)
    (took : (machine protobuf).step state event = some (next, outputs)) :
    next.InOrder pointer (log ++ state.milestones pointer event outputs) := by
  by_cases own : event.streams = some pointer
  · cases event with
    | sample target sample =>
        cases own
        exact sample_inOrder inOrder timely took
    | streamStep target =>
        cases own
        exact streamStep_inOrder inOrder took
    | connect | read | clientStep | headunit | threadTerminated => cases own
  refine ⟨fun later found => ?_, inOrder.media.append (milestones_noSample own took)⟩
  cases present : state.handlers[pointer]? with
  | none =>
      obtain ⟨channel, rfl⟩ := step_added wired took present found
      exact newHandler_stage channel _ _
  | some handler =>
      cases video : handler.isVideo with
      | true =>
          obtain ⟨kept, there, stage⟩ :=
            step_video own timely took present video (inOrder.stages handler present)
          rw [there] at found
          cases found
          exact stage.mono (List.sublist_append_left _ _) (.refl _)
      | false =>
          obtain ⟨kept, there, plain⟩ := step_not_video own took present video
          rw [there] at found
          cases found
          exact stage_of_not_video plain

end Turns

section Runs

variable {protobuf : Protobuf} {events : List Event} {final : State}
  {trace : List (Event × List Output)}

/-- In a timely run a video handler sends a sample only when its channel has been opened. -/
theorem video_opening_order (pointer : Nat)
    (timely : (machine protobuf).Within Timely initial events)
    (ran : (machine protobuf).run initial events = some (final, trace)) :
    OpenedBeforeMedia
      ((machine protobuf).observations (State.milestones pointer) initial events) := by
  have kept : ∀ {state : State} {log event next outputs},
      state.Wired ∧ state.InOrder pointer log → Timely state event →
      (machine protobuf).step state event = some (next, outputs) →
      next.Wired ∧ next.InOrder pointer (log ++ state.milestones pointer event outputs) :=
    fun both timely took => ⟨step_wired both.1 took, step_inOrder both.1 both.2 timely took⟩
  have start : initial.InOrder pointer [] := by
    refine ⟨fun handler present => ?_, openedBeforeMedia_nil⟩
    cases pointer with
    | zero =>
        cases present
        exact stage_of_not_video rfl
    | succ pointer => cases present
  have opened := @Machine.run_observed _ _ _ (machine protobuf) _ (State.milestones pointer)
    (fun state log => state.Wired ∧ state.InOrder pointer log) Timely kept initial final [] events
    trace ⟨wired_initial, start⟩ timely ran
  exact opened.2.media

def twoVideoChannels : Event :=
  .headunit ⟨0, 0x0b, [0x00, 0x06, 0x0a, 0x06, 0x08, 0x07, 0x1a, 0x02, 0x08, 0x03,
    0x0a, 0x06, 0x08, 0x08, 0x1a, 0x02, 0x08, 0x03], 0⟩ .failed fun _ => .complete

/-- The first handler gets a sample and asks for its channel. -/
def firstOpens : List Event :=
  [twoVideoChannels, .sample 1 ⟨1000, [0x05]⟩, .streamStep 1, .streamStep 1]

def firstAnswered : List Event :=
  [.headunit ⟨7, 0x0b, [0x00, 0x08], 0⟩ .failed fun _ => .complete, .streamStep 1, .streamStep 1,
    .streamStep 1, .headunit ⟨7, 0x0b, [0x80, 0x03], 0⟩ .failed fun _ => .complete, .streamStep 1]

/-- Then the second handler gets one. -/
def secondSample : List Event := firstAnswered ++ [.sample 2 ⟨1000, [0x06]⟩]

theorem video_opening_order_first :
    (machine .small).observations (State.milestones 1) initial (firstOpens ++ firstAnswered) =
        [.requestedOpen, .openAnswered, .requestedSetup, .setupAnswered, .media] ∧
      OpenedBeforeMedia ((machine .small).observations (State.milestones 1) initial
        (firstOpens ++ firstAnswered)) := by
  obtain ⟨final, trace, ran⟩ : ∃ final trace,
      (machine .small).run initial (firstOpens ++ firstAnswered) = some (final, trace) :=
    ⟨_, _, rfl⟩
  refine ⟨rfl, video_opening_order 1 ?_ ran⟩
  refine ⟨fun pointer handler given => absurd rfl given.1, fun _ _ took => ?_⟩
  cases took
  refine ⟨.inl rfl, fun _ _ took => ?_⟩
  cases took
  refine ⟨trivial, fun _ _ took => ?_⟩
  cases took
  refine ⟨trivial, fun _ _ took => ?_⟩
  cases took
  refine ⟨?_, fun _ _ took => ?_⟩
  · rintro pointer handler ⟨-, entry⟩ present
    cases entry
    cases present
    exact ⟨fun _ => by decide, nofun⟩
  cases took
  refine ⟨trivial, fun _ _ took => ?_⟩
  cases took
  refine ⟨trivial, fun _ _ took => ?_⟩
  cases took
  refine ⟨trivial, fun _ _ took => ?_⟩
  cases took
  refine ⟨?_, fun _ _ _ => ⟨trivial, fun _ _ _ => trivial⟩⟩
  rintro pointer handler ⟨-, entry⟩ present
  cases entry
  cases present
  exact ⟨nofun, fun _ => by decide⟩

/-- The head unit answers before it is asked, and the handler takes the answer. -/
def answeredFirst : List Event :=
  [twoVideoChannels, .sample 1 ⟨1000, [0x05]⟩, .streamStep 1,
    .headunit ⟨7, 0x0b, [0x00, 0x08], 0⟩ .failed fun _ => .complete, .streamStep 1, .streamStep 1,
    .streamStep 1, .streamStep 1, .headunit ⟨7, 0x0b, [0x80, 0x03], 0⟩ .failed fun _ => .complete,
    .streamStep 1]

/-- The second handler sends its first sample on a channel that nobody has opened. -/
theorem second_video_channel_unopened :
    (∃ final trace, (machine .small).run initial (firstOpens ++ secondSample) =
        some (final, trace) ∧
      ¬ OpenedBeforeMedia ((machine .small).observations (State.milestones 2) initial
        (firstOpens ++ secondSample))) ∧
      ∃ final trace, (machine .small).run initial answeredFirst = some (final, trace) ∧
        ¬ OpenedBeforeMedia ((machine .small).observations (State.milestones 1) initial
          answeredFirst) := by
  refine ⟨⟨_, _, rfl, ?_⟩, _, _, rfl, ?_⟩
  · have observed : (machine .small).observations (State.milestones 2) initial
        (firstOpens ++ secondSample) = [.media] := rfl
    rw [observed]
    intro orderly
    exact absurd (orderly [] [] rfl) (by decide)
  · have observed : (machine .small).observations (State.milestones 1) initial answeredFirst =
        [.openAnswered, .requestedOpen, .requestedSetup, .setupAnswered, .media] := rfl
    rw [observed]
    intro orderly
    exact absurd (orderly [.openAnswered, .requestedOpen, .requestedSetup, .setupAnswered] [] rfl)
      (by decide)

end Runs

end AAServer

end AACS
