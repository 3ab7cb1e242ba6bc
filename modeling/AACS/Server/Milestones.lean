import AACS.Library.History
import AACS.Server.Discovery
import AACS.Server.Flags

/-!
What a video handler sends and receives when it opens its channel.

It waits for two answers, each with a flag that it resets before it sends the request. The
stage that its streaming thread has reached says what has been sent and received so far, as
long as the flags are set by answers to its requests.
-/

namespace AACS

namespace AAServer

open Effects

/-- What a video handler sends and receives when it opens its channel, and then sends on
it. -/
inductive Milestone where
  | requestedOpen
  | openAnswered
  | requestedSetup
  | setupAnswered
  | media
  deriving DecidableEq, Repr

namespace Milestone

def sent (content : Bytes) : Option Milestone :=
  match typeOf content with
  | none => none
  | some type =>
      if type = MessageType.ChannelOpenRequest.code then some .requestedOpen
      else if type = MediaMessageType.SetupRequest.code then some .requestedSetup
      else if type = MediaMessageType.MediaIndication.code ∨
          type = MediaMessageType.MediaWithTimestampIndication.code then some .media
      else none

def received (content : Bytes) : Option Milestone :=
  match typeOf content with
  | none => none
  | some type =>
      if type = MessageType.ChannelOpenResponse.code then some .openAnswered
      else if type = MediaMessageType.SetupResponse.code then some .setupAnswered
      else none

theorem received_openAnswered {content : Bytes}
    (type : typeOf content = some MessageType.ChannelOpenResponse.code) :
    received content = some .openAnswered := by
  rw [received, type]
  rfl

theorem received_setupAnswered {content : Bytes}
    (type : typeOf content = some MediaMessageType.SetupResponse.code) :
    received content = some .setupAnswered := by
  rw [received, type]
  rfl

def ofOutput : Output → Option Milestone
  | .enqueue _ _ content => sent content
  | .packet _ _ => none

end Milestone

def ChannelHandler.isVideo (handler : ChannelHandler) : Bool :=
  match handler.kind with
  | .video _ => true
  | _ => false

instance (state : State) (message : Message) (pointer : Nat) :
    Decidable (state.HandsTo message pointer) :=
  inferInstanceAs (Decidable (_ ∧ _))

/-- The milestones of a turn for a video handler: its streaming thread sends, and the pump
hands it a message. The packets of clients are not for it. -/
def State.milestones (pointer : Nat) (state : State) (event : Event) (outputs : List Output) :
    List Milestone :=
  if (state.handlers[pointer]?).any ChannelHandler.isVideo then
    match event with
    | .sample target _ | .streamStep target =>
        if target = pointer then outputs.filterMap Milestone.ofOutput else []
    | .headunit message _ _ =>
        if state.HandsTo message pointer then
          (Milestone.received message.content).toList ++ outputs.filterMap Milestone.ofOutput
        else []
    | .connect _ _ _ | .read _ _ _ | .clientStep _ | .threadTerminated => []
  else []

def opening : List Milestone := [.requestedOpen, .openAnswered, .requestedSetup, .setupAnswered]

/-- Before every sample that is sent the channel was opened. -/
def OpenedBeforeMedia (log : List Milestone) : Prop :=
  ∀ earlier later, log = earlier ++ .media :: later → opening.Sublist earlier

/-- Where the streaming thread of a video handler is while it opens the channel. -/
def ChannelHandler.streamStep (handler : ChannelHandler) : Option OpenStep :=
  match handler.kind with
  | .video video => video.stream.map Prod.fst
  | _ => none

section Logs

variable {log more : List Milestone}

theorem openedBeforeMedia_nil : OpenedBeforeMedia [] := by
  intro earlier later split
  simp at split

theorem OpenedBeforeMedia.append (orderly : OpenedBeforeMedia log) (other : .media ∉ more) :
    OpenedBeforeMedia (log ++ more) := by
  intro earlier later split
  rcases List.append_eq_append_iff.mp split with ⟨middle, rfl, tail⟩ | ⟨middle, rfl, tail⟩
  · exact absurd (by rw [tail]; simp) other
  · cases middle with
    | nil => exact absurd (by rw [← List.nil_append more, ← tail]; simp) other
    | cons first rest =>
        obtain ⟨rfl, -⟩ : Milestone.media = first ∧ _ := by simpa using tail
        exact orderly earlier rest rfl

theorem OpenedBeforeMedia.concat (orderly : OpenedBeforeMedia log) (opened : opening.Sublist log) :
    OpenedBeforeMedia (log ++ [.media]) := by
  intro earlier later split
  rcases History.concat_eq_split.mp split with ⟨rfl, -, -⟩ | ⟨front, -, before⟩
  · exact opened
  · exact orderly earlier front before

end Logs

section Stages

/-- What has been sent and received when the streaming thread is at this statement, given
the flags for the two answers. An answer may be the last that has come. -/
def OpenStep.Reached (before now : List Milestone) (opened answered : Bool) : OpenStep → Prop
  | .resetChannelOpen => True
  | .sendChannelOpen => opened = false
  | .awaitChannelOpen => [.requestedOpen].Sublist before ∧
      (opened = true → [.requestedOpen, .openAnswered].Sublist now)
  | .resetAnswer => [.requestedOpen, .openAnswered].Sublist before
  | .sendRequest => [.requestedOpen, .openAnswered].Sublist before ∧ answered = false
  | .awaitAnswer => [.requestedOpen, .openAnswered, .requestedSetup].Sublist before ∧
      (answered = true → opening.Sublist now)

/-- A video handler that has begun to open its channel has done it, or its streaming thread
is on its way. -/
def ChannelHandler.Stage (before now : List Milestone) (handler : ChannelHandler) : Prop :=
  ∀ video, handler.kind = .video video →
    match video.stream with
    | none => video.channelOpened = true → opening.Sublist before
    | some (step, _) =>
        step.Reached before now handler.gotChannelOpenResponse video.gotSetupResponse

variable {before now log more : List Milestone} {handler : ChannelHandler}
  {video : VideoChannelHandler} {step : OpenStep} {sample : Sample}

theorem OpenStep.Reached.mono {opened answered : Bool}
    (reached : step.Reached before now opened answered) {before' now' : List Milestone}
    (earlier : before.Sublist before') (later : now.Sublist now') :
    step.Reached before' now' opened answered := by
  cases step with
  | resetChannelOpen => trivial
  | sendChannelOpen => exact reached
  | awaitChannelOpen =>
      exact ⟨reached.1.trans earlier, fun set => (reached.2 set).trans later⟩
  | resetAnswer => exact reached.trans earlier
  | sendRequest => exact ⟨reached.1.trans earlier, reached.2⟩
  | awaitAnswer => exact ⟨reached.1.trans earlier, fun set => (reached.2 set).trans later⟩

theorem ChannelHandler.Stage.mono (stage : handler.Stage before now)
    {before' now' : List Milestone} (earlier : before.Sublist before') (later : now.Sublist now') :
    handler.Stage before' now' := by
  intro video kind
  have held := stage video kind
  split
  next none =>
    rw [none] at held
    exact fun begun => (held begun).trans earlier
  next step sample some =>
    rw [some] at held
    exact held.mono earlier later

theorem newHandler_stage (channel : Channel) (before now : List Milestone) :
    (Channel.handler channel).Stage before now := by
  intro video kind
  have fresh : video = {} := by
    simp only [Channel.handler, Channel.newHandler] at kind
    split at kind
    · cases kind
      rfl
    · split at kind <;> cases kind
  subst fresh
  exact fun begun => by cases begun

theorem stage_updateInput (update : InputChannelHandler → InputChannelHandler)
    (stage : handler.Stage before now) : (handler.updateInput update).Stage before now := by
  obtain ⟨channelId, flag, kind⟩ := handler
  cases kind with
  | default => exact stage
  | video video => exact stage
  | input input =>
      intro video isVideo
      cases isVideo

theorem streamStep_updateInput (update : InputChannelHandler → InputChannelHandler) :
    (handler.updateInput update).streamStep = handler.streamStep := by
  obtain ⟨channelId, flag, kind⟩ := handler
  cases kind <;> rfl

theorem streamStep_setAnswered (handler : ChannelHandler) (answered : Bool) :
    (handler.setAnswered answered).streamStep = handler.streamStep := by
  obtain ⟨channelId, flag, kind⟩ := handler
  cases kind <;> rfl

theorem stage_opened (opened : Bool) (stage : handler.Stage before now)
    (timely : opened = true → handler.streamStep ≠ some .sendChannelOpen ∧
      ([.requestedOpen].Sublist before → [.requestedOpen, .openAnswered].Sublist now)) :
    ChannelHandler.Stage before now { handler with gotChannelOpenResponse := opened } := by
  intro video isVideo
  have kind : handler.kind = .video video := isVideo
  have held := stage video kind
  split
  next none =>
    rw [none] at held
    exact held
  next step sample some =>
    rw [some] at held
    cases step with
    | sendChannelOpen =>
        cases opened with
        | false => rfl
        | true => exact absurd (by simp [ChannelHandler.streamStep, kind, some]) (timely rfl).1
    | awaitChannelOpen => exact ⟨held.1, fun set => (timely set).2 held.1⟩
    | resetChannelOpen | resetAnswer | sendRequest | awaitAnswer => exact held

theorem stage_setAnswered (answered : Bool) (stage : handler.Stage before now)
    (timely : answered = true → handler.streamStep ≠ some .sendRequest ∧
      ([.requestedOpen, .openAnswered, .requestedSetup].Sublist before → opening.Sublist now)) :
    (handler.setAnswered answered).Stage before now := by
  obtain ⟨channelId, flag, kind⟩ := handler
  cases kind with
  | default => exact stage
  | input input =>
      intro video isVideo
      cases isVideo
  | video old =>
      intro video isVideo
      cases isVideo
      have held := stage old rfl
      dsimp only at held ⊢
      split
      next none =>
        rw [none] at held
        exact held
      next step sample some =>
        rw [some] at held
        cases step with
        | sendRequest =>
            cases answered with
            | false => exact ⟨held.1, rfl⟩
            | true => exact absurd (by simp [ChannelHandler.streamStep, some]) (timely rfl).1
        | awaitAnswer => exact ⟨held.1, fun set => (timely set).2 held.1⟩
        | resetChannelOpen | sendChannelOpen | awaitChannelOpen | resetAnswer => exact held

def OpenStep.leaves (handler : ChannelHandler) (video : VideoChannelHandler) (sample : Sample) :
    OpenStep → ChannelHandler
  | .resetChannelOpen => { handler with
      gotChannelOpenResponse := false
      kind := .video { video with stream := some (.sendChannelOpen, sample) } }
  | .sendChannelOpen => { handler with
      kind := .video { video with stream := some (.awaitChannelOpen, sample) } }
  | .awaitChannelOpen => { handler with
      kind := .video { video with stream := some (.resetAnswer, sample) } }
  | .resetAnswer => { handler with
      kind := .video { video with
        gotSetupResponse := false
        stream := some (.sendRequest, sample) } }
  | .sendRequest => { handler with
      kind := .video { video with stream := some (.awaitAnswer, sample) } }
  | .awaitAnswer => { handler with kind := .video { video with stream := none } }

def OpenStep.milestones : OpenStep → List Milestone
  | .sendChannelOpen => [.requestedOpen]
  | .sendRequest => [.requestedSetup]
  | .awaitAnswer => [.media]
  | _ => []

theorem stage_leaves (kind : handler.kind = .video video)
    (stream : video.stream = some (step, sample))
    (stage : handler.Stage log log) (enabled : step.enabled handler = true) :
    (step.leaves handler video sample).Stage (log ++ step.milestones)
      (log ++ step.milestones) := by
  have before := stage video kind
  rw [stream] at before
  dsimp only at before
  intro later isVideo
  cases step with
  | resetChannelOpen =>
      cases isVideo
      rfl
  | sendChannelOpen =>
      cases isVideo
      refine ⟨List.sublist_append_right _ _, fun set => ?_⟩
      have unset : handler.gotChannelOpenResponse = false := before
      cases unset.symm.trans set
  | awaitChannelOpen =>
      cases isVideo
      exact (before.2 enabled).trans (List.sublist_append_left _ _)
  | resetAnswer =>
      cases isVideo
      exact ⟨before.trans (List.sublist_append_left _ _), rfl⟩
  | sendRequest =>
      cases isVideo
      refine ⟨before.1.append (List.Sublist.refl [Milestone.requestedSetup]), fun set => ?_⟩
      cases before.2.symm.trans set
  | awaitAnswer =>
      cases isVideo
      have answered : video.gotSetupResponse = true := by
        rw [← enabled, OpenStep.enabled, ChannelHandler.answered, kind]
      exact fun _ => (before.2 answered).trans (List.sublist_append_left _ _)

theorem media_leaves (kind : handler.kind = .video video)
    (stream : video.stream = some (step, sample))
    (stage : handler.Stage log log) (enabled : step.enabled handler = true)
    (orderly : OpenedBeforeMedia log) : OpenedBeforeMedia (log ++ step.milestones) := by
  cases step with
  | awaitAnswer =>
      have before := stage video kind
      rw [stream] at before
      have answered : video.gotSetupResponse = true := by
        rw [← enabled, OpenStep.enabled, ChannelHandler.answered, kind]
      exact orderly.concat (before.2 answered)
  | resetChannelOpen | sendChannelOpen | awaitChannelOpen | resetAnswer | sendRequest =>
      exact orderly.append (by simp [OpenStep.milestones])

end Stages

section Samples

def Output.NoSample (output : Output) : Prop := Milestone.ofOutput output ≠ some .media

theorem packet_noSample (connection : Nat) (bytes : Bytes) :
    (Output.packet connection bytes).NoSample := fun same => by cases same

theorem handleMessageFromHeadunit_noSample (write : Nat → WriteResult) (pointer : Nat)
    (message : Message) :
    (handleMessageFromHeadunit write pointer message).Emits Output.NoSample := by
  refine .bind (readHandler_emits pointer) fun handler => ?_
  split
  · exact defaultHandler_emits packet_noSample _ _
  · unfold VideoChannelHandler.handleMessageFromHeadunit
    split
    · exact .bind (gotMessage_emits packet_noSample _ _ _ _ _) fun _ => .silent fun _ => rfl
    refine .bind (baseHandler_emits _ _) fun handled => ?_
    split
    · exact .silent fun _ => rfl
    refine .bind (messageType_emits _) fun type => ?_
    split
    · exact .silent fun _ => rfl
    split
    · exact .bind (.emit fun same => by cases same) fun _ => .silent fun _ => rfl
    · exact .silent fun _ => rfl
  · exact inputHandler_emits packet_noSample _ _ _ _ _

/-- No message of the head unit makes a handler send a sample. -/
theorem handleChannelMessage_noSample (write : Nat → WriteResult) (message : Message) :
    (handleChannelMessage write message).Emits Output.NoSample := by
  refine .bind (messageType_emits _) fun type => ?_
  split
  · refine .bind (.silent fun _ => rfl) fun state => ?_
    split
    · exact .silent fun _ => rfl
    · refine .bind (handleMessageFromHeadunit_noSample _ _ _) fun handled => ?_
      split <;> exact .silent fun _ => rfl
  · exact gotMessage_emits packet_noSample _ _ _ _ _

end Samples

end AAServer

end AACS
