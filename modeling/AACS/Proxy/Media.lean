import AACS.Client.Session
import AACS.Client.Timestamps
import AACS.Server.Handlers

/-!
The video from `AAServer` to the pipeline of `AAClient`.

Both programs only share the layout: the type in two bytes, the timestamp in eight if there is
one, and the data of the sample. A message without a timestamp makes a pipeline; one with a
timestamp needs one that has been made, since otherwise there is no pointer to push the data to.
-/

namespace AACS

open Effects

abbrev AAClient.VideoChannelHandler.receive (protobuf : Protobuf) (outside : AAClient.Outside)
    (channel channelId : UInt8) (handler : AAClient.VideoChannelHandler)
    (client : AAClient.State) (content : Bytes) :
    Outcome AAClient.State AAClient.Output Fault Unit :=
  (AAClient.VideoChannelHandler.handleMessageFromMobile protobuf outside channel channelId handler
    content).run client

/-- A sample is taken for what it is: the client finds the timestamp, if there is one, and pushes
the data at the time for it. -/
structure SampleRecovered (outside : AAClient.Outside) (handler : AAClient.VideoChannelHandler)
    (client : AAClient.State) (sample : AAServer.Sample) (content : Bytes)
    (received : Outcome AAClient.State AAClient.Output Fault Unit) : Prop where
  branch : AAClient.hasType content MediaMessageType.MediaWithTimestampIndication.code = true ↔
    sample.pts ≠ 0 - 1
  timed : sample.pts ≠ 0 - 1 → ∃ ts : UInt64, ts.toNat = sample.pts.toNat / 1000 ∧
    (AAClient.VideoChannelHandler.timestampOf content).run client = ⟨.ok ts, client, []⟩ ∧
    (handler.app_source = true → received.log.head? =
      some (.pushed (AAClient.VideoChannelHandler.bufferTimestamp
        ((ts - (handler.timed ts).startTimestamp) * 1000)) sample.data))
  untimed : sample.pts = 0 - 1 → outside.createAppSource = .ok () →
    received.log.head? = some (.pushed none sample.data)

/-- A content that is to have a timestamp is pushed if there is room for one and a pipeline;
whatever is pushed is acknowledged unless the pipeline refuses it. -/
structure ContentAnswered (outside : AAClient.Outside) (handler : AAClient.VideoChannelHandler)
    (channelId : UInt8) (content : Bytes)
    (received : Outcome AAClient.State AAClient.Output Fault Unit) : Prop where
  throws : AAClient.hasType content MediaMessageType.MediaWithTimestampIndication.code = true →
    handler.app_source = true →
    ((∃ thrown, received.result = .error (.thrown thrown)) ↔
      content.length - 2 < 8 ∨ ∃ thrown, outside.pushBuffer = .error thrown)
  short : AAClient.hasType content MediaMessageType.MediaWithTimestampIndication.code = true →
    content.length - 2 < 8 →
    (∃ thrown, received.result = .error (.thrown thrown)) ∧ received.log = []
  refused : (∃ thrown, outside.pushBuffer = .error thrown) →
    received.log.count (AAClient.mediaAck channelId) = 0
  acknowledged : outside.pushBuffer = .ok () →
    (∃ time data, .pushed time data ∈ received.log) →
    received.log.count (AAClient.mediaAck channelId) = 1

namespace AAClient

section Contents

variable {protobuf : Protobuf} {outside : Outside} {channel channelId : UInt8}
  {handler : VideoChannelHandler} {state : State} {content : Bytes}

theorem messageType_hasType {type : UInt16} (typed : hasType content type = true) (state : State) :
    (messageType content).run state = ⟨.ok type, state, []⟩ := by
  unfold hasType at typed
  split at typed
  next high low rest =>
    obtain rfl : bigEndian16 high low = type := by simpa using typed
    rfl
  next => cases typed

theorem untimed_run (typed : (messageType content).run state =
      ⟨.ok MediaMessageType.MediaIndication.code, state, []⟩) :
    (VideoChannelHandler.handleMessageFromMobile protobuf outside channel channelId handler
        content).run state =
      let after := ((VideoChannelHandler.setHandler channel channelId
        { handler with app_source := true }).run state).state
      let pushed := Output.pushed none (content.drop 2)
      match outside.createAppSource, outside.pushBuffer with
      | .error thrown, _ => ⟨.error (.thrown thrown), after, []⟩
      | .ok _, .ok _ => ⟨.ok (), after, [pushed, mediaAck channelId]⟩
      | .ok _, .error thrown => ⟨.error (.thrown thrown), after, [pushed]⟩ := by
  unfold VideoChannelHandler.handleMessageFromMobile
  rw [Act.run_bind, typed, Act.andThen_ok, if_neg (by decide), if_neg (by decide),
    if_neg (by decide), if_pos (by decide)]
  rw [Act.run_bind, VideoChannelHandler.setHandler, Act.run_modify, Act.andThen_ok, Act.run_bind]
  cases made : outside.createAppSource with
  | error thrown => rfl
  | ok done =>
      rw [Outside.call, Act.run_pure, Act.andThen_ok, push_run rfl]
      cases outside.pushBuffer <;> rfl

theorem timed_unpiped (piped : handler.app_source = false)
    (typed : (messageType content).run state =
      ⟨.ok MediaMessageType.MediaWithTimestampIndication.code, state, []⟩) :
    (VideoChannelHandler.handleMessageFromMobile protobuf outside channel channelId handler
        content).run state =
      if content.length - 2 < 8 then
        ⟨.error (.thrown (.runtimeError "bytesToUInt64: vector too small")), state, []⟩
      else
        let timed := handler.timed (contentTimestamp content)
        let after := ((VideoChannelHandler.setHandler channel channelId timed).run state).state
        ⟨.error .undefinedBehaviour, after, []⟩ := by
  unfold VideoChannelHandler.handleMessageFromMobile
  rw [Act.run_bind, typed, Act.andThen_ok, if_neg (by decide), if_neg (by decide),
    if_neg (by decide), if_neg (by decide), if_pos (by decide)]
  by_cases short : content.length - 2 < 8
  · simp [short, VideoChannelHandler.timestampOf]
  · have same : (handler.timed (contentTimestamp content)).app_source = false := by
      unfold VideoChannelHandler.timed
      split <;> exact piped
    rw [if_neg short, VideoChannelHandler.timestampOf, if_neg short, ← contentTimestamp]
    simp only [Act.run_bind, Act.run_pure, Act.andThen_ok, List.nil_append]
    rw [← VideoChannelHandler.timed, VideoChannelHandler.setHandler, Act.run_modify,
      Act.andThen_ok, VideoChannelHandler.pushDataToPipeline,
      if_neg (by simp [same]), undefinedBehaviour]
    rfl

/-- Only the two kinds of media messages are pushed or acknowledged. -/
theorem other_quiet
    (untimed : ¬ hasType content MediaMessageType.MediaIndication.code = true)
    (timed : ¬ hasType content MediaMessageType.MediaWithTimestampIndication.code = true) :
    (∀ time data, .pushed time data ∉ (VideoChannelHandler.receive protobuf outside channel
      channelId handler state content).log) ∧
    mediaAck channelId ∉ (VideoChannelHandler.receive protobuf outside channel channelId handler
      state content).log := by
  unfold VideoChannelHandler.receive VideoChannelHandler.handleMessageFromMobile
  rcases content with _ | ⟨high, _ | ⟨low, rest⟩⟩
  · simp [messageType, undefinedBehaviour]
  · simp [messageType, undefinedBehaviour]
  · have notUntimed : bigEndian16 high low ≠ MediaMessageType.MediaIndication.code := by
      simpa [hasType] using untimed
    have notTimed : bigEndian16 high low ≠ MediaMessageType.MediaWithTimestampIndication.code := by
      simpa [hasType] using timed
    rw [Act.run_bind, messageType, Act.run_pure, Act.andThen_ok, if_neg notUntimed,
      if_neg notTimed]
    split
    · simp [sendChannelOpenResponse, sendToMobile, mediaAck, pushBackInt16, MessageType.code]
    · split
      · simp [VideoChannelHandler.sendSetupResponse, VideoChannelHandler.sendVideoFocusIndication,
          sendToMobile, mediaAck, pushBackInt16, MediaMessageType.code]
        exact fun _ low => absurd low (by decide)
      · split <;> simp

theorem count_ack (time : Option UInt64) (data : Bytes) (channelId : UInt8) :
    [Output.pushed time data, mediaAck channelId].count (mediaAck channelId) = 1 := by
  simp [mediaAck]

theorem count_pushed (time : Option UInt64) (data : Bytes) (channelId : UInt8) :
    [Output.pushed time data].count (mediaAck channelId) = 0 := by
  simp [mediaAck]

theorem timed_answered (client : State)
    (timed : hasType content MediaMessageType.MediaWithTimestampIndication.code = true) :
    ContentAnswered outside handler channelId content (VideoChannelHandler.receive protobuf outside
      channel channelId handler client content) := by
  unfold VideoChannelHandler.receive
  have typed := messageType_hasType timed client
  by_cases short : content.length - 2 < 8
  · have threw : (VideoChannelHandler.handleMessageFromMobile protobuf outside channel channelId
        handler content).run client =
          ⟨.error (.thrown (.runtimeError "bytesToUInt64: vector too small")), client, []⟩ := by
      cases piped : handler.app_source with
      | true => rw [timed_run piped typed, if_pos short]
      | false => rw [timed_unpiped piped typed, if_pos short]
    rw [threw]
    exact ⟨fun _ _ => iff_of_true ⟨_, rfl⟩ (.inl short), fun _ _ => ⟨⟨_, rfl⟩, rfl⟩, fun _ => rfl,
      by simp⟩
  · cases piped : handler.app_source with
    | false =>
        rw [timed_unpiped piped typed, if_neg short]
        refine ⟨fun _ other => ?_, fun _ long => absurd long short, fun _ => rfl, by simp⟩
        rw [piped] at other
        cases other
    | true =>
        rw [timed_run piped typed, if_neg short]
        cases taken : outside.pushBuffer with
        | ok done =>
            refine ⟨fun _ _ => ?_, fun _ long => absurd long short, ?_, fun _ _ => count_ack _ _ _⟩
            · exact iff_of_false (by simp) (by simp [short, taken])
            · simp [taken]
        | error thrown =>
            refine ⟨fun _ _ => ?_, fun _ long => absurd long short, fun _ => count_pushed _ _ _, ?_⟩
            · exact iff_of_true ⟨_, rfl⟩ (.inr ⟨thrown, taken⟩)
            · simp [taken]

theorem content_answered (client : State) (content : Bytes) :
    ContentAnswered outside handler channelId content (VideoChannelHandler.receive protobuf outside
      channel channelId handler client content) := by
  by_cases timed : hasType content MediaMessageType.MediaWithTimestampIndication.code = true
  · exact timed_answered client timed
  by_cases untimed : hasType content MediaMessageType.MediaIndication.code = true
  · unfold VideoChannelHandler.receive
    rw [untimed_run (messageType_hasType untimed client)]
    refine ⟨fun other => absurd other timed, fun other => absurd other timed, ?_, ?_⟩
    · rintro ⟨thrown, refused⟩
      cases made : outside.createAppSource with
      | error thrown => rfl
      | ok done =>
          simp only [refused]
          exact count_pushed _ _ _
    · rintro accepted ⟨time, data, pushed⟩
      cases made : outside.createAppSource with
      | error thrown => simp [made] at pushed
      | ok done =>
          simp only [accepted]
          exact count_ack _ _ _
  · obtain ⟨pushes, acknowledges⟩ := @other_quiet protobuf outside channel channelId handler client
      content untimed timed
    refine ⟨fun other => absurd other timed, fun other => absurd other timed,
      fun _ => List.count_eq_zero.mpr acknowledges, ?_⟩
    rintro - ⟨time, data, pushed⟩
    exact absurd pushed (pushes time data)

end Contents

end AAClient

section Samples

variable {protobuf : Protobuf} {outside : AAClient.Outside} {channel channelId : UInt8}
  {handler : AAClient.VideoChannelHandler}

def AAServer.Sample.content (sample : AAServer.Sample) : Bytes :=
  if sample.pts = 0 - 1 then pushBackInt16 [] MediaMessageType.MediaIndication.code ++ sample.data
  else AAClient.mediaWithTimestamp (sample.pts / 1000) sample.data

theorem sendSample_log (number : UInt8) (sample : AAServer.Sample) (server : AAServer.State) :
    ((AAServer.VideoChannelHandler.sendSample number sample).run server).log =
      [.enqueue number (EncryptionType.Encrypted.mask ||| FrameType.Bulk.mask) sample.content] := by
  unfold AAServer.VideoChannelHandler.sendSample AAServer.Sample.content
  split <;> rfl

theorem sample_recovered (client : AAClient.State) (sample : AAServer.Sample) :
    SampleRecovered outside handler client sample sample.content
      (AAClient.VideoChannelHandler.receive protobuf outside channel channelId handler client
        sample.content) := by
  unfold AAClient.VideoChannelHandler.receive
  by_cases none : sample.pts = 0 - 1
  · have content : sample.content = 0 :: 1 :: sample.data := by
      rw [AAServer.Sample.content, if_pos none]
      rfl
    rw [content, AAClient.untimed_run (AAClient.messageType_hasType rfl client)]
    have untimed : AAClient.hasType (0 :: 1 :: sample.data)
        MediaMessageType.MediaWithTimestampIndication.code = false := rfl
    refine ⟨iff_of_false (by simp [untimed]) (by simp [none]), fun some => absurd none some, ?_⟩
    intro _ made
    simp only [made]
    cases outside.pushBuffer <;> rfl
  · have content : sample.content =
        AAClient.mediaWithTimestamp (sample.pts / 1000) sample.data := by
      rw [AAServer.Sample.content, if_neg none]
    rw [content]
    refine ⟨iff_of_true ?_ none, fun _ => ?_, fun some => absurd some none⟩
    · rw [AAClient.mediaWithTimestamp_eq]
      rfl
    · refine ⟨sample.pts / 1000, UInt64.toNat_div _ _, AAClient.timestampOf_run _ _ client,
        fun piped => ?_⟩
      rw [AAClient.timedFrame_run piped]
      cases outside.pushBuffer <;> rfl

end Samples

end AACS
