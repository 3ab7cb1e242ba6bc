import AACS.Client.Dispatch

/-!
The times at which a video handler of `AAClient` shows its frames.

The first timestamp is to become 100 ms, and all times are counted from it. `startTimestamp` is
zero as long as it is not set, but it is also zero after a first timestamp of 100 ms, so that the
next one sets it again. A time of zero is not written into the buffer.
-/

namespace AACS

namespace AAClient

open Effects

def mediaWithTimestamp (timestamp : UInt64) (data : Bytes) : Bytes :=
  pushBackInt64 (pushBackInt16 [] MediaMessageType.MediaWithTimestampIndication.code) timestamp ++
    data

/-- A frame of the video, and how the pipeline takes it. -/
structure TimedFrame where
  timestamp : UInt64
  flags : UInt8
  data : Bytes
  outside : Outside

def TimedFrame.message (frame : TimedFrame) (channel : UInt8) : Message :=
  ⟨channel, frame.flags, mediaWithTimestamp frame.timestamp frame.data, 0⟩

def pushedTimes (outputs : List Output) : List (Option UInt64) :=
  outputs.filterMap fun
    | .pushed timestamp _ => some timestamp
    | _ => none

def frameTimes (protobuf : Protobuf) (channel : UInt8) :
    State → List TimedFrame → List (Option UInt64)
  | _, [] => []
  | state, frame :: frames =>
      let outcome :=
        (handleChannelMessage protobuf frame.outside (frame.message channel)).run state
      pushedTimes outcome.log ++ frameTimes protobuf channel outcome.state frames

/-- Every time is as far behind 100 ms as the timestamp behind the first one. -/
def expectedTimes : List UInt64 → List UInt64
  | [] => []
  | first :: rest => (first :: rest).map fun timestamp => (timestamp - first + 100000) * 1000

/-- The times that belong to these timestamps are pushed; then they are as far from each other
as the timestamps, and in the same order if none of them wraps. -/
structure KeepsDistances (timestamps : List UInt64) (times : List (Option UInt64)) : Prop where
  each : times = (expectedTimes timestamps).map some
  distances : ∀ {first second : Nat} {timestamp other time late : UInt64},
    timestamps[first]? = some timestamp → timestamps[second]? = some other →
    times[first]? = some (some time) → times[second]? = some (some late) →
    late - time = 1000 * (other - timestamp)
  ordered : timestamps.Pairwise (· ≤ ·) →
    (∀ first ∈ timestamps.head?, ∀ timestamp ∈ timestamps,
      (timestamp.toNat - first.toNat + 100000) * 1000 < 2 ^ 64) →
    times.Pairwise fun earlier later => ∀ time ∈ earlier, ∀ late ∈ later, time ≤ late

/-- The first timestamp is not 100 ms, or the first other one is as good as it: the distance
between them is nothing after it has been multiplied. -/
def SetsBase : List UInt64 → Prop
  | [] => True
  | first :: rest => first ≠ 100000 ∨
      ∀ other ∈ rest.find? (· ≠ 100000), (other - 100000) * 1000 = 0

/-- No timestamp is 100 ms before the first one, or as good as that: its time would be zero. -/
def AvoidsZero : List UInt64 → Prop
  | [] => True
  | first :: rest => ∀ timestamp ∈ rest, (timestamp - first + 100000) * 1000 ≠ 0

def VideoChannelHandler.timed (handler : VideoChannelHandler) (timestamp : UInt64) :
    VideoChannelHandler :=
  if handler.startTimestamp = 0 then { handler with startTimestamp := timestamp - 100000 }
  else handler

def localTimes (startTimestamp : UInt64) : List UInt64 → List UInt64
  | [] => []
  | timestamp :: rest =>
      let start := if startTimestamp = 0 then timestamp - 100000 else startTimestamp
      (timestamp - start) * 1000 :: localTimes start rest

section Law

variable {timestamps : List UInt64} {start : UInt64}

theorem localTimes_set (set : start ≠ 0) :
    localTimes start timestamps = timestamps.map fun timestamp => (timestamp - start) * 1000 := by
  induction timestamps with
  | nil => rfl
  | cons timestamp rest inductionHypothesis =>
      simp only [localTimes, if_neg set, List.map_cons, inductionHypothesis]

theorem localTimes_unset :
    localTimes 0 timestamps = timestamps.map (· * 1000) ↔
      ∀ other ∈ timestamps.find? (· ≠ 100000), (other - 100000) * 1000 = 0 := by
  induction timestamps with
  | nil => simp [localTimes]
  | cons timestamp rest inductionHypothesis =>
      simp only [localTimes, if_true, List.map_cons, List.cons.injEq]
      by_cases base : timestamp = 100000
      · subst base
        have unset : (100000 : UInt64) - 100000 = 0 := by decide
        rw [unset, inductionHypothesis]
        simp
      · have set : timestamp - 100000 ≠ 0 := fun zero => base (by grind)
        rw [localTimes_set set]
        simp only [List.find?_cons, base, ne_eq, not_false_eq_true, decide_true,
          Option.mem_def, Option.some.injEq, forall_eq']
        constructor
        · intro both
          have here := both.1
          grind
        · intro nothing
          refine ⟨by grind, List.map_congr_left fun later _ => ?_⟩
          grind

theorem localTimes_iff : localTimes 0 timestamps = expectedTimes timestamps ↔
    SetsBase timestamps := by
  cases timestamps with
  | nil => simp [localTimes, expectedTimes, SetsBase]
  | cons first rest =>
      rw [SetsBase, expectedTimes]
      by_cases base : first = 100000
      · subst base
        have expected : (fun timestamp : UInt64 => (timestamp - 100000 + 100000) * 1000) =
            (· * 1000) := by
          funext timestamp
          grind
        rw [expected, localTimes_unset]
        simp
      · have set : first - 100000 ≠ 0 := fun zero => base (by grind)
        refine iff_of_true ?_ (.inl base)
        simp only [localTimes, if_true, localTimes_set set, List.map_cons, List.cons.injEq]
        refine ⟨by grind, List.map_congr_left fun later _ => ?_⟩
        grind

theorem expectedTimes_getElem? {first timestamp : UInt64} {rest : List UInt64} {index : Nat}
    (found : (first :: rest)[index]? = some timestamp) :
    (expectedTimes (first :: rest))[index]? = some ((timestamp - first + 100000) * 1000) := by
  rw [expectedTimes, List.getElem?_map, found, Option.map_some]

theorem toNat_expected {first timestamp : UInt64} (later : first ≤ timestamp)
    (fits : (timestamp.toNat - first.toNat + 100000) * 1000 < 2 ^ 64) :
    ((timestamp - first + 100000) * 1000).toNat =
      (timestamp.toNat - first.toNat + 100000) * 1000 := by
  have distance : (timestamp - first).toNat = timestamp.toNat - first.toNat :=
    UInt64.toNat_sub_of_le _ _ later
  have hundred : (100000 : UInt64).toNat = 100000 := by decide
  have thousand : (1000 : UInt64).toNat = 1000 := by decide
  have room : timestamp.toNat - first.toNat + 100000 < 2 ^ 64 :=
    (Nat.le_mul_of_pos_right _ (by decide)).trans_lt fits
  rw [UInt64.toNat_mul, UInt64.toNat_add, distance, hundred, thousand, Nat.mod_eq_of_lt room,
    Nat.mod_eq_of_lt fits]

theorem expectedTimes_distances {first second : Nat} {timestamp other time late : UInt64}
    (found : timestamps[first]? = some timestamp) (found' : timestamps[second]? = some other)
    (pushed : (expectedTimes timestamps)[first]? = some time)
    (pushed' : (expectedTimes timestamps)[second]? = some late) :
    late - time = 1000 * (other - timestamp) := by
  cases timestamps with
  | nil => simp at found
  | cons head rest =>
      rw [expectedTimes_getElem? found] at pushed
      rw [expectedTimes_getElem? found'] at pushed'
      rw [← Option.some.inj pushed, ← Option.some.inj pushed']
      grind

theorem expectedTimes_ordered (sorted : timestamps.Pairwise (· ≤ ·))
    (fits : ∀ first ∈ timestamps.head?, ∀ timestamp ∈ timestamps,
      (timestamp.toNat - first.toNat + 100000) * 1000 < 2 ^ 64) :
    (expectedTimes timestamps).Pairwise (· ≤ ·) := by
  cases timestamps with
  | nil => exact List.Pairwise.nil
  | cons first rest =>
      have fits := fits first rfl
      have least : ∀ timestamp ∈ first :: rest, first ≤ timestamp := fun timestamp membership => by
        rcases List.mem_cons.mp membership with rfl | later
        · exact UInt64.le_refl _
        · exact (List.pairwise_cons.mp sorted).1 timestamp later
      rw [expectedTimes, List.pairwise_map]
      apply sorted.imp_of_mem
      intro timestamp other inside inside' order
      rw [UInt64.le_iff_toNat_le] at order ⊢
      rw [toNat_expected (least _ inside) (fits _ inside),
        toNat_expected (least _ inside') (fits _ inside')]
      omega

theorem avoidsZero_iff : AvoidsZero timestamps ↔ 0 ∉ expectedTimes timestamps := by
  cases timestamps with
  | nil => simp [AvoidsZero, expectedTimes]
  | cons first rest =>
      have base : (first - first + 100000) * 1000 ≠ 0 := by
        rw [UInt64.sub_self]
        decide
      simp only [AvoidsZero, expectedTimes, List.map_cons, List.mem_cons, List.mem_map, not_or,
        not_exists, not_and]
      exact ⟨fun avoids => ⟨base.symm, avoids⟩, fun both => both.2⟩

theorem bufferTimestamp_eq_some {ts time : UInt64} :
    VideoChannelHandler.bufferTimestamp ts = some time ↔ ts = time ∧ time ≠ 0 := by
  unfold VideoChannelHandler.bufferTimestamp
  split
  next set =>
    rw [Option.some.injEq]
    exact ⟨fun same => ⟨same, same ▸ set⟩, And.left⟩
  next unset =>
    refine iff_of_false nofun fun both => both.2 ?_
    rw [← both.1, not_not.mp unset]

theorem map_bufferTimestamp {times expected : List UInt64} :
    times.map VideoChannelHandler.bufferTimestamp = expected.map some ↔
      times = expected ∧ 0 ∉ expected := by
  induction times generalizing expected with
  | nil => cases expected <;> simp
  | cons ts times inductionHypothesis =>
      cases expected with
      | nil => simp
      | cons time expected =>
          simp only [List.map_cons, List.cons.injEq, bufferTimestamp_eq_some, inductionHypothesis,
            List.mem_cons, not_or, ne_comm]
          tauto

theorem keepsDistances_iff {times : List (Option UInt64)} :
    KeepsDistances timestamps times ↔ times = (expectedTimes timestamps).map some := by
  refine ⟨KeepsDistances.each, ?_⟩
  rintro rfl
  refine ⟨rfl, fun found found' pushed pushed' => ?_, fun sorted fits => ?_⟩
  · rw [List.getElem?_map, Option.map_eq_some_iff] at pushed pushed'
    obtain ⟨time, pushed, same⟩ := pushed
    obtain ⟨late, pushed', same'⟩ := pushed'
    cases same
    cases same'
    exact expectedTimes_distances found found' pushed pushed'
  · rw [List.pairwise_map]
    refine (expectedTimes_ordered sorted fits).imp fun order time same late same' => ?_
    cases same
    cases same'
    exact order

end Law

section Handler

variable {protobuf : Protobuf} {outside : Outside} {channel channelId : UInt8}
  {handler : VideoChannelHandler} {state : State}

theorem timed_piped (piped : handler.app_source = true) (timestamp : UInt64) :
    (handler.timed timestamp).app_source = true := by
  unfold VideoChannelHandler.timed
  split <;> exact piped

theorem timed_start (handler : VideoChannelHandler) (timestamp : UInt64) :
    (handler.timed timestamp).startTimestamp =
      if handler.startTimestamp = 0 then timestamp - 100000 else handler.startTimestamp := by
  unfold VideoChannelHandler.timed
  split <;> rfl

def mediaAck (channelId : UInt8) : Output :=
  .enqueue channelId encryptedBulk
    (pushBackInt16 [] MediaMessageType.MediaAckIndication.code ++ [0x08, 0x00, 0x10, 0x01])

theorem push_run (piped : handler.app_source = true) (timestamp : UInt64) (data : Bytes) :
    ((VideoChannelHandler.pushDataToPipeline outside handler timestamp data) >>=
        fun _ => VideoChannelHandler.sendAck channelId).run state =
      match outside.pushBuffer with
      | .ok _ => ⟨.ok (), state,
          [.pushed (VideoChannelHandler.bufferTimestamp timestamp) data, mediaAck channelId]⟩
      | .error thrown => ⟨.error (.thrown thrown), state,
          [.pushed (VideoChannelHandler.bufferTimestamp timestamp) data]⟩ := by
  rw [VideoChannelHandler.pushDataToPipeline, if_pos piped]
  cases taken : outside.pushBuffer with
  | error thrown => simp [Outside.call]
  | ok done => simp [Outside.call, VideoChannelHandler.sendAck, sendToMobile, mediaAck]

def contentTimestamp (content : Bytes) : UInt64 :=
  UInt64.ofNat (BigEndian.decode ((content.drop 2).take 8))

theorem timed_run {content : Bytes} (piped : handler.app_source = true)
    (typed : (messageType content).run state =
      ⟨.ok MediaMessageType.MediaWithTimestampIndication.code, state, []⟩) :
    (VideoChannelHandler.handleMessageFromMobile protobuf outside channel channelId handler
        content).run state =
      if content.length - 2 < 8 then
        ⟨.error (.thrown (.runtimeError "bytesToUInt64: vector too small")), state, []⟩
      else
        let timed := handler.timed (contentTimestamp content)
        let after := ((VideoChannelHandler.setHandler channel channelId timed).run state).state
        let pushed := Output.pushed (VideoChannelHandler.bufferTimestamp
          ((contentTimestamp content - timed.startTimestamp) * 1000)) (content.drop 10)
        match outside.pushBuffer with
        | .ok _ => ⟨.ok (), after, [pushed, mediaAck channelId]⟩
        | .error thrown => ⟨.error (.thrown thrown), after, [pushed]⟩ := by
  unfold VideoChannelHandler.handleMessageFromMobile
  rw [Act.run_bind, typed, Act.andThen_ok, if_neg (by decide), if_neg (by decide),
    if_neg (by decide), if_neg (by decide), if_pos (by decide)]
  by_cases short : content.length - 2 < 8
  · simp [short, VideoChannelHandler.timestampOf]
  · rw [if_neg short, VideoChannelHandler.timestampOf, if_neg short, ← contentTimestamp]
    simp only [Act.run_bind, Act.run_pure, Act.andThen_ok, List.nil_append]
    rw [← VideoChannelHandler.timed, VideoChannelHandler.setHandler, Act.run_modify,
      Act.andThen_ok, push_run (timed_piped piped _)]
    split <;> rfl

theorem mediaWithTimestamp_eq (timestamp : UInt64) (data : Bytes) :
    mediaWithTimestamp timestamp data =
      0 :: 0 :: (BigEndian.encode 8 timestamp.toNat ++ data) := by
  simp [mediaWithTimestamp, pushBackInt64, pushBackInt16, MediaMessageType.code]

theorem contentTimestamp_mediaWithTimestamp (timestamp : UInt64) (data : Bytes) :
    contentTimestamp (mediaWithTimestamp timestamp data) = timestamp := by
  have decoded := @BigEndian.decode_encode 8 _ timestamp.toNat_lt
  simp [contentTimestamp, mediaWithTimestamp_eq, decoded]

theorem timestampOf_run (timestamp : UInt64) (data : Bytes) (state : State) :
    (VideoChannelHandler.timestampOf (mediaWithTimestamp timestamp data)).run state =
      ⟨.ok timestamp, state, []⟩ := by
  rw [VideoChannelHandler.timestampOf, if_neg (by simp [mediaWithTimestamp_eq]),
    ← contentTimestamp, contentTimestamp_mediaWithTimestamp]
  rfl

theorem timedFrame_run (piped : handler.app_source = true) (timestamp : UInt64) (data : Bytes) :
    (VideoChannelHandler.handleMessageFromMobile protobuf outside channel channelId handler
        (mediaWithTimestamp timestamp data)).run state =
      let timed := handler.timed timestamp
      let after := ((VideoChannelHandler.setHandler channel channelId timed).run state).state
      let pushed := Output.pushed
        (VideoChannelHandler.bufferTimestamp ((timestamp - timed.startTimestamp) * 1000)) data
      match outside.pushBuffer with
      | .ok _ => ⟨.ok (), after, [pushed, mediaAck channelId]⟩
      | .error thrown => ⟨.error (.thrown thrown), after, [pushed]⟩ := by
  have typed : (messageType (mediaWithTimestamp timestamp data)).run state =
      ⟨.ok MediaMessageType.MediaWithTimestampIndication.code, state, []⟩ := by
    rw [mediaWithTimestamp_eq]
    rfl
  have long : ¬ (mediaWithTimestamp timestamp data).length - 2 < 8 := by
    simp [mediaWithTimestamp_eq]
  have bytes : (mediaWithTimestamp timestamp data).drop 10 = data := by
    simp [mediaWithTimestamp_eq]
  rw [timed_run piped typed, if_neg long, contentTimestamp_mediaWithTimestamp, bytes]

/-- A frame moves the start once, and its time is counted from there. -/
theorem frameTimes_eq {video : VideoChannelHandler} (piped : video.app_source = true)
    (frames : List TimedFrame)
    (installed : state.channelHandlers channel = some { channelId, kind := .video video }) :
    frameTimes protobuf channel state frames =
      (localTimes video.startTimestamp (frames.map TimedFrame.timestamp)).map
        VideoChannelHandler.bufferTimestamp := by
  induction frames generalizing state video with
  | nil => rfl
  | cons frame frames inductionHypothesis =>
      have handled : (handleChannelMessage protobuf frame.outside (frame.message channel)).run
          state = (VideoChannelHandler.handleMessageFromMobile protobuf frame.outside channel
            channelId video (mediaWithTimestamp frame.timestamp frame.data)).run state := by
        have entry : state.channelHandlers (frame.message channel).channel =
            some { channelId, kind := .video video } := installed
        simp only [handleChannelMessage, Act.run_bind, Act.run_get, Act.andThen_ok, entry,
          List.nil_append]
        rfl
      have later := @inductionHypothesis
        ((VideoChannelHandler.setHandler channel channelId (video.timed frame.timestamp)).run
          state).state _ (timed_piped piped frame.timestamp) (Function.update_self ..)
      rw [frameTimes, handled, timedFrame_run piped, List.map_cons, localTimes, ← timed_start,
        List.map_cons, ← later]
      cases frame.outside.pushBuffer <;> simp [pushedTimes, mediaAck]

end Handler

/-- The times pushed for any frames keep their distances exactly when the first timestamp is not
100 ms, or the first other one differs from it by a multiple of 2 ^ 61, and none is 100 ms before
the first one modulo 2 ^ 61. -/
theorem times_keep_distances_iff (protobuf : Protobuf) (channel channelId : UInt8) (state : State)
    (installed : state.channelHandlers channel =
      some { channelId, kind := .video { app_source := true } })
    (frames : List TimedFrame) :
    KeepsDistances (frames.map TimedFrame.timestamp) (frameTimes protobuf channel state frames) ↔
      SetsBase (frames.map TimedFrame.timestamp) ∧
        AvoidsZero (frames.map TimedFrame.timestamp) := by
  have piped : ({ app_source := true } : VideoChannelHandler).app_source = true := rfl
  rw [keepsDistances_iff, frameTimes_eq piped frames installed, map_bufferTimestamp, localTimes_iff,
    avoidsZero_iff]

def pipedState : State where
  serviceDescription := []
  channelHandlers := Function.update (fun _ => none) 3
    (some { channelId := 3, kind := .video { app_source := true } })

theorem times_keep_distances_two_frames :
    KeepsDistances [5, 7] (frameTimes Protobuf.small 3 pipedState
      [⟨5, 11, [], {}⟩, ⟨7, 11, [], {}⟩]) := by
  refine (times_keep_distances_iff Protobuf.small 3 3 pipedState rfl
    [⟨5, 11, [], {}⟩, ⟨7, 11, [], {}⟩]).mpr ⟨.inl (by decide), fun timestamp later => ?_⟩
  obtain rfl := List.mem_singleton.mp later
  decide

/-- After a first timestamp of 100 ms, the second frame is shown at the time of the first; and a
frame that is 100 ms before the first one gets no time. -/
theorem times_lose_distance :
    (frameTimes Protobuf.small 3 pipedState [⟨100000, 11, [], {}⟩, ⟨140000, 11, [], {}⟩] =
        [some 100000000, some 100000000] ∧
      ¬ KeepsDistances [100000, 140000] (frameTimes Protobuf.small 3 pipedState
        [⟨100000, 11, [], {}⟩, ⟨140000, 11, [], {}⟩])) ∧
    frameTimes Protobuf.small 3 pipedState [⟨200000, 11, [], {}⟩, ⟨100000, 11, [], {}⟩] =
        [some 100000000, none] ∧
      ¬ KeepsDistances [200000, 100000] (frameTimes Protobuf.small 3 pipedState
        [⟨200000, 11, [], {}⟩, ⟨100000, 11, [], {}⟩]) := by
  have together : frameTimes Protobuf.small 3 pipedState
      [⟨100000, 11, [], {}⟩, ⟨140000, 11, [], {}⟩] = [some 100000000, some 100000000] := by decide
  have without : frameTimes Protobuf.small 3 pipedState
      [⟨200000, 11, [], {}⟩, ⟨100000, 11, [], {}⟩] = [some 100000000, none] := by decide
  refine ⟨⟨together, fun kept => ?_⟩, without, fun kept => ?_⟩
  · have each := kept.each
    rw [together] at each
    exact absurd each (by decide)
  · have each := kept.each
    rw [without] at each
    exact absurd each (by decide)

end AAClient

end AACS
