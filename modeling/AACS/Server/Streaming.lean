import AACS.Server.ChannelTypes
import AACS.Server.Encrypted
import AACS.Server.Link
import AACS.Server.VideoOpening

/-!
What `AAServer` sends on the channel of a video handler.

A sample that comes while the channel is being opened waits in the streaming thread, and every
other sample is sent at once. Nothing else that the server sends on the channel is a sample.
-/

namespace AACS

namespace AAServer

open Effects Transitions

def mediaData (content : Bytes) : Option Bytes :=
  if typeOf content = some MediaMessageType.MediaIndication.code then some (content.drop 2)
  else if typeOf content = some MediaMessageType.MediaWithTimestampIndication.code ∧
      10 ≤ content.length then some (content.drop 10)
  else none

def mediaOn (channel : UInt8) (messages : List Message) : List Bytes :=
  messages.filterMap fun msg => if msg.channel = channel then mediaData msg.content else none

def State.pending (pointer : Nat) (state : State) : List Bytes :=
  match (state.handlers[pointer]?).map ChannelHandler.kind with
  | some (.video video) => (video.stream.map fun waiting => waiting.2.data).toList
  | _ => []

def Event.samples (pointer : Nat) : Event → List Bytes
  | .sample target taken => if target = pointer then [taken.data] else []
  | _ => []

/-- The channel belongs to the video handler, and no other video handler has its number. -/
structure State.Streams (state : State) (pointer : Nat) (channel : UInt8) : Prop where
  kind : state.kindAt channel = some (some .Video)
  installed : state.channelHandlers channel = some pointer
  alone : ∀ (other : Nat) handler, state.handlers[other]? = some handler →
    handler.shape = (channel, some .Video) → other = pointer

section Media

variable {channel : UInt8} {content : Bytes}

theorem mediaData_eq_none (other : Milestone.sent content ≠ some .media) :
    mediaData content = none := by
  unfold Milestone.sent at other
  unfold mediaData
  cases type : typeOf content with
  | none => rfl
  | some type =>
      simp only [type] at other
      rw [if_neg, if_neg]
      · rintro ⟨same, -⟩
        cases same
        exact other rfl
      · rintro same
        cases same
        exact other rfl

theorem mediaData_sample (sample : Sample) :
    mediaData ((if sample.pts = 0 - 1 then
        pushBackInt16 [] MediaMessageType.MediaIndication.code
      else pushBackInt64 (pushBackInt16 [] MediaMessageType.MediaWithTimestampIndication.code)
        (sample.pts / 1000)) ++ sample.data) = some sample.data := by
  by_cases untimed : sample.pts = 0 - 1
  · rw [if_pos untimed]
    rfl
  · rw [if_neg untimed]
    rfl

theorem mediaOn_append (first second : List Message) :
    mediaOn channel (first ++ second) = mediaOn channel first ++ mediaOn channel second :=
  List.filterMap_append

def Output.OffMedia (channel : UInt8) (output : Output) : Prop :=
  mediaOn channel (queued [output]) = []

theorem Output.NoSample.offMedia {output : Output} (other : output.NoSample) :
    output.OffMedia channel := by
  cases output with
  | packet => rfl
  | enqueue number flags content =>
      simp [OffMedia, queued, mediaOn, mediaData_eq_none other]

theorem control_offMedia (ordinary : channel ≠ 0) (flags : UInt8) (data : Bytes) :
    (Output.enqueue 0 flags data).OffMedia channel := by
  simp [Output.OffMedia, queued, mediaOn, ordinary.symm]

theorem mediaOn_offMedia {outputs : List Output}
    (off : ∀ output ∈ outputs, output.OffMedia channel) :
    mediaOn channel (queued outputs) = [] := by
  induction outputs with
  | nil => rfl
  | cons output rest inductionHypothesis =>
      obtain ⟨first, later⟩ := List.forall_mem_cons.mp off
      have split : queued (output :: rest) = queued [output] ++ queued rest :=
        @List.filterMap_append _ _ [output] rest _
      rw [split, mediaOn_append, first, inductionHypothesis later]
      rfl

end Media

section Queues

variable {protobuf : Protobuf} {state next : State} {scl : Nat} {outputs : List Output}

theorem queued_gotPacket {p : Packet} {clientId : Int} (write : Nat → WriteResult)
    (tabled : state.Tabled) (known : state.clients.lookup scl = some clientId)
    (raw : p.packetType = PacketType.RawData.code) :
    queued ((gotPacket write scl p).run state).log =
      if state.kindAt p.channelNumber = some none then
        [{ channel := p.channelNumber, flags := if p.specific != 0 then 0x0f else 0x0b,
           content := p.data }]
      else [] := by
  rw [gotPacket_rawData write known raw]
  unfold State.kindAt State.handlerAt
  cases installed : state.channelHandlers p.channelNumber with
  | none => rfl
  | some pointer =>
      obtain ⟨⟨channelId, flag, kind⟩, present, -⟩ := tabled _ _ installed
      simp only [present, Option.bind_some, Option.map_some]
      cases kind with
      | default => rfl
      | video video => rfl
      | input input => rfl

def State.SendsOn (state : State) (channel : UInt8) : Event → Prop
  | .read scl reading _ => ∃ client, state.sockets scl = some client ∧
      (client.packet reading).packetType = PacketType.RawData.code ∧
      (client.packet reading).channelNumber = channel
  | _ => False

theorem queued_read {reading : Reading} {write : Nat → WriteResult} (wired : state.Wired)
    (tabled : state.Tabled)
    (took : (machine protobuf).step state (.read scl reading write) = some (next, outputs)) :
    ∀ msg ∈ queued outputs, state.kindAt msg.channel = some none ∧
      state.SendsOn msg.channel (.read scl reading write) := by
  intro msg membership
  obtain ⟨client, present, ready⟩ := step_read_ready took
  obtain ⟨clientId, known⟩ := wired.known present (by simp [ready])
  by_cases eof : reading = .data []
  · subst eof
    rw [step_read_eof protobuf write present ready known] at took
    cases took
    cases membership
  rw [step_read_packet protobuf write present ready eof] at took
  rw [finishClient_log took] at membership
  by_cases raw : (client.packet reading).packetType = PacketType.RawData.code
  · have put := @queued_gotPacket (state.buffered scl client reading) scl (client.packet reading)
      clientId write tabled known raw
    rw [put] at membership
    split at membership
    next isDefault =>
      cases List.mem_singleton.mp membership
      exact ⟨isDefault, client, present, raw, rfl⟩
    next => cases membership
  · cases answer : (state.buffered scl client reading).reply (client.packet reading) with
    | none =>
        obtain ⟨fault, outcome⟩ := gotPacket_unknown write scl raw answer
        rw [outcome] at membership
        cases membership
    | some bytes =>
        rw [gotPacket_request write scl answer] at membership
        split at membership <;> cases membership

end Queues

section Turns

variable {protobuf : Protobuf} {state next : State} {event : Event} {outputs : List Output}
  {pointer : Nat} {channel : UInt8}

theorem State.Streams.handler (streams : state.Streams pointer channel) (tabled : state.Tabled) :
    ∃ handler video, state.handlers[pointer]? = some handler ∧ handler.kind = .video video ∧
      handler.channelId = channel := by
  obtain ⟨handler, found, kind⟩ := Option.map_eq_some_iff.mp streams.kind
  have present := found
  rw [State.handlerAt, streams.installed, Option.bind_some] at present
  have channelId := tabled.channelId_eq found
  cases isVideo : handler.kind with
  | video video => exact ⟨handler, video, present, isVideo, channelId⟩
  | default | input =>
      rw [isVideo] at kind
      cases kind

theorem State.Streams.sameTable (streams : state.Streams pointer channel) (tabled : state.Tabled)
    (same : state.SameTable next) : next.Streams pointer channel where
  kind := by rw [same.kindAt tabled, streams.kind]
  installed := by rw [same.channelHandlers, streams.installed]
  alone other handler present shape := by
    obtain ⟨before, found, sameShape⟩ := same.symm.handler present
    exact streams.alone other before found (sameShape.trans shape)

theorem pending_of {handler : ChannelHandler} {video : VideoChannelHandler}
    (present : state.handlers[pointer]? = some handler) (kind : handler.kind = .video video) :
    state.pending pointer = (video.stream.map fun waiting => waiting.2.data).toList := by
  simp [State.pending, present, kind]

theorem pending_kept (other : event.streams ≠ some pointer)
    (took : (machine protobuf).step state event = some (next, outputs))
    {handler : ChannelHandler} {video : VideoChannelHandler}
    (present : state.handlers[pointer]? = some handler) (kind : handler.kind = .video video) :
    next.pending pointer = state.pending pointer := by
  have settled : Settled fun later => ∃ after, later.kind = .video after ∧
      after.stream = video.stream :=
    ⟨fun later _ ⟨after, same, stream⟩ => ⟨after, by
        rw [ChannelHandler.updateInput, same]; exact same, stream⟩,
      fun later _ ⟨after, same, stream⟩ => ⟨after, by
        rw [ChannelHandler.disconnected, ChannelHandler.updateInput, same]; exact same, stream⟩⟩
  have answered (flag : Bool) (later : ChannelHandler)
      (before : ∃ after, later.kind = .video after ∧ after.stream = video.stream) :
      ∃ after, (later.setAnswered flag).kind = .video after ∧ after.stream = video.stream := by
    obtain ⟨after, same, stream⟩ := before
    exact ⟨{ after with gotSetupResponse := flag }, by rw [setAnswered_video same], stream⟩
  obtain ⟨later, found, after, same, stream⟩ := step_handler settled
    (fun streams => absurd streams other) (fun _ _ kept => kept)
    (fun _ handler kept => answered false handler kept) (fun _ _ _ _ _ _ _ _ kept => kept)
    (fun _ _ _ _ _ _ _ handler kept => answered true handler kept) took present ⟨video, kind, rfl⟩
  rw [pending_of found same, pending_of present kind, stream]

theorem mediaOn_sendSample (channelId : UInt8) (state : State) (sample : Sample) :
    mediaOn channel (queued ((VideoChannelHandler.sendSample channelId sample).run state).log) =
      if channelId = channel then [sample.data] else [] := by
  have data := mediaData_sample sample
  simp only [VideoChannelHandler.sendSample, sendToHeadunit, Act.run_emit, queued, mediaOn,
    List.filterMap_cons, List.filterMap_nil]
  by_cases same : channelId = channel
  · simp only [if_pos same, data]
  · simp only [if_neg same]

theorem mediaOn_streamOpen {handler : ChannelHandler} {video : VideoChannelHandler}
    {step : OpenStep} {sample : Sample} (present : state.handlers[pointer]? = some handler)
    (kind : handler.kind = .video video)
    (took : finishStream (streamOpen protobuf pointer handler.channelId step sample) state =
      some (next, outputs)) :
    mediaOn channel (queued outputs) =
      if step = .awaitAnswer ∧ handler.channelId = channel then [sample.data] else [] := by
  by_cases last : step = .awaitAnswer
  · subst last
    have data := @mediaOn_sendSample channel handler.channelId state sample
    rw [finishStream_log took]
    simpa [streamOpen, OpenStep.run, writeHandler, VideoChannelHandler.sendSample,
      sendToHeadunit] using data
  · rw [if_neg fun both => last both.1]
    have sent := (streamOpen_leaves present kind took).2
    refine mediaOn_offMedia fun output membership => Output.NoSample.offMedia fun isMedia => last ?_
    have inside : Milestone.media ∈ outputs.filterMap Milestone.ofOutput :=
      List.mem_filterMap.mpr ⟨output, membership, isMedia⟩
    rw [sent] at inside
    cases step with
    | awaitAnswer => rfl
    | resetChannelOpen | sendChannelOpen | awaitChannelOpen | resetAnswer | sendRequest =>
        simp [OpenStep.milestones] at inside

theorem openStep_noSample (protobuf : Protobuf) (pointer : Nat) (step : OpenStep) :
    (step.run protobuf pointer).Emits Output.NoSample := by
  cases step with
  | resetChannelOpen | awaitChannelOpen | resetAnswer | awaitAnswer => exact .silent fun _ => rfl
  | sendChannelOpen =>
      exact .bind (readHandler_emits pointer) fun handler =>
        .bind (.emit fun same => by cases same) fun _ => .silent fun _ => rfl
  | sendRequest =>
      refine .bind (readHandler_emits pointer) fun handler => .bind ?_ fun _ => .silent fun _ => rfl
      unfold ChannelHandler.sendRequest
      split
      · exact .silent fun _ => rfl
      · exact .emit fun same => by cases same
      · unfold InputChannelHandler.sendHandshakeRequest
        split
        · exact throw_emits _
        · exact .emit fun same => by cases same

theorem handleMessageContent_offMedia (ordinary : channel ≠ 0) (accept : Accept)
    (write : Nat → WriteResult) (message : Message) :
    (handleMessageContent protobuf accept write message).Emits (Output.OffMedia channel) := by
  have routed : (handleChannelMessage write message).Emits (Output.OffMedia channel) :=
    fun state output membership =>
      (handleChannelMessage_noSample write message state output membership).offMedia
  refine .bind (messageType_emits _) fun type => ?_
  split
  · exact routed
  split
  · exact routed
  split
  · exact handleVersionRequest_emits _ fun data => control_offMedia ordinary _ data
  split
  · exact handleSslHandshake_emits _ fun data => control_offMedia ordinary _ data
  split
  · exact .emit (control_offMedia ordinary _ _)
  split
  · exact handleServiceDiscoveryResponse_emits _ _ _
  split
  · dsimp only [handlePingRequest]
    split
    · exact throw_emits _
    · exact .emit (control_offMedia ordinary _ _)
  · exact throw_emits _

theorem State.Streams.elsewhere (streams : state.Streams pointer channel) {other : Nat}
    {handler : ChannelHandler} {video : VideoChannelHandler}
    (present : state.handlers[other]? = some handler) (kind : handler.kind = .video video)
    (different : other ≠ pointer) : handler.channelId ≠ channel := by
  rintro rfl
  exact different (streams.alone other handler present (by simp [ChannelHandler.shape, kind,
    HandlerKind.channelType]))

theorem sample_media {handler : ChannelHandler} {video : VideoChannelHandler} {sample : Sample}
    (present : state.handlers[pointer]? = some handler) (kind : handler.kind = .video video)
    (channelId : handler.channelId = channel)
    (took : (machine protobuf).step state (.sample pointer sample) = some (next, outputs)) :
    state.pending pointer ++ Event.samples pointer (.sample pointer sample) =
      mediaOn channel (queued outputs) ++ next.pending pointer := by
  obtain ⟨same, idle, there, sameKind, none, ran⟩ := sample_body took
  rw [present] at there
  cases there
  rw [kind] at sameKind
  cases sameKind
  rw [pending_of present kind, none, Event.samples, if_pos rfl]
  have left := finishStream_after ran
  rw [finishStream_log ran]
  simp only [newSample, Act.run_bind, Act.run_get, Act.andThen_ok, List.nil_append] at left ⊢
  split at left
  next first =>
    subst left
    rw [if_pos first]
    have after := updateHandler_present present (ChannelHandler.updateVideo fun video =>
      { video with channelOpened := true, stream := some (.resetChannelOpen, sample) })
    rw [updateVideo_video kind] at after
    simp only [writeHandler, Act.run_modify]
    rw [pending_of after rfl]
    rfl
  next later =>
    have unchanged : next = state := left
    rw [if_neg later, mediaOn_sendSample, if_pos channelId, unchanged, pending_of present kind,
      none]
    rfl

/-- A turn sends the sample that waited, or the one that has come, or none; what it does not
send waits. -/
theorem step_media (wired : state.Wired) (tabled : state.Tabled)
    (streams : state.Streams pointer channel) (ordinary : channel ≠ 0)
    (took : (machine protobuf).step state event = some (next, outputs)) :
    state.pending pointer ++ event.samples pointer =
      mediaOn channel (queued outputs) ++ next.pending pointer := by
  obtain ⟨handler, video, present, kind, channelId⟩ := streams.handler tabled
  have silent (other : event.streams ≠ some pointer) (nothing : event.samples pointer = [])
      (off : mediaOn channel (queued outputs) = []) :
      state.pending pointer ++ event.samples pointer =
        mediaOn channel (queued outputs) ++ next.pending pointer := by
    rw [nothing, off, List.append_nil, List.nil_append, pending_kept other took present kind]
  cases event with
  | connect scl fd stack =>
      obtain ⟨-, -, -, rfl⟩ := connect_turn took
      exact silent (by simp [Event.streams]) rfl rfl
  | read scl reading write =>
      refine silent (by simp [Event.streams]) rfl ?_
      refine List.filterMap_eq_nil_iff.mpr fun msg inside => ?_
      have isDefault := (queued_read wired tabled took msg inside).1
      rw [if_neg]
      rintro rfl
      rw [streams.kind] at isDefault
      cases isDefault
  | clientStep scl =>
      refine silent (by simp [Event.streams]) rfl (mediaOn_offMedia fun output inside => ?_)
      obtain ⟨client, target, step, other, there, opening, -, -, ran⟩ := clientStep_body took
      obtain ⟨clientId, known⟩ := wired.known there (by simp [opening])
      rw [clientOpen_log known ran] at inside
      exact (openStep_noSample protobuf target step state output inside).offMedia
  | headunit message accept write =>
      refine silent (by simp [Event.streams]) rfl (mediaOn_offMedia fun output inside => ?_)
      obtain ⟨rfl, -⟩ := headunit_turn took
      exact handleMessageContent_offMedia ordinary accept write message state output inside
  | threadTerminated =>
      cases took
      exact silent (by simp [Event.streams]) rfl rfl
  | sample target sample =>
      by_cases same : target = pointer
      · subst same
        exact sample_media present kind channelId took
      · refine silent (by simp [Event.streams, same]) (by simp [Event.samples, same]) ?_
        obtain ⟨other, otherVideo, there, otherKind, -, ran⟩ := sample_body took
        have elsewhere := streams.elsewhere there otherKind same
        rw [finishStream_log ran]
        simp only [newSample, Act.run_bind, Act.run_get, Act.andThen_ok, List.nil_append]
        split
        · rfl
        · rw [mediaOn_sendSample, if_neg elsewhere]
  | streamStep target =>
      obtain ⟨other, otherVideo, step, sample, there, otherKind, stream, -, ran⟩ :=
        streamStep_body took
      have sent := @mediaOn_streamOpen _ _ _ _ _ channel _ _ _ _ there otherKind ran
      by_cases same : target = pointer
      · subst same
        rw [present] at there
        cases there
        rw [kind] at otherKind
        cases otherKind
        have left := (streamOpen_leaves present kind ran).1
        rw [sent, pending_of present kind, stream]
        cases step with
        | awaitAnswer =>
            rw [pending_of left rfl, if_pos ⟨rfl, channelId⟩]
            rfl
        | resetChannelOpen | sendChannelOpen | awaitChannelOpen | resetAnswer | sendRequest =>
            rw [pending_of left rfl, if_neg (by simp)]
            rfl
      · refine silent (by simp [Event.streams, same]) rfl ?_
        rw [sent, if_neg fun both => streams.elsewhere there otherKind same both.2]

end Turns

end AAServer

end AACS
