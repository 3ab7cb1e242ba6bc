import AACS.Client.Presence
import AACS.Client.Timestamps
import AACS.Proxy.HandlerTables
import AACS.Proxy.Media
import AACS.Server.Streaming

/-!
What `AAClient` pushes to the pipeline of a video channel.

A message on the channel is pushed when it is a media message, and then its data is, once. The
channel keeps a video handler until the phone asks for the services again.
-/

namespace AACS

open Effects Transitions

namespace AAClient

open AAServer (mediaData typeOf)

def pushes (outputs : List Output) : List Bytes :=
  outputs.filterMap fun
    | .pushed _ data => some data
    | .enqueue _ _ _ | .packet _ => none

/-- A pipeline can be made when one is needed, and takes every buffer. -/
def Outside.pipes (outside : Outside) : Bool :=
  outside.createAppSource.isOk && outside.pushBuffer.isOk

theorem pipes_iff {outside : Outside} : outside.pipes = true ↔
    outside.createAppSource = .ok () ∧ outside.pushBuffer = .ok () := by
  rw [Outside.pipes, Bool.and_eq_true]
  cases outside.createAppSource <;> cases outside.pushBuffer <;> simp [Except.isOk, Except.toBool]

section Shapes

def ChannelHandler.shape (handler : ChannelHandler) : UInt8 × Option AAServer.ChannelType :=
  (handler.channelId, handler.kind.channelType)

def State.shapeAt (state : State) (channel : UInt8) :
    Option (UInt8 × Option AAServer.ChannelType) :=
  (state.channelHandlers channel).map ChannelHandler.shape

theorem kindAt_eq (state : State) (channel : UInt8) :
    state.kindAt channel = (state.shapeAt channel).map Prod.snd := by
  rw [State.kindAt, State.shapeAt, Option.map_map]
  rfl

structure State.SameShape (channel channelId : UInt8) (before after : State) : Prop where
  others : ∀ other, other ≠ channel → after.channelHandlers other = before.channelHandlers other
  own : before.shapeAt channel = some (channelId, some .Video) →
    after.shapeAt channel = some (channelId, some .Video)

variable {channel channelId : UInt8}

instance (channel channelId : UInt8) : Std.Refl (State.SameShape channel channelId) :=
  ⟨fun _ => ⟨fun _ _ => rfl, id⟩⟩

instance (channel channelId : UInt8) : IsTrans State (State.SameShape channel channelId) where
  trans _ _ _ first second :=
    ⟨fun other different => (second.others other different).trans (first.others other different),
      fun video => second.own (first.own video)⟩

theorem setHandler_shape (handler : VideoChannelHandler) :
    (VideoChannelHandler.setHandler channel channelId handler).Preserves
      (State.SameShape channel channelId) :=
  .modify fun state => ⟨fun _ different => Function.update_of_ne different _ _,
    fun _ => by simp [State.shapeAt, ChannelHandler.shape, HandlerKind.channelType]⟩

theorem videoHandler_shape (protobuf : Protobuf) (outside : Outside)
    (handler : VideoChannelHandler) (data : Bytes) :
    (VideoChannelHandler.handleMessageFromMobile protobuf outside channel channelId handler
      data).Preserves (State.SameShape channel channelId) := by
  refine .bind (messageType_keeps _) fun type => ?_
  split
  · exact .emit _
  split
  · exact .bind (.emit _) fun _ => .emit _
  split
  · exact .pure _
  split
  · exact .bind (setHandler_shape _) fun _ => .bind (call_keeps _) fun _ =>
      .bind (pushDataToPipeline_keeps _ _ _ _) fun _ => .emit _
  split
  · refine .bind ?_ fun ts => .bind (setHandler_shape _) fun _ =>
      .bind (pushDataToPipeline_keeps _ _ _ _) fun _ => .emit _
    unfold VideoChannelHandler.timestampOf
    split
    · exact .throw _
    · exact .pure _
  · exact .pure _

def State.SameShapes (before after : State) : Prop := after.shapeAt = before.shapeAt

instance : Std.Refl State.SameShapes := ⟨fun _ => rfl⟩

instance : IsTrans State State.SameShapes where
  trans _ _ _ first second := Eq.trans second first

theorem State.SameShape.sameShapes {before after : State}
    (same : before.SameShape channel channelId after)
    (video : before.shapeAt channel = some (channelId, some .Video)) :
    before.SameShapes after := by
  funext other
  by_cases own : other = channel
  · subst own
    rw [video, same.own video]
  · rw [State.shapeAt, same.others other own, State.shapeAt]

theorem dispatch_shapes (protobuf : Protobuf) (outside : Outside) {msg : Message}
    (other : hasType msg.content MessageType.ServiceDiscoveryRequest.code = false) :
    (dispatch protobuf outside msg).Preserves State.SameShapes := by
  intro state
  rcases content : msg.content with _ | ⟨high, _ | ⟨low, rest⟩⟩
  · simp only [dispatch, content]
    exact refl state
  · simp only [dispatch, content]
    exact refl state
  have notDiscovery : bigEndian16 high low ≠ MessageType.ServiceDiscoveryRequest.code := by
    simpa [hasType, content] using other
  rw [dispatch_run outside content, if_neg notDiscovery]
  split
  · simp only [handleChannelMessage, Act.run_bind, Act.run_get, Act.andThen_ok]
    cases installed : state.channelHandlers msg.channel with
    | none => exact refl state
    | some handler =>
        dsimp only
        split
        · exact channelMessage_keeps _ _ _ _ state
        · exact inputHandler_keeps _ _ _ _ state
        next video kind =>
          refine (videoHandler_shape protobuf outside video msg.content state).sameShapes ?_
          simp [State.shapeAt, installed, ChannelHandler.shape, kind, HandlerKind.channelType]
  · split
    · exact channelMessage_keeps _ _ _ _ state
    · exact refl state

theorem step_shapes {protobuf : Protobuf} {session next : Session} {event : Event}
    {outputs : List Output} (other : event.discovers = false)
    (took : (machine protobuf).step session event = some (next, outputs)) :
    next.state.shapeAt = session.state.shapeAt := by
  obtain ⟨-, after, -⟩ := step_body took
  have kept : (event.body protobuf session.phase).Preserves State.SameShapes := by
    cases event with
    | packet bytes => exact .bind (readerThread_keeps bytes) fun _ => .pure _
    | versionResponse msg connect =>
        exact .bind (expectVersionResponse_keeps _) fun _ => handshakeTurn_keeps _ _
    | handshake msg connect => exact handshakeTurn_keeps _ _
    | message msg outside => exact .bind (dispatch_shapes protobuf outside other) fun _ => .pure _
  rw [after]
  exact kept session.state

theorem step_kinds {protobuf : Protobuf} {session next : Session} {event : Event}
    {outputs : List Output} (other : event.discovers = false)
    (took : (machine protobuf).step session event = some (next, outputs)) :
    next.state.kindAt = session.state.kindAt := by
  funext channel
  rw [kindAt_eq, kindAt_eq, step_shapes other took]

theorem step_dispatching {protobuf : Protobuf} {session next : Session} {event : Event}
    {outputs : List Output} (dispatching : session.phase = .dispatching)
    (took : (machine protobuf).step session event = some (next, outputs)) :
    next.phase = .dispatching := by
  simp only [machine, step] at took
  split at took
  next enabled =>
    have stays : (event.body protobuf session.phase).Returns (· = .dispatching) := by
      cases event with
      | packet | message => exact .bind fun _ => .pure dispatching
      | versionResponse | handshake =>
          have waits := enabled.2
          simp [Event.phase, dispatching] at waits
    split at took
    next phase ended =>
      cases took
      exact stays _ _ ended
    next =>
      cases took
      exact dispatching
    next => cases took
  next => cases took

end Shapes

section Pushing

variable {protobuf : Protobuf} {outside : Outside} {channel channelId : UInt8}
  {handler : VideoChannelHandler} {state : State} {content : Bytes}

theorem hasType_iff {type : UInt16} : hasType content type = true ↔ typeOf content = some type := by
  rcases content with _ | ⟨high, _ | ⟨low, rest⟩⟩ <;> simp [hasType, typeOf]

/-- The handler pushes the data of a media message, and nothing else, unless what comes is not
defined. -/
theorem videoHandler_pushes (made : outside.createAppSource = .ok ())
    (defined : ((VideoChannelHandler.handleMessageFromMobile protobuf outside channel channelId
      handler content).run state).result ≠ .error .undefinedBehaviour) :
    pushes ((VideoChannelHandler.handleMessageFromMobile protobuf outside channel channelId handler
      content).run state).log = (mediaData content).toList := by
  by_cases untimed : hasType content MediaMessageType.MediaIndication.code = true
  · rw [untimed_run (messageType_hasType untimed state), made]
    rw [mediaData, if_pos (hasType_iff.mp untimed)]
    cases outside.pushBuffer <;> rfl
  have notUntimed := fun typed => untimed (hasType_iff.mpr typed)
  rw [mediaData, if_neg notUntimed]
  by_cases timed : hasType content MediaMessageType.MediaWithTimestampIndication.code = true
  · have typed := messageType_hasType timed state
    have named := hasType_iff.mp timed
    have long : content.length - 2 < 8 ↔ ¬ 10 ≤ content.length := by omega
    cases piped : handler.app_source with
    | true =>
        rw [timed_run piped typed]
        by_cases short : content.length - 2 < 8
        · rw [if_pos short, if_neg fun both => long.mp short both.2]
          rfl
        · rw [if_neg short, if_pos ⟨named, by omega⟩]
          cases outside.pushBuffer <;> rfl
    | false =>
        rw [timed_unpiped piped typed] at defined ⊢
        by_cases short : content.length - 2 < 8
        · rw [if_pos short, if_neg fun both => long.mp short both.2]
          rfl
        · rw [if_neg short] at defined
          exact absurd rfl defined
  · rw [if_neg fun both => timed (hasType_iff.mpr both.1)]
    refine List.filterMap_eq_nil_iff.mpr fun output membership => ?_
    cases output with
    | pushed time data => exact absurd membership ((other_quiet untimed timed).1 time data)
    | enqueue | packet => rfl

theorem dispatch_video {msg : Message}
    (other : hasType msg.content MessageType.ServiceDiscoveryRequest.code = false)
    (ordinary : msg.channel ≠ 0)
    (installed : state.channelHandlers msg.channel = some { channelId, kind := .video handler }) :
    (dispatch protobuf outside msg).run state =
      (VideoChannelHandler.handleMessageFromMobile protobuf outside msg.channel channelId handler
        msg.content).run state := by
  rcases content : msg.content with _ | ⟨high, _ | ⟨low, rest⟩⟩
  · simp only [dispatch, content]
    rfl
  · simp only [dispatch, content]
    rfl
  have notDiscovery : bigEndian16 high low ≠ MessageType.ServiceDiscoveryRequest.code := by
    simpa [hasType, content] using other
  rw [dispatch_run outside content, if_neg notDiscovery, if_pos ordinary]
  simp only [handleChannelMessage, Act.run_bind, Act.run_get, Act.andThen_ok, installed,
    List.nil_append, content]

theorem message_pushes {session next : Session} {outputs : List Output} {msg : Message}
    (made : outside.createAppSource = .ok ())
    (other : hasType msg.content MessageType.ServiceDiscoveryRequest.code = false)
    (ordinary : msg.channel ≠ 0)
    (video : session.state.kindAt msg.channel = some (some .Video))
    (took : (machine protobuf).step session (.message msg outside) = some (next, outputs)) :
    pushes outputs = (mediaData msg.content).toList := by
  obtain ⟨-, -, log⟩ := step_body took
  obtain ⟨⟨channelId, kind⟩, installed, isVideo⟩ := Option.map_eq_some_iff.mp video
  cases kind with
  | default => cases isVideo
  | input => cases isVideo
  | video handler =>
      have ran := @dispatch_video protobuf outside _ _ _ _ other ordinary installed
      have defined : ((VideoChannelHandler.handleMessageFromMobile protobuf outside msg.channel
          channelId handler msg.content).run session.state).result ≠
            .error .undefinedBehaviour := by
        intro undefined
        rw [step_undefined] at took
        · cases took
        · exact Act.result_bind_error (by rw [ran, undefined]) _
      rw [log, ← videoHandler_pushes made defined, ← ran, Event.body, Act.log_bind_pure]

end Pushing

end AAClient

end AACS
