import AACS.Client.Pipeline
import AACS.Proxy.Forwarding
import AACS.Server.Ordinary

/-!
Where `AAClient` sends its answers.

What `AAClient` itself sends goes out on channel 0 or on the channel of a video or an input
handler. On any other channel it sends what comes from the server, and nothing else.
-/

namespace AACS

namespace AAClient

open Effects Transitions

def State.Numbered (state : State) : Prop :=
  ∀ channel handler, state.channelHandlers channel = some handler → handler.channelId = channel

/-- A message for the phone is on channel 0, or on that of a video or an input handler. -/
def Output.Own (state : State) : Output → Prop
  | .enqueue channel _ _ => channel = 0 ∨ ∃ type, state.kindAt channel = some (some type)
  | .packet _ | .pushed _ _ => True

section Answers

variable {protobuf : Protobuf} {outside : Outside} {state : State}

theorem control_own (flags : UInt8) (data : Bytes) : (Output.enqueue 0 flags data).Own state :=
  .inl rfl

theorem call_own (answer : Except Thrown Unit) :
    (Outside.call answer).Emits (Output.Own state) := by
  unfold Outside.call
  split <;> exact .silent fun _ => rfl

theorem messageType_own (content : Bytes) : (messageType content).Emits (Output.Own state) := by
  unfold messageType
  split <;> exact .silent fun _ => rfl

theorem channelMessage_own (channel : UInt8) (specific : Bool) (content : Bytes) :
    (channelMessage outside channel specific content).Emits (Output.Own state) :=
  .bind (call_own _) fun _ => .emit trivial

theorem pushDataToPipeline_own (handler : VideoChannelHandler) (ts : UInt64) (data : Bytes) :
    (VideoChannelHandler.pushDataToPipeline outside handler ts data).Emits (Output.Own state) := by
  unfold VideoChannelHandler.pushDataToPipeline
  split
  · exact .bind (.emit trivial) fun _ => call_own _
  · exact .silent fun _ => rfl

section Handlers

variable {channelId : UInt8} (special : ∃ type, state.kindAt channelId = some (some type))
include special

theorem inputHandler_own {handler : ChannelHandler} (same : handler.channelId = channelId)
    (channel : UInt8) (content : Bytes) :
    (InputChannelHandler.handleMessageFromMobile outside handler channel content).Emits
      (Output.Own state) := by
  subst same
  refine .bind (messageType_own _) fun type => ?_
  split
  · exact .bind (.emit (.inr special)) fun _ => channelMessage_own _ _ _
  split
  · exact .emit (.inr special)
  · exact .silent fun _ => rfl

theorem videoHandler_own (channel : UInt8) (handler : VideoChannelHandler) (content : Bytes) :
    (VideoChannelHandler.handleMessageFromMobile protobuf outside channel channelId handler
      content).Emits (Output.Own state) := by
  have sends (flags : UInt8) (data : Bytes) :
      (sendToMobile channelId flags data).Emits (Output.Own state) := .emit (.inr special)
  refine .bind (messageType_own _) fun type => ?_
  split
  · exact sends _ _
  split
  · exact .bind (sends _ _) fun _ => sends _ _
  split
  · exact .silent fun _ => rfl
  split
  · exact .bind (.silent fun _ => rfl) fun _ => .bind (call_own _) fun _ =>
      .bind (pushDataToPipeline_own _ _ _) fun _ => sends _ _
  split
  · refine .bind ?_ fun ts => .bind (.silent fun _ => rfl) fun _ =>
      .bind (pushDataToPipeline_own _ _ _) fun _ => sends _ _
    unfold VideoChannelHandler.timestampOf
    split <;> exact .silent fun _ => rfl
  · exact .silent fun _ => rfl

end Handlers

theorem handleChannelMessage_own (numbered : state.Numbered) (msg : Message) :
    ∀ output ∈ ((handleChannelMessage protobuf outside msg).run state).log, output.Own state := by
  simp only [handleChannelMessage, Act.run_bind, Act.run_get, Act.andThen_ok, List.nil_append]
  cases installed : state.channelHandlers msg.channel with
  | none => exact fun output inside => by cases inside
  | some handler =>
      have same := numbered msg.channel handler installed
      have special {type : AAServer.ChannelType} (kind : handler.kind.channelType = some type) :
          ∃ type, state.kindAt msg.channel = some (some type) :=
        ⟨type, by simp [State.kindAt, installed, kind]⟩
      dsimp only
      split
      · exact channelMessage_own _ _ _ state
      next kind => exact inputHandler_own (special (by rw [kind]; rfl)) same _ _ state
      next video kind =>
        rw [same]
        exact videoHandler_own (special (by rw [kind]; rfl)) _ _ _ state

theorem dispatch_own (numbered : state.Numbered) (msg : Message) :
    ∀ output ∈ ((dispatch protobuf outside msg).run state).log, output.Own state := by
  rcases content : msg.content with _ | ⟨high, _ | ⟨low, rest⟩⟩
  · simp [dispatch, content, messageType, undefinedBehaviour]
  · simp [dispatch, content, messageType, undefinedBehaviour]
  rw [dispatch_run outside content]
  split
  · have silent (channels : List Channel) :
        (channels.forM installHandler).Emits (Output.Own state) := by
      refine .forM _ fun channel _ => .silent fun _ => ?_
      unfold installHandler
      split <;> rfl
    exact Act.Emits.bind (.silent fun _ => rfl)
      (fun current => .bind (silent _) fun _ => .emit (control_own _ _)) state
  split
  · exact handleChannelMessage_own numbered msg
  split
  · exact channelMessage_own _ _ _ state
  · exact Act.Emits.silent (fun _ => rfl) state

end Answers

section Turns

variable {protobuf : Protobuf} {session next : Session} {event : Event} {outputs : List Output}
  {channel : UInt8}

theorem numbered_start (sd : Bytes) : (Session.start sd).state.Numbered := by
  intro channel handler installed
  by_cases control : channel = 0
  · subst control
    simp only [Session.start, initial, Function.update_self, Option.some.injEq] at installed
    rw [← installed]
  · simp [Session.start, initial, control] at installed

theorem State.Numbered.install {state : State} (numbered : state.Numbered) (announced : Channel) :
    (state.install announced).Numbered := by
  intro channel handler installed
  by_cases same : channel = announced.number
  · subst same
    simp only [State.install, Function.update_self, Option.some.injEq] at installed
    rw [← installed]
  · simp only [State.install, Function.update_of_ne same] at installed
    exact numbered channel handler installed

theorem foldl_install_numbered (channels : List Channel) {state : State}
    (numbered : state.Numbered) : (channels.foldl State.install state).Numbered := by
  induction channels generalizing state with
  | nil => exact numbered
  | cons first rest inductionHypothesis => exact inductionHypothesis (numbered.install first)

theorem step_numbered (numbered : session.state.Numbered)
    (took : (machine protobuf).step session event = some (next, outputs)) :
    next.state.Numbered := by
  cases discovery : event.discovers with
  | false =>
      intro channel handler installed
      have same := congrFun (step_shapes discovery took) channel
      rw [State.shapeAt, installed, Option.map_some] at same
      obtain ⟨old, before, shape⟩ := Option.map_eq_some_iff.mp same.symm
      rw [← numbered channel old before]
      exact (congrArg Prod.fst shape).symm
  | true =>
      rw [(step_discovers discovery took).1]
      exact foldl_install_numbered _ numbered

theorem run_numbered {sd : Bytes} {past : List Event} {trace : List (Event × List Output)}
    (ran : (machine protobuf).run (Session.start sd) past = some (session, trace)) :
    session.state.Numbered :=
  (machine protobuf).run_keeps step_numbered (numbered_start sd) ran

/-- What is sent is on a channel of the client's own, unless it comes from the server. -/
theorem step_own (numbered : session.state.Numbered) (unprompted : ∀ bytes, event ≠ .packet bytes)
    (took : (machine protobuf).step session event = some (next, outputs)) :
    ∀ output ∈ outputs, output.Own session.state := by
  rw [(step_body took).2.2]
  have handshakes (connect : Connect) (content : Bytes) :
      (handshakeTurn connect content).Emits (Output.Own session.state) := by
    refine .bind ?_ fun through => ?_
    · unfold doSslHandshake
      split
      · exact .silent fun _ => rfl
      · cases connect with
        | answer bytes => exact .bind (.emit (control_own _ _)) fun _ => .silent fun _ => rfl
        | complete | failed | unknown => exact .silent fun _ => rfl
    · split
      · exact .bind (.emit (control_own _ _)) fun _ => .silent fun _ => rfl
      · exact .silent fun _ => rfl
  cases event with
  | packet bytes => exact absurd rfl (unprompted bytes)
  | versionResponse msg connect =>
      refine Act.Emits.bind ?_ (fun _ => handshakes connect []) session.state
      unfold expectVersionResponse
      split <;> exact .silent fun _ => rfl
  | handshake msg connect => exact handshakes connect msg.content session.state
  | message msg outside =>
      exact Act.emits_bind (dispatch_own numbered msg) fun _ => .silent fun _ => rfl

/-- On a default channel nothing is sent, unless it comes from the server. -/
theorem step_quiet (numbered : session.state.Numbered) (uncontrolled : channel ≠ 0)
    (isDefault : session.state.kindAt channel = some none)
    (unprompted : ∀ bytes, event ≠ .packet bytes)
    (took : (machine protobuf).step session event = some (next, outputs)) :
    onChannel channel (queued outputs) = [] := by
  refine List.filter_eq_nil_iff.mpr fun msg inside same => ?_
  obtain rfl : msg.channel = channel := by simpa using same
  obtain ⟨output, among, put⟩ := List.mem_filterMap.mp inside
  have own := step_own numbered unprompted took output among
  cases output with
  | packet | pushed => cases put
  | enqueue number flags content =>
      cases put
      rcases own with control | ⟨type, kind⟩
      · exact uncontrolled control
      · rw [isDefault] at kind
        cases kind

end Turns

end AAClient

end AACS
