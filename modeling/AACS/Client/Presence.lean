import AACS.Client.Discovery
import AACS.Client.Session

/-!
Which entries of its table `AAClient` uses.

The two threads look no entry up before they call its handler, and the table ends at
254. An entry is there when it is the first one, or when the phone has asked for the
service descriptor before and the descriptor announces the channel.
-/

namespace AACS

namespace AAClient

open Effects Transitions

def Event.calls : Event → Option UInt8
  | .packet bytes =>
      match bytes.take readerBufSize with
      | channel :: _ :: _ => some channel
      | _ => none
  | .message msg _ =>
      if hasType msg.content MessageType.ServiceDiscoveryRequest.code ∨ msg.channel = 0 then none
      else some msg.channel
  | _ => none

/-- The phone asks for the service descriptor, whatever the channel. -/
def Event.discovers : Event → Bool
  | .message msg _ => hasType msg.content MessageType.ServiceDiscoveryRequest.code
  | _ => false

def Event.writes (protobuf : Protobuf) (state : State) (event : Event) : List Nat :=
  if event.discovers then
    (protobuf.serviceDiscoveryResponse_channels state.serviceDescription).map Channel.channel_id
  else []

/-- A turn calls installed handlers only, and stays in the table. -/
structure HandlersPresent (protobuf : Protobuf) (state : State) (event : Event) : Prop where
  called : ∀ channel ∈ event.calls, ∃ handler, state.channelHandlers channel = some handler
  written : ∀ index ∈ event.writes protobuf state, index < 255

def Announces (protobuf : Protobuf) (sd : Bytes) (channel : UInt8) : Prop :=
  ∃ announced ∈ protobuf.serviceDiscoveryResponse_channels sd,
    announced.channel_id = channel.toNat

section Undefined

variable {protobuf : Protobuf} {session : Session}

theorem step_undefined {event : Event}
    (undefined : ((event.body protobuf session.phase).run session.state).result =
      .error .undefinedBehaviour) : (machine protobuf).step session event = none := by
  simp only [machine, step, undefined]
  split <;> rfl

theorem dispatch_run {msg : Message} {high low : UInt8} {rest : Bytes} (outside : Outside)
    (content : msg.content = high :: low :: rest) (state : State) :
    (dispatch protobuf outside msg).run state =
      (if bigEndian16 high low = MessageType.ServiceDiscoveryRequest.code then
        handleServiceDiscoveryRequest protobuf
      else if msg.channel ≠ 0 then handleChannelMessage protobuf outside msg
      else if bigEndian16 high low ∈ forwardedMessageTypes then forwardChannelMessage outside msg
      else Act.throw (.thrown (.runtimeError ("unexpected message: " ++
        toString msg.channel.toNat ++ " " ++ toString msg.flags.toNat ++ " " ++
        hexStr msg.content)))).run state := by
  simp only [dispatch, content, messageType, Act.run_bind, Act.run_pure, Act.andThen_ok,
    List.nil_append]

theorem readerThread_absent {state : State} {bytes : Bytes} {channel : UInt8}
    (calls : channel ∈ (Event.packet bytes).calls) (absent : state.channelHandlers channel = none) :
    ((readerThread bytes).run state).result = .error .undefinedBehaviour := by
  unfold readerThread
  simp only [Event.calls] at calls
  split at calls
  next first specific rest packet =>
    cases calls
    simp only [packet, sendMessagePublic, Act.run_bind, Act.run_get, Act.andThen_ok, absent]
    rfl
  next => cases calls

/-- Without the handler, or with an index outside the table, nothing is defined any more. -/
theorem step_of_absent {event : Event}
    (absent : ¬ HandlersPresent protobuf session.state event) :
    (machine protobuf).step session event = none := by
  apply step_undefined
  cases event with
  | packet bytes =>
      have missing : ∃ channel ∈ (Event.packet bytes).calls,
          session.state.channelHandlers channel = none := by
        by_contra present
        push Not at present
        exact absent ⟨fun channel calls => Option.ne_none_iff_exists'.mp (present channel calls),
          by simp [Event.writes, Event.discovers]⟩
      obtain ⟨channel, calls, none⟩ := missing
      exact Act.result_bind_error (readerThread_absent calls none) _
  | versionResponse msg connect =>
      exact absurd ⟨by simp [Event.calls], by simp [Event.writes, Event.discovers]⟩ absent
  | handshake msg connect =>
      exact absurd ⟨by simp [Event.calls], by simp [Event.writes, Event.discovers]⟩ absent
  | message msg outside =>
      refine Act.result_bind_error ?_ _
      rcases content : msg.content with _ | ⟨high, _ | ⟨low, rest⟩⟩
      · rw [dispatch, content]
        rfl
      · rw [dispatch, content]
        rfl
      rw [dispatch_run outside content]
      by_cases discovery : bigEndian16 high low = MessageType.ServiceDiscoveryRequest.code
      · rw [if_pos discovery]
        refine (handleServiceDiscoveryRequest_outside ?_).1
        by_contra inside
        push Not at inside
        refine absent ⟨by simp [Event.calls, hasType, content, discovery], ?_⟩
        simpa [Event.writes, Event.discovers, hasType, content, discovery] using inside
      · rw [if_neg discovery]
        by_cases control : msg.channel = 0
        · exact absurd ⟨by simp [Event.calls, control],
            by simp [Event.writes, Event.discovers, hasType, content, discovery]⟩ absent
        · have missing : session.state.channelHandlers msg.channel = none := by
            by_contra present
            obtain ⟨handler, installed⟩ := Option.ne_none_iff_exists'.mp present
            refine absent ⟨?_, by
              simp [Event.writes, Event.discovers, hasType, content, discovery]⟩
            simp [Event.calls, hasType, content, discovery, control, installed]
          rw [if_pos control]
          simp only [handleChannelMessage, Act.run_bind, Act.run_get, Act.andThen_ok, missing]
          rfl

end Undefined

section Silent

/-! Most of the client's code writes to no member, so every frame holds of it. -/

variable {frame : State → State → Prop} [Std.Refl frame]

theorem call_keeps (answer : Except Thrown Unit) : (Outside.call answer).Preserves frame := by
  unfold Outside.call
  split
  · exact .pure _
  · exact .throw _

theorem messageType_keeps (content : Bytes) : (messageType content).Preserves frame := by
  unfold messageType
  split
  · exact .pure _
  · exact .throw _

theorem expectVersionResponse_keeps (content : Bytes) :
    (expectVersionResponse content).Preserves frame := by
  unfold expectVersionResponse
  split
  · exact .throw _
  · exact .pure _

variable [IsTrans State frame]

theorem channelMessage_keeps (outside : Outside) (channel : UInt8) (specific : Bool)
    (msg : Bytes) : (channelMessage outside channel specific msg).Preserves frame :=
  .bind (call_keeps _) fun _ => .emit _

theorem pushDataToPipeline_keeps (outside : Outside) (handler : VideoChannelHandler) (ts : UInt64)
    (data : Bytes) :
    (VideoChannelHandler.pushDataToPipeline outside handler ts data).Preserves frame := by
  unfold VideoChannelHandler.pushDataToPipeline
  split
  · exact .bind (.emit _) fun _ => call_keeps _
  · exact .throw _

theorem inputHandler_keeps (outside : Outside) (handler : ChannelHandler) (channel : UInt8)
    (data : Bytes) :
    (InputChannelHandler.handleMessageFromMobile outside handler channel data).Preserves
      frame := by
  refine .bind (messageType_keeps _) fun type => ?_
  split
  · exact .bind (.emit _) fun _ => channelMessage_keeps _ _ _ _
  · split
    · exact .emit _
    · exact .pure _

theorem handshakeTurn_keeps (connect : Connect) (msgContent : Bytes) :
    (handshakeTurn connect msgContent).Preserves frame := by
  refine .bind ?_ fun complete => ?_
  · unfold doSslHandshake
    split
    · exact .throw _
    · split
      · exact .pure _
      · exact .throw _
      · exact .throw _
      · exact .bind (.emit _) fun _ => .pure _
  · split
    · exact .bind (.emit _) fun _ => .pure _
    · exact .pure _

theorem readerThread_keeps (bytes : Bytes) : (readerThread bytes).Preserves frame := by
  unfold readerThread
  split
  · exact .pure _
  · exact .throw _
  · refine .bind .get fun state => ?_
    split
    · exact .throw _
    · exact .emit _

end Silent

section Entries

structure State.SameEntries (before after : State) : Prop where
  description : after.serviceDescription = before.serviceDescription
  entries : ∀ channel,
    (after.channelHandlers channel).isSome = (before.channelHandlers channel).isSome

instance : Std.Refl State.SameEntries := ⟨fun _ => ⟨rfl, fun _ => rfl⟩⟩

instance : IsTrans State State.SameEntries where
  trans _ _ _ first second :=
    ⟨second.description.trans first.description,
      fun channel => (second.entries channel).trans (first.entries channel)⟩

structure State.SameBut (channel : UInt8) (before after : State) : Prop where
  description : after.serviceDescription = before.serviceDescription
  others : ∀ other, other ≠ channel → after.channelHandlers other = before.channelHandlers other
  own : (before.channelHandlers channel).isSome → (after.channelHandlers channel).isSome

instance (channel : UInt8) : Std.Refl (State.SameBut channel) :=
  ⟨fun _ => ⟨rfl, fun _ _ => rfl, id⟩⟩

instance (channel : UInt8) : IsTrans State (State.SameBut channel) where
  trans _ _ _ first second :=
    ⟨second.description.trans first.description,
      fun other different => (second.others other different).trans (first.others other different),
      fun present => second.own (first.own present)⟩

theorem State.SameBut.sameEntries {channel : UInt8} {before after : State}
    (same : before.SameBut channel after)
    (present : (before.channelHandlers channel).isSome) : before.SameEntries after where
  description := same.description
  entries other := by
    by_cases own : other = channel
    · subst own
      rw [present, same.own present]
    · rw [same.others other own]

variable {channel : UInt8}

theorem setHandler_same (channelId : UInt8) (handler : VideoChannelHandler) :
    (VideoChannelHandler.setHandler channel channelId handler).Preserves
      (State.SameBut channel) :=
  .modify fun _ => ⟨rfl, fun _ different => Function.update_of_ne different _ _, fun _ => by simp⟩

theorem videoHandler_same (protobuf : Protobuf) (outside : Outside) (channelId : UInt8)
    (handler : VideoChannelHandler) (data : Bytes) :
    (VideoChannelHandler.handleMessageFromMobile protobuf outside channel channelId handler
      data).Preserves (State.SameBut channel) := by
  refine .bind (messageType_keeps _) fun type => ?_
  split
  · exact .emit _
  split
  · exact .bind (.emit _) fun _ => .emit _
  split
  · exact .pure _
  split
  · exact .bind (setHandler_same _ _) fun _ => .bind (call_keeps _) fun _ =>
      .bind (pushDataToPipeline_keeps _ _ _ _) fun _ => .emit _
  split
  · refine .bind ?_ fun ts => .bind (setHandler_same _ _) fun _ =>
      .bind (pushDataToPipeline_keeps _ _ _ _) fun _ => .emit _
    unfold VideoChannelHandler.timestampOf
    split
    · exact .throw _
    · exact .pure _
  · exact .pure _

theorem handleChannelMessage_entries (protobuf : Protobuf) (outside : Outside) (msg : Message) :
    (handleChannelMessage protobuf outside msg).Preserves State.SameEntries := by
  intro state
  simp only [handleChannelMessage, Act.run_bind, Act.run_get, Act.andThen_ok]
  cases installed : state.channelHandlers msg.channel with
  | none => exact refl state
  | some handler =>
      refine State.SameBut.sameEntries ?_ (by rw [installed]; rfl)
      dsimp only
      split
      · exact channelMessage_keeps _ _ _ _ state
      · exact inputHandler_keeps _ _ _ _ state
      · exact videoHandler_same _ _ _ _ _ state

/-- Only an answer with the service descriptor writes new entries. -/
theorem dispatch_entries (protobuf : Protobuf) (outside : Outside) {msg : Message}
    (other : hasType msg.content MessageType.ServiceDiscoveryRequest.code = false) :
    (dispatch protobuf outside msg).Preserves State.SameEntries := by
  intro state
  rcases content : msg.content with _ | ⟨high, _ | ⟨low, rest⟩⟩
  · simp only [dispatch, content]
    exact refl state
  · simp only [dispatch, content]
    exact refl state
  · have notDiscovery : bigEndian16 high low ≠ MessageType.ServiceDiscoveryRequest.code := by
      simpa [hasType, content] using other
    rw [dispatch_run outside content, if_neg notDiscovery]
    split
    · exact handleChannelMessage_entries protobuf outside msg state
    · split
      · exact channelMessage_keeps _ _ _ _ state
      · exact refl state

theorem foldl_install_entries (channels : List Channel) (state : State) (channel : UInt8) :
    ((channels.foldl State.install state).channelHandlers channel).isSome ↔
      (state.channelHandlers channel).isSome ∨ ∃ announced ∈ channels,
        announced.number = channel := by
  induction channels generalizing state with
  | nil => simp
  | cons first rest inductionHypothesis =>
      rw [List.foldl_cons, inductionHypothesis, List.exists_mem_cons_iff, ← or_assoc]
      apply or_congr_left
      by_cases same : channel = first.number
      · simp [State.install, same]
      · simp [State.install, same, Ne.symm same]

theorem foldl_install_description (channels : List Channel) (state : State) :
    (channels.foldl State.install state).serviceDescription = state.serviceDescription :=
  Act.foldl_keeps State.install State.serviceDescription (fun _ _ => rfl) channels state

end Entries

section Runs

variable {protobuf : Protobuf} {sd : Bytes} {session next : Session} {event : Event}
  {past : List Event} {outputs : List Output}

structure Session.Follows (protobuf : Protobuf) (sd : Bytes) (session : Session)
    (past : List Event) : Prop where
  description : session.state.serviceDescription = sd
  entries : ∀ channel, (session.state.channelHandlers channel).isSome ↔
    channel = 0 ∨ (∃ earlier ∈ past, earlier.discovers) ∧ Announces protobuf sd channel

theorem start_follows : (Session.start sd).Follows protobuf sd [] where
  description := rfl
  entries channel := by
    by_cases control : channel = 0
    · subst control
      simp [Session.start, initial]
    · simp [Session.start, initial, control]

theorem step_sameEntries (other : event.discovers = false)
    (took : (machine protobuf).step session event = some (next, outputs)) :
    session.state.SameEntries next.state := by
  obtain ⟨-, after, -⟩ := step_body took
  have kept : (event.body protobuf session.phase).Preserves State.SameEntries := by
    cases event with
    | packet bytes => exact .bind (readerThread_keeps bytes) fun _ => .pure _
    | versionResponse msg connect =>
        exact .bind (expectVersionResponse_keeps _) fun _ => handshakeTurn_keeps _ _
    | handshake msg connect => exact handshakeTurn_keeps _ _
    | message msg outside => exact .bind (dispatch_entries protobuf outside other) fun _ => .pure _
  rw [after]
  exact kept session.state

theorem step_discovers (discovery : event.discovers = true)
    (took : (machine protobuf).step session event = some (next, outputs)) :
    next.state = (protobuf.serviceDiscoveryResponse_channels
        session.state.serviceDescription).foldl State.install session.state ∧
      ∀ channel ∈ protobuf.serviceDiscoveryResponse_channels session.state.serviceDescription,
        channel.channel_id < 255 := by
  have small : ∀ channel ∈ protobuf.serviceDiscoveryResponse_channels
      session.state.serviceDescription, channel.channel_id < 255 := by
    by_contra outside
    have absent : ¬ HandlersPresent protobuf session.state event := by
      intro present
      apply outside
      simpa [Event.writes, discovery] using present.written
    rw [step_of_absent absent] at took
    cases took
  obtain ⟨-, after, -⟩ := step_body took
  refine ⟨?_, small⟩
  rw [after]
  cases event with
  | message msg outside =>
      rcases content : msg.content with _ | ⟨high, _ | ⟨low, rest⟩⟩
      · simp [Event.discovers, hasType, content] at discovery
      · simp [Event.discovers, hasType, content] at discovery
      · have type : bigEndian16 high low = MessageType.ServiceDiscoveryRequest.code := by
          simpa [Event.discovers, hasType, content] using discovery
        simp only [Event.body, Act.run_bind, dispatch_run outside content, if_pos type,
          handleServiceDiscoveryRequest_run small, Act.andThen_ok, Act.run_pure]
  | packet | versionResponse | handshake => cases discovery

theorem step_follows (follows : session.Follows protobuf sd past)
    (took : (machine protobuf).step session event = some (next, outputs)) :
    next.Follows protobuf sd (past ++ [event]) := by
  cases discovery : event.discovers with
  | false =>
      have same := step_sameEntries discovery took
      refine ⟨same.description.trans follows.description, fun channel => ?_⟩
      rw [same.entries, follows.entries]
      simp [discovery]
  | true =>
      obtain ⟨after, small⟩ := step_discovers discovery took
      rw [follows.description] at after small
      have announces (channel : UInt8) : (∃ announced ∈
          protobuf.serviceDiscoveryResponse_channels sd, announced.number = channel) ↔
            Announces protobuf sd channel := by
        refine exists_congr fun announced => and_congr_right fun membership => ?_
        exact announced.number_eq_iff (Nat.lt_succ_of_lt (small announced membership))
      constructor
      · rw [after, foldl_install_description, follows.description]
      · intro channel
        rw [after, foldl_install_entries, announces, follows.entries]
        simp only [List.mem_append, List.mem_singleton, or_and_right, exists_or,
          exists_eq_left, discovery]
        tauto

theorem run_follows {history : List Event} {trace : List (Event × List Output)}
    (ran : (machine protobuf).run (Session.start sd) history = some (session, trace)) :
    session.Follows protobuf sd history :=
  @Machine.run_past _ _ _ (machine protobuf) (Session.Follows protobuf sd)
    (fun follows took => step_follows follows took) _ _ _ _ start_follows ran

/-- Wherever a run has come to, the next turn calls installed handlers only and stays in
the table exactly when its channel is 0, or one of the descriptor that the phone has asked
for before, and the descriptor it asks for announces no channel from 255 on. -/
theorem handlers_present_iff {history : List Event} {trace : List (Event × List Output)}
    (ran : (machine protobuf).run (Session.start sd) history = some (session, trace))
    (event : Event) :
    HandlersPresent protobuf session.state event ↔
      (∀ channel ∈ event.calls, channel = 0 ∨
        (∃ earlier ∈ history, earlier.discovers) ∧ Announces protobuf sd channel) ∧
      (event.discovers → ∀ announced ∈ protobuf.serviceDiscoveryResponse_channels sd,
        announced.channel_id < 255) := by
  have follows := run_follows ran
  have entry (channel : UInt8) :
      (∃ handler, session.state.channelHandlers channel = some handler) ↔
        channel = 0 ∨ (∃ earlier ∈ history, earlier.discovers) ∧ Announces protobuf sd channel := by
    rw [← follows.entries channel, Option.isSome_iff_exists]
  have indices : (∀ index ∈ event.writes protobuf session.state, index < 255) ↔
      (event.discovers → ∀ announced ∈ protobuf.serviceDiscoveryResponse_channels sd,
        announced.channel_id < 255) := by
    unfold Event.writes
    rw [follows.description]
    cases event.discovers <;> simp
  rw [← indices]
  constructor
  · rintro ⟨called, written⟩
    exact ⟨fun channel calls => (entry channel).mp (called channel calls), written⟩
  · rintro ⟨called, written⟩
    exact ⟨fun channel calls => (entry channel).mpr (called channel calls), written⟩

/-- A client that is asked for its descriptor with channel 7, before and after. -/
theorem handlers_present_after_discovery :
    ∃ session trace,
      (machine .small).run (Session.start [0x0a, 0x04, 0x08, 7, 0x22, 0x00])
        [.versionResponse ⟨0, 3, [0, 2, 0, 1, 0, 5, 0, 0], 0⟩ .complete,
          .message ⟨0, 0x0b, [0, 5], 0⟩ {}] = some (session, trace) ∧
      HandlersPresent .small session.state (.packet [7, 0, 0x80, 0x01]) := by
  obtain ⟨session, trace, ran⟩ : ∃ session trace,
      (machine .small).run (Session.start [0x0a, 0x04, 0x08, 7, 0x22, 0x00])
        [.versionResponse ⟨0, 3, [0, 2, 0, 1, 0, 5, 0, 0], 0⟩ .complete,
          .message ⟨0, 0x0b, [0, 5], 0⟩ {}] = some (session, trace) := ⟨_, _, rfl⟩
  refine ⟨session, trace, ran, (handlers_present_iff ran _).mpr ⟨?_, by decide⟩⟩
  intro channel calls
  obtain rfl : channel = 7 := by simpa [Event.calls, readerBufSize, eq_comm] using calls
  exact .inr ⟨⟨.message ⟨0, 0x0b, [0, 5], 0⟩ {}, by simp, rfl⟩, ⟨7, none, some []⟩, by
    simp [Protobuf.small, Protobuf.smallChannels], rfl⟩

/-- A client that is started again, while the head unit goes on sending: the first packet
is there before the phone has asked for anything. -/
theorem packet_before_discovery :
    ¬ ∀ (protobuf : Protobuf) (sd : Bytes) (history : List Event) (session : Session)
      (trace : List (Event × List Output)) (event : Event),
      (machine protobuf).run (Session.start sd) history = some (session, trace) →
      HandlersPresent protobuf session.state event := by
  intro always
  obtain ⟨handler, installed⟩ := (always .small [0x0a, 0x04, 0x08, 7, 0x22, 0x00] []
    (Session.start [0x0a, 0x04, 0x08, 7, 0x22, 0x00]) [] (.packet [7, 0, 0x80, 0x01]) rfl).called 7
      (by decide)
  cases installed

end Runs

end AAClient

end AACS
