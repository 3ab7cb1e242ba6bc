import AACS.Server.Shutdown
import AACS.Server.Streaming

/-!
What `AAServer` puts on a channel of its own accord.

The server itself sends on channel 0 and on the channels of its video and input handlers. On any
other channel it sends what its clients have sent, and nothing else.
-/

namespace AACS

def onChannel (channel : UInt8) (messages : List Message) : List Message :=
  messages.filter (·.channel = channel)

theorem onChannel_append (channel : UInt8) (first second : List Message) :
    onChannel channel (first ++ second) = onChannel channel first ++ onChannel channel second :=
  List.filter_append first second

namespace AAServer

open Effects Transitions

/-- The channel of a video or of an input handler. -/
def State.Special (state : State) (channel : UInt8) : Prop :=
  ∃ handler ∈ state.handlers, handler.channelId = channel ∧
    handler.kind.channelType.isSome = true

def Output.Own (state : State) : Output → Prop
  | .enqueue channel _ _ => channel = 0 ∨ state.Special channel
  | .packet _ _ => True

def State.OpensInputs (state : State) : Prop :=
  ∀ scl client pointer step, state.sockets scl = some client →
    client.thread = .opening pointer step →
    ∃ handler, state.handlers[pointer]? = some handler ∧ handler.kind.channelType = some .Input

section Handlers

variable {protobuf : Protobuf} {state : State} {pointer : Nat} {handler : ChannelHandler}

theorem packet_own (connection : Nat) (bytes : Bytes) :
    (Output.packet connection bytes).Own state :=
  trivial

theorem control_own (flags : UInt8) (data : Bytes) : (Output.enqueue 0 flags data).Own state :=
  .inl rfl

theorem special_own (present : state.handlers[pointer]? = some handler)
    (special : handler.kind.channelType.isSome = true) (flags : UInt8) (data : Bytes) :
    (Output.enqueue handler.channelId flags data).Own state :=
  .inr ⟨handler, List.mem_of_getElem? present, rfl, special⟩

theorem readHandler_log {α : Type} {next : ChannelHandler → ServerAct α}
    (present : state.handlers[pointer]? = some handler) :
    ((readHandler pointer >>= next).run state).log = ((next handler).run state).log := by
  rw [Act.run_bind, readHandler_run present, Act.andThen_ok, List.nil_append]

theorem openStep_own (present : state.handlers[pointer]? = some handler)
    (special : handler.kind.channelType.isSome = true) (step : OpenStep) :
    ∀ output ∈ ((step.run protobuf pointer).run state).log, output.Own state := by
  have sends := special_own present special
  cases step with
  | resetChannelOpen | awaitChannelOpen | resetAnswer | awaitAnswer =>
      exact fun output inside => by cases inside
  | sendChannelOpen =>
      rw [OpenStep.run, readHandler_log present]
      exact Act.Emits.bind (.emit (sends _ _)) (fun _ => .silent fun _ => rfl) state
  | sendRequest =>
      rw [OpenStep.run, readHandler_log present]
      refine Act.Emits.bind ?_ (fun _ => .silent fun _ => rfl) state
      unfold ChannelHandler.sendRequest
      split
      · exact .silent fun _ => rfl
      · exact .emit (sends _ _)
      · unfold InputChannelHandler.sendHandshakeRequest
        split
        · exact throw_emits _
        · exact .emit (sends _ _)

theorem handleMessageFromHeadunit_own (write : Nat → WriteResult) (message : Message) :
    ∀ output ∈ ((handleMessageFromHeadunit write pointer message).run state).log,
      output.Own state := by
  cases present : state.handlers[pointer]? with
  | none =>
      intro output inside
      simp [handleMessageFromHeadunit, readHandler, present, undefinedBehaviour] at inside
  | some base =>
      rw [handleMessageFromHeadunit, readHandler_log present]
      split
      · exact defaultHandler_emits packet_own _ _ state
      next video kind =>
        unfold VideoChannelHandler.handleMessageFromHeadunit
        split
        · exact Act.Emits.bind (gotMessage_emits packet_own _ _ _ _ _)
            (fun _ => .silent fun _ => rfl) state
        refine Act.Emits.bind (baseHandler_emits _ _) (fun handled => ?_) state
        split
        · exact .silent fun _ => rfl
        refine .bind (messageType_emits _) fun type => ?_
        split
        · exact .silent fun _ => rfl
        split
        · exact .bind (.emit (special_own present (by rw [kind]; rfl) _ _)) fun _ =>
            .silent fun _ => rfl
        · exact .silent fun _ => rfl
      · exact inputHandler_emits packet_own _ _ _ _ _ state

theorem handleChannelMessage_own (write : Nat → WriteResult) (message : Message) :
    ∀ output ∈ ((handleChannelMessage write message).run state).log, output.Own state := by
  rcases content : message.content with _ | ⟨high, _ | ⟨low, rest⟩⟩
  · rw [handleChannelMessage, content]
    exact fun output inside => by cases inside
  · rw [handleChannelMessage, content]
    exact fun output inside => by cases inside
  by_cases control : message.channel = 0
  · simp only [handleChannelMessage, content, control, ne_eq, not_true_eq_false, if_false]
    exact Act.Emits.bind (messageType_emits _)
      (fun _ => gotMessage_emits packet_own _ _ _ _ _) state
  cases installed : state.channelHandlers message.channel with
  | none =>
      intro output inside
      simp [handleChannelMessage, content, control, messageType_run, installed,
        undefinedBehaviour] at inside
  | some target =>
      rw [handleChannelMessage_run write content control installed]
      rw [← Act.run_bind]
      refine Act.emits_bind (handleMessageFromHeadunit_own write message) fun handled => ?_
      split
      · exact .silent fun _ => rfl
      · exact throw_emits _

theorem handleMessageContent_own (accept : Accept) (write : Nat → WriteResult)
    (message : Message) :
    ∀ output ∈ ((handleMessageContent protobuf accept write message).run state).log,
      output.Own state := by
  have routed := @handleChannelMessage_own state write message
  rcases content : message.content with _ | ⟨high, _ | ⟨low, rest⟩⟩
  · rw [handleMessageContent_short protobuf accept write state (by simp [content])]
    exact fun output inside => by cases inside
  · rw [handleMessageContent_short protobuf accept write state (by simp [content])]
    exact fun output inside => by cases inside
  by_cases control : message.channel = 0
  · rw [handleMessageContent_control protobuf accept write state content control]
    split
    · exact routed
    split
    · exact handleVersionRequest_emits _ (fun data => control_own _ data) state
    split
    · exact handleSslHandshake_emits _ (fun data => control_own _ data) state
    split
    · exact Act.Emits.emit (control_own _ _) state
    split
    · exact handleServiceDiscoveryResponse_emits _ _ _ state
    split
    · unfold handlePingRequest
      split
      · exact throw_emits _ state
      · exact Act.Emits.emit (control_own _ _) state
    · exact throw_emits _ state
  · rw [handleMessageContent_ordinary protobuf accept write state content control]
    exact routed

end Handlers

section Threads

variable {protobuf : Protobuf} {state next : State} {event : Event} {outputs : List Output}
  {scl pointer : Nat}

theorem clientRead_opens {clientId : Int} {client : SocketClient} {reading : Reading}
    {write : Nat → WriteResult} {step : OpenStep}
    (known : state.clients.lookup scl = some clientId)
    (ended : ((clientRead write scl client reading).run state).result =
      .ok (.opening pointer step)) :
    ∃ handler, state.handlers[pointer]? = some handler ∧
      handler.kind.channelType = some .Input := by
  by_cases eof : reading = .data []
  · subst eof
    rw [clientRead_eof write known] at ended
    cases ended
  rw [clientRead_packet write eof] at ended
  by_cases raw : (client.packet reading).packetType = PacketType.RawData.code
  · have knownToo : (state.buffered scl client reading).clients.lookup scl = some clientId := known
    rw [gotPacket_rawData write knownToo raw] at ended
    split at ended
    next => cases ended
    next target installed =>
      split at ended
      · cases ended
      · cases ended
      · cases ended
      next input kind =>
        cases ended
        obtain ⟨handler, present, isInput⟩ := Option.map_eq_some_iff.mp kind
        exact ⟨handler, present, by rw [isInput]; rfl⟩
  · cases answer : (state.buffered scl client reading).reply (client.packet reading) with
    | none =>
        obtain ⟨fault, outcome⟩ := gotPacket_unknown write scl raw answer
        rw [outcome] at ended
        cases ended
    | some bytes =>
        rw [gotPacket_request write scl answer] at ended
        split at ended <;> cases ended

theorem step_opens (wired : state.Wired) (opens : state.OpensInputs)
    (took : (machine protobuf).step state event = some (next, outputs)) {client : SocketClient}
    {step : OpenStep} (present : next.sockets scl = some client)
    (opening : client.thread = .opening pointer step) :
    ∃ handler, state.handlers[pointer]? = some handler ∧
      handler.kind.channelType = some .Input := by
  have fromSame {after : State} {later : SocketClient}
      (threads : ∀ scl, (after.sockets scl).map SocketClient.thread =
        (state.sockets scl).map SocketClient.thread) (found : after.sockets scl = some later)
      (thread : later.thread = .opening pointer step) :
      ∃ handler, state.handlers[pointer]? = some handler ∧
        handler.kind.channelType = some .Input := by
    obtain ⟨old, before, same⟩ := same_threads threads found
    exact opens scl old pointer step before (same.trans thread)
  cases event with
  | connect other fd stack =>
      obtain ⟨-, -, rfl, -⟩ := connect_turn took
      simp only [State.accept, Function.update_apply] at present
      split at present
      · cases present
        cases opening
      · exact opens scl client pointer step present opening
  | read actor reading write =>
      obtain ⟨reader, there, ready⟩ := step_read_ready took
      obtain ⟨clientId, known⟩ := wired.known there (by simp [ready])
      obtain ⟨-, -, others, own⟩ := finishClient_after (step_read_body there ready took)
      by_cases same : scl = actor
      · subst same
        rcases own client present with ended | returned
        · rw [opening] at ended
          cases ended
        · rw [opening] at returned
          exact clientRead_opens known returned
      · rw [others scl same] at present
        exact fromSame (@clientRead_holds 0 _ anything_settled write actor reader reading
          state).threads present opening
  | clientStep actor =>
      obtain ⟨opener, target, current, handler, there, inside, -, -, ran⟩ := clientStep_body took
      obtain ⟨-, -, others, own⟩ := finishClient_after ran
      by_cases same : scl = actor
      · subst same
        rcases own client present with ended | returned
        · rw [opening] at ended
          cases ended
        · have moved := clientOpen_thread scl target current state client.thread returned
          rw [opening] at moved
          cases further : current.next with
          | none =>
              rw [further] at moved
              cases moved
          | some later =>
              rw [further] at moved
              cases moved
              exact opens scl opener pointer current there inside
      · rw [others scl same] at present
        exact fromSame (@clientOpen_holds 0 _ anything_settled protobuf actor target current
          (fun _ _ _ _ => trivial) (fun _ _ _ _ => trivial) state).threads present opening
  | headunit message accept write =>
      obtain ⟨-, quiet⟩ := headunit_turn took
      obtain ⟨between, found, -, same⟩ := quiet.alive present
      exact fromSame (@handleMessageContent_holds 0 (fun _ => True) message state protobuf accept
        write (fun _ _ _ _ => trivial) (fun _ _ _ _ => trivial)).threads found (same.trans opening)
  | sample | streamStep | threadTerminated =>
      have quiet := (background_turn took trivial).1
      obtain ⟨old, before, -, same⟩ := quiet.alive present
      exact opens scl old pointer step before (same.trans opening)

theorem channelType_setAnswered (answered : Bool) (handler : ChannelHandler) :
    (handler.setAnswered answered).kind.channelType = handler.kind.channelType := by
  obtain ⟨channelId, flag, kind⟩ := handler
  cases kind <;> rfl

theorem channelType_updateVideo (update : VideoChannelHandler → VideoChannelHandler)
    (handler : ChannelHandler) :
    (handler.updateVideo update).kind.channelType = handler.kind.channelType := by
  obtain ⟨channelId, flag, kind⟩ := handler
  cases kind <;> rfl

theorem step_opensInputs (wired : state.Wired) (opens : state.OpensInputs)
    (took : (machine protobuf).step state event = some (next, outputs)) : next.OpensInputs := by
  have updated (update : InputChannelHandler → InputChannelHandler) (handler : ChannelHandler) :
      (handler.updateInput update).kind.channelType = handler.kind.channelType :=
    congrArg Prod.snd (shape_updateInput update handler)
  have settled : Settled fun handler => handler.kind.channelType = some .Input :=
    ⟨fun handler _ => (updated _ handler).trans, fun handler _ => (updated _ handler).trans⟩
  intro scl client pointer step present opening
  obtain ⟨handler, found, isInput⟩ := step_opens wired opens took present opening
  exact step_handler settled
    (fun _ handler update => (channelType_updateVideo update handler).trans)
    (fun _ _ => id) (fun _ handler => (channelType_setAnswered false handler).trans)
    (fun _ _ _ _ _ _ _ _ => id)
    (fun _ _ _ _ _ _ _ handler => (channelType_setAnswered true handler).trans) took found isInput

theorem opensInputs_initial : initial.OpensInputs := by
  intro scl client pointer step present
  cases present

theorem run_opensInputs {past : List Event} {trace : List (Event × List Output)}
    (ran : (machine protobuf).run initial past = some (state, trace)) : state.OpensInputs := by
  have kept : ∀ {state event next outputs}, state.Wired ∧ state.OpensInputs →
      (machine protobuf).step state event = some (next, outputs) →
      next.Wired ∧ next.OpensInputs :=
    fun both took => ⟨step_wired both.1 took, step_opensInputs both.1 both.2 took⟩
  exact ((machine protobuf).run_keeps kept ⟨wired_initial, opensInputs_initial⟩ ran).2

end Threads

section Turns

variable {protobuf : Protobuf} {state next : State} {event : Event} {outputs : List Output}
  {channel : UInt8}

theorem queued_own {log : List Output} (own : ∀ output ∈ log, output.Own state) :
    ∀ msg ∈ queued log, msg.channel = 0 ∨ state.Special msg.channel := by
  intro msg inside
  obtain ⟨output, among, same⟩ := List.mem_filterMap.mp inside
  have allowed := own output among
  cases output with
  | packet => cases same
  | enqueue number flags content =>
      cases same
      exact allowed

/-- What is sent is on a channel of the server's own, or a client has sent it there. -/
theorem step_own (wired : state.Wired) (tabled : state.Tabled) (opens : state.OpensInputs)
    (took : (machine protobuf).step state event = some (next, outputs)) :
    ∀ msg ∈ queued outputs, msg.channel = 0 ∨ state.Special msg.channel ∨
      state.SendsOn msg.channel event := by
  intro msg inside
  have own (allowed : ∀ output ∈ outputs, output.Own state) :
      msg.channel = 0 ∨ state.Special msg.channel ∨ state.SendsOn msg.channel event :=
    (queued_own allowed msg inside).imp_right .inl
  cases event with
  | connect scl fd stack =>
      obtain ⟨-, -, -, rfl⟩ := connect_turn took
      cases inside
  | read scl reading write =>
      exact .inr (.inr (queued_read wired tabled took msg inside).2)
  | clientStep scl =>
      obtain ⟨client, target, step, handler, there, opening, present, -, ran⟩ :=
        clientStep_body took
      obtain ⟨clientId, known⟩ := wired.known there (by simp [opening])
      obtain ⟨input, found, isInput⟩ := opens scl client target step there opening
      rw [clientOpen_log known ran] at own
      exact own (openStep_own found (by rw [isInput]; rfl) step)
  | headunit message accept write =>
      obtain ⟨rfl, -⟩ := headunit_turn took
      exact own (handleMessageContent_own accept write message)
  | threadTerminated =>
      cases took
      cases inside
  | sample target sample =>
      obtain ⟨handler, video, present, kind, -, ran⟩ := sample_body took
      have sends := @special_own state target handler present (by rw [kind]; rfl)
      refine own ?_
      rw [finishStream_log ran]
      refine Act.Emits.bind (.silent fun _ => rfl) (fun current => ?_) state
      split
      · exact .silent fun _ => rfl
      · exact .emit (sends _ _)
  | streamStep target =>
      obtain ⟨handler, video, step, sample, present, kind, stream, -, ran⟩ := streamStep_body took
      have special : handler.kind.channelType.isSome = true := by rw [kind]; rfl
      refine own ?_
      rw [finishStream_log ran, streamOpen]
      refine Act.emits_bind (openStep_own present special step) fun further => ?_
      split
      · exact .silent fun _ => rfl
      · exact .bind (.emit (special_own present special _ _)) fun _ => .silent fun _ => rfl

/-- The channel has a default handler, and no other handler has its number. -/
structure State.Ordinary (state : State) (channel : UInt8) : Prop where
  uncontrolled : channel ≠ 0
  isDefault : state.kindAt channel = some none
  plain : ¬ state.Special channel

theorem State.SameTable.special (same : state.SameTable next) (special : state.Special channel) :
    next.Special channel := by
  obtain ⟨handler, inside, number, typed⟩ := special
  obtain ⟨pointer, present⟩ := List.mem_iff_getElem?.mp inside
  obtain ⟨later, found, shape⟩ := same.handler present
  refine ⟨later, List.mem_of_getElem? found, (congrArg Prod.fst shape).trans number, ?_⟩
  have sameType : later.kind.channelType = handler.kind.channelType := congrArg Prod.snd shape
  rw [sameType, typed]

theorem State.Ordinary.sameTable (ordinary : state.Ordinary channel) (tabled : state.Tabled)
    (same : state.SameTable next) : next.Ordinary channel where
  uncontrolled := ordinary.uncontrolled
  isDefault := by rw [same.kindAt tabled, ordinary.isDefault]
  plain special := ordinary.plain (same.symm.special special)

/-- On an ordinary channel nothing is sent, unless a client sends it. -/
theorem State.Ordinary.quiet (ordinary : state.Ordinary channel) (wired : state.Wired)
    (tabled : state.Tabled) (opens : state.OpensInputs) (others : ¬ state.SendsOn channel event)
    (took : (machine protobuf).step state event = some (next, outputs)) :
    onChannel channel (queued outputs) = [] := by
  refine List.filter_eq_nil_iff.mpr fun msg inside same => ?_
  obtain rfl : msg.channel = channel := by simpa using same
  rcases step_own wired tabled opens took msg inside with control | special | sent
  · exact ordinary.uncontrolled control
  · exact ordinary.plain special
  · exact others sent

end Turns

end AAServer

end AACS
