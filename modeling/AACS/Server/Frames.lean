import AACS.Server.Routing

/-!
What the turns of the server leave alone.

Most of what the server does only moves the flags of handlers that open a channel,
or the bytes in a buffer. `State.Quiet` says that two states differ in nothing else,
`Output.isEnqueue` that an output goes to the head unit.
-/

namespace AACS

namespace AAServer

open Effects

/-- A handler without the flags that change while its channel is used. -/
def ChannelHandler.identity (handler : ChannelHandler) : ChannelHandler where
  channelId := handler.channelId
  kind :=
    match handler.kind with
    | .default => .default
    | .video _ => .video {}
    | .input input => .input { input with gotHandshakeResponse := false }

def SocketClient.status (client : SocketClient) : Nat × ClientThread := (client.fd, client.thread)

/-- Only flags and buffers differ. -/
structure State.Quiet (before after : State) : Prop where
  handlers : after.handlers.map ChannelHandler.identity =
    before.handlers.map ChannelHandler.identity
  channelHandlers : after.channelHandlers = before.channelHandlers
  channelTypes : after.channelTypeToChannelNumber = before.channelTypeToChannelNumber
  serviceDescriptor : after.serviceDescriptor = before.serviceDescriptor
  clients : after.clients = before.clients
  clientCount : after.clientCount = before.clientCount
  socketClients : after.socketClients = before.socketClients
  sockets : ∀ scl, (after.sockets scl).map SocketClient.status =
    (before.sockets scl).map SocketClient.status
  descriptors : after.descriptors = before.descriptors

instance : Std.Refl State.Quiet := ⟨fun _ => ⟨rfl, rfl, rfl, rfl, rfl, rfl, rfl, fun _ => rfl, rfl⟩⟩

instance : IsTrans State State.Quiet where
  trans _ _ _ first second :=
    ⟨second.handlers.trans first.handlers, second.channelHandlers.trans first.channelHandlers,
      second.channelTypes.trans first.channelTypes,
      second.serviceDescriptor.trans first.serviceDescriptor,
      second.clients.trans first.clients, second.clientCount.trans first.clientCount,
      second.socketClients.trans first.socketClients,
      fun scl => (second.sockets scl).trans (first.sockets scl),
      second.descriptors.trans first.descriptors⟩

theorem State.Quiet.handler {before after : State} (quiet : before.Quiet after) (pointer : Nat) :
    (after.handlers[pointer]?).map ChannelHandler.identity =
      (before.handlers[pointer]?).map ChannelHandler.identity := by
  rw [← List.getElem?_map, ← List.getElem?_map, quiet.handlers]

@[simp] theorem identity_setAnswered (answered : Bool) (handler : ChannelHandler) :
    (handler.setAnswered answered).identity = handler.identity := by
  obtain ⟨channelId, flag, kind⟩ := handler
  cases kind <;> rfl

@[simp] theorem identity_updateVideo (update : VideoChannelHandler → VideoChannelHandler)
    (handler : ChannelHandler) : (handler.updateVideo update).identity = handler.identity := by
  obtain ⟨channelId, flag, kind⟩ := handler
  cases kind <;> rfl

theorem updateHandler_quiet (state : State) (pointer : Nat)
    {update : ChannelHandler → ChannelHandler}
    (same : ∀ handler, (update handler).identity = handler.identity) :
    state.Quiet (state.updateHandler pointer update) := by
  refine ⟨?_, rfl, rfl, rfl, rfl, rfl, rfl, fun _ => rfl, rfl⟩
  apply List.ext_getElem?
  intro index
  simp only [State.updateHandler, List.getElem?_map, List.getElem?_modify]
  split
  · simp [same, Function.comp_def]
  · simp

section Bodies

theorem sendToHeadunit_quiet (channel flags : UInt8) (data : Bytes) :
    (sendToHeadunit channel flags data).Preserves State.Quiet := .emit _

theorem throw_quiet {α : Type} (exception : Thrown) :
    (throw exception : ServerAct α).Preserves State.Quiet := .throw _

theorem undefinedBehaviour_quiet {α : Type} :
    (undefinedBehaviour : ServerAct α).Preserves State.Quiet := .throw _

theorem readHandler_quiet (pointer : Nat) : (readHandler pointer).Preserves State.Quiet := by
  refine .bind .get fun state => ?_
  split
  · exact .pure _
  · exact undefinedBehaviour_quiet

theorem writeHandler_quiet (pointer : Nat) {update : ChannelHandler → ChannelHandler}
    (same : ∀ handler, (update handler).identity = handler.identity) :
    (writeHandler pointer update).Preserves State.Quiet :=
  .modify fun state => updateHandler_quiet state pointer same

theorem messageType_quiet (content : Bytes) : (messageType content).Preserves State.Quiet := by
  unfold messageType
  split
  · exact .pure _
  · exact undefinedBehaviour_quiet

theorem gotMessage_quiet (write : Nat → WriteResult) (clientId : Int) (channel : UInt8)
    (specific : Bool) (content : Bytes) :
    (gotMessage write clientId channel specific content).Preserves State.Quiet :=
  .of_eq fun state => by rw [gotMessage_run]; rfl

theorem baseHandler_quiet (pointer : Nat) (message : Message) :
    (ChannelHandler.handleMessageFromHeadunit pointer message).Preserves State.Quiet := by
  refine .bind (messageType_quiet _) fun type => ?_
  split
  · exact .bind (writeHandler_quiet _ fun _ => rfl) fun _ => .pure _
  · exact .pure _

theorem inputHandler_quiet (write : Nat → WriteResult) (pointer : Nat) (base : ChannelHandler)
    (input : InputChannelHandler) (message : Message) :
    (InputChannelHandler.handleMessageFromHeadunit write pointer base input message).Preserves
      State.Quiet := by
  refine .bind (baseHandler_quiet _ _) fun handled => ?_
  split
  · exact .pure _
  refine .bind (messageType_quiet _) fun type => ?_
  split
  · exact .bind (writeHandler_quiet _ (identity_setAnswered true)) fun _ => .pure _
  split
  · exact .bind (.forM _ fun rc _ => gotMessage_quiet _ _ _ _ _) fun _ => .pure _
  · exact .pure _

theorem videoHandler_quiet (write : Nat → WriteResult) (pointer : Nat) (base : ChannelHandler)
    (video : VideoChannelHandler) (message : Message) :
    (VideoChannelHandler.handleMessageFromHeadunit write pointer base video message).Preserves
      State.Quiet := by
  unfold VideoChannelHandler.handleMessageFromHeadunit
  split
  · exact .bind (gotMessage_quiet _ _ _ _ _) fun _ => .pure _
  refine .bind (baseHandler_quiet _ _) fun handled => ?_
  split
  · exact .pure _
  refine .bind (messageType_quiet _) fun type => ?_
  split
  · exact .bind (writeHandler_quiet _ (identity_setAnswered true)) fun _ => .pure _
  split
  · exact .bind (sendToHeadunit_quiet _ _ _) fun _ => .pure _
  · exact .pure _

theorem handleMessageFromHeadunit_quiet (write : Nat → WriteResult) (pointer : Nat)
    (message : Message) :
    (handleMessageFromHeadunit write pointer message).Preserves State.Quiet := by
  refine .bind (readHandler_quiet _) fun base => ?_
  split
  · exact .bind (gotMessage_quiet _ _ _ _ _) fun _ => .pure _
  · exact videoHandler_quiet _ _ _ _ _
  · exact inputHandler_quiet _ _ _ _ _

theorem handleChannelMessage_quiet (write : Nat → WriteResult) (message : Message) :
    (handleChannelMessage write message).Preserves State.Quiet := by
  refine .bind (messageType_quiet _) fun type => ?_
  split
  · refine .bind .get fun state => ?_
    split
    · exact undefinedBehaviour_quiet
    · refine .bind (handleMessageFromHeadunit_quiet _ _ _) fun handled => ?_
      split
      · exact .pure _
      · exact throw_quiet _
  · exact gotMessage_quiet _ _ _ _ _

theorem handleVersionRequest_quiet (buf : Bytes) :
    (handleVersionRequest buf).Preserves State.Quiet := by
  unfold handleVersionRequest
  split
  · split
    · exact sendToHeadunit_quiet _ _ _
    · exact throw_quiet _
  · exact undefinedBehaviour_quiet

theorem handleSslHandshake_quiet (accept : Accept) :
    (handleSslHandshake accept).Preserves State.Quiet := by
  refine .bind (.modify fun state =>
    ⟨rfl, rfl, rfl, rfl, rfl, rfl, rfl, fun _ => rfl, rfl⟩) fun _ => ?_
  split
  · exact sendToHeadunit_quiet _ _ _
  · exact throw_quiet _

theorem handlePingRequest_quiet (protobuf : Protobuf) (buf : Bytes) :
    (handlePingRequest protobuf buf).Preserves State.Quiet := by
  unfold handlePingRequest
  split
  · exact throw_quiet _
  · exact sendToHeadunit_quiet _ _ _

theorem openStep_quiet (protobuf : Protobuf) (pointer : Nat) (step : OpenStep) :
    (step.run protobuf pointer).Preserves State.Quiet := by
  cases step with
  | resetChannelOpen => exact .bind (writeHandler_quiet _ fun _ => rfl) fun _ => .pure _
  | sendChannelOpen =>
      exact .bind (readHandler_quiet _) fun _ => .bind (sendToHeadunit_quiet _ _ _) fun _ => .pure _
  | awaitChannelOpen => exact .pure _
  | resetAnswer => exact .bind (writeHandler_quiet _ (identity_setAnswered false)) fun _ => .pure _
  | sendRequest =>
      refine .bind (readHandler_quiet _) fun handler => .bind ?_ fun _ => .pure _
      unfold ChannelHandler.sendRequest
      split
      · exact .pure _
      · exact sendToHeadunit_quiet _ _ _
      · unfold InputChannelHandler.sendHandshakeRequest
        split
        · exact throw_quiet _
        · exact sendToHeadunit_quiet _ _ _
  | awaitAnswer => exact .pure _

theorem newSample_quiet (pointer : Nat) (channelId : UInt8) (sample : Sample) :
    (newSample pointer channelId sample).Preserves State.Quiet := by
  refine .bind .get fun state => ?_
  split
  · exact writeHandler_quiet _ (identity_updateVideo _)
  · exact sendToHeadunit_quiet _ _ _

theorem streamOpen_quiet (protobuf : Protobuf) (pointer : Nat) (channelId : UInt8)
    (step : OpenStep) (sample : Sample) :
    (streamOpen protobuf pointer channelId step sample).Preserves State.Quiet := by
  refine .bind (openStep_quiet _ _ _) fun next => ?_
  split
  · exact writeHandler_quiet _ (identity_updateVideo _)
  · exact .bind (sendToHeadunit_quiet _ _ _) fun _ =>
      .bind (.modify fun state => ⟨rfl, rfl, rfl, rfl, rfl, rfl, rfl, fun _ => rfl, rfl⟩) fun _ =>
        writeHandler_quiet _ (identity_updateVideo _)

end Bodies

def isServiceDiscoveryResponse (message : Message) : Bool :=
  match message.content with
  | high :: low :: _ =>
      message.channel = 0 ∧ bigEndian16 high low = MessageType.ServiceDiscoveryResponse.code
  | _ => false

theorem content_of_discovery {message : Message}
    (discovery : isServiceDiscoveryResponse message = true) :
    ∃ high low rest, message.content = high :: low :: rest ∧ message.channel = 0 ∧
      bigEndian16 high low = MessageType.ServiceDiscoveryResponse.code := by
  unfold isServiceDiscoveryResponse at discovery
  split at discovery
  next high low rest content => exact ⟨high, low, rest, content, by simpa using discovery⟩
  next => cases discovery

theorem handleMessageContent_short {message : Message} (protobuf : Protobuf) (accept : Accept)
    (write : Nat → WriteResult) (state : State)
    (short : ∀ high low rest, message.content ≠ high :: low :: rest) :
    (handleMessageContent protobuf accept write message).run state =
      ⟨.error .undefinedBehaviour, state, []⟩ := by
  have unread : messageType message.content = undefinedBehaviour := by
    unfold messageType
    split
    next high low rest content => exact absurd content (short high low rest)
    next => rfl
  rw [handleMessageContent, Act.run_bind, unread]
  rfl

theorem handleMessageContent_control {message : Message} {high low : UInt8} {rest : Bytes}
    (protobuf : Protobuf) (accept : Accept) (write : Nat → WriteResult) (state : State)
    (content : message.content = high :: low :: rest) (control : message.channel = 0) :
    (handleMessageContent protobuf accept write message).run state =
      (if isFocusResponse (bigEndian16 high low) then handleChannelMessage write message
        else if bigEndian16 high low = MessageType.VersionRequest.code then
          handleVersionRequest rest
        else if bigEndian16 high low = MessageType.SslHandshake.code then handleSslHandshake accept
        else if bigEndian16 high low = MessageType.AuthComplete.code then
          sendServiceDiscoveryRequest protobuf
        else if bigEndian16 high low = MessageType.ServiceDiscoveryResponse.code then
          handleServiceDiscoveryResponse protobuf accept rest
        else if bigEndian16 high low = MessageType.PingRequest.code then
          handlePingRequest protobuf rest
        else throw (.runtimeError ("Unhandled message type: " ++
          toString (bigEndian16 high low).toNat))).run state := by
  simp only [handleMessageContent, content, control, ne_eq, not_true_eq_false, if_false,
    Act.run_bind, messageType_run, Act.andThen_ok, List.drop_succ_cons, List.drop_zero,
    List.nil_append]

/-- Only a service descriptor changes more than flags. -/
theorem handleMessageContent_quiet {message : Message} (protobuf : Protobuf) (accept : Accept)
    (write : Nat → WriteResult) (other : isServiceDiscoveryResponse message = false) :
    (handleMessageContent protobuf accept write message).Preserves State.Quiet := by
  intro state
  by_cases long : ∃ high low rest, message.content = high :: low :: rest
  · obtain ⟨high, low, rest, content⟩ := long
    by_cases control : message.channel = 0
    · rw [handleMessageContent_control protobuf accept write state content control]
      have notDiscovery : bigEndian16 high low ≠ MessageType.ServiceDiscoveryResponse.code := by
        simpa [isServiceDiscoveryResponse, content, control] using other
      split
      · exact handleChannelMessage_quiet _ _ _
      split
      · exact handleVersionRequest_quiet _ _
      split
      · exact handleSslHandshake_quiet _ _
      split
      · exact sendToHeadunit_quiet _ _ _ _
      split
      · exact handlePingRequest_quiet _ _ _
      · exact throw_quiet _ _
    · rw [handleMessageContent_ordinary protobuf accept write state content control]
      exact handleChannelMessage_quiet _ _ _
  · push Not at long
    rw [handleMessageContent_short protobuf accept write state long]
    exact refl state

theorem installHandler_preserves {frame : State → State → Prop} [Std.Refl frame]
    [IsTrans State frame] (linked : Bool) (channel : Channel)
    (retyped : ∀ (state : State) types,
      frame state { state with channelTypeToChannelNumber := types })
    (served : ∀ state : State, frame state { state with
      handlers := state.handlers ++
        [{ channelId := channel.number, kind := Channel.newHandler channel }]
      channelHandlers :=
        Function.update state.channelHandlers channel.number (some state.handlers.length) }) :
    (installHandler linked channel).Preserves frame := by
  refine .bind (.modify fun state => retyped state _) fun _ => ?_
  split
  · exact .throw _
  split
  · exact .modify served
  · exact .throw _

section Outputs

variable {allowed : Output → Prop}

theorem throw_emits {α : Type} (exception : Thrown) :
    (throw exception : ServerAct α).Emits allowed := .silent fun _ => rfl

theorem undefinedBehaviour_emits {α : Type} :
    (undefinedBehaviour : ServerAct α).Emits allowed := .silent fun _ => rfl

theorem messageType_emits (content : Bytes) : (messageType content).Emits allowed := by
  unfold messageType
  split
  · exact .silent fun _ => rfl
  · exact undefinedBehaviour_emits

theorem readHandler_emits (pointer : Nat) : (readHandler pointer).Emits allowed := by
  refine .bind (.silent fun _ => rfl) fun state => ?_
  split
  · exact .silent fun _ => rfl
  · exact undefinedBehaviour_emits

theorem handleServiceDiscoveryResponse_emits (protobuf : Protobuf) (accept : Accept)
    (buf : Bytes) : (handleServiceDiscoveryResponse protobuf accept buf).Emits allowed := by
  refine .bind (.silent fun _ => rfl) fun _ => .forM _ fun entry _ =>
    .bind (.silent fun _ => rfl) fun _ => ?_
  split
  · exact throw_emits _
  split
  · exact .silent fun _ => rfl
  · exact undefinedBehaviour_emits

theorem handleVersionRequest_emits (buf : Bytes)
    (plain : ∀ data,
      allowed (.enqueue 0 (EncryptionType.Plain.mask ||| FrameType.Bulk.mask) data)) :
    (handleVersionRequest buf).Emits allowed := by
  unfold handleVersionRequest
  split
  · split
    · exact .emit (plain _)
    · exact throw_emits _
  · exact undefinedBehaviour_emits

theorem handleSslHandshake_emits (accept : Accept)
    (plain : ∀ data,
      allowed (.enqueue 0 (EncryptionType.Plain.mask ||| FrameType.Bulk.mask) data)) :
    (handleSslHandshake accept).Emits allowed := by
  refine .bind (.silent fun _ => rfl) fun _ => ?_
  split
  · exact .emit (plain _)
  · exact throw_emits _

theorem baseHandler_emits (pointer : Nat) (message : Message) :
    (ChannelHandler.handleMessageFromHeadunit pointer message).Emits allowed := by
  refine .bind (messageType_emits _) fun type => ?_
  split <;> exact .silent fun _ => rfl

section Packets

variable (packets : ∀ connection bytes, allowed (.packet connection bytes))
include packets

theorem gotMessage_emits (write : Nat → WriteResult) (clientId : Int) (channel : UInt8)
    (specific : Bool) (content : Bytes) :
    (gotMessage write clientId channel specific content).Emits allowed := by
  intro state output membership
  rw [gotMessage_run] at membership
  obtain ⟨connection, -, rfl⟩ := List.mem_map.mp membership
  exact packets connection _

theorem defaultHandler_emits (write : Nat → WriteResult) (message : Message) :
    (DefaultChannelHandler.handleMessageFromHeadunit write message).Emits allowed :=
  .bind (gotMessage_emits packets _ _ _ _ _) fun _ => .silent fun _ => rfl

theorem inputHandler_emits (write : Nat → WriteResult) (pointer : Nat) (base : ChannelHandler)
    (input : InputChannelHandler) (message : Message) :
    (InputChannelHandler.handleMessageFromHeadunit write pointer base input message).Emits
      allowed := by
  refine .bind (baseHandler_emits _ _) fun handled => ?_
  split
  · exact .silent fun _ => rfl
  refine .bind (messageType_emits _) fun type => ?_
  split
  · exact .silent fun _ => rfl
  split
  · exact .bind (.forM _ fun rc _ => gotMessage_emits packets _ _ _ _ _) fun _ =>
      .silent fun _ => rfl
  · exact .silent fun _ => rfl

end Packets

def Output.isEnqueue : Output → Prop
  | .enqueue _ _ _ => True
  | .packet _ _ => False

theorem sendToHeadunit_enqueues (channel flags : UInt8) (data : Bytes) :
    (sendToHeadunit channel flags data).Emits Output.isEnqueue := .emit trivial

theorem handleVersionRequest_enqueues (buf : Bytes) :
    (handleVersionRequest buf).Emits Output.isEnqueue :=
  handleVersionRequest_emits buf fun _ => trivial

theorem handleSslHandshake_enqueues (accept : Accept) :
    (handleSslHandshake accept).Emits Output.isEnqueue :=
  handleSslHandshake_emits accept fun _ => trivial

theorem handlePingRequest_enqueues (protobuf : Protobuf) (buf : Bytes) :
    (handlePingRequest protobuf buf).Emits Output.isEnqueue := by
  unfold handlePingRequest
  split
  · exact throw_emits _
  · exact sendToHeadunit_enqueues _ _ _

theorem openStep_enqueues (protobuf : Protobuf) (pointer : Nat) (step : OpenStep) :
    (step.run protobuf pointer).Emits Output.isEnqueue := by
  cases step with
  | resetChannelOpen => exact .silent fun _ => rfl
  | sendChannelOpen =>
      exact .bind (readHandler_emits _) fun _ =>
        .bind (sendToHeadunit_enqueues _ _ _) fun _ => .silent fun _ => rfl
  | awaitChannelOpen => exact .silent fun _ => rfl
  | resetAnswer => exact .silent fun _ => rfl
  | sendRequest =>
      refine .bind (readHandler_emits _) fun handler => .bind ?_ fun _ => .silent fun _ => rfl
      unfold ChannelHandler.sendRequest
      split
      · exact .silent fun _ => rfl
      · exact sendToHeadunit_enqueues _ _ _
      · unfold InputChannelHandler.sendHandshakeRequest
        split
        · exact throw_emits _
        · exact sendToHeadunit_enqueues _ _ _
  | awaitAnswer => exact .silent fun _ => rfl

theorem newSample_enqueues (pointer : Nat) (channelId : UInt8) (sample : Sample) :
    (newSample pointer channelId sample).Emits Output.isEnqueue := by
  refine .bind (.silent fun _ => rfl) fun state => ?_
  split
  · exact .silent fun _ => rfl
  · exact sendToHeadunit_enqueues _ _ _

theorem streamOpen_enqueues (protobuf : Protobuf) (pointer : Nat) (channelId : UInt8)
    (step : OpenStep) (sample : Sample) :
    (streamOpen protobuf pointer channelId step sample).Emits Output.isEnqueue := by
  refine .bind (openStep_enqueues _ _ _) fun next => ?_
  split
  · exact .silent fun _ => rfl
  · exact .bind (sendToHeadunit_enqueues _ _ _) fun _ => .bind (.silent fun _ => rfl) fun _ =>
      .silent fun _ => rfl

theorem inputHandler_log {message : Message} {high low : UInt8} {rest : Bytes}
    (write : Nat → WriteResult) (pointer : Nat) (base : ChannelHandler)
    (input : InputChannelHandler) (state : State) (content : message.content = high :: low :: rest)
    (noEvent : bigEndian16 high low ≠ InputChannelMessageType.Event.code) :
    ((InputChannelHandler.handleMessageFromHeadunit write pointer base input message).run
      state).log = [] := by
  rw [InputChannelHandler.handleMessageFromHeadunit, Act.run_bind, baseHandler_run state content,
    content]
  split
  · rfl
  · simp only [Act.andThen_ok, Bool.false_eq_true, if_false, Act.run_bind, messageType_run,
      List.nil_append, noEvent]
    split <;> rfl

theorem videoHandler_enqueues {message : Message} {high low : UInt8} {rest : Bytes}
    (write : Nat → WriteResult) (pointer : Nat) (base : ChannelHandler)
    {video : VideoChannelHandler} (state : State) (content : message.content = high :: low :: rest)
    (opened : video.channelOpened = true) :
    ∀ output ∈ ((VideoChannelHandler.handleMessageFromHeadunit write pointer base video
      message).run state).log, output.isEnqueue := by
  simp only [VideoChannelHandler.handleMessageFromHeadunit, opened, Bool.true_eq_false, if_false,
    Act.run_bind, baseHandler_run state content, content]
  split
  · simp
  · simp only [Act.andThen_ok, Bool.false_eq_true, if_false, Act.run_bind, messageType_run,
      List.nil_append]
    split
    · simp [writeHandler]
    · split
      · simp [VideoChannelHandler.sendStartIndication, sendToHeadunit, Output.isEnqueue]
      · simp

theorem andThen_report_log (first : Outcome State Output Fault Bool) (exception : Thrown) :
    (first.andThen fun handled => if handled then pure () else throw exception).log =
      first.log := by
  obtain ⟨failure | handled, state, log⟩ := first
  · rfl
  · cases handled <;> simp [throw]

/-- A message without a route sends nothing to a client. -/
theorem handleMessageContent_unrouted {state : State} {message : Message} (protobuf : Protobuf)
    (accept : Accept) (write : Nat → WriteResult) (unrouted : state.route message = none) :
    ∀ output ∈ ((handleMessageContent protobuf accept write message).run state).log,
      output.isEnqueue := by
  by_cases long : ∃ high low rest, message.content = high :: low :: rest
  · obtain ⟨high, low, rest, content⟩ := long
    by_cases control : message.channel = 0
    · rw [handleMessageContent_control protobuf accept write state content control]
      have noFocus : isFocusResponse (bigEndian16 high low) = false := by
        simpa [State.route, content, control] using unrouted
      rw [noFocus]
      simp only [Bool.false_eq_true, if_false]
      split
      · exact handleVersionRequest_enqueues _ _
      split
      · exact handleSslHandshake_enqueues _ _
      split
      · exact sendToHeadunit_enqueues _ _ _ _
      split
      · exact handleServiceDiscoveryResponse_emits _ _ _ _
      split
      · exact handlePingRequest_enqueues _ _ _
      · exact throw_emits _ _
    · rw [handleMessageContent_ordinary protobuf accept write state content control]
      cases installed : state.channelHandlers message.channel with
      | none =>
          simp [handleChannelMessage, content, messageType_run, control, installed,
            undefinedBehaviour]
      | some pointer =>
          rw [handleChannelMessage_run write content control installed, andThen_report_log,
            handleMessageFromHeadunit, Act.run_bind]
          cases present : state.handlers[pointer]? with
          | none => simp [readHandler, present, undefinedBehaviour]
          | some handler =>
              simp only [State.route, content, control, if_false, State.handlerAt, installed,
                Option.bind_some, present] at unrouted
              rw [readHandler_run present, Act.andThen_ok]
              cases kind : handler.kind with
              | default => simp only [kind, reduceCtorEq] at unrouted
              | video video =>
                  cases opened : video.channelOpened with
                  | true =>
                      simpa [kind] using
                        videoHandler_enqueues write pointer handler state content opened
                  | false =>
                      simp only [kind, opened, Bool.false_eq_true, if_false, reduceCtorEq]
                        at unrouted
              | input input =>
                  by_cases event : bigEndian16 high low = InputChannelMessageType.Event.code
                  · simp only [kind, event, if_true, reduceCtorEq] at unrouted
                  · simp [inputHandler_log write pointer handler input state content event]
  · push Not at long
    rw [handleMessageContent_short protobuf accept write state long]
    simp

end Outputs

end AAServer

end AACS
