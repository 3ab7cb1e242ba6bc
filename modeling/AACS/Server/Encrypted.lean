import AACS.Server.Flags

/-!
The turns that put an Encrypted message into the send queue.

The head unit can ask for one on channel 0 and on a video channel, a client on any channel
with a default handler, and the threads that open a channel send them as well.
-/

namespace AACS

namespace AAServer

open Effects

def Output.isEncrypted : Output → Bool
  | .enqueue _ flags _ => AACS.isEncrypted flags
  | .packet _ _ => false

/-- A message of the head unit that is answered with an Encrypted one. -/
def State.AnswersEncrypted (protobuf : Protobuf) (state : State) (message : Message) : Prop :=
  if message.channel = 0 then
    typeOf message.content = some MessageType.AuthComplete.code ∨
      typeOf message.content = some MessageType.PingRequest.code ∧
        protobuf.pingResponse (protobuf.pingRequest_timestamp (message.content.drop 2)) ≠ none
  else
    typeOf message.content = some MediaMessageType.VideoFocusIndication.code ∧
      ∃ handler, state.handlerAt message.channel = some handler ∧ handler.channelOpened = true

/-- The second request that opens a channel is sent; a default handler has none. -/
def ChannelHandler.SendsRequest (protobuf : Protobuf) (handler : ChannelHandler) : Prop :=
  match handler.kind with
  | .default => False
  | .video _ => True
  | .input input => protobuf.inputChannelHandshakeRequest input.available_buttons ≠ none

def OpenStep.Sends (protobuf : Protobuf) (handler : ChannelHandler) : OpenStep → Prop
  | .sendChannelOpen => True
  | .sendRequest => handler.SendsRequest protobuf
  | _ => False

def State.SendsEncrypted (protobuf : Protobuf) (state : State) : Event → Prop
  | .headunit message _ _ => state.AnswersEncrypted protobuf message
  | .read scl reading _ => reading ≠ .data [] ∧ ∃ client handler,
      state.sockets scl = some client ∧
      (client.packet reading).packetType = PacketType.RawData.code ∧
      state.handlerAt (client.packet reading).channelNumber = some handler ∧
      handler.kind = .default
  | .clientStep scl => ∃ client pointer step handler, state.sockets scl = some client ∧
      client.thread = .opening pointer step ∧ state.handlers[pointer]? = some handler ∧
      step.Sends protobuf handler
  | .sample _ _ => state.firstSample = false
  | .streamStep pointer => ∃ handler video step sample,
      state.handlers[pointer]? = some handler ∧ handler.kind = .video video ∧
      video.stream = some (step, sample) ∧ (step.Sends protobuf handler ∨ step = .awaitAnswer)
  | .connect _ _ _ | .threadTerminated => False

section Bodies

variable {protobuf : Protobuf} {state : State} {pointer : Nat} {handler : ChannelHandler}
  {message : Message} {high low : UInt8} {rest : Bytes}

theorem typeOf_eq_some (content : message.content = high :: low :: rest) (code : UInt16) :
    typeOf message.content = some code ↔ bigEndian16 high low = code := by
  rw [content, typeOf, Option.some.injEq]

theorem not_encrypted_of_emits {α : Type} {body : ServerAct α}
    (plain : body.Emits fun output => output.isEncrypted = false) (state : State) :
    ¬ (body.run state).log.any Output.isEncrypted = true := by
  rw [Bool.not_eq_true, List.any_eq_false]
  intro output membership
  rw [plain state output membership]
  exact Bool.false_ne_true

theorem packet_plain (connection : Nat) (bytes : Bytes) :
    (Output.packet connection bytes).isEncrypted = false := rfl

theorem handlePingRequest_encrypted_iff (buf : Bytes) :
    ((handlePingRequest protobuf buf).run state).log.any Output.isEncrypted = true ↔
      protobuf.pingResponse (protobuf.pingRequest_timestamp buf) ≠ none := by
  unfold handlePingRequest
  cases protobuf.pingResponse (protobuf.pingRequest_timestamp buf) with
  | none => simp [throw]
  | some buffer => exact iff_of_true rfl (Option.some_ne_none _)

theorem control_encrypted_iff (accept : Accept) (write : Nat → WriteResult)
    (content : message.content = high :: low :: rest) (control : message.channel = 0) :
    ((handleMessageContent protobuf accept write message).run state).log.any Output.isEncrypted =
      true ↔ state.AnswersEncrypted protobuf message := by
  have body : message.content.drop 2 = rest := by rw [content]; rfl
  rw [State.AnswersEncrypted, if_pos control, typeOf_eq_some content, typeOf_eq_some content, body,
    handleMessageContent_control protobuf accept write state content control]
  generalize bigEndian16 high low = type
  by_cases auth : type = MessageType.AuthComplete.code
  · subst auth
    rw [if_neg (by decide), if_neg (by decide), if_neg (by decide), if_pos rfl]
    exact iff_of_true rfl (.inl rfl)
  by_cases ping : type = MessageType.PingRequest.code
  · subst ping
    rw [if_neg (by decide), if_neg (by decide), if_neg (by decide), if_neg (by decide),
      if_neg (by decide), if_pos rfl, handlePingRequest_encrypted_iff]
    simp only [auth, false_or, true_and]
  rw [if_neg auth, if_neg ping]
  refine iff_of_false ?_ (by simp [auth, ping])
  split
  · refine not_encrypted_of_emits ?_ state
    refine .bind (.silent fun state => ?_) fun type => ?_
    · rw [content]
      rfl
    · rw [if_neg (not_not.mpr control)]
      exact gotMessage_emits packet_plain _ _ _ _ _
  split
  · exact not_encrypted_of_emits (handleVersionRequest_emits _ fun _ => rfl) state
  split
  · exact not_encrypted_of_emits (handleSslHandshake_emits _ fun _ => rfl) state
  split
  · exact not_encrypted_of_emits (handleServiceDiscoveryResponse_emits _ _ _) state
  · exact Bool.false_ne_true

theorem readMessage_encrypted_iff (write : Nat → WriteResult)
    (content : message.content = high :: low :: rest)
    (present : state.handlers[pointer]? = some handler) :
    ((handleMessageFromHeadunit write pointer message).run state).log.any Output.isEncrypted =
      true ↔ bigEndian16 high low = MediaMessageType.VideoFocusIndication.code ∧
        handler.channelOpened = true := by
  rw [handleMessageFromHeadunit, Act.run_bind, readHandler_run present, Act.andThen_ok,
    List.nil_append, ChannelHandler.channelOpened]
  cases handler.kind with
  | default =>
      exact iff_of_false (not_encrypted_of_emits (defaultHandler_emits packet_plain _ _) state)
        (by simp)
  | input input =>
      exact iff_of_false (not_encrypted_of_emits (inputHandler_emits packet_plain _ _ _ _ _) state)
        (by simp)
  | video video =>
      dsimp only
      unfold VideoChannelHandler.handleMessageFromHeadunit
      cases opened : video.channelOpened with
      | false =>
          rw [if_pos rfl]
          have plain : (do
              gotMessage write (-1) message.channel (isSpecific message.flags) message.content
              pure true : ServerAct Bool).Emits fun output => output.isEncrypted = false :=
            .bind (gotMessage_emits packet_plain _ _ _ _ _) fun _ => .silent fun _ => rfl
          exact iff_of_false (not_encrypted_of_emits plain state) (by simp)
      | true =>
          rw [if_neg Bool.false_ne_true.symm, Act.run_bind, baseHandler_run state content, content]
          by_cases focus : bigEndian16 high low = MediaMessageType.VideoFocusIndication.code
          · have notOpen : MediaMessageType.VideoFocusIndication.code ≠
                MessageType.ChannelOpenResponse.code := by decide
            have notSetup : MediaMessageType.VideoFocusIndication.code ≠
                MediaMessageType.SetupResponse.code := by decide
            simp only [focus, notOpen, notSetup, Act.andThen_ok, Bool.false_eq_true, if_false,
              if_true, Act.run_bind, messageType_run, List.nil_append]
            exact iff_of_true rfl ⟨trivial, trivial⟩
          refine iff_of_false ?_ (fun both => focus both.1)
          split
          · exact Bool.false_ne_true
          · simp only [focus, Act.andThen_ok, Bool.false_eq_true, if_false, Act.run_bind,
              messageType_run, List.nil_append]
            split <;> exact Bool.false_ne_true

/-- A message of the head unit has an Encrypted answer exactly when it asks for one. -/
theorem handleMessageContent_encrypted_iff (accept : Accept) (write : Nat → WriteResult)
    (content : message.content = high :: low :: rest) :
    ((handleMessageContent protobuf accept write message).run state).log.any Output.isEncrypted =
      true ↔ state.AnswersEncrypted protobuf message := by
  by_cases control : message.channel = 0
  · exact control_encrypted_iff accept write content control
  rw [State.AnswersEncrypted, if_neg control, typeOf_eq_some content,
    handleMessageContent_ordinary protobuf accept write state content control, State.handlerAt]
  cases installed : state.channelHandlers message.channel with
  | none =>
      have silent : ((handleChannelMessage write message).run state).log = [] := by
        simp [handleChannelMessage, content, messageType_run, control, installed,
          undefinedBehaviour]
      rw [silent]
      simp
  | some pointer =>
      rw [handleChannelMessage_run write content control installed, andThen_report_log,
        Option.bind_some]
      cases present : state.handlers[pointer]? with
      | none =>
          have silent : ((handleMessageFromHeadunit write pointer message).run state).log = [] := by
            simp [handleMessageFromHeadunit, readHandler, present, undefinedBehaviour]
          rw [silent]
          simp
      | some handler =>
          rw [readMessage_encrypted_iff write content present]
          simp

theorem openStep_encrypted_iff (present : state.handlers[pointer]? = some handler)
    (step : OpenStep) :
    ((step.run protobuf pointer).run state).log.any Output.isEncrypted = true ↔
      step.Sends protobuf handler := by
  cases step with
  | resetChannelOpen | awaitChannelOpen | resetAnswer | awaitAnswer =>
      exact iff_of_false Bool.false_ne_true id
  | sendChannelOpen =>
      rw [OpenStep.run, Act.run_bind, readHandler_run present]
      exact iff_of_true rfl trivial
  | sendRequest =>
      rw [OpenStep.run, Act.run_bind, readHandler_run present, OpenStep.Sends,
        ChannelHandler.SendsRequest]
      simp only [Act.andThen_ok, Act.run_bind, ChannelHandler.sendRequest]
      cases handler.kind with
      | default => exact iff_of_false Bool.false_ne_true id
      | video video => exact iff_of_true rfl trivial
      | input input =>
          simp only [InputChannelHandler.sendHandshakeRequest]
          cases protobuf.inputChannelHandshakeRequest input.available_buttons with
          | none => exact iff_of_false Bool.false_ne_true (by simp)
          | some buffer => exact iff_of_true rfl (Option.some_ne_none _)

theorem streamOpen_encrypted_iff {video : VideoChannelHandler}
    (present : state.handlers[pointer]? = some handler) (kind : handler.kind = .video video)
    (step : OpenStep) (sample : Sample) :
    ((streamOpen protobuf pointer handler.channelId step sample).run state).log.any
      Output.isEncrypted = true ↔ step.Sends protobuf handler ∨ step = .awaitAnswer := by
  cases step with
  | resetChannelOpen | awaitChannelOpen | resetAnswer =>
      exact iff_of_false Bool.false_ne_true (by simp [OpenStep.Sends])
  | sendChannelOpen =>
      simp only [streamOpen, OpenStep.run, Act.run_bind, readHandler_run present]
      exact iff_of_true rfl (.inl trivial)
  | sendRequest =>
      simp only [streamOpen, OpenStep.run, Act.run_bind, readHandler_run present, OpenStep.Sends,
        ChannelHandler.SendsRequest, ChannelHandler.sendRequest, kind, Act.andThen_ok]
      exact iff_of_true rfl (.inl trivial)
  | awaitAnswer => exact iff_of_true rfl (.inr rfl)

end Bodies

section Turns

variable {protobuf : Protobuf} {state next : State} {outputs : List Output} {event : Event}
  {scl : Nat} {clientId : Int}

theorem finishClient_log {body : ServerAct ClientThread}
    (took : finishClient scl body state = some (next, outputs)) :
    outputs = (body.run state).log := by
  unfold finishClient at took
  dsimp only at took
  split at took <;> cases took <;> rfl

theorem finishStream_log {body : ServerAct Unit}
    (took : finishStream body state = some (next, outputs)) :
    outputs = (body.run state).log := by
  unfold finishStream at took
  dsimp only at took
  split at took <;> cases took
  rfl

theorem read_encrypted_iff {reading : Reading} {write : Nat → WriteResult} (wired : state.Wired)
    (took : (machine protobuf).step state (.read scl reading write) = some (next, outputs)) :
    outputs.any Output.isEncrypted = true ↔
      state.SendsEncrypted protobuf (.read scl reading write) := by
  obtain ⟨client, present, ready⟩ := step_read_ready took
  obtain ⟨clientId, known⟩ := wired.known present (by simp [ready])
  rw [finishClient_log (step_read_body present ready took), State.SendsEncrypted]
  by_cases eof : reading = .data []
  · subst eof
    rw [clientRead_eof write known]
    simp
  rw [clientRead_packet write eof]
  have knownToo : (state.buffered scl client reading).clients.lookup scl = some clientId := known
  simp only [present, Option.some.injEq, eof, ne_eq, not_false_eq_true, true_and,
    exists_and_left, exists_eq_left']
  by_cases raw : (client.packet reading).packetType = PacketType.RawData.code
  · rw [gotPacket_rawData write knownToo raw, State.handlerAt]
    cases installed : state.channelHandlers (client.packet reading).channelNumber with
    | none =>
        have missing : (state.buffered scl client reading).channelHandlers
            (client.packet reading).channelNumber = none := installed
        rw [missing]
        simp
    | some pointer =>
        have found : (state.buffered scl client reading).channelHandlers
            (client.packet reading).channelNumber = some pointer := installed
        rw [found, Option.bind_some]
        dsimp only
        cases there : state.handlers[pointer]? with
        | none =>
            have missing : (state.buffered scl client reading).handlers[pointer]? = none := there
            rw [missing]
            simp
        | some handler =>
            have here : (state.buffered scl client reading).handlers[pointer]? = some handler :=
              there
            rw [here, Option.map_some]
            cases kind : handler.kind with
            | default =>
                refine iff_of_true ?_ ⟨raw, handler, rfl, kind⟩
                simp only [List.any_cons, List.any_nil, Bool.or_false, Output.isEncrypted]
                split <;> rfl
            | video video => exact iff_of_false Bool.false_ne_true (by simp [kind])
            | input input => exact iff_of_false Bool.false_ne_true (by simp [kind])
  · refine iff_of_false ?_ (fun both => raw both.1)
    cases answer : (state.buffered scl client reading).reply (client.packet reading) with
    | none =>
        obtain ⟨fault, outcome⟩ := gotPacket_unknown write scl raw answer
        rw [outcome]
        exact Bool.false_ne_true
    | some bytes =>
        rw [gotPacket_request write scl answer]
        split <;> exact Bool.false_ne_true

theorem clientOpen_log {pointer : Nat} {step : OpenStep}
    (known : state.clients.lookup scl = some clientId)
    (took : finishClient scl (clientOpen protobuf scl pointer step) state = some (next, outputs)) :
    outputs = ((step.run protobuf pointer).run state).log := by
  have quiet := openStep_quiet protobuf pointer step state
  rcases outcome : (step.run protobuf pointer).run state with ⟨fault | further, after, log⟩
  · rw [outcome] at quiet
    exact (clientOpen_error outcome (quiet.clients ▸ known) took).2.2
  · obtain ⟨thread, -, opened⟩ := @clientOpen_ok state scl _ _ _ _ _ _ outcome
    rw [finishClient_log took, opened]

theorem clientStep_encrypted_iff (wired : state.Wired)
    (took : (machine protobuf).step state (.clientStep scl) = some (next, outputs)) :
    outputs.any Output.isEncrypted = true ↔ state.SendsEncrypted protobuf (.clientStep scl) := by
  obtain ⟨client, pointer, step, handler, present, opening, there, -, ran⟩ := clientStep_body took
  obtain ⟨clientId, known⟩ := wired.known present (by simp [opening])
  have sent := @openStep_encrypted_iff protobuf state pointer handler there step
  rw [clientOpen_log known ran, sent, State.SendsEncrypted]
  constructor
  · exact fun sends => ⟨client, pointer, step, handler, present, opening, there, sends⟩
  · rintro ⟨other, place, current, base, found, inside, installed, sends⟩
    rw [present] at found
    cases found
    rw [opening] at inside
    cases inside
    rw [there] at installed
    cases installed
    exact sends

theorem sample_encrypted_iff {pointer : Nat} {sample : Sample}
    (took : (machine protobuf).step state (.sample pointer sample) = some (next, outputs)) :
    outputs.any Output.isEncrypted = true ↔
      state.SendsEncrypted protobuf (.sample pointer sample) := by
  obtain ⟨handler, video, -, -, -, ran⟩ := sample_body took
  rw [finishStream_log ran, State.SendsEncrypted, newSample, Act.run_bind, Act.run_get,
    Act.andThen_ok]
  cases state.firstSample with
  | true => exact iff_of_false Bool.false_ne_true (by simp)
  | false => exact iff_of_true rfl rfl

theorem streamStep_encrypted_iff {pointer : Nat}
    (took : (machine protobuf).step state (.streamStep pointer) = some (next, outputs)) :
    outputs.any Output.isEncrypted = true ↔
      state.SendsEncrypted protobuf (.streamStep pointer) := by
  obtain ⟨handler, video, step, sample, there, kind, stream, -, ran⟩ := streamStep_body took
  have log : outputs.any Output.isEncrypted = true ↔
      step.Sends protobuf handler ∨ step = .awaitAnswer := by
    rw [finishStream_log ran]
    exact streamOpen_encrypted_iff there kind step sample
  rw [log, State.SendsEncrypted]
  constructor
  · exact fun sends => ⟨handler, video, step, sample, there, kind, stream, sends⟩
  · rintro ⟨other, current, next, given, found, isVideo, running, sends⟩
    rw [there] at found
    cases found
    rw [kind] at isVideo
    cases isVideo
    rw [stream] at running
    cases running
    exact sends

/-- A turn puts something Encrypted into the queue exactly when its state and event say so. -/
theorem step_encrypted_iff (wired : state.Wired)
    (took : (machine protobuf).step state event = some (next, outputs)) :
    outputs.any Output.isEncrypted = true ↔ state.SendsEncrypted protobuf event := by
  cases event with
  | connect scl fd stack =>
      obtain ⟨-, -, -, rfl⟩ := connect_turn took
      exact iff_of_false Bool.false_ne_true id
  | read scl reading write => exact read_encrypted_iff wired took
  | clientStep scl => exact clientStep_encrypted_iff wired took
  | headunit message accept write =>
      obtain ⟨rfl, -⟩ := headunit_turn took
      rcases content : message.content with _ | ⟨high, _ | ⟨low, rest⟩⟩
      · rw [handleMessageContent_short protobuf accept write state (by simp [content])]
        exact iff_of_false Bool.false_ne_true
          (by simp [State.SendsEncrypted, State.AnswersEncrypted, content, typeOf])
      · rw [handleMessageContent_short protobuf accept write state (by simp [content])]
        exact iff_of_false Bool.false_ne_true
          (by simp [State.SendsEncrypted, State.AnswersEncrypted, content, typeOf])
      · exact handleMessageContent_encrypted_iff accept write content
  | sample pointer sample => exact sample_encrypted_iff took
  | streamStep pointer => exact streamStep_encrypted_iff took
  | threadTerminated =>
      cases took
      exact iff_of_false Bool.false_ne_true id

end Turns

end AAServer

end AACS
