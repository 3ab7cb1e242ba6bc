import AACS.Library.FanOut
import AACS.Server.Machine

/-!
Where messages of the head unit go.

`State.route` says which clients a message is for and what they get. The server
does as it says: `handleMessageContent` delivers a routed message to its recipients
in their order and changes nothing else, and sends nothing to anybody for the others.
-/

namespace AACS

namespace AAServer

open Effects FanOut

def State.addressees (state : State) (clientId : Int) : List Nat :=
  (state.clients.filter fun cl => cl.2 = clientId ∨ clientId = -1).map Prod.fst

def packetFor (channel : UInt8) (specific : Bool) (content : Bytes) : Bytes :=
  channel :: (if specific then 0xff else 0x00) :: content

def State.handlerAt (state : State) (channel : UInt8) : Option ChannelHandler :=
  (state.channelHandlers channel).bind fun pointer => state.handlers[pointer]?

/-- The recipients of a message, in the order of the writes, and their packet. -/
def State.route (state : State) (message : Message) : Option (List Nat × Bytes) :=
  let everyone := some (state.addressees (-1),
    packetFor message.channel (isSpecific message.flags) message.content)
  match message.content with
  | high :: low :: _ =>
      if message.channel = 0 then
        if isFocusResponse (bigEndian16 high low) then everyone else none
      else
        match state.handlerAt message.channel with
        | none => none
        | some handler =>
            match handler.kind with
            | .default => everyone
            | .video video => if video.channelOpened then none else everyone
            | .input input =>
                if bigEndian16 high low = InputChannelMessageType.Event.code then
                  some (input.registered_clients.flatMap state.addressees,
                    packetFor handler.channelId false message.content)
                else none
  | _ => none

/-- A message goes to all clients, or to those of an input handler. -/
theorem route_cases {state : State} {message : Message} {recipients : List Nat} {bytes : Bytes}
    (routed : state.route message = some (recipients, bytes)) :
    (recipients = state.addressees (-1) ∧
      bytes = packetFor message.channel (isSpecific message.flags) message.content) ∨
    ∃ handler input, state.handlerAt message.channel = some handler ∧
      handler.kind = .input input ∧
      recipients = input.registered_clients.flatMap state.addressees ∧
      bytes = packetFor handler.channelId false message.content := by
  unfold State.route at routed
  split at routed
  next high low rest content =>
    split at routed
    · split at routed
      · cases routed
        exact .inl ⟨rfl, rfl⟩
      · cases routed
    · cases found : state.handlerAt message.channel with
      | none => simp [found] at routed
      | some handler =>
          simp only [found] at routed
          cases kind : handler.kind with
          | default =>
              simp only [kind] at routed
              cases routed
              exact .inl ⟨rfl, rfl⟩
          | video video =>
              simp only [kind] at routed
              split at routed
              · cases routed
              · cases routed
                exact .inl ⟨rfl, rfl⟩
          | input input =>
              simp only [kind] at routed
              split at routed
              · cases routed
                exact .inr ⟨handler, input, rfl, kind, rfl, rfl⟩
              · cases routed
  next => cases routed

/-- The `errno` that `gotMessage` passes over. -/
def isReset (errno : Nat) : Bool := errno = econnreset

def State.broadcast (state : State) (write : Nat → WriteResult) (bytes : Bytes)
    (recipients : List Nat) : Outcome State Output Fault Unit :=
  let sent := fanOut (state.destination write) isReset recipients
  ⟨sent.1.mapError writeFault, state, sent.2.map fun connection => .packet connection bytes⟩

theorem broadcast_append (state : State) (write : Nat → WriteResult) (bytes : Bytes)
    (first second : List Nat) (next : ServerAct Unit)
    (continued : next.run state = state.broadcast write bytes second) :
    (state.broadcast write bytes first).andThen (fun _ => next) =
      state.broadcast write bytes (first ++ second) := by
  unfold State.broadcast
  rw [fanOut_append]
  rcases fanOut (state.destination write) isReset first with
    ⟨failure | value, delivered⟩
  · rfl
  · simp [continued, State.broadcast, Except.mapError]

theorem sendMessage_run (state : State) (write : Nat → WriteResult) (scl : Nat) (bytes : Bytes) :
    ((SocketClient.sendMessage write scl bytes).tryCatch Fault.isClientDisconnected
      fun _ => pure ()).run state = state.broadcast write bytes [scl] := by
  unfold State.broadcast
  cases result : state.destination write scl with
  | ok connection => simp [SocketClient.sendMessage, Act.tryCatch, fanOut, result, Except.mapError]
  | error errno =>
      by_cases gone : errno = econnreset
      · simp [SocketClient.sendMessage, Act.tryCatch, fanOut, result, isReset, writeFault, gone,
          Fault.isClientDisconnected, Except.mapError]
      · simp [SocketClient.sendMessage, Act.tryCatch, fanOut, result, isReset, writeFault, gone,
          Fault.isClientDisconnected, Except.mapError]

theorem gotMessage_run (state : State) (write : Nat → WriteResult) (clientId : Int)
    (channel : UInt8) (specific : Bool) (content : Bytes) :
    (gotMessage write clientId channel specific content).run state =
      state.broadcast write (packetFor channel specific content) (state.addressees clientId) := by
  have loop (clients : List (Nat × Int)) :
      (clients.forM fun cl =>
        if cl.2 = clientId ∨ clientId = -1 then
          (SocketClient.sendMessage write cl.1 (packetFor channel specific content)).tryCatch
            Fault.isClientDisconnected fun _ => pure ()
        else
          (pure () : ServerAct Unit)).run state =
      state.broadcast write (packetFor channel specific content)
        ((clients.filter fun cl => cl.2 = clientId ∨ clientId = -1).map Prod.fst) := by
    induction clients with
    | nil => rfl
    | cons cl rest inductionHypothesis =>
        rw [Act.run_forM_cons]
        by_cases selected : cl.2 = clientId ∨ clientId = -1
        · rw [if_pos selected, sendMessage_run, List.filter_cons_of_pos (by simpa using selected)]
          exact broadcast_append _ _ _ _ _ _ inductionHypothesis
        · rw [if_neg selected, List.filter_cons_of_neg (by simpa using selected)]
          simpa using inductionHypothesis
  exact loop state.clients

theorem registered_run (state : State) (write : Nat → WriteResult) (registered : List Int)
    (channel : UInt8) (content : Bytes) :
    (registered.forM fun rc => gotMessage write rc channel false content).run state =
      state.broadcast write (packetFor channel false content)
        (registered.flatMap state.addressees) := by
  induction registered with
  | nil => rfl
  | cons rc rest inductionHypothesis =>
      rw [Act.run_forM_cons, gotMessage_run, List.flatMap_cons]
      exact broadcast_append _ _ _ _ _ _ inductionHypothesis

theorem messageType_run (state : State) (high low : UInt8) (rest : Bytes) :
    (messageType (high :: low :: rest)).run state = ⟨.ok (bigEndian16 high low), state, []⟩ := rfl

theorem handleChannelMessage_run {state : State} {message : Message} {pointer : Nat}
    {high low : UInt8} {rest : Bytes} (write : Nat → WriteResult)
    (content : message.content = high :: low :: rest) (ordinary : message.channel ≠ 0)
    (installed : state.channelHandlers message.channel = some pointer) :
    (handleChannelMessage write message).run state =
      ((handleMessageFromHeadunit write pointer message).run state).andThen fun handled =>
        if handled then pure ()
        else throw (.aaRuntimeError ("Unknown packet on channel " ++
          toString message.channel.toNat ++ " with message type " ++
          toString (bigEndian16 high low).toNat)) := by
  simp only [handleChannelMessage, content, ne_eq, ordinary, not_false_eq_true, if_true,
    Act.run_bind, messageType_run, Act.andThen_ok, Act.run_get, installed, List.nil_append]

theorem readHandler_run {state : State} {pointer : Nat} {handler : ChannelHandler}
    (present : state.handlers[pointer]? = some handler) :
    (readHandler pointer).run state = ⟨.ok handler, state, []⟩ := by
  simp [readHandler, present]

theorem andThen_handled (sent : Outcome State Output Fault Unit) (unknown : ServerAct Unit) :
    ((sent.andThen fun _ => (pure true : ServerAct Bool)).andThen fun handled =>
      if handled then pure () else unknown) = sent := by
  obtain ⟨failure | value, state, log⟩ := sent
  · rfl
  · simp

theorem baseHandler_run {pointer : Nat} {message : Message} {high low : UInt8} {rest : Bytes}
    (state : State) (content : message.content = high :: low :: rest) :
    (ChannelHandler.handleMessageFromHeadunit pointer message).run state =
      if bigEndian16 high low = MessageType.ChannelOpenResponse.code then
        ⟨.ok true, state.updateHandler pointer fun handler =>
          { handler with gotChannelOpenResponse := true }, []⟩
      else ⟨.ok false, state, []⟩ := by
  simp only [ChannelHandler.handleMessageFromHeadunit, content, Act.run_bind, messageType_run,
    Act.andThen_ok]
  split <;> rfl

theorem eventHandler_run {message : Message} {high low : UInt8} {rest : Bytes}
    (write : Nat → WriteResult) (pointer : Nat) (base : ChannelHandler)
    (input : InputChannelHandler) (state : State) (content : message.content = high :: low :: rest)
    (event : bigEndian16 high low = InputChannelMessageType.Event.code) :
    (InputChannelHandler.handleMessageFromHeadunit write pointer base input message).run state =
      (state.broadcast write (packetFor base.channelId false message.content)
        (input.registered_clients.flatMap state.addressees)).andThen fun _ => pure true := by
  have notOpen : bigEndian16 high low ≠ MessageType.ChannelOpenResponse.code := by
    rw [event]
    decide
  have notAnswer : InputChannelMessageType.Event.code ≠
      InputChannelMessageType.HandshakeResponse.code := by decide
  rw [InputChannelHandler.handleMessageFromHeadunit, Act.run_bind, baseHandler_run state content,
    if_neg notOpen, ← registered_run, content]
  simp only [Act.andThen_ok, Bool.false_eq_true, if_false, Act.run_bind, messageType_run,
    List.nil_append, event, notAnswer, if_false, if_true]

theorem handleMessageContent_ordinary {message : Message} {high low : UInt8} {rest : Bytes}
    (protobuf : Protobuf) (accept : Accept) (write : Nat → WriteResult) (state : State)
    (content : message.content = high :: low :: rest) (ordinary : message.channel ≠ 0) :
    (handleMessageContent protobuf accept write message).run state =
      (handleChannelMessage write message).run state := by
  simp [handleMessageContent, content, ordinary, messageType_run]

/-- A routed message is delivered to its recipients, and the state stays as it is. -/
theorem handleMessageContent_routed {state : State} {message : Message} {recipients : List Nat}
    {bytes : Bytes} (protobuf : Protobuf) (accept : Accept) (write : Nat → WriteResult)
    (routed : state.route message = some (recipients, bytes)) :
    (handleMessageContent protobuf accept write message).run state =
      state.broadcast write bytes recipients := by
  unfold State.route at routed
  split at routed
  next high low rest content =>
    by_cases control : message.channel = 0
    · simp only [control, if_true] at routed
      split at routed
      next focus =>
        cases routed
        simp [handleMessageContent, handleChannelMessage, content, control, focus, messageType_run,
          gotMessage_run]
      next => cases routed
    · simp only [control, if_false] at routed
      rw [handleMessageContent_ordinary protobuf accept write state content control]
      cases installed : state.channelHandlers message.channel with
      | none => simp [State.handlerAt, installed] at routed
      | some pointer =>
          rw [handleChannelMessage_run write content control installed]
          cases present : state.handlers[pointer]? with
          | none => simp [State.handlerAt, installed, present] at routed
          | some handler =>
              simp only [State.handlerAt, installed, Option.bind_some, present] at routed
              simp only [handleMessageFromHeadunit, Act.run_bind, readHandler_run present,
                Act.andThen_ok, List.nil_append]
              cases kind : handler.kind with
              | default =>
                  simp only [kind] at routed ⊢
                  cases routed
                  simp only [DefaultChannelHandler.handleMessageFromHeadunit, Act.run_bind,
                    gotMessage_run]
                  exact andThen_handled _ _
              | video video =>
                  simp only [kind] at routed ⊢
                  cases opened : video.channelOpened with
                  | true => simp [opened] at routed
                  | false =>
                      simp only [opened, Bool.false_eq_true, if_false] at routed
                      cases routed
                      simp only [VideoChannelHandler.handleMessageFromHeadunit, opened, if_true,
                        Act.run_bind, gotMessage_run]
                      exact andThen_handled _ _
              | input input =>
                  simp only [kind] at routed ⊢
                  by_cases event : bigEndian16 high low = InputChannelMessageType.Event.code
                  · rw [if_pos event] at routed
                    cases routed
                    rw [eventHandler_run write pointer handler input state content event]
                    exact andThen_handled _ _
                  · rw [if_neg event] at routed
                    cases routed
  next => cases routed

end AAServer

end AACS
