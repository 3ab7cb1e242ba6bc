import AACS.Server.Discovery

/-!
What the handling of a message touches.

Next to what `handleMessageContent` computes, this is the list of the bytes it reads
of the content, of the table entries whose handlers it calls and of those it writes.
The source checks none of them. Handling a message is defined exactly when every
access is one that is permitted.
-/

namespace AACS

namespace AAServer

open Effects FanOut

/-- An access to the content of a message, or to the table of the handlers. The lengths
are computed by subtraction from the size. -/
inductive Access where
  | read (offset length : Int)
  | call (channel : UInt8)
  | install (index : Nat)
  deriving DecidableEq, Repr

/-- A read that stays in the content. -/
def Access.Inside (message : Message) : Access → Prop
  | .read offset length => 0 ≤ length ∧ offset + length ≤ message.content.length
  | _ => True

/-- A call of a handler that is there, or an entry that the table has. -/
def Access.InTable (state : State) : Access → Prop
  | .read _ _ => True
  | .call channel => ∃ handler, state.handlerAt channel = some handler
  | .install index => index < 256

def typeOf : Bytes → Option UInt16
  | high :: low :: _ => some (bigEndian16 high low)
  | _ => none

/-- `shortView[0]` -/
def readType : Access := .read 0 2

def readContent (message : Message) : Access := .read 0 message.content.length

/-- The content behind the type: `shortView + 1` and `msg.size() - sizeof(__u16)`. -/
def readBody (message : Message) : Access := .read 2 (message.content.length - 2)

/-- `handleMessageFromHeadunit` of a handler. -/
def ChannelHandler.accesses (handler : ChannelHandler) (message : Message) : List Access :=
  match handler.kind with
  | .default => [readContent message]
  | .video video =>
      if video.channelOpened = false then [readContent message]
      else if typeOf message.content = some MessageType.ChannelOpenResponse.code then [readType]
      else [readType, readType]
  | .input _ =>
      if typeOf message.content = some MessageType.ChannelOpenResponse.code then [readType]
      else if typeOf message.content = some InputChannelMessageType.Event.code then
        [readType, readType, readContent message]
      else [readType, readType]

/-- `handleChannelMessage` -/
def channelAccesses (state : State) (message : Message) : List Access :=
  readType ::
    if message.channel ≠ 0 then
      .call message.channel ::
        (state.handlerAt message.channel).elim [] fun handler => handler.accesses message
    else [readContent message]

/-- `handleMessageContent`. Where a content is too short to have a type, what is done on
channel 0 depends on the bytes behind it. -/
def accesses (protobuf : Protobuf) (accept : Accept) (state : State) (message : Message) :
    List Access :=
  readType ::
    if message.channel ≠ 0 then channelAccesses state message
    else
      match typeOf message.content with
      | none => []
      | some type =>
          if isFocusResponse type then channelAccesses state message
          else if type = MessageType.VersionRequest.code then [.read 2 2, .read 4 2]
          else if type = MessageType.SslHandshake.code then [readBody message]
          else if type = MessageType.AuthComplete.code then []
          else if type = MessageType.ServiceDiscoveryResponse.code then
            readBody message ::
              (accept.installed
                (protobuf.serviceDiscoveryResponse_channels (message.content.drop 2))).map
                  fun channel => .install channel.channel_id
          else if type = MessageType.PingRequest.code then [readBody message]
          else []

abbrev Defined {α : Type} (body : ServerAct α) : Prop :=
  body.Throws fun fault => fault ≠ .undefinedBehaviour

section Definedness

variable {state : State} {message : Message} {high low : UInt8} {rest : Bytes}

theorem throw_defined {α : Type} (exception : Thrown) : Defined (throw exception : ServerAct α) :=
  .throw (by simp)

theorem gotMessage_defined (write : Nat → WriteResult) (clientId : Int) (channel : UInt8)
    (specific : Bool) (content : Bytes) :
    Defined (gotMessage write clientId channel specific content) := by
  intro state fault failed
  rw [gotMessage_run] at failed
  obtain ⟨errno, rfl⟩ : ∃ errno, writeFault errno = fault := by
    unfold State.broadcast at failed
    dsimp only at failed
    cases sent : (fanOut (state.destination write) isReset (state.addressees clientId)).1 with
    | ok value =>
        rw [sent] at failed
        cases failed
    | error errno =>
        rw [sent] at failed
        exact ⟨errno, by simpa [Except.mapError] using failed⟩
  obtain ⟨exception, thrown⟩ := writeFault_thrown errno
  simp [thrown]

theorem messageType_defined (content : message.content = high :: low :: rest) :
    Defined (messageType message.content) := by
  rw [content]
  exact .pure _

theorem baseHandler_defined (pointer : Nat) (content : message.content = high :: low :: rest) :
    Defined (ChannelHandler.handleMessageFromHeadunit pointer message) := by
  refine .bind (messageType_defined content) fun type => ?_
  split
  · exact .bind (.modify _) fun _ => .pure _
  · exact .pure _

theorem inputHandler_defined (write : Nat → WriteResult) (pointer : Nat) (base : ChannelHandler)
    (input : InputChannelHandler) (content : message.content = high :: low :: rest) :
    Defined (InputChannelHandler.handleMessageFromHeadunit write pointer base input message) := by
  refine .bind (baseHandler_defined pointer content) fun handled => ?_
  split
  · exact .pure _
  refine .bind (messageType_defined content) fun type => ?_
  split
  · exact .bind (.modify _) fun _ => .pure _
  split
  · exact .bind (.forM _ fun rc _ => gotMessage_defined _ _ _ _ _) fun _ => .pure _
  · exact .pure _

theorem videoHandler_defined (write : Nat → WriteResult) (pointer : Nat) (base : ChannelHandler)
    (video : VideoChannelHandler) (content : message.content = high :: low :: rest) :
    Defined (VideoChannelHandler.handleMessageFromHeadunit write pointer base video message) := by
  unfold VideoChannelHandler.handleMessageFromHeadunit
  split
  · exact .bind (gotMessage_defined _ _ _ _ _) fun _ => .pure _
  refine .bind (baseHandler_defined pointer content) fun handled => ?_
  split
  · exact .pure _
  refine .bind (messageType_defined content) fun type => ?_
  split
  · exact .bind (.modify _) fun _ => .pure _
  split
  · exact .bind (.emit _) fun _ => .pure _
  · exact .pure _

theorem handleMessageFromHeadunit_defined {pointer : Nat} {handler : ChannelHandler}
    (write : Nat → WriteResult) (present : state.handlers[pointer]? = some handler)
    (content : message.content = high :: low :: rest) :
    ((handleMessageFromHeadunit write pointer message).run state).result ≠
      .error .undefinedBehaviour := by
  have body : Defined (match handler.kind with
      | .default => DefaultChannelHandler.handleMessageFromHeadunit write message
      | .video video =>
          VideoChannelHandler.handleMessageFromHeadunit write pointer handler video message
      | .input input =>
          InputChannelHandler.handleMessageFromHeadunit write pointer handler input message) := by
    split
    · exact .bind (gotMessage_defined _ _ _ _ _) fun _ => .pure _
    · exact videoHandler_defined write pointer handler _ content
    · exact inputHandler_defined write pointer handler _ content
  intro undefined
  rw [handleMessageFromHeadunit, Act.run_bind, readHandler_run present, Act.andThen_ok] at undefined
  exact body state _ undefined rfl

theorem handleChannelMessage_undefined_iff (write : Nat → WriteResult)
    (content : message.content = high :: low :: rest) :
    ((handleChannelMessage write message).run state).result = .error .undefinedBehaviour ↔
      message.channel ≠ 0 ∧ state.handlerAt message.channel = none := by
  by_cases control : message.channel = 0
  · refine iff_of_false (fun undefined => ?_) (by simp [control])
    have body : Defined (handleChannelMessage write message) := by
      unfold handleChannelMessage
      refine .bind (messageType_defined content) fun type => ?_
      rw [if_neg (by simpa using control)]
      exact gotMessage_defined _ _ _ _ _
    exact body state _ undefined rfl
  · cases installed : state.channelHandlers message.channel with
    | none =>
        refine iff_of_true ?_ ⟨control, by rw [State.handlerAt, installed]; rfl⟩
        simp only [handleChannelMessage, content, Act.run_bind, messageType_run, Act.andThen_ok,
          ne_eq, control, not_false_eq_true, if_true, Act.run_get, installed]
        rfl
    | some pointer =>
        rw [handleChannelMessage_run write content control installed, State.handlerAt, installed,
          Option.bind_some]
        cases present : state.handlers[pointer]? with
        | none =>
            refine iff_of_true ?_ ⟨control, rfl⟩
            rw [handleMessageFromHeadunit, Act.run_bind]
            simp only [readHandler, Act.run_bind, Act.run_get, Act.andThen_ok, present]
            rfl
        | some handler =>
            refine iff_of_false (fun undefined => ?_) (by simp)
            have defined := handleMessageFromHeadunit_defined write present content
            rcases ran : (handleMessageFromHeadunit write pointer message).run state with
              ⟨fault | handled, after, log⟩
            · rw [ran, Act.andThen_error] at undefined
              rw [ran] at defined
              cases undefined
              exact defined rfl
            · rw [ran, Act.andThen_ok] at undefined
              cases handled with
              | true => cases undefined
              | false => cases undefined

theorem handleVersionRequest_undefined_iff {buf : Bytes} :
    ((handleVersionRequest buf).run state).result = .error .undefinedBehaviour ↔
      buf.length < 4 := by
  unfold handleVersionRequest
  split
  · refine iff_of_false (fun undefined => ?_) (by simp)
    split at undefined <;> cases undefined
  next short =>
    apply iff_of_true rfl
    rcases buf with _ | ⟨first, _ | ⟨second, _ | ⟨third, _ | ⟨fourth, rest⟩⟩⟩⟩
    · simp
    · simp
    · simp
    · simp
    · exact absurd rfl (short first second third fourth rest)

theorem handleSslHandshake_defined (accept : Accept) : Defined (handleSslHandshake accept) := by
  refine .bind (.modify _) fun _ => ?_
  split
  · exact .emit _
  · exact throw_defined _

theorem handlePingRequest_defined (protobuf : Protobuf) (buf : Bytes) :
    Defined (handlePingRequest protobuf buf) := by
  unfold handlePingRequest
  split
  · exact throw_defined _
  · exact .emit _

theorem discovery_defined_iff {protobuf : Protobuf} {accept : Accept} {buf : Bytes} :
    ((handleServiceDiscoveryResponse protobuf accept buf).run state).result ≠
        .error .undefinedBehaviour ↔
      ∀ channel ∈ accept.installed (protobuf.serviceDiscoveryResponse_channels buf),
        channel.channel_id < 256 := by
  constructor
  · intro defined
    by_contra outside
    push Not at outside
    exact defined (handleServiceDiscoveryResponse_outside
      (outside.imp fun channel ⟨membership, large⟩ => ⟨membership, Nat.not_lt.mpr large⟩) state)
  · intro small
    rw [handleServiceDiscoveryResponse_run small]
    dsimp only
    split <;> simp

end Definedness

section Inside

variable {protobuf : Protobuf} {accept : Accept} {state : State} {message : Message}

/-- The content does not reach to where its type says it does. -/
def TooShort (message : Message) : Prop :=
  message.content.length < 2 ∨
    message.channel = 0 ∧ typeOf message.content = some MessageType.VersionRequest.code ∧
      message.content.length < 6

theorem readType_inside : readType.Inside message ↔ 2 ≤ message.content.length := by
  simp only [readType, Access.Inside]
  omega

theorem readContent_inside : (readContent message).Inside message := by
  simp only [readContent, Access.Inside]
  omega

theorem readBody_inside (long : 2 ≤ message.content.length) :
    (readBody message).Inside message := by
  simp only [readBody, Access.Inside]
  omega

theorem handler_inside (handler : ChannelHandler) (long : 2 ≤ message.content.length) :
    ∀ access ∈ handler.accesses message, access.Inside message := by
  have type := readType_inside.mpr long
  have whole := @readContent_inside message
  unfold ChannelHandler.accesses
  split
  · simpa using whole
  · split
    · simpa using whole
    · split <;> simpa using type
  · split
    · simpa using type
    · split
      · simpa using ⟨type, whole⟩
      · simpa using type

theorem channel_inside (long : 2 ≤ message.content.length) :
    ∀ access ∈ channelAccesses state message, access.Inside message := by
  have type := readType_inside.mpr long
  have whole := @readContent_inside message
  unfold channelAccesses
  split
  · cases state.handlerAt message.channel with
    | none => simpa [Access.Inside] using type
    | some handler =>
        rw [List.forall_mem_cons, List.forall_mem_cons]
        exact ⟨type, trivial, handler_inside handler long⟩
  · simpa using ⟨type, whole⟩

theorem accesses_inside_iff :
    (∀ access ∈ accesses protobuf accept state message, access.Inside message) ↔
      ¬ TooShort message := by
  by_cases long : 2 ≤ message.content.length
  · have type := readType_inside.mpr long
    have body := readBody_inside long
    have routed := @channel_inside state message long
    have enough : ¬ message.content.length < 2 := by omega
    unfold accesses
    simp only [List.forall_mem_cons, type, true_and, TooShort, enough, false_or]
    by_cases control : message.channel = 0
    · simp only [control, ne_eq, not_true_eq_false, if_false, true_and]
      cases found : typeOf message.content with
      | none => simp
      | some type =>
          by_cases version : type = MessageType.VersionRequest.code
          · subst version
            have notFocus : isFocusResponse MessageType.VersionRequest.code = false := by decide
            simp only [notFocus, Bool.false_eq_true, if_false, if_true, List.forall_mem_cons,
              Access.Inside]
            simp
            omega
          · refine iff_of_true ?_ (by simp [version])
            simp only [version, if_false]
            split
            · exact routed
            split
            · simpa using body
            split
            · simp
            split
            · simpa [Access.Inside] using body
            split
            · simpa using body
            · simp
    · rw [if_pos control]
      exact iff_of_true routed (by simp [control])
  · refine iff_of_false (fun inside => long ?_) (not_not.mpr (.inl (by omega)))
    exact readType_inside.mp (inside readType List.mem_cons_self)

end Inside

section InTable

variable {protobuf : Protobuf} {accept : Accept} {state : State} {message : Message}

theorem channel_inTable_iff :
    (∀ access ∈ channelAccesses state message, access.InTable state) ↔
      (message.channel ≠ 0 → state.handlerAt message.channel ≠ none) := by
  have reads (handler : ChannelHandler) :
      ∀ access ∈ handler.accesses message, access.InTable state := by
    unfold ChannelHandler.accesses
    split
    · simp [readContent, Access.InTable]
    · split
      · simp [readContent, Access.InTable]
      · split <;> simp [readType, Access.InTable]
    · split
      · simp [readType, Access.InTable]
      · split <;> simp [readType, readContent, Access.InTable]
  unfold channelAccesses
  by_cases control : message.channel = 0
  · simp [control, readType, readContent, Access.InTable]
  · rw [if_pos control]
    cases found : state.handlerAt message.channel with
    | none => simp [control, found, readType, Access.InTable]
    | some handler => simpa [found, readType, Access.InTable] using reads handler

theorem isServiceDiscoveryResponse_iff :
    isServiceDiscoveryResponse message = true ↔ message.channel = 0 ∧
      typeOf message.content = some MessageType.ServiceDiscoveryResponse.code := by
  rcases content : message.content with _ | ⟨high, _ | ⟨low, rest⟩⟩ <;>
    simp [isServiceDiscoveryResponse, typeOf, content]

/-- The table is used well when the handler is there and the descriptor has small numbers. -/
theorem accesses_inTable_iff :
    (∀ access ∈ accesses protobuf accept state message, access.InTable state) ↔
      (message.channel ≠ 0 → state.handlerAt message.channel ≠ none) ∧
        (isServiceDiscoveryResponse message = true →
          ∀ channel ∈ accept.installed
              (protobuf.serviceDiscoveryResponse_channels (message.content.drop 2)),
            channel.channel_id < 256) := by
  have routed := @channel_inTable_iff state message
  rw [isServiceDiscoveryResponse_iff]
  unfold accesses
  rw [List.forall_mem_cons, and_iff_right (show readType.InTable state from trivial)]
  by_cases control : message.channel = 0
  · simp only [control, ne_eq, not_true_eq_false, if_false, IsEmpty.forall_iff, true_and]
      at routed ⊢
    cases found : typeOf message.content with
    | none => simp
    | some type =>
        by_cases discovery : type = MessageType.ServiceDiscoveryResponse.code
        · subst discovery
          have notFocus : isFocusResponse MessageType.ServiceDiscoveryResponse.code = false := by
            decide
          have others : ∀ other ∈ [MessageType.VersionRequest, .SslHandshake, .AuthComplete],
              MessageType.ServiceDiscoveryResponse.code ≠ other.code := by decide
          simp only [List.forall_mem_cons] at others
          simp [notFocus, others.1, others.2.1, others.2.2.1, readBody, Access.InTable]
        · refine iff_of_true ?_ (by simp [discovery])
          simp only [discovery, if_false]
          split
          · simpa using routed
          split
          · simp [Access.InTable]
          split
          · simp [readBody, Access.InTable]
          split
          · simp
          split
          · simp [readBody, Access.InTable]
          · simp
  · rw [if_pos control, routed]
    simp [control]

end InTable

section Soundness

variable {protobuf : Protobuf} {accept : Accept} {state : State} {message : Message}

/-- The list is complete: nothing else makes the handling of a message undefined. -/
theorem handleMessageContent_defined_iff (write : Nat → WriteResult) :
    ((handleMessageContent protobuf accept write message).run state).result ≠
        .error .undefinedBehaviour ↔
      ∀ access ∈ accesses protobuf accept state message,
        access.Inside message ∧ access.InTable state := by
  rw [forall₂_and, accesses_inside_iff, accesses_inTable_iff, isServiceDiscoveryResponse_iff]
  rcases content : message.content with _ | ⟨high, _ | ⟨low, rest⟩⟩
  · have short := @handleMessageContent_short message protobuf accept write state
      (by simp [content])
    exact iff_of_false (by simp [short]) fun long => long.1 (.inl (by simp [content]))
  · have short := @handleMessageContent_short message protobuf accept write state
      (by simp [content])
    exact iff_of_false (by simp [short]) fun long => long.1 (.inl (by simp [content]))
  have routed := @handleChannelMessage_undefined_iff state message high low rest write content
  have type : typeOf message.content = some (bigEndian16 high low) := by rw [content]; rfl
  have size : message.content.length = rest.length + 2 := by rw [content]; rfl
  have enough : ¬ message.content.length < 2 := by omega
  have same : typeOf (high :: low :: rest) = some (bigEndian16 high low) := rfl
  simp only [TooShort, enough, false_or, type, same, Option.some.injEq, List.drop_succ_cons,
    List.drop_zero]
  by_cases control : message.channel = 0
  · rw [handleMessageContent_control protobuf accept write state content control]
    simp only [control, ne_eq, not_true_eq_false, IsEmpty.forall_iff, true_and, false_and,
      iff_false] at routed ⊢
    generalize bigEndian16 high low = type at routed ⊢
    by_cases version : type = MessageType.VersionRequest.code
    · subst version
      have order : isFocusResponse MessageType.VersionRequest.code = false ∧
          MessageType.VersionRequest.code ≠ MessageType.ServiceDiscoveryResponse.code := by decide
      simp only [order.1, order.2, Bool.false_eq_true, if_false, if_true, IsEmpty.forall_iff,
        handleVersionRequest_undefined_iff, true_and, and_true]
      omega
    by_cases discovery : type = MessageType.ServiceDiscoveryResponse.code
    · subst discovery
      have order : isFocusResponse MessageType.ServiceDiscoveryResponse.code = false ∧
          MessageType.ServiceDiscoveryResponse.code ≠ MessageType.SslHandshake.code ∧
          MessageType.ServiceDiscoveryResponse.code ≠ MessageType.AuthComplete.code := by decide
      simp only [order.1, order.2, version, Bool.false_eq_true, if_false, if_true, false_and,
        not_false_eq_true, true_and, forall_const]
      exact discovery_defined_iff
    · simp only [version, discovery, if_false, false_and, not_false_eq_true, IsEmpty.forall_iff,
        and_true, iff_true]
      split
      · exact routed
      split
      · exact fun undefined => handleSslHandshake_defined accept state _ undefined rfl
      split
      · simp [sendServiceDiscoveryRequest, sendToHeadunit]
      split
      · exact fun undefined => handlePingRequest_defined protobuf rest state _ undefined rfl
      · exact fun undefined => throw_defined _ state _ undefined rfl
  · rw [handleMessageContent_ordinary protobuf accept write state content control, ne_eq, routed]
    simp [control]

end Soundness

end AAServer

end AACS
