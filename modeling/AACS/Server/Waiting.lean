import AACS.Server.Encrypted
import AACS.Server.Link
import AACS.Server.Statements
import AACS.Server.Wakeup

/-!
What a thread that opens a channel waits for.

A thread gets to a wait through the reset of its flag and the request behind it. So whoever
waits for a flag that is not set waits for an answer to a request that has been sent, its own
or that of another thread inside the same handler, or that is about to be sent.
-/

namespace AACS

namespace AAServer

open Effects Transitions

def State.Unset (state : State) (pointer : Nat) (request : Request) : Prop :=
  ∀ handler, state.handlers[pointer]? = some handler → request.flag handler = false

def Request.codeFor : ChannelType → Request → UInt16
  | _, .channelOpen => MessageType.ChannelOpenRequest.code
  | .Input, .handshake => InputChannelMessageType.HandshakeRequest.code
  | .Video, .handshake => MediaMessageType.SetupRequest.code

/-- The message is an answer to the request, for this handler. -/
def State.Answers (state : State) (pointer : Nat) (request : Request) (message : Message) : Prop :=
  state.HandsTo message pointer ∧ Request.answeredBy message.content = some request

section Waits

variable {protobuf : Protobuf} {state next : State} {event : Event} {outputs : List Output}
  {pointer : Nat} {handler : ChannelHandler} {type : ChannelType} {request : Request}

theorem flag_settled (request : Request) : Settled fun handler => request.flag handler = true where
  registers handler clientId set := by
    obtain ⟨channelId, opened, kind⟩ := handler
    cases kind <;> cases request <;> exact set
  disconnects handler clientId set := by
    obtain ⟨channelId, opened, kind⟩ := handler
    cases kind <;> cases request <;> exact set

theorem flag_setAnswered (set : request.flag handler = true) :
    request.flag (handler.setAnswered true) = true := by
  obtain ⟨channelId, opened, kind⟩ := handler
  cases kind <;> cases request <;> first | exact set | rfl

theorem flag_setAnswered_channelOpen (answered : Bool) :
    Request.channelOpen.flag (handler.setAnswered answered) = Request.channelOpen.flag handler := by
  obtain ⟨channelId, opened, kind⟩ := handler
  cases kind <;> rfl

/-- A flag stays set until a thread resets it. -/
theorem step_flag (present : state.handlers[pointer]? = some handler)
    (set : request.flag handler = true)
    (kept : state.openingAt event ≠ some (pointer, request.resetStep))
    (took : (machine protobuf).step state event = some (next, outputs)) :
    ∃ later, next.handlers[pointer]? = some later ∧ request.flag later = true := by
  refine step_keeps (flag_settled request) (fun handler video sample kind set => ?_)
    (fun step handler video sample here kind set => ?_) (fun reopens later set => ?_)
    (fun resets later set => ?_) (fun later set => ?_) (fun later set => flag_setAnswered set) took
    present set
  · obtain ⟨channelId, opened, other⟩ := handler
    cases kind
    cases request <;> exact set
  · rw [here] at kept
    obtain ⟨channelId, opened, other⟩ := handler
    cases kind
    cases request with
    | channelOpen =>
        cases step with
        | resetChannelOpen => exact absurd rfl kept
        | sendChannelOpen | awaitChannelOpen | resetAnswer | sendRequest | awaitAnswer => exact set
    | handshake =>
        cases step with
        | resetAnswer => exact absurd rfl kept
        | resetChannelOpen | sendChannelOpen | awaitChannelOpen | sendRequest | awaitAnswer =>
            exact set
  · cases request with
    | channelOpen => exact absurd reopens kept
    | handshake => exact set
  · cases request with
    | channelOpen => rw [flag_setAnswered_channelOpen, set]
    | handshake => exact absurd resets kept
  · cases request with
    | channelOpen => rfl
    | handshake => exact set

theorem sendStep_run (serializes : ∀ buttons, protobuf.inputChannelHandshakeRequest buttons ≠ none)
    (present : state.handlers[pointer]? = some handler)
    (isType : handler.kind.channelType = some type) (request : Request) :
    ∃ flags content, typeOf content = some (request.codeFor type) ∧
      (request.sendStep.run protobuf pointer).run state = ⟨.ok (some request.waitStep), state,
        [.enqueue handler.channelId flags content]⟩ := by
  cases request with
  | channelOpen =>
      have ran : (OpenStep.sendChannelOpen.run protobuf pointer).run state =
          ⟨.ok (some .awaitChannelOpen), state, [.enqueue handler.channelId
            (FrameType.Bulk.mask ||| EncryptionType.Encrypted.mask |||
              MessageTypeFlags.Specific.mask)
            (pushBackInt16 [] MessageType.ChannelOpenRequest.code ++
              protobuf.channelOpenRequest handler.channelId.toNat 0)]⟩ := by
        simp [OpenStep.run, readHandler_run present, ChannelHandler.sendChannelOpenRequest,
          sendToHeadunit]
      refine ⟨_, _, ?_, ran⟩
      cases type <;> rfl
  | handshake =>
      cases kind : handler.kind with
      | default =>
          rw [kind] at isType
          cases isType
      | video video =>
          rw [kind] at isType
          cases isType
          have ran : (OpenStep.sendRequest.run protobuf pointer).run state =
              ⟨.ok (some .awaitAnswer), state, [.enqueue handler.channelId
                (FrameType.Bulk.mask ||| EncryptionType.Encrypted.mask)
                (pushBackInt16 [] MediaMessageType.SetupRequest.code ++ [0x08, 0x03])]⟩ := by
            simp [OpenStep.run, readHandler_run present, ChannelHandler.sendRequest, kind,
              VideoChannelHandler.sendSetupRequest, sendToHeadunit]
          exact ⟨_, _, rfl, ran⟩
      | input input =>
          rw [kind] at isType
          cases isType
          obtain ⟨buffer, serialized⟩ :=
            Option.ne_none_iff_exists'.mp (serializes input.available_buttons)
          have ran : (OpenStep.sendRequest.run protobuf pointer).run state =
              ⟨.ok (some .awaitAnswer), state, [.enqueue handler.channelId
                (FrameType.Bulk.mask ||| EncryptionType.Encrypted.mask)
                (pushBackInt16 [] InputChannelMessageType.HandshakeRequest.code ++ buffer)]⟩ := by
            simp [OpenStep.run, readHandler_run present, ChannelHandler.sendRequest, kind,
              InputChannelHandler.sendHandshakeRequest, serialized, sendToHeadunit]
          exact ⟨_, _, rfl, ran⟩

theorem opening_sends (serializes : ∀ buttons, protobuf.inputChannelHandshakeRequest buttons ≠ none)
    (wired : state.Wired) (present : state.handlers[pointer]? = some handler)
    (isType : handler.kind.channelType = some type)
    (opening : state.openingAt event = some (pointer, request.sendStep))
    (took : (machine protobuf).step state event = some (next, outputs)) :
    ∃ msg ∈ queued outputs, msg.channel = handler.channelId ∧
      typeOf msg.content = some (request.codeFor type) := by
  obtain ⟨flags, content, typed, sends⟩ := sendStep_run serializes present isType request
  have sent : .enqueue handler.channelId flags content ∈ outputs := by
    rcases openingAt_opener opening with ⟨scl, client, rfl, there, inside⟩ |
      ⟨rfl, other, video, sample, there, kind, stream⟩
    · obtain ⟨same, target, step, other, again, opens, -, -, ran⟩ := clientStep_body took
      rw [there] at again
      cases again
      rw [inside] at opens
      cases opens
      obtain ⟨clientId, known⟩ := wired.known there (by simp [inside])
      rw [clientOpen_log known ran, sends]
      exact List.mem_singleton_self _
    · obtain ⟨same, sameVideo, step, waiting, again, otherKind, running, -, ran⟩ :=
        streamStep_body took
      rw [there] at again
      cases again
      rw [kind] at otherKind
      cases otherKind
      rw [stream] at running
      cases running
      rw [finishStream_log ran, streamOpen, Act.run_bind, sends, Act.andThen_ok]
      exact List.mem_cons_self
  refine ⟨⟨handler.channelId, flags, content, 0⟩, ?_, rfl, typed⟩
  exact List.mem_filterMap.mpr ⟨_, sent, rfl⟩

theorem answer_taken_by {message : Message} (write : Nat → WriteResult)
    (present : state.handlers[pointer]? = some handler) (takes : handler.Takes)
    (answers : Request.answeredBy message.content = some request) :
    ∃ after, (handleMessageFromHeadunit write pointer message).run state = ⟨.ok true, after, []⟩ ∧
      ∃ later, after.handlers[pointer]? = some later ∧ request.flag later = true := by
  cases kind : handler.kind with
  | default => exact absurd kind takes.1
  | input input =>
      obtain ⟨after, ran, later, -, found, -, flags⟩ := answer_taken write present kind answers
      exact ⟨after, ran, later, found, by simp [flags]⟩
  | video video =>
      have opened := takes.2 video kind
      have called : (handleMessageFromHeadunit write pointer message).run state =
          (VideoChannelHandler.handleMessageFromHeadunit write pointer handler video message).run
            state := by
        simp [handleMessageFromHeadunit, readHandler_run present, kind]
      rw [called]
      rcases content : message.content with _ | ⟨high, _ | ⟨low, rest⟩⟩
      · rw [content] at answers
        cases answers
      · rw [content] at answers
        cases answers
      simp only [Request.answeredBy, content, typeOf, Option.some.injEq] at answers
      split at answers
      next openAnswer =>
        cases answers
        refine ⟨state.updateHandler pointer fun handler =>
            { handler with gotChannelOpenResponse := true }, ?_, _,
          updateHandler_present present _, rfl⟩
        simp [VideoChannelHandler.handleMessageFromHeadunit, opened, content,
          ChannelHandler.handleMessageFromHeadunit, messageType_run, openAnswer, writeHandler]
      next other =>
        split at answers
        next setupAnswer =>
          cases answers
          have different : InputChannelMessageType.HandshakeResponse.code ≠
              MessageType.ChannelOpenResponse.code := by decide
          refine ⟨state.updateHandler pointer (.setAnswered true), ?_, _,
            updateHandler_present present _, ?_⟩
          · simp [VideoChannelHandler.handleMessageFromHeadunit, opened, content,
              ChannelHandler.handleMessageFromHeadunit, messageType_run, setupAnswer, different,
              setupResponse_code, writeHandler]
          · rw [setAnswered_video kind]
            rfl
        next => cases answers

/-- After an answer its flag is set. -/
theorem answer_sets_flag {message : Message} {accept : Accept} {write : Nat → WriteResult}
    (present : state.handlers[pointer]? = some handler) (takes : handler.Takes)
    (answers : state.Answers pointer request message)
    (took : (machine protobuf).step state (.headunit message accept write) =
      some (next, outputs)) :
    ∃ later, next.handlers[pointer]? = some later ∧ request.flag later = true := by
  obtain ⟨⟨ordinary, installed⟩, answered⟩ := answers
  obtain ⟨after, ran, later, found, set⟩ := answer_taken_by write present takes answered
  refine ⟨later, ?_, set⟩
  rcases content : message.content with _ | ⟨high, _ | ⟨low, rest⟩⟩
  · rw [content] at answered
    cases answered
  · rw [content] at answered
    cases answered
  simp only [machine, step] at took
  split at took
  · cases took
  · rw [finishPump_handlers took, handleMessageContent_ordinary protobuf accept write state content
      ordinary, handleChannelMessage_run write content ordinary installed, ran]
    exact found

/-- The answer that a thread waits for after a turn has been asked for in this turn, or is
about to be; or the turn has not brought it, and nothing has happened to the threads that
ask. -/
theorem step_waits (serializes : ∀ buttons, protobuf.inputChannelHandshakeRequest buttons ≠ none)
    (wired : state.Wired) (inside : state.Inside)
    (present : state.handlers[pointer]? = some handler)
    (isType : handler.kind.channelType = some type)
    (took : (machine protobuf).step state event = some (next, outputs))
    (waits : next.HasThreadAt pointer request.waitStep) (unset : next.Unset pointer request) :
    next.HasThreadAt pointer request.sendStep ∨
      (∃ msg ∈ queued outputs, msg.channel = handler.channelId ∧
        typeOf msg.content = some (request.codeFor type)) ∨
      (state.HasThreadAt pointer request.waitStep ∧ state.Unset pointer request ∧
        (state.HasThreadAt pointer request.sendStep → next.HasThreadAt pointer request.sendStep) ∧
        ∀ message accept write, event = .headunit message accept write →
          ¬ state.Answers pointer request message) := by
  have notSet {later : ChannelHandler} (found : next.handlers[pointer]? = some later)
      (set : request.flag later = true) : False := by
    rw [unset later found] at set
    cases set
  by_cases resets : state.openingAt event = some (pointer, request.resetStep)
  · refine .inl ⟨event, ?_⟩
    rw [opening_goes_on serializes resets took]
    cases request <;> rfl
  by_cases sends : state.openingAt event = some (pointer, request.sendStep)
  · exact .inr (.inl (opening_sends serializes wired present isType sends took))
  have stays {opener : Event} {step : OpenStep} (other : event ≠ opener)
      (here : state.openingAt opener = some (pointer, step)) :
      next.openingAt opener = some (pointer, step) := by
    rcases opening_begins wired other took with same | ⟨idle, -⟩
    · exact same.trans here
    · rw [here] at idle
      cases idle
  have waited : state.HasThreadAt pointer request.waitStep := by
    obtain ⟨opener, here⟩ := waits
    refine ⟨opener, ?_⟩
    by_cases own : event = opener
    · subst own
      obtain ⟨target, step, before⟩ := opening_before here took
      rw [opening_goes_on serializes before took] at here
      obtain ⟨rfl, rfl⟩ : target = pointer ∧ step = request.sendStep := by
        cases step <;> cases request <;>
          simp_all [OpenStep.next, Request.waitStep, Request.sendStep]
      exact absurd before sends
    · rcases opening_begins wired own took with same | ⟨-, begun, other, -, -, begins⟩
      · exact same.symm.trans here
      · rw [begins] at here
        cases request <;> cases here
  obtain ⟨same, there, takes⟩ := inside pointer _ waited
  rw [present] at there
  cases there
  refine .inr (.inr ⟨waited, ?_, ?_, ?_⟩)
  · intro same there
    rw [present] at there
    cases there
    cases set : request.flag handler with
    | false => rfl
    | true =>
        obtain ⟨later, found, still⟩ := step_flag present set resets took
        exact (notSet found still).elim
  · rintro ⟨opener, here⟩
    exact ⟨opener, stays (fun own => sends (own ▸ here)) here⟩
  · rintro message accept write rfl answers
    obtain ⟨later, found, set⟩ := answer_sets_flag present takes answers took
    exact notSet found set

end Waits

end AAServer

end AACS
