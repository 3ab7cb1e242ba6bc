import AACS.Library.Exchange
import AACS.Server.Flags
import AACS.Server.InputOpening

/-!
No wake-up is lost while threads open an input channel.

Seen from one of its two flags, what happens in the handler is an exchange of requests and
answers, and the threads that are busy with the other flag are elsewhere.
-/

namespace AACS

namespace AAServer

open Effects Transitions

/-- Where the thread is with respect to the flag for the answer to this request. -/
def Position.place (request : Request) : Position → Exchange.Place
  | .outside => .elsewhere
  | .statement step =>
      if step = request.sendStep then .sending
      else if step = request.waitStep then .testing
      else .elsewhere
  | .asleep other => if other = request then .asleep else .elsewhere

namespace InputOpening

def flag (pointer : Nat) (current : InputOpening) (request : Request) : Bool :=
  (current.server.handlers[pointer]?).any request.flag

def exchange (pointer : Nat) (request : Request) (current : InputOpening) :
    Exchange.State Nat where
  flag := current.flag pointer request
  unanswered := current.unanswered request
  notifying := current.notifies request
  place thread := (current.position thread).place request

def HasInput (pointer : Nat) (current : InputOpening) : Prop :=
  ∃ handler input, current.server.handlers[pointer]? = some handler ∧ handler.kind = .input input

/-- The thread gets on when it and the pump do what they are about to do. -/
def GoesOn (protobuf : Protobuf) (pointer : Nat) (current : InputOpening) (thread : Nat)
    (request : Request) : Prop :=
  ∃ events later trace, (∀ event ∈ events, event = .notify request ∨ event = .step thread) ∧
    (inputOpening protobuf pointer).run current events = some (later, trace) ∧
    ¬ (later.position thread).Waits request

def Refines (pointer : Nat) (request : Request) (current after : InputOpening) : Prop :=
  after.exchange pointer request = current.exchange pointer request ∨
    Exchange.Step (current.exchange pointer request) (after.exchange pointer request)

end InputOpening

section Positions

variable {request : Request}

theorem waits_iff (position : Position) :
    (position.place request).Waits ↔ position.Waits request := by
  cases position with
  | outside => simp [Position.place, Position.Waits, Exchange.Place.Waits]
  | statement step =>
      cases step <;> cases request <;>
        simp [Position.place, Position.Waits, Exchange.Place.Waits, Request.sendStep,
          Request.waitStep]
  | asleep other =>
      cases other <;> cases request <;>
        simp [Position.place, Position.Waits, Exchange.Place.Waits]

theorem place_sending_iff (position : Position) :
    position.place request = .sending ↔ position = .statement request.sendStep := by
  cases position with
  | outside => simp [Position.place]
  | statement step =>
      cases step <;> cases request <;> simp [Position.place, Request.sendStep, Request.waitStep]
  | asleep other => cases other <;> cases request <;> simp [Position.place]

theorem place_asleep_iff (position : Position) :
    position.place request = .asleep ↔ position = .asleep request := by
  cases position with
  | outside => simp [Position.place]
  | statement step =>
      cases step <;> cases request <;> simp [Position.place, Request.sendStep, Request.waitStep]
  | asleep other => cases other <;> cases request <;> simp [Position.place]

theorem place_next (step : OpenStep) :
    (step.next.elim Position.outside .statement).place request =
      if step = request.resetStep then .sending
      else if step = request.sendStep then .testing
      else .elsewhere := by
  cases step <;> cases request <;> rfl

theorem place_waitStep (other : Request) :
    (Position.statement other.waitStep).place request =
      if other = request then .testing else .elsewhere := by
  cases other <;> cases request <;> rfl

theorem place_update (positions : Nat → Position) (thread : Nat) (position : Position) :
    (fun other => (Function.update positions thread position other).place request) =
      Function.update (fun other => (positions other).place request) thread
        (position.place request) :=
  Function.comp_update (Position.place request) positions thread position

end Positions

section Bodies

variable {protobuf : Protobuf} {server : State} {pointer : Nat} {handler : ChannelHandler}
  {input : InputChannelHandler}

structure OpenStep.Done (pointer : Nat) (handler : ChannelHandler) (step : OpenStep)
    (outcome : Outcome State Output Fault Position) : Prop where
  result : outcome.result = .ok (step.next.elim .outside .statement)
  sent : ∀ request : Request,
    request.sent outcome.log = if step = request.sendStep then 1 else 0
  handler : ∃ later input, outcome.state.handlers[pointer]? = some later ∧
    later.kind = .input input ∧ ∀ request : Request,
      request.flag later = if step = request.resetStep then false else request.flag handler

theorem stepBody_done (present : server.handlers[pointer]? = some handler)
    (kind : handler.kind = .input input) (step : OpenStep)
    (serializes : step = .sendRequest →
      protobuf.inputChannelHandshakeRequest input.available_buttons ≠ none) :
    step.Done pointer handler ((InputOpening.stepBody protobuf pointer step).run server) := by
  cases step with
  | resetChannelOpen =>
      refine ⟨rfl, fun request => by cases request <;> rfl, _, input,
        updateHandler_present present _, kind, fun request => ?_⟩
      cases request with
      | channelOpen => rfl
      | handshake => rfl
  | sendChannelOpen =>
      have ran : (InputOpening.stepBody protobuf pointer .sendChannelOpen).run server =
          ⟨.ok (.statement .awaitChannelOpen), server, [.enqueue handler.channelId
            (FrameType.Bulk.mask ||| EncryptionType.Encrypted.mask |||
              MessageTypeFlags.Specific.mask)
            (pushBackInt16 [] MessageType.ChannelOpenRequest.code ++
              protobuf.channelOpenRequest handler.channelId.toNat 0)]⟩ := by
        simp [InputOpening.stepBody, OpenStep.run, readHandler_run present,
          ChannelHandler.sendChannelOpenRequest, sendToHeadunit]
      rw [ran]
      refine ⟨rfl, fun request => by cases request <;> rfl, handler, input, present, kind,
        fun request => ?_⟩
      cases request <;> rfl
  | awaitChannelOpen =>
      refine ⟨rfl, fun request => by cases request <;> rfl, handler, input, present, kind,
        fun request => ?_⟩
      cases request <;> rfl
  | resetAnswer =>
      refine ⟨rfl, fun request => by cases request <;> rfl, _,
        { input with gotHandshakeResponse := false }, updateHandler_present present _, ?_,
        fun request => ?_⟩
      · rw [ChannelHandler.setAnswered, kind]
      · cases request with
        | channelOpen =>
            rw [ChannelHandler.setAnswered, kind]
            rfl
        | handshake =>
            rw [ChannelHandler.setAnswered, kind]
            rfl
  | sendRequest =>
      obtain ⟨buffer, serialized⟩ := Option.ne_none_iff_exists'.mp (serializes rfl)
      have ran : (InputOpening.stepBody protobuf pointer .sendRequest).run server =
          ⟨.ok (.statement .awaitAnswer), server, [.enqueue handler.channelId
            (FrameType.Bulk.mask ||| EncryptionType.Encrypted.mask)
            (pushBackInt16 [] InputChannelMessageType.HandshakeRequest.code ++ buffer)]⟩ := by
        simp [InputOpening.stepBody, OpenStep.run, readHandler_run present,
          ChannelHandler.sendRequest, kind, InputChannelHandler.sendHandshakeRequest, serialized,
          sendToHeadunit]
      rw [ran]
      refine ⟨rfl, fun request => by cases request <;> rfl, handler, input, present, kind,
        fun request => ?_⟩
      cases request <;> rfl
  | awaitAnswer =>
      refine ⟨rfl, fun request => by cases request <;> rfl, handler, input, present, kind,
        fun request => ?_⟩
      cases request <;> rfl

theorem callBody_run (present : server.handlers[pointer]? = some handler)
    (kind : handler.kind = .input input) (clientId : Int) (channelId : UInt8) (specific : Bool)
    (data : Bytes) :
    (InputOpening.callBody pointer clientId channelId specific data).run server =
      ⟨.ok (.statement .resetChannelOpen),
        server.updateHandler pointer (.updateInput (.registerClient clientId)), []⟩ := by
  simp [InputOpening.callBody, handleMessageFromClient, readHandler_run present, kind, writeHandler]

theorem flag_updateInput (kind : handler.kind = .input input)
    {update : InputChannelHandler → InputChannelHandler}
    (same : (update input).gotHandshakeResponse = input.gotHandshakeResponse) (request : Request) :
    request.flag (handler.updateInput update) = request.flag handler := by
  obtain ⟨channelId, opened, other⟩ := handler
  cases kind
  cases request with
  | channelOpen => rfl
  | handshake => exact same

theorem readInput_run (write : Nat → WriteResult) (message : Message)
    (present : server.handlers[pointer]? = some handler) (kind : handler.kind = .input input) :
    (handleMessageFromHeadunit write pointer message).run server =
      (InputChannelHandler.handleMessageFromHeadunit write pointer handler input message).run
        server := by
  simp [handleMessageFromHeadunit, readHandler_run present, kind]

theorem answer_taken {message : Message} {request : Request} (write : Nat → WriteResult)
    (present : server.handlers[pointer]? = some handler) (kind : handler.kind = .input input)
    (answers : Request.answeredBy message.content = some request) :
    ∃ after, (handleMessageFromHeadunit write pointer message).run server = ⟨.ok true, after, []⟩ ∧
      ∃ later input, after.handlers[pointer]? = some later ∧ later.kind = .input input ∧
        ∀ other : Request, other.flag later = (decide (other = request) || other.flag handler) := by
  rw [readInput_run write message present kind]
  rcases content : message.content with _ | ⟨high, _ | ⟨low, rest⟩⟩
  · rw [content] at answers
    cases answers
  · rw [content] at answers
    cases answers
  simp only [Request.answeredBy, content, typeOf, Option.some.injEq] at answers
  split at answers
  next opened =>
    cases answers
    refine ⟨server.updateHandler pointer fun handler =>
        { handler with gotChannelOpenResponse := true }, ?_, _, input,
      updateHandler_present present _, kind, fun other => ?_⟩
    · simp [InputChannelHandler.handleMessageFromHeadunit, content,
        ChannelHandler.handleMessageFromHeadunit, messageType_run, opened, writeHandler]
    · cases other with
      | channelOpen => rfl
      | handshake => rfl
  next notOpened =>
    split at answers
    next answered =>
      cases answers
      have different : InputChannelMessageType.HandshakeResponse.code ≠
          MessageType.ChannelOpenResponse.code := by decide
      refine ⟨server.updateHandler pointer (.setAnswered true), ?_, _,
        { input with gotHandshakeResponse := true }, updateHandler_present present _, ?_,
        fun other => ?_⟩
      · simp [InputChannelHandler.handleMessageFromHeadunit, content,
          ChannelHandler.handleMessageFromHeadunit, messageType_run, answered, different,
          writeHandler]
      · rw [ChannelHandler.setAnswered, kind]
      · cases other with
        | channelOpen =>
            rw [ChannelHandler.setAnswered, kind]
            rfl
        | handshake =>
            rw [ChannelHandler.setAnswered, kind]
            rfl
    next => cases answers

theorem message_passed {message : Message} (write : Nat → WriteResult)
    (present : server.handlers[pointer]? = some handler) (kind : handler.kind = .input input)
    (other : Request.answeredBy message.content = none) :
    ∃ later input, ((handleMessageFromHeadunit write pointer message).run
        server).state.handlers[pointer]? = some later ∧ later.kind = .input input ∧
      ∀ request : Request, request.flag later = request.flag handler := by
  have notOpened : typeOf message.content ≠ some MessageType.ChannelOpenResponse.code := by
    intro opened
    rw [Request.answeredBy, if_pos opened] at other
    cases other
  have notAnswered :
      typeOf message.content ≠ some InputChannelMessageType.HandshakeResponse.code := by
    intro answered
    rw [Request.answeredBy, if_neg notOpened, if_pos answered] at other
    cases other
  have framed : (handleMessageFromHeadunit write pointer message).Preserves
      (State.Holds pointer fun later => (∃ input, later.kind = .input input) ∧
        ∀ request : Request, request.flag later = request.flag handler) :=
    handleMessageFromHeadunit_holds write (fun _ opened => absurd opened notOpened)
      fun _ answered => absurd answered notAnswered
  obtain ⟨later, found, ⟨input, isInput⟩, flags⟩ :=
    (framed server).handler handler present ⟨⟨input, kind⟩, fun _ => rfl⟩
  exact ⟨later, input, found, isInput, flags⟩

end Bodies

section Steps

variable {protobuf : Protobuf} {pointer : Nat} {current after : InputOpening}
  {event : InputEvent} {outputs : List Output} {request : Request}

theorem flag_eq {handler : ChannelHandler}
    (present : current.server.handlers[pointer]? = some handler) (request : Request) :
    current.flag pointer request = request.flag handler := by
  rw [InputOpening.flag, present]
  rfl

theorem statement_refines
    (serializes : ∀ buttons, protobuf.inputChannelHandshakeRequest buttons ≠ none)
    {thread : Nat} {step : OpenStep} {handler : ChannelHandler} {input : InputChannelHandler}
    (there : current.position thread = .statement step)
    (present : current.server.handlers[pointer]? = some handler)
    (kind : handler.kind = .input input) (enabled : step.enabled handler = true)
    (took : current.finish thread (InputOpening.stepBody protobuf pointer step) =
      some (after, outputs)) :
    after.HasInput pointer ∧ current.Refines pointer request after := by
  have effect := stepBody_done present kind step fun _ => serializes _
  obtain ⟨later, input', found, isInput, flags⟩ := effect.handler
  simp only [InputOpening.finish, effect.result, Option.some.injEq, Prod.mk.injEq] at took
  obtain ⟨rfl, -⟩ := took
  refine ⟨⟨later, input', found, isInput⟩, ?_⟩
  have before : (current.exchange pointer request).place thread =
      (Position.statement step).place request := congrArg (Position.place request) there
  have exchanged : InputOpening.exchange pointer request { current with
        server := ((InputOpening.stepBody protobuf pointer step).run current.server).state
        position := Function.update current.position thread (step.next.elim .outside .statement)
        unanswered := fun request => current.unanswered request +
          request.sent ((InputOpening.stepBody protobuf pointer step).run current.server).log } =
      { current.exchange pointer request with
        flag := if step = request.resetStep then false else current.flag pointer request
        unanswered := current.unanswered request + if step = request.sendStep then 1 else 0
        place := Function.update (current.exchange pointer request).place thread
          (if step = request.resetStep then .sending
            else if step = request.sendStep then .testing
            else .elsewhere) } := by
    simp only [InputOpening.exchange, InputOpening.flag, found, present, Option.any_some, flags,
      effect.sent, place_update, place_next]
  rw [InputOpening.Refines, exchanged]
  by_cases resets : step = request.resetStep
  · have sends : step ≠ request.sendStep := by rw [resets]; cases request <;> decide
    rw [if_pos resets, if_pos resets, if_neg sends]
    refine .inr (.reset thread ?_)
    rw [before, resets]
    cases request <;> rfl
  rw [if_neg resets, if_neg resets]
  by_cases sends : step = request.sendStep
  · rw [if_pos sends, if_pos sends]
    refine .inr (.send thread ?_)
    rw [before, Position.place, if_pos sends]
  rw [if_neg sends, if_neg sends]
  by_cases waits : step = request.waitStep
  · refine .inr (.pass thread ?_ ?_)
    · rw [before, Position.place, if_neg sends, if_pos waits]
    · change current.flag pointer request = true
      rw [flag_eq present, ← enabled, waits]
      cases request <;> rfl
  · apply Or.inl
    have elsewhere : (current.exchange pointer request).place thread = .elsewhere := by
      rw [before, Position.place, if_neg sends, if_neg waits]
    rw [← elsewhere, Function.update_eq_self]
    rfl

theorem exchange_move (thread : Nat) (position : Position) :
    (current.move thread position).exchange pointer request =
      (current.exchange pointer request).move thread (position.place request) := by
  simp only [InputOpening.exchange, InputOpening.move, Exchange.State.move, place_update]
  rfl

theorem move_unseen {thread : Nat} {position : Position}
    (same : position.place request = (current.position thread).place request) :
    (current.move thread position).exchange pointer request = current.exchange pointer request := by
  rw [exchange_move, Exchange.State.move, same]
  exact congrArg (fun place => { current.exchange pointer request with place })
    (Function.update_eq_self thread (current.exchange pointer request).place)

theorem sleep_refines {thread : Nat} {step : OpenStep} {handler : ChannelHandler}
    {awaited : Request} (there : current.position thread = .statement step)
    (present : current.server.handlers[pointer]? = some handler)
    (waits : step.awaited = some awaited) (unset : ¬ step.enabled handler = true) :
    current.Refines pointer request (current.move thread (.asleep awaited)) := by
  have isWait : step = awaited.waitStep := by
    cases step <;> cases waits <;> rfl
  subst isWait
  by_cases same : awaited = request
  · subst same
    apply Or.inr
    rw [exchange_move, Position.place, if_pos rfl]
    refine .sleep thread ?_ ?_
    · change (current.position thread).place awaited = _
      rw [there, place_waitStep, if_pos rfl]
    · change current.flag pointer awaited = false
      rw [flag_eq present, ← Bool.not_eq_true]
      intro set
      refine unset (Eq.trans ?_ set)
      cases awaited <;> rfl
  · refine .inl (move_unseen ?_)
    rw [there, place_waitStep, if_neg same, Position.place, if_neg same]

theorem wake_refines {thread : Nat} {awaited : Request}
    (there : current.position thread = .asleep awaited) :
    current.Refines pointer request (current.move thread (.statement awaited.waitStep)) := by
  by_cases same : awaited = request
  · subst same
    apply Or.inr
    rw [exchange_move, place_waitStep, if_pos rfl]
    refine .wake thread ?_
    change (current.position thread).place awaited = _
    rw [there, Position.place, if_pos rfl]
  · refine .inl (move_unseen ?_)
    rw [place_waitStep, if_neg same, there, Position.place, if_neg same]

theorem notify_place (awaited : Request) (thread : Nat) :
    ((current.notify awaited).position thread).place request =
      if awaited = request then ((current.position thread).place request).woken
      else (current.position thread).place request := by
  simp only [InputOpening.notify]
  by_cases asleep : current.position thread = .asleep awaited
  · rw [if_pos asleep, place_waitStep, asleep, Position.place]
    split <;> rfl
  · rw [if_neg asleep]
    split
    next same =>
      subst same
      have awake : (current.position thread).place awaited ≠ .asleep :=
        fun sleeping => asleep ((place_asleep_iff _).mp sleeping)
      cases place : (current.position thread).place awaited with
      | asleep => exact absurd place awake
      | elsewhere | sending | testing => rfl
    next => rfl

theorem notify_refines (awaited : Request) :
    current.Refines pointer request (current.notify awaited) := by
  by_cases same : awaited = request
  · subst same
    have woken : (current.notify awaited).exchange pointer awaited =
        { current.exchange pointer awaited with
          notifying := false
          place := fun thread => ((current.exchange pointer awaited).place thread).woken } := by
      simp only [InputOpening.exchange, notify_place, if_true]
      simp only [InputOpening.notify, Function.update_self]
      rfl
    rw [InputOpening.Refines, woken]
    exact .inr .notify
  · apply Or.inl
    simp only [InputOpening.exchange, notify_place, if_neg same]
    simp only [InputOpening.notify, Function.update_of_ne (Ne.symm same)]
    rfl

theorem call_refines {thread : Nat} {handler : ChannelHandler} {input : InputChannelHandler}
    (outside : current.position thread = .outside)
    (present : current.server.handlers[pointer]? = some handler)
    (kind : handler.kind = .input input)
    {clientId : Int} {channelId : UInt8} {specific : Bool} {data : Bytes}
    (took : current.finish thread (InputOpening.callBody pointer clientId channelId specific data) =
      some (after, outputs)) :
    after.HasInput pointer ∧ current.Refines pointer request after := by
  have ran := callBody_run present kind clientId channelId specific data
  simp only [InputOpening.finish, ran, Option.some.injEq, Prod.mk.injEq] at took
  obtain ⟨rfl, -⟩ := took
  have found := updateHandler_present present (.updateInput (.registerClient clientId))
  have flags := @flag_updateInput _ _ kind (.registerClient clientId) rfl request
  refine ⟨⟨_, _, found, kind_updateInput kind _⟩, .inl ?_⟩
  have elsewhere : (Position.statement .resetChannelOpen).place request =
      (current.position thread).place request := by
    rw [outside]
    cases request <;> rfl
  rw [← move_unseen elsewhere]
  simp only [InputOpening.exchange, InputOpening.move, InputOpening.flag, found, present,
    Option.any_some, flags]
  rfl

theorem taken_answer {server : State} {later : ChannelHandler}
    (found : server.handlers[pointer]? = some later) (set : request.flag later = true) :
    (current.taken (some request) server true).exchange pointer request =
      { current.exchange pointer request with
        flag := true
        unanswered := current.unanswered request - 1
        notifying := true } := by
  have flagged : (current.taken (some request) server true).flag pointer request = true :=
    (flag_eq found request).trans set
  simp only [InputOpening.exchange, flagged]
  cases request <;> rfl

theorem taken_other {server : State} {handler later : ChannelHandler} {answered : Option Request}
    {running : Bool} (present : current.server.handlers[pointer]? = some handler)
    (found : server.handlers[pointer]? = some later)
    (same : request.flag later = request.flag handler) (other : answered ≠ some request)
    (quiet : current.notifies .handshake = false) :
    current.Refines pointer request (current.taken answered server running) := by
  have flagged : (current.taken answered server running).flag pointer request =
      current.flag pointer request :=
    (flag_eq found request).trans (same.trans (flag_eq present request).symm)
  have exchanged : (current.taken answered server running).exchange pointer request =
      { current.exchange pointer request with
        notifying := (current.taken answered server running).notifies request } := by
    simp only [InputOpening.exchange, flagged]
    simp only [InputOpening.taken, if_neg other]
  rw [InputOpening.Refines, exchanged]
  cases notified : (current.taken answered server running).notifies request with
  | true => exact .inr .alert
  | false =>
      cases request with
      | channelOpen => cases notified
      | handshake =>
          rw [← quiet]
          exact .inl rfl

/-- What the handler makes of a message: it sets the flag for the request that the message
answers, if it answers one, and then without a fault. -/
theorem take_cases {handler : ChannelHandler} {input : InputChannelHandler} {message : Message}
    {write : Nat → WriteResult} (present : current.server.handlers[pointer]? = some handler)
    (kind : handler.kind = .input input)
    (took : current.take pointer message write = some (after, outputs)) :
    ∃ server running later input,
      after = current.taken (Request.answeredBy message.content) server running ∧
      server.handlers[pointer]? = some later ∧ later.kind = .input input ∧
      (∀ request : Request, request.flag later =
        (decide (Request.answeredBy message.content = some request) || request.flag handler)) ∧
      (Request.answeredBy message.content ≠ none → running = true) := by
  cases answers : Request.answeredBy message.content with
  | some answered =>
      obtain ⟨server, ran, later, input', found, isInput, flags⟩ :=
        answer_taken write present kind answers
      simp only [InputOpening.take, ran, answers, Option.some.injEq, Prod.mk.injEq] at took
      obtain ⟨rfl, -⟩ := took
      refine ⟨server, true, later, input', rfl, found, isInput, fun request => ?_, fun _ => rfl⟩
      simp only [flags, Option.some.injEq, eq_comm]
  | none =>
      obtain ⟨later, input', found, isInput, flags⟩ := message_passed write present kind answers
      simp only [InputOpening.take, answers] at took
      have same : ∀ request : Request, request.flag later =
          (decide (none = some request) || request.flag handler) := flags
      split at took
      next =>
        cases took
        exact ⟨_, true, later, input', rfl, found, isInput, same, fun _ => rfl⟩
      next =>
        cases took
        exact ⟨_, false, later, input', rfl, found, isInput, same, fun other => absurd rfl other⟩
      next => cases took

theorem take_refines {handler : ChannelHandler} {input : InputChannelHandler} {message : Message}
    {write : Nat → WriteResult}
    (present : current.server.handlers[pointer]? = some handler)
    (kind : handler.kind = .input input)
    (idle : current.idle = true) (expects : current.expects message = true)
    (took : current.take pointer message write = some (after, outputs)) :
    after.HasInput pointer ∧ current.Refines pointer request after := by
  have quiet : current.notifies .handshake = false := by
    simp only [InputOpening.idle, Bool.and_eq_true, Bool.not_eq_true'] at idle
    exact idle.2
  obtain ⟨server, running, later, input', rfl, found, isInput, flags, runs⟩ :=
    take_cases present kind took
  refine ⟨⟨later, input', found, isInput⟩, ?_⟩
  by_cases answers : Request.answeredBy message.content = some request
  · have asked : 0 < current.unanswered request := by
      simpa [InputOpening.expects, answers] using expects
    have set : request.flag later = true := by
      rw [flags, decide_eq_true answers, Bool.true_or]
    rw [answers, runs (by simp [answers]), InputOpening.Refines, taken_answer found set]
    exact .inr (.answer asked)
  · refine taken_other present found ?_ answers quiet
    rw [flags, decide_eq_false answers, Bool.false_or]

inductive InputOpening.Turn (protobuf : Protobuf) (pointer : Nat) (current : InputOpening)
    (handler : ChannelHandler) : InputEvent → InputOpening → List Output → Prop
  | calls {thread : Nat} {clientId : Int} {channelId : UInt8} {specific : Bool} {data : Bytes}
      {after : InputOpening} {outputs : List Output}
      (outside : current.position thread = .outside)
      (took : current.finish thread (callBody pointer clientId channelId specific data) =
        some (after, outputs)) :
      Turn protobuf pointer current handler (.call thread clientId channelId specific data) after
        outputs
  | executes {thread : Nat} {step : OpenStep} {after : InputOpening} {outputs : List Output}
      (there : current.position thread = .statement step) (enabled : step.enabled handler = true)
      (took : current.finish thread (stepBody protobuf pointer step) = some (after, outputs)) :
      Turn protobuf pointer current handler (.step thread) after outputs
  | sleeps {thread : Nat} {step : OpenStep} {awaited : Request}
      (there : current.position thread = .statement step) (waits : step.awaited = some awaited)
      (unset : ¬ step.enabled handler = true) :
      Turn protobuf pointer current handler (.step thread)
        (current.move thread (.asleep awaited)) []
  | wakes {thread : Nat} {awaited : Request} (there : current.position thread = .asleep awaited) :
      Turn protobuf pointer current handler (.wake thread)
        (current.move thread (.statement awaited.waitStep)) []
  | takes {message : Message} {write : Nat → WriteResult} {after : InputOpening}
      {outputs : List Output} (idle : current.idle = true)
      (expects : current.expects message = true)
      (took : current.take pointer message write = some (after, outputs)) :
      Turn protobuf pointer current handler (.headunit message write) after outputs
  | notifies (awaited : Request) :
      Turn protobuf pointer current handler (.notify awaited) (current.notify awaited) []

theorem step_turn {handler : ChannelHandler}
    (present : current.server.handlers[pointer]? = some handler)
    (took : (inputOpening protobuf pointer).step current event = some (after, outputs)) :
    current.Turn protobuf pointer handler event after outputs := by
  simp only [inputOpening, InputOpening.step] at took
  cases event with
  | call thread clientId channelId specific data =>
      dsimp only at took
      split at took
      next outside => exact .calls outside took
      next => cases took
  | step thread =>
      dsimp only at took
      split at took
      next step there =>
        rw [present] at took
        dsimp only at took
        split at took
        next enabled => exact .executes there enabled took
        next unset =>
          split at took
          next => cases took
          next awaited waits =>
            cases took
            exact .sleeps there waits unset
      next => cases took
      next => cases took
  | wake thread =>
      dsimp only at took
      split at took
      next awaited there =>
        cases took
        exact .wakes there
      next => cases took
      next => cases took
  | headunit message write =>
      dsimp only at took
      split at took
      next ready => exact .takes ready.1 ready.2 took
      next => cases took
  | notify awaited =>
      dsimp only at took
      split at took
      next =>
        cases took
        exact .notifies awaited
      next => cases took

theorem step_refines
    (serializes : ∀ buttons, protobuf.inputChannelHandshakeRequest buttons ≠ none)
    (isInput : current.HasInput pointer)
    (took : (inputOpening protobuf pointer).step current event = some (after, outputs)) :
    after.HasInput pointer ∧ current.Refines pointer request after := by
  obtain ⟨handler, input, present, kind⟩ := isInput
  cases step_turn present took with
  | calls outside took => exact call_refines outside present kind took
  | executes there enabled took =>
      exact statement_refines serializes there present kind enabled took
  | sleeps there waits unset =>
      exact ⟨⟨handler, input, present, kind⟩, sleep_refines there present waits unset⟩
  | wakes there => exact ⟨⟨handler, input, present, kind⟩, wake_refines there⟩
  | takes idle expects took => exact take_refines present kind idle expects took
  | notifies awaited => exact ⟨⟨handler, input, present, kind⟩, notify_refines awaited⟩

theorem statement_goesOn {thread : Nat} {handler : ChannelHandler}
    (present : current.server.handlers[pointer]? = some handler)
    (there : current.position thread = .statement request.waitStep)
    (set : request.flag handler = true) :
    ∃ after, (inputOpening protobuf pointer).step current (.step thread) = some (after, []) ∧
      ¬ (after.position thread).Waits request := by
  cases request with
  | channelOpen =>
      have enabled : OpenStep.awaitChannelOpen.enabled handler = true := set
      refine ⟨{ current with
        position := Function.update current.position thread (.statement .resetAnswer)
        unanswered := fun request => current.unanswered request + request.sent [] }, ?_, ?_⟩
      · simp only [inputOpening, InputOpening.step, there, present, Request.waitStep, enabled,
          if_true]
        rfl
      · simp [Position.Waits, Request.waitStep]
  | handshake =>
      have enabled : OpenStep.awaitAnswer.enabled handler = true := set
      refine ⟨{ current with
        position := Function.update current.position thread .outside
        unanswered := fun request => current.unanswered request + request.sent [] }, ?_, ?_⟩
      · simp only [inputOpening, InputOpening.step, there, present, Request.waitStep, enabled,
          if_true]
        rfl
      · simp [Position.Waits]

/-- A thread that is not blocked goes on. -/
theorem not_blocked_goesOn (isInput : current.HasInput pointer) {thread : Nat}
    (waits : (current.position thread).Waits request)
    (free : ¬ (current.exchange pointer request).Blocked thread) :
    current.GoesOn protobuf pointer thread request := by
  obtain ⟨handler, input, present, kind⟩ := isInput
  have placed : ((current.exchange pointer request).place thread).Waits := (waits_iff _).mpr waits
  have set : request.flag handler = true := by
    rw [← flag_eq present, ← Bool.not_eq_false]
    exact fun unset => free ⟨placed, .inl unset⟩
  rcases waits with there | asleep
  · obtain ⟨after, took, done⟩ := @statement_goesOn protobuf _ _ _ _ _ present there set
    exact ⟨[.step thread], after, _, by simp,
      (Machine.run_cons_eq_some _).mpr ⟨after, [], [], took, rfl, rfl⟩, done⟩
  · have notified : current.notifies request = true := by
      rw [← Bool.not_eq_false]
      exact fun quiet => free ⟨placed, .inr ⟨(place_asleep_iff _).mpr asleep, quiet⟩⟩
    have woken : (current.notify request).position thread = .statement request.waitStep := by
      simp only [InputOpening.notify]
      rw [if_pos asleep]
    have notifies : (inputOpening protobuf pointer).step current (.notify request) =
        some (current.notify request, []) := if_pos notified
    obtain ⟨after, took, done⟩ :=
      @statement_goesOn protobuf _ (current.notify request) _ _ _ present woken set
    exact ⟨[.notify request, .step thread], after, _, by simp,
      (Machine.run_cons_eq_some _).mpr ⟨_, _, _, notifies,
        (Machine.run_cons_eq_some _).mpr ⟨after, [], [], took, rfl, rfl⟩, rfl⟩, done⟩

end Steps

section Runs

variable {protobuf : Protobuf} {pointer : Nat} {server : State} {handler : ChannelHandler}
  {input : InputChannelHandler} {events : List InputEvent} {final : InputOpening}
  {trace : List (InputEvent × List Output)}

/-- When a thread waits for an answer and the flag is unset, a request is under way or about to
be sent; when there is none, no thread stays where it waits. The handshake has no required
field and its buffer has the size of the message, so it can be serialized. -/
theorem no_lost_wakeup
    (serializes : ∀ buttons, protobuf.inputChannelHandshakeRequest buttons ≠ none)
    (present : server.handlers[pointer]? = some handler) (kind : handler.kind = .input input)
    (ran : (inputOpening protobuf pointer).run (.start server) events = some (final, trace))
    (request : Request) :
    (∀ thread, (final.position thread).Waits request → final.flag pointer request = false →
        0 < final.unanswered request ∨
          ∃ other, final.position other = .statement request.sendStep) ∧
      (final.unanswered request = 0 →
        (∀ other, final.position other ≠ .statement request.sendStep) →
        ∀ thread, (final.position thread).Waits request →
          final.GoesOn protobuf pointer thread request) := by
  obtain ⟨isInput, sound⟩ := @Exchange.run_sound Nat _ _ _ _ (inputOpening protobuf pointer)
    (InputOpening.HasInput pointer) (InputOpening.exchange pointer request)
    (fun isInput took => step_refines serializes isInput took) _ _ _ _
    ⟨handler, input, present, kind⟩ (Exchange.sound_of_elsewhere fun _ => rfl) ran
  refine ⟨fun thread waits unset => ?_, fun answered unsent thread waits => ?_⟩
  · refine (sound.answer thread ((waits_iff _).mpr waits) unset).imp id ?_
    exact Exists.imp fun other sending => (place_sending_iff _).mp sending
  · refine not_blocked_goesOn isInput waits (sound.not_blocked ?_ thread)
    rintro (asked | ⟨other, sending⟩)
    · exact absurd answered asked.ne'
    · exact unsent other ((place_sending_iff _).mp sending)

def inputServer : State :=
  { initial with handlers :=
      [{ channelId := 0, kind := .default },
        { channelId := 7, kind := .input { available_buttons := [] } }] }

/-- A thread sleeps, its answer comes, and a second thread resets the flag. -/
def resetAgain : List InputEvent :=
  [.call 1 0 7 false [], .step 1, .step 1, .step 1,
    .headunit ⟨7, 0x0b, [0x00, 0x08], 0⟩ fun _ => .complete, .call 2 1 7 false [], .step 2]

theorem no_lost_wakeup_reset_again :
    ∃ final trace, (inputOpening .small 1).run (.start inputServer) resetAgain =
        some (final, trace) ∧ (final.position 1).Waits .channelOpen ∧
      final.flag 1 .channelOpen = false ∧ (0 < final.unanswered .channelOpen ∨
        ∃ other, final.position other = .statement .sendChannelOpen) := by
  obtain ⟨final, trace, ran, asleep, unset⟩ : ∃ final trace,
      (inputOpening .small 1).run (.start inputServer) resetAgain = some (final, trace) ∧
        final.position 1 = .asleep .channelOpen ∧ final.flag 1 .channelOpen = false :=
    ⟨_, _, rfl, rfl, rfl⟩
  exact ⟨final, trace, ran, .inr asleep, unset,
    (no_lost_wakeup (fun _ => Option.some_ne_none _) rfl rfl ran .channelOpen).1 1 (.inr asleep)
      unset⟩

end Runs

end AAServer

end AACS
