import AACS.Library.Phases
import AACS.Server.Endings
import AACS.Server.Wakeup

/-!
Whose answers the threads that open an input channel wait for.

All threads share the flag for the answer to a request. Each resets it before it sends its
request, and an answer to the request of another thread that comes in between sets it again.
-/

namespace AACS

namespace AAServer

open Effects Transitions
open Phases (Note Own)

/-- The request that is answered before this one is sent. -/
def Request.before : Request → Option Request
  | .channelOpen => none
  | .handshake => some .channelOpen

def OpenStep.stage : OpenStep → Phases.Stage Request
  | .resetChannelOpen => .resetting .channelOpen
  | .sendChannelOpen => .sending .channelOpen
  | .awaitChannelOpen => .waiting .channelOpen
  | .resetAnswer => .resetting .handshake
  | .sendRequest => .sending .handshake
  | .awaitAnswer => .waiting .handshake

def OpenStep.noted (thread : Nat) : OpenStep → List (Note Nat Request)
  | .resetChannelOpen | .resetAnswer => []
  | .sendChannelOpen => [.sent thread .channelOpen]
  | .awaitChannelOpen => [.passed thread .channelOpen]
  | .sendRequest => [.sent thread .handshake]
  | .awaitAnswer => [.passed thread .handshake]

def Position.stage : Position → Phases.Stage Request
  | .outside => .outside
  | .statement step => step.stage
  | .asleep request => .waiting request

namespace InputOpening

def sentNotes (thread : Nat) (outputs : List Output) : List (Note Nat Request) :=
  [Request.channelOpen, .handshake].flatMap fun request =>
    List.replicate (request.sent outputs) (.sent thread request)

/-- What is written down about an event: a thread calls the handler, it sends a request, the
head unit answers one, and a thread gets past the statement where it waits for the answer,
which is the end of its call when it waits for that to the handshake. -/
def notes (pointer : Nat) (current : InputOpening) (event : InputEvent) (outputs : List Output) :
    List (Note Nat Request) :=
  match event with
  | .call thread _ _ _ _ => [.called thread]
  | .step thread =>
      match current.position thread with
      | .statement step =>
          match step.awaited with
          | some request => if current.flag pointer request then [.passed thread request] else []
          | none => sentNotes thread outputs
      | .outside | .asleep _ => []
  | .headunit message _ => ((Request.answeredBy message.content).map .answered).toList
  | .wake _ | .notify _ => []

def phases (pointer : Nat) (current : InputOpening) : Phases.State Nat Request where
  flag := current.flag pointer
  stage thread := (current.position thread).stage

/-- Whenever a call sends a request, the flag for the answer is unset. -/
def SendsUnset (pointer : Nat) (current : InputOpening) (event : InputEvent) : Prop :=
  ∀ thread request, event = .step thread →
    current.position thread = .statement request.sendStep → current.flag pointer request = false

def Alone (protobuf : Protobuf) (pointer : Nat) (current : InputOpening) (thread : Nat)
    (log : List (Note Nat Request)) : Prop :=
  ∃ more, (∀ event ∈ more, event = .step thread) ∧ ∃ last trace,
    (inputOpening protobuf pointer).run current more = some (last, trace) ∧
      (inputOpening protobuf pointer).observations (notes pointer) current more = log

/-- Every call sends its handshake request after an answer to its channel open request, and
returns after an answer to its handshake request. -/
structure EachItsOwn (log : List (Note Nat Request)) : Prop where
  sends : ∀ {earlier thread later}, log = earlier ++ .sent thread .handshake :: later →
    Own thread .channelOpen earlier
  returns : ∀ {earlier thread later}, log = earlier ++ .passed thread .handshake :: later →
    Own thread .handshake earlier

end InputOpening

section Steps

variable {protobuf : Protobuf} {pointer : Nat} {current after : InputOpening}
  {event : InputEvent} {outputs : List Output} {thread : Nat}

theorem OpenStep.cases_request (step : OpenStep) :
    ∃ request : Request,
      step = request.resetStep ∨ step = request.sendStep ∨ step = request.waitStep := by
  cases step with
  | resetChannelOpen | sendChannelOpen | awaitChannelOpen => exact ⟨.channelOpen, by decide⟩
  | resetAnswer | sendRequest | awaitAnswer => exact ⟨.handshake, by decide⟩

theorem stage_update (positions : Nat → Position) (position : Position) :
    (fun other => (Function.update positions thread position other).stage) =
      Function.update (fun other => (positions other).stage) thread position.stage :=
  Function.comp_update Position.stage positions thread position

theorem phases_move (position : Position) :
    (current.move thread position).phases pointer =
      (current.phases pointer).move thread position.stage :=
  congrArg (fun stage => { current.phases pointer with stage }) (stage_update _ position)

theorem phases_eq {server : State} {later : ChannelHandler} {flag : Request → Bool}
    (found : server.handlers[pointer]? = some later)
    (flags : ∀ request : Request, request.flag later = flag request)
    (position : Nat → Position) (unanswered : Request → Nat) (notifies : Request → Bool)
    (running : Bool) :
    InputOpening.phases pointer ⟨server, position, unanswered, notifies, running⟩ =
      ⟨flag, fun thread => (position thread).stage⟩ := by
  have flagged : InputOpening.flag pointer ⟨server, position, unanswered, notifies, running⟩ =
      flag := funext fun request => (flag_eq found request).trans (flags request)
  rw [InputOpening.phases, flagged]

theorem move_stays {position : Position}
    (same : position.stage = (current.position thread).stage) :
    (current.move thread position).phases pointer = current.phases pointer := by
  rw [phases_move, Phases.State.move, same]
  exact congrArg (fun stage => { current.phases pointer with stage })
    (Function.update_eq_self thread (current.phases pointer).stage)

theorem stepBody_unserialized {server : State} {handler : ChannelHandler}
    {input : InputChannelHandler} (present : server.handlers[pointer]? = some handler)
    (kind : handler.kind = .input input)
    (refused : protobuf.inputChannelHandshakeRequest input.available_buttons = none) :
    ∃ exception, (InputOpening.stepBody protobuf pointer .sendRequest).run server =
      ⟨.error (.thrown exception), server, []⟩ := by
  obtain ⟨exception, threw⟩ := openStep_unserialized present kind refused
  refine ⟨exception, ?_⟩
  rw [InputOpening.stepBody, Act.run_bind, threw]
  rfl

theorem notes_statement {step : OpenStep} (there : current.position thread = .statement step) :
    current.notes pointer (.step thread) outputs =
      match step.awaited with
      | some request => if current.flag pointer request then [.passed thread request] else []
      | none => InputOpening.sentNotes thread outputs := by
  simp only [InputOpening.notes, there]

theorem resetStep_stage (request : Request) :
    request.resetStep.stage = .resetting request ∧
      (request.resetStep.next.elim Position.outside .statement).stage = .sending request := by
  cases request <;> exact ⟨rfl, rfl⟩

theorem sendStep_stage (request : Request) :
    request.sendStep.stage = .sending request ∧
      (request.sendStep.next.elim Position.outside .statement).stage = .waiting request := by
  cases request <;> exact ⟨rfl, rfl⟩

theorem waitStep_stage (request : Request) :
    request.waitStep.stage = .waiting request ∧
      (request.waitStep.next.elim Position.outside .statement).stage.After Request.before
        request := by
  cases request with
  | channelOpen => exact ⟨rfl, rfl⟩
  | handshake => exact ⟨rfl, trivial⟩

theorem flags_reset (flag : Request → Bool) (request : Request) :
    (fun other : Request => if request.resetStep = other.resetStep then false else flag other) =
      Function.update flag request false := by
  funext other
  cases request <;> cases other <;> rfl

theorem flags_kept {step : OpenStep} {flag : Request → Bool}
    (keeps : ∀ request : Request, step ≠ request.resetStep) :
    (fun request : Request => if step = request.resetStep then false else flag request) = flag :=
  funext fun request => if_neg (keeps request)

theorem sentNotes_none (none : ∀ request : Request, request.sent outputs = 0) :
    InputOpening.sentNotes thread outputs = [] := by
  simp [InputOpening.sentNotes, none]

theorem sentNotes_one {request : Request}
    (one : ∀ other : Request,
      other.sent outputs = if request.sendStep = other.sendStep then 1 else 0) :
    InputOpening.sentNotes thread outputs = [.sent thread request] := by
  simp only [InputOpening.sentNotes, one]
  cases request <;> rfl

theorem notes_done {step : OpenStep} {handler : ChannelHandler}
    (there : current.position thread = .statement step)
    (present : current.server.handlers[pointer]? = some handler)
    (enabled : step.enabled handler = true)
    (sent : ∀ request : Request, request.sent outputs = if step = request.sendStep then 1 else 0) :
    current.notes pointer (.step thread) outputs = step.noted thread := by
  rw [notes_statement there]
  obtain ⟨request, rfl | rfl | rfl⟩ := step.cases_request
  · have unawaited : request.resetStep.awaited = none := by cases request <;> rfl
    rw [unawaited]
    dsimp only
    rw [sentNotes_none fun other => (sent other).trans (by cases request <;> cases other <;> rfl)]
    cases request <;> rfl
  · have unawaited : request.sendStep.awaited = none := by cases request <;> rfl
    rw [unawaited]
    dsimp only
    rw [sentNotes_one sent]
    cases request <;> rfl
  · have awaits : request.waitStep.awaited = some request := by cases request <;> rfl
    have set : current.flag pointer request = true := by
      rw [flag_eq present, ← enabled]
      cases request <;> rfl
    rw [awaits]
    dsimp only
    rw [if_pos set]
    cases request <;> rfl

theorem statement_done {step : OpenStep} {handler : ChannelHandler}
    (there : current.position thread = .statement step)
    (present : current.server.handlers[pointer]? = some handler)
    (enabled : step.enabled handler = true)
    (effect : step.Done pointer handler
      ((InputOpening.stepBody protobuf pointer step).run current.server))
    (took : current.finish thread (InputOpening.stepBody protobuf pointer step) =
      some (after, outputs)) :
    after.HasInput pointer ∧ Phases.Step Request.before (current.phases pointer)
      (current.notes pointer (.step thread) outputs) (after.phases pointer) := by
  obtain ⟨later, input', found, isInput, flags⟩ := effect.handler
  have sent := effect.sent
  simp only [InputOpening.finish, effect.result, Option.some.injEq, Prod.mk.injEq] at took
  obtain ⟨rfl, rfl⟩ := took
  refine ⟨⟨later, input', found, isInput⟩, ?_⟩
  have viewed : InputOpening.phases pointer { current with
        server := ((InputOpening.stepBody protobuf pointer step).run current.server).state
        position := Function.update current.position thread (step.next.elim .outside .statement)
        unanswered := fun request => current.unanswered request +
          request.sent ((InputOpening.stepBody protobuf pointer step).run current.server).log } =
      { (current.phases pointer).move thread
          (step.next.elim Position.outside .statement).stage with
        flag := fun request =>
          if step = request.resetStep then false else current.flag pointer request } := by
    have lowered : ∀ request : Request, request.flag later =
        if step = request.resetStep then false else current.flag pointer request := by
      intro request
      rw [flags, flag_eq present]
    rw [phases_eq found lowered, stage_update]
    rfl
  have staged : (current.phases pointer).stage thread = step.stage :=
    congrArg Position.stage there
  rw [notes_done there present enabled sent, viewed]
  obtain ⟨request, rfl | rfl | rfl⟩ := step.cases_request
  · obtain ⟨before, behind⟩ := resetStep_stage request
    have noted : request.resetStep.noted thread = [] := by cases request <;> rfl
    rw [noted, flags_reset, behind]
    exact .reset thread request (staged.trans before)
  · obtain ⟨before, behind⟩ := sendStep_stage request
    have noted : request.sendStep.noted thread = [.sent thread request] := by
      cases request <;> rfl
    rw [noted, flags_kept fun other => by cases request <;> cases other <;> decide, behind]
    exact .send thread request (staged.trans before)
  · obtain ⟨before, behind⟩ := waitStep_stage request
    have noted : request.waitStep.noted thread = [.passed thread request] := by
      cases request <;> rfl
    have set : current.flag pointer request = true := by
      rw [flag_eq present, ← enabled]
      cases request <;> rfl
    rw [noted, flags_kept fun other => by cases request <;> cases other <;> decide]
    exact .pass thread request _ (staged.trans before) set behind

theorem statement_phases {step : OpenStep} {handler : ChannelHandler}
    {input : InputChannelHandler} (there : current.position thread = .statement step)
    (present : current.server.handlers[pointer]? = some handler)
    (kind : handler.kind = .input input) (enabled : step.enabled handler = true)
    (took : current.finish thread (InputOpening.stepBody protobuf pointer step) =
      some (after, outputs)) :
    after.HasInput pointer ∧ Phases.Step Request.before (current.phases pointer)
      (current.notes pointer (.step thread) outputs) (after.phases pointer) := by
  by_cases serializes : step = .sendRequest →
      protobuf.inputChannelHandshakeRequest input.available_buttons ≠ none
  · exact statement_done there present enabled (stepBody_done present kind step serializes) took
  · obtain ⟨rfl, refused⟩ : step = .sendRequest ∧
        protobuf.inputChannelHandshakeRequest input.available_buttons = none := by
      simpa using serializes
    obtain ⟨exception, threw⟩ := @stepBody_unserialized protobuf _ _ _ _ present kind refused
    simp only [InputOpening.finish, threw, Option.some.injEq, Prod.mk.injEq] at took
    obtain ⟨rfl, rfl⟩ := took
    refine ⟨⟨handler, input, present, kind⟩, ?_⟩
    have viewed := @phases_move pointer current thread .outside
    rw [notes_statement there]
    dsimp only [OpenStep.awaited]
    rw [sentNotes_none fun request => rfl]
    exact viewed ▸ .leave thread

theorem call_phases {handler : ChannelHandler} {input : InputChannelHandler}
    (present : current.server.handlers[pointer]? = some handler)
    (kind : handler.kind = .input input)
    {clientId : Int} {channelId : UInt8} {specific : Bool} {data : Bytes}
    (took : current.finish thread (InputOpening.callBody pointer clientId channelId specific data) =
      some (after, outputs)) :
    after.HasInput pointer ∧ Phases.Step Request.before (current.phases pointer) [.called thread]
      (after.phases pointer) := by
  have ran := callBody_run present kind clientId channelId specific data
  simp only [InputOpening.finish, ran, Option.some.injEq, Prod.mk.injEq] at took
  obtain ⟨rfl, -⟩ := took
  have found := updateHandler_present present (.updateInput (.registerClient clientId))
  have flags := fun request => @flag_updateInput _ _ kind (.registerClient clientId) rfl request
  refine ⟨⟨_, _, found, kind_updateInput kind _⟩, ?_⟩
  rw [phases_eq found fun request => (flags request).trans (flag_eq present request).symm,
    stage_update]
  exact .call thread Request.channelOpen rfl

theorem take_phases {handler : ChannelHandler} {input : InputChannelHandler} {message : Message}
    {write : Nat → WriteResult} (present : current.server.handlers[pointer]? = some handler)
    (kind : handler.kind = .input input)
    (took : current.take pointer message write = some (after, outputs)) :
    after.HasInput pointer ∧ Phases.Step Request.before (current.phases pointer)
      (current.notes pointer (.headunit message write) outputs) (after.phases pointer) := by
  obtain ⟨server, running, later, input', rfl, found, isInput, flags, -⟩ :=
    take_cases present kind took
  refine ⟨⟨later, input', found, isInput⟩, ?_⟩
  rw [InputOpening.taken]
  cases answers : Request.answeredBy message.content with
  | some answered =>
      have raised : ∀ request : Request, request.flag later =
          Function.update (current.flag pointer) answered true request := by
        intro request
        rw [flags, answers, Function.update_apply, flag_eq present]
        by_cases same : request = answered
        · rw [if_pos same, decide_eq_true (congrArg some same.symm), Bool.true_or]
        · rw [if_neg same, decide_eq_false (by simpa [eq_comm] using same), Bool.false_or]
      simp only [InputOpening.notes, answers, Option.map_some, Option.toList_some]
      rw [phases_eq found raised]
      exact .answer answered
  | none =>
      have same : ∀ request : Request, request.flag later = current.flag pointer request := by
        intro request
        rw [flags, answers, flag_eq present]
        rfl
      simp only [InputOpening.notes, answers, Option.map_none, Option.toList_none]
      rw [phases_eq found same]
      exact .stay

theorem sleep_phases {step : OpenStep} {handler : ChannelHandler} {awaited : Request}
    (there : current.position thread = .statement step)
    (present : current.server.handlers[pointer]? = some handler)
    (waits : step.awaited = some awaited) (unset : ¬ step.enabled handler = true) :
    Phases.Step Request.before (current.phases pointer)
      (current.notes pointer (.step thread) outputs)
      ((current.move thread (.asleep awaited)).phases pointer) := by
  have isWait : step = awaited.waitStep := by
    cases step <;> cases waits <;> rfl
  subst isWait
  have lowered : current.flag pointer awaited = false := by
    rw [flag_eq present, ← Bool.not_eq_true]
    intro set
    apply unset
    rw [← set]
    cases awaited <;> rfl
  rw [notes_statement there, waits, move_stays]
  · simp only [lowered, Bool.false_eq_true, if_false]
    exact .stay
  · rw [there]
    exact (waitStep_stage awaited).1.symm

theorem notify_stays (awaited : Request) :
    (current.notify awaited).phases pointer = current.phases pointer := by
  have stages : (fun thread => ((current.notify awaited).position thread).stage) =
      fun thread => (current.position thread).stage := by
    funext thread
    simp only [InputOpening.notify]
    split
    next asleep =>
      rw [asleep]
      exact (waitStep_stage awaited).1
    next => rfl
  exact congrArg (fun stage => { current.phases pointer with stage }) stages

/-- What happens in the handler is a step of the threads through their phases. -/
theorem step_phases (isInput : current.HasInput pointer)
    (took : (inputOpening protobuf pointer).step current event = some (after, outputs)) :
    after.HasInput pointer ∧ Phases.Step Request.before (current.phases pointer)
      (current.notes pointer event outputs) (after.phases pointer) := by
  obtain ⟨handler, input, present, kind⟩ := isInput
  cases step_turn present took with
  | calls outside took => exact call_phases present kind took
  | executes there enabled took => exact statement_phases there present kind enabled took
  | sleeps there waits unset =>
      exact ⟨⟨handler, input, present, kind⟩, sleep_phases there present waits unset⟩
  | @wakes thread awaited there =>
      refine ⟨⟨handler, input, present, kind⟩, ?_⟩
      rw [move_stays]
      · exact .stay
      · rw [there]
        exact (waitStep_stage awaited).1
  | takes idle expects took => exact take_phases present kind took
  | notifies awaited =>
      refine ⟨⟨handler, input, present, kind⟩, ?_⟩
      rw [notify_stays]
      exact .stay

theorem stage_sending {position : Position} {request : Request}
    (sending : position.stage = .sending request) : position = .statement request.sendStep := by
  cases position with
  | outside | asleep => cases sending
  | statement step => cases step <;> cases sending <;> rfl

theorem sent_turn {request : Request}
    (sent : .sent thread request ∈ current.notes pointer event outputs) : event = .step thread := by
  cases event with
  | step actor =>
      simp only [InputOpening.notes] at sent
      split at sent
      next =>
        split at sent
        next =>
          split at sent
          next => cases List.mem_singleton.mp sent
          next => cases sent
        next =>
          obtain ⟨other, -, among⟩ := List.mem_flatMap.mp sent
          cases List.eq_of_mem_replicate among
          rfl
      next => cases sent
      next => cases sent
  | call => cases List.mem_singleton.mp sent
  | headunit message write =>
      obtain ⟨answered, -, same⟩ := Option.map_eq_some_iff.mp (Option.mem_toList.mp sent)
      cases same
  | wake | notify => cases sent

end Steps

section Runs

variable {protobuf : Protobuf} {pointer : Nat} {server : State} {handler : ChannelHandler}
  {input : InputChannelHandler} {events : List InputEvent} {final : InputOpening}
  {trace : List (InputEvent × List Output)}

/-- When every call finds the flag unset as it sends a request, each has its own answers. -/
theorem eachItsOwn_of_sendsUnset (present : server.handlers[pointer]? = some handler)
    (kind : handler.kind = .input input)
    (within : (inputOpening protobuf pointer).Within (InputOpening.SendsUnset pointer)
      (.start server) events)
    (ran : (inputOpening protobuf pointer).run (.start server) events = some (final, trace)) :
    InputOpening.EachItsOwn ((inputOpening protobuf pointer).observations
      (InputOpening.notes pointer) (.start server) events) := by
  have unset : ∀ {current event outputs thread request},
      InputOpening.SendsUnset pointer current event →
      (current.phases pointer).stage thread = .sending request →
      .sent thread request ∈ current.notes pointer event outputs →
      current.flag pointer request = false := by
    intro current event outputs thread request permitted sending sent
    exact permitted thread request (sent_turn sent) (stage_sending sending)
  have answers := Phases.run_ownAnswers step_phases unset ⟨handler, input, present, kind⟩
    (fun _ => rfl) within ran
  exact ⟨fun split => answers.sends split rfl, answers.passes⟩

theorem alone_nil (current : InputOpening) (thread : Nat) :
    current.Alone protobuf pointer thread [] :=
  ⟨[], by simp, current, [], rfl, rfl⟩

theorem alone_turn
    (serializes : ∀ buttons, protobuf.inputChannelHandshakeRequest buttons ≠ none)
    {current : InputOpening} {thread : Nat} {step : OpenStep} (isInput : current.HasInput pointer)
    (there : current.position thread = .statement step)
    (set : ∀ request : Request, step = request.waitStep → current.flag pointer request = true) :
    ∃ after : InputOpening, after.HasInput pointer ∧
      after.position thread = step.next.elim .outside .statement ∧
      (∀ request : Request, after.flag pointer request =
        if step = request.resetStep then false else current.flag pointer request) ∧
      ∀ {log}, after.Alone protobuf pointer thread log →
        current.Alone protobuf pointer thread (step.noted thread ++ log) := by
  obtain ⟨handler, input, present, kind⟩ := isInput
  have enabled : step.enabled handler = true := by
    obtain ⟨request, rfl | rfl | rfl⟩ := step.cases_request
    · cases request <;> rfl
    · cases request <;> rfl
    · rw [← set request rfl, flag_eq present]
      cases request <;> rfl
  have effect := stepBody_done present kind step fun _ => serializes _
  obtain ⟨later, input', found, isInput, flags⟩ := effect.handler
  have sent := effect.sent
  obtain ⟨after, took, server, position⟩ : ∃ after,
      (inputOpening protobuf pointer).step current (.step thread) =
        some (after, ((InputOpening.stepBody protobuf pointer step).run current.server).log) ∧
      after.server = ((InputOpening.stepBody protobuf pointer step).run current.server).state ∧
      after.position =
        Function.update current.position thread (step.next.elim .outside .statement) := by
    simp only [inputOpening, InputOpening.step, there, present, enabled, if_true,
      InputOpening.finish, effect.result]
    exact ⟨_, rfl, rfl, rfl⟩
  rw [← server] at found
  refine ⟨after, ⟨later, input', found, isInput⟩, ?_, fun request => ?_, ?_⟩
  · rw [position, Function.update_self]
  · rw [flag_eq found, flags, flag_eq present]
  · rintro log ⟨more, alone, last, trace, ran, noted⟩
    refine ⟨.step thread :: more, by simpa using alone, last, _,
      (Machine.run_cons_eq_some _).mpr ⟨_, _, _, took, ran, rfl⟩, ?_⟩
    simp only [Machine.observations, took, noted, notes_done there present enabled sent]

/-- A call that finds the flag set as it sends a request goes on without an answer. -/
theorem alone_not_own
    (serializes : ∀ buttons, protobuf.inputChannelHandshakeRequest buttons ≠ none)
    {current : InputOpening} {thread : Nat} {request : Request}
    (isInput : current.HasInput pointer)
    (sending : current.position thread = .statement request.sendStep)
    (set : current.flag pointer request = true) :
    ∃ log, current.Alone protobuf pointer thread log ∧
      ∀ earlier, ¬ InputOpening.EachItsOwn (earlier ++ log) := by
  obtain ⟨waiting, isInput, there, flags, sends⟩ := alone_turn serializes isInput sending
    fun other same => absurd same (by cases request <;> cases other <;> decide)
  have stays : waiting.flag pointer request = true := by
    rw [flags, if_neg (by cases request <;> decide), set]
  cases request with
  | handshake =>
      obtain ⟨returned, -, -, -, returns⟩ := alone_turn serializes isInput there
        fun other same => by cases other <;> cases same; exact stays
      refine ⟨_, sends (returns (alone_nil _ _)), fun earlier each => ?_⟩
      have own : Own thread .handshake (earlier ++ [.sent thread .handshake]) :=
        each.returns (List.append_assoc earlier [_] [_]).symm
      exact Phases.not_own_sent (List.not_mem_nil) own
  | channelOpen =>
      obtain ⟨opened, isInput, there, -, passes⟩ := alone_turn serializes isInput there
        fun other same => by cases other <;> cases same; exact stays
      obtain ⟨reset, isInput, there, -, resets⟩ := @alone_turn _ _ serializes _ _ .resetAnswer
        isInput there fun other same => by cases other <;> cases same
      obtain ⟨requested, -, -, -, requests⟩ := @alone_turn _ _ serializes _ _ .sendRequest
        isInput there fun other same => by cases other <;> cases same
      refine ⟨_, sends (passes (resets (requests (alone_nil _ _)))), fun earlier each => ?_⟩
      have own : Own thread .channelOpen
          (earlier ++ [.sent thread .channelOpen, .passed thread .channelOpen]) :=
        each.sends (List.append_assoc earlier [_, _] [_]).symm
      exact Phases.not_own_sent (by simp) own

theorem run_hasInput (present : server.handlers[pointer]? = some handler)
    (kind : handler.kind = .input input)
    (ran : (inputOpening protobuf pointer).run (.start server) events = some (final, trace)) :
    final.HasInput pointer :=
  Machine.run_keeps _ (fun isInput took => (step_phases isInput took).1)
    ⟨handler, input, present, kind⟩ ran

/-- Each call has its own answers in every run in which the flag for an answer is unset when
a call sends the request. Where it is set, this call alone can go on to the end of the next
phase, or of its last one, without an answer. -/
theorem own_answers_while_sends_unset (present : server.handlers[pointer]? = some handler)
    (kind : handler.kind = .input input)
    (ran : (inputOpening protobuf pointer).run (.start server) events = some (final, trace)) :
    ((inputOpening protobuf pointer).Within (InputOpening.SendsUnset pointer) (.start server)
        events →
      InputOpening.EachItsOwn ((inputOpening protobuf pointer).observations
        (InputOpening.notes pointer) (.start server) events)) ∧
    ((∀ buttons, protobuf.inputChannelHandshakeRequest buttons ≠ none) →
      ∀ thread request, final.position thread = .statement request.sendStep →
        final.flag pointer request = true →
        ∃ more last later, (∀ event ∈ more, event = .step thread) ∧
          (inputOpening protobuf pointer).run (.start server) (events ++ more) =
            some (last, later) ∧
          ¬ InputOpening.EachItsOwn ((inputOpening protobuf pointer).observations
            (InputOpening.notes pointer) (.start server) (events ++ more))) := by
  refine ⟨fun within => eachItsOwn_of_sendsUnset present kind within ran, ?_⟩
  intro serializes thread request sending set
  obtain ⟨log, ⟨more, alone, last, further, goesOn, noted⟩, stolen⟩ :=
    alone_not_own serializes (run_hasInput present kind ran) sending set
  refine ⟨more, last, trace ++ further, alone,
    (Machine.run_append_eq_some _).mpr ⟨final, trace, further, ran, goesOn, rfl⟩, ?_⟩
  rw [Machine.observations_append _ ran, noted]
  exact stolen _

def channelOpened : InputEvent := .headunit ⟨7, 0x0b, [0x00, 0x08], 0⟩ fun _ => .complete

/-- Two clients register. The answer to the request of the first comes when the second has
reset the flag and not sent its request yet. -/
def answerBetween : List InputEvent :=
  [.call 1 0 7 false [], .step 1, .step 1, .call 2 1 7 false [], .step 2, channelOpened]

theorem own_answers_while_sends_unset_between :
    ∃ final trace, (inputOpening .small 1).run (.start inputServer) answerBetween =
        some (final, trace) ∧
      ∃ more last later, (∀ event ∈ more, event = .step 2) ∧
        (inputOpening .small 1).run (.start inputServer) (answerBetween ++ more) =
          some (last, later) ∧
        ¬ InputOpening.EachItsOwn ((inputOpening .small 1).observations
          (InputOpening.notes 1) (.start inputServer) (answerBetween ++ more)) := by
  obtain ⟨final, trace, ran, sending, set⟩ : ∃ final trace,
      (inputOpening .small 1).run (.start inputServer) answerBetween = some (final, trace) ∧
        final.position 2 = .statement Request.channelOpen.sendStep ∧
        final.flag 1 .channelOpen = true :=
    ⟨_, _, rfl, rfl, rfl⟩
  exact ⟨final, trace, ran, (own_answers_while_sends_unset rfl rfl ran).2
    (fun _ => Option.some_ne_none _) 2 .channelOpen sending set⟩

/-- The second client goes on with the answer to the first: it sends its channel open request,
does not wait, and sends its handshake request. -/
def otherAnswer : List InputEvent :=
  answerBetween ++ [.notify .channelOpen, .step 2, .step 2, .step 2, .step 2]

theorem handshake_without_own_answer :
    ∃ final trace, (inputOpening .small 1).run (.start inputServer) otherAnswer =
        some (final, trace) ∧
      ¬ InputOpening.EachItsOwn ((inputOpening .small 1).observations
        (InputOpening.notes 1) (.start inputServer) otherAnswer) := by
  refine ⟨_, _, rfl, fun each => ?_⟩
  have log : (inputOpening .small 1).observations (InputOpening.notes 1) (.start inputServer)
      otherAnswer = [.called 1, .sent 1 .channelOpen, .called 2, .answered .channelOpen] ++
        [.sent 2 .channelOpen, .passed 2 .channelOpen] ++ [.sent 2 .handshake] := rfl
  exact Phases.not_own_sent (by simp) (each.sends log)

end Runs

end AAServer

end AACS
