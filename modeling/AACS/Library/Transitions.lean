import Mathlib.Data.List.Basic

/-!
Machines that take one event at a time.

A machine answers an event with its next state and the outputs it performs, or
with `none` when the event cannot happen in that state.  A run keeps every event
together with its outputs, so that later statements can ask who caused what.
-/

namespace Transitions

/-- A deterministic machine; all nondeterminism is in the choice of events. -/
structure Machine (State Event Output : Type) where
  step : State → Event → Option (State × List Output)

namespace Machine

variable {State Event Output : Type} (machine : Machine State Event Output)

/-- Take the events in order, remembering what each one put out. -/
def run : State → List Event → Option (State × List (Event × List Output))
  | state, [] => some (state, [])
  | state, event :: events =>
      match machine.step state event with
      | none => none
      | some (next, outputs) =>
          match run next events with
          | none => none
          | some (final, trace) => some (final, (event, outputs) :: trace)

@[simp] theorem run_nil (state : State) : machine.run state [] = some (state, []) := rfl

theorem run_cons_eq_some {state final : State} {event : Event} {events : List Event}
    {trace : List (Event × List Output)} :
    machine.run state (event :: events) = some (final, trace) ↔
      ∃ next outputs rest, machine.step state event = some (next, outputs) ∧
        machine.run next events = some (final, rest) ∧ trace = (event, outputs) :: rest := by
  constructor
  · intro ran
    cases taken : machine.step state event with
    | none => simp [run, taken] at ran
    | some reached =>
        cases continued : machine.run reached.1 events with
        | none => simp [run, taken, continued] at ran
        | some last =>
            simp only [run, taken, continued, Option.some.injEq, Prod.mk.injEq] at ran
            exact ⟨reached.1, reached.2, last.2, rfl, by rw [continued, ← ran.1], ran.2.symm⟩
  · rintro ⟨next, outputs, rest, taken, continued, rfl⟩
    simp [run, taken, continued]

theorem run_append_eq_some {state final : State} {first second : List Event}
    {trace : List (Event × List Output)} :
    machine.run state (first ++ second) = some (final, trace) ↔
      ∃ middle early late, machine.run state first = some (middle, early) ∧
        machine.run middle second = some (final, late) ∧ trace = early ++ late := by
  induction first generalizing state trace with
  | nil => simp
  | cons event events inductionHypothesis =>
      simp only [List.cons_append, run_cons_eq_some, inductionHypothesis]
      constructor
      · rintro ⟨next, outputs, rest, taken, ⟨middle, early, late, ran, continued, rfl⟩, rfl⟩
        exact ⟨middle, (event, outputs) :: early, late,
          ⟨next, outputs, early, taken, ran, rfl⟩, continued, rfl⟩
      · rintro ⟨middle, _, late, ⟨next, outputs, early, taken, ran, rfl⟩, continued, rfl⟩
        exact ⟨next, outputs, early ++ late, taken, ⟨middle, early, late, ran, continued, rfl⟩,
          rfl⟩

theorem run_total (total : ∀ state event, ∃ reached, machine.step state event = some reached)
    (state : State) (events : List Event) :
    ∃ final trace, machine.run state events = some (final, trace) := by
  induction events generalizing state with
  | nil => exact ⟨state, [], rfl⟩
  | cons event events inductionHypothesis =>
      obtain ⟨⟨next, outputs⟩, taken⟩ := total state event
      obtain ⟨final, trace, ran⟩ := inductionHypothesis next
      exact ⟨final, (event, outputs) :: trace,
        machine.run_cons_eq_some.mpr ⟨next, outputs, trace, taken, ran, rfl⟩⟩

theorem run_events {state final : State} {events : List Event}
    {trace : List (Event × List Output)}
    (ran : machine.run state events = some (final, trace)) : trace.map Prod.fst = events := by
  induction events generalizing state trace with
  | nil =>
      obtain ⟨-, rfl⟩ : state = final ∧ [] = trace := by simpa using ran
      rfl
  | cons event events inductionHypothesis =>
      obtain ⟨next, outputs, rest, -, continued, rfl⟩ := machine.run_cons_eq_some.mp ran
      simp [inductionHypothesis continued]

/-- Every event of the run meets `condition` in the state in which it is taken. -/
def Within (condition : State → Event → Prop) : State → List Event → Prop
  | _, [] => True
  | state, event :: events =>
      condition state event ∧
        ∀ next outputs, machine.step state event = some (next, outputs) →
          Within condition next events

instance decidableWithin {condition : State → Event → Prop}
    [∀ state event, Decidable (condition state event)] :
    ∀ state events, Decidable (machine.Within condition state events)
  | _, [] => .isTrue trivial
  | state, event :: events =>
      have (turn : State × List Output) : Decidable (machine.Within condition turn.1 events) :=
        decidableWithin turn.1 events
      decidable_of_iff (condition state event ∧ ∀ turn ∈ machine.step state event,
        machine.Within condition turn.1 events) (by simp [Within])

/-- The induction over a run, for what speaks of the past as well. -/
theorem run_history {invariant : State → List Event → Prop} {condition : State → Event → Prop}
    (kept : ∀ {state past event next outputs}, invariant state past → condition state event →
      machine.step state event = some (next, outputs) → invariant next (past ++ [event]))
    {state final : State} {past events : List Event} {trace : List (Event × List Output)}
    (start : invariant state past) (within : machine.Within condition state events)
    (ran : machine.run state events = some (final, trace)) : invariant final (past ++ events) := by
  induction events generalizing state past trace with
  | nil =>
      obtain ⟨rfl, -⟩ : state = final ∧ [] = trace := by simpa using ran
      rw [List.append_nil]
      exact start
  | cons event events inductionHypothesis =>
      obtain ⟨next, outputs, rest, taken, continued, -⟩ := machine.run_cons_eq_some.mp ran
      rw [List.append_cons]
      exact inductionHypothesis (kept start within.1 taken) (within.2 _ _ taken) continued

/-- The induction over a run: what every permitted step keeps holds at the end. -/
theorem run_invariant {invariant : State → Prop} {condition : State → Event → Prop}
    (kept : ∀ {state event next outputs}, invariant state → condition state event →
      machine.step state event = some (next, outputs) → invariant next)
    {state final : State} {events : List Event} {trace : List (Event × List Output)}
    (start : invariant state) (within : machine.Within condition state events)
    (ran : machine.run state events = some (final, trace)) : invariant final :=
  @run_history _ _ _ machine (fun state _ => invariant state) condition
    (fun holds permitted took => kept holds permitted took) state final [] events trace start
    within ran

theorem run_turns {invariant : State → List Event → Prop} {condition : State → Event → Prop}
    {claim : Event → List Output → Prop}
    (kept : ∀ {state past event next outputs}, invariant state past → condition state event →
      machine.step state event = some (next, outputs) →
      invariant next (past ++ [event]) ∧ claim event outputs)
    {state final : State} {past events : List Event} {trace : List (Event × List Output)}
    (start : invariant state past) (within : machine.Within condition state events)
    (ran : machine.run state events = some (final, trace)) :
    ∀ turn ∈ trace, claim turn.1 turn.2 := by
  induction events generalizing state past trace with
  | nil =>
      obtain ⟨-, rfl⟩ : state = final ∧ [] = trace := by simpa using ran
      simp
  | cons event events inductionHypothesis =>
      obtain ⟨next, outputs, rest, taken, continued, rfl⟩ := machine.run_cons_eq_some.mp ran
      obtain ⟨holds, here⟩ := kept start within.1 taken
      exact List.forall_mem_cons.mpr
        ⟨here, inductionHypothesis holds (within.2 _ _ taken) continued⟩

theorem within_of_forall {condition : Event → Prop} {events : List Event}
    (each : ∀ event ∈ events, condition event) (state : State) :
    machine.Within (fun _ event => condition event) state events := by
  induction events generalizing state with
  | nil => trivial
  | cons event events inductionHypothesis =>
      obtain ⟨first, rest⟩ := List.forall_mem_cons.mp each
      exact ⟨first, fun next _ _ => inductionHypothesis rest next⟩

theorem within_true (state : State) (events : List Event) :
    machine.Within (fun _ _ => True) state events :=
  machine.within_of_forall (fun _ _ => trivial) state

theorem run_keeps {invariant : State → Prop}
    (kept : ∀ {state event next outputs}, invariant state →
      machine.step state event = some (next, outputs) → invariant next)
    {state final : State} {events : List Event} {trace : List (Event × List Output)}
    (start : invariant state) (ran : machine.run state events = some (final, trace)) :
    invariant final :=
  machine.run_invariant (fun holds _ took => kept holds took) start
    (machine.within_true state events) ran

theorem run_past {invariant : State → List Event → Prop}
    (kept : ∀ {state past event next outputs}, invariant state past →
      machine.step state event = some (next, outputs) → invariant next (past ++ [event]))
    {state final : State} {events : List Event} {trace : List (Event × List Output)}
    (start : invariant state []) (ran : machine.run state events = some (final, trace)) :
    invariant final events :=
  @run_history _ _ _ machine invariant (fun _ _ => True)
    (fun holds _ took => kept holds took) state final [] events trace start
    (machine.within_true state events) ran

theorem within_cons_iff {condition : State → Event → Prop} {state next : State} {event : Event}
    {events : List Event} {outputs : List Output}
    (taken : machine.step state event = some (next, outputs)) :
    machine.Within condition state (event :: events) ↔
      condition state event ∧ machine.Within condition next events := by
  refine and_congr_right fun _ => ⟨fun later => later next outputs taken, ?_⟩
  intro later other put taken'
  rw [taken] at taken'
  cases taken'
  exact later

theorem within_single_iff {condition : State → Event → Prop} {state : State} {event : Event} :
    machine.Within condition state [event] ↔ condition state event := by
  simp [Within]

theorem within_append_iff {condition : State → Event → Prop} {state middle : State}
    {first second : List Event} {trace : List (Event × List Output)}
    (ran : machine.run state first = some (middle, trace)) :
    machine.Within condition state (first ++ second) ↔
      machine.Within condition state first ∧ machine.Within condition middle second := by
  induction first generalizing state trace with
  | nil =>
      obtain ⟨rfl, -⟩ : state = middle ∧ [] = trace := by simpa using ran
      exact (and_iff_right trivial).symm
  | cons event events inductionHypothesis =>
      obtain ⟨next, outputs, rest, taken, continued, -⟩ := machine.run_cons_eq_some.mp ran
      rw [List.cons_append, machine.within_cons_iff taken, machine.within_cons_iff taken,
        inductionHypothesis continued, and_assoc]

/-- Where a step outside the condition does a damage that cannot be undone, the end of a run
tells whether all its steps were within. -/
theorem run_within_or {invariant good bad : State → Prop} {condition : State → Event → Prop}
    (always : ∀ {state event next outputs}, invariant state →
      machine.step state event = some (next, outputs) → invariant next)
    (kept : ∀ {state event next outputs}, invariant state → good state → condition state event →
      machine.step state event = some (next, outputs) → good next)
    (damaged : ∀ {state event next outputs}, invariant state → good state →
      ¬ condition state event → machine.step state event = some (next, outputs) → bad next)
    (stays : ∀ {state event next outputs}, invariant state → bad state →
      machine.step state event = some (next, outputs) → bad next)
    {state final : State} {events : List Event} {trace : List (Event × List Output)}
    (holds : invariant state) (start : good state)
    (ran : machine.run state events = some (final, trace)) :
    machine.Within condition state events ∧ good final ∨
      ¬ machine.Within condition state events ∧ bad final := by
  induction events generalizing state trace with
  | nil =>
      obtain ⟨rfl, -⟩ : state = final ∧ [] = trace := by simpa using ran
      exact .inl ⟨trivial, start⟩
  | cons event events inductionHypothesis =>
      obtain ⟨next, outputs, rest, taken, continued, -⟩ := machine.run_cons_eq_some.mp ran
      rw [machine.within_cons_iff taken]
      by_cases permitted : condition state event
      · rw [and_iff_right permitted]
        exact inductionHypothesis (always holds taken) (kept holds start permitted taken) continued
      · have ends : invariant final ∧ bad final :=
          @run_keeps _ _ _ machine (fun state => invariant state ∧ bad state)
            (fun both took => ⟨always both.1 took, stays both.1 both.2 took⟩) _ _ _ _
            ⟨always holds taken, damaged holds start permitted taken⟩ continued
        exact .inr ⟨fun within => permitted within.1, ends.2⟩

/-- What someone writes down who watches the steps of a run. -/
def observations {Observation : Type} (observe : State → Event → List Output → List Observation) :
    State → List Event → List Observation
  | _, [] => []
  | state, event :: events =>
      match machine.step state event with
      | none => []
      | some (next, outputs) => observe state event outputs ++ observations observe next events

theorem observations_single {Observation : Type}
    {observe : State → Event → List Output → List Observation} {state next : State}
    {event : Event} {outputs : List Output}
    (taken : machine.step state event = some (next, outputs)) :
    machine.observations observe state [event] = observe state event outputs := by
  simp [observations, taken]

theorem observations_append {Observation : Type}
    {observe : State → Event → List Output → List Observation} {state middle : State}
    {first second : List Event} {trace : List (Event × List Output)}
    (ran : machine.run state first = some (middle, trace)) :
    machine.observations observe state (first ++ second) =
      machine.observations observe state first ++ machine.observations observe middle second := by
  induction first generalizing state trace with
  | nil =>
      obtain ⟨rfl, -⟩ : state = middle ∧ [] = trace := by simpa using ran
      rfl
  | cons event events inductionHypothesis =>
      obtain ⟨next, outputs, rest, taken, continued, -⟩ := machine.run_cons_eq_some.mp ran
      simp only [List.cons_append, observations, taken, inductionHypothesis continued,
        List.append_assoc]

theorem run_observed {Observation : Type}
    {observe : State → Event → List Output → List Observation}
    {invariant : State → List Observation → Prop} {condition : State → Event → Prop}
    (kept : ∀ {state log event next outputs}, invariant state log → condition state event →
      machine.step state event = some (next, outputs) →
      invariant next (log ++ observe state event outputs))
    {state final : State} {log : List Observation} {events : List Event}
    {trace : List (Event × List Output)} (start : invariant state log)
    (within : machine.Within condition state events)
    (ran : machine.run state events = some (final, trace)) :
    invariant final (log ++ machine.observations observe state events) := by
  induction events generalizing state log trace with
  | nil =>
      obtain ⟨rfl, -⟩ : state = final ∧ [] = trace := by simpa using ran
      rw [observations, List.append_nil]
      exact start
  | cons event events inductionHypothesis =>
      obtain ⟨next, outputs, rest, taken, continued, -⟩ := machine.run_cons_eq_some.mp ran
      simp only [observations, taken]
      rw [← List.append_assoc]
      exact inductionHypothesis (kept start within.1 taken) (within.2 _ _ taken) continued

/-- Where some events take the machine one step further on a way of a fixed length, and the
others leave it where it is, the events say how far it has come. -/
theorem run_countdown {invariant : Nat → State → Prop} {moves : Event → Bool}
    {condition : State → Event → Prop}
    (forward : ∀ {left state event next outputs}, invariant left state → condition state event →
      moves event = true → machine.step state event = some (next, outputs) →
      ∃ less, left = less + 1 ∧ invariant less next)
    (stays : ∀ {left state event next outputs}, invariant left state → condition state event →
      moves event = false → machine.step state event = some (next, outputs) → invariant left next)
    {left : Nat} {state final : State} {events : List Event} {trace : List (Event × List Output)}
    (start : invariant left state) (within : machine.Within condition state events)
    (ran : machine.run state events = some (final, trace)) :
    ∃ less, left = less + events.countP moves ∧ invariant less final := by
  induction events generalizing left state trace with
  | nil =>
      obtain ⟨rfl, -⟩ : state = final ∧ [] = trace := by simpa using ran
      exact ⟨left, rfl, start⟩
  | cons event events inductionHypothesis =>
      obtain ⟨next, outputs, rest, taken, continued, -⟩ := machine.run_cons_eq_some.mp ran
      cases moved : moves event with
      | true =>
          obtain ⟨between, rfl, holds⟩ := forward start within.1 moved taken
          obtain ⟨less, rfl, ends⟩ := inductionHypothesis holds (within.2 _ _ taken) continued
          exact ⟨less, by simp [moved, Nat.add_assoc], ends⟩
      | false =>
          obtain ⟨less, rfl, ends⟩ := inductionHypothesis (stays start within.1 moved taken)
            (within.2 _ _ taken) continued
          exact ⟨less, by simp [moved], ends⟩

end Machine

end Transitions
