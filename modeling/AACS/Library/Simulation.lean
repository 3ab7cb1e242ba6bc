import AACS.Library.Transitions

/-!
Forward simulations between machines.

What a concrete step does, the abstract machine does in a run of its own, of none, one or several
actions. What the concrete machine does in a run is then what the abstract machine does in the run
of all these actions.
-/

namespace Transitions

namespace Machine

variable {State Event Output Abstract Action Effect Observation : Type}

/-- The abstract machine takes the actions, with the same outputs, to a related state. -/
def Matches (abstract : Machine Abstract Action Effect) (related : State → Abstract → Prop)
    (embed : Effect → Output) (shadow : Abstract) (actions : List Action) (next : State)
    (outputs : List Output) : Prop :=
  ∃ after record, abstract.run shadow actions = some (after, record) ∧ related next after ∧
    outputs = (record.flatMap Prod.snd).map embed

section Steps

variable {abstract : Machine Abstract Action Effect} {related : State → Abstract → Prop}
  {embed : Effect → Output} {shadow after : Abstract} {next : State}

theorem Matches.silent (same : related next shadow) :
    abstract.Matches related embed shadow [] next [] :=
  ⟨shadow, [], rfl, same, rfl⟩

theorem Matches.single {action : Action} {effects : List Effect}
    (taken : abstract.step shadow action = some (after, effects)) (holds : related next after) :
    abstract.Matches related embed shadow [action] next (effects.map embed) :=
  ⟨after, [(action, effects)], abstract.run_cons_eq_some.mpr ⟨after, effects, [], taken, rfl, rfl⟩,
    holds, by simp⟩

theorem Matches.step {action : Action} {outputs : List Output}
    (taken : abstract.Matches related embed shadow [action] next outputs) :
    ∃ after effects, abstract.step shadow action = some (after, effects) ∧ related next after ∧
      outputs = effects.map embed := by
  obtain ⟨after, record, ran, holds, rfl⟩ := taken
  obtain ⟨reached, effects, rest, stepped, continued, rfl⟩ := abstract.run_cons_eq_some.mp ran
  cases continued
  exact ⟨after, effects, stepped, holds, by simp⟩

end Steps

/-- A simulation of the runs within a condition, with the actions that a step is. -/
structure Simulation (concrete : Machine State Event Output)
    (abstract : Machine Abstract Action Effect) where
  related : State → Abstract → Prop
  condition : State → Event → Prop
  embed : Effect → Output
  actions : State → Event → List Output → List Action
  simulates : ∀ {state shadow event next outputs}, related state shadow → condition state event →
    concrete.step state event = some (next, outputs) →
    abstract.Matches related embed shadow (actions state event outputs) next outputs

namespace Simulation

variable {concrete : Machine State Event Output} {abstract : Machine Abstract Action Effect}
  {state final : State} {shadow : Abstract} {events : List Event}
  {trace : List (Event × List Output)}

/-- Fewer runs are simulated as well. -/
def restrict (simulation : concrete.Simulation abstract) (also : State → Event → Prop) :
    concrete.Simulation abstract where
  related := simulation.related
  condition state event := simulation.condition state event ∧ also state event
  embed := simulation.embed
  actions := simulation.actions
  simulates holds permitted taken := simulation.simulates holds permitted.1 taken

theorem run (simulation : concrete.Simulation abstract) (start : simulation.related state shadow)
    (within : concrete.Within simulation.condition state events)
    (ran : concrete.run state events = some (final, trace)) :
    ∃ after record, abstract.run shadow
        (concrete.observations simulation.actions state events) = some (after, record) ∧
      simulation.related final after ∧
      trace.flatMap Prod.snd = (record.flatMap Prod.snd).map simulation.embed := by
  induction events generalizing state shadow trace with
  | nil =>
      obtain ⟨rfl, rfl⟩ : state = final ∧ [] = trace := by simpa using ran
      exact ⟨shadow, [], rfl, start, rfl⟩
  | cons event events inductionHypothesis =>
      obtain ⟨next, outputs, rest, taken, continued, rfl⟩ := concrete.run_cons_eq_some.mp ran
      obtain ⟨between, early, followed, holds, same⟩ :=
        simulation.simulates start within.1 taken
      obtain ⟨after, late, later, ends, others⟩ :=
        inductionHypothesis holds (within.2 _ _ taken) continued
      refine ⟨after, early ++ late, ?_, ends, ?_⟩
      · simp only [observations, taken]
        exact abstract.run_append_eq_some.mpr ⟨between, early, late, followed, later, rfl⟩
      · rw [List.flatMap_cons, List.flatMap_append, List.map_append, ← same, ← others]

/-- What is seen of the steps is what is seen of their actions. -/
theorem observed (simulation : concrete.Simulation abstract)
    {seen : State → Event → List Output → List Observation}
    {shown : Abstract → Action → List Effect → List Observation}
    (same : ∀ {state shadow event next outputs}, simulation.related state shadow →
      simulation.condition state event → concrete.step state event = some (next, outputs) →
      abstract.observations shown shadow (simulation.actions state event outputs) =
        seen state event outputs)
    (start : simulation.related state shadow)
    (within : concrete.Within simulation.condition state events)
    (ran : concrete.run state events = some (final, trace)) :
    abstract.observations shown shadow (concrete.observations simulation.actions state events) =
      concrete.observations seen state events := by
  induction events generalizing state shadow trace with
  | nil => rfl
  | cons event events inductionHypothesis =>
      obtain ⟨next, outputs, rest, taken, continued, rfl⟩ := concrete.run_cons_eq_some.mp ran
      obtain ⟨between, early, followed, holds, -⟩ := simulation.simulates start within.1 taken
      simp only [observations, taken]
      rw [abstract.observations_append followed, same start within.1 taken,
        inductionHypothesis holds (within.2 _ _ taken) continued]

theorem within (simulation : concrete.Simulation abstract)
    {permitted : Abstract → Action → Prop}
    (allowed : ∀ {state shadow event next outputs}, simulation.related state shadow →
      simulation.condition state event → concrete.step state event = some (next, outputs) →
      abstract.Within permitted shadow (simulation.actions state event outputs))
    (start : simulation.related state shadow)
    (within : concrete.Within simulation.condition state events)
    (ran : concrete.run state events = some (final, trace)) :
    abstract.Within permitted shadow (concrete.observations simulation.actions state events) := by
  induction events generalizing state shadow trace with
  | nil => trivial
  | cons event events inductionHypothesis =>
      obtain ⟨next, outputs, rest, taken, continued, rfl⟩ := concrete.run_cons_eq_some.mp ran
      obtain ⟨between, early, followed, holds, -⟩ := simulation.simulates start within.1 taken
      simp only [observations, taken]
      exact (abstract.within_append_iff followed).mpr ⟨allowed start within.1 taken,
        inductionHypothesis holds (within.2 _ _ taken) continued⟩

end Simulation

end Machine

end Transitions
