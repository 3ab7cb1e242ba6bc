import AACS.Library.Transitions

/-!
Queues inside a machine.

A step may take from the front of a queue and put behind its end. What has been put in and
what has been taken out then account for each other over every run, in order.
-/

namespace Transitions

namespace Machine

variable {State Event Output Item : Type} (machine : Machine State Event Output)

/-- What was in the queue and what is put in is what is taken out and what is left. -/
theorem run_fifo {invariant : State → Prop} {condition : State → Event → Prop}
    {queue : State → List Item} {puts takes : State → Event → List Output → List Item}
    (kept : ∀ {state event next outputs}, invariant state → condition state event →
      machine.step state event = some (next, outputs) →
      invariant next ∧
        queue state ++ puts state event outputs = takes state event outputs ++ queue next)
    {state final : State} {events : List Event} {trace : List (Event × List Output)}
    (start : invariant state) (within : machine.Within condition state events)
    (ran : machine.run state events = some (final, trace)) :
    queue state ++ machine.observations puts state events =
      machine.observations takes state events ++ queue final := by
  induction events generalizing state trace with
  | nil =>
      obtain ⟨rfl, -⟩ : state = final ∧ [] = trace := by simpa using ran
      simp [observations]
  | cons event events inductionHypothesis =>
      obtain ⟨next, outputs, rest, taken, continued, -⟩ := machine.run_cons_eq_some.mp ran
      obtain ⟨holds, moved⟩ := kept start within.1 taken
      have later := inductionHypothesis holds (within.2 _ _ taken) continued
      simp only [observations, taken]
      rw [← List.append_assoc, moved, List.append_assoc, later, List.append_assoc]

end Machine

end Transitions
