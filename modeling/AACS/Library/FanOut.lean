import Mathlib.Data.List.Basic

/-!
Delivering to several recipients in order.

Every recipient is attempted once. A failure that is tolerated is passed over; any
other one ends the whole delivery, so that later recipients get nothing.
-/

namespace FanOut

variable {α β ε : Type} (attempt : α → Except ε β) (tolerated : ε → Bool)

/-- The result of the delivery and what has been delivered. -/
def fanOut : List α → Except ε Unit × List β
  | [] => (.ok (), [])
  | recipient :: rest =>
      match attempt recipient with
      | .ok delivered => ((fanOut rest).1, delivered :: (fanOut rest).2)
      | .error failure => if tolerated failure then fanOut rest else (.error failure, [])

def attempted : List α → List α
  | [] => []
  | recipient :: rest =>
      recipient ::
        match attempt recipient with
        | .ok _ => attempted rest
        | .error failure => if tolerated failure then attempted rest else []

def Passes (recipient : α) : Prop :=
  ∀ failure, attempt recipient = .error failure → tolerated failure

variable {attempt tolerated}

theorem passes_of_ok {recipient : α} {delivered : β} (sent : attempt recipient = .ok delivered) :
    Passes attempt tolerated recipient := by
  intro failure failed
  rw [sent] at failed
  cases failed

/-- Delivery in two parts: the second one starts only when the first one passes. -/
theorem fanOut_append (first second : List α) :
    fanOut attempt tolerated (first ++ second) =
      match (fanOut attempt tolerated first).1 with
      | .ok () => ((fanOut attempt tolerated second).1,
          (fanOut attempt tolerated first).2 ++ (fanOut attempt tolerated second).2)
      | .error failure => (.error failure, (fanOut attempt tolerated first).2) := by
  induction first with
  | nil => rfl
  | cons recipient rest inductionHypothesis =>
      rw [List.cons_append, fanOut, fanOut]
      cases attempt recipient with
      | ok delivered =>
          simp only [inductionHypothesis]
          cases (fanOut attempt tolerated rest).1 <;> rfl
      | error failure =>
          by_cases passed : tolerated failure = true
          · simp only [passed, if_true, inductionHypothesis]
          · simp [passed]

/-- A delivery ends well exactly when every attempt passes. -/
theorem fanOut_ok_iff (recipients : List α) :
    (fanOut attempt tolerated recipients).1 = .ok () ↔
      ∀ recipient ∈ recipients, Passes attempt tolerated recipient := by
  induction recipients with
  | nil => simp [fanOut]
  | cons recipient rest inductionHypothesis =>
      rw [fanOut, List.forall_mem_cons]
      cases result : attempt recipient with
      | ok delivered => simp [inductionHypothesis, passes_of_ok result]
      | error failure =>
          by_cases passed : tolerated failure = true
          · simp [passed, inductionHypothesis, Passes, result]
          · simp [passed, Passes, result]

theorem mem_fanOut_iff {recipients : List α} {delivered : β} :
    delivered ∈ (fanOut attempt tolerated recipients).2 ↔
      ∃ earlier recipient later, recipients = earlier ++ recipient :: later ∧
        (∀ before ∈ earlier, Passes attempt tolerated before) ∧
        attempt recipient = .ok delivered := by
  induction recipients with
  | nil => simp [fanOut]
  | cons head rest inductionHypothesis =>
      constructor
      · intro membership
        rw [fanOut] at membership
        cases result : attempt head with
        | ok first =>
            simp only [result, List.mem_cons] at membership
            rcases membership with rfl | later
            · exact ⟨[], head, rest, rfl, by simp, result⟩
            · obtain ⟨earlier, recipient, tail, rfl, passes, sent⟩ := inductionHypothesis.mp later
              exact ⟨head :: earlier, recipient, tail, rfl,
                List.forall_mem_cons.mpr ⟨passes_of_ok result, passes⟩, sent⟩
        | error failure =>
            by_cases passed : tolerated failure = true
            · simp only [result, passed, if_true] at membership
              obtain ⟨earlier, recipient, tail, rfl, passes, sent⟩ :=
                inductionHypothesis.mp membership
              have headPasses : Passes attempt tolerated head := by
                intro other failed
                rw [result] at failed
                cases failed
                exact passed
              exact ⟨head :: earlier, recipient, tail, rfl,
                List.forall_mem_cons.mpr ⟨headPasses, passes⟩, sent⟩
            · simp [result, passed] at membership
      · rintro ⟨earlier, recipient, later, split, passes, sent⟩
        cases earlier with
        | nil =>
            obtain ⟨rfl, rfl⟩ := List.cons.inj split
            simp [fanOut, sent]
        | cons first earlier =>
            obtain ⟨rfl, rfl⟩ := List.cons.inj split
            have further := inductionHypothesis.mpr
              ⟨earlier, recipient, later, rfl, fun before mem => passes before (by simp [mem]),
                sent⟩
            rw [fanOut]
            cases result : attempt head with
            | ok delivered => exact List.mem_cons_of_mem _ further
            | error failure =>
                have passed := passes head (by simp) failure result
                simpa [passed] using further

/-- When every attempt delivers, everybody gets what the attempt says. -/
theorem fanOut_all_ok {recipients : List α} {deliver : α → β}
    (sent : ∀ recipient ∈ recipients, attempt recipient = .ok (deliver recipient)) :
    fanOut attempt tolerated recipients = (.ok (), recipients.map deliver) := by
  induction recipients with
  | nil => rfl
  | cons recipient rest inductionHypothesis =>
      obtain ⟨head, tail⟩ := List.forall_mem_cons.mp sent
      simp [fanOut, head, inductionHypothesis tail]

end FanOut
