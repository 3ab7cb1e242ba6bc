import Mathlib.Data.List.Basic

/-!
Cutting a list into pieces of one size.

Every piece but the last has exactly the given size; the last one holds what is
left, and is empty only when the whole list is.
-/

namespace Chunking

variable {α : Type}

/-- The pieces of `values`, each of `size` elements but the last. -/
def cut (size : Nat) (values : List α) : List (List α) :=
  if size = 0 ∨ values.length ≤ size then [values]
  else values.take size :: cut size (values.drop size)
termination_by values.length
decreasing_by simp_all; omega

theorem cut_of_length_le {size : Nat} {values : List α} (short : values.length ≤ size) :
    cut size values = [values] := by
  rw [cut, if_pos (.inr short)]

theorem cut_of_lt_length {size : Nat} {values : List α} (positive : 0 < size)
    (long : size < values.length) :
    cut size values = values.take size :: cut size (values.drop size) := by
  rw [cut, if_neg (by omega)]

theorem cut_ne_nil (size : Nat) (values : List α) : cut size values ≠ [] := by
  rw [cut]
  split <;> simp

theorem cut_flatten (size : Nat) (values : List α) : (cut size values).flatten = values := by
  fun_induction cut size values with
  | case1 values stop => simp
  | case2 values continues inductionHypothesis => simp [inductionHypothesis]

theorem length_of_mem_dropLast_cut {size : Nat} {values piece : List α}
    (membership : piece ∈ (cut size values).dropLast) : piece.length = size := by
  fun_induction cut size values with
  | case1 values stop => simp at membership
  | case2 values continues inductionHypothesis =>
      rw [List.dropLast_cons_of_ne_nil (cut_ne_nil size _)] at membership
      rcases List.mem_cons.mp membership with rfl | later
      · simp
        omega
      · exact inductionHypothesis later

theorem length_of_getLast_cut {size : Nat} {values piece : List α} (positive : 0 < size)
    (nonempty : values ≠ []) (last : (cut size values).getLast? = some piece) :
    0 < piece.length ∧ piece.length ≤ size := by
  fun_induction cut size values with
  | case1 values stop =>
      obtain rfl : values = piece := by simpa using last
      exact ⟨List.length_pos_iff.mpr nonempty, by omega⟩
  | case2 values continues inductionHypothesis =>
      rw [List.getLast?_cons_of_ne_nil (cut_ne_nil size _)] at last
      apply inductionHypothesis _ last
      intro emptyRest
      have := congrArg List.length emptyRest
      simp only [List.length_drop, List.length_nil] at this
      omega

theorem ne_nil_of_mem_cut {size : Nat} {values piece : List α} (positive : 0 < size)
    (nonempty : values ≠ []) (membership : piece ∈ cut size values) : piece ≠ [] := by
  fun_induction cut size values with
  | case1 values stop =>
      obtain rfl : piece = values := by simpa using membership
      exact nonempty
  | case2 values continues inductionHypothesis =>
      rcases List.mem_cons.mp membership with rfl | later
      · rw [Ne, List.take_eq_nil_iff]
        exact fun none => none.elim (Nat.pos_iff_ne_zero.mp positive) nonempty
      · apply inductionHypothesis _ later
        rw [Ne, List.drop_eq_nil_iff]
        omega

theorem length_le_of_mem_cut {size : Nat} {values piece : List α} (positive : 0 < size)
    (membership : piece ∈ cut size values) : piece.length ≤ size := by
  fun_induction cut size values with
  | case1 values stop =>
      obtain rfl : piece = values := by simpa using membership
      omega
  | case2 values continues inductionHypothesis =>
      rcases List.mem_cons.mp membership with rfl | later
      · exact List.length_take_le _ _
      · exact inductionHypothesis later

end Chunking
