import Mathlib.Data.List.Induction
import Mathlib.Logic.Function.Basic

/-!
Tables that are written entry by entry.

An entry is for one key, or for none. After any entries a key holds the value of the
last one for it, and what it held at first when there was none.
-/

namespace LastWrite

variable {Entry Key Value : Type} [DecidableEq Key] (key : Entry → Option Key)
  (value : Entry → Value)

def write (table : Key → Value) (entry : Entry) : Key → Value :=
  fun wanted => if key entry = some wanted then value entry else table wanted

def lastFor (wanted : Key) (entries : List Entry) : Option Entry :=
  (entries.filter fun entry => key entry = some wanted).getLast?

variable {key value} {wanted : Key} {entries : List Entry} {entry : Entry}

@[simp] theorem lastFor_nil : lastFor key wanted ([] : List Entry) = none := rfl

theorem lastFor_concat :
    lastFor key wanted (entries ++ [entry]) =
      if key entry = some wanted then some entry else lastFor key wanted entries := by
  unfold lastFor
  rw [List.filter_append]
  split
  next same => simp [same]
  next other => simp [other]

theorem lastFor_eq_some (last : lastFor key wanted entries = some entry) :
    entry ∈ entries ∧ key entry = some wanted := by
  have membership := List.mem_filter.mp (List.mem_of_getLast? last)
  exact ⟨membership.1, of_decide_eq_true membership.2⟩

theorem lastFor_eq_none_iff :
    lastFor key wanted entries = none ↔ ∀ entry ∈ entries, key entry ≠ some wanted := by
  rw [lastFor, List.getLast?_eq_none_iff, List.filter_eq_nil_iff]
  simp

/-- What the table holds after the entries have been written in order. -/
theorem foldl_write (table : Key → Value) (entries : List Entry) (wanted : Key) :
    entries.foldl (write key value) table wanted =
      ((lastFor key wanted entries).map value).getD (table wanted) := by
  induction entries using List.reverseRecOn with
  | nil => rfl
  | append_singleton entries entry inductionHypothesis =>
      rw [List.foldl_append, List.foldl_cons, List.foldl_nil, lastFor_concat, write]
      split
      · rfl
      · exact inductionHypothesis

end LastWrite
