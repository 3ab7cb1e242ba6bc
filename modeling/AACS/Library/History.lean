import Mathlib.Data.List.Induction

/-!
What a history says about the present.

A history is a list of events, the last one at its end. A client of a service has
joined when an event of it says so and no later one takes that back; the same
relation says who has subscribed to what, and everything of that kind.
-/

namespace History

variable {Event : Type} {start stop : Event → Prop} {past : List Event} {event : Event}

/-- An event starts it, and none since then stops it. -/
def Since (start stop : Event → Prop) (past : List Event) : Prop :=
  ∃ earlier event later, past = earlier ++ event :: later ∧ start event ∧
    ∀ other ∈ later, ¬ stop other

@[simp] theorem not_since_nil : ¬ Since start stop [] := by
  rintro ⟨earlier, event, later, split, -⟩
  simp at split

theorem concat_eq_split {earlier later : List Event} {first : Event} :
    past ++ [event] = earlier ++ first :: later ↔
      past = earlier ∧ event = first ∧ later = [] ∨
        ∃ front, later = front ++ [event] ∧ past = earlier ++ first :: front := by
  constructor
  · intro split
    rcases List.eq_nil_or_concat later with rfl | ⟨front, last, rfl⟩
    · obtain ⟨rfl, same⟩ := List.append_inj' split rfl
      exact .inl ⟨rfl, (List.cons.inj same).1, rfl⟩
    · rw [List.concat_eq_append, ← List.cons_append, ← List.append_assoc] at split
      obtain ⟨rfl, same⟩ := List.append_inj' split rfl
      obtain rfl := (List.cons.inj same).1
      exact .inr ⟨front, List.concat_eq_append, rfl⟩
  · rintro (⟨rfl, rfl, rfl⟩ | ⟨front, rfl, rfl⟩)
    · rfl
    · rw [List.append_assoc, List.cons_append]

theorem since_concat :
    Since start stop (past ++ [event]) ↔ start event ∨ Since start stop past ∧ ¬ stop event := by
  constructor
  · rintro ⟨earlier, first, later, split, starts, keeps⟩
    rcases concat_eq_split.mp split with ⟨-, rfl, -⟩ | ⟨front, rfl, rfl⟩
    · exact .inl starts
    · exact .inr ⟨⟨earlier, first, front, rfl, starts, fun other membership =>
        keeps other (by simp [membership])⟩, keeps event (by simp)⟩
  · rintro (starts | ⟨⟨earlier, first, later, rfl, starts, keeps⟩, keepsOn⟩)
    · exact ⟨past, event, [], rfl, starts, by simp⟩
    · refine ⟨earlier, first, later ++ [event], by simp, starts, ?_⟩
      intro other membership
      rcases List.mem_append.mp membership with before | last
      · exact keeps other before
      · obtain rfl := List.mem_singleton.mp last
        exact keepsOn

theorem since_concat_other (starts : ¬ start event) (stops : ¬ stop event) :
    Since start stop (past ++ [event]) ↔ Since start stop past := by
  simp [since_concat, starts, stops]

section Always

/-- A claim about an event and those before it, for all events of the history. -/
def Always (claim : List Event → Event → Prop) (past : List Event) : Prop :=
  ∀ earlier event later, past = earlier ++ event :: later → claim earlier event

variable {claim : List Event → Event → Prop}

theorem always_concat : Always claim (past ++ [event]) ↔ Always claim past ∧ claim past event := by
  constructor
  · intro always
    constructor
    · intro earlier first later split
      exact always earlier first _ (concat_eq_split.mpr (.inr ⟨later, rfl, split⟩))
    · exact always past event [] rfl
  · rintro ⟨always, last⟩ earlier first later split
    rcases concat_eq_split.mp split with ⟨rfl, rfl, -⟩ | ⟨front, -, before⟩
    · exact last
    · exact always earlier first front before

end Always

section Rounds

/-- Before every act the last mark is one for which it is allowed. -/
def Attributed (isMark allows acts : Event → Prop) : List Event → Prop :=
  Always fun earlier event => acts event → Since allows isMark earlier

variable {isMark allows acts : Event → Prop} {mark : Event} {rest : List Event}

theorem attributed_of_passive (passive : ∀ event ∈ past, ¬ acts event) :
    Attributed isMark allows acts past := by
  intro earlier event later split active
  exact absurd active (passive event (by simp [split]))

theorem since_round (only : ∀ event, allows event → isMark event) (marks : isMark mark)
    (quiet : ∀ event ∈ rest, ¬ isMark event) :
    Since allows isMark (past ++ mark :: rest) ↔ allows mark := by
  induction rest using List.reverseRecOn with
  | nil => simp [since_concat, marks]
  | append_singleton front last inductionHypothesis =>
      have silent : ¬ isMark last := quiet last (by simp)
      have unallowed : ¬ allows last := fun allowed => silent (only last allowed)
      rw [← List.cons_append, ← List.append_assoc, since_concat_other unallowed silent]
      exact inductionHypothesis fun event inside => quiet event (by simp [inside])

theorem attributed_round (only : ∀ event, allows event → isMark event) (marks : isMark mark)
    (passive : ¬ acts mark) (quiet : ∀ event ∈ rest, ¬ isMark event) :
    Attributed isMark allows acts (past ++ mark :: rest) ↔
      Attributed isMark allows acts past ∧ ((∃ event ∈ rest, acts event) → allows mark) := by
  induction rest using List.reverseRecOn with
  | nil => simp [Attributed, always_concat, passive]
  | append_singleton front last inductionHypothesis =>
      have before : ∀ event ∈ front, ¬ isMark event := fun event inside =>
        quiet event (by simp [inside])
      have round := inductionHypothesis before
      rw [Attributed] at round ⊢
      rw [← List.cons_append, ← List.append_assoc, always_concat, round, since_round only marks
        before]
      simp only [List.mem_append, List.mem_singleton, or_and_right, exists_or, exists_eq_left,
        or_imp, and_assoc]

/-- The acts of a loop are allowed exactly when those of each round are. -/
theorem attributed_rounds_iff {Round : Type} {marked : Round → Event} {done : Round → List Event}
    (only : ∀ event, allows event → isMark event) (marks : ∀ round, isMark (marked round))
    (passive : ∀ event, isMark event → ¬ acts event)
    (quiet : ∀ round, ∀ event ∈ done round, ¬ isMark event) (rounds : List Round) :
    Attributed isMark allows acts (past ++ rounds.flatMap fun round =>
        marked round :: done round) ↔
      Attributed isMark allows acts past ∧
        ∀ round ∈ rounds, (∃ event ∈ done round, acts event) → allows (marked round) := by
  induction rounds using List.reverseRecOn with
  | nil => simp
  | append_singleton front last inductionHypothesis =>
      rw [List.flatMap_append, List.flatMap_singleton, ← List.append_assoc,
        attributed_round only (marks last) (passive _ (marks last)) (quiet last),
        inductionHypothesis, and_assoc, List.forall_mem_append, List.forall_mem_singleton]

end Rounds

end History
