import AACS.Library.Transitions
import AACS.Server.InnerLoop

/-!
The inner loop of `dataPump` on endpoint 1, whose `writeFun` is `write`.

`write` may take a part of what it is offered.  A `write` that takes nothing and sets no
`errno` is passed on by `checkError` as -1: the loop steps back, and offers again a byte that
has been taken, or one in front of the chunk. The thread may also be told to end after any
`write`.
-/

namespace AACS

namespace AAServer

open Transitions

inductive Written where
  | accepted (count : Nat)
  | failed (errno : Nat)
  deriving DecidableEq, Repr

def Written.returned : Written → Int × Nat
  | .accepted count => (count, 0)
  | .failed errno => (-1, errno)

def Written.count : Written → Nat
  | .accepted count => count
  | .failed _ => 0

/-- `checkError` does not throw for it. -/
def Written.passes : Written → Bool
  | .accepted _ => true
  | .failed errno => errno ∈ [eintr, eagain]

/-- A call of `write`, and whether the thread has been told to end by the time it is back. -/
structure WriteTurn where
  written : Written
  told : Bool
  deriving DecidableEq, Repr

def positions (start : Int) (count : Nat) : List Int :=
  (List.range count).map fun (index : Nat) => start + index

/-- The inner loop, the bytes of the buffer that `write` has taken so far, and how the loop was
left if it was. -/
structure Writing where
  part : Part
  accepted : List Int
  left : Option (Except Thrown Bool)

def Writing.start (length : Nat) : Writing where
  part := ⟨0, length⟩
  accepted := []
  left := none

def Writing.Ended (writing : Writing) : Prop :=
  writing.left = none ∧ writing.part.length ≤ 0 ∨ writing.left = some (.ok true)

def writePass (writing : Writing) (turn : WriteTurn) : Writing :=
  let accepted := writing.accepted ++ positions writing.part.start turn.written.count
  match (pass (fun _ _ => ((), .ok turn.written.returned)) (fun _ => turn.told) ()
    writing.part).2 with
  | .left result => { writing with accepted, left := some result }
  | .again part => { writing with accepted, part }

def writeMachine : Machine Writing WriteTurn Part where
  step writing turn :=
    if writing.left.isNone ∧ 0 < writing.part.length ∧ turn.written.count ≤ writing.part.length then
      some (writePass writing turn, [writing.part])
    else none

structure ExactlyOnce (length : Nat) (trace : List (WriteTurn × List Part)) (final : Writing) :
    Prop where
  inside : ∀ turn ∈ trace, ∀ part ∈ turn.2, 0 ≤ part.start ∧ part.start + part.length ≤ length
  inOrder : ∃ count ≤ length, final.accepted = positions 0 count
  whole : final.Ended → final.accepted = positions 0 length

/-- After `taken` bytes and then so many results of zero: no byte is taken any more, and no
`write` is made once the zeros are more than the bytes. -/
def Harmless (taken zeros : Nat) : List Written → Prop
  | [] => True
  | .failed _ :: results => zeros ≤ taken ∧ Harmless taken zeros results
  | .accepted 0 :: results => zeros ≤ taken ∧ Harmless taken (zeros + 1) results
  | .accepted (count + 1) :: results => zeros = 0 ∧ Harmless (taken + (count + 1)) 0 results

def ToldAtEnd (length : Nat) (turns : List WriteTurn) : Prop :=
  (∃ turn ∈ turns, turn.told = true ∧ turn.written.passes = true) →
    (turns.map fun turn => turn.written.count).sum = length

section Positions

@[simp] theorem positions_zero (start : Int) : positions start 0 = [] := rfl

@[simp] theorem length_positions (start : Int) (count : Nat) :
    (positions start count).length = count := by
  simp [positions]

theorem positions_add (start : Int) (first second : Nat) :
    positions start (first + second) =
      positions start first ++ positions (start + first) second := by
  simp only [positions, List.range_add, List.map_append, List.map_map]
  congr 1
  apply List.map_congr_left
  intro index _
  simp [add_assoc]

theorem positions_succ (start : Int) (count : Nat) :
    positions start (count + 1) = start :: positions (start + 1) count := by
  rw [Nat.add_comm, positions_add]
  simp [positions]

end Positions

section Passes

variable {length taken zeros : Nat} {writing next : Writing} {turn : WriteTurn}
  {outputs : List Part}

structure Writing.After (writing : Writing) (length taken zeros : Nat) : Prop where
  bounded : taken ≤ length
  accepted : writing.accepted = positions 0 taken
  part : writing.left = none → writing.part = ⟨taken - zeros, length - taken + zeros⟩

theorem after_start (length : Nat) : (Writing.start length).After length 0 0 :=
  ⟨Nat.zero_le _, rfl, fun _ => by simp [Writing.start]⟩

theorem step_writes (stepped : writeMachine.step writing turn = some (next, outputs)) :
    writing.left = none ∧ 0 < writing.part.length ∧ turn.written.count ≤ writing.part.length ∧
      next = writePass writing turn ∧ outputs = [writing.part] := by
  simp only [writeMachine] at stepped
  split at stepped
  next going =>
    simp only [Option.some.injEq, Prod.mk.injEq] at stepped
    exact ⟨by simpa using going.1, going.2.1, going.2.2, stepped.1.symm, stepped.2.symm⟩
  next => cases stepped

@[simp] theorem writePass_accepted (writing : Writing) (turn : WriteTurn) :
    (writePass writing turn).accepted =
      writing.accepted ++ positions writing.part.start turn.written.count := by
  unfold writePass
  dsimp only
  split <;> rfl

/-- What `checkError` makes of a result that it does not throw for. -/
def Written.amount : Written → Int
  | .accepted 0 => -1
  | .accepted (count + 1) => (count + 1 : Nat)
  | .failed _ => 0

theorem checkError_written {written : Written} {partLength : Int}
    (passed : checkError written.returned.1 written.returned.2 [eintr, eagain] = .ok partLength) :
    partLength = written.amount := by
  unfold checkError at passed
  split at passed
  next positive =>
    cases passed
    rcases written with count | errno
    · cases count with
      | zero => simp [Written.returned] at positive
      | succ count => rfl
    · simp [Written.returned] at positive
  next other =>
    rcases written with count | errno
    · cases count with
      | zero => simpa [Written.returned, Written.amount] using passed.symm
      | succ count =>
          simp only [Written.returned, not_lt] at other
          omega
    · rw [if_neg (by simp [Written.returned])] at passed
      split at passed
      next => exact (Except.ok.inj passed).symm
      next => cases passed

theorem checkError_passes (written : Written) :
    (∃ partLength, checkError written.returned.1 written.returned.2 [eintr, eagain] =
      .ok partLength) ↔ written.passes = true := by
  unfold checkError
  rcases written with (_ | count) | errno
  · simp [Written.returned, Written.passes]
  · simp [Written.returned, Written.passes]
  · by_cases ignored : errno ∈ [eintr, eagain]
    · simp [Written.returned, Written.passes, ignored]
    · simp [Written.returned, Written.passes, ignored]

theorem writePass_left (ongoing : writing.left = none) :
    ((writePass writing turn).left = some (.ok true) ↔
      turn.told = true ∧ turn.written.passes = true) ∧
    ((writePass writing turn).left = none → turn.told = false) := by
  rw [← checkError_passes]
  unfold writePass pass
  dsimp only
  rcases checkError turn.written.returned.1 turn.written.returned.2 [eintr, eagain]
    with thrown | partLength
  · simp
  · cases turn.told <;> simp [ongoing]

theorem writePass_part (going : (writePass writing turn).left = none) :
    (writePass writing turn).part = writing.part.advance turn.written.amount := by
  unfold writePass pass at going ⊢
  dsimp only at going ⊢
  rcases passed : checkError turn.written.returned.1 turn.written.returned.2 [eintr, eagain]
    with thrown | partLength
  · simp [passed] at going
  · by_cases told : turn.told
    · simp [passed, told] at going
    · simp [told, checkError_written passed]

theorem Writing.After.step {later more : Nat} (after : writing.After length taken zeros)
    (ongoing : writing.left = none) (bounded : later ≤ length)
    (count : later = taken + turn.written.count)
    (amount : turn.written.amount + more = turn.written.count + zeros)
    (exact : turn.written.count = 0 ∨ zeros = 0) :
    (writePass writing turn).After length later more := by
  have part := after.part ongoing
  refine ⟨bounded, ?_, fun going => ?_⟩
  · rw [writePass_accepted, after.accepted, count, positions_add, part]
    rcases exact with none | rfl
    · simp [none]
    · simp
  · rw [writePass_part going, part]
    simp only [Part.advance, Part.mk.injEq]
    constructor <;> omega

theorem Writing.After.step_zero (after : writing.After length taken zeros)
    (ongoing : writing.left = none) (written : turn.written = .accepted 0) :
    (writePass writing turn).After length taken (zeros + 1) := by
  apply after.step ongoing after.bounded <;> simp [written, Written.count, Written.amount]

theorem Writing.After.step_accepted {count : Nat} (after : writing.After length taken 0)
    (ongoing : writing.left = none) (offered : turn.written.count ≤ writing.part.length)
    (written : turn.written = .accepted (count + 1)) :
    (writePass writing turn).After length (taken + (count + 1)) 0 := by
  have bounded := after.bounded
  simp only [after.part ongoing, written, Written.count] at offered
  apply after.step ongoing (by omega) <;> simp [written, Written.count, Written.amount]

theorem Writing.After.step_failed {errno : Nat} (after : writing.After length taken zeros)
    (ongoing : writing.left = none) (written : turn.written = .failed errno) :
    (writePass writing turn).After length taken zeros := by
  apply after.step ongoing after.bounded <;> simp [written, Written.count, Written.amount]

end Passes

section Runs

variable {length taken zeros : Nat} {writing final : Writing} {turns : List WriteTurn}
  {trace : List (WriteTurn × List Part)}

theorem accepted_grows (ran : writeMachine.run writing turns = some (final, trace)) :
    writing.accepted <+: final.accepted := by
  refine @Machine.run_keeps _ _ _ writeMachine (fun later => writing.accepted <+: later.accepted)
    ?_ _ _ _ _ List.prefix_rfl ran
  intro later turn next outputs grown stepped
  obtain ⟨-, -, -, rfl, -⟩ := step_writes stepped
  rw [writePass_accepted]
  exact grown.trans (List.prefix_append _ _)

theorem exactlyOnce_cons {turn : WriteTurn} {part : Part} :
    ExactlyOnce length ((turn, [part]) :: trace) final ↔
      (0 ≤ part.start ∧ part.start + part.length ≤ length) ∧ ExactlyOnce length trace final := by
  constructor
  · intro exact
    refine ⟨exact.inside _ List.mem_cons_self _ (List.mem_singleton_self _), ?_⟩
    exact ⟨fun later membership => exact.inside later (List.mem_cons_of_mem _ membership),
      exact.inOrder, exact.whole⟩
  · rintro ⟨here, exact⟩
    refine ⟨List.forall_mem_cons.mpr ⟨?_, exact.inside⟩, exact.inOrder, exact.whole⟩
    intro offered membership
    rw [List.mem_singleton.mp membership]
    exact here

theorem exactlyOnce_nil_iff (after : writing.After length taken zeros) :
    ExactlyOnce length [] writing ↔ (writing.left = some (.ok true) → taken = length) := by
  constructor
  · intro exact told
    have whole := exact.whole (.inr told)
    rw [after.accepted] at whole
    simpa using congrArg List.length whole
  · intro told
    refine ⟨by simp, ⟨taken, after.bounded, after.accepted⟩, ?_⟩
    rintro (⟨ongoing, all⟩ | left)
    · have bounded := after.bounded
      simp only [after.part ongoing] at all
      rw [after.accepted, show taken = length by omega]
    · rw [after.accepted, told left]

/-- A byte that is accepted after the loop has stepped back is one too many. -/
theorem not_exactlyOnce {count : Nat} (after : writing.After length taken zeros)
    (ongoing : writing.left = none) (back : zeros ≠ 0)
    (grown : writing.accepted ++ positions writing.part.start (count + 1) <+: final.accepted) :
    ¬ ExactlyOnce length trace final := by
  intro exact
  obtain ⟨later, -, all⟩ := exact.inOrder
  rw [all, after.accepted, after.part ongoing] at grown
  have size := grown.length_le
  simp only [List.length_append, length_positions] at size
  obtain ⟨more, rfl⟩ : ∃ more, later = taken + (more + 1) := ⟨later - taken - 1, by omega⟩
  rw [positions_add 0 taken, List.prefix_append_right_inj, positions_succ, positions_succ,
    List.cons_prefix_cons] at grown
  have same : (taken : Int) - zeros = 0 + taken := grown.1
  omega

/-- From any point of a run on. -/
theorem exactlyOnce_iff (after : writing.After length taken zeros)
    (ran : writeMachine.run writing turns = some (final, trace)) :
    ExactlyOnce length trace final ↔ Harmless taken zeros (turns.map WriteTurn.written) ∧
      (final.left = some (.ok true) →
        taken + (turns.map fun turn => turn.written.count).sum = length) := by
  induction turns generalizing writing taken zeros trace with
  | nil =>
      obtain ⟨rfl, rfl⟩ : writing = final ∧ [] = trace := by simpa using ran
      rw [exactlyOnce_nil_iff after]
      exact (and_iff_right trivial).symm
  | cons turn turns inductionHypothesis =>
      obtain ⟨next, outputs, rest, stepped, continued, rfl⟩ :=
        writeMachine.run_cons_eq_some.mp ran
      obtain ⟨ongoing, positive, offered, rfl, rfl⟩ := step_writes stepped
      have part := after.part ongoing
      have inside : 0 ≤ writing.part.start ∧
          writing.part.start + writing.part.length ≤ length ↔ zeros ≤ taken := by
        rw [part]
        dsimp only
        omega
      rw [exactlyOnce_cons, inside, List.map_cons, List.map_cons, List.sum_cons]
      rcases written : turn.written with (_ | count) | errno
      · rw [Harmless, inductionHypothesis (after.step_zero ongoing written) continued,
          Written.count, Nat.zero_add, and_assoc]
      · rw [Harmless]
        by_cases back : zeros = 0
        · subst back
          rw [inductionHypothesis (after.step_accepted ongoing offered written) continued,
            Written.count, Nat.add_assoc]
          simp
        · refine iff_of_false (fun both => ?_) (fun both => back both.1.1)
          have grown := accepted_grows continued
          rw [writePass_accepted, written, Written.count] at grown
          exact not_exactlyOnce after ongoing back grown both.2
      · rw [Harmless, inductionHypothesis (after.step_failed ongoing written) continued,
          Written.count, Nat.zero_add, and_assoc]

theorem left_told_iff (ongoing : writing.left = none)
    (ran : writeMachine.run writing turns = some (final, trace)) :
    final.left = some (.ok true) ↔
      ∃ turn ∈ turns, turn.told = true ∧ turn.written.passes = true := by
  induction turns generalizing writing trace with
  | nil =>
      obtain ⟨rfl, rfl⟩ : writing = final ∧ [] = trace := by simpa using ran
      simp [ongoing]
  | cons turn turns inductionHypothesis =>
      obtain ⟨next, outputs, rest, stepped, continued, rfl⟩ :=
        writeMachine.run_cons_eq_some.mp ran
      obtain ⟨-, positive, offered, rfl, rfl⟩ := step_writes stepped
      obtain ⟨told, goes⟩ := @writePass_left writing turn ongoing
      rw [List.exists_mem_cons_iff]
      cases left : (writePass writing turn).left with
      | none => rw [inductionHypothesis left continued, goes left]; simp
      | some result =>
          -- no step is taken after the loop has been left
          obtain rfl : turns = [] := by
            cases turns with
            | nil => rfl
            | cons later turns =>
                obtain ⟨next, outputs, rest, further, -⟩ :=
                  writeMachine.run_cons_eq_some.mp continued
                rw [(step_writes further).1] at left
                cases left
          obtain ⟨rfl, -⟩ : writePass writing turn = final ∧ [] = rest := by simpa using continued
          simpa using told

/-- After zeros that do no harm the loop is not through; `write` has not taken the whole chunk
when it takes nothing. -/
theorem zero_of_ended (after : writing.After length taken zeros)
    (short : zeros ≠ 0 → taken < length)
    (harmless : Harmless taken zeros (turns.map WriteTurn.written))
    (ran : writeMachine.run writing turns = some (final, trace)) (ended : final.Ended)
    (told : final.left = some (.ok true) →
      taken + (turns.map fun turn => turn.written.count).sum = length) :
    zeros = 0 ∧ ∀ turn ∈ turns, turn.written ≠ .accepted 0 := by
  induction turns generalizing writing taken zeros trace with
  | nil =>
      obtain ⟨rfl, rfl⟩ : writing = final ∧ [] = trace := by simpa using ran
      refine ⟨?_, by simp⟩
      rcases ended with ⟨ongoing, all⟩ | left
      · have bounded := after.bounded
        simp only [after.part ongoing] at all
        omega
      · by_contra back
        have whole : taken = length := by simpa using told left
        exact absurd whole (short back).ne
  | cons turn turns inductionHypothesis =>
      obtain ⟨next, outputs, rest, stepped, continued, rfl⟩ :=
        writeMachine.run_cons_eq_some.mp ran
      obtain ⟨ongoing, positive, offered, rfl, rfl⟩ := step_writes stepped
      rw [List.map_cons] at harmless
      rw [List.map_cons, List.sum_cons] at told
      rcases written : turn.written with (_ | count) | errno
      · rw [written, Harmless] at harmless
        rw [written, Written.count, Nat.zero_add] at told
        have behind : zeros + 1 ≠ 0 → taken < length := fun _ => by
          simp only [after.part ongoing] at positive
          by_cases back : zeros = 0
          · omega
          · exact short back
        obtain ⟨none, -⟩ := inductionHypothesis (after.step_zero ongoing written) behind harmless.2
          continued told
        omega
      · rw [written, Harmless] at harmless
        rw [written, Written.count, ← Nat.add_assoc] at told
        obtain ⟨rfl, harmless⟩ := harmless
        obtain ⟨-, none⟩ := inductionHypothesis (after.step_accepted ongoing offered written)
          (absurd rfl) harmless continued told
        exact ⟨rfl, List.forall_mem_cons.mpr ⟨by simp [written], none⟩⟩
      · rw [written, Harmless] at harmless
        rw [written, Written.count, Nat.zero_add] at told
        obtain ⟨back, none⟩ := inductionHypothesis (after.step_failed ongoing written) short
          harmless.2 continued told
        exact ⟨back, List.forall_mem_cons.mpr ⟨by simp [written], none⟩⟩

theorem harmless_of_no_zero {results : List Written}
    (none : ∀ written ∈ results, written ≠ .accepted 0) : Harmless taken 0 results := by
  induction results generalizing taken with
  | nil => trivial
  | cons written results inductionHypothesis =>
      obtain ⟨here, later⟩ := List.forall_mem_cons.mp none
      rcases written with (_ | count) | errno
      · exact absurd rfl here
      · exact ⟨rfl, inductionHypothesis later⟩
      · exact ⟨Nat.zero_le _, inductionHypothesis later⟩

end Runs

/-- The bytes of a chunk go out once and in order exactly when a `write` that takes nothing, if
there is one, is followed by no other that takes something, nor by more like it than bytes have
been taken, and the thread is told to end only when all bytes have been taken. Of a loop that has
come to its end: when no `write` has taken nothing, and the same. -/
theorem output_exactly_once_iff (length : Nat) (turns : List WriteTurn) (final : Writing)
    (trace : List (WriteTurn × List Part))
    (ran : writeMachine.run (.start length) turns = some (final, trace)) :
    (ExactlyOnce length trace final ↔
      Harmless 0 0 (turns.map WriteTurn.written) ∧ ToldAtEnd length turns) ∧
      (final.Ended → (ExactlyOnce length trace final ↔
        (∀ turn ∈ turns, turn.written ≠ .accepted 0) ∧ ToldAtEnd length turns)) := by
  have exact := exactlyOnce_iff (after_start length) ran
  rw [left_told_iff rfl ran, Nat.zero_add, ← ToldAtEnd] at exact
  refine ⟨exact, fun ended => exact.trans (and_congr_left fun told => ⟨fun harmless => ?_, ?_⟩)⟩
  · refine (zero_of_ended (after_start length) (absurd rfl) harmless ran ended fun left => ?_).2
    rw [Nat.zero_add]
    exact told ((left_told_iff rfl ran).mp left)
  · intro none
    apply harmless_of_no_zero
    intro written membership
    obtain ⟨turn, given, rfl⟩ := List.mem_map.mp membership
    exact none turn given

/-- A chunk of three bytes goes out in two parts, with an interruption between them. -/
theorem output_exactly_once_two_parts :
    ExactlyOnce 3 [(⟨.accepted 1, false⟩, [⟨0, 3⟩]), (⟨.failed eintr, false⟩, [⟨1, 2⟩]),
      (⟨.accepted 2, false⟩, [⟨1, 2⟩])] ⟨⟨3, 0⟩, [0, 1, 2], none⟩ :=
  ((output_exactly_once_iff 3 [⟨.accepted 1, false⟩, ⟨.failed eintr, false⟩, ⟨.accepted 2, false⟩]
    _ _ (by rfl)).2 (by simp [Writing.Ended])).mpr (by simp [ToldAtEnd])

/-- With a zero between them, the first byte goes out twice; and the thread may be told to end
before all have gone out. -/
theorem zero_write_repeats_byte :
    (∃ final trace, writeMachine.run (.start 3)
        [⟨.accepted 1, false⟩, ⟨.accepted 0, false⟩, ⟨.accepted 3, false⟩] = some (final, trace) ∧
      final.Ended ∧ final.accepted = [0, 0, 1, 2] ∧ ¬ ExactlyOnce 3 trace final) ∧
    ∃ final trace, writeMachine.run (.start 3) [⟨.accepted 1, true⟩] = some (final, trace) ∧
      final.Ended ∧ final.accepted = [0] ∧ ¬ ExactlyOnce 3 trace final := by
  constructor
  · refine ⟨⟨⟨3, 0⟩, [0, 0, 1, 2], none⟩, _, rfl, .inl ⟨rfl, by decide⟩, rfl, fun exact => ?_⟩
    have whole := exact.whole (.inl ⟨rfl, by decide⟩)
    exact absurd (congrArg List.length whole) (by decide)
  · refine ⟨⟨⟨0, 3⟩, [0], some (.ok true)⟩, _, rfl, .inr rfl, rfl, fun exact => ?_⟩
    have whole := exact.whole (.inr rfl)
    exact absurd (congrArg List.length whole) (by decide)

end AAServer

end AACS
