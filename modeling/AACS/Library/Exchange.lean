import Mathlib.Logic.Function.Basic
import AACS.Library.Transitions

/-!
Requests and answers over one flag.

Threads send requests and wait until a flag says that an answer has come. There is one
flag for all of them, and each resets it before it sends. Who takes an answer sets the flag
and wakes those who sleep afterwards. A reset can hide an answer from a thread that waits
for it, but then another request is under way, or about to be sent.
-/

namespace Exchange

open Transitions

/-- Where a thread is with its request. -/
inductive Place where
  | elsewhere
  /-- It has reset the flag and not sent its request yet. -/
  | sending
  /-- It looks at the flag next. -/
  | testing
  | asleep
  deriving DecidableEq, Repr

def Place.Waits : Place → Prop
  | .testing | .asleep => True
  | .elsewhere | .sending => False

def Place.woken : Place → Place
  | .asleep => .testing
  | place => place

structure State (Thread : Type) where
  flag : Bool
  unanswered : Nat
  /-- An answer has been taken, and those who sleep have not been woken since. -/
  notifying : Bool
  place : Thread → Place

variable {Thread : Type}

section Steps

variable [DecidableEq Thread]

def State.move (state : State Thread) (thread : Thread) (place : Place) : State Thread :=
  { state with place := Function.update state.place thread place }

/-- The threads and whoever takes the answers go on in any order; a thread may wake up for
no reason. -/
inductive Step (state : State Thread) : State Thread → Prop
  | reset (thread : Thread) (elsewhere : state.place thread = .elsewhere) :
      Step state { state.move thread .sending with flag := false }
  | send (thread : Thread) (sending : state.place thread = .sending) :
      Step state { state.move thread .testing with unanswered := state.unanswered + 1 }
  | pass (thread : Thread) (testing : state.place thread = .testing) (set : state.flag = true) :
      Step state (state.move thread .elsewhere)
  | sleep (thread : Thread) (testing : state.place thread = .testing)
      (unset : state.flag = false) : Step state (state.move thread .asleep)
  | wake (thread : Thread) (asleep : state.place thread = .asleep) :
      Step state (state.move thread .testing)
  | answer (asked : 0 < state.unanswered) :
      Step state { state with
        flag := true
        unanswered := state.unanswered - 1
        notifying := true }
  /-- Those who sleep are going to be woken for something else. -/
  | alert : Step state { state with notifying := true }
  | notify :
      Step state { state with
        notifying := false
        place := fun thread => (state.place thread).woken }

end Steps

/-- A request is under way, or about to be. -/
def State.Pending (state : State Thread) : Prop :=
  0 < state.unanswered ∨ ∃ thread, state.place thread = .sending

/-- No answer is lost, and no wake-up. -/
structure State.Sound (state : State Thread) : Prop where
  answer : ∀ thread, (state.place thread).Waits → state.flag = false → state.Pending
  wakeup : ∀ thread, state.place thread = .asleep → state.flag = true → state.notifying = true

variable {state next : State Thread} {thread : Thread}

theorem sound_of_elsewhere (elsewhere : ∀ thread, state.place thread = .elsewhere) :
    state.Sound where
  answer thread waits := by
    rw [elsewhere thread] at waits
    exact waits.elim
  wakeup thread asleep := by
    rw [elsewhere thread] at asleep
    cases asleep

theorem waits_woken (place : Place) : place.woken.Waits ↔ place.Waits := by
  cases place <;> rfl

theorem woken_ne_asleep (place : Place) : place.woken ≠ .asleep := by
  cases place <;> simp [Place.woken]

section Invariant

variable [DecidableEq Thread]

theorem move_place_self (place : Place) : (state.move thread place).place thread = place :=
  Function.update_self ..

theorem move_place_of_ne {other : Thread} (different : other ≠ thread) (place : Place) :
    (state.move thread place).place other = state.place other :=
  Function.update_of_ne different ..

theorem State.Pending.move (pending : state.Pending) (place : Place)
    (before : state.place thread ≠ .sending) : (state.move thread place).Pending := by
  rcases pending with asked | ⟨other, sending⟩
  · exact .inl asked
  · have different : other ≠ thread := by
      rintro rfl
      exact before sending
    exact .inr ⟨other, (move_place_of_ne different place).trans sending⟩

theorem asleep_before {other : Thread} {place : Place} (awake : place ≠ .asleep)
    (asleep : (state.move thread place).place other = .asleep) : state.place other = .asleep := by
  by_cases same : other = thread
  · subst same
    rw [move_place_self] at asleep
    exact absurd asleep awake
  · exact (move_place_of_ne same place).symm.trans asleep

theorem Step.sound (step : Step state next) (sound : state.Sound) : next.Sound := by
  cases step with
  | reset actor elsewhere =>
      refine ⟨fun _ _ _ => .inr ⟨actor, move_place_self _⟩, fun _ _ set => ?_⟩
      cases set
  | send actor sending =>
      exact ⟨fun _ _ _ => .inl (Nat.succ_pos _), fun thread asleep set =>
        sound.wakeup thread (asleep_before (by simp) asleep) set⟩
  | pass actor testing set =>
      refine ⟨fun _ _ unset => ?_, fun thread asleep _ =>
        sound.wakeup thread (asleep_before (by simp) asleep) set⟩
      cases set.symm.trans unset
  | sleep actor testing unset =>
      have waits : (state.place actor).Waits := by rw [testing]; trivial
      refine ⟨fun _ _ _ => (sound.answer actor waits unset).move _ (by simp [testing]),
        fun _ _ set => ?_⟩
      cases unset.symm.trans set
  | wake actor asleep =>
      have waits : (state.place actor).Waits := by rw [asleep]; trivial
      exact ⟨fun _ _ unset => (sound.answer actor waits unset).move _ (by simp [asleep]),
        fun _ _ set => sound.wakeup actor asleep set⟩
  | answer asked =>
      refine ⟨fun _ _ unset => ?_, fun _ _ _ => rfl⟩
      cases unset
  | alert => exact ⟨sound.answer, fun _ _ _ => rfl⟩
  | notify =>
      refine ⟨fun thread waits unset => ?_, fun thread asleep => ?_⟩
      · rcases sound.answer thread ((waits_woken _).mp waits) unset with asked | ⟨other, sending⟩
        · exact .inl asked
        · exact .inr ⟨other, by simp [sending, Place.woken]⟩
      · exact absurd asleep (woken_ne_asleep _)

end Invariant

def State.Blocked (state : State Thread) (thread : Thread) : Prop :=
  (state.place thread).Waits ∧
    (state.flag = false ∨ state.place thread = .asleep ∧ state.notifying = false)

theorem State.Sound.not_blocked (sound : state.Sound) (settled : ¬ state.Pending)
    (thread : Thread) : ¬ state.Blocked thread := by
  rintro ⟨waits, unset | ⟨asleep, quiet⟩⟩
  · exact settled (sound.answer thread waits unset)
  · cases set : state.flag with
    | false => exact settled (sound.answer thread waits set)
    | true =>
        have notifying := sound.wakeup thread asleep set
        rw [quiet] at notifying
        cases notifying

/-- A machine whose steps are such steps, or not seen at all, loses nothing in any run. -/
theorem run_sound [DecidableEq Thread] {Current Event Output : Type}
    {machine : Machine Current Event Output}
    {invariant : Current → Prop} {exchange : Current → State Thread}
    (refines : ∀ {current event after outputs}, invariant current →
      machine.step current event = some (after, outputs) →
      invariant after ∧
        (exchange after = exchange current ∨ Step (exchange current) (exchange after)))
    {start final : Current} {events : List Event} {trace : List (Event × List Output)}
    (holds : invariant start) (sound : (exchange start).Sound)
    (ran : machine.run start events = some (final, trace)) :
    invariant final ∧ (exchange final).Sound := by
  have kept : ∀ {current event after outputs}, invariant current ∧ (exchange current).Sound →
      machine.step current event = some (after, outputs) →
      invariant after ∧ (exchange after).Sound := by
    intro current event after outputs both took
    obtain ⟨keeps, same | step⟩ := refines both.1 took
    · exact ⟨keeps, same ▸ both.2⟩
    · exact ⟨keeps, step.sound both.2⟩
  exact machine.run_keeps kept ⟨holds, sound⟩ ran

end Exchange
