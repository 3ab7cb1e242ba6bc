import AACS.Library.History
import AACS.Library.Transitions
import Mathlib.Data.List.Induction
import Mathlib.Logic.Function.Basic

/-!
Threads that go through phases, each with a request and one flag for its answer.

In every phase a thread resets the flag, sends its request and waits until the flag is set. The
flags belong to all threads together, so an answer that comes between a reset and the request
after it can pass for the answer to this request.
-/

namespace Phases

open History Transitions

inductive Stage (Kind : Type) where
  | outside
  | resetting (kind : Kind)
  | sending (kind : Kind)
  | waiting (kind : Kind)

structure State (Thread Kind : Type) where
  flag : Kind → Bool
  stage : Thread → Stage Kind

inductive Note (Thread Kind : Type) where
  | called (thread : Thread)
  | sent (thread : Thread) (kind : Kind)
  | answered (kind : Kind)
  | passed (thread : Thread) (kind : Kind)
  deriving DecidableEq, Repr

variable {Thread Kind : Type}

/-- In the current call the thread has sent its request, and after that an answer has come. -/
def Own (thread : Thread) (kind : Kind) (log : List (Note Thread Kind)) : Prop :=
  Since (· = .sent thread kind) (· = .called thread) log ∧
    Since (· = .answered kind) (· = .sent thread kind) log

/-- Who passes a phase, and who sends the request of the phase behind it, has its own answer;
`before` is the phase in front of a phase. -/
structure OwnAnswers (before : Kind → Option Kind) (log : List (Note Thread Kind)) : Prop where
  passes : ∀ {earlier thread kind later}, log = earlier ++ .passed thread kind :: later →
    Own thread kind earlier
  sends : ∀ {earlier thread kind later passed}, log = earlier ++ .sent thread kind :: later →
    before kind = some passed → Own thread passed earlier

def Stage.After (before : Kind → Option Kind) (kind : Kind) : Stage Kind → Prop
  | .outside => True
  | .resetting later => before later = some kind
  | .sending _ | .waiting _ => False

section Steps

variable [DecidableEq Thread] [DecidableEq Kind]

def State.move (state : State Thread Kind) (thread : Thread) (stage : Stage Kind) :
    State Thread Kind :=
  { state with stage := Function.update state.stage thread stage }

def State.set (state : State Thread Kind) (kind : Kind) (flag : Bool) : State Thread Kind :=
  { state with flag := Function.update state.flag kind flag }

inductive Step (before : Kind → Option Kind) (state : State Thread Kind) :
    List (Note Thread Kind) → State Thread Kind → Prop
  | call (thread : Thread) (kind : Kind) (first : before kind = none) :
      Step before state [.called thread] (state.move thread (.resetting kind))
  | reset (thread : Thread) (kind : Kind) (there : state.stage thread = .resetting kind) :
      Step before state [] ((state.move thread (.sending kind)).set kind false)
  | send (thread : Thread) (kind : Kind) (there : state.stage thread = .sending kind) :
      Step before state [.sent thread kind] (state.move thread (.waiting kind))
  | leave (thread : Thread) : Step before state [] (state.move thread .outside)
  | pass (thread : Thread) (kind : Kind) (stage : Stage Kind)
      (there : state.stage thread = .waiting kind) (set : state.flag kind = true)
      (next : stage.After before kind) :
      Step before state [.passed thread kind] (state.move thread stage)
  | answer (kind : Kind) : Step before state [.answered kind] (state.set kind true)
  | stay : Step before state [] state

structure Stage.Told (before : Kind → Option Kind) (flag : Kind → Bool) (thread : Thread)
    (log : List (Note Thread Kind)) (stage : Stage Kind) : Prop where
  sent : ∀ {kind}, stage = .waiting kind → Since (· = .sent thread kind) (· = .called thread) log
  heard : ∀ {kind}, stage = .waiting kind → flag kind = true →
    Since (· = .answered kind) (· = .sent thread kind) log
  behind : ∀ {kind passed}, stage = .resetting kind ∨ stage = .sending kind →
    before kind = some passed → Own thread passed log

structure State.Sound (before : Kind → Option Kind) (state : State Thread Kind)
    (log : List (Note Thread Kind)) : Prop where
  told : ∀ thread, (state.stage thread).Told before state.flag thread log
  own : OwnAnswers before log

end Steps

section Logs

variable {before : Kind → Option Kind} {log : List (Note Thread Kind)} {note : Note Thread Kind}
  {thread : Thread} {kind : Kind} {flag : Kind → Bool} {stage : Stage Kind}

theorem Own.concat (own : Own thread kind log) (calls : note ≠ .called thread)
    (sends : note ≠ .sent thread kind) : Own thread kind (log ++ [note]) :=
  ⟨since_concat.mpr (.inr ⟨own.1, calls⟩), since_concat.mpr (.inr ⟨own.2, sends⟩)⟩

theorem not_own_sent {others : List (Note Thread Kind)} (silent : .answered kind ∉ others) :
    ¬ Own thread kind (log ++ .sent thread kind :: others) := by
  rintro ⟨-, answered⟩
  induction others using List.reverseRecOn with
  | nil =>
      rcases since_concat.mp answered with same | ⟨-, later⟩
      · cases same
      · exact later rfl
  | append_singleton front last inductionHypothesis =>
      rw [← List.cons_append, ← List.append_assoc] at answered
      rcases since_concat.mp answered with same | ⟨earlier, -⟩
      · exact silent (by simp [same])
      · exact inductionHypothesis (fun heard => silent (by simp [heard])) earlier

theorem OwnAnswers.concat (answers : OwnAnswers before log)
    (passes : ∀ thread kind, note = .passed thread kind → Own thread kind log)
    (sends : ∀ thread kind passed, note = .sent thread kind → before kind = some passed →
      Own thread passed log) : OwnAnswers before (log ++ [note]) := by
  constructor
  · intro earlier thread kind later split
    rcases concat_eq_split.mp split with ⟨rfl, same, -⟩ | ⟨front, -, split⟩
    · exact passes thread kind same
    · exact answers.passes split
  · intro earlier thread kind later passed split phase
    rcases concat_eq_split.mp split with ⟨rfl, same, -⟩ | ⟨front, -, split⟩
    · exact sends thread kind passed same phase
    · exact answers.sends split phase

theorem ownAnswers_nil : OwnAnswers before ([] : List (Note Thread Kind)) := by
  constructor
  · intro earlier thread kind later split
    simp at split
  · intro earlier thread kind later passed split phase
    simp at split

theorem Stage.Told.concat (told : stage.Told before flag thread log)
    (calls : note ≠ .called thread) (sends : ∀ kind, note ≠ .sent thread kind) :
    stage.Told before flag thread (log ++ [note]) where
  sent waits := since_concat.mpr (.inr ⟨told.sent waits, calls⟩)
  heard waits set := since_concat.mpr (.inr ⟨told.heard waits set, sends _⟩)
  behind there phase := (told.behind there phase).concat calls (sends _)

theorem told_of_not_waiting (awake : ∀ kind, stage ≠ .waiting kind)
    (behind : ∀ {kind passed}, stage = .resetting kind ∨ stage = .sending kind →
      before kind = some passed → Own thread passed log) : stage.Told before flag thread log where
  sent waits := absurd waits (awake _)
  heard waits := absurd waits (awake _)
  behind := behind

theorem told_outside : Stage.outside.Told before flag thread log := by
  apply told_of_not_waiting (by simp)
  rintro kind passed (there | there)
  · cases there
  · cases there

theorem told_resetting (own : ∀ passed, before kind = some passed → Own thread passed log) :
    (Stage.resetting kind).Told before flag thread log := by
  apply told_of_not_waiting (by simp)
  rintro other passed (there | there) phase
  · cases there
    exact own passed phase
  · cases there

theorem told_sending (own : ∀ passed, before kind = some passed → Own thread passed log) :
    (Stage.sending kind).Told before flag thread log := by
  apply told_of_not_waiting (by simp)
  rintro other passed (there | there) phase
  · cases there
  · cases there
    exact own passed phase

theorem told_sent (unset : flag kind = false) :
    (Stage.waiting kind).Told before flag thread (log ++ [.sent thread kind]) := by
  constructor
  · intro awaited waits
    cases waits
    exact since_concat.mpr (.inl rfl)
  · intro awaited waits set
    cases waits
    rw [unset] at set
    cases set
  · rintro other passed (there | there)
    · cases there
    · cases there

theorem Stage.Told.lower [DecidableEq Kind] (told : stage.Told before flag thread log)
    (kind : Kind) : stage.Told before (Function.update flag kind false) thread log where
  sent := told.sent
  heard {awaited} waits set := by
    by_cases same : awaited = kind
    · subst same
      rw [Function.update_self] at set
      cases set
    · rw [Function.update_of_ne same] at set
      exact told.heard waits set
  behind := told.behind

theorem Stage.Told.answer [DecidableEq Kind] (told : stage.Told before flag thread log)
    (kind : Kind) :
    stage.Told before (Function.update flag kind true) thread (log ++ [.answered kind]) where
  sent waits := since_concat.mpr (.inr ⟨told.sent waits, by simp⟩)
  heard {awaited} waits set := by
    by_cases same : awaited = kind
    · subst same
      exact since_concat.mpr (.inl rfl)
    · rw [Function.update_of_ne same] at set
      exact since_concat.mpr (.inr ⟨told.heard waits set, by simp⟩)
  behind there phase := (told.behind there phase).concat (by simp) (by simp)

theorem sound_outside {state : State Thread Kind}
    (outside : ∀ thread, state.stage thread = .outside) : state.Sound before [] where
  told thread := by
    rw [outside thread]
    exact told_outside
  own := ownAnswers_nil

end Logs

section Moves

variable {before : Kind → Option Kind} {state : State Thread Kind} {log : List (Note Thread Kind)}
  {thread : Thread} {stage : Stage Kind}

theorem told_move [DecidableEq Thread] {flag : Kind → Bool}
    (others : ∀ other, other ≠ thread → (state.stage other).Told before flag other log)
    (mine : stage.Told before flag thread log) (other : Thread) :
    ((state.move thread stage).stage other).Told before flag other log := by
  by_cases same : other = thread
  · subst same
    have moved : (state.move other stage).stage other = stage := Function.update_self ..
    rw [moved]
    exact mine
  · have stays : (state.move thread stage).stage other = state.stage other :=
      Function.update_of_ne same ..
    rw [stays]
    exact others other same

end Moves

section Invariant

variable [DecidableEq Thread] [DecidableEq Kind] {before : Kind → Option Kind}
  {state next : State Thread Kind} {log notes : List (Note Thread Kind)}

theorem Step.sending {thread : Thread} {kind : Kind} (step : Step before state notes next)
    (sent : .sent thread kind ∈ notes) : state.stage thread = .sending kind := by
  cases step with
  | send actor asked there =>
      cases List.mem_singleton.mp sent
      exact there
  | call | pass | answer => cases List.mem_singleton.mp sent
  | reset | leave | stay => cases sent

theorem Step.sound (step : Step before state notes next) (sound : state.Sound before log)
    (unset : ∀ thread kind, .sent thread kind ∈ notes → state.flag kind = false) :
    next.Sound before (log ++ notes) := by
  cases step with
  | call actor kind first =>
      refine ⟨told_move (fun other different => (sound.told other).concat ?_ (by simp)) ?_,
        sound.own.concat (by simp) (by simp)⟩
      · simpa using different.symm
      · apply told_resetting
        intro passed phase
        rw [first] at phase
        cases phase
  | reset actor kind there =>
      rw [List.append_nil]
      refine ⟨told_move (fun other _ => (sound.told other).lower kind) (told_sending ?_),
        sound.own⟩
      intro passed phase
      exact (sound.told actor).behind (.inl there) phase
  | send actor kind there =>
      refine ⟨told_move (fun other different => (sound.told other).concat (by simp) ?_)
        (told_sent (unset actor kind List.mem_cons_self)), sound.own.concat (by simp) ?_⟩
      · intro kind same
        cases same
        exact different rfl
      · intro thread other passed same phase
        cases same
        exact (sound.told actor).behind (.inr there) phase
  | leave actor =>
      rw [List.append_nil]
      exact ⟨told_move (fun other _ => sound.told other) told_outside, sound.own⟩
  | pass actor kind stage there set after =>
      have own : Own actor kind log := ⟨(sound.told actor).sent there,
        (sound.told actor).heard there set⟩
      refine ⟨told_move (fun other _ => (sound.told other).concat (by simp) (by simp)) ?_,
        sound.own.concat ?_ (by simp)⟩
      · cases stage with
        | outside => exact told_outside
        | resetting later =>
            apply told_resetting
            intro passed phase
            obtain rfl : kind = passed := Option.some.inj (after.symm.trans phase)
            exact own.concat (by simp) (by simp)
        | sending | waiting => exact after.elim
      · intro thread other same
        cases same
        exact own
  | answer kind =>
      exact ⟨fun thread => (sound.told thread).answer kind, sound.own.concat (by simp) (by simp)⟩
  | stay =>
      rw [List.append_nil]
      exact sound

/-- In a run of a machine whose steps are such steps everybody has its own answers, when
nobody sends a request while the flag for its answer is set. -/
theorem run_ownAnswers {Current Event Output : Type} {machine : Machine Current Event Output}
    {invariant : Current → Prop} {condition : Current → Event → Prop}
    {view : Current → State Thread Kind}
    {observe : Current → Event → List Output → List (Note Thread Kind)}
    (refines : ∀ {current event after outputs}, invariant current →
      machine.step current event = some (after, outputs) →
      invariant after ∧ Step before (view current) (observe current event outputs) (view after))
    (unset : ∀ {current event outputs thread kind}, condition current event →
      (view current).stage thread = .sending kind →
      .sent thread kind ∈ observe current event outputs → (view current).flag kind = false)
    {start final : Current} {events : List Event} {trace : List (Event × List Output)}
    (holds : invariant start) (outside : ∀ thread, (view start).stage thread = .outside)
    (within : machine.Within condition start events)
    (ran : machine.run start events = some (final, trace)) :
    OwnAnswers before (machine.observations observe start events) := by
  have kept : ∀ {current log event after outputs},
      invariant current ∧ (view current).Sound before log → condition current event →
      machine.step current event = some (after, outputs) →
      invariant after ∧ (view after).Sound before (log ++ observe current event outputs) := by
    intro current log event after outputs both permitted took
    obtain ⟨keeps, step⟩ := refines both.1 took
    exact ⟨keeps, step.sound both.2 fun thread kind sent =>
      unset permitted (step.sending sent) sent⟩
  exact (@Machine.run_observed _ _ _ machine _ observe
    (fun current log => invariant current ∧ (view current).Sound before log) condition kept start
    final [] events trace ⟨holds, sound_outside outside⟩ within ran).2.own

end Invariant

end Phases
