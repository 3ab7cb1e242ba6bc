import Mathlib.Order.Defs.Unbundled

/-!
Computations with a state, an output log and exceptions.

An `Act` is the shape of a member function of an object-oriented program: it
reads and writes a state, performs outputs and may throw.  State changes and
outputs made before a throw are kept, since nothing rolls them back.

`Preserves`, `Emits`, `Returns` and `Throws` are the frame rules: what a whole
computation does to the state, to the outside and to its caller follows from what
its parts do.
-/

namespace Effects

variable {σ ω ε α β : Type}

structure Outcome (σ ω ε α : Type) where
  result : Except ε α
  state : σ
  log : List ω

/-- A computation over states `σ` with outputs `ω` and exceptions `ε`. -/
structure Act (σ ω ε α : Type) where
  run : σ → Outcome σ ω ε α

/-- Continue a finished run, or keep its exception. -/
def Outcome.andThen (first : Outcome σ ω ε α) (next : α → Act σ ω ε β) :
    Outcome σ ω ε β :=
  match first.result with
  | .ok value =>
      let second := (next value).run first.state
      ⟨second.result, second.state, first.log ++ second.log⟩
  | .error thrown => ⟨.error thrown, first.state, first.log⟩

namespace Act

instance : Monad (Act σ ω ε) where
  pure value := ⟨fun state => ⟨.ok value, state, []⟩⟩
  bind first next := ⟨fun state => (first.run state).andThen next⟩

def get : Act σ ω ε σ := ⟨fun state => ⟨.ok state, state, []⟩⟩

def modify (update : σ → σ) : Act σ ω ε Unit := ⟨fun state => ⟨.ok (), update state, []⟩⟩

def emit (output : ω) : Act σ ω ε Unit := ⟨fun state => ⟨.ok (), state, [output]⟩⟩

def throw (thrown : ε) : Act σ ω ε α := ⟨fun state => ⟨.error thrown, state, []⟩⟩

/-- Run `handler` on the exceptions that `caught` selects; the others pass. -/
def tryCatch (body : Act σ ω ε α) (caught : ε → Bool) (handler : ε → Act σ ω ε α) :
    Act σ ω ε α :=
  ⟨fun state =>
    let first := body.run state
    match first.result with
    | .ok _ => first
    | .error thrown =>
        if caught thrown then
          let second := (handler thrown).run first.state
          ⟨second.result, second.state, first.log ++ second.log⟩
        else
          first⟩

@[simp] theorem run_pure (value : α) (state : σ) :
    (pure value : Act σ ω ε α).run state = ⟨.ok value, state, []⟩ := rfl

@[simp] theorem run_bind (first : Act σ ω ε α) (next : α → Act σ ω ε β) (state : σ) :
    (first >>= next).run state = (first.run state).andThen next := rfl

@[simp] theorem run_get (state : σ) :
    (get : Act σ ω ε σ).run state = ⟨.ok state, state, []⟩ := rfl

@[simp] theorem run_modify (update : σ → σ) (state : σ) :
    (modify update : Act σ ω ε Unit).run state = ⟨.ok (), update state, []⟩ := rfl

@[simp] theorem run_emit (output : ω) (state : σ) :
    (emit output : Act σ ω ε Unit).run state = ⟨.ok (), state, [output]⟩ := rfl

@[simp] theorem run_throw (thrown : ε) (state : σ) :
    (throw thrown : Act σ ω ε α).run state = ⟨.error thrown, state, []⟩ := rfl

@[simp] theorem andThen_ok (value : α) (state : σ) (log : List ω) (next : α → Act σ ω ε β) :
    (⟨.ok value, state, log⟩ : Outcome σ ω ε α).andThen next =
      ⟨((next value).run state).result, ((next value).run state).state,
        log ++ ((next value).run state).log⟩ := rfl

@[simp] theorem andThen_error (thrown : ε) (state : σ) (log : List ω)
    (next : α → Act σ ω ε β) :
    (⟨.error thrown, state, log⟩ : Outcome σ ω ε α).andThen next =
      ⟨.error thrown, state, log⟩ := rfl

theorem result_bind_error {first : Act σ ω ε α} {thrown : ε} {state : σ}
    (failed : (first.run state).result = .error thrown) (next : α → Act σ ω ε β) :
    ((first >>= next).run state).result = .error thrown := by
  rw [run_bind, Outcome.andThen, failed]

theorem run_bind_eq_ok {first : Act σ ω ε α} {next : α → Act σ ω ε β} {state final : σ} {value : β}
    {log : List ω} :
    (first >>= next).run state = ⟨.ok value, final, log⟩ ↔
      ∃ between middle here later, first.run state = ⟨.ok between, middle, here⟩ ∧
        (next between).run middle = ⟨.ok value, final, later⟩ ∧ here ++ later = log := by
  rw [run_bind]
  rcases first.run state with ⟨result, middle, here⟩
  cases result with
  | error thrown => simp
  | ok between =>
      rcases after : (next between).run middle with ⟨result, last, later⟩
      simp [after, and_assoc, eq_comm]

theorem log_bind_pure (first : Act σ ω ε α) (value : α → β) (state : σ) :
    ((first >>= fun result => pure (value result)).run state).log = (first.run state).log := by
  rw [run_bind, Outcome.andThen]
  split
  · exact List.append_nil _
  · rfl

@[simp] theorem run_forM_nil (body : α → Act σ ω ε PUnit) (state : σ) :
    (([] : List α).forM body).run state = ⟨.ok ⟨⟩, state, []⟩ := rfl

@[simp] theorem run_forM_cons (value : α) (rest : List α) (body : α → Act σ ω ε PUnit)
    (state : σ) :
    ((value :: rest).forM body).run state =
      ((body value).run state).andThen fun _ => rest.forM body := rfl

theorem run_forM_logs {values : List α} {body : α → Act σ ω ε PUnit} {logs : α → List ω} {state : σ}
    (each : ∀ value ∈ values, (body value).run state = ⟨.ok ⟨⟩, state, logs value⟩) :
    (values.forM body).run state = ⟨.ok ⟨⟩, state, values.flatMap logs⟩ := by
  induction values with
  | nil => rfl
  | cons value rest inductionHypothesis =>
      obtain ⟨here, later⟩ := List.forall_mem_cons.mp each
      rw [run_forM_cons, here, andThen_ok, inductionHypothesis later]
      rfl

theorem run_forM_emits {values : List α} {body : α → Act σ ω ε PUnit} {put : α → ω} {state : σ}
    (each : ∀ value ∈ values, (body value).run state = ⟨.ok ⟨⟩, state, [put value]⟩) :
    (values.forM body).run state = ⟨.ok ⟨⟩, state, values.map put⟩ := by
  rw [run_forM_logs each, List.map_eq_flatMap]

theorem run_forM_updates {values : List α} {body : α → Act σ ω ε PUnit} {update : σ → α → σ}
    {state : σ}
    (each : ∀ value ∈ values, ∀ state, (body value).run state = ⟨.ok ⟨⟩, update state value, []⟩) :
    (values.forM body).run state = ⟨.ok ⟨⟩, values.foldl update state, []⟩ := by
  induction values generalizing state with
  | nil => rfl
  | cons value rest inductionHypothesis =>
      obtain ⟨here, later⟩ := List.forall_mem_cons.mp each
      rw [run_forM_cons, here, andThen_ok, inductionHypothesis later]
      rfl

/-- What no update touches stays as it was. -/
theorem foldl_keeps (update : σ → α → σ) (field : σ → β)
    (keeps : ∀ state value, field (update state value) = field state) (values : List α)
    (state : σ) : field (values.foldl update state) = field state := by
  induction values generalizing state with
  | nil => rfl
  | cons value rest inductionHypothesis =>
      exact (inductionHypothesis _).trans (keeps state value)

/-- A loop whose turns only change the state, up to the first one that fails. -/
theorem run_forM_upTo {values : List α} {body : α → Act σ ω ε PUnit} {passes : α → Bool}
    {update refuse : σ → α → σ} {failure : ε} {state : σ}
    (each : ∀ value ∈ values.takeWhile passes, ∀ state,
      (body value).run state = ⟨.ok ⟨⟩, update state value, []⟩)
    (failing : ∀ value, passes value = false → ∀ state,
      (body value).run state = ⟨.error failure, refuse state value, []⟩) :
    (values.forM body).run state =
      match values.find? fun value => !passes value with
      | none => ⟨.ok ⟨⟩, (values.takeWhile passes).foldl update state, []⟩
      | some value =>
          ⟨.error failure, refuse ((values.takeWhile passes).foldl update state) value, []⟩ := by
  induction values generalizing state with
  | nil => rfl
  | cons value rest inductionHypothesis =>
      rw [run_forM_cons]
      cases passed : passes value with
      | false =>
          rw [failing value passed, andThen_error, List.find?_cons_of_pos (by simp [passed]),
            List.takeWhile_cons_of_neg (by simp [passed])]
          rfl
      | true =>
          rw [List.takeWhile_cons_of_pos passed] at each ⊢
          obtain ⟨here, later⟩ := List.forall_mem_cons.mp each
          rw [here, andThen_ok, inductionHypothesis later,
            List.find?_cons_of_neg (by simp [passed])]
          split <;> rfl

theorem result_forM_append {first second : List α} {body : α → Act σ ω ε PUnit} {thrown : ε}
    {state : σ} (failed : ((first.forM body).run state).result = .error thrown) :
    (((first ++ second).forM body).run state).result = .error thrown := by
  induction first generalizing state with
  | nil => cases failed
  | cons value rest inductionHypothesis =>
      rw [List.cons_append, run_forM_cons]
      rw [run_forM_cons] at failed
      rcases turn : (body value).run state with ⟨thrown | ⟨⟨⟩⟩, after, log⟩
      · rw [turn] at failed
        exact failed
      · rw [turn, andThen_ok] at failed
        rw [andThen_ok]
        exact inductionHypothesis failed

/-- A loop with a turn that fails, whatever the state, when the others do not. -/
theorem run_forM_fails {values : List α} {body : α → Act σ ω ε PUnit} {passes : α → Prop}
    {failure : ε} {state : σ}
    (others : ∀ value ∈ values, passes value → ∀ state, ((body value).run state).result = .ok ⟨⟩)
    (failing : ∀ value ∈ values, ¬ passes value → ∀ state,
      ((body value).run state).result = .error failure)
    (one : ∃ value ∈ values, ¬ passes value) :
    ((values.forM body).run state).result = .error failure := by
  induction values generalizing state with
  | nil => simp at one
  | cons value rest inductionHypothesis =>
      rw [run_forM_cons]
      obtain ⟨passing, others⟩ := List.forall_mem_cons.mp others
      obtain ⟨breaking, failing⟩ := List.forall_mem_cons.mp failing
      rcases turn : (body value).run state with ⟨thrown | ⟨⟨⟩⟩, after, log⟩
      · by_cases passed : passes value
        · have ended := passing passed state
          rw [turn] at ended
          cases ended
        · have ended := breaking passed state
          rw [turn] at ended
          exact ended
      · have passed : passes value := Classical.byContradiction fun fails => by
          have ended := breaking fails state
          rw [turn] at ended
          cases ended
        obtain ⟨other, membership, fails⟩ := one
        rcases List.mem_cons.mp membership with rfl | later
        · exact absurd passed fails
        · rw [andThen_ok]
          exact inductionHypothesis others failing ⟨other, later, fails⟩

/-- In a loop that ends well every turn has ended well, and what it put out is there. -/
theorem turn_of_forM {values : List α} {body : α → Act σ ω ε PUnit} {state : σ}
    (ends : ((values.forM body).run state).result = .ok ⟨⟩) {value : α}
    (membership : value ∈ values) :
    ∃ before, ((body value).run before).result = .ok ⟨⟩ ∧
      ∀ output ∈ ((body value).run before).log, output ∈ ((values.forM body).run state).log := by
  induction values generalizing state with
  | nil => cases membership
  | cons first rest inductionHypothesis =>
      rw [run_forM_cons] at ends ⊢
      rcases turn : (body first).run state with ⟨thrown | ⟨⟨⟩⟩, after, log⟩
      · rw [turn] at ends
        cases ends
      · rw [turn, andThen_ok] at ends
        rw [andThen_ok]
        rcases List.mem_cons.mp membership with rfl | later
        · refine ⟨state, by rw [turn], fun output inside => ?_⟩
          rw [turn] at inside
          exact List.mem_append_left _ inside
        · obtain ⟨before, ended, kept⟩ := inductionHypothesis ends later
          exact ⟨before, ended, fun output inside => List.mem_append_right _ (kept output inside)⟩

/-- Every run relates the state before to the state after. -/
def Preserves (frame : σ → σ → Prop) (body : Act σ ω ε α) : Prop :=
  ∀ state, frame state (body.run state).state

def Emits (allowed : ω → Prop) (body : Act σ ω ε α) : Prop :=
  ∀ state, ∀ output ∈ (body.run state).log, allowed output

def Returns (allowed : α → Prop) (body : Act σ ω ε α) : Prop :=
  ∀ state value, (body.run state).result = .ok value → allowed value

def Throws (allowed : ε → Prop) (body : Act σ ω ε α) : Prop :=
  ∀ state thrown, (body.run state).result = .error thrown → allowed thrown

section Frames

variable {frame : σ → σ → Prop}

theorem Preserves.of_eq [Std.Refl frame] {body : Act σ ω ε α}
    (unchanged : ∀ state, (body.run state).state = state) : body.Preserves frame :=
  fun state => (unchanged state).symm ▸ refl state

theorem Preserves.pure [Std.Refl frame] (value : α) :
    (Pure.pure value : Act σ ω ε α).Preserves frame := .of_eq fun _ => rfl

theorem Preserves.get [Std.Refl frame] : (Act.get : Act σ ω ε σ).Preserves frame :=
  .of_eq fun _ => rfl

theorem Preserves.emit [Std.Refl frame] (output : ω) :
    (Act.emit output : Act σ ω ε Unit).Preserves frame := .of_eq fun _ => rfl

theorem Preserves.throw [Std.Refl frame] (thrown : ε) :
    (Act.throw thrown : Act σ ω ε α).Preserves frame := .of_eq fun _ => rfl

theorem Preserves.modify {update : σ → σ} (framed : ∀ state, frame state (update state)) :
    (Act.modify update : Act σ ω ε Unit).Preserves frame := framed

theorem Preserves.bind [IsTrans σ frame] {body : Act σ ω ε α} {next : α → Act σ ω ε β}
    (first : body.Preserves frame) (rest : ∀ value, (next value).Preserves frame) :
    (body >>= next).Preserves frame := by
  intro state
  have reached := first state
  rw [run_bind]
  unfold Outcome.andThen
  split
  · exact trans_of frame reached (rest _ _)
  · exact reached

theorem Preserves.tryCatch [IsTrans σ frame] {body : Act σ ω ε α} {caught : ε → Bool}
    {handler : ε → Act σ ω ε α} (first : body.Preserves frame)
    (rest : ∀ thrown, (handler thrown).Preserves frame) :
    (body.tryCatch caught handler).Preserves frame := by
  intro state
  have reached := first state
  unfold Act.tryCatch
  dsimp only
  split
  · exact reached
  · split
    · exact trans_of frame reached (rest _ _)
    · exact reached

theorem Preserves.forM [Std.Refl frame] [IsTrans σ frame] (values : List α)
    {body : α → Act σ ω ε PUnit} (each : ∀ value ∈ values, (body value).Preserves frame) :
    (values.forM body).Preserves frame := by
  induction values with
  | nil => exact .pure _
  | cons value rest inductionHypothesis =>
      exact .bind (each value (by simp)) fun _ =>
        inductionHypothesis fun later membership => each later (by simp [membership])

end Frames

section Outputs

variable {allowed : ω → Prop}

theorem Emits.silent {body : Act σ ω ε α} (quiet : ∀ state, (body.run state).log = []) :
    body.Emits allowed := by
  intro state output membership
  simp [quiet state] at membership

theorem Emits.emit {output : ω} (ok : allowed output) :
    (Act.emit output : Act σ ω ε Unit).Emits allowed := by
  intro state other membership
  obtain rfl : other = output := by simpa using membership
  exact ok

theorem emits_bind {body : Act σ ω ε α} {next : α → Act σ ω ε β} {state : σ}
    (first : ∀ output ∈ (body.run state).log, allowed output)
    (rest : ∀ value, (next value).Emits allowed) :
    ∀ output ∈ ((body >>= next).run state).log, allowed output := by
  intro output membership
  rw [run_bind] at membership
  unfold Outcome.andThen at membership
  split at membership
  · rcases List.mem_append.mp membership with early | late
    · exact first output early
    · exact rest _ _ output late
  · exact first output membership

theorem Emits.bind {body : Act σ ω ε α} {next : α → Act σ ω ε β}
    (first : body.Emits allowed) (rest : ∀ value, (next value).Emits allowed) :
    (body >>= next).Emits allowed :=
  fun state => emits_bind (first state) rest

theorem Emits.forM (values : List α) {body : α → Act σ ω ε PUnit}
    (each : ∀ value ∈ values, (body value).Emits allowed) : (values.forM body).Emits allowed := by
  induction values with
  | nil => exact .silent fun _ => rfl
  | cons value rest inductionHypothesis =>
      exact .bind (each value (by simp)) fun _ =>
        inductionHypothesis fun later membership => each later (by simp [membership])

theorem Emits.tryCatch {body : Act σ ω ε α} {caught : ε → Bool} {handler : ε → Act σ ω ε α}
    (first : body.Emits allowed) (rest : ∀ thrown, (handler thrown).Emits allowed) :
    (body.tryCatch caught handler).Emits allowed := by
  intro state output membership
  unfold Act.tryCatch at membership
  dsimp only at membership
  split at membership
  · exact first state output membership
  · split at membership
    · rcases List.mem_append.mp membership with early | late
      · exact first state output early
      · exact rest _ _ output late
    · exact first state output membership

end Outputs

section Values

variable {allowed : α → Prop}

theorem Returns.pure {value : α} (ok : allowed value) :
    (Pure.pure value : Act σ ω ε α).Returns allowed := by
  intro state other ended
  cases ended
  exact ok

theorem Returns.throw (thrown : ε) : (Act.throw thrown : Act σ ω ε α).Returns allowed := by
  intro state value ended
  cases ended

theorem Returns.bind {allowed : β → Prop} {body : Act σ ω ε α} {next : α → Act σ ω ε β}
    (rest : ∀ value, (next value).Returns allowed) : (body >>= next).Returns allowed := by
  intro state value ended
  rw [run_bind, Outcome.andThen] at ended
  split at ended
  · exact rest _ _ value ended
  · cases ended

theorem Returns.tryCatch {body : Act σ ω ε α} {caught : ε → Bool} {handler : ε → Act σ ω ε α}
    (first : body.Returns allowed) (rest : ∀ thrown, (handler thrown).Returns allowed) :
    (body.tryCatch caught handler).Returns allowed := by
  intro state value ended
  unfold Act.tryCatch at ended
  dsimp only at ended
  split at ended
  · exact first state value ended
  · split at ended
    · exact rest _ _ value ended
    · exact first state value ended

theorem Preserves.bind_returns {frame : σ → σ → Prop} [IsTrans σ frame] {body : Act σ ω ε α}
    {next : α → Act σ ω ε β} (first : body.Preserves frame) (values : body.Returns allowed)
    (rest : ∀ value, allowed value → (next value).Preserves frame) :
    (body >>= next).Preserves frame := by
  intro state
  have reached := first state
  rw [run_bind]
  unfold Outcome.andThen
  split
  next value ended => exact trans_of frame reached (rest value (values state value ended) _)
  next => exact reached

end Values

section Exceptions

variable {allowed : ε → Prop}

theorem Throws.never {body : Act σ ω ε α}
    (ends : ∀ state, ∃ value, (body.run state).result = .ok value) :
    body.Throws allowed := by
  intro state thrown failed
  obtain ⟨value, ended⟩ := ends state
  rw [ended] at failed
  cases failed

theorem Throws.pure (value : α) : (Pure.pure value : Act σ ω ε α).Throws allowed :=
  .never fun _ => ⟨value, rfl⟩

theorem Throws.emit (output : ω) : (Act.emit output : Act σ ω ε Unit).Throws allowed :=
  .never fun _ => ⟨(), rfl⟩

theorem Throws.modify (update : σ → σ) : (Act.modify update : Act σ ω ε Unit).Throws allowed :=
  .never fun _ => ⟨(), rfl⟩

theorem Throws.throw {thrown : ε} (ok : allowed thrown) :
    (Act.throw thrown : Act σ ω ε α).Throws allowed := by
  intro state other failed
  cases failed
  exact ok

theorem Throws.bind {body : Act σ ω ε α} {next : α → Act σ ω ε β} (first : body.Throws allowed)
    (rest : ∀ value, (next value).Throws allowed) : (body >>= next).Throws allowed := by
  intro state thrown failed
  rw [run_bind] at failed
  unfold Outcome.andThen at failed
  split at failed
  next value ended => exact rest value _ thrown failed
  next other failedFirst =>
    cases failed
    exact first state thrown failedFirst

theorem Throws.forM (values : List α) {body : α → Act σ ω ε PUnit}
    (each : ∀ value ∈ values, (body value).Throws allowed) : (values.forM body).Throws allowed := by
  induction values with
  | nil => exact .pure _
  | cons value rest inductionHypothesis =>
      exact .bind (each value (by simp)) fun _ =>
        inductionHypothesis fun later membership => each later (by simp [membership])

end Exceptions

end Act

end Effects
