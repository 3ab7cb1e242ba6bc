import AACS.Client.RoundTrip
import AACS.Protocol.Handler

/-!
The loop of `AAClient::setup` that follows the handshake.

It gives every message to a dispatch and starts `getMessage` afresh after an
exception, as long as there are fewer than thirty in a row.
-/

namespace AACS

open RecordLayer

variable {σ ρ τ : Type}

namespace AAClient

theorem getMessageFrom_shortens {tls : Opener ρ DecryptFailure UInt8} {ssl : ρ}
    {soFar : Reassembly} {transfers : List Transfer} :
    (∀ {msg final rest}, getMessageFrom tls ssl soFar transfers = .returned msg final rest →
      rest.length < transfers.length) ∧
    ∀ {thrown final rest}, getMessageFrom tls ssl soFar transfers = .threw thrown final rest →
      rest.length < transfers.length := by
  fun_induction getMessageFrom tls ssl soFar transfers with
  | case1 => simp
  | case2 ssl soFar transfer rest next thrown failed =>
      constructor
      · intro _ _ _ returned
        cases returned
      · intro _ _ _ threw
        cases threw
        exact Nat.lt_succ_self _
  | case3 ssl soFar transfer rest next channel flags after passed incomplete inductionHypothesis =>
      exact ⟨fun returned => Nat.lt_succ_of_lt (inductionHypothesis.1 returned),
        fun threw => Nat.lt_succ_of_lt (inductionHypothesis.2 threw)⟩
  | case4 ssl soFar transfer rest next channel flags after passed complete =>
      constructor
      · intro _ _ _ returned
        cases returned
        exact Nat.lt_succ_self _
      · intro _ _ _ threw
        cases threw

inductive SetupEnd where
  | gaveUp
  | threw (thrown : Thrown)
  | waiting
  deriving DecidableEq, Repr

/-- The messages that the loop has given to its dispatch, and how it ends. `stack`
is what a call of `getMessage` finds in its buffer. -/
def setupLoop (tls : Opener ρ DecryptFailure UInt8) (dispatch : Handler τ)
    (stack : Nat → Buffer) (faultCount : Nat) (ssl : ρ) (state : τ) (transfers : List Transfer) :
    List Message × SetupEnd :=
  if faultCount < 30 then
    match received : getMessage tls (stack transfers.length) ssl transfers with
    | .waiting _ => ([], .waiting)
    | .threw thrown ssl rest =>
        if thrown.isRuntimeError then
          setupLoop tls dispatch stack (faultCount + 1) ssl state rest
        else
          ([], .threw thrown)
    | .returned msg ssl rest =>
        match dispatch state msg with
        | (_, .error thrown) => ([msg], .threw thrown)
        | (state, .ok _) =>
            let (later, ending) := setupLoop tls dispatch stack 0 ssl state rest
            (msg :: later, ending)
  else
    ([], .gaveUp)
termination_by transfers.length
decreasing_by
  · exact getMessageFrom_shortens.2 received
  · exact getMessageFrom_shortens.1 received

variable {tls : Opener ρ DecryptFailure UInt8} {dispatch : Handler τ} {stack : Nat → Buffer}

theorem setupLoop_returned {faultCount : Nat} {ssl next : ρ} {msg : Message}
    {transfers rest : List Transfer} (state : τ) (few : faultCount < 30)
    (returned : getMessage tls (stack transfers.length) ssl transfers = .returned msg next rest) :
    (setupLoop tls dispatch stack faultCount ssl state transfers).1 =
      match dispatch state msg with
      | (_, .error _) => [msg]
      | (state, .ok _) => msg :: (setupLoop tls dispatch stack 0 next state rest).1 := by
  rw [setupLoop, if_pos few]
  split
  next => simp_all
  next => simp_all
  next other final left received =>
    rw [returned] at received
    obtain ⟨rfl, rfl, rfl⟩ := Received.returned.inj received
    split <;> simp_all

theorem setupLoop_threw {faultCount : Nat} {ssl next : ρ} {thrown : Thrown}
    {transfers rest : List Transfer} (state : τ) (few : faultCount < 30)
    (caught : thrown.isRuntimeError = true)
    (threw : getMessage tls (stack transfers.length) ssl transfers = .threw thrown next rest) :
    setupLoop tls dispatch stack faultCount ssl state transfers =
      setupLoop tls dispatch stack (faultCount + 1) next state rest := by
  rw [setupLoop, if_pos few]
  split
  next => simp_all
  next other final left received =>
    rw [threw] at received
    obtain ⟨rfl, rfl, rfl⟩ := Received.threw.inj received
    rw [if_pos caught]
  next => simp_all

theorem setupLoop_faults {faultCount : Nat} {ssl : ρ} (state : τ) (gap : List Int)
    (transfers : List Transfer) (few : faultCount + gap.length < 30) :
    setupLoop tls dispatch stack faultCount ssl state (gap.map .failed ++ transfers) =
      setupLoop tls dispatch stack (faultCount + gap.length) ssl state transfers := by
  induction gap generalizing faultCount with
  | nil => rfl
  | cons result gap inductionHypothesis =>
      rw [List.length_cons] at few ⊢
      rw [List.map_cons, List.cons_append,
        setupLoop_threw state (by omega) rfl (getMessageFrom_failed ssl _ result _),
        inductionHypothesis (by omega)]
      congr 1
      omega

/-- Thirty faults in a row end the loop. -/
theorem setupLoop_gaveUp {faultCount : Nat} {ssl : ρ} (state : τ) (gap : List Int)
    (transfers : List Transfer) (many : 30 ≤ faultCount + gap.length) :
    setupLoop tls dispatch stack faultCount ssl state (gap.map .failed ++ transfers) =
      ([], .gaveUp) := by
  induction gap generalizing faultCount with
  | nil =>
      rw [setupLoop, if_neg]
      simpa using many
  | cons result gap inductionHypothesis =>
      rw [List.length_cons] at many
      by_cases few : faultCount < 30
      · rw [List.map_cons, List.cons_append,
          setupLoop_threw state few rfl (getMessageFrom_failed ssl _ result _),
          inductionHypothesis (by omega)]
      · rw [setupLoop, if_neg few]

theorem setupLoop_nil {faultCount : Nat} {ssl : ρ} (state : τ) (few : faultCount < 30) :
    setupLoop tls dispatch stack faultCount ssl state [] = ([], .waiting) := by
  rw [setupLoop, if_pos few]
  rfl

end AAClient

end AACS
