import AACS.Library.BigEndian

/-!
A secured stream of records between two ends.

The sealing end turns a chunk of plaintext into one record, the opening end
turns a record back.  Both advance with every record, so a record can only be
opened where the two ends are in step.
-/

namespace RecordLayer

/-- The writing end; `none` is a failed write. -/
structure Sealer (σ α : Type) where
  write : σ → List α → Option (σ × List α)

/-- The reading end; a failed read moves it too. -/
structure Opener (ρ ε α : Type) where
  read : ρ → List α → ρ × Except ε (List α)

variable {σ ρ ε α : Type}

/-- A record is at most `overhead` longer than its plaintext. -/
def Sealer.Bounded (sealer : Sealer σ α) (overhead : Nat) : Prop :=
  ∀ {state chunk next record}, sealer.write state chunk = some (next, record) →
    record.length ≤ chunk.length + overhead

/-- Two ends in step: a non-empty chunk of at most `limit` elements is sealed
into a non-empty record, which the other end opens to that chunk, and the ends
are in step again. -/
def InStep (sealer : Sealer σ α) (opener : Opener ρ ε α) (limit : Nat)
    (paired : σ → ρ → Prop) : Prop :=
  ∀ {state peer chunk}, paired state peer → chunk ≠ [] → chunk.length ≤ limit →
    ∃ next record peerNext, sealer.write state chunk = some (next, record) ∧ record ≠ [] ∧
      opener.read peer record = (peerNext, .ok chunk) ∧ paired next peerNext

/-- A record that has been written in step is opened to its chunk. -/
theorem InStep.opens {sealer : Sealer σ α} {opener : Opener ρ ε α} {limit : Nat}
    {paired : σ → ρ → Prop} (inStep : InStep sealer opener limit paired) {state next : σ} {peer : ρ}
    {chunk record : List α} (together : paired state peer) (data : chunk ≠ [])
    (size : chunk.length ≤ limit) (written : sealer.write state chunk = some (next, record)) :
    ∃ peerNext, opener.read peer record = (peerNext, .ok chunk) ∧ paired next peerNext := by
  obtain ⟨reached, sent, peerNext, same, -, opened, later⟩ := inStep together data size
  rw [written] at same
  cases same
  exact ⟨peerNext, opened, later⟩

/-! The null cipher: a five-byte header and the plaintext. -/

def nullHeader (length : Nat) : List UInt8 := [23, 3, 3] ++ BigEndian.encode 2 length

def nullSealer : Sealer Nat UInt8 where
  write count chunk := some (count + 1, nullHeader chunk.length ++ chunk)

def nullOpener (failure : ε) : Opener Nat ε UInt8 where
  read count record :=
    if record.take 5 = nullHeader (record.length - 5) then (count + 1, .ok (record.drop 5))
    else (count, .error failure)

@[simp] theorem length_nullHeader (length : Nat) : (nullHeader length).length = 5 := by
  simp [nullHeader]

theorem nullSealer_bounded {overhead : Nat} (room : 5 ≤ overhead) :
    nullSealer.Bounded overhead := by
  intro state chunk next record written
  obtain ⟨-, rfl⟩ : state + 1 = next ∧ nullHeader chunk.length ++ chunk = record := by
    simpa [nullSealer] using written
  rw [List.length_append, length_nullHeader]
  omega

theorem nullCipher_inStep (failure : ε) (limit : Nat) :
    InStep nullSealer (nullOpener failure) limit Eq := by
  rintro state _ chunk rfl - -
  refine ⟨state + 1, nullHeader chunk.length ++ chunk, state + 1, rfl, by simp [nullHeader], ?_,
    rfl⟩
  simp [nullOpener]

end RecordLayer
