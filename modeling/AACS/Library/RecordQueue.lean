import AACS.Library.RecordLayer

/-!
The reading end of a secured stream, record by record.

Bytes are fed to it as they come, and every call takes the plaintext of one record out of it.
What has been fed and not been taken is pending; a record without plaintext is passed over.
-/

namespace RecordLayer

variable {σ ρ ε α : Type}

/-- Feed bytes, or take the next record. -/
structure Receiver (ρ ε α : Type) where
  feed : ρ → List α → ρ
  next : ρ → ρ × Except ε (List α)

def Receiver.opener (receiver : Receiver ρ ε α) : Opener ρ ε α where
  read peer bytes := receiver.next (receiver.feed peer bytes)

/-- The records for some chunks, one behind the other. -/
def Sealer.writeAll (sealer : Sealer σ α) : σ → List (List α) → Option (σ × List α)
  | state, [] => some (state, [])
  | state, chunk :: chunks =>
      match sealer.write state chunk with
      | none => none
      | some (next, record) =>
          match sealer.writeAll next chunks with
          | none => none
          | some (final, records) => some (final, record ++ records)

def nonempty (chunks : List (List α)) : List (List α) := chunks.filter fun chunk => !chunk.isEmpty

@[simp] theorem nonempty_nil : nonempty ([] : List (List α)) = [] := rfl

theorem nonempty_cons (chunk : List α) (chunks : List (List α)) :
    nonempty (chunk :: chunks) = nonempty [chunk] ++ nonempty chunks := by
  rw [nonempty, nonempty, nonempty, ← List.filter_append, List.singleton_append]

theorem nonempty_append (first second : List (List α)) :
    nonempty (first ++ second) = nonempty first ++ nonempty second := List.filter_append ..

@[simp] theorem flatten_nonempty (chunks : List (List α)) :
    (nonempty chunks).flatten = chunks.flatten := List.flatten_filter_not_isEmpty

theorem ne_nil_of_mem_nonempty {chunk : List α} {chunks : List (List α)}
    (membership : chunk ∈ nonempty chunks) : chunk ≠ [] := by
  simpa using (List.mem_filter.mp membership).2

/-- The records are taken in the order in which they have been written, each on its own; `holds`
relates the two ends to the plaintexts that are pending. -/
structure InOrder (sealer : Sealer σ α) (receiver : Receiver ρ ε α) (limit : Nat)
    (holds : σ → ρ → List (List α) → Prop) : Prop where
  feed_nil : ∀ {peer}, receiver.feed peer [] = peer
  feed_append : ∀ {peer first second},
    receiver.feed (receiver.feed peer first) second = receiver.feed peer (first ++ second)
  feeds : ∀ {state peer pending chunk next record}, holds state peer pending →
    chunk.length ≤ limit → sealer.write state chunk = some (next, record) →
    holds next (receiver.feed peer record) (pending ++ nonempty [chunk])
  takes : ∀ {state peer chunk pending}, holds state peer (chunk :: pending) →
    ∃ after, receiver.next peer = (after, .ok chunk) ∧ holds state after pending
  waits : ∀ {state peer}, holds state peer [] →
    ∃ after failure, receiver.next peer = (after, .error failure) ∧ holds state after []

section Order

variable {sealer : Sealer σ α} {receiver : Receiver ρ ε α} {limit : Nat}
  {holds : σ → ρ → List (List α) → Prop} {state next : σ} {peer : ρ}
  {chunks pending : List (List α)} {records : List α}

theorem InOrder.feeds_all (inOrder : InOrder sealer receiver limit holds)
    (held : holds state peer pending) (sizes : ∀ chunk ∈ chunks, chunk.length ≤ limit)
    (written : sealer.writeAll state chunks = some (next, records)) :
    holds next (receiver.feed peer records) (pending ++ nonempty chunks) := by
  induction chunks generalizing state peer pending records with
  | nil =>
      obtain ⟨rfl, rfl⟩ : state = next ∧ [] = records := by simpa [Sealer.writeAll] using written
      rwa [inOrder.feed_nil, nonempty_nil, List.append_nil]
  | cons chunk chunks inductionHypothesis =>
      obtain ⟨size, others⟩ := List.forall_mem_cons.mp sizes
      rw [Sealer.writeAll] at written
      rcases first : sealer.write state chunk with _ | ⟨middle, record⟩
      · simp [first] at written
      · rcases rest : sealer.writeAll middle chunks with _ | ⟨final, more⟩
        · simp [first, rest] at written
        · simp only [first, rest, Option.some.injEq, Prod.mk.injEq] at written
          obtain ⟨rfl, rfl⟩ := written
          have later := inductionHypothesis (inOrder.feeds held size first) others rest
          rwa [inOrder.feed_append, List.append_assoc, ← nonempty_cons] at later

/-- One read after the records: it returns what is pending first, or nothing is pending. -/
theorem InOrder.opens (inOrder : InOrder sealer receiver limit holds)
    (held : holds state peer pending) (sizes : ∀ chunk ∈ chunks, chunk.length ≤ limit)
    (written : sealer.writeAll state chunks = some (next, records)) :
    ∃ after result, receiver.opener.read peer records = (after, result) ∧
      result.toOption = (pending ++ nonempty chunks).head? ∧
      holds next after (pending ++ nonempty chunks).tail := by
  have fed := inOrder.feeds_all held sizes written
  cases queue : pending ++ nonempty chunks with
  | nil =>
      rw [queue] at fed
      obtain ⟨after, failure, waited, kept⟩ := inOrder.waits fed
      exact ⟨after, .error failure, waited, rfl, kept⟩
  | cons chunk left =>
      rw [queue] at fed
      obtain ⟨after, taken, kept⟩ := inOrder.takes fed
      exact ⟨after, .ok chunk, taken, rfl, kept⟩

end Order

section Batches

variable {β : Type}

/-- One element is taken after every batch: the elements, and what is left at the end. -/
def served (pending : List β) : List (List β) → List (Option β) × List β
  | [] => ([], pending)
  | batch :: batches =>
      let rest := served (pending ++ batch).tail batches
      ((pending ++ batch).head? :: rest.1, rest.2)

theorem served_singles {batches : List (List β)} (singles : ∀ batch ∈ batches, batch.length = 1) :
    served [] batches = (batches.map List.head?, []) := by
  induction batches with
  | nil => rfl
  | cons batch batches inductionHypothesis =>
      obtain ⟨single, others⟩ := List.forall_mem_cons.mp singles
      obtain ⟨element, rfl⟩ := List.length_eq_one_iff.mp single
      simp [served, inductionHypothesis others]

theorem head_eq_flatten_iff {batch : List (List α)} (data : ∀ chunk ∈ batch, chunk ≠ []) :
    batch.head? = some batch.flatten ↔ batch.length = 1 := by
  rcases batch with _ | ⟨chunk, _ | ⟨second, batch⟩⟩
  · simp
  · simp
  · have second_nonempty := data second (by simp)
    simp [second_nonempty]

/-- Whole batches are taken exactly where every batch is a single element. -/
theorem served_whole_iff {batches : List (List (List α))}
    (data : ∀ batch ∈ batches, ∀ chunk ∈ batch, chunk ≠ []) :
    (served [] batches).1 = batches.map (fun batch => some batch.flatten) ↔
      ∀ batch ∈ batches, batch.length = 1 := by
  induction batches with
  | nil => simp [served]
  | cons batch batches inductionHypothesis =>
      obtain ⟨here, others⟩ := List.forall_mem_cons.mp data
      rw [List.forall_mem_cons, ← head_eq_flatten_iff here]
      simp only [served, List.nil_append, List.map_cons, List.cons.injEq]
      refine and_congr_right fun whole => ?_
      obtain ⟨chunk, rfl⟩ := List.length_eq_one_iff.mp ((head_eq_flatten_iff here).mp whole)
      exact inductionHypothesis others

end Batches

/-! The null cipher, read as a stream. -/

def nullRecord (chunk : List UInt8) : List UInt8 := nullHeader chunk.length ++ chunk

def nullSplit (stream : List UInt8) : Option (List UInt8 × List UInt8) :=
  let length := BigEndian.decode ((stream.drop 3).take 2)
  if stream.take 5 = nullHeader length ∧ length + 5 ≤ stream.length then
    some ((stream.drop 5).take length, stream.drop (length + 5))
  else none

/-- The first record with a plaintext; `fuel` is more than the records of the stream. -/
def nullNext (failure : ε) : Nat → List UInt8 → List UInt8 × Except ε (List UInt8)
  | 0, stream => (stream, .error failure)
  | fuel + 1, stream =>
      match nullSplit stream with
      | none => (stream, .error failure)
      | some ([], rest) => nullNext failure fuel rest
      | some (chunk, rest) => (rest, .ok chunk)

def nullReceiver (failure : ε) : Receiver (List UInt8) ε UInt8 where
  feed stream bytes := stream ++ bytes
  next stream := nullNext failure (stream.length + 1) stream

def nullHolds (_ : Nat) (stream : List UInt8) (pending : List (List UInt8)) : Prop :=
  ∃ chunks, stream = chunks.flatMap nullRecord ∧ pending = nonempty chunks ∧
    ∀ chunk ∈ chunks, chunk.length < 65536

theorem nullSplit_nullRecord {chunk : List UInt8} (size : chunk.length < 65536)
    (rest : List UInt8) : nullSplit (nullRecord chunk ++ rest) = some (chunk, rest) := by
  have length : BigEndian.decode (BigEndian.encode 2 chunk.length) = chunk.length :=
    BigEndian.decode_encode (by simpa using size)
  have five : (nullHeader chunk.length).length = 5 := length_nullHeader _
  have number : ((nullRecord chunk ++ rest).drop 3).take 2 = BigEndian.encode 2 chunk.length := by
    simp [nullRecord, nullHeader, BigEndian.encode]
  have all : (nullRecord chunk ++ rest).length = chunk.length + 5 + rest.length := by
    simp only [nullRecord, List.length_append, five]
    omega
  have header : (nullRecord chunk ++ rest).take 5 = nullHeader chunk.length := by
    rw [nullRecord, List.append_assoc, List.take_left' five]
  have body : (nullRecord chunk ++ rest).drop 5 = chunk ++ rest := by
    rw [nullRecord, List.append_assoc, List.drop_left' five]
  unfold nullSplit
  rw [number, length, header, all, if_pos ⟨rfl, by omega⟩, body, List.take_left' rfl,
    List.drop_left' (by simp only [nullRecord, List.length_append, five]; omega)]

theorem nullNext_records (failure : ε) {chunks : List (List UInt8)}
    (sizes : ∀ chunk ∈ chunks, chunk.length < 65536) {fuel : Nat} (enough : chunks.length < fuel) :
    ∃ after, nullNext failure fuel (chunks.flatMap nullRecord) =
        (after.flatMap nullRecord,
          ((nonempty chunks).head?.map Except.ok).getD (.error failure)) ∧
      nonempty after = (nonempty chunks).tail ∧ ∀ chunk ∈ after, chunk.length < 65536 := by
  induction chunks generalizing fuel with
  | nil =>
      obtain ⟨fuel, rfl⟩ := Nat.exists_eq_succ_of_ne_zero (by omega : fuel ≠ 0)
      exact ⟨[], by simp [nullNext, nullSplit], rfl, sizes⟩
  | cons chunk chunks inductionHypothesis =>
      obtain ⟨fuel, rfl⟩ := Nat.exists_eq_succ_of_ne_zero (by omega : fuel ≠ 0)
      obtain ⟨size, others⟩ := List.forall_mem_cons.mp sizes
      have split := nullSplit_nullRecord size (chunks.flatMap nullRecord)
      rw [List.flatMap_cons, nullNext, split]
      cases chunk with
      | nil => exact inductionHypothesis others (by simpa using enough)
      | cons byte chunk => exact ⟨chunks, by simp [nonempty], by simp [nonempty], others⟩

theorem length_le_records (chunks : List (List UInt8)) :
    chunks.length ≤ (chunks.flatMap nullRecord).length := by
  induction chunks with
  | nil => simp
  | cons chunk chunks inductionHypothesis =>
      simp only [List.length_cons, List.flatMap_cons, List.length_append, nullRecord,
        length_nullHeader]
      omega

theorem nullReceiver_next (failure : ε) {chunks : List (List UInt8)}
    (sizes : ∀ chunk ∈ chunks, chunk.length < 65536) :
    ∃ after, (nullReceiver failure).next (chunks.flatMap nullRecord) =
        (after.flatMap nullRecord,
          ((nonempty chunks).head?.map Except.ok).getD (.error failure)) ∧
      nonempty after = (nonempty chunks).tail ∧ ∀ chunk ∈ after, chunk.length < 65536 :=
  nullNext_records failure sizes (Nat.lt_succ_of_le (length_le_records chunks))

theorem nullCipher_inOrder (failure : ε) {limit : Nat} (small : limit < 65536) :
    InOrder nullSealer (nullReceiver failure) limit nullHolds where
  feed_nil := by simp [nullReceiver]
  feed_append := by simp [nullReceiver]
  feeds := by
    rintro state stream pending chunk next record ⟨chunks, rfl, rfl, sizes⟩ size written
    obtain ⟨-, rfl⟩ : state + 1 = next ∧ nullRecord chunk = record := by
      simpa [nullSealer, nullRecord] using written
    refine ⟨chunks ++ [chunk], by simp [nullReceiver], (nonempty_append _ _).symm,
      List.forall_mem_append.mpr ⟨sizes, ?_⟩⟩
    simpa using size.trans_lt small
  takes := by
    rintro state stream chunk pending ⟨chunks, rfl, front, sizes⟩
    obtain ⟨after, read, left, kept⟩ := nullReceiver_next failure sizes
    rw [← front] at read left
    exact ⟨_, read, after, rfl, left.symm, kept⟩
  waits := by
    rintro state stream ⟨chunks, rfl, empty, sizes⟩
    obtain ⟨after, read, left, kept⟩ := nullReceiver_next failure sizes
    rw [← empty] at read left
    exact ⟨_, failure, read, after, rfl, left.symm, kept⟩

end RecordLayer
