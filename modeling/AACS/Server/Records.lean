import AACS.Library.RecordQueue
import AACS.Server.Chunks

/-!
Encrypted frames with any number of records in them.

`decryptMessage` gives OpenSSL the whole frame and calls `SSL_read` once.  The records are a queue
from which one is taken for a frame.
-/

namespace AACS

open RecordLayer

variable {σ ρ τ : Type}

namespace AAServer

inductive Recorded (sealer : Sealer σ UInt8) : σ → List (List Bytes) → List ShortFrame → Prop
  | nil {state : σ} : Recorded sealer state [] []
  | cons {state next : σ} {chunks : List Bytes} {groups : List (List Bytes)} {frame : ShortFrame}
      {frames : List ShortFrame} (records : chunks ≠ [])
      (sizes : ∀ chunk ∈ chunks, chunk.length ≤ tlsLimit)
      (written : sealer.writeAll state chunks = some (next, frame.payload))
      (encrypted : isEncrypted frame.flags = true) (others : Recorded sealer next groups frames) :
      Recorded sealer state (chunks :: groups) (frame :: frames)

/-- One call of `handleMessage` after the other: the contents that each of them hands on, and
the SSL object at the end. -/
def handleFrames (tls : Opener ρ DecryptFailure UInt8) (handleMessageContent : Handler τ)
    (ssl : ρ) (state : τ) : List ShortFrame → List (List Bytes) × ρ
  | [] => ([], ssl)
  | frame :: frames =>
      let turn := handleMessage tls handleMessageContent ssl state frame.bytes
      let rest := handleFrames tls handleMessageContent turn.ssl turn.state frames
      (turn.handed.map (fun handed => handed.msg.content) :: rest.1, rest.2)

section Contents

variable {sealer : Sealer σ UInt8} {receiver : Receiver ρ DecryptFailure UInt8}
  {holds : σ → ρ → List Bytes → Prop} {handle : Handler τ}

/-- A call for an Encrypted frame hands on what one read of the SSL object returns. -/
theorem handleMessage_read {tls : Opener ρ DecryptFailure UInt8} {ssl after : ρ} {state : τ}
    {frame : ShortFrame} {result : Except DecryptFailure Bytes}
    (encrypted : isEncrypted frame.flags = true)
    (read : tls.read ssl frame.payload = (after, result)) :
    let turn := handleMessage tls handle ssl state frame.bytes
    turn.handed.map (fun handed => handed.msg.content) = result.toOption.toList ∧
      turn.ssl = after := by
  have call := @handleMessage_frame _ _ tls handle ssl state frame []
  rw [List.append_nil] at call
  simp only [ShortFrame.message, encrypted, if_true, decryptMessage, read] at call
  cases result with
  | error failure =>
      cases failure <;>
      · simp only [Except.map] at call
        rw [call]
        exact ⟨rfl, rfl⟩
  | ok plain =>
      simp only [Except.map] at call
      rw [call]
      cases (handle state ⟨frame.channel, frame.flags, plain, 0⟩) with
      | mk after handled => cases handled <;> exact ⟨rfl, rfl⟩

/-- Frames take one record each from the queue of all records. -/
theorem handleFrames_served (inOrder : InOrder sealer receiver tlsLimit holds) {sender : σ}
    {peer : ρ} {pending : List Bytes} {groups : List (List Bytes)} {frames : List ShortFrame}
    (held : holds sender peer pending) (recorded : Recorded sealer sender groups frames)
    (state : τ) :
    let run := handleFrames receiver.opener handle peer state frames
    let taken := served pending (groups.map nonempty)
    run.1 = taken.1.map Option.toList ∧ ∃ final, holds final run.2 taken.2 := by
  induction recorded generalizing peer pending state with
  | nil => exact ⟨rfl, _, held⟩
  | @cons sender next chunks groups frame frames records sizes written encrypted others
      inductionHypothesis =>
      obtain ⟨after, result, read, first, kept⟩ := inOrder.opens held sizes written
      obtain ⟨contents, ssl⟩ := @handleMessage_read _ _ handle _ _ _ state _ _ encrypted read
      have rest := inductionHypothesis kept
        (handleMessage receiver.opener handle peer state frame.bytes).state
      rw [first] at contents
      simp only [handleFrames, List.map_cons, served, contents, ssl]
      exact ⟨congrArg _ rest.1, rest.2⟩

end Contents

theorem head_toList {α : Type} :
    Function.LeftInverse List.head? (Option.toList : Option α → List α) := by
  intro option
  cases option <;> rfl

/-- Every frame is handed on as the plaintexts of its own records, and nothing is left, exactly
where one record of every frame has a plaintext. -/
theorem own_records_iff {sealer : Sealer σ UInt8} {receiver : Receiver ρ DecryptFailure UInt8}
    {holds : σ → ρ → List Bytes → Prop} (inOrder : InOrder sealer receiver tlsLimit holds)
    (handle : Handler τ) (state : τ) {sender : σ} {peer : ρ} {groups : List (List Bytes)}
    {frames : List ShortFrame} (start : holds sender peer [])
    (recorded : Recorded sealer sender groups frames) :
    let run := handleFrames receiver.opener handle peer state frames
    (run.1 = groups.map (fun chunks => [chunks.flatten]) ∧ ∃ final, holds final run.2 []) ↔
      ∀ chunks ∈ groups, (nonempty chunks).length = 1 := by
  obtain ⟨contents, final, kept⟩ :=
    @handleFrames_served _ _ _ _ _ _ handle inOrder _ _ _ _ _ start recorded state
  have data : ∀ batch ∈ groups.map nonempty, ∀ chunk ∈ batch, chunk ≠ [] := by
    intro batch membership chunk inside
    obtain ⟨chunks, -, rfl⟩ := List.mem_map.mp membership
    exact ne_nil_of_mem_nonempty inside
  have whole := served_whole_iff data
  simp only [List.forall_mem_map, List.map_map, Function.comp_def, flatten_nonempty] at whole
  rw [← whole]
  constructor
  · rintro ⟨own, -⟩
    rw [contents] at own
    apply head_toList.injective.list_map
    rw [own, List.map_map]
    rfl
  · intro own
    refine ⟨?_, final, ?_⟩
    · rw [contents, own, List.map_map]
      rfl
    · have singles := whole.mp own
      rw [served_singles (List.forall_mem_map.mpr singles)] at kept
      exact kept

def nullFrame (chunks : List Bytes) (fits : (chunks.flatMap nullRecord).length < 65536) :
    ShortFrame :=
  ⟨3, 0x0b, chunks.flatMap nullRecord, fits⟩

theorem nullHolds_start : nullHolds 0 [] [] := ⟨[], rfl, rfl, by simp⟩

def acceptContent : Handler Unit := fun state _ => (state, .ok ())

theorem own_records_single :
    let frames := [nullFrame [[1, 2]] (by decide), nullFrame [[], [3]] (by decide)]
    (handleFrames (nullReceiver DecryptFailure.bioWrite).opener acceptContent [] () frames).1 =
      [[[1, 2]], [[3]]] := by
  intro frames
  have recorded : Recorded nullSealer 0 [[[1, 2]], [[], [3]]] frames :=
    .cons (by decide) (by decide) rfl (by decide)
      (.cons (by decide) (by decide) rfl (by decide) .nil)
  have inOrder := nullCipher_inOrder DecryptFailure.bioWrite (by decide : tlsLimit < 65536)
  exact ((own_records_iff inOrder acceptContent () nullHolds_start recorded).mpr (by decide)).1

/-- The second record of the first frame comes out in the place of the second frame. -/
theorem second_record_comes_late :
    let groups : List (List Bytes) := [[[1], [2]], [[3]]]
    let frames := [nullFrame [[1], [2]] (by decide), nullFrame [[3]] (by decide)]
    let run := handleFrames (nullReceiver DecryptFailure.bioWrite).opener acceptContent [] () frames
    Recorded nullSealer 0 groups frames ∧ run.1 = [[[1]], [[2]]] ∧
      run.1 ≠ groups.map fun chunks => [chunks.flatten] := by
  intro groups frames run
  have recorded : Recorded nullSealer 0 groups frames :=
    .cons (by decide) (by decide) rfl (by decide)
      (.cons (by decide) (by decide) rfl (by decide) .nil)
  exact ⟨recorded, by decide, by decide⟩

end AAServer

end AACS
