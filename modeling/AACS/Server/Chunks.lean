import AACS.Server.InnerLoop
import AACS.Server.RoundTrip

/-!
What the inner loop makes of the chunks that endpoint 2 delivers.

`handleMessage` gets a pointer into the buffer and reads its header there, past the end of the
chunk where that is nearer than four bytes.  On the bytes of the chunk alone it is
`AAServer.handleMessage`, and the loop around it is `drain`.
-/

namespace AACS

open RecordLayer

variable {ρ τ : Type}

namespace AAServer

/-- The memory around the buffer, by the distance from its first byte, once a chunk has been
read into it. -/
def filled (memory : Int → UInt8) (chunk : Bytes) : Int → UInt8
  | .ofNat index => chunk.getD index (memory index)
  | .negSucc index => memory (.negSucc index)

def bytesAt (byteView : Int → UInt8) (start : Int) (length : Nat) : Bytes :=
  (List.range length).map fun (index : Nat) => byteView (start + index)

structure Pumping (ρ τ : Type) where
  handed : List Handed
  ssl : ρ
  state : τ
  deriving DecidableEq

/-- `handleMessage`, with the pointer that the inner loop passes. -/
def handleMessageAt (tls : Opener ρ DecryptFailure UInt8) (handleMessageContent : Handler τ)
    (memory : Int → UInt8) : WriteFun (Pumping ρ τ) := fun pumping part =>
  let byteView : Int → UInt8 := fun index => memory (part.start + index)
  let channel := byteView 0
  let flags := byteView 1
  let length := BigEndian.decode [byteView 2, byteView 3]
  if part.length < 4 + length then (pumping, .error (.runtimeError "nbytes<4+length"))
  else
    let msg := bytesAt byteView 4 length
    match if isEncrypted flags then decryptMessage tls pumping.ssl msg
      else (pumping.ssl, .ok msg) with
    | (ssl, .error thrown) => ({ pumping with ssl }, .error thrown)
    | (ssl, .ok content) =>
        let message : Message := { channel, flags, content }
        let handed := pumping.handed ++ [⟨message, length + 4⟩]
        match handleMessageContent pumping.state message with
        | (state, .error thrown) => (⟨handed, ssl, state⟩, .error thrown)
        | (state, .ok _) => (⟨handed, ssl, state⟩, .ok ((length : Int) + 4, 0))

/-- A frame with a header of four bytes, whatever its frame bits. -/
structure ShortFrame where
  channel : UInt8
  flags : UInt8
  payload : Bytes
  fits : payload.length < 2 ^ 16

def ShortFrame.fragment (frame : ShortFrame) : Fragment where
  channel := frame.channel
  flags := frame.flags
  total := none
  chunk := frame.payload

def ShortFrame.bytes (frame : ShortFrame) : Bytes := frame.fragment.encode frame.payload

def ShortFrame.message (tls : Opener ρ DecryptFailure UInt8) (ssl : ρ) (frame : ShortFrame) :
    ρ × Except Thrown Message :=
  let opened := if isEncrypted frame.flags then decryptMessage tls ssl frame.payload
    else (ssl, .ok frame.payload)
  (opened.1, opened.2.map fun content => ⟨frame.channel, frame.flags, content, 0⟩)

/-- The frames in order, up to one whose handling throws or after which the thread is told to
end. -/
def consume (tls : Opener ρ DecryptFailure UInt8) (handleMessageContent : Handler τ)
    (checkTerminate : τ → Bool) (ssl : ρ) (state : τ) : List ShortFrame → Turn ρ τ Bool
  | [] => ⟨[], ssl, state, .ok false⟩
  | frame :: frames =>
      match frame.message tls ssl with
      | (ssl, .error thrown) => ⟨[], ssl, state, .error thrown⟩
      | (ssl, .ok message) =>
          let handed : Handed := ⟨message, frame.bytes.length⟩
          match handleMessageContent state message with
          | (state, .error thrown) => ⟨[handed], ssl, state, .error thrown⟩
          | (state, .ok _) =>
              if checkTerminate state then ⟨[handed], ssl, state, .ok true⟩
              else
                let rest := consume tls handleMessageContent checkTerminate ssl state frames
                { rest with handed := handed :: rest.handed }

section View

/-! The pointer and the bytes of the chunk. -/

@[simp] theorem length_bytesAt (byteView : Int → UInt8) (start : Int) (length : Nat) :
    (bytesAt byteView start length).length = length := by
  simp [bytesAt]

@[simp] theorem bytesAt_succ (byteView : Int → UInt8) (start : Int) (length : Nat) :
    bytesAt byteView start (length + 1) =
      byteView start :: bytesAt byteView (start + 1) length := by
  simp only [bytesAt, List.range_succ_eq_map, List.map_cons, List.map_map, Nat.cast_zero,
    add_zero, List.cons.injEq, true_and]
  apply List.map_congr_left
  intro index _
  simp only [Function.comp_apply, Nat.succ_eq_add_one, Nat.cast_add, Nat.cast_one]
  congr 1
  ring

theorem bytesAt_shift (memory : Int → UInt8) (start offset : Int) (length : Nat) :
    bytesAt (fun index => memory (start + index)) offset length =
      bytesAt memory (start + offset) length := by
  simp [bytesAt, add_assoc]

theorem take_bytesAt (byteView : Int → UInt8) (start : Int) {count length : Nat}
    (bounded : count ≤ length) :
    (bytesAt byteView start length).take count = bytesAt byteView start count := by
  rw [bytesAt, ← List.map_take, List.take_range, min_eq_left bounded, bytesAt]

theorem drop_bytesAt (byteView : Int → UInt8) (start : Int) {count length : Nat}
    (bounded : count ≤ length) :
    (bytesAt byteView start length).drop count =
      bytesAt byteView (start + count) (length - count) := by
  induction count generalizing start length with
  | zero => simp
  | succ count inductionHypothesis =>
      obtain ⟨length, rfl⟩ : ∃ shorter, length = shorter + 1 := ⟨length - 1, by omega⟩
      rw [bytesAt_succ, List.drop_succ_cons, inductionHypothesis _ (by omega),
        Nat.add_sub_add_right]
      congr 1
      push_cast
      ring

theorem bytesAt_filled (memory : Int → UInt8) (chunk : Bytes) :
    bytesAt (filled memory chunk) 0 chunk.length = chunk := by
  apply List.ext_getElem
  · simp
  · intro index _ inside
    simp [bytesAt, filled, inside]

end View

section Refinement

/-! The loop does with the pointer what `drain` does with the bytes. -/

variable (tls : Opener ρ DecryptFailure UInt8) (handle : Handler τ) (memory : Int → UInt8)

theorem handleMessageAt_eq (pumping : Pumping ρ τ) (start : Int) (length : Nat) :
    handleMessageAt tls handle memory pumping ⟨start, length⟩ =
      let turn := handleMessage tls handle pumping.ssl pumping.state
        (bytesAt memory start length)
      (⟨pumping.handed ++ turn.handed, turn.ssl, turn.state⟩,
        turn.result.map fun (taken : Nat) => ((taken : Int), 0)) := by
  by_cases short : length < 4
  · have viewed : (bytesAt memory start length).length < 4 := by simpa using short
    have thrown : handleMessageAt tls handle memory pumping ⟨start, length⟩ =
        (pumping, .error (.runtimeError "nbytes<4+length")) := by
      rw [handleMessageAt, if_pos (by dsimp only; omega)]
    rw [thrown]
    unfold handleMessage
    split
    next bytes =>
      simp only [bytes, List.length_cons] at viewed
      omega
    next => simp [Except.map]
  · obtain ⟨rest, rfl⟩ : ∃ rest, length = rest + 4 := ⟨length - 4, by omega⟩
    have header : bytesAt memory start (rest + 4) =
        memory start :: memory (start + 1) :: memory (start + 2) :: memory (start + 3) ::
          bytesAt memory (start + 4) rest := by
      simp [add_assoc]
    simp only [header, handleMessage, handleMessageAt, length_bytesAt, add_zero]
    generalize BigEndian.decode [memory (start + 2), memory (start + 3)] = payload
    by_cases long : rest < payload
    · rw [if_pos long, if_pos (by omega)]
      simp [Except.map]
    · rw [if_neg long, if_neg (by omega), bytesAt_shift, take_bytesAt _ _ (by omega)]
      rcases (if isEncrypted (memory (start + 1)) then
        decryptMessage tls pumping.ssl (bytesAt memory (start + 4) payload)
        else (pumping.ssl, .ok (bytesAt memory (start + 4) payload))) with ⟨ssl, thrown | content⟩
      · simp [Except.map]
      · dsimp only
        rcases handle pumping.state ⟨memory start, memory (start + 1), content, 0⟩ with
          ⟨state, thrown | _⟩ <;>
          simp [Except.map]

/-- As many passes as there are bytes are enough. -/
theorem innerLoop_eq_drain (checkTerminate : τ → Bool) {passes length : Nat}
    (enough : length ≤ passes) (pumping : Pumping ρ τ) (start : Int) :
    innerLoop (handleMessageAt tls handle memory) (fun pumping => checkTerminate pumping.state)
        passes pumping ⟨start, length⟩ =
      let turn := drain tls handle checkTerminate pumping.ssl pumping.state
        (bytesAt memory start length)
      some (⟨pumping.handed ++ turn.handed, turn.ssl, turn.state⟩, turn.result) := by
  induction passes generalizing length pumping start with
  | zero =>
      obtain rfl : length = 0 := by omega
      simp [innerLoop, drain, bytesAt]
  | succ passes inductionHypothesis =>
      by_cases empty : length = 0
      · subst empty
        simp [innerLoop, drain, bytesAt]
      · have nonempty : bytesAt memory start length ≠ [] := by
          apply List.ne_nil_of_length_pos
          simpa using Nat.pos_of_ne_zero empty
        have call := handleMessageAt_eq tls handle memory pumping start length
        rw [innerLoop, if_pos (by dsimp only; omega), pass, call]
        rcases returned : handleMessage tls handle pumping.ssl pumping.state
          (bytesAt memory start length) with ⟨handed, ssl, state, thrown | taken⟩
        · rw [drain_error nonempty returned]
          simp [Except.map]
        · have bounds := handleMessage_result (congrArg Turn.result returned)
          rw [length_bytesAt] at bounds
          have passed : checkError (taken : Int) 0 [eintr, eagain] = .ok (taken : Int) := by
            rw [checkError, if_pos (by omega)]
          rw [drain_ok nonempty returned, drop_bytesAt _ _ bounds.2]
          simp only [Except.map, passed]
          by_cases told : checkTerminate state
          · simp [told]
          · have left : ((length : Int) - taken) = ((length - taken : Nat) : Int) := by omega
            simp only [told, if_false, Bool.false_eq_true, Part.advance, left]
            rw [inductionHypothesis (by omega)]
            simp

end Refinement

section Consumption

/-! The frames of a chunk, one after the other. -/

theorem ShortFrame.bytes_eq (frame : ShortFrame) :
    frame.bytes = frame.channel :: frame.flags ::
      (BigEndian.encode 2 frame.payload.length ++ frame.payload) := by
  simp [ShortFrame.bytes, ShortFrame.fragment, Fragment.encode, Fragment.header]

theorem ShortFrame.length_bytes (frame : ShortFrame) :
    frame.bytes.length = frame.payload.length + 4 := by
  rw [frame.bytes_eq]
  simp only [List.length_cons, List.length_append, BigEndian.length_encode]
  omega

theorem ShortFrame.bytes_ne_nil (frame : ShortFrame) (rest : Bytes) : frame.bytes ++ rest ≠ [] := by
  simp [frame.bytes_eq]

/-- A tail that ends inside a frame. -/
def Cut (tail : Bytes) : Prop := ∃ frame : ShortFrame, tail <+: frame.bytes ∧ tail ≠ frame.bytes

variable {tls : Opener ρ DecryptFailure UInt8} {handle : Handler τ} {checkTerminate : τ → Bool}

theorem handleMessage_frame (ssl : ρ) (state : τ) (frame : ShortFrame) (rest : Bytes) :
    handleMessage tls handle ssl state (frame.bytes ++ rest) =
      match frame.message tls ssl with
      | (ssl, .error thrown) => ⟨[], ssl, state, .error thrown⟩
      | (ssl, .ok message) =>
          match handle state message with
          | (state, .error thrown) => ⟨[⟨message, frame.bytes.length⟩], ssl, state, .error thrown⟩
          | (state, .ok _) =>
              ⟨[⟨message, frame.bytes.length⟩], ssl, state, .ok frame.bytes.length⟩ := by
  have length := @BigEndian.decode_encode 2 _ frame.fits
  rw [frame.length_bytes, frame.bytes_eq]
  simp only [BigEndian.encode] at length
  simp only [BigEndian.encode, List.cons_append, List.nil_append, handleMessage, length,
    ShortFrame.message]
  rw [if_neg (by simp), List.take_left' rfl]
  rcases (if isEncrypted frame.flags then decryptMessage tls ssl frame.payload
    else (ssl, .ok frame.payload)) with ⟨next, thrown | content⟩ <;> rfl

theorem handleMessage_cut (ssl : ρ) (state : τ) {tail : Bytes} (cut : Cut tail) :
    handleMessage tls handle ssl state tail =
      ⟨[], ssl, state, .error (.runtimeError "nbytes<4+length")⟩ := by
  obtain ⟨frame, ⟨rest, whole⟩, proper⟩ := cut
  have missing : rest ≠ [] := by
    rintro rfl
    exact proper (by simpa using whole)
  have length := @BigEndian.decode_encode 2 _ frame.fits
  have size := congrArg List.length whole
  rw [List.length_append, frame.length_bytes] at size
  unfold handleMessage
  split
  next channel flags high low bytes =>
    rw [frame.bytes_eq] at whole
    simp only [BigEndian.encode, List.cons_append, List.nil_append, List.cons.injEq] at whole length
    obtain ⟨-, -, rfl, rfl, -⟩ := whole
    have some_missing := List.length_pos_of_ne_nil missing
    simp only [List.length_cons] at size
    rw [if_pos (by omega)]
  next => rfl

/-- How the loop ends after the frames: on a tail it throws, unless it has ended before. -/
def endingOn (tail : Bytes) : Except Thrown Bool → Except Thrown Bool
  | .ok false => if tail = [] then .ok false else .error (.runtimeError "nbytes<4+length")
  | ended => ended

theorem drain_frames (ssl : ρ) (state : τ) (frames : List ShortFrame) {tail : Bytes}
    (cut : Cut tail) :
    drain tls handle checkTerminate ssl state ((frames.map ShortFrame.bytes).flatten ++ tail) =
      let turn := consume tls handle checkTerminate ssl state frames
      { turn with result := endingOn tail turn.result } := by
  induction frames generalizing ssl state with
  | nil =>
      simp only [List.map_nil, List.flatten_nil, List.nil_append, consume, endingOn]
      by_cases empty : tail = []
      · rw [if_pos empty, drain, if_pos empty]
      · rw [if_neg empty, drain_error empty (handleMessage_cut ssl state cut)]
  | cons frame frames inductionHypothesis =>
      have nonempty := frame.bytes_ne_nil ((frames.map ShortFrame.bytes).flatten ++ tail)
      have call := @handleMessage_frame _ _ tls handle ssl state frame
        ((frames.map ShortFrame.bytes).flatten ++ tail)
      rw [List.map_cons, List.flatten_cons, List.append_assoc]
      rcases opened : frame.message tls ssl with ⟨next, thrown | message⟩
      · simp only [opened] at call
        rw [drain_error nonempty call]
        simp [consume, opened, endingOn]
      · rcases handled : handle state message with ⟨after, thrown | _⟩
        · simp only [opened, handled] at call
          rw [drain_error nonempty call]
          simp [consume, opened, handled, endingOn]
        · simp only [opened, handled] at call
          rw [drain_ok nonempty call, List.drop_left, inductionHypothesis]
          simp only [consume, opened, handled]
          by_cases told : checkTerminate after
          · simp [told, endingOn]
          · simp [told]

structure Handed.From (handed : Handed) (frame : ShortFrame) : Prop where
  channel : handed.msg.channel = frame.channel
  flags : handed.msg.flags = frame.flags
  plain : isEncrypted frame.flags = false → handed.msg.content = frame.payload
  taken : handed.taken = frame.bytes.length

theorem handed_from {ssl next : ρ} {frame : ShortFrame} {message : Message}
    (opened : frame.message tls ssl = (next, .ok message)) :
    Handed.From ⟨message, frame.bytes.length⟩ frame := by
  unfold ShortFrame.message at opened
  cases encrypted : isEncrypted frame.flags with
  | false =>
      simp only [encrypted, Bool.false_eq_true, if_false, Except.map, Prod.mk.injEq,
        Except.ok.injEq] at opened
      obtain ⟨-, rfl⟩ := opened
      exact ⟨rfl, rfl, fun _ => rfl, rfl⟩
  | true =>
      simp only [encrypted, if_true] at opened
      rcases decrypted : decryptMessage tls ssl frame.payload with ⟨after, thrown | content⟩
      · simp [decrypted, Except.map] at opened
      · simp only [decrypted, Except.map, Prod.mk.injEq, Except.ok.injEq] at opened
        obtain ⟨-, rfl⟩ := opened
        exact ⟨rfl, rfl, fun plain => by simp [encrypted] at plain, rfl⟩

/-- The messages handed on are those of the first frames, and of all of them where nothing
throws and nobody tells the thread to end. -/
theorem consume_handed (ssl : ρ) (state : τ) (frames : List ShortFrame) :
    ∃ first rest, first ++ rest = frames ∧
      List.Forall₂ Handed.From (consume tls handle checkTerminate ssl state frames).handed first ∧
      ((consume tls handle checkTerminate ssl state frames).result = .ok false → rest = []) := by
  induction frames generalizing ssl state with
  | nil => exact ⟨[], [], rfl, .nil, fun _ => rfl⟩
  | cons frame frames inductionHypothesis =>
      simp only [consume]
      rcases opened : frame.message tls ssl with ⟨next, thrown | message⟩
      · exact ⟨[], frame :: frames, rfl, .nil, by simp⟩
      · have front := handed_from opened
        rcases handled : handle state message with ⟨after, thrown | _⟩
        · simp only [handled]
          exact ⟨[frame], frames, rfl, .cons front .nil, by simp⟩
        · simp only [handled]
          by_cases told : checkTerminate after
          · exact ⟨[frame], frames, rfl, by simpa [told] using front, by simp [told]⟩
          · obtain ⟨first, rest, whole, given, all⟩ := inductionHypothesis next after
            refine ⟨frame :: first, rest, by simp [whole], ?_, ?_⟩
            · simpa [told] using ⟨front, given⟩
            · simpa [told] using all

end Consumption

/-- The frames of a chunk are handed on in order, each once and as it is, until the handling of
one throws or the thread is told to end. A loop that neither happens to ends normally exactly
when no frame is cut. -/
theorem inner_loop_consumes_chunk (tls : Opener ρ DecryptFailure UInt8) (handle : Handler τ)
    (checkTerminate : τ → Bool) (memory : Int → UInt8) (ssl : ρ) (state : τ)
    (frames : List ShortFrame) (tail : Bytes) (cut : Cut tail) :
    let chunk := (frames.map ShortFrame.bytes).flatten ++ tail
    let turn := consume tls handle checkTerminate ssl state frames
    (∀ passes ≥ chunk.length,
      innerLoop (handleMessageAt tls handle (filled memory chunk))
          (fun pumping => checkTerminate pumping.state) passes ⟨[], ssl, state⟩ ⟨0, chunk.length⟩ =
        some (⟨turn.handed, turn.ssl, turn.state⟩, endingOn tail turn.result)) ∧
      ∃ first rest, first ++ rest = frames ∧ List.Forall₂ Handed.From turn.handed first ∧
        (turn.result = .ok false → rest = []) := by
  intro chunk turn
  refine ⟨fun passes enough => ?_, consume_handed ssl state frames⟩
  rw [innerLoop_eq_drain tls handle _ checkTerminate enough, bytesAt_filled,
    drain_frames ssl state frames cut]
  rfl

def typeFrame (type : UInt8) : ShortFrame := ⟨0, 3, [0, type], by simp⟩

theorem inner_loop_consumes_two_frames :
    let chunk := ([typeFrame 1, typeFrame 4].map ShortFrame.bytes).flatten ++ [0, 3, 0]
    let turn := consume (nullOpener .bioWrite) (fun state _ => (state, .ok ())) (fun _ => false) 0
      () [typeFrame 1, typeFrame 4]
    (∀ passes ≥ chunk.length,
      innerLoop (handleMessageAt (nullOpener .bioWrite) (fun state _ => (state, .ok ()))
          (filled (fun _ => 0) chunk)) (fun _ => false) passes ⟨[], 0, ()⟩ ⟨0, chunk.length⟩ =
        some (⟨turn.handed, turn.ssl, turn.state⟩, endingOn [0, 3, 0] turn.result)) ∧
      ∃ first rest, first ++ rest = [typeFrame 1, typeFrame 4] ∧
        List.Forall₂ Handed.From turn.handed first ∧ (turn.result = .ok false → rest = []) :=
  inner_loop_consumes_chunk (nullOpener .bioWrite) _ (fun _ => false) (fun _ => 0) 0 () _ [0, 3, 0]
    ⟨typeFrame 1, by decide, by decide⟩

/-- Told to end while it handles the first of two frames, the thread leaves the other, and
nothing is thrown. -/
theorem inner_loop_leaves_frame :
    let frames := [typeFrame 1, typeFrame 4]
    let chunk := (frames.map ShortFrame.bytes).flatten
    ∃ left, innerLoop (handleMessageAt (nullOpener .bioWrite) (fun state _ => (state, .ok ()))
        (filled (fun _ => 0) chunk)) (fun _ => true) chunk.length ⟨[], 0, ()⟩ ⟨0, chunk.length⟩ =
        some left ∧
      left.2 = .ok true ∧ ¬ List.Forall₂ Handed.From left.1.handed frames := by
  intro frames chunk
  refine ⟨(⟨[⟨⟨0, 3, [0, 1], 0⟩, 6⟩], 0, ()⟩, .ok true), by decide, rfl, fun all => ?_⟩
  have short := all.length_eq
  simp [frames] at short

end AAServer

end AACS
