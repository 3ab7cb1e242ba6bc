import AACS.Library.Chunking
import AACS.Library.RecordLayer
import AACS.Protocol.Message

/-!
Frames as the receiver of a message should see them.

A `Fragment` is a frame before encryption. `Conforms` says which fragments a
message may be sent as, and `Carried` relates fragments to the bytes that carry
them over a secured stream.
-/

namespace AACS

open RecordLayer

/-- A frame with the plaintext it carries; `total` is the 32-bit field that only
a First frame has. -/
structure Fragment where
  channel : UInt8
  flags : UInt8
  total : Option Nat
  chunk : Bytes
  deriving DecidableEq, Repr

namespace Fragment

/-- The bytes in front of the payload: channel, flags, 16-bit payload length and
the total length of a First frame. -/
def header (fragment : Fragment) (length : Nat) : Bytes :=
  fragment.channel :: fragment.flags ::
    (BigEndian.encode 2 length ++ fragment.total.elim [] (BigEndian.encode 4))

def encode (fragment : Fragment) (payload : Bytes) : Bytes :=
  fragment.header payload.length ++ payload

theorem length_header (fragment : Fragment) (length : Nat) :
    (fragment.header length).length = if fragment.total.isSome then 8 else 4 := by
  cases present : fragment.total <;> simp [header, present]

end Fragment

/-- The frames of a message with content longer than `maxSize` and of one that
fits, together with what every frame has to repeat of the message. A Plain
message is never cut, so the chunk sizes concern Encrypted ones. -/
structure Conforms (maxSize : Nat) (msg : Message) (fragments : List Fragment) : Prop where
  whole : isEncrypted msg.flags = false ∨ msg.content.length ≤ maxSize →
    fragments.map (fun fragment => frameBits fragment.flags) = [FrameType.Bulk.mask]
  split : isEncrypted msg.flags = true → maxSize < msg.content.length →
    ∃ middles, fragments.map (fun fragment => frameBits fragment.flags) =
      FrameType.First.mask :: List.replicate middles 0 ++ [FrameType.Last.mask]
  content : (fragments.map Fragment.chunk).flatten = msg.content
  full : isEncrypted msg.flags = true →
    ∀ fragment ∈ fragments.dropLast, fragment.chunk.length = maxSize
  last : isEncrypted msg.flags = true → ∀ fragment ∈ fragments.getLast?,
    1 ≤ fragment.chunk.length ∧ fragment.chunk.length ≤ maxSize
  header : ∀ fragment ∈ fragments, fragment.channel = msg.channel ∧
    otherBits fragment.flags = otherBits msg.flags
  total : ∀ fragment ∈ fragments, fragment.total =
    if frameBits fragment.flags = FrameType.First.mask then some msg.content.length else none

/-- The fragments that follow a First frame: Middle ones and a Last one. -/
def continuation (channel flags : UInt8) : List Bytes → List Fragment
  | [] => []
  | [chunk] => [⟨channel, flags ||| FrameType.Last.mask, none, chunk⟩]
  | chunk :: next :: chunks =>
      ⟨channel, flags, none, chunk⟩ :: continuation channel flags (next :: chunks)

def opening (channel flags : UInt8) (total : Nat) : List Bytes → List Fragment
  | [] => []
  | [chunk] => [⟨channel, flags, none, chunk⟩]
  | chunk :: next :: chunks =>
      ⟨channel, otherBits flags ||| FrameType.First.mask, some total, chunk⟩ ::
        continuation channel (otherBits flags) (next :: chunks)

/-- What is still to be sent of a queued message. Cleared frame bits mark one
whose First frame is already out. -/
def Message.pending (maxSize : Nat) (msg : Message) : List Fragment :=
  if isEncrypted msg.flags then
    let chunks := Chunking.cut maxSize (msg.content.drop msg.offset)
    if frameBits msg.flags = 0 then continuation msg.channel msg.flags chunks
    else opening msg.channel msg.flags msg.content.length chunks
  else
    [⟨msg.channel, msg.flags, none, msg.content⟩]

theorem map_chunk_continuation (channel flags : UInt8) (chunks : List Bytes) :
    (continuation channel flags chunks).map Fragment.chunk = chunks := by
  fun_induction continuation channel flags chunks with
  | case1 => rfl
  | case2 chunk => rfl
  | case3 chunk next chunks inductionHypothesis => simp [inductionHypothesis]

theorem map_chunk_opening (channel flags : UInt8) (total : Nat) (chunks : List Bytes) :
    (opening channel flags total chunks).map Fragment.chunk = chunks := by
  cases chunks with
  | nil => rfl
  | cons chunk chunks =>
      cases chunks with
      | nil => rfl
      | cons next chunks => simp [opening, map_chunk_continuation]

theorem mem_continuation {channel flags : UInt8} {chunks : List Bytes} {fragment : Fragment}
    (cleared : frameBits flags = 0) (membership : fragment ∈ continuation channel flags chunks) :
    fragment.channel = channel ∧ fragment.total = none ∧ otherBits fragment.flags = flags ∧
      (frameBits fragment.flags = 0 ∨ frameBits fragment.flags = FrameType.Last.mask) := by
  have kept := otherBits_of_frameBits cleared
  have last := frameBits_last flags
  have lastKept := otherBits_or_mask flags .Last
  rw [kept] at last lastKept
  fun_induction continuation channel flags chunks with
  | case1 => simp at membership
  | case2 chunk =>
      obtain rfl := List.mem_singleton.mp membership
      exact ⟨rfl, rfl, lastKept, .inr last⟩
  | case3 chunk next chunks inductionHypothesis =>
      rcases List.mem_cons.mp membership with rfl | later
      · exact ⟨rfl, rfl, kept, .inl cleared⟩
      · exact inductionHypothesis later

theorem frameBits_continuation {channel flags : UInt8} {chunks : List Bytes}
    (cleared : frameBits flags = 0) (nonempty : chunks ≠ []) :
    ∃ middles, (continuation channel flags chunks).map
        (fun fragment => frameBits fragment.flags) =
      List.replicate middles 0 ++ [FrameType.Last.mask] := by
  have last := frameBits_last flags
  rw [otherBits_of_frameBits cleared] at last
  fun_induction continuation channel flags chunks with
  | case1 => exact absurd rfl nonempty
  | case2 chunk => exact ⟨0, by simp [last]⟩
  | case3 chunk next chunks inductionHypothesis =>
      obtain ⟨middles, rest⟩ := inductionHypothesis (by simp)
      exact ⟨middles + 1, by simp [rest, List.replicate_succ, cleared]⟩

theorem mem_opening {channel flags : UInt8} {total : Nat} {chunks : List Bytes}
    {fragment : Fragment} (bulk : frameBits flags = FrameType.Bulk.mask)
    (membership : fragment ∈ opening channel flags total chunks) :
    fragment.channel = channel ∧ otherBits fragment.flags = otherBits flags ∧
      fragment.total =
        if frameBits fragment.flags = FrameType.First.mask then some total else none := by
  fun_cases opening channel flags total chunks with
  | case1 => simp [opening] at membership
  | case2 chunk =>
      obtain rfl := List.mem_singleton.mp membership
      exact ⟨rfl, rfl, by simp [bulk, FrameType.mask]⟩
  | case3 chunk next chunks =>
      rcases List.mem_cons.mp membership with rfl | later
      · exact ⟨rfl, otherBits_or_mask flags .First, by simp [frameBits_first]⟩
      · obtain ⟨channels, totals, kept, bits⟩ := mem_continuation (frameBits_otherBits flags) later
        refine ⟨channels, kept, ?_⟩
        rcases bits with bits | bits <;> simp [totals, bits, FrameType.mask]

/-- The number of content bytes a message may not reach. -/
def sizeLimit (flags : UInt8) : Nat := if isEncrypted flags then 2 ^ 31 else 2 ^ 16

/-- A message as the callers of `sendMessage` queue it. -/
structure Fresh (msg : Message) : Prop where
  untouched : msg.offset = 0
  bulk : frameBits msg.flags = FrameType.Bulk.mask
  nonempty : isEncrypted msg.flags = true → msg.content ≠ []
  size : msg.content.length < sizeLimit msg.flags

instance (msg : Message) : Decidable (Fresh msg) :=
  decidable_of_iff (msg.offset = 0 ∧ frameBits msg.flags = FrameType.Bulk.mask ∧
      (isEncrypted msg.flags = true → msg.content ≠ []) ∧
      msg.content.length < sizeLimit msg.flags)
    ⟨fun ⟨untouched, bulk, nonempty, size⟩ => ⟨untouched, bulk, nonempty, size⟩,
      fun fresh => ⟨fresh.untouched, fresh.bulk, fresh.nonempty, fresh.size⟩⟩

theorem Fresh.pending_encrypted {maxSize : Nat} {msg : Message} (fresh : Fresh msg)
    (encrypted : isEncrypted msg.flags = true) :
    msg.pending maxSize = opening msg.channel msg.flags msg.content.length
      (Chunking.cut maxSize msg.content) := by
  have set : frameBits msg.flags ≠ 0 := by rw [fresh.bulk]; decide
  simp [Message.pending, encrypted, set, fresh.untouched]

theorem Fresh.pending_plain {maxSize : Nat} {msg : Message}
    (plain : isEncrypted msg.flags = false) :
    msg.pending maxSize = [⟨msg.channel, msg.flags, none, msg.content⟩] := by
  simp [Message.pending, plain]

theorem Fresh.conforms {maxSize : Nat} {msg : Message} (fresh : Fresh msg)
    (positive : 0 < maxSize) : Conforms maxSize msg (msg.pending maxSize) := by
  cases encrypted : isEncrypted msg.flags with
  | false =>
      rw [Fresh.pending_plain encrypted]
      constructor <;> simp [fresh.bulk, encrypted, FrameType.mask]
  | true =>
      rw [fresh.pending_encrypted encrypted]
      have chunks := map_chunk_opening msg.channel msg.flags msg.content.length
        (Chunking.cut maxSize msg.content)
      constructor
      · intro short
        have fits : msg.content.length ≤ maxSize := by simpa [encrypted] using short
        simp [Chunking.cut_of_length_le fits, opening, fresh.bulk]
      · intro _ long
        rw [Chunking.cut_of_lt_length positive long]
        obtain ⟨next, more, cut⟩ := List.exists_cons_of_ne_nil
          (Chunking.cut_ne_nil maxSize (msg.content.drop maxSize))
        obtain ⟨middles, rest⟩ := @frameBits_continuation msg.channel _ (next :: more)
          (frameBits_otherBits msg.flags) (by simp)
        exact ⟨middles, by simp [cut, opening, frameBits_first, rest]⟩
      · rw [chunks, Chunking.cut_flatten]
      · intro _ fragment membership
        apply @Chunking.length_of_mem_dropLast_cut _ _ msg.content
        rw [← chunks, ← List.map_dropLast]
        exact List.mem_map_of_mem membership
      · intro _ fragment membership
        apply Chunking.length_of_getLast_cut positive (fresh.nonempty encrypted)
        rw [← chunks, List.getLast?_map, Option.mem_def.mp membership, Option.map_some]
      · intro fragment membership
        obtain ⟨channel, kept, -⟩ := mem_opening fresh.bulk membership
        exact ⟨channel, kept⟩
      · intro fragment membership
        exact (mem_opening fresh.bulk membership).2.2

def Fragment.Fits (fragment : Fragment) (payload : Bytes) : Prop :=
  payload.length < 2 ^ 16 ∧ ∀ total ∈ fragment.total, total < 2 ^ 32

/-- The frames carry the fragments from one state of the stream to another: a
Plain chunk as it is, an Encrypted one as the record it is sealed to, under
header fields that fit. -/
inductive Carried {σ : Type} (tls : Sealer σ UInt8) : σ → List Fragment → List Bytes → σ → Prop
  | nil {state} : Carried tls state [] [] state
  | plain {state final fragment fragments frames} :
      isEncrypted fragment.flags = false → fragment.Fits fragment.chunk →
      Carried tls state fragments frames final →
      Carried tls state (fragment :: fragments) (fragment.encode fragment.chunk :: frames) final
  | sealed {state next final fragment record fragments frames} :
      isEncrypted fragment.flags = true → tls.write state fragment.chunk = some (next, record) →
      fragment.Fits record → Carried tls next fragments frames final →
      Carried tls state (fragment :: fragments) (fragment.encode record :: frames) final

theorem Carried.cons {σ : Type} {tls : Sealer σ UInt8} {state next final : σ}
    {fragment : Fragment} {fragments : List Fragment} {frame : Bytes} {frames : List Bytes}
    (first : Carried tls state [fragment] [frame] next)
    (rest : Carried tls next fragments frames final) :
    Carried tls state (fragment :: fragments) (frame :: frames) final := by
  cases first with
  | plain plain fits done =>
      cases done
      exact .plain plain fits rest
  | sealed encrypted written fits done =>
      cases done
      exact .sealed encrypted written fits rest

theorem Carried.split {σ : Type} {tls : Sealer σ UInt8} {first second : List Fragment}
    {state final : σ} {frames : List Bytes}
    (carried : Carried tls state (first ++ second) frames final) :
    ∃ middle early late, frames = early ++ late ∧ Carried tls state first early middle ∧
      Carried tls middle second late final := by
  induction first generalizing state frames with
  | nil => exact ⟨state, [], frames, rfl, .nil, carried⟩
  | cons fragment first inductionHypothesis =>
      cases carried with
      | plain plain fits rest =>
          obtain ⟨middle, early, late, rfl, before, after⟩ := inductionHypothesis rest
          exact ⟨middle, _ :: early, late, rfl, .plain plain fits before, after⟩
      | sealed encrypted written fits rest =>
          obtain ⟨middle, early, late, rfl, before, after⟩ := inductionHypothesis rest
          exact ⟨middle, _ :: early, late, rfl, .sealed encrypted written fits before, after⟩

end AACS
