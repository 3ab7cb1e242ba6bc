import AACS.Client.Setup

/-!
What the retries of `AAClient::setup` make of failed transfers.

The content gathered so far lives in the locals of `getMessage`, so a fault
inside a message loses it, and the frames that are left pass for messages.
-/

namespace AACS

open RecordLayer

variable {ρ τ : Type}

/-- A message as the phone sends it: whole, or cut into pieces. -/
structure PhoneMessage where
  channel : UInt8
  flags : UInt8
  chunks : List Bytes
  bulk : frameBits flags = FrameType.Bulk.mask
  sent : chunks ≠ []

namespace PhoneMessage

def message (msg : PhoneMessage) : Message := ⟨msg.channel, msg.flags, msg.chunks.flatten, 0⟩

def fragments (msg : PhoneMessage) : List Fragment :=
  opening msg.channel msg.flags msg.chunks.flatten.length msg.chunks

end PhoneMessage

/-- Each frame after the result codes of the transfers that failed before it. -/
def interleave : List (List Int) → List Bytes → List Transfer
  | gap :: gaps, bytes :: frames =>
      gap.map .failed ++ .completed bytes :: interleave gaps frames
  | _, _ => []

structure Sending where
  msg : PhoneMessage
  frames : List Bytes
  gaps : List (List Int)

namespace Sending

def transfers (sending : Sending) : List Transfer := interleave sending.gaps sending.frames

/-- No fault falls between two frames of the message. -/
def Undisturbed (sending : Sending) : Prop := ∀ gap ∈ sending.gaps.tail, gap = []

/-- All data is in the last frame, and faults fall only before it and before the first one, and
are not too many together. -/
structure Spared (sending : Sending) : Prop where
  late : ∀ chunk ∈ sending.msg.chunks.dropLast, chunk = []
  between : ∀ gap ∈ sending.gaps.tail.dropLast, gap = []
  few : sending.gaps.flatten.length < 30

/-- The frames decrypt in order, and fewer than thirty transfers in a row fail. -/
structure Delivered (opener : Opener ρ DecryptFailure UInt8) (peer : ρ) (sending : Sending)
    (next : ρ) : Prop where
  arriving : Arriving opener peer sending.msg.fragments sending.frames next
  gaps : sending.gaps.length = sending.frames.length
  few : ∀ gap ∈ sending.gaps, gap.length < 30

end Sending

inductive AllDelivered (opener : Opener ρ DecryptFailure UInt8) : ρ → List Sending → ρ → Prop
  | nil {peer} : AllDelivered opener peer [] peer
  | cons {peer next final sending sendings} : sending.Delivered opener peer next →
      AllDelivered opener next sendings final →
      AllDelivered opener peer (sending :: sendings) final

/-- The first fault inside a message: what is before it is lost, and the fragment behind it passes
for a message. -/
structure Broken (sending : Sending) where
  first : Bytes
  early : List Bytes
  chunk : Bytes
  later : List Bytes
  before : List Int
  result : Int
  gap : List Int
  gapsLater : List (List Int)
  chunks : sending.msg.chunks = first :: (early ++ chunk :: later)
  gaps : sending.gaps = before :: (early.map (fun _ => []) ++ (result :: gap) :: gapsLater)
  paired : gapsLater.length = later.length

namespace Broken

variable {sending : Sending}

def message (broken : Broken sending) : Message :=
  ⟨sending.msg.channel, sending.msg.flags, broken.chunk, 0⟩

theorem content_eq (broken : Broken sending) : sending.msg.message.content =
    broken.first ++ (broken.early.flatten ++ (broken.chunk ++ broken.later.flatten)) := by
  rw [PhoneMessage.message, broken.chunks, List.flatten_cons, List.flatten_append,
    List.flatten_cons]

theorem spared_of_eq (broken : Broken sending) (cut : WellCut sending.msg.chunks)
    (few : broken.before.length + 1 + broken.gap.length < 30)
    (same : broken.message = sending.msg.message) : sending.Spared := by
  have sizes := congrArg (fun msg => msg.content.length) same
  simp only [broken.content_eq, List.length_append, message] at sizes
  obtain ⟨data, -⟩ := cut.resolve_left (by simp [broken.chunks])
  -- data behind the fault would be missing
  have last : broken.later = [] := by
    by_contra more
    have size := flatten_length_pos more fun last inside => data last (by
      rw [broken.chunks, List.getLast?_cons, List.getLast?_append, List.getLast?_cons, inside]
      rfl)
    omega
  have single : broken.gapsLater = [] := List.length_eq_zero_iff.mp (by simp [broken.paired, last])
  have first : broken.first = [] := List.length_eq_zero_iff.mp (by omega)
  have early : broken.early.flatten = [] := List.length_eq_zero_iff.mp (by omega)
  refine ⟨?_, ?_, ?_⟩
  · rw [broken.chunks, last, ← List.cons_append, List.dropLast_concat]
    exact List.forall_mem_cons.mpr ⟨first, List.flatten_eq_nil_iff.mp early⟩
  · rw [broken.gaps, single, List.tail_cons, List.dropLast_concat]
    simp
  · rw [broken.gaps, single]
    simpa [List.flatten_eq_nil_iff, ← Nat.add_assoc, Nat.add_right_comm] using few

theorem eq_of_spared (broken : Broken sending) (spared : sending.Spared) :
    broken.later = [] ∧ broken.before.length + 1 + broken.gap.length < 30 ∧
      broken.message = sending.msg.message := by
  obtain ⟨late, between, few⟩ := spared
  have single : broken.gapsLater = [] := by
    by_contra more
    rw [broken.gaps, List.tail_cons, List.dropLast_append_of_ne_nil (List.cons_ne_nil _ _),
      List.dropLast_cons_of_ne_nil more] at between
    exact List.cons_ne_nil _ _ (between _ (List.mem_append_right _ (List.mem_cons_self ..)))
  have last : broken.later = [] := List.length_eq_zero_iff.mp (by simp [← broken.paired, single])
  rw [broken.chunks, last, ← List.cons_append, List.dropLast_concat] at late
  obtain ⟨first, early⟩ := List.forall_mem_cons.mp late
  have content : sending.msg.message.content = broken.chunk := by
    rw [broken.content_eq, first, List.flatten_eq_nil_iff.mpr early, last]
    simp
  refine ⟨last, ?_, ?_⟩
  · rw [broken.gaps, single] at few
    simpa [List.flatten_eq_nil_iff, ← Nat.add_assoc, Nat.add_right_comm] using few
  · rw [message, ← content]
    rfl

end Broken

theorem interleave_of_empty {gaps : List (List Int)} {frames : List Bytes}
    (paired : gaps.length = frames.length) (empty : ∀ gap ∈ gaps, gap = []) :
    interleave gaps frames = frames.map .completed := by
  induction frames generalizing gaps with
  | nil => simp [List.length_eq_zero_iff.mp paired, interleave]
  | cons bytes frames inductionHypothesis =>
      obtain ⟨gap, gaps, rfl⟩ := List.exists_cons_of_length_eq_add_one paired
      obtain ⟨rfl, others⟩ := List.forall_mem_cons.mp empty
      simp [interleave, inductionHypothesis (Nat.succ.inj paired) others]

theorem Arriving.length {opener : Opener ρ DecryptFailure UInt8} {peer final : ρ}
    {fragments : List Fragment} {frames : List Bytes}
    (arriving : Arriving opener peer fragments frames final) :
    fragments.length = frames.length := by
  induction arriving with
  | nil => rfl
  | cons arrives rest inductionHypothesis => simp [inductionHypothesis]

theorem PhoneMessage.fragments_ne_nil (msg : PhoneMessage) : msg.fragments ≠ [] := by
  intro none
  have chunks := congrArg (List.map Fragment.chunk) none
  rw [PhoneMessage.fragments, map_chunk_opening] at chunks
  exact msg.sent chunks

theorem Sending.Delivered.split {opener : Opener ρ DecryptFailure UInt8} {peer next : ρ}
    {sending : Sending} (delivered : sending.Delivered opener peer next) :
    ∃ gap gaps bytes frames, sending.gaps = gap :: gaps ∧ sending.frames = bytes :: frames ∧
      gaps.length = frames.length ∧ gap.length < 30 ∧ ∀ gap ∈ gaps, gap.length < 30 := by
  obtain ⟨arriving, paired, few⟩ := delivered
  have more := List.length_pos_iff.mpr sending.msg.fragments_ne_nil
  rw [arriving.length] at more
  obtain ⟨bytes, frames, sent⟩ := List.exists_cons_of_length_pos more
  rw [sent] at paired
  obtain ⟨gap, gaps, between⟩ := List.exists_cons_of_length_eq_add_one paired
  rw [between] at paired few
  exact ⟨gap, gaps, bytes, frames, between, sent, Nat.succ.inj paired,
    List.forall_mem_cons.mp few⟩

theorem Sending.Delivered.two_chunks {opener : Opener ρ DecryptFailure UInt8} {peer next : ρ}
    {sending : Sending} (delivered : sending.Delivered opener peer next)
    (disturbed : ¬ sending.Undisturbed) :
    ∃ first second chunks, sending.msg.chunks = first :: second :: chunks := by
  obtain ⟨gap, gaps, bytes, frames, between, sent, paired, -, -⟩ := delivered.split
  have later : 0 < gaps.length := by
    apply List.length_pos_iff.mpr
    rintro rfl
    apply disturbed
    simp [Sending.Undisturbed, between]
  have sizes := delivered.arriving.length
  rw [PhoneMessage.fragments, ← List.length_map Fragment.chunk, map_chunk_opening, sent,
    List.length_cons, ← paired] at sizes
  obtain ⟨first, rest, cut⟩ := List.exists_cons_of_length_eq_add_one sizes
  rw [cut, List.length_cons] at sizes
  obtain ⟨second, chunks, rfl⟩ := List.exists_cons_of_length_pos (by omega : 0 < rest.length)
  exact ⟨first, second, chunks, cut⟩

namespace AAClient

/-- A fault after a First frame ends the call; the frame behind the faults is not
a First one. -/
theorem getMessageFrom_interrupted {opener : Opener ρ DecryptFailure UInt8} {peer final : ρ}
    {channel flags : UInt8} {chunks : List Bytes} {frames : List Bytes} {gaps : List (List Int)}
    (arriving : Arriving opener peer (continuation channel flags chunks) frames final)
    (soFar : Reassembly) (rest : List Transfer) (paired : gaps.length = frames.length)
    (disturbed : ∃ gap ∈ gaps, gap ≠ []) (data : ∀ last ∈ chunks.getLast?, last ≠ [])
    (total : asSizeT soFar.totalLength = soFar.fullContent.length + chunks.flatten.length) :
    ∃ (what : String) (reached next : ρ) (early later : List Bytes) (result : Int)
        (gap : List Int) (gapsLater : List (List Int)) (fragment : Fragment) (bytes : Bytes)
        (left : List Transfer),
      getMessageFrom opener peer soFar (interleave gaps frames ++ rest) =
        .threw (.runtimeError what) reached (gap.map .failed ++ .completed bytes :: left) ∧
      chunks = early ++ fragment.chunk :: later ∧
      gaps = early.map (fun _ => []) ++ (result :: gap) :: gapsLater ∧
      gapsLater.length = later.length ∧ Arrives opener reached fragment bytes next ∧
      fragment.total = none ∧ fragment.channel = channel ∧
      fragment.flags ||| FrameType.Bulk.mask = flags ||| FrameType.Bulk.mask ∧
      (later = [] → left = rest ∧ next = final) := by
  induction chunks generalizing peer frames gaps soFar with
  | nil =>
      cases arriving
      simp_all
  | cons chunk chunks inductionHypothesis =>
      obtain ⟨fragment, fragments, whole, silent, carries, own, bits, rfl⟩ :
          ∃ fragment fragments, continuation channel flags (chunk :: chunks) =
            fragment :: fragments ∧ fragment.total = none ∧ fragment.chunk = chunk ∧
            fragment.channel = channel ∧
            fragment.flags ||| FrameType.Bulk.mask = flags ||| FrameType.Bulk.mask ∧
            fragments = continuation channel flags chunks := by
        cases chunks with
        | nil => exact ⟨_, _, rfl, rfl, rfl, rfl, or_mask_or_bulk _ _, rfl⟩
        | cons => exact ⟨_, _, rfl, rfl, rfl, rfl, rfl, rfl⟩
      rw [whole] at arriving
      cases arriving with
      | @cons _ next _ _ bytes _ frames arrives others =>
          obtain ⟨gap, gaps, rfl⟩ := List.exists_cons_of_length_eq_add_one paired
          have sizes := others.length
          rw [← List.length_map Fragment.chunk, map_chunk_continuation] at sizes
          cases gap with
          | cons result gap =>
              refine ⟨"in transfer failed: " ++ toString result, peer, next, [], chunks, result,
                gap, gaps, fragment, bytes, interleave gaps frames ++ rest, ?_,
                by simp [carries], rfl, (Nat.succ.inj paired).trans sizes.symm, arrives, silent,
                own, bits, ?_⟩
              · simp only [interleave, List.map_cons, List.cons_append, List.append_assoc]
                exact getMessageFrom_failed peer soFar result _
              · rintro rfl
                cases others
                rw [List.length_eq_zero_iff.mp (Nat.succ.inj paired)]
                exact ⟨rfl, rfl⟩
          | nil =>
              obtain ⟨after, full, same, pass⟩ :=
                getMessageFrom_arrives soFar (interleave gaps frames ++ rest) arrives
              have inside : ∃ gap ∈ gaps, gap ≠ [] := by simpa using disturbed
              have more : chunks ≠ [] := by
                rintro rfl
                cases others
                simp_all
              obtain ⟨second, chunks, rfl⟩ := List.exists_cons_of_ne_nil more
              rw [List.getLast?_cons_cons] at data
              have size := flatten_length_pos more data
              have remaining : asSizeT after.totalLength =
                  after.fullContent.length + (second :: chunks).flatten.length := by
                rw [full, same, silent, carries, List.length_append, Nat.add_assoc]
                simpa using total
              have incomplete : after.fullContent.length < asSizeT after.totalLength := by omega
              obtain ⟨what, reached, next, early, later, result, gap, gapsLater, found, foundBytes,
                left, threw, split, between, facts⟩ := inductionHypothesis others after
                  (Nat.succ.inj paired) inside data remaining
              refine ⟨what, reached, next, chunk :: early, later, result, gap, gapsLater, found,
                foundBytes, left, ?_, by rw [split, List.cons_append], by rw [between]; rfl, facts⟩
              rw [interleave, List.map_nil, List.nil_append, List.cons_append, pass,
                if_pos incomplete, threw]

variable {opener : Opener ρ DecryptFailure UInt8} {dispatch : Handler τ}
  {stack : Nat → Buffer}

theorem setupLoop_undisturbed {peer next : ρ} {sending : Sending} (state : τ)
    (rest : List Transfer) (delivered : sending.Delivered opener peer next)
    (cut : WellCut sending.msg.chunks) (undisturbed : sending.Undisturbed) :
    (setupLoop opener dispatch stack 0 peer state (sending.transfers ++ rest)).1 =
      match dispatch state sending.msg.message with
      | (_, .error _) => [sending.msg.message]
      | (state, .ok _) =>
          sending.msg.message :: (setupLoop opener dispatch stack 0 next state rest).1 := by
  obtain ⟨gap, gaps, bytes, frames, between, sent, paired, few, -⟩ := delivered.split
  have empty : ∀ gap ∈ gaps, gap = [] := by simpa [Sending.Undisturbed, between] using undisturbed
  have transfers : sending.transfers ++ rest =
      gap.map Transfer.failed ++ (sending.frames.map Transfer.completed ++ rest) := by
    simp [Sending.transfers, between, sent, interleave, interleave_of_empty paired empty]
  have bits : sending.msg.flags ||| FrameType.Bulk.mask = sending.msg.flags :=
    or_bulk_eq_self sending.msg.bulk
  have returned := getMessage_opening delivered.arriving
    (stack (sending.frames.map Transfer.completed ++ rest).length) rest sending.msg.sent cut
  rw [bits] at returned
  rw [transfers, setupLoop_faults state gap _ (by omega),
    setupLoop_returned state (by omega) returned]
  rfl

/-- A fault inside a message makes the fragment behind it the next message, unless it is the last
that the loop puts up with. -/
theorem setupLoop_disturbed {peer next : ρ} {sending : Sending} (state : τ)
    (rest : List Transfer) (delivered : sending.Delivered opener peer next)
    (cut : WellCut sending.msg.chunks) (disturbed : ¬ sending.Undisturbed) :
    ∃ broken : Broken sending, ∃ (reached : ρ) (left : List Transfer),
      (broken.later = [] → left = rest ∧ reached = next) ∧
      (setupLoop opener dispatch stack 0 peer state (sending.transfers ++ rest)).1 =
        if broken.before.length + 1 + broken.gap.length < 30 then
          match dispatch state broken.message with
          | (_, .error _) => [broken.message]
          | (state, .ok _) =>
              broken.message :: (setupLoop opener dispatch stack 0 reached state left).1
        else [] := by
  obtain ⟨gap, gaps, bytes, frames, between, sent, paired, few, -⟩ := delivered.split
  obtain ⟨first, second, chunks, parts⟩ := delivered.two_chunks disturbed
  have inside : ∃ gap ∈ gaps, gap ≠ [] := by
    simpa [Sending.Undisturbed, between] using disturbed
  have transfers : sending.transfers ++ rest =
      gap.map Transfer.failed ++ .completed bytes :: (interleave gaps frames ++ rest) := by
    simp [Sending.transfers, between, sent, interleave]
  obtain ⟨arriving, -, -⟩ := delivered
  obtain ⟨data, small⟩ := cut.resolve_left (by simp [parts])
  rw [PhoneMessage.fragments, sent, parts] at arriving
  rw [parts, List.getLast?_cons_cons] at data
  rw [parts] at small
  cases arriving with
  | cons arrives others =>
      obtain ⟨after, full, same, pass⟩ := getMessageFrom_arrives
        { buffer := stack (.completed bytes :: (interleave gaps frames ++ rest)).length }
        (interleave gaps frames ++ rest) arrives
      have size := flatten_length_pos (List.cons_ne_nil _ _) data
      have remaining : asSizeT after.totalLength =
          after.fullContent.length + (second :: chunks).flatten.length := by
        rw [full, same, Option.elim_some, asSizeT_toInt32 small]
        simp
      have incomplete : after.fullContent.length < asSizeT after.totalLength := by omega
      obtain ⟨what, reached, further, early, later, result, inner, gapsLater, fragment, found, left,
        threw, split, within, sizes, arrivesFound, silent, own, bits, ends⟩ :=
          getMessageFrom_interrupted others after rest paired inside data remaining
      have failed : getMessage opener
          (stack (.completed bytes :: (interleave gaps frames ++ rest)).length) peer
          (.completed bytes :: (interleave gaps frames ++ rest)) = _ :=
        pass.trans ((if_pos incomplete).trans threw)
      refine ⟨⟨first, early, fragment.chunk, later, gap, result, inner, gapsLater,
        by rw [parts, split], by rw [between, within], sizes⟩, further, left, ends, ?_⟩
      rw [transfers, setupLoop_faults state gap _ (by omega),
        setupLoop_threw state (by omega) rfl failed, Nat.zero_add]
      split
      next enough =>
        obtain ⟨partly, fullFound, sameFound, passFound⟩ := getMessageFrom_arrives
          { buffer := stack (Transfer.completed found :: left).length } left arrivesFound
        have complete : ¬ partly.fullContent.length < asSizeT partly.totalLength := by
          rw [sameFound, silent]
          exact Nat.not_lt_zero _
        have returned : getMessage opener (stack (Transfer.completed found :: left).length) reached
            (.completed found :: left) = _ := passFound.trans (if_neg complete)
        have whole : (⟨fragment.channel, fragment.flags ||| FrameType.Bulk.mask,
            partly.fullContent, 0⟩ : Message) =
            ⟨sending.msg.channel, sending.msg.flags, fragment.chunk, 0⟩ := by
          rw [own, bits, otherBits_or_bulk, or_bulk_eq_self sending.msg.bulk, fullFound,
            List.nil_append]
        rw [whole] at returned
        rw [setupLoop_faults state inner _ enough, setupLoop_returned state enough returned]
        rfl
      next many =>
        have many : ¬ gap.length + 1 + inner.length < 30 := many
        rw [setupLoop_gaveUp state inner _ (by omega)]

theorem setupLoop_spared {peer next : ρ} {sending : Sending} (state : τ) (rest : List Transfer)
    (delivered : sending.Delivered opener peer next) (cut : WellCut sending.msg.chunks)
    (spared : sending.Undisturbed ∨ sending.Spared) :
    (setupLoop opener dispatch stack 0 peer state (sending.transfers ++ rest)).1 =
      match dispatch state sending.msg.message with
      | (_, .error _) => [sending.msg.message]
      | (state, .ok _) =>
          sending.msg.message :: (setupLoop opener dispatch stack 0 next state rest).1 := by
  by_cases undisturbed : sending.Undisturbed
  · exact setupLoop_undisturbed state rest delivered cut undisturbed
  · obtain ⟨broken, reached, left, ends, loop⟩ := @setupLoop_disturbed _ _ _ dispatch stack _ _ _
      state rest delivered cut undisturbed
    obtain ⟨last, few, same⟩ := broken.eq_of_spared (spared.resolve_left undisturbed)
    obtain ⟨rfl, rfl⟩ := ends last
    rw [loop, if_pos few, same]

/-- In front of a message that is neither, something else comes first, if anything does. -/
theorem setupLoop_broken {peer next : ρ} {sending : Sending} (state : τ) (rest : List Transfer)
    (delivered : sending.Delivered opener peer next) (cut : WellCut sending.msg.chunks)
    (lost : ¬ (sending.Undisturbed ∨ sending.Spared)) :
    (setupLoop opener dispatch stack 0 peer state (sending.transfers ++ rest)).1.head? ≠
      some sending.msg.message := by
  obtain ⟨disturbed, unspared⟩ := not_or.mp lost
  obtain ⟨broken, reached, left, -, loop⟩ := @setupLoop_disturbed _ _ _ dispatch stack _ _ _ state
    rest delivered cut disturbed
  rw [loop]
  split
  next few =>
    intro same
    apply unspared (broken.spared_of_eq cut few _)
    split at same <;> exact Option.some.inj same
  next =>
    intro impossible
    cases impossible

theorem setupLoop_iff {peer final : ρ} (state : τ) {sendings : List Sending} (trailing : List Int)
    (delivered : AllDelivered opener peer sendings final) (few : trailing.length < 30)
    (cut : ∀ sending ∈ sendings.take (handOver dispatch state
      (sendings.map fun sending => sending.msg.message)).length, WellCut sending.msg.chunks) :
    (setupLoop opener dispatch stack 0 peer state
        (sendings.flatMap Sending.transfers ++ trailing.map .failed)).1 =
      handOver dispatch state (sendings.map fun sending => sending.msg.message) ↔
    ∀ sending ∈ sendings.take (handOver dispatch state
      (sendings.map fun sending => sending.msg.message)).length,
        sending.Undisturbed ∨ sending.Spared := by
  induction delivered generalizing state with
  | nil =>
      rw [List.flatMap_nil, List.nil_append, ← List.append_nil (trailing.map _),
        setupLoop_faults state trailing _ (by omega), setupLoop_nil state (by omega)]
      simp [handOver]
  | @cons peer next final sending sendings first rest inductionHypothesis =>
      have head := head?_handOver dispatch state sending.msg.message
        (sendings.map fun sending => sending.msg.message)
      have among : sending ∈ (sending :: sendings).take (handOver dispatch state
          ((sending :: sendings).map fun sending => sending.msg.message)).length := by
        obtain ⟨messages, given⟩ := List.head?_eq_some_iff.mp head
        simp [given]
      have cutHere := cut sending among
      rw [List.flatMap_cons, List.append_assoc, List.map_cons]
      by_cases spared : sending.Undisturbed ∨ sending.Spared
      · rw [List.map_cons, handOver] at cut
        rw [setupLoop_spared state _ first cutHere spared, handOver]
        rcases dispatched : dispatch state sending.msg.message with ⟨after, thrown | _⟩
        · simp [spared]
        · rw [dispatched] at cut
          have later := inductionHypothesis after (List.forall_mem_cons.mp cut).2
          simpa [spared] using later
      · have different := @setupLoop_broken _ _ _ dispatch stack _ _ _ state
          (sendings.flatMap Sending.transfers ++ trailing.map .failed) first cutHere spared
        refine iff_of_false (fun same => ?_) fun all => spared (all sending among)
        exact different (same ▸ head)

end AAClient

/-- The loop gives its dispatch the phone's messages when each of those that the dispatch is to be
given is well cut, and no fault falls inside it or it is spared; of messages that are well cut, only
then. -/
theorem transfer_faults (opener : Opener ρ DecryptFailure UInt8)
    (dispatch : Handler τ) (stack : Nat → Buffer) (peer final : ρ)
    (state : τ) (sendings : List Sending) (trailing : List Int)
    (delivered : AllDelivered opener peer sendings final) (few : trailing.length < 30) :
    ((∀ sending ∈ sendings.take (handOver dispatch state
        (sendings.map fun sending => sending.msg.message)).length,
          WellCut sending.msg.chunks ∧ (sending.Undisturbed ∨ sending.Spared)) →
      (AAClient.setupLoop opener dispatch stack 0 peer state
          (sendings.flatMap Sending.transfers ++ trailing.map .failed)).1 =
        handOver dispatch state (sendings.map fun sending => sending.msg.message)) ∧
    ((∀ sending ∈ sendings.take (handOver dispatch state
        (sendings.map fun sending => sending.msg.message)).length,
          WellCut sending.msg.chunks) →
      (AAClient.setupLoop opener dispatch stack 0 peer state
          (sendings.flatMap Sending.transfers ++ trailing.map .failed)).1 =
        handOver dispatch state (sendings.map fun sending => sending.msg.message) →
      ∀ sending ∈ sendings.take (handOver dispatch state
        (sendings.map fun sending => sending.msg.message)).length,
          sending.Undisturbed ∨ sending.Spared) := by
  refine ⟨fun kept => ?_, fun cut => (AAClient.setupLoop_iff state trailing delivered few cut).mp⟩
  exact (AAClient.setupLoop_iff state trailing delivered few fun sending inside =>
    (kept sending inside).1).mpr fun sending inside => (kept sending inside).2

/-- Two Plain frames with the given faults between them. -/
def twoFrames (gap : List Int) : Sending where
  msg := ⟨3, 3, [[65], [66]], by decide, by decide⟩
  frames := [[3, 1, 0, 1, 0, 0, 0, 2, 65], [3, 2, 0, 1, 66]]
  gaps := [[], gap]

theorem twoFrames_delivered {gap : List Int} (few : gap.length < 30) :
    AllDelivered (nullOpener .bioWrite) 0 [twoFrames gap] 0 := by
  have first : (1 : UInt8) = otherBits 3 ||| FrameType.First.mask := by decide
  have last : (2 : UInt8) = otherBits 3 ||| FrameType.Last.mask := by decide
  exact .cons ⟨.cons ⟨by decide, _, rfl, rfl, first, rfl, rfl⟩
    (.cons ⟨by decide, _, rfl, rfl, last, rfl, rfl⟩ .nil), rfl, by simp [twoFrames, few]⟩ .nil

theorem transfer_faults_before_message :
    (AAClient.setupLoop (nullOpener .bioWrite) (fun _ _ => ((), .ok ())) (fun _ _ => 0) 0 0 ()
        ([twoFrames []].flatMap Sending.transfers ++ [-7].map .failed)).1 =
      handOver (fun _ _ => ((), .ok ())) ()
        ([twoFrames []].map fun sending => sending.msg.message) := by
  refine (transfer_faults (nullOpener .bioWrite) (fun _ _ => ((), .ok ())) (fun _ _ => 0) 0 0 ()
    [twoFrames []] [-7] (twoFrames_delivered (by decide)) (by decide)).1 fun sending inside => ?_
  obtain rfl := List.mem_singleton.mp inside
  exact ⟨.inr ⟨by decide, by decide⟩, .inl (by simp [Sending.Undisturbed, twoFrames])⟩

/-- All data is in the First frame. -/
def emptyLast : Sending where
  msg := ⟨3, 3, [[65, 66], []], by decide, by decide⟩
  frames := [[3, 1, 0, 2, 0, 0, 0, 2, 65, 66], [3, 2, 0, 0]]
  gaps := [[], []]

theorem emptyLast_delivered : AllDelivered (nullOpener .bioWrite) 0 [emptyLast] 0 := by
  have first : (1 : UInt8) = otherBits 3 ||| FrameType.First.mask := by decide
  have last : (2 : UInt8) = otherBits 3 ||| FrameType.Last.mask := by decide
  exact .cons ⟨.cons ⟨by decide, _, rfl, rfl, first, rfl, rfl⟩
    (.cons ⟨by decide, _, rfl, rfl, last, rfl, rfl⟩ .nil), rfl, by simp [emptyLast]⟩ .nil

/-- One timeout between the two frames: the second passes for the message. A Last frame without
data passes for another message. -/
theorem fault_inside_message_dispatches_fragment :
    (AllDelivered (nullOpener .bioWrite) 0 [twoFrames [-7]] 0 ∧
      [twoFrames [-7]].map (fun sending => sending.msg.message) = [⟨3, 3, [65, 66], 0⟩] ∧
      (AAClient.setupLoop (nullOpener .bioWrite) (fun _ _ => ((), .ok ())) (fun _ _ => 0) 0 0 ()
        ([twoFrames [-7]].flatMap Sending.transfers)).1 = [⟨3, 3, [66], 0⟩]) ∧
    AllDelivered (nullOpener .bioWrite) 0 [emptyLast] 0 ∧
      [emptyLast].map (fun sending => sending.msg.message) = [⟨3, 3, [65, 66], 0⟩] ∧
      (AAClient.setupLoop (nullOpener .bioWrite) (fun _ _ => ((), .ok ())) (fun _ _ => 0) 0 0 ()
        ([emptyLast].flatMap Sending.transfers)).1 = [⟨3, 3, [65, 66], 0⟩, ⟨3, 3, [], 0⟩] := by
  refine ⟨⟨twoFrames_delivered (by decide), rfl, ?_⟩, emptyLast_delivered, rfl, ?_⟩
  · have interrupted : AAClient.getMessage (nullOpener .bioWrite) (fun _ => 0) 0
        ([twoFrames [-7]].flatMap Sending.transfers) =
          .threw (.runtimeError "in transfer failed: -7") 0 [.completed [3, 2, 0, 1, 66]] := rfl
    have afresh : AAClient.getMessage (nullOpener .bioWrite) (fun _ => 0) 0
        [.completed [3, 2, 0, 1, 66]] = .returned ⟨3, 3, [66], 0⟩ 0 [] := rfl
    rw [AAClient.setupLoop_threw () (by decide) rfl interrupted,
      AAClient.setupLoop_returned () (by decide) afresh]
    simp [AAClient.setupLoop_nil]
  · have whole : AAClient.getMessage (nullOpener .bioWrite) (fun _ => 0) 0
        ([emptyLast].flatMap Sending.transfers) =
          .returned ⟨3, 3, [65, 66], 0⟩ 0 [.completed [3, 2, 0, 0]] := rfl
    have afresh : AAClient.getMessage (nullOpener .bioWrite) (fun _ => 0) 0
        [.completed [3, 2, 0, 0]] = .returned ⟨3, 3, [], 0⟩ 0 [] := rfl
    rw [AAClient.setupLoop_returned () (by decide) whole]
    simp only
    rw [AAClient.setupLoop_returned () (by decide) afresh]
    simp [AAClient.setupLoop_nil]

end AACS
