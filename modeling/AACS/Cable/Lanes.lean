import AACS.Client.RoundTrip
import AACS.Server.RoundTrip

/-!
The two directions of the cable, frame by frame.

A message is cut into frames when it leaves the send queue of one program. `AAClient` puts the
frames of a message together again, transfer by transfer; `AAServer` takes every frame for a
message. Either way the messages that arrive are those that have been put into the queue.
-/

namespace AACS

open RecordLayer

variable {σ ρ : Type}

/-- A send queue, the frames that have left it and the `ssl` object that is to open them. -/
structure Lane (σ ρ : Type) where
  sender : Sender σ
  frames : List Bytes
  opener : ρ

theorem Carried.append {tls : Sealer σ UInt8} {first second : List Fragment}
    {state middle final : σ} {early late : List Bytes}
    (before : Carried tls state first early middle)
    (after : Carried tls middle second late final) :
    Carried tls state (first ++ second) (early ++ late) final := by
  induction before with
  | nil => exact after
  | plain plain fits rest inductionHypothesis => exact .plain plain fits (inductionHypothesis after)
  | sealed encrypted written fits rest inductionHypothesis =>
      exact .sealed encrypted written fits (inductionHypothesis after)

theorem Carried.ne_nil {tls : Sealer σ UInt8} {fragments : List Fragment} {state final : σ}
    {frames : List Bytes} (carried : Carried tls state fragments frames final) :
    ∀ frame ∈ frames, frame ≠ [] := by
  induction carried with
  | nil => simp
  | plain plain fits rest inductionHypothesis =>
      exact List.forall_mem_cons.mpr ⟨by simp [Fragment.encode, Fragment.header],
        inductionHypothesis⟩
  | sealed encrypted written fits rest inductionHypothesis =>
      exact List.forall_mem_cons.mpr ⟨by simp [Fragment.encode, Fragment.header],
        inductionHypothesis⟩

theorem pending_eq_nil {maxSize : Nat} {messages : List Message}
    (none : messages.flatMap (Message.pending maxSize) = []) : messages = [] := by
  cases messages with
  | nil => rfl
  | cons msg messages =>
      exact absurd (List.append_eq_nil_iff.mp none).1 (msg.pending_ne_nil maxSize)

namespace Lane

def put (lane : Lane σ ρ) (messages : List Message) : Lane σ ρ :=
  { lane with sender := { lane.sender with sendQueue := lane.sender.sendQueue ++ messages } }

def sent (lane : Lane σ ρ) (sender : Sender σ) (frame : Bytes) : Lane σ ρ :=
  { lane with sender, frames := lane.frames ++ [frame] }

def taken (lane : Lane σ ρ) (opener : ρ) : Lane σ ρ :=
  { lane with frames := lane.frames.tail, opener }

/-- These fragments are under way or still in the queue, and the two ends are in step. -/
structure Flows (tls : Sealer σ UInt8) (paired : σ → ρ → Prop) (maxSize : Nat) (lane : Lane σ ρ)
    (fragments : List Fragment) : Prop where
  ready : lane.sender.Ready
  sound : ∀ fragment ∈ fragments, fragment.Sound
  carried : ∃ origin early, paired origin lane.opener ∧
    Carried tls origin early lane.frames lane.sender.ssl ∧
    fragments = early ++ lane.sender.sendQueue.flatMap (Message.pending maxSize)

structure Silent (lane : Lane σ ρ) : Prop where
  queue : lane.sender.sendQueue = []
  frames : lane.frames = []

structure Idle (paired : σ → ρ → Prop) (lane : Lane σ ρ) : Prop extends lane.Silent where
  drained : lane.sender.writeBio = []
  together : paired lane.sender.ssl lane.opener

section Steps

variable {tls : Sealer σ UInt8} {opener : Opener ρ DecryptFailure UInt8} {paired : σ → ρ → Prop}
  {maxSize : Nat} {room : Nat → Nat} {lane : Lane σ ρ} {fragments : List Fragment}

theorem Idle.flows (idle : lane.Idle paired) : lane.Flows tls paired maxSize [] where
  ready := ⟨idle.drained, by simp [idle.queue]⟩
  sound := by simp
  carried := ⟨_, [], idle.together, by rw [idle.frames]; exact .nil, by rw [idle.queue]; rfl⟩

theorem Flows.silent_iff (flows : lane.Flows tls paired maxSize fragments) :
    lane.Silent ↔ fragments = [] := by
  obtain ⟨-, -, origin, early, -, carried, rfl⟩ := flows
  constructor
  · intro silent
    rw [silent.frames] at carried
    cases carried
    rw [silent.queue]
    rfl
  · intro none
    obtain ⟨rfl, queue⟩ := List.append_eq_nil_iff.mp none
    refine ⟨pending_eq_nil queue, ?_⟩
    generalize lane.frames = frames at carried
    cases carried
    rfl

theorem Flows.frame_ne_nil (flows : lane.Flows tls paired maxSize fragments) :
    ∀ frame ∈ lane.frames, frame ≠ [] := by
  obtain ⟨-, -, origin, early, -, carried, -⟩ := flows
  exact carried.ne_nil

theorem Flows.put (flows : lane.Flows tls paired maxSize fragments) (positive : 0 < maxSize)
    (small : maxSize ≤ tlsLimit) {messages : List Message} (fresh : ∀ msg ∈ messages, Fresh msg) :
    (lane.put messages).Flows tls paired maxSize
      (fragments ++ messages.flatMap (Message.pending maxSize)) := by
  obtain ⟨ready, sound, origin, early, together, carried, whole⟩ := flows
  refine ⟨⟨ready.drained, fun msg inside => ?_⟩, fun fragment inside => ?_, origin, early, together,
    carried, ?_⟩
  · rcases List.mem_append.mp inside with old | new
    · exact ready.queued msg old
    · exact (fresh msg new).queued
  · rcases List.mem_append.mp inside with old | new
    · exact sound fragment old
    · obtain ⟨msg, among, piece⟩ := List.mem_flatMap.mp new
      exact (fresh msg among).sound positive small fragment piece
  · rw [whole, List.append_assoc, ← List.flatMap_append]
    rfl

theorem Flows.sends (flows : lane.Flows tls paired maxSize fragments) (roomy : Roomy maxSize room)
    (bounded : tls.Bounded tlsOverhead) (inStep : InStep tls opener tlsLimit paired)
    (small : maxSize ≤ tlsLimit) :
    lane.sender.sendQueue = [] ∧ dequeue maxSize room tls lane.sender = (.timedOut, lane.sender) ∨
      ∃ frame sender, dequeue maxSize room tls lane.sender = (.frame frame, sender) ∧
        (lane.sent sender frame).Flows tls paired maxSize fragments := by
  obtain ⟨ready, sound, origin, early, together, carried, rfl⟩ := flows
  by_cases empty : lane.sender.sendQueue = []
  · refine .inl ⟨empty, ?_⟩
    rw [dequeue, empty]
  obtain ⟨reached, -, inPair⟩ := carried.arriving inStep together fun fragment inside =>
    sound fragment (List.mem_append_left _ inside)
  have live : (⟨lane.sender, true⟩ : SendSide σ).Live maxSize paired :=
    ⟨rfl, ready, fun fragment inside => (sound fragment (List.mem_append_right _ inside)).data,
      reached, inPair⟩
  obtain ⟨frame, sender, called, -⟩ := dequeue_succeeds roomy bounded inStep small live empty
  obtain ⟨readyNext, fragment, pending, first⟩ := dequeue_frame roomy bounded ready called
  refine .inr ⟨frame, sender, called, readyNext, sound, origin, early ++ [fragment], together,
    carried.append first, ?_⟩
  rw [pending, List.append_assoc]
  rfl

theorem Flows.receives (flows : lane.Flows tls paired maxSize fragments) {frame : Bytes}
    {rest : List Bytes} (first : lane.frames = frame :: rest) :
    ∃ fragment later origin middle, fragments = fragment :: later ∧ fragment.Sound ∧
      paired origin lane.opener ∧ Carried tls origin [fragment] [frame] middle ∧
      ∀ peer, paired middle peer → (lane.taken peer).Flows tls paired maxSize later := by
  obtain ⟨ready, sound, origin, early, together, carried, rfl⟩ := flows
  rw [first] at carried
  have goesOn {fragment : Fragment} {others : List Fragment} {middle : σ}
      (sound : ∀ piece ∈ fragment :: others ++
        lane.sender.sendQueue.flatMap (Message.pending maxSize), piece.Sound)
      (carried : Carried tls middle others rest lane.sender.ssl) (peer : ρ)
      (inPair : paired middle peer) : (lane.taken peer).Flows tls paired maxSize
        (others ++ lane.sender.sendQueue.flatMap (Message.pending maxSize)) := by
    refine ⟨ready, fun piece inside => sound piece (List.mem_cons_of_mem _ inside), middle, others,
      inPair, ?_, rfl⟩
    rw [taken, first]
    exact carried
  cases carried with
  | plain plain fits others =>
      exact ⟨_, _, origin, origin, rfl, sound _ List.mem_cons_self, together,
        .plain plain fits .nil, goesOn sound others⟩
  | sealed encrypted written fits others =>
      exact ⟨_, _, origin, _, rfl, sound _ List.mem_cons_self, together,
        .sealed encrypted written fits .nil, goesOn sound others⟩

end Steps

end Lane

namespace AAClient

/-- One pass of the loop in `getMessage`, and the message if it is the last. -/
def pass (tls : Opener ρ DecryptFailure UInt8) (ssl : ρ) (soFar : Reassembly)
    (transfer : Transfer) : ρ × Except Thrown (Reassembly ⊕ Message) :=
  match receiveFrame tls ssl soFar transfer with
  | (ssl, .error thrown) => (ssl, .error thrown)
  | (ssl, .ok (channel, flags, soFar)) =>
      if soFar.fullContent.length < asSizeT soFar.totalLength then (ssl, .ok (.inl soFar))
      else (ssl, .ok (.inr ⟨channel, flags ||| FrameType.Bulk.mask, soFar.fullContent, 0⟩))

theorem getMessageFrom_pass (tls : Opener ρ DecryptFailure UInt8) (ssl : ρ) (soFar : Reassembly)
    (transfer : Transfer) (rest : List Transfer) :
    getMessageFrom tls ssl soFar (transfer :: rest) =
      match pass tls ssl soFar transfer with
      | (ssl, .error thrown) => .threw thrown ssl rest
      | (ssl, .ok (.inl soFar)) => getMessageFrom tls ssl soFar rest
      | (ssl, .ok (.inr msg)) => .returned msg ssl rest := by
  rw [getMessageFrom, pass]
  rcases receiveFrame tls ssl soFar transfer with ⟨ssl, thrown | ⟨channel, flags, soFar⟩⟩
  · rfl
  · dsimp only
    split <;> rfl

/-- What has been gathered of the first message, and the fragments that are to come. -/
inductive Gathering (maxSize : Nat) (soFar : Reassembly) : List Fragment → List Message → Prop where
  | fresh {messages : List Message} (nothing : soFar.fullContent = [])
      (unknown : soFar.totalLength = 0) :
      Gathering maxSize soFar (messages.flatMap (Message.pending maxSize)) messages
  | within {msg : Message} {messages : List Message} {chunks : List Bytes} {flags : UInt8}
      (more : chunks ≠ []) (nonempty : ∀ chunk ∈ chunks, chunk ≠ [])
      (total : asSizeT soFar.totalLength = soFar.fullContent.length + chunks.flatten.length)
      (content : soFar.fullContent ++ chunks.flatten = msg.content)
      (bits : flags ||| FrameType.Bulk.mask = msg.flags) (untouched : msg.offset = 0) :
      Gathering maxSize soFar
        (continuation msg.channel flags chunks ++ messages.flatMap (Message.pending maxSize))
        (msg :: messages)

theorem Gathering.nil_iff {maxSize : Nat} {soFar : Reassembly} {fragments : List Fragment}
    {messages : List Message} (gathering : Gathering maxSize soFar fragments messages) :
    fragments = [] ↔ messages = [] := by
  cases gathering with
  | fresh =>
      refine ⟨pending_eq_nil, ?_⟩
      rintro rfl
      rfl
  | @within msg messages chunks flags more =>
      refine iff_of_false (fun none => more ?_) (List.cons_ne_nil msg messages)
      have chunkless := congrArg (List.map Fragment.chunk) (List.append_eq_nil_iff.mp none).1
      rwa [map_chunk_continuation] at chunkless

theorem Gathering.append {maxSize : Nat} {soFar : Reassembly} {fragments : List Fragment}
    {messages : List Message} (gathering : Gathering maxSize soFar fragments messages)
    (later : List Message) :
    Gathering maxSize soFar (fragments ++ later.flatMap (Message.pending maxSize))
      (messages ++ later) := by
  cases gathering with
  | fresh nothing unknown =>
      rw [← List.flatMap_append]
      exact .fresh nothing unknown
  | within more nonempty total content bits untouched =>
      rw [List.append_assoc, ← List.flatMap_append]
      exact .within more nonempty total content bits untouched

/-- The loop goes on with what it has gathered, or returns the first message. -/
def Gathered (maxSize : Nat) (fragments : List Fragment) (messages : List Message) :
    Reassembly ⊕ Message → Prop
  | .inl soFar => Gathering maxSize soFar fragments messages
  | .inr msg => ∃ rest, messages = msg :: rest ∧ fragments = rest.flatMap (Message.pending maxSize)

section Passes

variable {opener : Opener ρ DecryptFailure UInt8} {peer next : ρ} {soFar : Reassembly}
  {maxSize : Nat} {fragment : Fragment} {fragments : List Fragment} {messages : List Message}
  {bytes : Bytes}

theorem pass_arrives (soFar : Reassembly) (arrives : Arrives opener peer fragment bytes next) :
    ∃ after : Reassembly, after.fullContent = soFar.fullContent ++ fragment.chunk ∧
      after.totalLength = fragment.total.elim soFar.totalLength toInt32 ∧
      pass opener peer soFar (.completed bytes) = (next,
        .ok (if after.fullContent.length < asSizeT after.totalLength then .inl after
          else .inr ⟨fragment.channel, fragment.flags ||| FrameType.Bulk.mask,
            after.fullContent, 0⟩)) := by
  obtain ⟨frame, parsed, channel, flags, total, accepted⟩ := arrives.accepted
  refine ⟨soFar.add bytes frame fragment.chunk, rfl, by rw [← total]; rfl, ?_⟩
  rw [pass, receiveFrame_parse peer soFar parsed arrives.room, accepted]
  dsimp only
  split <;> simp_all

theorem passes_within {msg : Message} {chunks : List Bytes} {flags : UInt8} (more : chunks ≠ [])
    (nonempty : ∀ chunk ∈ chunks, chunk ≠ [])
    (total : asSizeT soFar.totalLength = soFar.fullContent.length + chunks.flatten.length)
    (content : soFar.fullContent ++ chunks.flatten = msg.content)
    (bits : flags ||| FrameType.Bulk.mask = msg.flags) (untouched : msg.offset = 0)
    (arrives : Arrives opener peer fragment bytes next)
    (pending : continuation msg.channel flags chunks ++
      messages.flatMap (Message.pending maxSize) = fragment :: fragments) :
    ∃ gathered, pass opener peer soFar (.completed bytes) = (next, .ok gathered) ∧
      Gathered maxSize fragments (msg :: messages) gathered := by
  obtain ⟨after, full, same, passed⟩ := pass_arrives soFar arrives
  refine ⟨_, passed, ?_⟩
  obtain ⟨chunk, chunks, rfl⟩ := List.exists_cons_of_ne_nil more
  obtain ⟨-, others⟩ := List.forall_mem_cons.mp nonempty
  rw [List.flatten_cons] at total content
  rw [List.length_append] at total
  cases chunks with
  | nil =>
      cases pending
      rw [List.flatten_nil, List.append_nil] at content
      have complete : ¬ after.fullContent.length < asSizeT after.totalLength := by
        rw [full, same, List.length_append, Option.elim_none, total]
        simp
      rw [if_neg complete, full, content, or_mask_or_bulk, bits, ← untouched]
      exact ⟨messages, rfl, rfl⟩
  | cons second chunks =>
      cases pending
      have secondSize := List.length_pos_iff.mpr (others second List.mem_cons_self)
      have remaining : asSizeT after.totalLength =
          after.fullContent.length + (second :: chunks).flatten.length := by
        rw [full, same, List.length_append, Option.elim_none, total, Nat.add_assoc]
      have incomplete : after.fullContent.length < asSizeT after.totalLength := by
        rw [remaining, List.flatten_cons, List.length_append]
        omega
      rw [if_pos incomplete]
      refine .within (by simp) others remaining ?_ bits untouched
      rw [full, List.append_assoc, content]

theorem passes_first {msg : Message} (positive : 0 < maxSize) (fresh : Fresh msg)
    (nothing : soFar.fullContent = [])
    (unknown : soFar.totalLength = 0) (arrives : Arrives opener peer fragment bytes next)
    (pending : msg.pending maxSize ++ messages.flatMap (Message.pending maxSize) =
      fragment :: fragments) :
    ∃ gathered, pass opener peer soFar (.completed bytes) = (next, .ok gathered) ∧
      Gathered maxSize fragments (msg :: messages) gathered := by
  obtain ⟨after, full, same, passed⟩ := pass_arrives soFar arrives
  refine ⟨_, passed, ?_⟩
  rw [nothing, List.nil_append] at full
  rw [unknown] at same
  have bits := or_bulk_eq_self fresh.bulk
  -- A fragment without a total length is the whole message.
  have alone (single : msg.pending maxSize = [⟨msg.channel, msg.flags, none, msg.content⟩]) :
      Gathered maxSize fragments (msg :: messages)
        (if after.fullContent.length < asSizeT after.totalLength then .inl after
          else .inr ⟨fragment.channel, fragment.flags ||| FrameType.Bulk.mask,
            after.fullContent, 0⟩) := by
    rw [single] at pending
    cases pending
    have complete : ¬ after.fullContent.length < asSizeT after.totalLength := by
      rw [same]
      exact Nat.not_lt_zero _
    rw [if_neg complete, full, bits, ← fresh.untouched]
    exact ⟨messages, rfl, rfl⟩
  cases encrypted : isEncrypted msg.flags with
  | false => exact alone (Fresh.pending_plain encrypted)
  | true =>
      have cut := @Chunking.cut_flatten _ maxSize msg.content
      have pieces : ∀ chunk ∈ Chunking.cut maxSize msg.content, chunk ≠ [] := fun chunk inside =>
        Chunking.ne_nil_of_mem_cut positive (fresh.nonempty encrypted) inside
      have opened := @Fresh.pending_encrypted maxSize msg fresh encrypted
      obtain ⟨chunk, chunks, split⟩ :=
        List.exists_cons_of_ne_nil (Chunking.cut_ne_nil maxSize msg.content)
      rw [split] at cut pieces opened
      obtain ⟨-, others⟩ := List.forall_mem_cons.mp pieces
      cases chunks with
      | nil =>
          rw [List.flatten_cons, List.flatten_nil, List.append_nil] at cut
          rw [cut] at opened
          exact alone opened
      | cons second chunks =>
          rw [opened] at pending
          cases pending
          have secondSize := List.length_pos_iff.mpr (others second List.mem_cons_self)
          have remaining : asSizeT after.totalLength =
              after.fullContent.length + (second :: chunks).flatten.length := by
            rw [full, same, Option.elim_some, asSizeT_toInt32 fresh.length_lt, ← cut,
              List.flatten_cons, List.length_append]
          have incomplete : after.fullContent.length < asSizeT after.totalLength := by
            rw [remaining, List.flatten_cons, List.length_append]
            omega
          rw [if_pos incomplete]
          exact .within (by simp) others remaining (by rw [full, ← cut, List.flatten_cons])
            (by rw [otherBits_or_bulk, bits]) fresh.untouched

/-- The pass over the next fragment. -/
theorem Gathering.passes (positive : 0 < maxSize)
    (gathering : Gathering maxSize soFar (fragment :: fragments) messages)
    (fresh : ∀ msg ∈ messages, Fresh msg) (arrives : Arrives opener peer fragment bytes next) :
    ∃ gathered, pass opener peer soFar (.completed bytes) = (next, .ok gathered) ∧
      Gathered maxSize fragments messages gathered := by
  generalize pending : fragment :: fragments = whole at gathering
  cases gathering with
  | fresh nothing unknown =>
      cases messages with
      | nil => cases pending
      | cons msg messages =>
          exact passes_first positive (fresh msg List.mem_cons_self) nothing unknown arrives
            pending.symm
  | within more nonempty total content bits untouched =>
      exact passes_within more nonempty total content bits untouched arrives pending.symm

end Passes

end AAClient

end AACS
