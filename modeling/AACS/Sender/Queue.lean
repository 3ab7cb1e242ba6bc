import AACS.Library.Transitions
import AACS.Protocol.Fragment

/-!
The send queue of both programs and the function that takes frames off it.

`AAServer::getMessage` and `AAClient::prepareMessage` are copies of each other;
they differ in the largest chunk and in how much of a TLS record they ask the
memory BIO for.
-/

namespace AACS

open RecordLayer Transitions

/-- The sending half of an `AaCommunicator`: its queue, the writing state of its
`ssl` object and the content of `writeBio`. -/
structure Sender (σ : Type) where
  sendQueue : List Message
  ssl : σ
  writeBio : Bytes

def Sender.sendMessage {σ : Type} (sender : Sender σ) (channel flags : UInt8) (buf : Bytes) :
    Sender σ :=
  { sender with sendQueue := sender.sendQueue ++ [{ channel, flags, content := buf }] }

/-- How a call that takes a frame off the queue ends: nothing arrived within the
second it waits, a frame, or an exception. -/
inductive Dequeued where
  | timedOut
  | frame (bytes : Bytes)
  | threw (what : String)
  deriving DecidableEq, Repr

/-- `BIO_read` of at most `room` bytes; an empty memory BIO reports an error. -/
def bioRead (bio : Bytes) (room : Nat) : Option (Bytes × Bytes) :=
  if bio = [] then none else some (bio.take room, bio.drop room)

/-- The flags and the plaintext of the next frame of the Encrypted message at the
front of the queue, and the queue it leaves behind. -/
def nextFragment (maxSize : Nat) (msg : Message) (rest : List Message) :
    UInt8 × Bytes × List Message :=
  let remaining := msg.content.length - msg.offset
  -- full frame
  if remaining ≤ maxSize ∧ frameBits msg.flags ≠ 0 then
    (msg.flags, msg.content.drop msg.offset, rest)
  -- first frame
  else if maxSize < remaining ∧ frameBits msg.flags ≠ 0 then
    let flags := otherBits msg.flags ||| FrameType.First.mask
    (flags, (msg.content.drop msg.offset).take maxSize,
      { msg with flags := otherBits flags, offset := msg.offset + maxSize } :: rest)
  -- intermediate frame
  else if maxSize < remaining then
    (msg.flags, (msg.content.drop msg.offset).take maxSize,
      { msg with flags := otherBits msg.flags, offset := msg.offset + maxSize } :: rest)
  -- last frame
  else
    (msg.flags ||| FrameType.Last.mask, msg.content.drop msg.offset, rest)

def encryptedHeader (channel flags : UInt8) (length totalLength : Nat) : Bytes :=
  channel :: flags :: (BigEndian.encode 2 length ++
    if frameBits flags = FrameType.First.mask then BigEndian.encode 4 totalLength else [])

/-- One call, with the largest chunk and, by payload offset, the room that
`BIO_read` is given. -/
def dequeue {σ : Type} (maxSize : Nat) (room : Nat → Nat) (tls : Sealer σ UInt8)
    (sender : Sender σ) : Dequeued × Sender σ :=
  match sender.sendQueue with
  | [] => (.timedOut, sender)
  | msg :: rest =>
      if isEncrypted msg.flags then
        let next := nextFragment maxSize msg rest
        match tls.write sender.ssl next.2.1 with
        | none => (.threw "SSL_write error", { sender with sendQueue := next.2.2 })
        | some (ssl, record) =>
            let offset := if frameBits next.1 = FrameType.First.mask then 8 else 4
            match bioRead (sender.writeBio ++ record) (room offset) with
            | none => (.threw "BIO_read error", { sender with sendQueue := next.2.2, ssl := ssl })
            | some (payload, left) =>
                (.frame (encryptedHeader msg.channel next.1 payload.length msg.content.length ++
                    payload),
                  { sendQueue := next.2.2, ssl := ssl, writeBio := left })
      else
        (.frame (pushBackInt16 [msg.channel, msg.flags] (UInt16.ofNat msg.content.length) ++
            msg.content),
          { sender with sendQueue := rest })

def AAServer.bufSize : Nat := 100 * 1024

def AAServer.getMessage {σ : Type} (tls : Sealer σ UInt8) (nbytes : Nat) (sender : Sender σ) :
    Dequeued × Sender σ :=
  dequeue 2000 (fun offset => nbytes - offset) tls sender

def AAClient.prepareMessage {σ : Type} (tls : Sealer σ UInt8) (sender : Sender σ) :
    Dequeued × Sender σ :=
  dequeue 10000 (fun _ => 20000) tls sender

inductive SendEvent where
  | sendMessage (channel flags : UInt8) (buf : Bytes)
  | dequeue
  deriving DecidableEq, Repr

/-- A sender and whether the thread that empties its queue is still alive; an
exception in the dequeuing call ends that thread. -/
structure SendSide (σ : Type) where
  sender : Sender σ
  pumping : Bool := true

/-- All threads of one program that touch the queue, interleaved at its mutex;
the outputs are the frames that leave. -/
def sendMachine {σ : Type} (call : Sender σ → Dequeued × Sender σ) :
    Machine (SendSide σ) SendEvent Bytes where
  step side
    | .sendMessage channel flags buf =>
        some ({ side with sender := side.sender.sendMessage channel flags buf }, [])
    | .dequeue =>
        if side.pumping then
          match call side.sender with
          | (.timedOut, sender) => some ({ side with sender := sender }, [])
          | (.frame bytes, sender) => some ({ side with sender := sender }, [bytes])
          | (.threw _, sender) => some ({ sender := sender, pumping := false }, [])
        else
          some (side, [])

def enqueued : List SendEvent → List Message
  | [] => []
  | .sendMessage channel flags buf :: events =>
      { channel, flags, content := buf } :: enqueued events
  | .dequeue :: events => enqueued events

theorem enqueued_append (first second : List SendEvent) :
    enqueued (first ++ second) = enqueued first ++ enqueued second := by
  induction first with
  | nil => rfl
  | cons event first inductionHypothesis =>
      cases event <;> simp [enqueued, inductionHypothesis]

theorem enqueued_cons (event : SendEvent) (events : List SendEvent) :
    enqueued (event :: events) = enqueued [event] ++ enqueued events :=
  enqueued_append [event] events

theorem enqueued_replicate_dequeue (calls : Nat) :
    enqueued (List.replicate calls .dequeue) = [] := by
  induction calls with
  | zero => rfl
  | succ calls inductionHypothesis => simpa [List.replicate_succ, enqueued]

def emitted {Event : Type} (trace : List (Event × List Bytes)) : List Bytes :=
  trace.flatMap Prod.snd

@[simp] theorem emitted_cons {Event : Type} (event : Event) (frames : List Bytes)
    (trace : List (Event × List Bytes)) :
    emitted ((event, frames) :: trace) = frames ++ emitted trace := rfl

/-- A message in the queue is untouched, or its First frame is out. -/
structure Queued (msg : Message) : Prop where
  bits : frameBits msg.flags = FrameType.Bulk.mask ∨ frameBits msg.flags = 0
  size : msg.content.length < sizeLimit msg.flags

theorem Fresh.queued {msg : Message} (fresh : Fresh msg) : Queued msg :=
  ⟨.inl fresh.bulk, fresh.size⟩

theorem continuation_of_lt_length {maxSize : Nat} {tail : Bytes} (channel flags : UInt8)
    (positive : 0 < maxSize) (long : maxSize < tail.length) :
    continuation channel flags (Chunking.cut maxSize tail) =
      ⟨channel, flags, none, tail.take maxSize⟩ ::
        continuation channel flags (Chunking.cut maxSize (tail.drop maxSize)) := by
  rw [Chunking.cut_of_lt_length positive long]
  obtain ⟨next, more, rest⟩ := List.exists_cons_of_ne_nil
    (Chunking.cut_ne_nil maxSize (tail.drop maxSize))
  simp [rest, continuation]

theorem opening_of_lt_length {maxSize : Nat} {tail : Bytes} (channel flags : UInt8) (total : Nat)
    (positive : 0 < maxSize) (long : maxSize < tail.length) :
    opening channel flags total (Chunking.cut maxSize tail) =
      ⟨channel, otherBits flags ||| FrameType.First.mask, some total, tail.take maxSize⟩ ::
        continuation channel (otherBits flags) (Chunking.cut maxSize (tail.drop maxSize)) := by
  rw [Chunking.cut_of_lt_length positive long]
  obtain ⟨next, more, rest⟩ := List.exists_cons_of_ne_nil
    (Chunking.cut_ne_nil maxSize (tail.drop maxSize))
  simp [rest, opening]

theorem nextFragment_pending {maxSize : Nat} {msg : Message} (rest : List Message)
    (positive : 0 < maxSize) (queued : Queued msg) (encrypted : isEncrypted msg.flags = true) :
    (msg :: rest).flatMap (Message.pending maxSize) =
      ⟨msg.channel, (nextFragment maxSize msg rest).1,
        if frameBits (nextFragment maxSize msg rest).1 = FrameType.First.mask then
          some msg.content.length else none,
        (nextFragment maxSize msg rest).2.1⟩ ::
      (nextFragment maxSize msg rest).2.2.flatMap (Message.pending maxSize) := by
  fun_cases nextFragment maxSize msg rest with
  | case1 remaining full =>
      have bulk : frameBits msg.flags = FrameType.Bulk.mask := queued.bits.resolve_right full.2
      have notFirst : FrameType.Bulk.mask ≠ FrameType.First.mask := by decide
      have notCleared : FrameType.Bulk.mask ≠ 0 := by decide
      have one : Chunking.cut maxSize (msg.content.drop msg.offset) =
          [msg.content.drop msg.offset] :=
        Chunking.cut_of_length_le (by rw [List.length_drop]; exact full.1)
      simp [Message.pending, encrypted, one, opening, bulk, notFirst, notCleared]
  | case2 remaining full first flags =>
      have long : maxSize < (msg.content.drop msg.offset).length := by
        rw [List.length_drop]
        exact first.1
      simp [Message.pending, encrypted, first.2, flags, frameBits_first,
        opening_of_lt_length _ _ _ positive long]
  | case3 remaining full first middle =>
      have cleared : frameBits msg.flags = 0 := by
        by_contra set
        exact first ⟨middle, set⟩
      have long : maxSize < (msg.content.drop msg.offset).length := by
        rw [List.length_drop]
        exact middle
      have notFirst : (0 : UInt8) ≠ FrameType.First.mask := by decide
      simp [Message.pending, encrypted, cleared, notFirst, otherBits_of_frameBits cleared,
        continuation_of_lt_length _ _ positive long]
  | case4 remaining full first middle =>
      have short : remaining ≤ maxSize := Nat.le_of_not_lt middle
      have cleared : frameBits msg.flags = 0 := by
        by_contra set
        exact full ⟨short, set⟩
      have one : Chunking.cut maxSize (msg.content.drop msg.offset) =
          [msg.content.drop msg.offset] :=
        Chunking.cut_of_length_le (by rw [List.length_drop]; exact short)
      have last := frameBits_last msg.flags
      rw [otherBits_of_frameBits cleared] at last
      have notFirst : FrameType.Last.mask ≠ FrameType.First.mask := by decide
      simp [Message.pending, encrypted, cleared, one, continuation, last, notFirst]

theorem nextFragment_encrypted {maxSize : Nat} {msg : Message} (rest : List Message)
    (encrypted : isEncrypted msg.flags = true) :
    isEncrypted (nextFragment maxSize msg rest).1 = true := by
  fun_cases nextFragment maxSize msg rest with
  | case1 remaining full => exact encrypted
  | case2 remaining full first flags => simpa [flags] using encrypted
  | case3 remaining full first middle => exact encrypted
  | case4 remaining full first middle => simpa using encrypted

theorem length_nextFragment_le (maxSize : Nat) (msg : Message) (rest : List Message) :
    (nextFragment maxSize msg rest).2.1.length ≤ maxSize := by
  fun_cases nextFragment maxSize msg rest with
  | case1 remaining full =>
      rw [List.length_drop]
      exact full.1
  | case2 remaining full first flags => exact List.length_take_le _ _
  | case3 remaining full first middle => exact List.length_take_le _ _
  | case4 remaining full first middle =>
      rw [List.length_drop]
      exact Nat.le_of_not_lt middle

theorem nextFragment_queued {maxSize : Nat} {msg : Message} {rest : List Message}
    (queued : ∀ later ∈ msg :: rest, Queued later) :
    ∀ later ∈ (nextFragment maxSize msg rest).2.2, Queued later := by
  have size := (queued msg (by simp)).size
  have others : ∀ later ∈ rest, Queued later := fun later membership =>
    queued later (List.mem_cons_of_mem msg membership)
  fun_cases nextFragment maxSize msg rest with
  | case1 remaining full => exact others
  | case2 remaining full first flags =>
      refine List.forall_mem_cons.mpr ⟨⟨.inr (frameBits_otherBits _), ?_⟩, others⟩
      simpa [sizeLimit, flags] using size
  | case3 remaining full first middle =>
      refine List.forall_mem_cons.mpr ⟨⟨.inr (frameBits_otherBits _), ?_⟩, others⟩
      simpa [sizeLimit] using size
  | case4 remaining full first middle => exact others

/-- A record that `BIO_read` has the room for is read back in full. -/
theorem bioRead_eq_some {record : Bytes} {room : Nat} (nonempty : record ≠ [])
    (fits : record.length ≤ room) : bioRead record room = some (record, []) := by
  simp [bioRead, nonempty, List.take_of_length_le fits, List.drop_of_length_le fits]

end AACS
