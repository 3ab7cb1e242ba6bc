import AACS.Sender.Queue

/-!
What leaves a send queue conforms to the frame format.

The invariant looks forward: the frames that a run still emits carry a prefix of
what is pending in its queue followed by what its remaining calls enqueue.
-/

namespace AACS

open RecordLayer Transitions

variable {σ : Type}

/-- TLS 1.2 may add 2048 bytes to the plaintext of a record, and its header. -/
def tlsOverhead : Nat := 2048 + 5

theorem encryptedHeader_eq (channel flags : UInt8) (length totalLength : Nat) (chunk : Bytes) :
    encryptedHeader channel flags length totalLength =
      (⟨channel, flags, if frameBits flags = FrameType.First.mask then some totalLength else none,
        chunk⟩ : Fragment).header length := by
  unfold encryptedHeader Fragment.header
  split <;> simp_all

/-- Between two calls the BIO is drained and every queued message is in order. -/
structure Sender.Ready (sender : Sender σ) : Prop where
  drained : sender.writeBio = []
  queued : ∀ msg ∈ sender.sendQueue, Queued msg

theorem Sender.Ready.sendMessage {sender : Sender σ} (ready : sender.Ready)
    {channel flags : UInt8} {buf : Bytes}
    (queued : Queued { channel := channel, flags := flags, content := buf }) :
    (sender.sendMessage channel flags buf).Ready := by
  refine ⟨ready.drained, ?_⟩
  intro msg membership
  rcases List.mem_append.mp membership with old | new
  · exact ready.queued msg old
  · obtain rfl := List.mem_singleton.mp new
    exact queued

/-- The room that `BIO_read` is given suffices for the record of a full chunk,
and so does the 16-bit length field. -/
structure Roomy (maxSize : Nat) (room : Nat → Nat) : Prop where
  positive : 0 < maxSize
  room : ∀ offset ≤ 8, maxSize + tlsOverhead ≤ room offset
  short : maxSize + tlsOverhead < 2 ^ 16

theorem dequeue_timedOut {maxSize : Nat} {room : Nat → Nat} {tls : Sealer σ UInt8}
    {sender next : Sender σ} (taken : dequeue maxSize room tls sender = (.timedOut, next)) :
    next = sender := by
  unfold dequeue at taken
  split at taken
  next empty => simpa using taken.symm
  next msg rest front => grind

theorem dequeue_frame {maxSize : Nat} {room : Nat → Nat} {tls : Sealer σ UInt8}
    (roomy : Roomy maxSize room) (bounded : tls.Bounded tlsOverhead) {sender next : Sender σ}
    (ready : sender.Ready) {frame : Bytes}
    (taken : dequeue maxSize room tls sender = (.frame frame, next)) :
    next.Ready ∧ ∃ fragment,
      sender.sendQueue.flatMap (Message.pending maxSize) =
        fragment :: next.sendQueue.flatMap (Message.pending maxSize) ∧
      Carried tls sender.ssl [fragment] [frame] next.ssl := by
  unfold dequeue at taken
  cases front : sender.sendQueue with
  | nil => simp [front] at taken
  | cons msg rest =>
      have queued : ∀ later ∈ msg :: rest, Queued later := front ▸ ready.queued
      have size := (queued msg (by simp)).size
      simp only [front] at taken
      split at taken
      next encrypted =>
        have chunkSize := length_nextFragment_le maxSize msg rest
        split at taken
        next failed => simp at taken
        next ssl record written =>
          have recordSize := bounded written
          have roomSize := roomy.room
          have short := roomy.short
          split at taken
          next failed => simp at taken
          next payload left read =>
            have nonempty : record ≠ [] := by
              rintro rfl
              simp [bioRead, ready.drained] at read
            rw [ready.drained, List.nil_append, bioRead_eq_some nonempty
              (le_trans (by omega) (roomSize _ (by split <;> omega)))] at read
            obtain ⟨rfl, rfl⟩ : record = payload ∧ [] = left := by simpa using read
            simp only [Prod.mk.injEq, Dequeued.frame.injEq] at taken
            obtain ⟨rfl, rfl⟩ := taken
            refine ⟨⟨rfl, nextFragment_queued queued⟩, _,
              nextFragment_pending rest roomy.positive (queued msg (by simp)) encrypted, ?_⟩
            rw [encryptedHeader_eq _ _ _ _ (nextFragment maxSize msg rest).2.1]
            refine .sealed (nextFragment_encrypted rest encrypted) written ⟨by omega, ?_⟩ .nil
            intro total present
            have : total = msg.content.length := by
              split at present <;> simp_all
            simp only [sizeLimit, encrypted, if_true] at size
            omega
      next plain =>
        have plain : isEncrypted msg.flags = false := by simpa using plain
        simp only [Prod.mk.injEq, Dequeued.frame.injEq] at taken
        obtain ⟨rfl, rfl⟩ := taken
        refine ⟨⟨ready.drained, fun later membership =>
          queued later (List.mem_cons_of_mem msg membership)⟩,
          ⟨msg.channel, msg.flags, none, msg.content⟩, ?_, ?_⟩
        · rw [List.flatMap_cons, Fresh.pending_plain plain]
          rfl
        · rw [pushBackInt16_eq]
          refine .plain plain ⟨?_, by simp⟩ .nil
          simpa [sizeLimit, plain] using size

@[simp] theorem step_sendMessage (call : Sender σ → Dequeued × Sender σ) (side : SendSide σ)
    (channel flags : UInt8) (buf : Bytes) :
    (sendMachine call).step side (.sendMessage channel flags buf) =
      some ({ side with sender := side.sender.sendMessage channel flags buf }, []) := rfl

theorem sendMachine_total (call : Sender σ → Dequeued × Sender σ) (side : SendSide σ)
    (event : SendEvent) : ∃ reached, (sendMachine call).step side event = some reached := by
  cases event with
  | sendMessage channel flags buf => exact ⟨_, rfl⟩
  | dequeue =>
      simp only [sendMachine]
      split
      · split <;> exact ⟨_, rfl⟩
      · exact ⟨_, rfl⟩

theorem run_stopped {call : Sender σ → Dequeued × Sender σ} {side final : SendSide σ}
    {events : List SendEvent} {trace : List (SendEvent × List Bytes)}
    (stopped : side.pumping = false)
    (ran : (sendMachine call).run side events = some (final, trace)) :
    emitted trace = [] ∧ final.pumping = false := by
  induction events generalizing side trace with
  | nil =>
      obtain ⟨rfl, rfl⟩ : side = final ∧ [] = trace := by simpa using ran
      exact ⟨rfl, stopped⟩
  | cons event events inductionHypothesis =>
      obtain ⟨next, outputs, rest, taken, continued, rfl⟩ :=
        (sendMachine call).run_cons_eq_some.mp ran
      have same : next.pumping = false ∧ outputs = [] := by
        cases event with
        | sendMessage channel flags buf =>
            simp only [step_sendMessage, Option.some.injEq, Prod.mk.injEq] at taken
            obtain ⟨rfl, rfl⟩ := taken
            exact ⟨stopped, rfl⟩
        | dequeue =>
            obtain ⟨rfl, rfl⟩ : side = next ∧ [] = outputs := by
              simpa [sendMachine, stopped] using taken
            exact ⟨stopped, rfl⟩
      obtain ⟨quiet, ended⟩ := inductionHypothesis same.1 continued
      exact ⟨by simp [same.2, quiet], ended⟩

/-- The frames of a run carry the first of the fragments that are pending in its
queue or still to be enqueued; while the pump lives, the others are pending. -/
theorem run_carried {maxSize : Nat} {room : Nat → Nat} {tls : Sealer σ UInt8}
    (roomy : Roomy maxSize room) (bounded : tls.Bounded tlsOverhead) {events : List SendEvent}
    {side final : SendSide σ} {trace : List (SendEvent × List Bytes)}
    (ran : (sendMachine (dequeue maxSize room tls)).run side events = some (final, trace))
    (fresh : ∀ msg ∈ enqueued events, Fresh msg) (alive : side.pumping = true)
    (ready : side.sender.Ready) :
    ∃ sent left reached, Carried tls side.sender.ssl sent (emitted trace) reached ∧
      sent ++ left =
        (side.sender.sendQueue ++ enqueued events).flatMap (Message.pending maxSize) ∧
      (final.pumping = true → final.sender.Ready ∧ reached = final.sender.ssl ∧
        left = final.sender.sendQueue.flatMap (Message.pending maxSize)) := by
  induction events generalizing side trace with
  | nil =>
      obtain ⟨rfl, rfl⟩ : side = final ∧ [] = trace := by simpa using ran
      exact ⟨[], _, side.sender.ssl, .nil, by simp [enqueued], fun _ => ⟨ready, rfl, rfl⟩⟩
  | cons event events inductionHypothesis =>
      obtain ⟨next, outputs, rest, taken, continued, rfl⟩ :=
        (sendMachine (dequeue maxSize room tls)).run_cons_eq_some.mp ran
      cases event with
      | sendMessage channel flags buf =>
          obtain ⟨first, later⟩ := List.forall_mem_cons.mp fresh
          simp only [step_sendMessage, Option.some.injEq, Prod.mk.injEq] at taken
          obtain ⟨rfl, rfl⟩ := taken
          obtain ⟨sent, left, reached, carried, complete, ended⟩ :=
            inductionHypothesis continued later alive (ready.sendMessage first.queued)
          exact ⟨sent, left, reached, carried,
            by simpa [Sender.sendMessage, enqueued] using complete, ended⟩
      | dequeue =>
          have waiting (queue : List Message) : queue ++ enqueued (.dequeue :: events) =
              queue ++ enqueued events := rfl
          simp only [sendMachine, alive, if_true] at taken
          split at taken
          next sender timedOut =>
            simp only [Option.some.injEq, Prod.mk.injEq] at taken
            obtain ⟨rfl, rfl⟩ := taken
            obtain rfl := dequeue_timedOut timedOut
            have same := inductionHypothesis continued fresh rfl ready
            exact same
          next bytes sender frame =>
            simp only [Option.some.injEq, Prod.mk.injEq] at taken
            obtain ⟨rfl, rfl⟩ := taken
            obtain ⟨readyNext, fragment, pending, first⟩ :=
              dequeue_frame roomy bounded ready frame
            obtain ⟨sent, left, reached, carried, complete, ended⟩ :=
              inductionHypothesis continued fresh rfl readyNext
            refine ⟨fragment :: sent, left, reached, first.cons carried, ?_, ended⟩
            rw [waiting, List.flatMap_append, pending, List.cons_append, complete,
              List.flatMap_append, List.cons_append]
          next what sender threw =>
            simp only [Option.some.injEq, Prod.mk.injEq] at taken
            obtain ⟨rfl, rfl⟩ := taken
            obtain ⟨quiet, ended⟩ := run_stopped rfl continued
            refine ⟨[], _, side.sender.ssl, by simpa [quiet] using Carried.nil, rfl, ?_⟩
            simp [ended]

/-- What the frames of a sender should be to its peer: a prefix of the fragments
of the messages, one message after the other. -/
def FramesConform (maxSize : Nat) (tls : Sealer σ UInt8) (state : σ) (messages : List Message)
    (frames : List Bytes) : Prop :=
  ∃ fragments, List.Forall₂ (Conforms maxSize) messages fragments ∧
    ∃ sent reached, sent <+: fragments.flatten ∧ Carried tls state sent frames reached

def SendSide.start (state : σ) : SendSide σ :=
  { sender := { sendQueue := [], ssl := state, writeBio := [] } }

theorem frames_conform {maxSize : Nat} {room : Nat → Nat} {tls : Sealer σ UInt8}
    (roomy : Roomy maxSize room) (bounded : tls.Bounded tlsOverhead) (state : σ)
    (events : List SendEvent) (fresh : ∀ msg ∈ enqueued events, Fresh msg) :
    ∃ final trace,
      (sendMachine (dequeue maxSize room tls)).run (.start state) events = some (final, trace) ∧
      FramesConform maxSize tls state (enqueued events) (emitted trace) := by
  obtain ⟨final, trace, ran⟩ := (sendMachine (dequeue maxSize room tls)).run_total
    (sendMachine_total _) (.start state) events
  have ready : (SendSide.start state).sender.Ready := ⟨rfl, by simp [SendSide.start]⟩
  obtain ⟨sent, left, reached, carried, complete, -⟩ :=
    run_carried roomy bounded ran fresh rfl ready
  refine ⟨final, trace, ran, (enqueued events).map (Message.pending maxSize), ?_, sent, reached,
    ⟨left, ?_⟩, carried⟩
  · rw [List.forall₂_map_right_iff, List.forall₂_same]
    exact fun msg membership => (fresh msg membership).conforms roomy.positive
  · simpa [SendSide.start, List.flatMap] using complete

theorem getMessage_roomy : Roomy 2000 (fun offset => AAServer.bufSize - offset) where
  positive := by decide
  room offset small := by
    simp only [tlsOverhead, AAServer.bufSize]
    omega
  short := by decide

theorem prepareMessage_roomy : Roomy 10000 (fun _ => 20000) where
  positive := by decide
  room _ _ := by decide
  short := by decide

/-- Whatever threads call `sendMessage` in between, the frames that the two
dequeuing functions have emitted are those of the messages in queue order. -/
theorem sender_conformance (tls : Sealer σ UInt8) (bounded : tls.Bounded tlsOverhead) (state : σ)
    (events : List SendEvent) (fresh : ∀ msg ∈ enqueued events, Fresh msg) :
    (∃ final trace,
      (sendMachine (AAServer.getMessage tls AAServer.bufSize)).run (.start state) events =
        some (final, trace) ∧
      FramesConform 2000 tls state (enqueued events) (emitted trace)) ∧
    ∃ final trace,
      (sendMachine (AAClient.prepareMessage tls)).run (.start state) events =
        some (final, trace) ∧
      FramesConform 10000 tls state (enqueued events) (emitted trace) :=
  ⟨frames_conform getMessage_roomy bounded state events fresh,
    frames_conform prepareMessage_roomy bounded state events fresh⟩

theorem sender_conformance_mixed_queue :
    (∃ final trace,
      (sendMachine (AAServer.getMessage nullSealer AAServer.bufSize)).run (.start 0)
          [.sendMessage 3 11 (List.replicate 4000 7), .dequeue, .sendMessage 0 3 [0, 1], .dequeue] =
        some (final, trace) ∧
      FramesConform 2000 nullSealer 0 [⟨3, 11, List.replicate 4000 7, 0⟩, ⟨0, 3, [0, 1], 0⟩]
        (emitted trace)) ∧
    ∃ final trace,
      (sendMachine (AAClient.prepareMessage nullSealer)).run (.start 0)
          [.sendMessage 3 11 (List.replicate 4000 7), .dequeue, .sendMessage 0 3 [0, 1], .dequeue] =
        some (final, trace) ∧
      FramesConform 10000 nullSealer 0 [⟨3, 11, List.replicate 4000 7, 0⟩, ⟨0, 3, [0, 1], 0⟩]
        (emitted trace) :=
  sender_conformance nullSealer (nullSealer_bounded (by decide)) 0
    [.sendMessage 3 11 (List.replicate 4000 7), .dequeue, .sendMessage 0 3 [0, 1], .dequeue]
    (by decide +kernel)

end AACS
