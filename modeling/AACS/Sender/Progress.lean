import AACS.Sender.Conformance

/-!
With both ends of the TLS stream in step, every call takes a frame off a
non-empty queue, and enough calls empty it.
-/

namespace AACS

open RecordLayer Transitions

variable {σ ρ ε : Type}

/-- The longest plaintext of one TLS record. -/
def tlsLimit : Nat := 2 ^ 14

theorem Message.pending_ne_nil (maxSize : Nat) (msg : Message) : msg.pending maxSize ≠ [] := by
  intro none
  have chunks := congrArg (List.map Fragment.chunk) none
  unfold Message.pending at chunks
  split at chunks
  · dsimp only at chunks
    split at chunks
    · exact Chunking.cut_ne_nil _ _ (by simpa [map_chunk_continuation] using chunks)
    · exact Chunking.cut_ne_nil _ _ (by simpa [map_chunk_opening] using chunks)
  · simp at chunks

/-- Every Encrypted fragment carries at least a byte. -/
def CarryData (fragments : List Fragment) : Prop :=
  ∀ fragment ∈ fragments, isEncrypted fragment.flags = true → fragment.chunk ≠ []

theorem Fresh.carryData {maxSize : Nat} {msg : Message} (fresh : Fresh msg)
    (positive : 0 < maxSize) : CarryData (msg.pending maxSize) := by
  intro fragment membership secret
  cases encrypted : isEncrypted msg.flags with
  | false =>
      rw [Fresh.pending_plain encrypted] at membership
      obtain rfl := List.mem_singleton.mp membership
      simp [encrypted] at secret
  | true =>
      rw [fresh.pending_encrypted encrypted] at membership
      apply Chunking.ne_nil_of_mem_cut positive (fresh.nonempty encrypted)
      have chunks := map_chunk_opening msg.channel msg.flags msg.content.length
        (Chunking.cut maxSize msg.content)
      exact chunks ▸ List.mem_map_of_mem membership

/-- A side whose next calls succeed: its pump lives, its BIO is drained and the
peer can open what it seals. -/
structure SendSide.Live (maxSize : Nat) (paired : σ → ρ → Prop) (side : SendSide σ) : Prop where
  alive : side.pumping = true
  ready : side.sender.Ready
  data : CarryData (side.sender.sendQueue.flatMap (Message.pending maxSize))
  inStep : ∃ peer, paired side.sender.ssl peer

theorem dequeue_succeeds {maxSize : Nat} {room : Nat → Nat} {tls : Sealer σ UInt8}
    {opener : Opener ρ ε UInt8} {paired : σ → ρ → Prop} (roomy : Roomy maxSize room)
    (bounded : tls.Bounded tlsOverhead) (inStep : InStep tls opener tlsLimit paired)
    (small : maxSize ≤ tlsLimit) {side : SendSide σ} (live : side.Live maxSize paired)
    (nonempty : side.sender.sendQueue ≠ []) :
    ∃ frame next, dequeue maxSize room tls side.sender = (.frame frame, next) ∧
      ∃ peer, paired next.ssl peer := by
  obtain ⟨msg, rest, front⟩ := List.exists_cons_of_ne_nil nonempty
  obtain ⟨peer, together⟩ := live.inStep
  have queued : ∀ later ∈ msg :: rest, Queued later := front ▸ live.ready.queued
  unfold dequeue
  simp only [front]
  split
  next encrypted =>
    have pending := nextFragment_pending rest roomy.positive (queued msg (by simp)) encrypted
    have chunkSize := length_nextFragment_le maxSize msg rest
    have data := live.data
    rw [front, pending] at data
    have carries := data _ (List.mem_cons_self ..) (nextFragment_encrypted rest encrypted)
    obtain ⟨ssl, record, peerNext, written, substance, -, next⟩ :=
      inStep together carries (by simpa using chunkSize.trans small)
    have recordSize : record.length ≤ maxSize + tlsOverhead :=
      (bounded written).trans (Nat.add_le_add_right chunkSize _)
    have whole (offset : Nat) (small : offset ≤ 8) :
        bioRead record (room offset) = some (record, []) :=
      bioRead_eq_some substance (recordSize.trans (roomy.room offset small))
    simp only [written, live.ready.drained, List.nil_append]
    rw [whole _ (by split <;> omega)]
    exact ⟨_, _, rfl, peerNext, next⟩
  next plain => exact ⟨_, _, rfl, peer, together⟩

theorem SendSide.Live.step {maxSize : Nat} {room : Nat → Nat} {tls : Sealer σ UInt8}
    {opener : Opener ρ ε UInt8} {paired : σ → ρ → Prop} (roomy : Roomy maxSize room)
    (bounded : tls.Bounded tlsOverhead) (inStep : InStep tls opener tlsLimit paired)
    (small : maxSize ≤ tlsLimit) {side next : SendSide σ} {event : SendEvent}
    {outputs : List Bytes} (live : side.Live maxSize paired)
    (fresh : ∀ msg ∈ enqueued [event], Fresh msg)
    (taken : (sendMachine (dequeue maxSize room tls)).step side event = some (next, outputs)) :
    next.Live maxSize paired := by
  cases event with
  | sendMessage channel flags buf =>
      have new := fresh _ (List.mem_cons_self ..)
      simp only [step_sendMessage, Option.some.injEq, Prod.mk.injEq] at taken
      obtain ⟨rfl, rfl⟩ := taken
      refine ⟨live.alive, live.ready.sendMessage new.queued, ?_, live.inStep⟩
      intro fragment membership
      simp only [Sender.sendMessage, List.flatMap_append, List.mem_append] at membership
      rcases membership with old | added
      · exact live.data fragment old
      · exact new.carryData roomy.positive fragment (by simpa using added)
  | dequeue =>
      by_cases empty : side.sender.sendQueue = []
      · obtain ⟨rfl, -⟩ : (⟨side.sender, true⟩ : SendSide σ) = next ∧ outputs = [] := by
          simpa [sendMachine, live.alive, dequeue, empty] using taken
        exact ⟨rfl, live.ready, live.data, live.inStep⟩
      · obtain ⟨frame, sender, called, reached⟩ :=
          dequeue_succeeds roomy bounded inStep small live empty
        obtain ⟨ready, fragment, pending, -⟩ := dequeue_frame roomy bounded live.ready called
        simp only [sendMachine, live.alive, if_true, called, Option.some.injEq, Prod.mk.injEq]
          at taken
        obtain ⟨rfl, rfl⟩ := taken
        have data := live.data
        rw [pending] at data
        exact ⟨rfl, ready, fun later membership =>
          data later (List.mem_cons_of_mem fragment membership), reached⟩

theorem SendSide.Live.run {maxSize : Nat} {room : Nat → Nat} {tls : Sealer σ UInt8}
    {opener : Opener ρ ε UInt8} {paired : σ → ρ → Prop} (roomy : Roomy maxSize room)
    (bounded : tls.Bounded tlsOverhead) (inStep : InStep tls opener tlsLimit paired)
    (small : maxSize ≤ tlsLimit) {events : List SendEvent} {side final : SendSide σ}
    {trace : List (SendEvent × List Bytes)}
    (ran : (sendMachine (dequeue maxSize room tls)).run side events = some (final, trace))
    (live : side.Live maxSize paired) (fresh : ∀ msg ∈ enqueued events, Fresh msg) :
    final.Live maxSize paired := by
  induction events generalizing side trace with
  | nil =>
      obtain ⟨rfl, -⟩ : side = final ∧ [] = trace := by simpa using ran
      exact live
  | cons event events inductionHypothesis =>
      obtain ⟨next, outputs, rest, taken, continued, -⟩ :=
        (sendMachine (dequeue maxSize room tls)).run_cons_eq_some.mp ran
      rw [enqueued_cons] at fresh
      exact inductionHypothesis continued
        (live.step roomy bounded inStep small
          (fun msg membership => fresh msg (List.mem_append_left _ membership)) taken)
        (fun msg membership => fresh msg (List.mem_append_right _ membership))

/-- As many calls as there are pending fragments empty the queue. -/
theorem SendSide.Live.drain {maxSize : Nat} {room : Nat → Nat} {tls : Sealer σ UInt8}
    {opener : Opener ρ ε UInt8} {paired : σ → ρ → Prop} (roomy : Roomy maxSize room)
    (bounded : tls.Bounded tlsOverhead) (inStep : InStep tls opener tlsLimit paired)
    (small : maxSize ≤ tlsLimit) {calls : Nat} {side final : SendSide σ}
    {trace : List (SendEvent × List Bytes)}
    (ran : (sendMachine (dequeue maxSize room tls)).run side (List.replicate calls .dequeue) =
      some (final, trace))
    (live : side.Live maxSize paired)
    (enough : (side.sender.sendQueue.flatMap (Message.pending maxSize)).length ≤ calls) :
    final.sender.sendQueue = [] := by
  induction calls generalizing side trace with
  | zero =>
      obtain ⟨rfl, -⟩ : side = final ∧ [] = trace := by simpa using ran
      have nothing := List.length_eq_zero_iff.mp (Nat.le_zero.mp enough)
      rw [List.flatMap_eq_nil_iff] at nothing
      exact List.eq_nil_iff_forall_not_mem.mpr fun msg membership =>
        Message.pending_ne_nil maxSize msg (nothing msg membership)
  | succ calls inductionHypothesis =>
      rw [List.replicate_succ] at ran
      obtain ⟨next, outputs, rest, taken, continued, -⟩ :=
        (sendMachine (dequeue maxSize room tls)).run_cons_eq_some.mp ran
      apply inductionHypothesis continued
        (live.step roomy bounded inStep small (by simp [enqueued]) taken)
      by_cases empty : side.sender.sendQueue = []
      · obtain ⟨rfl, -⟩ : (⟨side.sender, true⟩ : SendSide σ) = next ∧ outputs = [] := by
          simpa [sendMachine, live.alive, dequeue, empty] using taken
        simp [empty]
      · obtain ⟨frame, sender, called, -⟩ :=
          dequeue_succeeds roomy bounded inStep small live empty
        obtain ⟨-, fragment, pending, -⟩ := dequeue_frame roomy bounded live.ready called
        simp only [sendMachine, live.alive, if_true, called, Option.some.injEq, Prod.mk.injEq]
          at taken
        obtain ⟨rfl, -⟩ := taken
        rw [pending, List.length_cons] at enough
        exact Nat.le_of_succ_le_succ enough

/-- The frames of the messages, each message with its own. -/
inductive SentAs (tls : Sealer σ UInt8) (maxSize : Nat) :
    σ → List Message → List (List Bytes) → Prop
  | nil {state} : SentAs tls maxSize state [] []
  | cons {state next msg messages frames parts} :
      Carried tls state (msg.pending maxSize) frames next → SentAs tls maxSize next messages parts →
      SentAs tls maxSize state (msg :: messages) (frames :: parts)

theorem Carried.sentAs {tls : Sealer σ UInt8} {maxSize : Nat} {messages : List Message}
    {state final : σ} {frames : List Bytes}
    (carried : Carried tls state (messages.flatMap (Message.pending maxSize)) frames final) :
    ∃ parts : List (List Bytes), parts.flatten = frames ∧
      SentAs tls maxSize state messages parts := by
  induction messages generalizing state frames with
  | nil =>
      cases carried
      exact ⟨[], rfl, .nil⟩
  | cons msg messages inductionHypothesis =>
      obtain ⟨middle, early, late, rfl, before, after⟩ := carried.split
      obtain ⟨parts, rfl, rest⟩ := inductionHypothesis after
      exact ⟨early :: parts, rfl, .cons before rest⟩

/-- Whatever the threads did, enough further calls put every message on the wire. -/
theorem all_sent {maxSize : Nat} {room : Nat → Nat} {tls : Sealer σ UInt8}
    {opener : Opener ρ ε UInt8} {paired : σ → ρ → Prop} (roomy : Roomy maxSize room)
    (bounded : tls.Bounded tlsOverhead) (inStep : InStep tls opener tlsLimit paired)
    (small : maxSize ≤ tlsLimit) {state : σ} (together : ∃ peer, paired state peer)
    (events : List SendEvent) (fresh : ∀ msg ∈ enqueued events, Fresh msg) :
    ∃ enough, ∀ calls ≥ enough, ∃ final trace parts,
      (sendMachine (dequeue maxSize room tls)).run (.start state)
        (events ++ List.replicate calls .dequeue) = some (final, trace) ∧
      final.sender.sendQueue = [] ∧ parts.flatten = emitted trace ∧
      SentAs tls maxSize state (enqueued events) parts := by
  have total := sendMachine_total (dequeue maxSize room tls)
  have live : (SendSide.start state).Live maxSize paired :=
    ⟨rfl, ⟨rfl, by simp [SendSide.start]⟩, by simp [CarryData, SendSide.start], together⟩
  obtain ⟨middle, early, first⟩ := (sendMachine _).run_total total (.start state) events
  have liveMiddle := live.run roomy bounded inStep small first fresh
  refine ⟨(middle.sender.sendQueue.flatMap (Message.pending maxSize)).length,
    fun calls enough => ?_⟩
  obtain ⟨final, late, second⟩ := (sendMachine _).run_total total middle
    (List.replicate calls .dequeue)
  have ran := (sendMachine _).run_append_eq_some.mpr ⟨middle, early, late, first, second, rfl⟩
  have quiet : enqueued (List.replicate calls .dequeue) = [] := enqueued_replicate_dequeue calls
  have empty := liveMiddle.drain roomy bounded inStep small second enough
  have liveFinal := liveMiddle.run roomy bounded inStep small second (by simp [quiet])
  have same : enqueued (events ++ List.replicate calls .dequeue) = enqueued events := by
    rw [enqueued_append, quiet, List.append_nil]
  obtain ⟨sent, left, reached, carried, complete, ended⟩ :=
    run_carried roomy bounded ran (same ▸ fresh) rfl live.ready
  obtain ⟨-, -, nothing⟩ := ended liveFinal.alive
  rw [empty, List.flatMap_nil] at nothing
  rw [nothing, List.append_nil, same] at complete
  obtain ⟨parts, whole, sentAs⟩ := Carried.sentAs (complete ▸ carried)
  exact ⟨final, early ++ late, parts, ran, empty, whole, sentAs⟩

end AACS
