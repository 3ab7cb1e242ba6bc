import AACS.Cable.Lanes

/-!
What is under way on a lane.

An end that cuts messages puts frames on the lane. Where the far end gathers the frames, as
`getMessage` of `AAClient` does, every message comes out; where it pumps frames, as `AAServer`
does, every message comes out that fits a frame. Either way they come out in order, no call fails,
and nothing else comes out.
-/

namespace AACS

open RecordLayer

/-- One direction of a TLS connection that has been set up. -/
structure SecuredStream (σ ρ : Type) where
  sealer : Sealer σ UInt8
  opener : Opener ρ DecryptFailure UInt8
  paired : σ → ρ → Prop
  bounded : sealer.Bounded tlsOverhead
  inStep : InStep sealer opener tlsLimit paired

/-- How an end cuts messages into frames: the largest chunk, and the room for a record. -/
structure Cutter where
  maxSize : Nat
  room : Nat → Nat
  roomy : Roomy maxSize room
  small : maxSize ≤ tlsLimit

def AAServer.cutter : Cutter where
  maxSize := 2000
  room offset := bufSize - offset
  roomy := getMessage_roomy
  small := by decide

def AAClient.cutter : Cutter where
  maxSize := 10000
  room _ := 20000
  roomy := prepareMessage_roomy
  small := by decide

namespace Cutter

variable {σ : Type}

def dequeue (cutter : Cutter) (tls : Sealer σ UInt8) (sender : Sender σ) : Dequeued × Sender σ :=
  AACS.dequeue cutter.maxSize cutter.room tls sender

theorem dequeue_server (tls : Sealer σ UInt8) (sender : Sender σ) :
    AAServer.cutter.dequeue tls sender = AAServer.getMessage tls AAServer.bufSize sender := rfl

theorem dequeue_client (tls : Sealer σ UInt8) (sender : Sender σ) :
    AAClient.cutter.dequeue tls sender = AAClient.prepareMessage tls sender := rfl

def Whole (cutter : Cutter) (msg : Message) : Prop :=
  isEncrypted msg.flags = true → msg.content.length ≤ cutter.maxSize

instance (cutter : Cutter) (msg : Message) : Decidable (cutter.Whole msg) :=
  inferInstanceAs (Decidable (isEncrypted msg.flags = true → msg.content.length ≤ cutter.maxSize))

theorem pending_whole {cutter : Cutter} {msg : Message} (fresh : Fresh msg)
    (whole : cutter.Whole msg) :
    msg.pending cutter.maxSize = [⟨msg.channel, msg.flags, none, msg.content⟩] := by
  cases encrypted : isEncrypted msg.flags with
  | false => exact Fresh.pending_plain encrypted
  | true =>
      rw [fresh.pending_encrypted encrypted, Chunking.cut_of_length_le (whole encrypted)]
      rfl

end Cutter

namespace AAServer

variable {ρ τ : Type}

/-- What `handleMessage` finds in the buffer before it calls `handleMessageContent`. -/
def received (tls : Opener ρ DecryptFailure UInt8) (ssl : ρ) (buf : Bytes) : Turn ρ Unit Nat :=
  handleMessage tls (fun _ _ => ((), .ok ())) ssl () buf

theorem handleMessage_received (tls : Opener ρ DecryptFailure UInt8) (handle : Handler τ)
    (ssl : ρ) (state : τ) (buf : Bytes) :
    (handleMessage tls handle ssl state buf).handed = (received tls ssl buf).handed ∧
      (handleMessage tls handle ssl state buf).ssl = (received tls ssl buf).ssl := by
  unfold received handleMessage
  split
  · dsimp only
    split
    · exact ⟨rfl, rfl⟩
    · split
      · exact ⟨rfl, rfl⟩
      · split <;> exact ⟨rfl, rfl⟩
  · exact ⟨rfl, rfl⟩

end AAServer

namespace Lane

variable {σ ρ : Type}

/-- What becomes of the lane when its sender has been called, and what has been thrown. What comes
after an exception is not described. -/
def called (lane : Lane σ ρ) : Dequeued × Sender σ → Lane σ ρ × List String
  | (.timedOut, sender) => ({ lane with sender }, [])
  | (.frame frame, sender) => (lane.sent sender frame, [])
  | (.threw what, sender) => ({ lane with sender }, [what])

variable {cutter : Cutter} {secured : SecuredStream σ ρ} {lane : Lane σ ρ}
  {messages : List Message} {soFar : AAClient.Reassembly} {buffer : Bytes}

theorem Flows.called {fragments : List Fragment}
    (flows : lane.Flows secured.sealer secured.paired cutter.maxSize fragments) :
    ∃ after, lane.called (cutter.dequeue secured.sealer lane.sender) = (after, []) ∧
      after.Flows secured.sealer secured.paired cutter.maxSize fragments ∧
      (lane.sender.sendQueue ≠ [] → after.frames ≠ []) := by
  rcases flows.sends cutter.roomy secured.bounded secured.inStep cutter.small with
    ⟨empty, timedOut⟩ | ⟨frame, sender, called, goesOn⟩
  · rw [Cutter.dequeue, timedOut]
    exact ⟨_, rfl, flows, absurd empty⟩
  · rw [Cutter.dequeue, called]
    exact ⟨_, rfl, goesOn, fun _ => by simp [Lane.sent]⟩

section Gathering

/-- These messages are still to come out of the lane, whose far end has gathered so much. -/
structure Gathers (cutter : Cutter) (secured : SecuredStream σ ρ) (lane : Lane σ ρ)
    (soFar : AAClient.Reassembly) (messages : List Message) : Prop where
  fresh : ∀ msg ∈ messages, Fresh msg
  flows : ∃ fragments, lane.Flows secured.sealer secured.paired cutter.maxSize fragments ∧
    AAClient.Gathering cutter.maxSize soFar fragments messages

theorem Gathers.put (holds : lane.Gathers cutter secured soFar messages) {later : List Message}
    (fresh : ∀ msg ∈ later, Fresh msg) :
    (lane.put later).Gathers cutter secured soFar (messages ++ later) := by
  obtain ⟨old, fragments, flows, gathering⟩ := holds
  refine ⟨fun msg inside => (List.mem_append.mp inside).elim (old msg) (fresh msg), _,
    flows.put cutter.roomy.positive cutter.small fresh, gathering.append later⟩

theorem Gathers.sends (holds : lane.Gathers cutter secured soFar messages) :
    ∃ after, lane.called (cutter.dequeue secured.sealer lane.sender) = (after, []) ∧
      after.Gathers cutter secured soFar messages := by
  obtain ⟨fresh, fragments, flows, gathering⟩ := holds
  obtain ⟨after, called, goesOn, -⟩ := flows.called
  exact ⟨after, called, fresh, fragments, goesOn, gathering⟩

theorem Gathers.idle (idle : lane.Idle secured.paired) (nothing : soFar.fullContent = [])
    (unknown : soFar.totalLength = 0) : lane.Gathers cutter secured soFar [] :=
  ⟨by simp, [], idle.flows, @AAClient.Gathering.fresh _ soFar [] nothing unknown⟩

theorem Gathers.silent (holds : lane.Gathers cutter secured soFar messages)
    (silent : lane.Silent) : messages = [] := by
  obtain ⟨-, fragments, flows, gathering⟩ := holds
  exact gathering.nil_iff.mp (flows.silent_iff.mp silent)

theorem passes_fragment {fragments : List Fragment}
    (flows : lane.Flows secured.sealer secured.paired cutter.maxSize fragments)
    (gathering : AAClient.Gathering cutter.maxSize soFar fragments messages)
    (fresh : ∀ msg ∈ messages, Fresh msg) {frame : Bytes} {rest : List Bytes}
    (first : lane.frames = frame :: rest) :
    ∃ opener gathered fragment others, fragments = fragment :: others ∧
      AAClient.pass secured.opener lane.opener soFar (.completed frame) = (opener, .ok gathered) ∧
      (lane.taken opener).Flows secured.sealer secured.paired cutter.maxSize others ∧
      AAClient.Gathered cutter.maxSize others messages gathered := by
  obtain ⟨fragment, others, origin, middle, rfl, sound, together, carried, goesOn⟩ :=
    flows.receives first
  obtain ⟨opener, arriving, inPair⟩ :=
    carried.arriving secured.inStep together (by simpa using sound)
  cases arriving with
  | cons arrives done =>
      cases done
      obtain ⟨gathered, passed, ends⟩ := gathering.passes cutter.roomy.positive fresh arrives
      exact ⟨opener, gathered, fragment, others, rfl, passed, goesOn opener inPair, ends⟩

/-- A transfer is taken by `getMessage`, which goes on or returns the first message. -/
theorem Gathers.receives (holds : lane.Gathers cutter secured soFar messages) {frame : Bytes}
    {rest : List Bytes} (first : lane.frames = frame :: rest) :
    ∃ opener gathered, AAClient.pass secured.opener lane.opener soFar (.completed frame) =
        (opener, .ok gathered) ∧
      (∀ after, gathered = .inl after →
        (lane.taken opener).Gathers cutter secured after messages) ∧
      ∀ msg, gathered = .inr msg → ∃ later, messages = msg :: later ∧
        ∀ stack, (lane.taken opener).Gathers cutter secured { buffer := stack } later := by
  obtain ⟨fresh, fragments, flows, gathering⟩ := holds
  obtain ⟨opener, gathered, fragment, others, rfl, passed, goesOn, ends⟩ :=
    passes_fragment flows gathering fresh first
  refine ⟨opener, gathered, passed, ?_, ?_⟩
  · rintro after rfl
    exact ⟨fresh, others, goesOn, ends⟩
  · rintro msg rfl
    obtain ⟨later, rfl, rfl⟩ := ends
    refine ⟨later, rfl, fun stack => ⟨fun other inside => ?_, _, goesOn, .fresh rfl rfl⟩⟩
    exact fresh other (List.mem_cons_of_mem _ inside)

end Gathering

section Pumping

/-- These messages are still to come out of the lane, or are in the buffer of the pump at its far
end. -/
structure Pumps (cutter : Cutter) (secured : SecuredStream σ ρ) (lane : Lane σ ρ) (buffer : Bytes)
    (messages : List Message) : Prop where
  fresh : ∀ msg ∈ messages, Fresh msg ∧ cutter.Whole msg
  flows : ∃ buffered, buffer = buffered.flatten ∧
    { lane with frames := buffered ++ lane.frames }.Flows secured.sealer secured.paired
      cutter.maxSize (messages.flatMap (Message.pending cutter.maxSize))

theorem Pumps.put (holds : lane.Pumps cutter secured buffer messages) {later : List Message}
    (fresh : ∀ msg ∈ later, Fresh msg ∧ cutter.Whole msg) :
    (lane.put later).Pumps cutter secured buffer (messages ++ later) := by
  obtain ⟨old, buffered, read, flows⟩ := holds
  refine ⟨fun msg inside => (List.mem_append.mp inside).elim (old msg) (fresh msg), buffered, read,
    ?_⟩
  rw [List.flatMap_append]
  exact flows.put cutter.roomy.positive cutter.small fun msg inside => (fresh msg inside).1

theorem Pumps.sends (holds : lane.Pumps cutter secured buffer messages) :
    ∃ after, lane.called (cutter.dequeue secured.sealer lane.sender) = (after, []) ∧
      after.Pumps cutter secured buffer messages ∧
      (lane.sender.sendQueue ≠ [] → after.frames ≠ []) := by
  obtain ⟨fresh, buffered, read, flows⟩ := holds
  rcases flows.sends cutter.roomy secured.bounded secured.inStep cutter.small with
    ⟨empty, timedOut⟩ | ⟨frame, sender, called, goesOn⟩
  · rw [Cutter.dequeue, timedOut]
    exact ⟨_, rfl, ⟨fresh, buffered, read, flows⟩, absurd empty⟩
  · rw [Cutter.dequeue, called]
    refine ⟨_, rfl, ⟨fresh, buffered, read, ?_⟩, fun _ => by simp [Lane.sent]⟩
    rw [Lane.sent, List.append_assoc] at goesOn
    exact goesOn

theorem Pumps.idle (idle : lane.Idle secured.paired) : lane.Pumps cutter secured [] [] :=
  ⟨by simp, [], rfl, idle.flows⟩

theorem Pumps.nothing (holds : lane.Pumps cutter secured buffer messages)
    (none : messages = []) : lane.Silent ∧ buffer = [] := by
  obtain ⟨-, buffered, rfl, flows⟩ := holds
  subst none
  have silent := flows.silent_iff.mpr rfl
  obtain ⟨rfl, frames⟩ := List.append_eq_nil_iff.mp silent.frames
  exact ⟨⟨silent.queue, frames⟩, rfl⟩

theorem Pumps.silent (holds : lane.Pumps cutter secured [] messages) (silent : lane.Silent) :
    messages = [] := by
  obtain ⟨-, buffered, read, flows⟩ := holds
  obtain rfl : buffered = [] := List.eq_nil_iff_forall_not_mem.mpr fun frame inside =>
    flows.frame_ne_nil frame (List.mem_append_left _ inside)
      (List.flatten_eq_nil_iff.mp read.symm frame inside)
  exact pending_eq_nil (flows.silent_iff.mp ⟨silent.queue, silent.frames⟩)

theorem Pumps.reads (holds : lane.Pumps cutter secured [] messages) (count : Nat) :
    { lane with frames := lane.frames.drop count }.Pumps cutter secured
      (lane.frames.take count).flatten messages := by
  obtain ⟨fresh, buffered, read, flows⟩ := holds
  refine ⟨fresh, buffered ++ lane.frames.take count, ?_, ?_⟩
  · rw [List.flatten_append, ← read, List.nil_append]
  · rw [List.append_assoc, List.take_append_drop]
    exact flows

theorem Pumps.receives (holds : lane.Pumps cutter secured buffer messages)
    (nonempty : buffer ≠ []) :
    ∃ opener msg later taken, AAServer.received secured.opener lane.opener buffer =
        ⟨[⟨msg, taken⟩], opener, (), .ok taken⟩ ∧
      messages = msg :: later ∧
      { lane with opener }.Pumps cutter secured (buffer.drop taken) later := by
  obtain ⟨fresh, buffered, rfl, flows⟩ := holds
  obtain ⟨frame, buffered, rfl⟩ : ∃ frame rest, buffered = frame :: rest := by
    cases buffered with
    | nil => exact absurd rfl nonempty
    | cons frame rest => exact ⟨frame, rest, rfl⟩
  obtain ⟨fragment, others, origin, middle, pending, sound, together, carried, goesOn⟩ :=
    flows.receives rfl
  obtain ⟨msg, later, rfl⟩ : ∃ msg later, messages = msg :: later := by
    cases messages with
    | nil => cases pending
    | cons msg later => exact ⟨msg, later, rfl⟩
  obtain ⟨⟨first, whole⟩, rest⟩ := List.forall_mem_cons.mp fresh
  rw [List.flatMap_cons, Cutter.pending_whole first whole, List.singleton_append] at pending
  cases pending
  obtain ⟨payload, opener, single, fits, opened, inPair⟩ :=
    carried.opened secured.inStep together sound.data sound.size
  cases single
  have called := @AAServer.handleMessage_whole _ _ _ (fun _ _ => ((), .ok ())) _ _ _ _ _ ()
    buffered.flatten rfl fits opened
  have same : (⟨msg.channel, msg.flags, msg.content, 0⟩ : Message) = msg := by
    rw [← first.untouched]
  have size : (Fragment.encode ⟨msg.channel, msg.flags, none, msg.content⟩ payload).length =
      payload.length + 4 := by
    simp [Fragment.encode, Fragment.length_header, Nat.add_comm]
  refine ⟨opener, msg, later, payload.length + 4, ?_, rfl, rest, buffered, ?_, ?_⟩
  · rw [AAServer.received, List.flatten_cons, called, same]
  · rw [List.flatten_cons, List.drop_left' size]
  · exact goesOn opener inPair

end Pumping

end Lane

end AACS
