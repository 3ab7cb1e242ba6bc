import AACS.Sender.Progress
import AACS.Server.Pump

/-!
What `AAClient::prepareMessage` sends, as `AAServer::handleMessage` hands it on.

A message in one frame is handed on as it is.  Of one in several frames, already
the First frame goes wrong: its total length is taken for the record.
-/

namespace AACS

open RecordLayer

variable {σ ρ τ : Type}

namespace AAServer

variable {tls : Opener ρ DecryptFailure UInt8} {handle : Handler τ}

/-- The pump with a part of a read still in its buffer. -/
def resume (tls : Opener ρ DecryptFailure UInt8) (handle : Handler τ) (ssl : ρ) (state : τ)
    (buf : Bytes) (readings : List Reading) : Turn ρ τ Bool :=
  let turn := drain tls handle (fun _ => false) ssl state buf
  match turn.result with
  | .error thrown => ⟨turn.handed, turn.ssl, turn.state, .error thrown⟩
  | .ok true => ⟨turn.handed, turn.ssl, turn.state, .ok true⟩
  | .ok false =>
      let rest := dataPump tls handle (fun _ => false) turn.ssl turn.state readings
      { rest with handed := turn.handed ++ rest.handed }

theorem resume_nil (ssl : ρ) (state : τ) (readings : List Reading) :
    resume tls handle ssl state [] readings =
      dataPump tls handle (fun _ => false) ssl state readings := by
  simp [resume, drain]

theorem dataPump_data (ssl : ρ) (state : τ) (bytes : Bytes) (readings : List Reading) :
    dataPump tls handle (fun _ => false) ssl state (.data bytes :: readings) =
      resume tls handle ssl state bytes readings := by
  have passed : ∃ length, Reading.checked (.data bytes) = .ok length := by
    simp only [Reading.checked, checkError]
    split
    next => exact ⟨_, rfl⟩
    next empty =>
      rw [if_pos (by omega)]
      exact ⟨_, rfl⟩
  obtain ⟨length, checked⟩ := passed
  rewrite [dataPump, checked]
  rfl

theorem resume_error {ssl : ρ} {state : τ} {buf : Bytes} {thrown : Thrown}
    (readings : List Reading) (nonempty : buf ≠ [])
    (failed : (handleMessage tls handle ssl state buf).result = .error thrown) :
    (resume tls handle ssl state buf readings).handed =
      (handleMessage tls handle ssl state buf).handed := by
  have drained : drain tls handle (fun _ => false) ssl state buf =
      ⟨(handleMessage tls handle ssl state buf).handed,
        (handleMessage tls handle ssl state buf).ssl,
        (handleMessage tls handle ssl state buf).state, .error thrown⟩ := by
    apply drain_error nonempty
    rw [← failed]
  rw [resume, drained]

theorem resume_ok {ssl : ρ} {state : τ} {buf : Bytes} {partLength : Nat}
    (readings : List Reading) (nonempty : buf ≠ [])
    (returned : (handleMessage tls handle ssl state buf).result = .ok partLength) :
    (resume tls handle ssl state buf readings).handed =
      (handleMessage tls handle ssl state buf).handed ++
        (resume tls handle (handleMessage tls handle ssl state buf).ssl
          (handleMessage tls handle ssl state buf).state (buf.drop partLength)
          readings).handed := by
  have drained : drain tls handle (fun _ => false) ssl state buf =
      let rest := drain tls handle (fun _ => false) (handleMessage tls handle ssl state buf).ssl
        (handleMessage tls handle ssl state buf).state (buf.drop partLength)
      { rest with handed := (handleMessage tls handle ssl state buf).handed ++ rest.handed } := by
    apply drain_ok nonempty
    rw [← returned]
  rw [resume, drained, resume]
  dsimp only
  split <;> simp

theorem resume_handed (ssl : ρ) (state : τ) {buf : Bytes} (readings : List Reading)
    (nonempty : buf ≠ []) :
    ∃ later, (resume tls handle ssl state buf readings).handed =
      (handleMessage tls handle ssl state buf).handed ++ later := by
  cases returned : (handleMessage tls handle ssl state buf).result with
  | error thrown => exact ⟨[], by simp [resume_error readings nonempty returned]⟩
  | ok partLength => exact ⟨_, resume_ok readings nonempty returned⟩

theorem handleMessage_whole {fragment : Fragment} {payload content : Bytes} {ssl next : ρ}
    (state : τ) (rest : Bytes) (bare : fragment.total = none) (fits : fragment.Fits payload)
    (opened : (if isEncrypted fragment.flags then decryptMessage tls ssl payload
      else (ssl, .ok payload)) = (next, .ok content)) :
    handleMessage tls handle ssl state (fragment.encode payload ++ rest) =
      match handle state ⟨fragment.channel, fragment.flags, content, 0⟩ with
      | (state, .error thrown) =>
          ⟨[⟨⟨fragment.channel, fragment.flags, content, 0⟩, payload.length + 4⟩], next, state,
            .error thrown⟩
      | (state, .ok _) =>
          ⟨[⟨⟨fragment.channel, fragment.flags, content, 0⟩, payload.length + 4⟩], next, state,
            .ok (payload.length + 4)⟩ := by
  have length := @BigEndian.decode_encode 2 _ fits.1
  simp only [BigEndian.encode] at length
  simp only [Fragment.encode, Fragment.header, bare, Option.elim_none, BigEndian.encode,
    List.append_nil, List.cons_append, List.nil_append, handleMessage, length]
  rewrite [if_neg (by simp), List.take_left' rfl, opened]
  rfl

theorem handleMessage_taken {fragment : Fragment} {payload : Bytes} (ssl : ρ) (state : τ)
    (rest : Bytes) (fits : fragment.Fits payload) :
    ∀ handed ∈ (handleMessage tls handle ssl state (fragment.encode payload ++ rest)).handed,
      handed.taken = payload.length + 4 := by
  intro handed membership
  have length := @BigEndian.decode_encode 2 _ fits.1
  simp only [BigEndian.encode] at length
  simp only [Fragment.encode, Fragment.header, BigEndian.encode, List.cons_append,
    List.nil_append, handleMessage, length] at membership
  split at membership
  next => simp at membership
  next =>
    split at membership
    next => simp at membership
    next => split at membership <;> simp_all

/-- Nothing is handed on only when `handleMessage` throws. -/
theorem handleMessage_handed (ssl : ρ) (state : τ) (buf : Bytes) :
    ((handleMessage tls handle ssl state buf).handed = [] ∧
      ∃ thrown, (handleMessage tls handle ssl state buf).result = .error thrown) ∨
    ∃ handed, (handleMessage tls handle ssl state buf).handed = [handed] := by
  unfold handleMessage
  split
  next =>
    dsimp only
    split
    next => exact .inl ⟨rfl, _, rfl⟩
    next =>
      split
      next => exact .inl ⟨rfl, _, rfl⟩
      next => split <;> exact .inr ⟨_, rfl⟩
  next => exact .inl ⟨rfl, _, rfl⟩

/-- A message as the pump should hand it on, with the size of its frames. -/
def Handed.seen (handed : Handed) : UInt8 × Bytes × Nat :=
  (handed.msg.channel, handed.msg.content, handed.taken)

def expected (msg : Message) (frames : List Bytes) : UInt8 × Bytes × Nat :=
  (msg.channel, msg.content, frames.flatten.length)

end AAServer

def readings (groups : List (List Bytes)) : List Reading :=
  groups.map fun group => .data group.flatten

/-- Reads may end at any frame: the next frame is at the front of some read. -/
theorem resume_front {tls : Opener ρ DecryptFailure UInt8} {handle : Handler τ} (ssl : ρ)
    (state : τ) {frame : Bytes} {current frames : List Bytes} {groups : List (List Bytes)}
    (next : current ++ groups.flatten = frame :: frames) :
    ∃ (left : List Bytes) (later : List (List Bytes)),
      AAServer.resume tls handle ssl state current.flatten
          (readings groups) =
        AAServer.resume tls handle ssl state (frame ++ left.flatten)
          (readings later) ∧
      left ++ later.flatten = frames := by
  induction groups generalizing current with
  | nil =>
      obtain rfl : current = frame :: frames := by simpa using next
      exact ⟨frames, [], rfl, by simp⟩
  | cons group groups inductionHypothesis =>
      cases current with
      | nil =>
          obtain ⟨left, later, same, rest⟩ := @inductionHypothesis group (by simpa using next)
          refine ⟨left, later, ?_, rest⟩
          rw [List.flatten_nil, AAServer.resume_nil, readings, List.map_cons,
            AAServer.dataPump_data, ← readings, same]
      | cons first current =>
          obtain ⟨rfl, rfl⟩ := List.cons.inj next
          exact ⟨current, group :: groups, rfl, rfl⟩

theorem resume_done {tls : Opener ρ DecryptFailure UInt8} {handle : Handler τ} (ssl : ρ)
    (state : τ) {groups : List (List Bytes)} (ended : groups.flatten = []) :
    (AAServer.resume tls handle ssl state []
      (readings groups)).handed = [] := by
  induction groups with
  | nil => rw [AAServer.resume_nil]; rfl
  | cons group groups inductionHypothesis =>
      obtain ⟨rfl, later⟩ := List.append_eq_nil_iff.mp ended
      rw [AAServer.resume_nil, readings, List.map_cons, AAServer.dataPump_data]
      exact inductionHypothesis later

def Whole (msg : Message) : Prop :=
  isEncrypted msg.flags = true → msg.content.length ≤ 10000

instance (msg : Message) : Decidable (Whole msg) :=
  inferInstanceAs (Decidable (isEncrypted msg.flags = true → msg.content.length ≤ 10000))

theorem Fresh.pending_whole {msg : Message} (fresh : Fresh msg) (whole : Whole msg) :
    msg.pending 10000 = [⟨msg.channel, msg.flags, none, msg.content⟩] := by
  cases encrypted : isEncrypted msg.flags with
  | false => exact Fresh.pending_plain encrypted
  | true =>
      rw [fresh.pending_encrypted encrypted, Chunking.cut_of_length_le (whole encrypted)]
      rfl

theorem Fresh.pending_cut {msg : Message} (fresh : Fresh msg) (long : ¬ Whole msg) :
    ∃ flags chunk fragments, msg.pending 10000 =
      ⟨msg.channel, flags, some msg.content.length, chunk⟩ :: fragments := by
  obtain ⟨encrypted, size⟩ : isEncrypted msg.flags = true ∧ 10000 < msg.content.length := by
    simpa [Whole] using long
  rw [fresh.pending_encrypted encrypted, opening_of_lt_length _ _ _ (by decide) size]
  exact ⟨_, _, _, rfl⟩

theorem Carried.opened {sealer : Sealer σ UInt8} {opener : Opener ρ DecryptFailure UInt8}
    {paired : σ → ρ → Prop} (inStep : InStep sealer opener tlsLimit paired) {state next : σ}
    {peer : ρ} {fragment : Fragment} {frames : List Bytes}
    (carried : Carried sealer state [fragment] frames next) (together : paired state peer)
    (data : isEncrypted fragment.flags = true → fragment.chunk ≠ [])
    (size : isEncrypted fragment.flags = true → fragment.chunk.length ≤ tlsLimit) :
    ∃ payload peerNext, frames = [fragment.encode payload] ∧ fragment.Fits payload ∧
      (if isEncrypted fragment.flags then AAServer.decryptMessage opener peer payload
        else (peer, .ok payload)) = (peerNext, .ok fragment.chunk) ∧ paired next peerNext := by
  cases carried with
  | plain plain fits done =>
      cases done
      exact ⟨fragment.chunk, peer, rfl, fits, by simp [plain], together⟩
  | sealed encrypted written fits done =>
      cases done
      obtain ⟨peerNext, opened, next⟩ :=
        inStep.opens together (data encrypted) (size encrypted) written
      exact ⟨_, peerNext, rfl, fits, by simp [encrypted, AAServer.decryptMessage, opened], next⟩

theorem Carried.first {sealer : Sealer σ UInt8} {state final : σ} {fragment : Fragment}
    {fragments : List Fragment} {frames : List Bytes}
    (carried : Carried sealer state (fragment :: fragments) frames final) :
    ∃ payload more, frames = fragment.encode payload :: more ∧ fragment.Fits payload := by
  cases carried with
  | plain plain fits rest => exact ⟨_, _, rfl, fits⟩
  | sealed encrypted written fits rest => exact ⟨_, _, rfl, fits⟩

theorem Fragment.encode_ne_nil (fragment : Fragment) (payload rest : Bytes) :
    fragment.encode payload ++ rest ≠ [] := by
  simp [Fragment.encode, Fragment.header]

/-- The pump hands on, from any read boundary, exactly what it should as long as
every message it should hand on is whole. -/
theorem resume_iff {sealer : Sealer σ UInt8} {opener : Opener ρ DecryptFailure UInt8}
    {paired : σ → ρ → Prop} (inStep : InStep sealer opener tlsLimit paired) {handle : Handler τ}
    {messages : List Message} {state : σ} {parts : List (List Bytes)}
    (sent : SentAs sealer 10000 state messages parts) {peer : ρ} (together : paired state peer)
    (fresh : ∀ msg ∈ messages, Fresh msg) (start : τ) {current : List Bytes}
    {groups : List (List Bytes)} (arrive : current ++ groups.flatten = parts.flatten) :
    (AAServer.resume opener handle peer start current.flatten
        (readings groups)).handed.map AAServer.Handed.seen =
      List.zipWith AAServer.expected (handOver handle start messages) parts ↔
    ∀ msg ∈ messages.take (handOver handle start messages).length, Whole msg := by
  induction sent generalizing peer start current groups with
  | nil =>
      obtain ⟨rfl, ended⟩ := List.append_eq_nil_iff.mp arrive
      simp [resume_done peer start ended, handOver]
  | @cons state next msg messages frames parts carried rest inductionHypothesis =>
      obtain ⟨first, others⟩ := List.forall_mem_cons.mp fresh
      have same : (⟨msg.channel, msg.flags, msg.content, 0⟩ : Message) = msg := by
        rw [← first.untouched]
      by_cases whole : Whole msg
      · rw [first.pending_whole whole] at carried
        obtain ⟨payload, peerNext, rfl, fits, opened, later⟩ := carried.opened inStep together
          first.nonempty fun encrypted => (whole encrypted).trans (by decide)
        obtain ⟨left, groups', front, following⟩ := @resume_front _ _ opener handle peer start
          _ _ _ _ (by simpa using arrive)
        have call := @AAServer.handleMessage_whole _ _ _ handle _ _ _ _ _ start left.flatten rfl
          fits opened
        have size : (Fragment.encode ⟨msg.channel, msg.flags, none, msg.content⟩ payload).length =
            payload.length + 4 := by
          simp [Fragment.encode, Fragment.length_header, Nat.add_comm]
        rw [front, handOver]
        simp only [same] at call
        rcases handled : handle start msg with ⟨after, thrown | _⟩
        · rw [handled] at call
          rw [AAServer.resume_error _ (Fragment.encode_ne_nil _ _ _) (congrArg _ call), call]
          simp [AAServer.Handed.seen, AAServer.expected, size, whole]
        · rw [handled] at call
          rw [AAServer.resume_ok _ (Fragment.encode_ne_nil _ _ _) (congrArg _ call), call,
            List.drop_left' size]
          simpa [AAServer.Handed.seen, AAServer.expected, size, whole] using
            inductionHypothesis later others after following
      · obtain ⟨flags, chunk, fragments, pending⟩ := first.pending_cut whole
        rw [pending] at carried
        obtain ⟨payload, more, rfl, fits⟩ := carried.first
        obtain ⟨left, groups', front, -⟩ := @resume_front _ _ opener handle peer start
          _ _ _ _ (by simpa using arrive)
        obtain ⟨others, given⟩ :=
          List.head?_eq_some_iff.mp (head?_handOver handle start msg messages)
        refine iff_of_false ?_ fun all => absurd (all msg (by simp [given])) whole
        rw [front, given, List.zipWith_cons_cons]
        have taken :=
          @AAServer.handleMessage_taken _ _ opener handle _ _ peer start left.flatten fits
        have nonempty := Fragment.encode_ne_nil
          ⟨msg.channel, flags, some msg.content.length, chunk⟩ payload left.flatten
        rcases @AAServer.handleMessage_handed _ _ opener handle peer start
          (Fragment.encode ⟨msg.channel, flags, some msg.content.length, chunk⟩ payload ++
            left.flatten) with ⟨nothing, thrown, failed⟩ | ⟨handed, only⟩
        · rw [AAServer.resume_error _ nonempty failed, nothing]
          simp
        · obtain ⟨later, whole⟩ := AAServer.resume_handed peer start
            (readings groups') nonempty
          rw [whole, only]
          intro same
          have sizes := congrArg (fun seen => seen.2.2) (List.cons.inj same).1
          have short := taken handed (by rw [only]; exact List.mem_singleton_self _)
          simp only [AAServer.Handed.seen, AAServer.expected, short, List.flatten_cons,
            List.length_append, Fragment.encode, Fragment.length_header, Option.isSome_some,
            if_true] at sizes
          omega

/-- The handler is given the messages that it should be, in order, each with its
channel, its whole content and all the bytes of its frames. -/
def HandsOn (handle : Handler τ) (start : τ) (messages : List Message) (parts : List (List Bytes))
    (turn : AAServer.Turn ρ τ Bool) : Prop :=
  turn.handed.map AAServer.Handed.seen =
    List.zipWith AAServer.expected (handOver handle start messages) parts

theorem handsOn_iff {sealer : Sealer σ UInt8} {opener : Opener ρ DecryptFailure UInt8}
    {paired : σ → ρ → Prop} (inStep : InStep sealer opener tlsLimit paired) {handle : Handler τ}
    {messages : List Message} {state : σ} {parts : List (List Bytes)}
    (sent : SentAs sealer 10000 state messages parts) {peer : ρ} (together : paired state peer)
    (fresh : ∀ msg ∈ messages, Fresh msg) (start : τ) {groups : List (List Bytes)}
    (arrive : groups.flatten = parts.flatten) :
    HandsOn handle start messages parts (AAServer.dataPump opener handle (fun _ => false) peer
        start (readings groups)) ↔
      ∀ msg ∈ messages.take (handOver handle start messages).length, Whole msg := by
  rw [HandsOn, ← AAServer.resume_nil]
  exact @resume_iff _ _ _ _ _ _ inStep handle _ _ _ sent _ together fresh start [] _ arrive

/-- Every message that the head unit's threads queue is sent by enough calls; the
phone's pump hands them on exactly when those that it should hand on are sent
whole. -/
theorem headunit_to_phone_round_trip (sealer : Sealer σ UInt8)
    (opener : Opener ρ DecryptFailure UInt8) (paired : σ → ρ → Prop)
    (bounded : sealer.Bounded tlsOverhead) (inStep : InStep sealer opener tlsLimit paired)
    (state : σ) (peer : ρ) (together : paired state peer) (events : List SendEvent)
    (fresh : ∀ msg ∈ enqueued events, Fresh msg) (handle : Handler τ) (start : τ) :
    ∃ enough, ∀ calls ≥ enough, ∃ final trace parts,
      (sendMachine (AAClient.prepareMessage sealer)).run (.start state)
        (events ++ List.replicate calls .dequeue) = some (final, trace) ∧
      final.sender.sendQueue = [] ∧ parts.flatten = emitted trace ∧
      SentAs sealer 10000 state (enqueued events) parts ∧
      ∀ groups : List (List Bytes), groups.flatten = emitted trace →
        (HandsOn handle start (enqueued events) parts
            (AAServer.dataPump opener handle (fun _ => false) peer start
              (readings groups)) ↔
          ∀ msg ∈ (enqueued events).take (handOver handle start (enqueued events)).length,
            Whole msg) := by
  obtain ⟨enough, sent⟩ := all_sent prepareMessage_roomy bounded inStep (by decide)
    ⟨peer, together⟩ events fresh
  refine ⟨enough, fun calls later => ?_⟩
  obtain ⟨final, trace, parts, ran, empty, whole, parted⟩ := sent calls later
  refine ⟨final, trace, parts, ran, empty, whole, parted, fun groups arrive => ?_⟩
  exact handsOn_iff inStep parted together fresh start (arrive.trans whole.symm)

theorem headunit_to_phone_round_trip_two_messages :
    ∃ enough, ∀ calls ≥ enough, ∃ final trace parts,
      (sendMachine (AAClient.prepareMessage nullSealer)).run (.start 0)
        ([.sendMessage 1 11 [128, 1], .sendMessage 0 3 [0, 1]] ++
          List.replicate calls .dequeue) = some (final, trace) ∧
      final.sender.sendQueue = [] ∧ parts.flatten = emitted trace ∧
      SentAs nullSealer 10000 0 [⟨1, 11, [128, 1], 0⟩, ⟨0, 3, [0, 1], 0⟩] parts ∧
      ∀ groups : List (List Bytes), groups.flatten = emitted trace →
        (HandsOn (fun _ _ => ((), .ok ())) () [⟨1, 11, [128, 1], 0⟩, ⟨0, 3, [0, 1], 0⟩] parts
            (AAServer.dataPump (nullOpener .bioWrite) (fun _ _ => ((), .ok ())) (fun _ => false) 0
              () (readings groups)) ↔
          ∀ msg ∈ [⟨1, 11, [128, 1], 0⟩, ⟨0, 3, [0, 1], 0⟩].take 2, Whole msg) :=
  headunit_to_phone_round_trip nullSealer (nullOpener .bioWrite) Eq
    (nullSealer_bounded (by decide)) (nullCipher_inStep DecryptFailure.bioWrite tlsLimit) 0 0 rfl
    [.sendMessage 1 11 [128, 1], .sendMessage 0 3 [0, 1]] (by decide)
    (fun _ _ => ((), .ok ())) ()

/-- One byte more than fits a frame. -/
def longMessage : Message := ⟨1, 11, List.replicate 10001 7, 0⟩

/-- A message of 10001 bytes is not handed on, however its frames are read. -/
theorem long_message_is_not_handed_on :
    ∃ calls final trace parts,
      (sendMachine (AAClient.prepareMessage nullSealer)).run (.start 0)
        ([.sendMessage longMessage.channel longMessage.flags longMessage.content] ++
          List.replicate calls .dequeue) = some (final, trace) ∧
      final.sender.sendQueue = [] ∧ parts.flatten = emitted trace ∧
      SentAs nullSealer 10000 0 [longMessage] parts ∧
      ∀ groups : List (List Bytes), groups.flatten = emitted trace →
        ¬ HandsOn (fun _ _ => ((), .ok ())) () [longMessage] parts
          (AAServer.dataPump (nullOpener .bioWrite) (fun _ _ => ((), .ok ())) (fun _ => false) 0 ()
            (readings groups)) := by
  have fresh : ∀ msg ∈ [longMessage], Fresh msg := by decide +kernel
  have long : ¬ Whole longMessage := by decide +kernel
  have inStep : InStep nullSealer (nullOpener DecryptFailure.bioWrite) tlsLimit Eq :=
    nullCipher_inStep DecryptFailure.bioWrite tlsLimit
  obtain ⟨enough, sent⟩ := all_sent prepareMessage_roomy (nullSealer_bounded (by decide)) inStep
    (by decide) ⟨0, rfl⟩
    [.sendMessage longMessage.channel longMessage.flags longMessage.content] fresh
  obtain ⟨final, trace, parts, ran, empty, whole, parted⟩ := sent enough le_rfl
  refine ⟨enough, final, trace, parts, ran, empty, whole, parted, fun groups arrive handsOn => ?_⟩
  have all := (handsOn_iff inStep parted rfl fresh () (arrive.trans whole.symm)).mp handsOn
  exact long (all longMessage (List.mem_cons_self ..))

end AACS
