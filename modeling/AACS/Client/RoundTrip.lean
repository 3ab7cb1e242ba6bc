import AACS.Client.Receive
import AACS.Sender.Progress

/-!
What `AAServer::getMessage` sends, `AAClient::getMessage` returns.

The frames of a message arrive one transfer each; the receiver stops after the
last one because their chunks add up to the total that the first announced.
-/

namespace AACS

open RecordLayer

variable {σ ρ : Type}

theorem asSizeT_toInt32 {total : Nat} (small : total < 2 ^ 31) :
    asSizeT (toInt32 total) = total := by
  have value : toInt32 total = total := by
    rw [toInt32, BitVec.toInt_ofNat', Int.bmod_eq_of_le] <;> omega
  simp only [asSizeT, value, BitVec.toNat_ofInt]
  omega

structure Arrives (opener : Opener ρ DecryptFailure UInt8) (peer : ρ) (fragment : Fragment)
    (bytes : Bytes) (next : ρ) : Prop where
  room : bytes.length ≤ AAClient.bufSize
  accepted : ∃ frame, Frame.parse bytes = some frame ∧ frame.channel = fragment.channel ∧
    frame.flags = fragment.flags ∧ frame.total = fragment.total ∧
    frame.content opener peer = (next, .ok fragment.chunk)

inductive Arriving (opener : Opener ρ DecryptFailure UInt8) :
    ρ → List Fragment → List Bytes → ρ → Prop
  | nil {peer} : Arriving opener peer [] [] peer
  | cons {peer next final fragment bytes fragments frames} :
      Arrives opener peer fragment bytes next → Arriving opener next fragments frames final →
      Arriving opener peer (fragment :: fragments) (bytes :: frames) final

structure Fragment.Sound (fragment : Fragment) : Prop where
  headed : fragment.Headed
  data : isEncrypted fragment.flags = true → fragment.chunk ≠ []
  size : isEncrypted fragment.flags = true → fragment.chunk.length ≤ tlsLimit

theorem Fresh.sound {maxSize : Nat} {msg : Message} (fresh : Fresh msg) (positive : 0 < maxSize)
    (small : maxSize ≤ tlsLimit) : ∀ fragment ∈ msg.pending maxSize, fragment.Sound := by
  intro fragment membership
  have conforms := fresh.conforms positive
  have kept := (conforms.header fragment membership).2
  refine ⟨?_, fresh.carryData positive fragment membership, fun encrypted => ?_⟩
  · unfold Fragment.Headed
    rw [conforms.total fragment membership]
    split <;> simp_all
  · have same : isEncrypted msg.flags = true := by
      rw [← isEncrypted_otherBits, ← kept, isEncrypted_otherBits, encrypted]
    rw [fresh.pending_encrypted same] at membership
    have chunks := map_chunk_opening msg.channel msg.flags msg.content.length
      (Chunking.cut maxSize msg.content)
    have piece : fragment.chunk ∈ Chunking.cut maxSize msg.content :=
      chunks ▸ List.mem_map_of_mem membership
    exact (Chunking.length_le_of_mem_cut positive piece).trans small

theorem Fragment.length_encode_le {fragment : Fragment} {payload : Bytes}
    (fits : fragment.Fits payload) : (fragment.encode payload).length ≤ AAClient.bufSize := by
  have payloadSize := fits.1
  rw [Fragment.encode, List.length_append, Fragment.length_header]
  simp only [AAClient.bufSize]
  split <;> omega

theorem Carried.arriving {tls : Sealer σ UInt8} {opener : Opener ρ DecryptFailure UInt8}
    {paired : σ → ρ → Prop} (inStep : InStep tls opener tlsLimit paired) {state final : σ}
    {peer : ρ} {fragments : List Fragment} {frames : List Bytes}
    (carried : Carried tls state fragments frames final) (together : paired state peer)
    (sound : ∀ fragment ∈ fragments, fragment.Sound) :
    ∃ reached, Arriving opener peer fragments frames reached ∧ paired final reached := by
  induction carried generalizing peer with
  | nil => exact ⟨peer, .nil, together⟩
  | plain plain fits rest inductionHypothesis =>
      obtain ⟨first, others⟩ := List.forall_mem_cons.mp sound
      obtain ⟨reached, arriving, last⟩ := inductionHypothesis together others
      refine ⟨reached, .cons ⟨Fragment.length_encode_le fits, _,
        Frame.parse_encode first.headed fits, rfl, rfl, rfl, ?_⟩ arriving, last⟩
      simp [Frame.content, plain]
  | sealed encrypted written fits rest inductionHypothesis =>
      obtain ⟨first, others⟩ := List.forall_mem_cons.mp sound
      obtain ⟨peerNext, opened, next⟩ :=
        inStep.opens together (first.data encrypted) (first.size encrypted) written
      obtain ⟨reached, arriving, last⟩ := inductionHypothesis next others
      refine ⟨reached, .cons ⟨Fragment.length_encode_le fits, _,
        Frame.parse_encode first.headed fits, rfl, rfl, rfl, ?_⟩ arriving, last⟩
      simp [Frame.content, encrypted, AAClient.decryptMessage, opened]

/-- One piece, or several of which the last one has data, and as many bytes as an `int` can
count. -/
def WellCut (chunks : List Bytes) : Prop :=
  chunks.length = 1 ∨
    (∀ last ∈ chunks.getLast?, last ≠ []) ∧ chunks.flatten.length < 2 ^ 31

theorem flatten_length_pos {chunks : List Bytes} (more : chunks ≠ [])
    (data : ∀ last ∈ chunks.getLast?, last ≠ []) : 0 < chunks.flatten.length := by
  apply List.length_pos_iff.mpr
  intro empty
  exact data _ (List.getLast?_eq_some_getLast more)
    (List.flatten_eq_nil_iff.mp empty _ (List.getLast_mem more))

namespace AAClient

theorem getMessageFrom_arrives {opener : Opener ρ DecryptFailure UInt8} {peer next : ρ}
    {fragment : Fragment} {bytes : Bytes} (soFar : Reassembly) (rest : List Transfer)
    (arrives : Arrives opener peer fragment bytes next) :
    ∃ after : Reassembly, after.fullContent = soFar.fullContent ++ fragment.chunk ∧
      after.totalLength = fragment.total.elim soFar.totalLength toInt32 ∧
      getMessageFrom opener peer soFar (.completed bytes :: rest) =
        if after.fullContent.length < asSizeT after.totalLength then
          getMessageFrom opener next after rest
        else
          .returned ⟨fragment.channel, fragment.flags ||| FrameType.Bulk.mask,
            after.fullContent, 0⟩ next rest := by
  obtain ⟨frame, parsed, channel, flags, total, accepted⟩ := arrives.accepted
  refine ⟨soFar.add bytes frame fragment.chunk, rfl, by rw [← total]; rfl, ?_⟩
  rw [getMessageFrom_accepted soFar rest parsed arrives.room accepted, channel, flags]
  rfl

/-- A First frame that leaves content to come keeps the loop going, and so does
every Middle frame; the Last frame ends it. -/
theorem getMessageFrom_continuation {opener : Opener ρ DecryptFailure UInt8} {peer final : ρ}
    {channel flags : UInt8} {chunks : List Bytes} {frames : List Bytes}
    (arriving : Arriving opener peer (continuation channel flags chunks) frames final)
    (soFar : Reassembly) (rest : List Transfer) (more : chunks ≠ [])
    (data : ∀ last ∈ chunks.getLast?, last ≠ [])
    (total : asSizeT soFar.totalLength = soFar.fullContent.length + chunks.flatten.length) :
    getMessageFrom opener peer soFar (frames.map .completed ++ rest) =
      .returned ⟨channel, flags ||| FrameType.Bulk.mask, soFar.fullContent ++ chunks.flatten, 0⟩
        final rest := by
  induction chunks generalizing peer frames soFar with
  | nil => exact absurd rfl more
  | cons chunk chunks inductionHypothesis =>
      cases chunks with
      | nil =>
          cases arriving with
          | cons arrives done =>
              cases done
              obtain ⟨after, full, same, pass⟩ := getMessageFrom_arrives soFar rest arrives
              simp only [List.flatten_cons, List.flatten_nil, List.append_nil] at total ⊢
              have complete : ¬ after.fullContent.length < asSizeT after.totalLength := by
                rw [full, same, List.length_append]
                exact Nat.not_lt.mpr (Nat.le_of_eq total)
              rw [List.map_singleton, List.singleton_append, pass, if_neg complete, full,
                or_mask_or_bulk]
      | cons second chunks =>
          cases arriving with
          | cons arrives later =>
              obtain ⟨after, full, same, pass⟩ := getMessageFrom_arrives soFar _ arrives
              rw [List.getLast?_cons_cons] at data
              have size := flatten_length_pos (List.cons_ne_nil _ _) data
              have remaining : asSizeT after.totalLength =
                  after.fullContent.length + (second :: chunks).flatten.length := by
                rw [full, same, List.length_append, Nat.add_assoc]
                simpa using total
              have incomplete : after.fullContent.length < asSizeT after.totalLength := by omega
              rw [List.map_cons, List.cons_append, pass, if_pos incomplete,
                inductionHypothesis later after (by simp) data remaining, full]
              simp

/-- The frames of one message, First to Last or a single Bulk one, are returned
as the message. -/
theorem getMessage_opening {opener : Opener ρ DecryptFailure UInt8} {peer final : ρ}
    {channel flags : UInt8} {chunks : List Bytes} {frames : List Bytes}
    (arriving : Arriving opener peer (opening channel flags chunks.flatten.length chunks) frames
      final)
    (buffer : Buffer) (rest : List Transfer) (more : chunks ≠ [])
    (cut : WellCut chunks) :
    getMessage opener buffer peer (frames.map .completed ++ rest) =
      .returned ⟨channel, flags ||| FrameType.Bulk.mask, chunks.flatten, 0⟩ final rest := by
  cases chunks with
  | nil => exact absurd rfl more
  | cons chunk chunks =>
      cases chunks with
      | nil =>
          cases arriving with
          | cons arrives done =>
              cases done
              obtain ⟨after, full, same, pass⟩ := getMessageFrom_arrives { buffer } rest arrives
              have complete : ¬ after.fullContent.length < asSizeT after.totalLength := by
                rw [same]
                exact Nat.not_lt_zero _
              rw [getMessage, List.map_singleton, List.singleton_append, pass, if_neg complete,
                full]
              simp
      | cons second chunks =>
          cases arriving with
          | cons arrives later =>
              obtain ⟨after, full, same, pass⟩ := getMessageFrom_arrives { buffer }
                (_ ++ rest) arrives
              obtain ⟨data, small⟩ := cut.resolve_left (by simp)
              rw [List.getLast?_cons_cons] at data
              have size := flatten_length_pos (List.cons_ne_nil _ _) data
              have remaining : asSizeT after.totalLength =
                  after.fullContent.length + (second :: chunks).flatten.length := by
                rw [full, same, Option.elim_some, asSizeT_toInt32 small]
                simp
              have incomplete : after.fullContent.length < asSizeT after.totalLength := by omega
              rw [getMessage, List.map_cons, List.cons_append, pass, if_pos incomplete,
                getMessageFrom_continuation later after rest (by simp) data remaining,
                full]
              simp [otherBits_or_bulk]

end AAClient

/-- The messages pass from one end to the other, each in its own group of
frames, and whatever follows a group is left for the calls that follow. -/
inductive Exchanged (sealer : Sealer σ UInt8) (opener : Opener ρ DecryptFailure UInt8) :
    σ → ρ → List Message → List (List Bytes) → Prop
  | nil {state peer} : Exchanged sealer opener state peer [] []
  | cons {state next peer peerNext msg messages frames groups} :
      Carried sealer state (msg.pending 2000) frames next →
      (∀ buffer rest, AAClient.getMessage opener buffer peer (frames.map .completed ++ rest) =
        .returned msg peerNext rest) →
      Exchanged sealer opener next peerNext messages groups →
      Exchanged sealer opener state peer (msg :: messages) (frames :: groups)

theorem Fresh.length_lt {msg : Message} (fresh : Fresh msg) : msg.content.length < 2 ^ 31 := by
  have size := fresh.size
  unfold sizeLimit at size
  split at size <;> omega

/-- A fresh message is returned as it was queued. -/
theorem Fresh.received {opener : Opener ρ DecryptFailure UInt8} {msg : Message} (fresh : Fresh msg)
    {peer final : ρ} {frames : List Bytes}
    (arriving : Arriving opener peer (msg.pending 2000) frames final) (buffer : Buffer)
    (rest : List Transfer) :
    AAClient.getMessage opener buffer peer (frames.map .completed ++ rest) =
      .returned msg final rest := by
  have bits : msg.flags ||| FrameType.Bulk.mask = msg.flags := or_bulk_eq_self fresh.bulk
  have whole : (⟨msg.channel, msg.flags, msg.content, 0⟩ : Message) = msg := by
    rw [← fresh.untouched]
  obtain ⟨chunks, more, nonempty, joined, cut⟩ : ∃ chunks : List Bytes, chunks ≠ [] ∧
      (chunks.length = 1 ∨ ∀ chunk ∈ chunks, chunk ≠ []) ∧ chunks.flatten = msg.content ∧
      msg.pending 2000 = opening msg.channel msg.flags msg.content.length chunks := by
    cases encrypted : isEncrypted msg.flags with
    | false => exact ⟨[msg.content], by simp, .inl rfl, by simp, Fresh.pending_plain encrypted⟩
    | true =>
        exact ⟨Chunking.cut 2000 msg.content, Chunking.cut_ne_nil _ _,
          .inr fun chunk => Chunking.ne_nil_of_mem_cut (by decide) (fresh.nonempty encrypted),
          Chunking.cut_flatten _ _, fresh.pending_encrypted encrypted⟩
  rw [cut, ← joined] at arriving
  have wellCut : WellCut chunks := nonempty.imp_right fun data =>
    ⟨fun last inside => data last (List.mem_of_getLast? inside), joined ▸ fresh.length_lt⟩
  rw [AAClient.getMessage_opening arriving buffer rest more wellCut, joined, bits, whole]

theorem SentAs.exchanged {tls : Sealer σ UInt8} {opener : Opener ρ DecryptFailure UInt8}
    {paired : σ → ρ → Prop} (inStep : InStep tls opener tlsLimit paired) {messages : List Message}
    {state : σ} {peer : ρ} {parts : List (List Bytes)} (sent : SentAs tls 2000 state messages parts)
    (together : paired state peer) (fresh : ∀ msg ∈ messages, Fresh msg) :
    Exchanged tls opener state peer messages parts := by
  induction sent generalizing peer with
  | nil => exact .nil
  | cons carried rest inductionHypothesis =>
      obtain ⟨first, others⟩ := List.forall_mem_cons.mp fresh
      obtain ⟨reached, arriving, next⟩ :=
        carried.arriving inStep together (first.sound (by decide) (by decide))
      exact .cons carried (first.received arriving) (inductionHypothesis next others)

/-- Every message that the phone's threads queue is sent by enough calls, and the
head unit's calls return exactly these messages in order. -/
theorem phone_to_headunit_round_trip (sealer : Sealer σ UInt8)
    (opener : Opener ρ DecryptFailure UInt8) (paired : σ → ρ → Prop)
    (bounded : sealer.Bounded tlsOverhead) (inStep : InStep sealer opener tlsLimit paired)
    (state : σ) (peer : ρ) (together : paired state peer) (events : List SendEvent)
    (fresh : ∀ msg ∈ enqueued events, Fresh msg) :
    ∃ enough, ∀ calls ≥ enough, ∃ final trace groups,
      (sendMachine (AAServer.getMessage sealer AAServer.bufSize)).run (.start state)
        (events ++ List.replicate calls .dequeue) = some (final, trace) ∧
      final.sender.sendQueue = [] ∧
      groups.flatten = emitted trace ∧
      Exchanged sealer opener state peer (enqueued events) groups := by
  obtain ⟨enough, sent⟩ := all_sent getMessage_roomy bounded inStep (by decide) ⟨peer, together⟩
    events fresh
  refine ⟨enough, fun calls later => ?_⟩
  obtain ⟨final, trace, parts, ran, empty, whole, parted⟩ := sent calls later
  exact ⟨final, trace, parts, ran, empty, whole, parted.exchanged inStep together fresh⟩

theorem phone_to_headunit_round_trip_mixed_queue :
    ∃ enough, ∀ calls ≥ enough, ∃ final trace groups,
      (sendMachine (AAServer.getMessage nullSealer AAServer.bufSize)).run (.start 0)
        ([.sendMessage 3 15 (List.replicate 4001 7), .dequeue, .sendMessage 0 3 [0, 1]] ++
          List.replicate calls .dequeue) = some (final, trace) ∧
      final.sender.sendQueue = [] ∧
      groups.flatten = emitted trace ∧
      Exchanged nullSealer (nullOpener .bioWrite) 0 0
        [⟨3, 15, List.replicate 4001 7, 0⟩, ⟨0, 3, [0, 1], 0⟩] groups :=
  phone_to_headunit_round_trip nullSealer (nullOpener .bioWrite) Eq
    (nullSealer_bounded (by decide)) (nullCipher_inStep DecryptFailure.bioWrite tlsLimit) 0 0 rfl
    [.sendMessage 3 15 (List.replicate 4001 7), .dequeue, .sendMessage 0 3 [0, 1]]
    (by decide +kernel)

end AACS
