import AACS.Client.Setup
import AACS.Library.Transitions

/-!
The reads of `AAClient` in what the phone sends.

`getMessage` reads a header once a transfer has two bytes, and `setup` the type of a content
that may have none. A transfer that ends inside its header is not refused with a
`runtime_error`, so it ends the loop of `setup`.
-/

namespace AACS

open RecordLayer Transitions

variable {ρ τ : Type}

namespace AAClient

/-- The loop of `setup` after the handshake, between two transfers: the call of `getMessage`
that is going on, and how the loop has ended if it has. -/
structure Receiving (ρ τ : Type) where
  ssl : ρ
  state : τ
  soFar : Reassembly
  faultCount : Nat := 0
  ended : Option SetupEnd := none

/-- A transfer, and what a call that begins after it finds in its buffer. -/
structure Arrival where
  transfer : Transfer
  stack : Buffer

def Receiving.pass (tls : Opener ρ DecryptFailure UInt8) (dispatch : Handler τ)
    (receiving : Receiving ρ τ) (arrival : Arrival) : Receiving ρ τ × List Message :=
  match receiveFrame tls receiving.ssl receiving.soFar arrival.transfer with
  | (ssl, .error thrown) =>
      if thrown.isRuntimeError then
        let faultCount := receiving.faultCount + 1
        ({ receiving with
            ssl, faultCount
            soFar := { buffer := arrival.stack }
            ended := if faultCount < 30 then none else some .gaveUp }, [])
      else ({ receiving with ssl, ended := some (.threw thrown) }, [])
  | (ssl, .ok (channel, flags, soFar)) =>
      if soFar.fullContent.length < asSizeT soFar.totalLength then
        ({ receiving with ssl, soFar }, [])
      else
        let msg : Message := ⟨channel, flags ||| FrameType.Bulk.mask, soFar.fullContent, 0⟩
        match dispatch receiving.state msg with
        | (state, .error thrown) =>
            ({ receiving with ssl, state, soFar, faultCount := 0, ended := some (.threw thrown) },
              [msg])
        | (state, .ok _) =>
            ({ ssl, state, soFar := { buffer := arrival.stack } }, [msg])

/-- The outputs are the messages that are given to the dispatch. -/
def setupMachine (tls : Opener ρ DecryptFailure UInt8) (dispatch : Handler τ) :
    Machine (Receiving ρ τ) Arrival Message where
  step receiving arrival :=
    if receiving.ended.isSome then none else some (receiving.pass tls dispatch arrival)

def headerSize (bytes : Bytes) : Nat :=
  if frameBits (bytes.getD 1 0) = FrameType.First.mask then 8 else 4

def bufferReads (transferred : Bytes) : List Nat :=
  if transferred.length < 2 then []
  else List.range (headerSize transferred) ++
    List.range' (headerSize transferred) (transferred.length - headerSize transferred)

def typeReads : List Nat := [0, 1]

def CutOff (transferred : Bytes) : Prop :=
  transferred.length < 2 ∨ transferred.length < headerSize transferred

def Mismatched (transferred : Bytes) : Prop :=
  ∃ frame, Frame.parse transferred = some frame ∧ frame.length ≠ frame.payload.length

def Receiving.Returns (tls : Opener ρ DecryptFailure UInt8) (receiving : Receiving ρ τ)
    (transfer : Transfer) (content : Bytes) : Prop :=
  ∃ next channel flags soFar, receiveFrame tls receiving.ssl receiving.soFar transfer =
    (next, .ok (channel, flags, soFar)) ∧ asSizeT soFar.totalLength ≤ soFar.fullContent.length ∧
    soFar.fullContent = content

/-- Every read is inside of what has been delivered, and what is not fit to be read is reported
as a `runtime_error`, which the loop only counts. -/
structure BoundsKept (tls : Opener ρ DecryptFailure UInt8) (dispatch : Handler τ)
    (receiving : Receiving ρ τ) (arrival : Arrival) : Prop where
  inside : ∀ index ∈ bufferReads (bulkTransfer arrival.transfer).2,
    index < (bulkTransfer arrival.transfer).2.length
  typed : ∀ content, receiving.Returns tls arrival.transfer content →
    ∀ index ∈ typeReads, index < content.length
  reported : CutOff (bulkTransfer arrival.transfer).2 ∨
      Mismatched (bulkTransfer arrival.transfer).2 →
    ∃ what, (receiveFrame tls receiving.ssl receiving.soFar arrival.transfer).2 =
      .error (.runtimeError what)
  counted : CutOff (bulkTransfer arrival.transfer).2 ∨
      Mismatched (bulkTransfer arrival.transfer).2 →
    (receiving.pass tls dispatch arrival).1.faultCount = receiving.faultCount + 1 ∧
      (receiving.faultCount + 1 < 30 → (receiving.pass tls dispatch arrival).1.ended = none)

/-- The transfer has no byte for the flags or the whole header, and a frame that completes a
message leaves it with at least two bytes. -/
structure Receiving.Sound (tls : Opener ρ DecryptFailure UInt8) (receiving : Receiving ρ τ)
    (arrival : Arrival) : Prop where
  header : (bulkTransfer arrival.transfer).2.length < 2 ∨
    headerSize (bulkTransfer arrival.transfer).2 ≤ (bulkTransfer arrival.transfer).2.length
  content : ∀ frame next content, Frame.parse (bulkTransfer arrival.transfer).2 = some frame →
    frame.content tls receiving.ssl = (next, .ok content) →
    asSizeT (frame.total.elim receiving.soFar.totalLength toInt32) ≤
      receiving.soFar.fullContent.length + content.length →
    2 ≤ receiving.soFar.fullContent.length + content.length

section Passes

variable {tls : Opener ρ DecryptFailure UInt8} {ssl : ρ} {soFar : Reassembly}
  {transfer : Transfer} {transferred : Bytes}

theorem parse_isSome_iff :
    (Frame.parse transferred).isSome ↔ headerSize transferred ≤ transferred.length := by
  unfold headerSize
  fun_cases Frame.parse transferred with
  | case1 channel flags high low first byte0 byte1 byte2 byte3 payload => simp [first]
  | case2 channel flags high low rest first short =>
      rcases rest with _ | ⟨byte0, _ | ⟨byte1, _ | ⟨byte2, _ | ⟨byte3, payload⟩⟩⟩⟩
      · simp [first]
      · simp [first]
      · simp [first]
      · simp [first]
      · exact absurd rfl (short byte0 byte1 byte2 byte3 payload)
  | case3 channel flags high low rest other => simp [other]
  | case4 =>
      next short =>
        refine iff_of_false (by simp) fun fits => ?_
        rcases transferred with _ | ⟨channel, _ | ⟨flags, _ | ⟨high, _ | ⟨low, rest⟩⟩⟩⟩
        · split at fits <;> simp at fits
        · split at fits <;> simp at fits
        · split at fits <;> simp at fits
        · split at fits <;> simp at fits
        · exact short channel flags high low rest rfl

theorem bulkTransfer_room : (bulkTransfer transfer).2.length ≤ bufSize := by
  unfold bulkTransfer
  split
  next => split <;> simp_all
  next => simp

theorem bulkTransfer_delivered (some_bytes : (bulkTransfer transfer).2 ≠ []) :
    transfer = .completed (bulkTransfer transfer).2 ∧ (bulkTransfer transfer).1 = 0 := by
  unfold bulkTransfer at some_bytes ⊢
  split
  next bytes =>
    split
    next fits => exact ⟨rfl, rfl⟩
    next long => simp [long] at some_bytes
  next => simp at some_bytes

theorem receiveFrame_short (short : (bulkTransfer transfer).2.length < 2) :
    receiveFrame tls ssl soFar transfer = (ssl, .error (.runtimeError
      ("in transfer failed: " ++ toString (bulkTransfer transfer).1))) := by
  simp [receiveFrame, short]

theorem receiveFrame_cutOff (flagged : 2 ≤ (bulkTransfer transfer).2.length)
    (cut : (bulkTransfer transfer).2.length < headerSize (bulkTransfer transfer).2) :
    receiveFrame tls ssl soFar transfer =
      (ssl, .error (.lengthError "cannot create std::vector larger than max_size()")) := by
  have delivered : (bulkTransfer transfer).2 ≠ [] := by
    rintro none
    rw [none] at flagged
    simp at flagged
  obtain ⟨-, success⟩ := bulkTransfer_delivered delivered
  have flags : (soFar.buffer.overwrite (bulkTransfer transfer).2) 1 =
      (bulkTransfer transfer).2.getD 1 0 := by
    rw [Buffer.overwrite, List.getD_eq_getElem _ _ flagged, List.getD_eq_getElem _ _ flagged]
  simp only [receiveFrame, success, flags, ne_eq, not_true_eq_false, false_or]
  rw [if_neg (by omega), ← headerSize, if_pos cut]

theorem content_error {frame : Frame} {next : ρ} {thrown : Thrown}
    (refused : frame.content tls ssl = (next, .error thrown)) :
    ∃ what, thrown = .runtimeError what := by
  unfold Frame.content at refused
  split at refused
  next =>
    cases refused
    exact ⟨_, rfl⟩
  next =>
    split at refused
    next =>
      unfold decryptMessage at refused
      split at refused <;> cases refused <;> exact ⟨_, rfl⟩
    next => cases refused

theorem four_le_headerSize (bytes : Bytes) : 4 ≤ headerSize bytes := by
  unfold headerSize
  split <;> decide

theorem delivered_of_parsed {frame : Frame}
    (parsed : Frame.parse (bulkTransfer transfer).2 = some frame) :
    transfer = .completed (bulkTransfer transfer).2 := by
  have fits := parse_isSome_iff.mp (Option.isSome_of_eq_some parsed)
  have header := four_le_headerSize (bulkTransfer transfer).2
  exact (bulkTransfer_delivered (List.ne_nil_of_length_pos (by omega))).1

theorem receiveFrame_parsed {frame : Frame}
    (parsed : Frame.parse (bulkTransfer transfer).2 = some frame) :
    receiveFrame tls ssl soFar transfer =
      match frame.content tls ssl with
      | (ssl, .error thrown) => (ssl, .error thrown)
      | (ssl, .ok content) => (ssl, .ok (frame.channel, frame.flags,
          soFar.add (bulkTransfer transfer).2 frame content)) := by
  have call := @receiveFrame_parse _ tls _ _ ssl soFar parsed bulkTransfer_room
  rwa [← delivered_of_parsed parsed] at call

theorem receiveFrame_ok {next : ρ} {channel flags : UInt8} {after : Reassembly}
    (accepted : receiveFrame tls ssl soFar transfer = (next, .ok (channel, flags, after))) :
    ∃ frame content, Frame.parse (bulkTransfer transfer).2 = some frame ∧
      frame.content tls ssl = (next, .ok content) ∧
      after = soFar.add (bulkTransfer transfer).2 frame content := by
  by_cases short : (bulkTransfer transfer).2.length < 2
  · rw [receiveFrame_short short] at accepted
    cases accepted
  · by_cases cut : (bulkTransfer transfer).2.length < headerSize (bulkTransfer transfer).2
    · rw [receiveFrame_cutOff (Nat.le_of_not_lt short) cut] at accepted
      cases accepted
    · obtain ⟨frame, parsed⟩ := Option.isSome_iff_exists.mp
        (parse_isSome_iff.mpr (Nat.le_of_not_lt cut))
      rw [receiveFrame_parsed parsed] at accepted
      rcases opened : frame.content tls ssl with ⟨last, thrown | content⟩
      · rw [opened] at accepted
        cases accepted
      · rw [opened] at accepted
        cases accepted
        exact ⟨frame, content, parsed, opened, rfl⟩

/-- Every place that is read has been delivered exactly when the header has. -/
theorem bufferReads_inside_iff :
    (∀ index ∈ bufferReads transferred, index < transferred.length) ↔
      transferred.length < 2 ∨ headerSize transferred ≤ transferred.length := by
  unfold bufferReads
  by_cases short : transferred.length < 2
  · simp [short]
  · rw [if_neg short, or_iff_right short]
    constructor
    · intro inside
      have header := four_le_headerSize transferred
      have last := inside (headerSize transferred - 1)
        (List.mem_append_left _ (List.mem_range.mpr (by omega)))
      omega
    · intro fits index membership
      rcases List.mem_append.mp membership with header | payload
      · exact (List.mem_range.mp header).trans_le fits
      · have bounds := List.mem_range'_1.mp payload
        omega

end Passes

section Loop

variable {tls : Opener ρ DecryptFailure UInt8} {dispatch : Handler τ}
  {receiving next final : Receiving ρ τ} {arrival : Arrival} {outputs : List Message}

theorem setupMachine_step :
    (setupMachine tls dispatch).step receiving arrival = some (next, outputs) ↔
      receiving.ended = none ∧ receiving.pass tls dispatch arrival = (next, outputs) := by
  cases ended : receiving.ended <;> simp [setupMachine, ended]

theorem pass_runtimeError {what : String}
    (failed : (receiveFrame tls receiving.ssl receiving.soFar arrival.transfer).2 =
      .error (.runtimeError what)) :
    (receiving.pass tls dispatch arrival).1.faultCount = receiving.faultCount + 1 ∧
      (receiving.faultCount + 1 < 30 → (receiving.pass tls dispatch arrival).1.ended = none) := by
  unfold Receiving.pass
  rcases received : receiveFrame tls receiving.ssl receiving.soFar arrival.transfer with
    ⟨ssl, result⟩
  rw [received] at failed
  subst failed
  exact ⟨rfl, fun few => if_pos few⟩

theorem Receiving.Sound.reported (sound : receiving.Sound tls arrival)
    (faulty : CutOff (bulkTransfer arrival.transfer).2 ∨
      Mismatched (bulkTransfer arrival.transfer).2) :
    ∃ what, (receiveFrame tls receiving.ssl receiving.soFar arrival.transfer).2 =
      .error (.runtimeError what) := by
  rcases faulty with (short | cut) | ⟨frame, parsed, different⟩
  · exact ⟨_, by rw [receiveFrame_short short]⟩
  · rcases sound.header with short | fits
    · exact ⟨_, by rw [receiveFrame_short short]⟩
    · omega
  · refine ⟨"wrong length", ?_⟩
    rw [receiveFrame_parsed parsed, Frame.content, if_pos different]

theorem Receiving.Sound.caught {thrown : Thrown} (sound : receiving.Sound tls arrival)
    (threw : (receiveFrame tls receiving.ssl receiving.soFar arrival.transfer).2 =
      .error thrown) : thrown.isRuntimeError = true := by
  rcases sound.header with short | fits
  · rw [receiveFrame_short short] at threw
    cases threw
    rfl
  · obtain ⟨frame, parsed⟩ := Option.isSome_iff_exists.mp (parse_isSome_iff.mpr fits)
    rw [receiveFrame_parsed parsed] at threw
    rcases opened : frame.content tls receiving.ssl with ⟨next, refusal | content⟩
    · rw [opened] at threw
      cases threw
      obtain ⟨what, rfl⟩ := content_error opened
      rfl
    · rw [opened] at threw
      cases threw

theorem Receiving.Sound.ended {thrown : Thrown} (sound : receiving.Sound tls arrival)
    (ongoing : receiving.ended = none)
    (threw : (receiving.pass tls dispatch arrival).1.ended = some (.threw thrown)) :
    ∃ state msg, (dispatch state msg).2 = .error thrown := by
  unfold Receiving.pass at threw
  rcases received : receiveFrame tls receiving.ssl receiving.soFar arrival.transfer with
    ⟨ssl, refusal | ⟨channel, flags, soFar⟩⟩
  · have caught := sound.caught (congrArg Prod.snd received)
    simp only [received, caught, if_true] at threw
    split at threw <;> cases threw
  · simp only [received] at threw
    split at threw
    next => simp [ongoing] at threw
    next =>
      rcases handled : dispatch receiving.state
        ⟨channel, flags ||| FrameType.Bulk.mask, soFar.fullContent, 0⟩ with ⟨state, refusal | _⟩
      · simp only [handled, Option.some.injEq, SetupEnd.threw.injEq] at threw
        subst threw
        exact ⟨_, _, congrArg Prod.snd handled⟩
      · simp [handled] at threw

theorem boundsKept_iff :
    BoundsKept tls dispatch receiving arrival ↔ receiving.Sound tls arrival := by
  constructor
  · intro kept
    refine ⟨bufferReads_inside_iff.mp kept.inside, ?_⟩
    intro frame next content parsed opened complete
    have returns : receiving.Returns tls arrival.transfer
        (receiving.soFar.fullContent ++ content) := by
      have accepted := @receiveFrame_parsed _ tls receiving.ssl receiving.soFar _ _ parsed
      rw [opened] at accepted
      exact ⟨_, _, _, _, accepted, by simpa [Reassembly.add] using complete, rfl⟩
    have typed := kept.typed _ returns 1 (by decide)
    rwa [List.length_append] at typed
  · intro sound
    refine ⟨bufferReads_inside_iff.mpr sound.header, ?_, sound.reported, fun faulty => ?_⟩
    · rintro content ⟨next, channel, flags, soFar, accepted, complete, rfl⟩
      obtain ⟨frame, more, parsed, opened, rfl⟩ := receiveFrame_ok accepted
      have long := sound.content frame next more parsed opened
        (by simpa [Reassembly.add] using complete)
      intro index membership
      have small : index ≤ 1 := by
        revert index
        decide
      simp only [Reassembly.add, List.length_append]
      omega
    · obtain ⟨what, failed⟩ := sound.reported faulty
      exact pass_runtimeError failed

end Loop

section Refinement

/-! The machine goes through the loop of `setup` transfer by transfer. -/

variable {tls : Opener ρ DecryptFailure UInt8} {dispatch : Handler τ} {stack : Nat → Buffer}
  {receiving : Receiving ρ τ}

/-- The loop from the middle of a call of `getMessage` on. -/
def Receiving.resume (tls : Opener ρ DecryptFailure UInt8) (dispatch : Handler τ)
    (stack : Nat → Buffer) (receiving : Receiving ρ τ) (transfers : List Transfer) :
    List Message × SetupEnd :=
  match getMessageFrom tls receiving.ssl receiving.soFar transfers with
  | .waiting _ => ([], .waiting)
  | .threw thrown ssl rest =>
      if thrown.isRuntimeError then
        setupLoop tls dispatch stack (receiving.faultCount + 1) ssl receiving.state rest
      else ([], .threw thrown)
  | .returned msg ssl rest =>
      match dispatch receiving.state msg with
      | (_, .error thrown) => ([msg], .threw thrown)
      | (state, .ok _) =>
          let (later, ending) := setupLoop tls dispatch stack 0 ssl state rest
          (msg :: later, ending)

theorem setupLoop_eq_resume {faultCount : Nat} (ssl : ρ) (state : τ) (transfers : List Transfer)
    (few : faultCount < 30) :
    setupLoop tls dispatch stack faultCount ssl state transfers =
      Receiving.resume tls dispatch stack
        ⟨ssl, state, { buffer := stack transfers.length }, faultCount, none⟩ transfers := by
  rw [setupLoop, if_pos few]
  unfold Receiving.resume getMessage
  split
  next => simp_all
  next => simp_all
  next msg next rest received =>
    rcases handled : dispatch state msg with ⟨after, thrown | _⟩ <;>
      simp only [received, handled]

theorem resume_cons (ongoing : receiving.ended = none) (transfer : Transfer)
    (rest : List Transfer) :
    receiving.resume tls dispatch stack (transfer :: rest) =
      let after := receiving.pass tls dispatch ⟨transfer, stack rest.length⟩
      match after.1.ended with
      | some ending => (after.2, ending)
      | none =>
          let (later, ending) := after.1.resume tls dispatch stack rest
          (after.2 ++ later, ending) := by
  rw [Receiving.resume, getMessageFrom, Receiving.pass]
  rcases received : receiveFrame tls receiving.ssl receiving.soFar transfer with
    ⟨ssl, thrown | ⟨channel, flags, soFar⟩⟩
  · by_cases caught : thrown.isRuntimeError
    · by_cases few : receiving.faultCount + 1 < 30
      · simp [caught, few, setupLoop_eq_resume]
      · have gaveUp : setupLoop tls dispatch stack (receiving.faultCount + 1) ssl receiving.state
            rest = ([], .gaveUp) := by
          rw [setupLoop, if_neg few]
        simp [caught, few, gaveUp]
    · simp [caught]
  · by_cases incomplete : soFar.fullContent.length < asSizeT soFar.totalLength
    · simp only [incomplete, if_true, ongoing, List.nil_append]
      rfl
    · simp only [incomplete, if_false]
      rcases dispatch receiving.state
        ⟨channel, flags ||| FrameType.Bulk.mask, soFar.fullContent, 0⟩ with ⟨state, thrown | _⟩
      · rfl
      · simp only [setupLoop_eq_resume _ _ _ (show 0 < 30 by decide)]
        rfl

def arrivals (stack : Nat → Buffer) : List Transfer → List Arrival
  | [] => []
  | transfer :: rest => ⟨transfer, stack rest.length⟩ :: arrivals stack rest

/-- The loop takes the first of the transfers, and gives what the machine puts out to its
dispatch. -/
theorem machine_resume (ongoing : receiving.ended = none) (transfers : List Transfer) :
    ∃ first rest final trace, first ++ rest = arrivals stack transfers ∧
      (setupMachine tls dispatch).run receiving first = some (final, trace) ∧
      receiving.resume tls dispatch stack transfers =
        (trace.flatMap Prod.snd, final.ended.getD .waiting) ∧
      (final.ended = none → rest = []) := by
  induction transfers generalizing receiving with
  | nil =>
      refine ⟨[], [], receiving, [], rfl, rfl, ?_, fun _ => rfl⟩
      rw [ongoing]
      rfl
  | cons transfer transfers inductionHypothesis =>
      have stepped : (setupMachine tls dispatch).step receiving
          ⟨transfer, stack transfers.length⟩ =
          some (receiving.pass tls dispatch ⟨transfer, stack transfers.length⟩) :=
        setupMachine_step.mpr ⟨ongoing, rfl⟩
      rw [resume_cons ongoing]
      generalize receiving.pass tls dispatch ⟨transfer, stack transfers.length⟩ = after at stepped
      obtain ⟨next, outputs⟩ := after
      cases ended : next.ended with
      | some ending =>
          refine ⟨[⟨transfer, stack transfers.length⟩], arrivals stack transfers, next,
            [(⟨transfer, stack transfers.length⟩, outputs)], rfl, ?_, ?_, ?_⟩
          · exact (setupMachine tls dispatch).run_cons_eq_some.mpr
              ⟨next, outputs, [], stepped, rfl, rfl⟩
          · simp [ended]
          · simp [ended]
      | none =>
          obtain ⟨first, rest, final, trace, all, ran, same, through⟩ := inductionHypothesis ended
          refine ⟨⟨transfer, stack transfers.length⟩ :: first, rest, final,
            (⟨transfer, stack transfers.length⟩, outputs) :: trace, ?_, ?_, ?_, through⟩
          · rw [List.cons_append, all, arrivals]
          · exact (setupMachine tls dispatch).run_cons_eq_some.mpr
              ⟨next, outputs, trace, stepped, ran, rfl⟩
          · simp [ended, same]

end Refinement

/-- In every pass that the loop of `setup` makes, the reads are inside of what has been delivered
and faults are only counted, exactly when no transfer ends inside of its header behind the
flags, and no message is complete with less than its type. An exception that ends such a run is
one of the dispatch. -/
theorem receive_bounds_iff (tls : Opener ρ DecryptFailure UInt8) (dispatch : Handler τ)
    (start final : Receiving ρ τ) (ongoing : start.ended = none) (arriving : List Arrival)
    (trace : List (Arrival × List Message))
    (ran : (setupMachine tls dispatch).run start arriving = some (final, trace)) :
    ((setupMachine tls dispatch).Within (BoundsKept tls dispatch) start arriving ↔
      (setupMachine tls dispatch).Within (Receiving.Sound tls) start arriving) ∧
    ((setupMachine tls dispatch).Within (Receiving.Sound tls) start arriving →
      ∀ thrown, final.ended = some (.threw thrown) →
        ∃ state msg, (dispatch state msg).2 = .error thrown) := by
  have same : BoundsKept tls dispatch = Receiving.Sound tls := by
    funext receiving arrival
    rw [boundsKept_iff]
  refine ⟨by rw [same], fun sound => ?_⟩
  refine @Machine.run_invariant _ _ _ (setupMachine tls dispatch)
    (fun receiving => ∀ thrown, receiving.ended = some (.threw thrown) →
      ∃ state msg, (dispatch state msg).2 = .error thrown) _ ?_ _ _ _ _ (by simp [ongoing])
    sound ran
  intro receiving arrival next outputs _ here stepped thrown threw
  obtain ⟨going, passed⟩ := setupMachine_step.mp stepped
  have left : (receiving.pass tls dispatch arrival).1 = next := congrArg Prod.fst passed
  rw [← left] at threw
  exact here.ended going threw

def freshReceiving : Receiving Nat Unit where
  ssl := 0
  state := ()
  soFar := { buffer := fun _ => 0 }

def ignoreMessage : Handler Unit := fun state _ => (state, .ok ())

/-- A transfer with a header only counts, and so does one without a byte for the flags. -/
theorem receive_bounds_two_faults :
    ∃ final trace, (setupMachine (nullOpener .bioWrite) ignoreMessage).run freshReceiving
        [⟨.completed [0, 3, 0, 1], fun _ => 0⟩, ⟨.completed [0], fun _ => 0⟩] =
        some (final, trace) ∧
      ((setupMachine (nullOpener .bioWrite) ignoreMessage).Within
          (BoundsKept (nullOpener .bioWrite) ignoreMessage) freshReceiving
          [⟨.completed [0, 3, 0, 1], fun _ => 0⟩, ⟨.completed [0], fun _ => 0⟩] ↔
        (setupMachine (nullOpener .bioWrite) ignoreMessage).Within
          (Receiving.Sound (nullOpener .bioWrite)) freshReceiving
          [⟨.completed [0, 3, 0, 1], fun _ => 0⟩, ⟨.completed [0], fun _ => 0⟩]) :=
  ⟨_, _, rfl, (receive_bounds_iff (nullOpener .bioWrite) ignoreMessage freshReceiving _ rfl
    [⟨.completed [0, 3, 0, 1], fun _ => 0⟩, ⟨.completed [0], fun _ => 0⟩] _ rfl).1⟩

/-- The header of a transfer of two bytes is completed from the buffer, and the loop ends. -/
theorem short_header_ends_setup :
    bufferReads [0, 3] = [0, 1, 2, 3] ∧
      ∃ final trace, (setupMachine (nullOpener .bioWrite) ignoreMessage).run freshReceiving
          [⟨.completed [0, 3], fun _ => 0⟩] = some (final, trace) ∧
        final.ended =
          some (.threw (.lengthError "cannot create std::vector larger than max_size()")) :=
  ⟨by decide, _, _, rfl, rfl⟩

end AAClient

end AACS
