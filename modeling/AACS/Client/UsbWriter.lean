import AACS.Protocol.Exceptions
import AACS.Sender.Queue

/-!
The thread of the head unit that writes to the phone.

`writeToUsb` throws when a transfer fails or stops short, and the exception does not say how
much of the frame is out. `writeThread` then writes the frame again from its first byte.
-/

namespace AACS

open RecordLayer Transitions

namespace AAClient

/-- A bulk transfer to the phone: it takes the whole buffer, or stops after so many bytes. -/
inductive OutTransfer where
  | succeeded
  | stopped (result : Int) (accepted : Nat)
  deriving DecidableEq, Repr

/-- The result of `libusb_bulk_transfer`, and `transferred`. -/
def OutTransfer.outcome (size : Nat) : OutTransfer → Int × Nat
  | .succeeded => (0, size)
  | .stopped result accepted => (result, accepted)

def OutTransfer.Fits (size : Nat) : OutTransfer → Prop
  | .succeeded => True
  | .stopped _ accepted => accepted < size

instance (size : Nat) : DecidablePred (OutTransfer.Fits size)
  | .succeeded => .isTrue trivial
  | .stopped _ accepted => inferInstanceAs (Decidable (accepted < size))

/-- No byte of a transfer that fails is accepted. -/
def OutTransfer.AllOrNothing : OutTransfer → Prop
  | .succeeded => True
  | .stopped _ accepted => accepted = 0

/-- The bytes that get on the wire, and whether the call returns. -/
def writeToUsb (buffer : Bytes) (transfer : OutTransfer) : Bytes × Except Thrown Unit :=
  let (result, transferred) := transfer.outcome buffer.length
  (buffer.take transferred,
    if result ≠ 0 ∨ transferred ≠ buffer.length then
      .error (.runtimeError ("out transfer failed: " ++ toString result))
    else .ok ())

/-- What `writeThread` does with a frame. Nobody catches what the second call throws. -/
def writeFrame (msg : Bytes) (first retry : OutTransfer) : Bytes × Except Thrown Unit :=
  match writeToUsb msg first with
  | (wire, .ok _) => (wire, .ok ())
  | (wire, .error _) =>
      let (again, result) := writeToUsb msg retry
      (wire ++ again, result)

/-- A pass of `writeThread` that gets a frame comes with the transfers for it. -/
inductive WriterEvent where
  | sendMessage (channel flags : UInt8) (buf : Bytes)
  | idle
  | write (first retry : OutTransfer)
  deriving DecidableEq, Repr

/-- The transfer for a frame that failed is made again with success. -/
def WriterEvent.Retried : WriterEvent → Prop
  | .write _ retry => retry = .succeeded
  | _ => True

def WriterEvent.AllOrNothing : WriterEvent → Prop
  | .write first _ => first.AllOrNothing
  | _ => True

def WriterEvent.send : WriterEvent → SendEvent
  | .sendMessage channel flags buf => .sendMessage channel flags buf
  | .idle | .write _ _ => .dequeue

/-- The outputs are the bytes on the wire. -/
def writerMachine {σ : Type} (tls : Sealer σ UInt8) : Machine (SendSide σ) WriterEvent Bytes where
  step side
    | .sendMessage channel flags buf =>
        some ({ side with sender := side.sender.sendMessage channel flags buf }, [])
    | .idle =>
        if side.pumping then
          match prepareMessage tls side.sender with
          | (.timedOut, sender) => some ({ side with sender := sender }, [])
          | (.frame _, _) => none
          | (.threw _, sender) => some ({ sender := sender, pumping := false }, [])
        else some (side, [])
    | .write first retry =>
        if side.pumping then
          match prepareMessage tls side.sender with
          | (.frame msg, sender) =>
              if first.Fits msg.length ∧ retry.Fits msg.length then
                match writeFrame msg first retry with
                | (wire, .ok _) => some ({ side with sender := sender }, [wire])
                | (wire, .error _) => some ({ sender := sender, pumping := false }, [wire])
              else none
          | _ => none
        else none

section Passes

variable {σ : Type} {tls : Sealer σ UInt8} {side next final : SendSide σ} {msg : Bytes}
  {first retry : OutTransfer} {outputs : List Bytes} {event : WriterEvent}
  {events : List WriterEvent} {trace : List (WriterEvent × List Bytes)}

theorem writeToUsb_succeeded (msg : Bytes) : writeToUsb msg .succeeded = (msg, .ok ()) := by
  simp [writeToUsb, OutTransfer.outcome]

theorem writeToUsb_stopped {result : Int} {accepted : Nat} (stops : accepted < msg.length) :
    writeToUsb msg (.stopped result accepted) = (msg.take accepted,
      .error (.runtimeError ("out transfer failed: " ++ toString result))) := by
  have short : accepted ≠ msg.length := stops.ne
  simp [writeToUsb, OutTransfer.outcome, short]

theorem writeFrame_retried (fits : first.Fits msg.length) :
    ∃ wasted, writeFrame msg first .succeeded = (wasted ++ msg, .ok ()) ∧
      (wasted = [] ↔ first.AllOrNothing) := by
  cases first with
  | succeeded => exact ⟨[], by simp [writeFrame, writeToUsb_succeeded], by
      simp [OutTransfer.AllOrNothing]⟩
  | stopped result accepted =>
      have stops : accepted < msg.length := fits
      refine ⟨msg.take accepted, ?_, ?_⟩
      · simp only [writeFrame, writeToUsb_stopped stops, writeToUsb_succeeded]
      · rw [List.take_eq_nil_iff, OutTransfer.AllOrNothing]
        refine ⟨fun none => none.resolve_right ?_, .inl⟩
        rintro rfl
        exact absurd stops (Nat.not_lt_zero _)

/-- The machine takes the steps of the one that only produces the frames. -/
theorem writer_step (retried : event.Retried)
    (stepped : (writerMachine tls).step side event = some (next, outputs)) :
    ∃ frames wasted, (sendMachine (prepareMessage tls)).step side event.send =
        some (next, frames) ∧
      outputs.flatten = wasted ++ frames.flatten ∧ (wasted = [] ↔ event.AllOrNothing) := by
  cases event with
  | sendMessage channel flags buf =>
      cases stepped
      exact ⟨[], [], rfl, rfl, iff_of_true rfl trivial⟩
  | idle =>
      have silent : (sendMachine (prepareMessage tls)).step side .dequeue = some (next, []) ∧
          outputs = [] := by
        simp only [writerMachine] at stepped
        simp only [sendMachine]
        split at stepped
        next pumping =>
          rw [if_pos pumping]
          rcases produced : prepareMessage tls side.sender with ⟨_ | msg | what, sender⟩
          · simp only [produced] at stepped
            cases stepped
            exact ⟨rfl, rfl⟩
          · simp [produced] at stepped
          · simp only [produced] at stepped
            cases stepped
            exact ⟨rfl, rfl⟩
        next stopped =>
          rw [if_neg stopped]
          cases stepped
          exact ⟨rfl, rfl⟩
      obtain ⟨sent, rfl⟩ := silent
      exact ⟨[], [], sent, rfl, iff_of_true rfl trivial⟩
  | write first retry =>
      obtain rfl : retry = .succeeded := retried
      simp only [writerMachine] at stepped
      split at stepped
      next pumping =>
        rcases produced : prepareMessage tls side.sender with ⟨_ | msg | what, sender⟩
        · simp [produced] at stepped
        · simp only [produced] at stepped
          split at stepped
          next fits =>
            obtain ⟨wasted, written, clean⟩ := writeFrame_retried fits.1
            rw [written] at stepped
            cases stepped
            refine ⟨[msg], wasted, ?_, by simp, clean⟩
            simp [sendMachine, WriterEvent.send, pumping, produced]
          next => cases stepped
        · simp [produced] at stepped
      next => cases stepped

theorem writer_run (retried : ∀ event ∈ events, event.Retried)
    (ran : (writerMachine tls).run side events = some (final, trace)) :
    ∃ sent, (sendMachine (prepareMessage tls)).run side (events.map WriterEvent.send) =
        some (final, sent) ∧
      (emitted sent).flatten.length ≤ (emitted trace).flatten.length ∧
      ((emitted trace).flatten = (emitted sent).flatten ↔
        ∀ event ∈ events, event.AllOrNothing) := by
  induction events generalizing side trace with
  | nil =>
      obtain ⟨rfl, rfl⟩ : side = final ∧ [] = trace := by simpa using ran
      exact ⟨[], rfl, le_rfl, iff_of_true rfl (by simp)⟩
  | cons event events inductionHypothesis =>
      obtain ⟨next, outputs, rest, stepped, continued, rfl⟩ :=
        (writerMachine tls).run_cons_eq_some.mp ran
      obtain ⟨here, later⟩ := List.forall_mem_cons.mp retried
      obtain ⟨frames, wasted, produced, wire, clean⟩ := writer_step here stepped
      obtain ⟨sent, sending, shorter, same⟩ := inductionHypothesis later continued
      refine ⟨(event.send, frames) :: sent,
        (sendMachine _).run_cons_eq_some.mpr ⟨next, frames, sent, produced, sending, rfl⟩, ?_, ?_⟩
      · simp only [emitted_cons, List.flatten_append, wire, List.length_append]
        omega
      · rw [emitted_cons, emitted_cons, List.flatten_append, List.flatten_append, wire,
          List.forall_mem_cons, ← clean, ← same]
        constructor
        · intro equal
          have length := congrArg List.length equal
          simp only [List.length_append] at length
          obtain rfl : wasted = [] := List.length_eq_zero_iff.mp (by omega)
          exact ⟨rfl, List.append_cancel_left equal⟩
        · rintro ⟨rfl, equal⟩
          rw [List.nil_append, equal]

end Passes

/-- Where every frame that fails is written again with success, the wire carries the frames of
`prepareMessage`, each byte once, exactly when no transfer fails after its first byte. -/
theorem wire_is_frames_iff {σ : Type} (tls : Sealer σ UInt8) (side final : SendSide σ)
    (events : List WriterEvent) (trace : List (WriterEvent × List Bytes))
    (retried : ∀ event ∈ events, event.Retried)
    (ran : (writerMachine tls).run side events = some (final, trace)) :
    ∃ sent, (sendMachine (prepareMessage tls)).run side (events.map WriterEvent.send) =
        some (final, sent) ∧
      ((emitted trace).flatten = (emitted sent).flatten ↔
        ∀ event ∈ events, event.AllOrNothing) := by
  obtain ⟨sent, sending, -, same⟩ := writer_run retried ran
  exact ⟨sent, sending, same⟩

def oneFrame : SendSide Nat where
  sender := { sendQueue := [⟨0, 3, [0, 1], 0⟩], ssl := 0, writeBio := [] }

theorem wire_is_frames_first_byte :
    ∃ sent, (sendMachine (prepareMessage nullSealer)).run oneFrame [.dequeue] =
        some ({ oneFrame with sender := { oneFrame.sender with sendQueue := [] } }, sent) ∧
      ((emitted [(WriterEvent.write (.stopped (-7) 0) .succeeded,
            [([0, 3, 0, 2, 0, 1] : Bytes)])]).flatten = (emitted sent).flatten ↔
        ∀ event ∈ [WriterEvent.write (.stopped (-7) 0) .succeeded], event.AllOrNothing) :=
  wire_is_frames_iff nullSealer oneFrame _ [.write (.stopped (-7) 0) .succeeded] _
    (by simp [WriterEvent.Retried]) rfl

/-- A transfer that fails after two bytes leaves them on the wire in front of the frame. -/
theorem failed_transfer_repeats_bytes :
    ∃ final trace sent,
      (writerMachine nullSealer).run oneFrame [.write (.stopped (-7) 2) .succeeded] =
        some (final, trace) ∧
      (sendMachine (prepareMessage nullSealer)).run oneFrame [.dequeue] = some (final, sent) ∧
      (emitted sent).flatten = [0, 3, 0, 2, 0, 1] ∧
      (emitted trace).flatten = [0, 3, 0, 3, 0, 2, 0, 1] :=
  ⟨_, _, _, rfl, rfl, by decide, by decide⟩

end AAClient

end AACS
