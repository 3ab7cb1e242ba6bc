import AACS.Server.Pump

/-!
The loop of `handleSwitchToAccessoryMode` on endpoint 0.

`handleSwitchMessage` returns 0 for the request that asks for the accessory mode.  `checkError`
makes -1 of it, which the loop drops: it tests the length of the read once more.
-/

namespace AACS

namespace AAServer

/-! A `usb_functionfs_event`, by the bytes from its first one on. -/

def sizeofEvent : Nat := 12

/-- `FUNCTIONFS_SETUP` -/
def functionfsSetup : UInt8 := 4

def eventType (event : Bytes) : UInt8 := event.getD 8 0
def setup_bRequest (event : Bytes) : UInt8 := event.getD 1 0
def setup_wIndex (event : Bytes) : Nat := (event.getD 4 0).toNat + 256 * (event.getD 5 0).toNat
def setup_wLength (event : Bytes) : Nat := (event.getD 6 0).toNat + 256 * (event.getD 7 0).toNat

inductive SwitchAction where
  | write (bytes : Bytes)
  | got52 (wIndex : Nat) (endl : Bool)
  | got53
  | print (bytes : Bytes)
  deriving DecidableEq, Repr

structure Processed where
  event : Bytes
  actions : List SwitchAction
  deriving DecidableEq, Repr

def isExit (event : Bytes) : Bool :=
  eventType event = functionfsSetup && setup_bRequest event = 53

/-- The body of the loop in `handleSwitchMessage`. -/
def switchEvent (buf event : Bytes) : List SwitchAction :=
  if eventType event = functionfsSetup then
    if setup_bRequest event = 51 then [.write [2, 0]]
    else if setup_bRequest event = 52 then
      [.got52 (setup_wIndex event) (setup_wLength event < buf.length)]
    else if setup_bRequest event = 53 then [.got53]
    else []
  else [.print buf]

/-- The loop in `handleSwitchMessage`, with `n` events to go from `event` on. -/
def switchEvents (buf : Bytes) : Nat → Bytes → List Processed × Int
  | 0, _ => ([], buf.length)
  | n + 1, event =>
      let processed : Processed := ⟨event.take sizeofEvent, switchEvent buf event⟩
      if isExit event then ([processed], 0)
      else
        let rest := switchEvents buf n (event.drop sizeofEvent)
        (processed :: rest.1, rest.2)

def handleSwitchMessage (buf : Bytes) : List Processed × Int :=
  switchEvents buf (buf.length / sizeofEvent) buf

/-- Where the loop stands after some reads: it reads again, it has been left, or an exception
has left the function. -/
inductive SwitchEnding where
  | reading
  | left
  | threw (thrown : Thrown)
  deriving DecidableEq, Repr

structure SwitchRun where
  processed : List Processed
  reads : Nat
  ending : SwitchEnding
  deriving DecidableEq, Repr

/-- The run from a read on, with what has been processed for it. -/
def SwitchRun.after (processed : List Processed) (run : SwitchRun) : SwitchRun :=
  { run with processed := processed ++ run.processed, reads := run.reads + 1 }

/-- The loop in `handleSwitchToAccessoryMode`, on the reads from endpoint 0. -/
def handleSwitchToAccessoryMode : List Reading → SwitchRun
  | [] => ⟨[], 0, .reading⟩
  | reading :: readings =>
      match reading.checked with
      | .error thrown => ⟨[], 1, .threw thrown⟩
      | .ok length =>
          if length = 0 then (handleSwitchToAccessoryMode readings).after []
          else if length = -1 then ⟨[], 1, .left⟩
          else
            let handled := handleSwitchMessage reading.bytes
            match checkError handled.2 eintr [eintr, eagain] with
            | .error thrown => ⟨handled.1, 1, .threw thrown⟩
            | .ok _ =>
                if length = -1 then ⟨handled.1, 1, .left⟩
                else (handleSwitchToAccessoryMode readings).after handled.1

section Batches

/-- An event that the kernel has put together. -/
structure UsbFunctionfsEvent where
  bytes : Bytes
  size : bytes.length = sizeofEvent

/-- A read from endpoint 0: some events, `EINTR` or `EAGAIN`. -/
inductive Ep0Read where
  | batch (first : UsbFunctionfsEvent) (others : List UsbFunctionfsEvent)
  | interrupted
  | again

def Ep0Read.events : Ep0Read → List UsbFunctionfsEvent
  | .batch first others => first :: others
  | .interrupted | .again => []

def Ep0Read.buf (read : Ep0Read) : Bytes := read.events.flatMap UsbFunctionfsEvent.bytes

def Ep0Read.reading : Ep0Read → Reading
  | .batch first others => .data (Ep0Read.batch first others).buf
  | .interrupted => .failed eintr
  | .again => .failed eagain

def UsbFunctionfsEvent.processed (buf : Bytes) (event : UsbFunctionfsEvent) : Processed :=
  ⟨event.bytes, switchEvent buf event.bytes⟩

def Ep0Read.processed (read : Ep0Read) : List Processed :=
  read.events.map (UsbFunctionfsEvent.processed read.buf)

def Ep0Read.RequestsExit (read : Ep0Read) : Prop := ∃ event ∈ read.events, isExit event.bytes = true

instance (read : Ep0Read) : Decidable read.RequestsExit :=
  inferInstanceAs (Decidable (∃ event ∈ read.events, isExit event.bytes = true))

/-- The events up to the first request for the accessory mode, and this one. -/
def throughExit (processed : List Processed) : List Processed :=
  processed.takeWhile (fun processed => !isExit processed.event) ++
    (processed.find? fun processed => isExit processed.event).toList

/-- The loop is left after the first batch with a request for the accessory mode, and not
before; the events up to the request are processed. -/
structure StopsOnExit (reads : List Ep0Read) (run : SwitchRun) : Prop where
  processed : run.processed = throughExit (reads.flatMap Ep0Read.processed)
  leaves : ∀ {before read after}, reads = before ++ read :: after →
    (∀ earlier ∈ before, ¬ earlier.RequestsExit) → read.RequestsExit →
    run.ending = .left ∧ run.reads = before.length + 1
  stays : (∀ read ∈ reads, ¬ read.RequestsExit) →
    run.ending = .reading ∧ run.reads = reads.length

theorem throughExit_cons (first : Processed) (others : List Processed) :
    throughExit (first :: others) =
      if isExit first.event then [first] else first :: throughExit others := by
  unfold throughExit
  by_cases exit : isExit first.event <;> simp [exit]

theorem throughExit_append {first : List Processed}
    (none : ∀ processed ∈ first, isExit processed.event = false) (others : List Processed) :
    throughExit (first ++ others) = first ++ throughExit others := by
  induction first with
  | nil => rfl
  | cons processed first inductionHypothesis =>
      obtain ⟨here, later⟩ := List.forall_mem_cons.mp none
      rw [List.cons_append, throughExit_cons, here, inductionHypothesis later]
      rfl

section Events

variable {buf : Bytes} {event : UsbFunctionfsEvent} {rest : Bytes}

theorem event_getD {index : Nat} (inside : index < sizeofEvent) :
    (event.bytes ++ rest).getD index 0 = event.bytes.getD index 0 :=
  List.getD_append _ _ _ _ (inside.trans_eq event.size.symm)

theorem isExit_append : isExit (event.bytes ++ rest) = isExit event.bytes := by
  unfold isExit eventType setup_bRequest
  rw [event_getD (by decide), event_getD (by decide)]

theorem switchEvent_append :
    switchEvent buf (event.bytes ++ rest) = switchEvent buf event.bytes := by
  unfold switchEvent eventType setup_bRequest setup_wIndex setup_wLength
  rw [event_getD (by decide), event_getD (by decide), event_getD (by decide),
    event_getD (by decide), event_getD (by decide), event_getD (by decide)]

theorem switchEvents_eq (events : List UsbFunctionfsEvent) :
    switchEvents buf events.length (events.flatMap UsbFunctionfsEvent.bytes) =
      (throughExit (events.map (UsbFunctionfsEvent.processed buf)),
        if events.any fun event => isExit event.bytes then 0 else (buf.length : Int)) := by
  induction events with
  | nil => rfl
  | cons event events inductionHypothesis =>
      rw [List.length_cons, List.flatMap_cons, switchEvents, isExit_append, switchEvent_append,
        List.take_left' event.size, List.drop_left' event.size, inductionHypothesis, List.map_cons,
        throughExit_cons, List.any_cons]
      by_cases exit : isExit event.bytes <;> simp [exit, UsbFunctionfsEvent.processed]

theorem length_events (events : List UsbFunctionfsEvent) :
    (events.flatMap UsbFunctionfsEvent.bytes).length = events.length * sizeofEvent := by
  induction events with
  | nil => rfl
  | cons event events inductionHypothesis =>
      rw [List.flatMap_cons, List.length_append, event.size, inductionHypothesis, List.length_cons,
        Nat.succ_mul, Nat.add_comm]

/-- A batch is processed through its own request. -/
theorem handleSwitchMessage_batch (read : Ep0Read) :
    handleSwitchMessage read.buf = (throughExit read.processed,
      if read.events.any fun event => isExit event.bytes then 0 else (read.buf.length : Int)) := by
  have count : read.buf.length / sizeofEvent = read.events.length := by
    rw [Ep0Read.buf, length_events, Nat.mul_div_cancel _ (by decide)]
  rw [handleSwitchMessage, count, Ep0Read.buf, switchEvents_eq]
  rfl

end Events

section Runs

theorem handleSwitchToAccessoryMode_cons (read : Ep0Read) (readings : List Reading) :
    handleSwitchToAccessoryMode (read.reading :: readings) =
      (handleSwitchToAccessoryMode readings).after (throughExit read.processed) := by
  cases read with
  | interrupted => rfl
  | again => rfl
  | batch first others =>
      have size : 0 < (Ep0Read.batch first others).buf.length := by
        rw [Ep0Read.buf, length_events]
        exact Nat.mul_pos (Nat.succ_pos _) (by decide)
      have length : (Ep0Read.batch first others).reading.checked =
          .ok ((Ep0Read.batch first others).buf.length : Int) := by
        rw [Ep0Read.reading, Reading.checked, checkError, if_pos (by omega)]
      have accepted : ∃ ret, checkError (handleSwitchMessage (Ep0Read.batch first others).buf).2
          eintr [eintr, eagain] = .ok ret := by
        rw [handleSwitchMessage_batch]
        split
        · exact ⟨-1, rfl⟩
        · exact ⟨_, if_pos (by omega)⟩
      obtain ⟨ret, dropped⟩ := accepted
      have read : (Ep0Read.batch first others).reading.bytes =
        (Ep0Read.batch first others).buf := rfl
      rw [handleSwitchToAccessoryMode, length]
      simp only [read, dropped]
      rw [if_neg (by omega), if_neg (by omega), if_neg (by omega), handleSwitchMessage_batch]

/-- The whole run: every batch is processed through its own request, and the loop is never
left. -/
theorem handleSwitchToAccessoryMode_eq (reads : List Ep0Read) :
    handleSwitchToAccessoryMode (reads.map Ep0Read.reading) =
      ⟨reads.flatMap fun read => throughExit read.processed, reads.length, .reading⟩ := by
  induction reads with
  | nil => rfl
  | cons read reads inductionHypothesis =>
      rw [List.map_cons, handleSwitchToAccessoryMode_cons, inductionHypothesis]
      rfl

theorem Ep0Read.not_exit {read : Ep0Read} (none : ¬ read.RequestsExit) :
    ∀ processed ∈ read.processed, isExit processed.event = false := by
  refine List.forall_mem_map.mpr fun event membership => ?_
  exact Bool.eq_false_iff.mpr fun exit => none ⟨event, membership, exit⟩

theorem throughExit_reads {reads : List Ep0Read} (none : ∀ read ∈ reads, ¬ read.RequestsExit) :
    reads.flatMap (fun read => throughExit read.processed) =
      throughExit (reads.flatMap Ep0Read.processed) := by
  induction reads with
  | nil => rfl
  | cons read reads inductionHypothesis =>
      obtain ⟨here, later⟩ := List.forall_mem_cons.mp none
      have whole := throughExit_append (read.not_exit here) []
      rw [List.append_nil] at whole
      rw [List.flatMap_cons, List.flatMap_cons, inductionHypothesis later,
        throughExit_append (read.not_exit here), whole]
      simp [throughExit]

end Runs

/-- The loop stops as it should exactly where it is never told to. -/
theorem accessory_switch_iff (reads : List Ep0Read) :
    StopsOnExit reads (handleSwitchToAccessoryMode (reads.map Ep0Read.reading)) ↔
      ∀ read ∈ reads, ¬ read.RequestsExit := by
  rw [handleSwitchToAccessoryMode_eq]
  constructor
  · intro stops read membership exit
    obtain ⟨first, found⟩ := Option.isSome_iff_exists.mp
      ((@List.find?_isSome _ reads fun read => decide read.RequestsExit).mpr
        ⟨read, membership, decide_eq_true exit⟩)
    obtain ⟨requests, before, after, split, earlier⟩ := List.find?_eq_some_iff_append.mp found
    have none : ∀ read ∈ before, ¬ read.RequestsExit := by simpa using earlier
    cases (stops.leaves split none (of_decide_eq_true requests)).1
  · intro none
    refine ⟨throughExit_reads none, ?_, fun _ => ⟨rfl, rfl⟩⟩
    rintro before read after rfl - exit
    exact (none read (by simp) exit).elim

def exitEvent : UsbFunctionfsEvent := ⟨[0x40, 53, 0, 0, 0, 0, 0, 0, 4, 0, 0, 0], rfl⟩

/-- The loop reads again after the request. -/
theorem exit_request_ignored :
    let reads := [Ep0Read.batch exitEvent [], .interrupted]
    let run := handleSwitchToAccessoryMode (reads.map Ep0Read.reading)
    run = ⟨[⟨exitEvent.bytes, [.got53]⟩], 2, .reading⟩ ∧ ¬ StopsOnExit reads run := by
  refine ⟨by decide, fun stops => ?_⟩
  have left := @StopsOnExit.leaves _ _ stops [] _ _ rfl (by simp) (by decide)
  exact absurd left (by decide)

end Batches

end AAServer

end AACS
