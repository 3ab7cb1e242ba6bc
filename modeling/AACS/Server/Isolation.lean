import AACS.Server.Routing

/-!
What the failure of one client does to the others.

`gotMessage` passes over a client whose `write` fails with `ECONNRESET`. Any other
failure leaves its loop, and with it the pump of the head unit.
-/

namespace AACS

namespace AAServer

open Effects FanOut

theorem step_routed {state : State} {message : Message} {recipients : List Nat} {bytes : Bytes}
    (protobuf : Protobuf) (accept : Accept) (write : Nat → WriteResult)
    (running : state.threadFinished = false)
    (routed : state.route message = some (recipients, bytes)) :
    (machine protobuf).step state (.headunit message accept write) =
      some (match (fanOut (state.destination write) isReset recipients).1 with
          | .ok () => state
          | .error _ => { state with threadFinished := true },
        (fanOut (state.destination write) isReset recipients).2.map fun connection =>
          .packet connection bytes) := by
  simp only [machine, step, running, Bool.false_eq_true, if_false, finishPump,
    handleMessageContent_routed protobuf accept write routed, State.broadcast]
  rcases fanOut (state.destination write) isReset recipients with ⟨errno | value, delivered⟩
  · by_cases reset : errno = econnreset
    · simp [Except.mapError, writeFault, reset]
    · simp [Except.mapError, writeFault, reset]
  · rfl

/-- Everybody whose `write` succeeds gets the packet, and the pump goes on. -/
def Isolates (protobuf : Protobuf) (state : State) (message : Message) (accept : Accept)
    (write : Nat → WriteResult) (recipients : List Nat) (bytes : Bytes) : Prop :=
  ∃ next outputs,
    (machine protobuf).step state (.headunit message accept write) = some (next, outputs) ∧
    next.threadFinished = false ∧
    ∀ scl ∈ recipients, ∀ connection, state.destination write scl = .ok connection →
      .packet connection bytes ∈ outputs

theorem passes_iff {state : State} {write : Nat → WriteResult} {scl : Nat} :
    Passes (state.destination write) isReset scl ↔
      ∀ errno, state.destination write scl = .error errno → errno = econnreset := by
  simp [Passes, isReset]

/-- Clients are isolated from the failures of each other exactly when these are resets. -/
theorem client_failure_isolation (protobuf : Protobuf) {state : State} {message : Message}
    {recipients : List Nat} {bytes : Bytes} (accept : Accept) (write : Nat → WriteResult)
    (running : state.threadFinished = false)
    (routed : state.route message = some (recipients, bytes)) :
    Isolates protobuf state message accept write recipients bytes ↔
      ∀ scl ∈ recipients, ∀ errno,
        state.destination write scl = .error errno → errno = econnreset := by
  have taken := step_routed protobuf accept write running routed
  simp only [← passes_iff]
  rw [← fanOut_ok_iff]
  constructor
  · rintro ⟨next, outputs, stepped, goesOn, -⟩
    rw [taken] at stepped
    cases result : (fanOut (state.destination write) isReset recipients).1 with
    | ok value => rfl
    | error errno =>
        rw [result] at stepped
        cases stepped
        cases goesOn
  · intro passed
    refine ⟨_, _, taken, by rw [passed]; exact running, ?_⟩
    intro scl membership connection sent
    obtain ⟨earlier, later, rfl⟩ := List.append_of_mem membership
    have earlierPass : ∀ before ∈ earlier, Passes (state.destination write) isReset before :=
      fun before mem => (fanOut_ok_iff _).mp passed before (by simp [mem])
    exact List.mem_map_of_mem
      (mem_fanOut_iff.mpr ⟨earlier, scl, later, rfl, earlierPass, sent⟩)

def twoClients : State :=
  (initial.accept 1 10 fun _ => 0).accept 2 11 fun _ => 0

def audioFocusResponse : Message where
  channel := 0
  flags := 0x0b
  content := [0x00, 0x13, 0x08, 0x01]

def failsWith (errno : Nat) : Nat → WriteResult
  | 1 => .failed errno
  | _ => .complete

theorem client_failure_isolation_reset_client :
    Isolates .small twoClients audioFocusResponse .failed (failsWith econnreset) [1, 2]
      [0x00, 0x00, 0x00, 0x13, 0x08, 0x01] := by
  apply (client_failure_isolation .small .failed (failsWith econnreset) rfl rfl).mpr
  intro scl membership errno failed
  obtain rfl | rfl : scl = 1 ∨ scl = 2 := by simpa using membership
  · cases failed
    rfl
  · cases failed

def epipe : Nat := 32

/-- A client that is gone with `EPIPE` takes the packet of the other one and the pump with
it. -/
theorem broken_pipe_ends_the_pump :
    (∃ trace, (machine .small).run initial
      [.connect 1 10 fun _ => 0, .connect 2 11 fun _ => 0] = some (twoClients, trace)) ∧
    twoClients.route audioFocusResponse =
      some ([1, 2], [0x00, 0x00, 0x00, 0x13, 0x08, 0x01]) ∧
    twoClients.destination (failsWith epipe) 2 = .ok 2 ∧
    ¬ Isolates .small twoClients audioFocusResponse .failed (failsWith epipe) [1, 2]
      [0x00, 0x00, 0x00, 0x13, 0x08, 0x01] := by
  refine ⟨⟨_, rfl⟩, rfl, rfl, ?_⟩
  rintro ⟨next, outputs, stepped, goesOn, -⟩
  cases stepped
  cases goesOn

end AAServer

end AACS
