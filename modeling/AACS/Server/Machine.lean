import AACS.Library.Transitions
import AACS.Server.Clients

/-!
The server as a machine.

Its threads take turns: an event is one turn of a thread, together with what its
environment answers it. The thread of a client that opens a channel gives way after
every statement, since it waits for the head unit in between; every other turn goes
from one read to the next.
-/

namespace AACS

namespace AAServer

open Effects Transitions

inductive Event where
  /-- A connection is accepted, with a new object and a new descriptor. -/
  | connect (scl fd : Nat) (stack : Buffer)
  /-- The thread of a client reads; `data []` is the end of file. -/
  | read (scl : Nat) (reading : Reading) (write : Nat → WriteResult)
  | clientStep (scl : Nat)
  /-- The pump of the head unit hands on a message. -/
  | headunit (message : Message) (accept : Accept) (write : Nat → WriteResult)
  /-- The pipeline of a video handler has a sample. -/
  | sample (pointer : Nat) (sample : Sample)
  | streamStep (pointer : Nat)
  /-- Another thread of the communicator ends. -/
  | threadTerminated

/-- The `catch` of a client's thread. -/
def State.close (state : State) (scl : Nat) : State :=
  match state.sockets scl with
  | none => state
  | some client =>
      { state with
        sockets := Function.update state.sockets scl (some { client with thread := .ended })
        descriptors := Function.update state.descriptors client.fd none }

/-- The end of a client's turn; what comes after undefined behaviour is not described. -/
def finishClient (scl : Nat) (body : ServerAct ClientThread) (state : State) :
    Option (State × List Output) :=
  let outcome := body.run state
  match outcome.result with
  | .ok thread =>
      some (outcome.state.updateSocket scl fun client => { client with thread }, outcome.log)
  | .error (.thrown _) => some (outcome.state.close scl, outcome.log)
  | .error .undefinedBehaviour => none

/-- The end of a turn of the pump. An exception ends all threads of the communicator. -/
def finishPump (body : ServerAct Unit) (state : State) : Option (State × List Output) :=
  let outcome := body.run state
  match outcome.result with
  | .ok () => some (outcome.state, outcome.log)
  | .error (.thrown _) => some ({ outcome.state with threadFinished := true }, outcome.log)
  | .error .undefinedBehaviour => none

/-- The streaming thread has nobody to catch an exception. -/
def finishStream (body : ServerAct Unit) (state : State) : Option (State × List Output) :=
  let outcome := body.run state
  match outcome.result with
  | .ok () => some (outcome.state, outcome.log)
  | .error _ => none

/-- `new_sample`, up to where it opens the channel. -/
def newSample (pointer : Nat) (channelId : UInt8) (sample : Sample) : ServerAct Unit := do
  if (← Act.get).firstSample then
    writeHandler pointer (ChannelHandler.updateVideo fun video =>
      { video with channelOpened := true, stream := some (.resetChannelOpen, sample) })
  else
    VideoChannelHandler.sendSample channelId sample

/-- `new_sample` from there on, statement by statement. -/
def streamOpen (protobuf : Protobuf) (pointer : Nat) (channelId : UInt8) (step : OpenStep)
    (sample : Sample) : ServerAct Unit := do
  match ← step.run protobuf pointer with
  | some next =>
      writeHandler pointer (ChannelHandler.updateVideo fun video =>
        { video with stream := some (next, sample) })
  | none =>
      VideoChannelHandler.sendSample channelId sample
      Act.modify fun state => { state with firstSample := false }
      writeHandler pointer (ChannelHandler.updateVideo fun video => { video with stream := none })

/-- `listenThreadMethod` with the slot of `newClient`. -/
def State.accept (state : State) (scl fd : Nat) (stack : Buffer) : State :=
  { state with
    clients := insertClient (scl, state.clientCount) state.clients
    clientCount := state.clientCount + 1
    socketClients := state.socketClients.orderedInsert (· ≤ ·) scl
    sockets := Function.update state.sockets scl (some { fd, buffer := stack })
    descriptors := Function.update state.descriptors fd (some scl) }

def step (protobuf : Protobuf) (state : State) : Event → Option (State × List Output)
  | .connect scl fd stack =>
      if state.sockets scl = none ∧ state.descriptors fd = none then
        some (state.accept scl fd stack, [])
      else none
  | .read scl reading write =>
      match state.sockets scl with
      | none => none
      | some client =>
          if client.thread = .reading then
            finishClient scl (clientRead write scl client reading) state
          else none
  | .clientStep scl =>
      match state.sockets scl with
      | none => none
      | some client =>
          match client.thread with
          | .opening pointer step =>
              match state.handlers[pointer]? with
              | none => none
              | some handler =>
                  if step.enabled handler then
                    finishClient scl (clientOpen protobuf scl pointer step) state
                  else none
          | _ => none
  | .headunit message accept write =>
      if state.threadFinished then none
      else finishPump (handleMessageContent protobuf accept write message) state
  | .sample pointer sample =>
      match state.handlers[pointer]? with
      | some { channelId, kind := .video { stream := none, .. }, .. } =>
          finishStream (newSample pointer channelId sample) state
      | _ => none
  | .streamStep pointer =>
      match state.handlers[pointer]? with
      | some handler =>
          match handler.kind with
          | .video { stream := some (step, sample), .. } =>
              if step.enabled handler then
                finishStream (streamOpen protobuf pointer handler.channelId step sample) state
              else none
          | _ => none
      | none => none
  | .threadTerminated => some ({ state with threadFinished := true }, [])

def machine (protobuf : Protobuf) : Machine State Event Output := ⟨step protobuf⟩

def packetsTo (connection : Nat) (outputs : List Output) : List Bytes :=
  outputs.filterMap fun
    | .packet other bytes => if other = connection then some bytes else none
    | .enqueue _ _ _ => none

/-- The packets put into a client's socket in a run, each with the event it comes from. -/
def deliveries (connection : Nat) (trace : List (Event × List Output)) : List (Event × Bytes) :=
  trace.flatMap fun turn => (packetsTo connection turn.2).map fun bytes => (turn.1, bytes)

section Deliveries

variable {connection : Nat} {outputs : List Output} {trace : List (Event × List Output)}

theorem mem_packetsTo {bytes : Bytes} :
    bytes ∈ packetsTo connection outputs ↔ .packet connection bytes ∈ outputs := by
  simp only [packetsTo, List.mem_filterMap]
  constructor
  · rintro ⟨output, membership, taken⟩
    cases output with
    | enqueue channel flags content => cases taken
    | packet other sent =>
        simp only [Option.ite_none_right_eq_some, Option.some.injEq] at taken
        obtain ⟨rfl, rfl⟩ := taken
        exact membership
  · intro membership
    exact ⟨_, membership, by simp⟩

theorem mem_deliveries {event : Event} {bytes : Bytes} :
    (event, bytes) ∈ deliveries connection trace ↔
      ∃ outputs, (event, outputs) ∈ trace ∧ .packet connection bytes ∈ outputs := by
  simp only [deliveries, List.mem_flatMap, List.mem_map, mem_packetsTo]
  constructor
  · rintro ⟨⟨origin, outputs⟩, inside, sent, membership, same⟩
    cases same
    exact ⟨outputs, inside, membership⟩
  · rintro ⟨outputs, inside, membership⟩
    exact ⟨(event, outputs), inside, bytes, membership, rfl⟩

theorem deliveries_eq_nil :
    deliveries connection trace = [] ↔
      ∀ turn ∈ trace, ¬ ∃ bytes, .packet connection bytes ∈ turn.2 := by
  rw [List.eq_nil_iff_forall_not_mem]
  constructor
  · rintro none ⟨event, outputs⟩ inside ⟨bytes, membership⟩
    exact none (event, bytes) (mem_deliveries.mpr ⟨outputs, inside, membership⟩)
  · rintro none ⟨event, bytes⟩ membership
    obtain ⟨outputs, inside, sent⟩ := mem_deliveries.mp membership
    exact none (event, outputs) inside ⟨bytes, sent⟩

theorem deliveries_append (connection : Nat) (first second : List (Event × List Output)) :
    deliveries connection (first ++ second) =
      deliveries connection first ++ deliveries connection second := List.flatMap_append

end Deliveries

end AAServer

end AACS
