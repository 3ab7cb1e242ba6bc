import AACS.Cable.Cable
import AACS.Cable.Streams
import AACS.Library.Simulation

/-!
The cable, frame by frame, and that it delivers messages.

Between the two send queues and the two programs there are frames: `getMessage` and
`prepareMessage` cut messages into them, the loop in `AAClient::getMessage` puts them together
again, and the pump of `AAServer` takes them out of what it reads. As long as every message for
the phone fits a frame, whatever the two programs do on the wire they also do at the ends of a
cable that carries messages.
-/

namespace AACS

open Effects RecordLayer Transitions

/-- Both programs, the two directions between them, what a call of `getMessage` has gathered, and
what the pump of the phone has read. -/
structure Wire (γ δ σ ρ : Type) where
  phone : AAServer.State
  headunit : AAClient.Session
  accepting : δ
  connecting : γ
  toHeadunit : Lane σ ρ
  gathering : AAClient.Reassembly
  toPhone : Lane σ ρ
  buffer : Bytes

namespace Wire

variable {γ δ σ ρ : Type}

inductive Event where
  /-- A turn of `AAServer`, but for its pumps. -/
  | phone (event : AAServer.Event)
  /-- The pump of endpoint 1 calls `getMessage`, and writes the frame. -/
  | phoneSends
  /-- The pump of endpoint 2 reads so many frames and one more. -/
  | phoneReads (more : Nat)
  /-- It calls `handleMessage` for what it has read. -/
  | phoneReceives (write : Nat → AAServer.WriteResult)
  /-- The reading thread of `AAClient` gets a packet. -/
  | headunit (packet : Bytes)
  /-- `writeThread` calls `prepareMessage`, and the transfer succeeds. -/
  | headunitSends
  /-- `getMessage` gets a transfer; `stack` is what its next call finds in its buffer. -/
  | headunitReceives (outside : AAClient.Outside) (stack : Buffer)

inductive Output where
  | program (output : Cable.Output)
  | fault (what : String)
  deriving DecidableEq, Repr

def phoneTurn (protobuf : Protobuf) (wire : Wire γ δ σ ρ) (own : AAServer.Event) :
    Option (Wire γ δ σ ρ × List Output) :=
  ((AAServer.machine protobuf).step wire.phone own).map fun turn =>
    ({ wire with phone := turn.1, toHeadunit := wire.toHeadunit.put (AAServer.queued turn.2) },
      turn.2.map fun output => .program (.phone output))

def headunitTurn (protobuf : Protobuf) (wire : Wire γ δ σ ρ) (own : AAClient.Event) :
    Option (Wire γ δ σ ρ × List Output) :=
  ((AAClient.machine protobuf).step wire.headunit own).map fun turn =>
    ({ wire with headunit := turn.1, toPhone := wire.toPhone.put (AAClient.queued turn.2) },
      turn.2.map fun output => .program (.headunit output))

/-- The pump of the phone hands on the message at the front of its buffer. What a second
handshake does to the records is not described. -/
def phoneReceives (tls : Handshake γ δ) (up : SecuredStream σ ρ) (protobuf : Protobuf)
    (write : Nat → AAServer.WriteResult) (wire : Wire γ δ σ ρ) :
    Option (Wire γ δ σ ρ × List Output) :=
  if wire.buffer = [] then none
  else
    match AAServer.received up.opener wire.toPhone.opener wire.buffer with
    | ⟨[handed], opener, (), .ok taken⟩ =>
        if AAServer.isSslHandshake handed.msg then none
        else
          phoneTurn protobuf
            { wire with
              toPhone := { wire.toPhone with opener }
              buffer := wire.buffer.drop taken }
            (.headunit handed.msg (tls.accept wire.accepting (handed.msg.content.drop 2)).2 write)
    | ⟨_, _, (), .error thrown⟩ => some (wire, [.fault thrown.what])
    | _ => none

/-- A call of `getMessage` gets a transfer, and `setup` the message if it is the last one. -/
def headunitReceives (down : SecuredStream σ ρ) (protobuf : Protobuf) (outside : AAClient.Outside)
    (stack : Buffer) (wire : Wire γ δ σ ρ) : Option (Wire γ δ σ ρ × List Output) :=
  match wire.toHeadunit.frames with
  | [] => none
  | frame :: _ =>
      match AAClient.pass down.opener wire.toHeadunit.opener wire.gathering (.completed frame) with
      | (opener, .error thrown) =>
          some ({ wire with
            toHeadunit := wire.toHeadunit.taken opener
            gathering := { buffer := stack } }, [.fault thrown.what])
      | (opener, .ok (.inl soFar)) =>
          some ({ wire with toHeadunit := wire.toHeadunit.taken opener, gathering := soFar }, [])
      | (opener, .ok (.inr msg)) =>
          headunitTurn protobuf
            { wire with
              toHeadunit := wire.toHeadunit.taken opener
              gathering := { buffer := stack } } (.message msg outside)

def step (tls : Handshake γ δ) (down up : SecuredStream σ ρ) (protobuf : Protobuf)
    (wire : Wire γ δ σ ρ) : Event → Option (Wire γ δ σ ρ × List Output)
  | .phone event => if Cable.isHeadunit event then none else wire.phoneTurn protobuf event
  | .phoneSends =>
      if wire.phone.threadFinished then none
      else
        let (lane, thrown) := wire.toHeadunit.called
          (AAServer.getMessage down.sealer AAServer.bufSize wire.toHeadunit.sender)
        some ({ wire with toHeadunit := lane }, thrown.map .fault)
  | .phoneReads more =>
      if wire.phone.threadFinished = false ∧ wire.buffer = [] ∧ wire.toPhone.frames ≠ [] then
        some ({ wire with
          toPhone := { wire.toPhone with frames := wire.toPhone.frames.drop (more + 1) }
          buffer := (wire.toPhone.frames.take (more + 1)).flatten }, [])
      else none
  | .phoneReceives write => wire.phoneReceives tls up protobuf write
  | .headunit packet => wire.headunitTurn protobuf (.packet packet)
  | .headunitSends =>
      if wire.headunit.running then
        let (lane, thrown) := wire.toPhone.called
          (AAClient.prepareMessage up.sealer wire.toPhone.sender)
        some ({ wire with toPhone := lane }, thrown.map .fault)
      else none
  | .headunitReceives outside stack =>
      if wire.headunit.running then wire.headunitReceives down protobuf outside stack else none

end Wire

def wire {γ δ σ ρ : Type} (tls : Handshake γ δ) (down up : SecuredStream σ ρ)
    (protobuf : Protobuf) : Machine (Wire γ δ σ ρ) Wire.Event Wire.Output :=
  ⟨Wire.step tls down up protobuf⟩

namespace Wire

variable {γ δ σ ρ : Type}

def phoneOutputs (outputs : List Output) : List AAServer.Output :=
  outputs.filterMap fun
    | .program (.phone output) => some output
    | _ => none

def headunitOutputs (outputs : List Output) : List AAClient.Output :=
  outputs.filterMap fun
    | .program (.headunit output) => some output
    | _ => none

def forPhone (up : SecuredStream σ ρ) (wire : Wire γ δ σ ρ) : Option Message :=
  (AAServer.received up.opener wire.toPhone.opener wire.buffer).handed.head?.map (·.msg)

/-- The message that `getMessage` returns when it gets the next transfer, if it does. -/
def forHeadunit (down : SecuredStream σ ρ) (wire : Wire γ δ σ ρ) : Option Message :=
  wire.toHeadunit.frames.head?.bind fun frame =>
    match AAClient.pass down.opener wire.toHeadunit.opener wire.gathering (.completed frame) with
    | (_, .ok (.inr msg)) => some msg
    | (_, .ok (.inl _)) | (_, .error _) => none

/-- Every message that is put into a queue is in order, and one for the phone fits a frame. -/
def Freshly (tls : Handshake γ δ) (down up : SecuredStream σ ρ) (protobuf : Protobuf)
    (current : Wire γ δ σ ρ) (event : Event) : Prop :=
  ∀ turn ∈ step tls down up protobuf current event,
    (∀ msg ∈ AAServer.queued (phoneOutputs turn.2), Fresh msg) ∧
    ∀ msg ∈ AAClient.queued (headunitOutputs turn.2), Fresh msg ∧ Whole msg

instance (tls : Handshake γ δ) (down up : SecuredStream σ ρ) (protobuf : Protobuf)
    (current : Wire γ δ σ ρ) (event : Event) :
    Decidable (Freshly tls down up protobuf current event) :=
  inferInstanceAs (Decidable (∀ turn ∈ step tls down up protobuf current event, _ ∧ _))

end Wire

end AACS
