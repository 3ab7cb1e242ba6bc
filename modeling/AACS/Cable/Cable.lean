import AACS.Proxy.Forwarding
import AACS.Server.Link

/-!
`AAServer` and `AAClient` at the two ends of a cable.

`AAServer` is the phone for `AAClient`, and `AAClient` the head unit for `AAServer`. What one
of them puts into its send queue arrives at the other one, message by message. That a message
gets there whole depends on its length: `AAServer` does not put the frames of a message
together again.
-/

namespace AACS

open Effects Transitions

/-- The two ends of a TLS handshake: what they make of the bytes of the other side, which
`BIO_write` adds to what they have. `accept` also gets the body of a service descriptor, and says
what GStreamer makes of its pipelines. -/
structure Handshake (γ δ : Type) where
  connect : γ → Bytes → γ × AAClient.Connect
  accept : δ → Bytes → δ × AAServer.Accept

def longestForHeadunit (flags : UInt8) : Nat := if isEncrypted flags then 2 ^ 31 - 1 else 65535

def longestForPhone (flags : UInt8) : Nat := if isEncrypted flags then 10000 else 65535

/-- Both programs with their `ssl` objects, and the messages that are under way. -/
structure Cable (γ δ : Type) where
  phone : AAServer.State
  headunit : AAClient.Session
  accepting : δ
  connecting : γ
  toHeadunit : List Message
  toPhone : List Message

namespace Cable

variable {γ δ : Type}

inductive Event where
  /-- A turn of `AAServer`, but for its pump. -/
  | phone (event : AAServer.Event)
  /-- Its pump hands on a message. -/
  | phoneReceives (write : Nat → AAServer.WriteResult)
  /-- The reading thread of `AAClient` gets a packet. -/
  | headunit (packet : Bytes)
  /-- `setup` gets a message. -/
  | headunitReceives (outside : AAClient.Outside)

inductive Output where
  | phone (output : AAServer.Output)
  | headunit (output : AAClient.Output)
  deriving DecidableEq, Repr

def isHeadunit : AAServer.Event → Bool
  | .headunit _ _ _ => true
  | _ => false

def received (phase : AAClient.Phase) (msg : Message) (connect : AAClient.Connect)
    (outside : AAClient.Outside) : AAClient.Event :=
  match phase with
  | .versionResponse => .versionResponse msg connect
  | .handshake => .handshake msg connect
  | .dispatching => .message msg outside

def forConnect (phase : AAClient.Phase) (msg : Message) : Bytes :=
  match phase with
  | .handshake => msg.content.drop 2
  | .versionResponse | .dispatching => []

/-- The turn of the phone that an event is, and the `ssl` object after it. -/
def phoneTurn (tls : Handshake γ δ) (cable : Cable γ δ) :
    Event → Option (AAServer.Event × δ)
  | .phone event => if isHeadunit event then none else some (event, cable.accepting)
  | .phoneReceives write => cable.toPhone.head?.map fun msg =>
      let accepted := tls.accept cable.accepting (msg.content.drop 2)
      (.headunit msg accepted.2 write,
        if AAServer.isSslHandshake msg then accepted.1 else cable.accepting)
  | .headunit _ | .headunitReceives _ => none

def headunitTurn (tls : Handshake γ δ) (cable : Cable γ δ) :
    Event → Option (AAClient.Event × γ)
  | .headunit packet => some (.packet packet, cable.connecting)
  | .headunitReceives outside => cable.toHeadunit.head?.map fun msg =>
      let phase := cable.headunit.phase
      let connected := tls.connect cable.connecting (forConnect phase msg)
      (received phase msg connected.2 outside,
        if phase = .dispatching then cable.connecting else connected.1)
  | .phone _ | .phoneReceives _ => none

/-- The services are not asked for, nor told. -/
def Undiscovered (cable : Cable γ δ) : Event → Prop
  | .phoneReceives _ =>
      ∀ msg ∈ cable.toPhone.head?, AAServer.isServiceDiscoveryResponse msg = false
  | .headunitReceives _ => ∀ msg ∈ cable.toHeadunit.head?,
      AAClient.hasType msg.content MessageType.ServiceDiscoveryRequest.code = false
  | .phone _ | .headunit _ => True

instance (cable : Cable γ δ) (event : Event) : Decidable (cable.Undiscovered event) := by
  cases event <;> unfold Undiscovered <;> infer_instance

def unreadByPhone (cable : Cable γ δ) : Event → List Message
  | .phoneReceives _ => cable.toPhone.tail
  | _ => cable.toPhone

def unreadByHeadunit (cable : Cable γ δ) : Event → List Message
  | .headunitReceives _ => cable.toHeadunit.tail
  | _ => cable.toHeadunit

def afterPhone (cable : Cable γ δ) (event : Event) (accepting : δ)
    (turn : AAServer.State × List AAServer.Output) : Option (Cable γ δ × List Output) :=
  if ∀ msg ∈ AAServer.queued turn.2, msg.content.length ≤ longestForHeadunit msg.flags then
    some ({ cable with
        phone := turn.1
        accepting
        toPhone := cable.unreadByPhone event
        toHeadunit := cable.toHeadunit ++ AAServer.queued turn.2 },
      turn.2.map .phone)
  else none

def afterHeadunit (cable : Cable γ δ) (event : Event) (connecting : γ)
    (turn : AAClient.Session × List AAClient.Output) : Option (Cable γ δ × List Output) :=
  if ∀ msg ∈ AAClient.queued turn.2, msg.content.length ≤ longestForPhone msg.flags then
    some ({ cable with
        headunit := turn.1
        connecting
        toHeadunit := cable.unreadByHeadunit event
        toPhone := cable.toPhone ++ AAClient.queued turn.2 },
      turn.2.map .headunit)
  else none

/-- A turn of either program; what a message that is too long becomes is not described. -/
def step (tls : Handshake γ δ) (protobuf : Protobuf) (cable : Cable γ δ) (event : Event) :
    Option (Cable γ δ × List Output) :=
  match cable.phoneTurn tls event, cable.headunitTurn tls event with
  | some (own, accepting), _ =>
      ((AAServer.machine protobuf).step cable.phone own).bind (cable.afterPhone event accepting)
  | none, some (own, connecting) =>
      ((AAClient.machine protobuf).step cable.headunit own).bind
        (cable.afterHeadunit event connecting)
  | none, none => none

end Cable

def cable {γ δ : Type} (tls : Handshake γ δ) (protobuf : Protobuf) :
    Machine (Cable γ δ) Cable.Event Cable.Output :=
  ⟨Cable.step tls protobuf⟩

namespace Cable

section Turns

variable {γ δ : Type} {tls : Handshake γ δ} {protobuf : Protobuf} {current next : Cable γ δ}
  {event : Event} {outputs : List Output}

theorem step_turn (took : (cable tls protobuf).step current event = some (next, outputs)) :
    (∃ own accepting state log, current.phoneTurn tls event = some (own, accepting) ∧
      (AAServer.machine protobuf).step current.phone own = some (state, log) ∧
      current.afterPhone event accepting (state, log) = some (next, outputs)) ∨
    ∃ own connecting session log, current.headunitTurn tls event = some (own, connecting) ∧
      (AAClient.machine protobuf).step current.headunit own = some (session, log) ∧
      current.afterHeadunit event connecting (session, log) = some (next, outputs) := by
  simp only [cable, step] at took
  split at took
  next own accepting turn =>
    obtain ⟨⟨state, log⟩, ran, after⟩ := Option.bind_eq_some_iff.mp took
    exact .inl ⟨own, accepting, state, log, turn, ran, after⟩
  next own connecting none turn =>
    obtain ⟨⟨session, log⟩, ran, after⟩ := Option.bind_eq_some_iff.mp took
    exact .inr ⟨own, connecting, session, log, turn, ran, after⟩
  next => cases took

structure PhoneTurn (protobuf : Protobuf) (current next : Cable γ δ) (event : Event)
    (own : AAServer.Event) (log : List AAServer.Output) : Prop where
  taken : event = .phone own ∧ isHeadunit own = false ∨ ∃ msg accept write,
    event = .phoneReceives write ∧ current.toPhone.head? = some msg ∧
      own = .headunit msg accept write
  ran : (AAServer.machine protobuf).step current.phone own = some (next.phone, log)
  headunit : next.headunit = current.headunit
  toHeadunit : next.toHeadunit = current.toHeadunit ++ AAServer.queued log
  toPhone : next.toPhone = current.unreadByPhone event

structure HeadunitTurn (protobuf : Protobuf) (current next : Cable γ δ) (event : Event)
    (own : AAClient.Event) (log : List AAClient.Output) : Prop where
  taken : (∃ packet, event = .headunit packet ∧ own = .packet packet) ∨
    ∃ msg connect outside, event = .headunitReceives outside ∧
      current.toHeadunit.head? = some msg ∧
      own = received current.headunit.phase msg connect outside
  ran : (AAClient.machine protobuf).step current.headunit own = some (next.headunit, log)
  phone : next.phone = current.phone
  toHeadunit : next.toHeadunit = current.unreadByHeadunit event
  toPhone : next.toPhone = current.toPhone ++ AAClient.queued log

theorem step_cases (took : (cable tls protobuf).step current event = some (next, outputs)) :
    (∃ own log, PhoneTurn protobuf current next event own log ∧ outputs = log.map .phone) ∨
      ∃ own log, HeadunitTurn protobuf current next event own log ∧
        outputs = log.map .headunit := by
  rcases step_turn took with ⟨own, accepting, state, log, turn, ran, after⟩ |
    ⟨own, connecting, session, log, turn, ran, after⟩
  · refine .inl ⟨own, log, ?_⟩
    have byWhom : event = .phone own ∧ isHeadunit own = false ∨ ∃ msg accept write,
        event = .phoneReceives write ∧ current.toPhone.head? = some msg ∧
          own = .headunit msg accept write := by
      cases event with
      | phone inner =>
          simp only [phoneTurn] at turn
          split at turn
          · cases turn
          next other =>
            cases turn
            exact .inl ⟨rfl, by simpa using other⟩
      | phoneReceives write =>
          obtain ⟨msg, first, same⟩ := Option.map_eq_some_iff.mp turn
          cases same
          exact .inr ⟨msg, _, write, rfl, first, rfl⟩
      | headunit | headunitReceives => cases turn
    unfold afterPhone at after
    split at after
    · cases after
      exact ⟨⟨byWhom, ran, rfl, rfl, rfl⟩, rfl⟩
    · cases after
  · refine .inr ⟨own, log, ?_⟩
    have byWhom : (∃ packet, event = .headunit packet ∧ own = .packet packet) ∨
        ∃ msg connect outside, event = .headunitReceives outside ∧
          current.toHeadunit.head? = some msg ∧
          own = received current.headunit.phase msg connect outside := by
      cases event with
      | headunit packet =>
          cases turn
          exact .inl ⟨packet, rfl, rfl⟩
      | headunitReceives outside =>
          obtain ⟨msg, first, same⟩ := Option.map_eq_some_iff.mp turn
          cases same
          exact .inr ⟨msg, _, outside, rfl, first, rfl⟩
      | phone | phoneReceives => cases turn
    unfold afterHeadunit at after
    split at after
    · cases after
      exact ⟨⟨byWhom, ran, rfl, rfl, rfl⟩, rfl⟩
    · cases after

theorem PhoneTurn.plain {own : AAServer.Event} {log : List AAServer.Output}
    (turn : PhoneTurn protobuf current next event own log)
    (undiscovered : current.Undiscovered event) : own.discovers = false := by
  rcases turn.taken with ⟨rfl, other⟩ | ⟨msg, accept, write, rfl, first, rfl⟩
  · cases own with
    | headunit => cases other
    | connect | read | clientStep | sample | streamStep | threadTerminated => rfl
  · exact undiscovered msg first

theorem HeadunitTurn.dispatches {own : AAClient.Event} {log : List AAClient.Output}
    (turn : HeadunitTurn protobuf current next event own log)
    (dispatching : current.headunit.phase = .dispatching)
    (undiscovered : current.Undiscovered event) : own.discovers = false ∧
      ((∃ packet, event = .headunit packet ∧ own = .packet packet) ∨
        ∃ msg outside rest, event = .headunitReceives outside ∧
          current.toHeadunit = msg :: rest ∧ own = .message msg outside) := by
  rcases turn.taken with ⟨packet, rfl, rfl⟩ | ⟨msg, connect, outside, rfl, first, rfl⟩
  · exact ⟨rfl, .inl ⟨packet, rfl, rfl⟩⟩
  · obtain ⟨rest, waiting⟩ := List.head?_eq_some_iff.mp first
    rw [dispatching]
    exact ⟨undiscovered msg first, .inr ⟨msg, outside, rest, rfl, waiting, rfl⟩⟩

end Turns

end Cable

end AACS
