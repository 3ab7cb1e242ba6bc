import AACS.Library.Fifo
import AACS.Proxy.Forwarding

/-!
The two programs and the socket between them.

`AAClient` is one of the clients of `AAServer`. What either of them writes to the socket
waits there until the other one reads it, packet by packet; all their threads take turns
as they like.
-/

namespace AACS

open Effects Transitions

/-- Both programs, and what has been written to the socket and not been read. -/
structure System where
  server : AAServer.State
  client : AAClient.Session
  toClient : List Bytes
  toServer : List Bytes

namespace System

inductive Event where
  /-- A turn of the server, but for the thread that reads from `AAClient`. -/
  | server (event : AAServer.Event)
  /-- That thread reads a packet. -/
  | serverReads (write : Nat → AAServer.WriteResult)
  /-- It reads the end of the file, when `AAClient` has ended. -/
  | hangUp (write : Nat → AAServer.WriteResult)
  /-- A turn of `setup` in `AAClient`. -/
  | client (event : AAClient.Event)
  /-- The reading thread of `AAClient` reads a packet. -/
  | clientReads

inductive Output where
  | server (output : AAServer.Output)
  | client (output : AAClient.Output)
  deriving DecidableEq, Repr

def readsFrom (scl : Nat) : AAServer.Event → Bool
  | .read other _ _ => other = scl
  | _ => false

def isPacket : AAClient.Event → Bool
  | .packet _ => true
  | _ => false

def serverTurn (scl : Nat) (system : System) : Event → Option AAServer.Event
  | .server event => if readsFrom scl event then none else some event
  | .serverReads write => system.toServer.head?.map fun packet => .read scl (.data packet) write
  | .hangUp write =>
      if system.client.running = false ∧ system.toServer = [] then
        some (.read scl (.data []) write)
      else none
  | .client _ | .clientReads => none

def clientTurn (system : System) : Event → Option AAClient.Event
  | .client event => if isPacket event then none else some event
  | .clientReads => system.toClient.head?.map .packet
  | .server _ | .serverReads _ | .hangUp _ => none

def unreadByServer (system : System) : Event → List Bytes
  | .serverReads _ => system.toServer.tail
  | _ => system.toServer

def unreadByClient (system : System) : Event → List Bytes
  | .clientReads => system.toClient.tail
  | _ => system.toClient

def afterServer (scl : Nat) (system : System) (event : Event)
    (turn : AAServer.State × List AAServer.Output) : System × List Output :=
  ({ system with
      server := turn.1
      toServer := system.unreadByServer event
      toClient := system.toClient ++ AAServer.packetsTo scl turn.2 },
    turn.2.map .server)

def afterClient (system : System) (event : Event)
    (turn : AAClient.Session × List AAClient.Output) : System × List Output :=
  ({ system with
      client := turn.1
      toClient := system.unreadByClient event
      toServer := system.toServer ++ AAClient.packets turn.2 },
    turn.2.map .client)

def step (protobuf : Protobuf) (scl : Nat) (system : System) (event : Event) :
    Option (System × List Output) :=
  match system.serverTurn scl event, system.clientTurn event with
  | some own, _ =>
      ((AAServer.machine protobuf).step system.server own).map (system.afterServer scl event)
  | none, some own =>
      ((AAClient.machine protobuf).step system.client own).map (system.afterClient event)
  | none, none => none

end System

/-- The system in which `AAClient` is the client `scl`. -/
def system (protobuf : Protobuf) (scl : Nat) : Machine System System.Event System.Output :=
  ⟨System.step protobuf scl⟩

namespace System

theorem readsFrom_actor {scl : Nat} {own : AAServer.Event} (other : readsFrom scl own = false)
    (acts : own.actor = some scl) : own = .clientStep scl := by
  cases own with
  | read actor reading write =>
      cases acts
      simp [readsFrom] at other
  | clientStep actor =>
      cases acts
      rfl
  | connect | headunit | sample | streamStep | threadTerminated => cases acts

section Turns

variable {protobuf : Protobuf} {scl : Nat} {current next : System} {event : Event}
  {outputs : List Output}

theorem step_turn (took : (system protobuf scl).step current event = some (next, outputs)) :
    (∃ own server log, current.serverTurn scl event = some own ∧
      (AAServer.machine protobuf).step current.server own = some (server, log) ∧
      (next, outputs) = current.afterServer scl event (server, log)) ∨
    ∃ own client log, current.serverTurn scl event = none ∧
      current.clientTurn event = some own ∧
      (AAClient.machine protobuf).step current.client own = some (client, log) ∧
      (next, outputs) = current.afterClient event (client, log) := by
  simp only [system, step] at took
  split at took
  next own turn =>
    obtain ⟨⟨server, log⟩, ran, same⟩ := Option.map_eq_some_iff.mp took
    exact .inl ⟨own, server, log, turn, ran, same.symm⟩
  next own none turn =>
    obtain ⟨⟨client, log⟩, ran, same⟩ := Option.map_eq_some_iff.mp took
    exact .inr ⟨own, client, log, none, turn, ran, same.symm⟩
  next => cases took

end Turns

end System

end AACS
