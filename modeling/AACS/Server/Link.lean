import AACS.Sender.Queue
import AACS.Server.Accesses
import AACS.Server.Machine

/-!
The server together with its send queue.

Everything that `sendMessage` gets goes into one queue, and the thread that calls
`getMessage` takes it off again. The `ssl` object that it needs for an Encrypted message
is made when the first SslHandshake message comes.
-/

namespace AACS

namespace AAServer

open Effects RecordLayer Transitions

def isSslHandshake (message : Message) : Bool :=
  message.channel = 0 ∧ typeOf message.content = some MessageType.SslHandshake.code

def Event.isSslHandshake : Event → Bool
  | .headunit message _ _ => AAServer.isSslHandshake message
  | _ => false

/-- The writing state of an `ssl` that may be a null pointer. -/
def nullable {σ : Type} (tls : Sealer σ UInt8) : Sealer (Option σ) UInt8 where
  write
    | none, _ => none
    | some ssl, chunk => (tls.write ssl chunk).map fun written => (some written.1, written.2)

structure Link (σ : Type) where
  server : State
  sender : Sender (Option σ)
  /-- The thread that calls `getMessage` has not ended with an exception. -/
  pumping : Bool
  /-- `SSL_write` was called with a null pointer; what comes then is not described. -/
  crashed : Bool

inductive LinkEvent (σ : Type) where
  /-- A turn of the server, and what `SSL_accept` leaves of the `ssl` object if it is called
  in it. -/
  | server (event : Event) (accepted : σ)
  | getMessage

inductive LinkOutput where
  | packet (connection : Nat) (bytes : Bytes)
  | sslWrite
  | frame (bytes : Bytes)
  deriving DecidableEq, Repr

def queued (outputs : List Output) : List Message :=
  outputs.filterMap fun
    | .enqueue channel flags content => some { channel, flags, content }
    | .packet _ _ => none

def packets (outputs : List Output) : List LinkOutput :=
  outputs.filterMap fun
    | .enqueue _ _ _ => none
    | .packet connection bytes => some (.packet connection bytes)

namespace Link

variable {σ : Type}

/-- The message at the front is Encrypted, so `getMessage` calls `SSL_write`. -/
def callsSslWrite (link : Link σ) : Bool :=
  match link.sender.sendQueue with
  | [] => false
  | message :: _ => isEncrypted message.flags

def getMessage (tls : Sealer σ UInt8) (link : Link σ) : Link σ × List LinkOutput :=
  let written := if link.callsSslWrite then [LinkOutput.sslWrite] else []
  if link.callsSslWrite ∧ link.sender.ssl.isNone then ({ link with crashed := true }, written)
  else
    match AAServer.getMessage (nullable tls) bufSize link.sender with
    | (.timedOut, sender) => ({ link with sender }, written)
    | (.frame bytes, sender) => ({ link with sender }, written ++ [.frame bytes])
    | (.threw _, sender) =>
        ({ link with
            server := { link.server with threadFinished := true }
            sender
            pumping := false }, written)

def step (tls : Sealer σ UInt8) (protobuf : Protobuf) (link : Link σ) :
    LinkEvent σ → Option (Link σ × List LinkOutput)
  | .server event accepted =>
      if link.crashed then none
      else
        match AAServer.step protobuf link.server event with
        | none => none
        | some (server, outputs) =>
            some ({ link with
              server
              sender :=
                { link.sender with
                  sendQueue := link.sender.sendQueue ++ queued outputs
                  ssl := if event.isSslHandshake then some accepted else link.sender.ssl } },
              packets outputs)
  | .getMessage => if link.crashed ∨ ¬ link.pumping then none else some (link.getMessage tls)

def initial : Link σ where
  server := AAServer.initial
  sender := { sendQueue := [], ssl := none, writeBio := [] }
  pumping := true
  crashed := false

end Link

def link {σ : Type} (tls : Sealer σ UInt8) (protobuf : Protobuf) :
    Machine (Link σ) (LinkEvent σ) LinkOutput :=
  ⟨Link.step tls protobuf⟩

end AAServer

end AACS
