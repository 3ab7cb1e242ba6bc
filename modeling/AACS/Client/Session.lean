import AACS.Client.Dispatch
import AACS.Library.Transitions
import AACS.Server.Pump

/-!
`AAClient` from its start to its end.

`main` asks the server for the service descriptor, and then two threads share the
communicator: the one that reads from the server, and `main` itself, which goes through
`setup`. The machine takes what either of them gets as an event.
-/

namespace AACS

namespace AAClient

open Effects Transitions

/-- The buffer of `getServiceDescriptor`; a longer packet is cut off. -/
def descriptorBufSize : Nat := 10240

def getServiceDescriptor (written : Bool) (reading : Reading) : Except Thrown Bytes :=
  if written = false then .error (.runtimeError "write failed")
  else
    match reading.bytes.take descriptorBufSize with
    | [] => .error (.runtimeError "read failed")
    | sd => .ok sd

def hasType (content : Bytes) (type : UInt16) : Bool :=
  match content with
  | high :: low :: _ => bigEndian16 high low = type
  | _ => false

def plainBulk : UInt8 := EncryptionType.Plain.mask ||| FrameType.Bulk.mask

def expectVersionResponse (content : Bytes) : ClientAct Unit :=
  if content.length ≠ 8 ∨ hasType content MessageType.VersionResponse.code = false ∨
      content.getD 6 0 ≠ 0 ∨ content.getD 7 0 ≠ 0 then
    Act.throw (.thrown (.runtimeError "did not get version response"))
  else pure ()

/-- How `SSL_connect` goes on: it is through, has something to send, or fails. -/
inductive Connect where
  | complete
  | answer (bytes : Bytes)
  | failed
  | unknown
  deriving DecidableEq, Repr

def doSslHandshake (connect : Connect) (msgContent : Bytes) : ClientAct Bool :=
  if 2 < msgContent.length ∧ hasType msgContent MessageType.SslHandshake.code = false then
    Act.throw (.thrown (.runtimeError "Expected SSL handshake message"))
  else
    match connect with
    | .complete => pure true
    | .failed => Act.throw (.thrown (.runtimeError "SSL_connect failed"))
    | .unknown => Act.throw (.thrown (.runtimeError "Unknown SSL_connect failure"))
    | .answer bytes => do
        sendToMobile 0 plainBulk (pushBackInt16 [] MessageType.SslHandshake.code ++ bytes)
        pure false

def sendAuthComplete : ClientAct Unit :=
  sendToMobile 0 (plainBulk ||| MessageTypeFlags.Control.mask)
    (pushBackInt16 [] MessageType.AuthComplete.code ++ [0x08, 0x00])

inductive Phase where
  | versionResponse
  | handshake
  | dispatching
  deriving DecidableEq, Repr

/-- The condition of the loop over `doSslHandshake`, and what comes after the loop. -/
def handshakeTurn (connect : Connect) (msgContent : Bytes) : ClientAct Phase := do
  if ← doSslHandshake connect msgContent then
    sendAuthComplete
    pure .dispatching
  else
    pure .handshake

/-- The communicator with its threads; an exception in either ends the program. -/
structure Session where
  state : State
  phase : Phase := .versionResponse
  running : Bool := true

def Session.start (sd : Bytes) : Session where
  state := initial sd

inductive Event where
  /-- The reading thread gets a packet of the server. -/
  | packet (bytes : Bytes)
  /-- `setup` gets its first message, and starts the handshake. -/
  | versionResponse (msg : Message) (connect : Connect)
  | handshake (msg : Message) (connect : Connect)
  /-- The loop of `setup` gets a message. -/
  | message (msg : Message) (outside : Outside)

def Event.phase : Event → Option Phase
  | .packet _ => none
  | .versionResponse _ _ => some .versionResponse
  | .handshake _ _ => some .handshake
  | .message _ _ => some .dispatching

def Event.body (protobuf : Protobuf) (phase : Phase) : Event → ClientAct Phase
  | .packet bytes => do
      readerThread bytes
      pure phase
  | .versionResponse msg connect => do
      expectVersionResponse msg.content
      handshakeTurn connect []
  | .handshake msg connect => handshakeTurn connect msg.content
  | .message msg outside => do
      dispatch protobuf outside msg
      pure phase

def step (protobuf : Protobuf) (session : Session) (event : Event) :
    Option (Session × List Output) :=
  if session.running = true ∧ event.phase.all (· = session.phase) then
    let outcome := (event.body protobuf session.phase).run session.state
    match outcome.result with
    | .ok phase => some ({ session with state := outcome.state, phase }, outcome.log)
    | .error (.thrown _) =>
        some ({ session with state := outcome.state, running := false }, outcome.log)
    | .error .undefinedBehaviour => none
  else none

def machine (protobuf : Protobuf) : Machine Session Event Output := ⟨step protobuf⟩

section Steps

variable {protobuf : Protobuf} {session next : Session} {event : Event} {outputs : List Output}

theorem step_body (took : (machine protobuf).step session event = some (next, outputs)) :
    session.running = true ∧
      next.state = ((event.body protobuf session.phase).run session.state).state ∧
      outputs = ((event.body protobuf session.phase).run session.state).log := by
  simp only [machine, step] at took
  split at took
  next enabled =>
    refine ⟨enabled.1, ?_⟩
    split at took
    · cases took
      exact ⟨rfl, rfl⟩
    · cases took
      exact ⟨rfl, rfl⟩
    · cases took
  next => cases took

theorem step_ok {phase : Phase} {after : State} {log : List Output} (running : session.running)
    (waits : event.phase.all (· = session.phase))
    (outcome : (event.body protobuf session.phase).run session.state = ⟨.ok phase, after, log⟩) :
    (machine protobuf).step session event =
      some ({ session with state := after, phase }, log) := by
  simp only [machine, step, running, waits, and_self, if_true, outcome]

end Steps

end AAClient

end AACS
