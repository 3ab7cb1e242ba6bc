import AACS.Library.Effects
import AACS.Protocol.Exceptions
import AACS.Protocol.Message

/-!
The state of `AAServer`: the handler objects, the tables that lead to them and
the clients on the socket.
-/

namespace AACS

namespace AAServer

open Effects

inductive ChannelType where
  | Video
  | Input
  deriving DecidableEq, Repr

/-- Where a thread is in opening a channel: the flag of the channel's first answer
is reset, the request sent and the answer awaited, then the same for the second. -/
inductive OpenStep where
  | resetChannelOpen
  | sendChannelOpen
  | awaitChannelOpen
  | resetAnswer
  | sendRequest
  | awaitAnswer
  deriving DecidableEq, Repr

structure Sample where
  pts : UInt64
  data : Bytes
  deriving DecidableEq, Repr

/-- The members of a `VideoChannelHandler`, and where its streaming thread is when
it is opening the channel. -/
structure VideoChannelHandler where
  channelOpened : Bool := false
  gotSetupResponse : Bool := false
  stream : Option (OpenStep × Sample) := none
  deriving DecidableEq, Repr

/-- The members of an `InputChannelHandler`; the set is kept in order. -/
structure InputChannelHandler where
  gotHandshakeResponse : Bool := false
  registered_clients : List Int := []
  available_buttons : List Int
  deriving DecidableEq, Repr

inductive HandlerKind where
  | default
  | video (handler : VideoChannelHandler)
  | input (handler : InputChannelHandler)
  deriving DecidableEq, Repr

/-- The flags that the source leaves uninitialised are reset before each use. -/
structure ChannelHandler where
  channelId : UInt8
  gotChannelOpenResponse : Bool := false
  kind : HandlerKind
  deriving DecidableEq, Repr

def ChannelHandler.updateVideo (update : VideoChannelHandler → VideoChannelHandler)
    (handler : ChannelHandler) : ChannelHandler :=
  match handler.kind with
  | .video video => { handler with kind := .video (update video) }
  | _ => handler

def ChannelHandler.updateInput (update : InputChannelHandler → InputChannelHandler)
    (handler : ChannelHandler) : ChannelHandler :=
  match handler.kind with
  | .input input => { handler with kind := .input (update input) }
  | _ => handler

/-- The flag for the second answer that opens a channel. -/
def ChannelHandler.answered (handler : ChannelHandler) : Bool :=
  match handler.kind with
  | .default => false
  | .video video => video.gotSetupResponse
  | .input input => input.gotHandshakeResponse

def ChannelHandler.setAnswered (answered : Bool) (handler : ChannelHandler) : ChannelHandler :=
  match handler.kind with
  | .default => handler
  | .video video => { handler with kind := .video { video with gotSetupResponse := answered } }
  | .input input => { handler with kind := .input { input with gotHandshakeResponse := answered } }

/-- Where a client's thread is: at its next read, inside a handler that opens a
channel, or gone. -/
inductive ClientThread where
  | reading
  | opening (pointer : Nat) (step : OpenStep)
  | ended
  deriving DecidableEq, Repr

structure SocketClient where
  fd : Nat
  thread : ClientThread := .reading
  buffer : Buffer

/-- Handler objects are never deleted, so a pointer is an index into all that were
ever created; a `SocketClient` is named by its address, and so is the connection
it was made for. -/
structure State where
  handlers : List ChannelHandler
  channelHandlers : UInt8 → Option Nat
  channelTypeToChannelNumber : ChannelType → UInt8
  serviceDescriptor : Bytes
  sslInitialized : Bool
  threadFinished : Bool
  /-- `firstSample` in `new_sample`, one for all handlers. -/
  firstSample : Bool
  /-- `clients` in `main`, in the order of the addresses. -/
  clients : List (Nat × Int)
  clientCount : Int
  /-- `clients` of the `SocketCommunicator`. -/
  socketClients : List Nat
  sockets : Nat → Option SocketClient
  /-- The open descriptors of the process, with the connections behind them. -/
  descriptors : Nat → Option Nat

def initial : State where
  handlers := [{ channelId := 0, kind := .default }]
  channelHandlers := Function.update (fun _ => none) 0 (some 0)
  channelTypeToChannelNumber := fun _ => 255
  serviceDescriptor := []
  sslInitialized := false
  threadFinished := false
  firstSample := true
  clients := []
  clientCount := 0
  socketClients := []
  sockets := fun _ => none
  descriptors := fun _ => none

/-- What leaves the server: a message put into the send queue, or a packet written
to a connection. -/
inductive Output where
  | enqueue (channel flags : UInt8) (content : Bytes)
  | packet (connection : Nat) (bytes : Bytes)
  deriving DecidableEq, Repr

abbrev ServerAct := Act State Output Fault

def throw {α : Type} (exception : Thrown) : ServerAct α := Act.throw (.thrown exception)

def undefinedBehaviour {α : Type} : ServerAct α := Act.throw .undefinedBehaviour

/-- `sendMessage` of the communicator, which every `sendToHeadunit` is connected to. -/
def sendToHeadunit (channel flags : UInt8) (data : Bytes) : ServerAct Unit :=
  Act.emit (.enqueue channel flags data)

def readHandler (pointer : Nat) : ServerAct ChannelHandler := do
  match (← Act.get).handlers[pointer]? with
  | some handler => pure handler
  | none => undefinedBehaviour

def State.updateHandler (state : State) (pointer : Nat)
    (update : ChannelHandler → ChannelHandler) : State :=
  { state with handlers := state.handlers.modify pointer update }

def writeHandler (pointer : Nat) (update : ChannelHandler → ChannelHandler) : ServerAct Unit :=
  Act.modify fun state => state.updateHandler pointer update

/-- The first two bytes of a content, read through a `__u16` pointer. -/
def messageType : Bytes → ServerAct UInt16
  | high :: low :: _ => pure (bigEndian16 high low)
  | _ => undefinedBehaviour

/-- The result of `write` on an open socket, which takes a packet whole. -/
inductive WriteResult where
  | complete
  | failed (errno : Nat)
  deriving DecidableEq, Repr

def ebadf : Nat := 9
def econnreset : Nat := 104

/-- Which connection a packet for the client arrives at, or the `errno` of a `write` that
fails. The descriptor may have been closed since, and may have been given to another
connection. -/
def State.destination (state : State) (write : Nat → WriteResult) (scl : Nat) :
    Except Nat Nat :=
  match (state.sockets scl).bind fun client => state.descriptors client.fd with
  | none => .error ebadf
  | some connection =>
      match write scl with
      | .complete => .ok connection
      | .failed errno => .error errno

def writeFault (errno : Nat) : Fault :=
  if errno = econnreset then .thrown .clientDisconnectedError
  else .thrown (.runtimeError ("sendMessage failed: -1 errno=" ++ toString errno))

def SocketClient.sendMessage (write : Nat → WriteResult) (scl : Nat) (msg : Bytes) :
    ServerAct Unit := do
  match (← Act.get).destination write scl with
  | .ok connection => Act.emit (.packet connection msg)
  | .error errno => Act.throw (writeFault errno)

end AAServer

end AACS
