import AACS.Server.Communicator
import AACS.Server.Pump

/-!
The clients of the socket: the slots that `main` connects to a `SocketClient`, and
the thread that reads for it.
-/

namespace AACS

namespace AAServer

open Effects

inductive PacketType where
  | GetChannelNumberByChannelType
  | RawData
  | GetServiceDescriptor
  deriving DecidableEq, Repr

def PacketType.code : PacketType → UInt8
  | .GetChannelNumberByChannelType => 0
  | .RawData => 1
  | .GetServiceDescriptor => 2

/-- The packet type is cast from a byte, so it can be any. -/
structure Packet where
  packetType : UInt8
  channelNumber : UInt8
  specific : UInt8
  data : Bytes
  deriving DecidableEq, Repr

/-- `map::insert` and `map::erase`; the map is in the order of the addresses. -/
def insertClient (entry : Nat × Int) (clients : List (Nat × Int)) : List (Nat × Int) :=
  clients.orderedInsert (fun first second => first.1 ≤ second.1) entry

def eraseClient (scl : Nat) (clients : List (Nat × Int)) : List (Nat × Int) :=
  clients.filter fun entry => entry.1 ≠ scl

/-- `clients[scl]`, which inserts a missing entry. -/
def clientIdOf (scl : Nat) : ServerAct Int := do
  match (← Act.get).clients.lookup scl with
  | some clientId => pure clientId
  | none =>
      Act.modify fun state => { state with clients := insertClient (scl, 0) state.clients }
      pure 0

/-- What both the slot of `disconnected` and the `catch` around `sendToChannel` do. -/
def removeClient (scl : Nat) : ServerAct Unit := do
  disconnected (← clientIdOf scl)
  Act.modify fun state => { state with clients := eraseClient scl state.clients }

/-- The part of the slot of `gotPacket` inside its `try`, or what is left of it. -/
def guarded (scl : Nat) (body : ServerAct ClientThread) : ServerAct ClientThread :=
  body.tryCatch Fault.isException fun fault => do
    removeClient scl
    Act.throw fault

/-- The slot that `gotPacket` is connected to. -/
def gotPacket (write : Nat → WriteResult) (scl : Nat) (p : Packet) : ServerAct ClientThread := do
  if p.packetType = PacketType.GetChannelNumberByChannelType.code then
    let channelId ← getChannelNumberByChannelType p.channelNumber
    SocketClient.sendMessage write scl [channelId]
    pure .reading
  else if p.packetType = PacketType.RawData.code then
    guarded scl do sendToChannel (← clientIdOf scl) p.channelNumber (p.specific != 0) p.data
  else if p.packetType = PacketType.GetServiceDescriptor.code then
    SocketClient.sendMessage write scl (← Act.get).serviceDescriptor
    pure .reading
  else
    throw (.runtimeError "Unknown packetType")

/-- The buffer of a client's thread; a longer packet is cut off. -/
def clientBufSize : Nat := 2 * 1024 * 1024

/-- The packet is taken from the buffer whatever `read` returned; only the data ends
where the read bytes end, and there is none when they are fewer than three. -/
def packetOf (buffer : Buffer) (bytes : Bytes) : Packet where
  packetType := buffer 0
  channelNumber := buffer 1
  specific := buffer 2
  data := bytes.drop 3

def State.updateSocket (state : State) (scl : Nat) (update : SocketClient → SocketClient) :
    State :=
  { state with sockets :=
      Function.update state.sockets scl ((state.sockets scl).map update) }

/-- One turn of the loop in `clientThreadMethod`. -/
def clientRead (write : Nat → WriteResult) (scl : Nat) (client : SocketClient) (reading : Reading) :
    ServerAct ClientThread :=
  match reading with
  | .data [] => do
      Act.modify fun state => { state with socketClients := state.socketClients.erase scl }
      removeClient scl
      pure .ended
  | reading => do
      let bytes := reading.bytes.take clientBufSize
      let buffer := client.buffer.overwrite bytes
      Act.modify fun state => state.updateSocket scl fun client => { client with buffer }
      gotPacket write scl (packetOf buffer bytes)

/-- The rest of a packet that opens a channel, statement by statement. -/
def clientOpen (protobuf : Protobuf) (scl pointer : Nat) (step : OpenStep) :
    ServerAct ClientThread :=
  guarded scl do
    match ← step.run protobuf pointer with
    | some next => pure (.opening pointer next)
    | none => pure .reading

end AAServer

end AACS
