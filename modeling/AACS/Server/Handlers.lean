import AACS.Protocol.Protobuf
import AACS.Server.State

/-!
The channel handlers of `AAServer` and the slot of `main` that passes messages
of the head unit to the clients.
-/

namespace AACS

namespace AAServer

open Effects

/-- The slot that `gotMessage` is connected to. -/
def gotMessage (write : Nat → WriteResult) (clientId : Int) (channelNumber : UInt8)
    (specific : Bool) (data : Bytes) : ServerAct Unit := do
  let state ← Act.get
  let msg := channelNumber :: (if specific then 0xff else 0x00) :: data
  state.clients.forM fun cl =>
    if cl.2 = clientId ∨ clientId = -1 then
      (SocketClient.sendMessage write cl.1 msg).tryCatch Fault.isClientDisconnected fun _ => pure ()
    else
      pure ()

/-- `ChannelHandler::handleMessageFromHeadunit`, which the other kinds call first. -/
def ChannelHandler.handleMessageFromHeadunit (pointer : Nat) (message : Message) :
    ServerAct Bool := do
  if (← messageType message.content) = MessageType.ChannelOpenResponse.code then
    writeHandler pointer fun handler => { handler with gotChannelOpenResponse := true }
    pure true
  else
    pure false

def ChannelHandler.sendChannelOpenRequest (protobuf : Protobuf) (channelId : UInt8) :
    ServerAct Unit :=
  sendToHeadunit channelId
    (FrameType.Bulk.mask ||| EncryptionType.Encrypted.mask ||| MessageTypeFlags.Specific.mask)
    (pushBackInt16 [] MessageType.ChannelOpenRequest.code ++
      protobuf.channelOpenRequest channelId.toNat 0)

namespace DefaultChannelHandler

def handleMessageFromHeadunit (write : Nat → WriteResult) (message : Message) :
    ServerAct Bool := do
  gotMessage write (-1) message.channel (isSpecific message.flags) message.content
  pure true

def handleMessageFromClient (channelId : UInt8) (specific : Bool) (data : Bytes) :
    ServerAct Unit :=
  let flags := EncryptionType.Encrypted.mask ||| FrameType.Bulk.mask
  sendToHeadunit channelId (if specific then flags ||| MessageTypeFlags.Specific.mask else flags)
    data

end DefaultChannelHandler

namespace InputChannelHandler

def sendHandshakeRequest (protobuf : Protobuf) (channelId : UInt8) (available_buttons : List Int) :
    ServerAct Unit :=
  match protobuf.inputChannelHandshakeRequest available_buttons with
  | none => throw (.aaRuntimeError "handshakeRequest.SerializeToArray failed")
  | some buffer =>
      sendToHeadunit channelId (FrameType.Bulk.mask ||| EncryptionType.Encrypted.mask)
        (pushBackInt16 [] InputChannelMessageType.HandshakeRequest.code ++ buffer)

/-- `std::set::insert` -/
def insert (clientId : Int) (registered : List Int) : List Int :=
  if clientId ∈ registered then registered else registered.orderedInsert (· ≤ ·) clientId

def registerClient (clientId : Int) (handler : InputChannelHandler) : InputChannelHandler :=
  { handler with registered_clients := insert clientId handler.registered_clients }

def disconnected (clientId : Int) (handler : InputChannelHandler) : InputChannelHandler :=
  { handler with registered_clients := handler.registered_clients.filter (· ≠ clientId) }

def handleMessageFromHeadunit (write : Nat → WriteResult) (pointer : Nat)
    (base : ChannelHandler) (handler : InputChannelHandler) (message : Message) :
    ServerAct Bool := do
  if ← ChannelHandler.handleMessageFromHeadunit pointer message then
    pure true
  else
    let type ← messageType message.content
    if type = InputChannelMessageType.HandshakeResponse.code then
      writeHandler pointer (ChannelHandler.setAnswered true)
      pure true
    else if type = InputChannelMessageType.Event.code then
      handler.registered_clients.forM fun rc =>
        gotMessage write rc base.channelId false message.content
      pure true
    else
      pure false

end InputChannelHandler

namespace VideoChannelHandler

def sendSetupRequest (channelId : UInt8) : ServerAct Unit :=
  sendToHeadunit channelId (FrameType.Bulk.mask ||| EncryptionType.Encrypted.mask)
    (pushBackInt16 [] MediaMessageType.SetupRequest.code ++ [0x08, 0x03])

def sendStartIndication (channelId : UInt8) : ServerAct Unit :=
  sendToHeadunit channelId (FrameType.Bulk.mask ||| EncryptionType.Encrypted.mask)
    (pushBackInt16 [] MediaMessageType.StartIndication.code ++ [0x08, 0x00, 0x10, 0x00])

/-- What `new_sample` sends for a buffer. -/
def sendSample (channelId : UInt8) (sample : Sample) : ServerAct Unit :=
  let header :=
    if sample.pts = 0 - 1 then pushBackInt16 [] MediaMessageType.MediaIndication.code
    else pushBackInt64 (pushBackInt16 [] MediaMessageType.MediaWithTimestampIndication.code)
      (sample.pts / 1000)
  sendToHeadunit channelId (EncryptionType.Encrypted.mask ||| FrameType.Bulk.mask)
    (header ++ sample.data)

def handleMessageFromHeadunit (write : Nat → WriteResult) (pointer : Nat)
    (base : ChannelHandler) (handler : VideoChannelHandler) (message : Message) :
    ServerAct Bool := do
  if handler.channelOpened = false then
    gotMessage write (-1) message.channel (isSpecific message.flags) message.content
    pure true
  else if ← ChannelHandler.handleMessageFromHeadunit pointer message then
    pure true
  else
    let type ← messageType message.content
    if type = MediaMessageType.SetupResponse.code then
      writeHandler pointer (ChannelHandler.setAnswered true)
      pure true
    else if type = MediaMessageType.VideoFocusIndication.code then
      sendStartIndication base.channelId
      pure true
    else
      pure (decide (type = MediaMessageType.MediaAckIndication.code))

end VideoChannelHandler

/-- The virtual call of `handleMessageFromHeadunit`. -/
def handleMessageFromHeadunit (write : Nat → WriteResult) (pointer : Nat) (message : Message) :
    ServerAct Bool := do
  let base ← readHandler pointer
  match base.kind with
  | .default => DefaultChannelHandler.handleMessageFromHeadunit write message
  | .video handler =>
      VideoChannelHandler.handleMessageFromHeadunit write pointer base handler message
  | .input handler =>
      InputChannelHandler.handleMessageFromHeadunit write pointer base handler message

/-- The virtual call of `handleMessageFromClient`, up to where it opens a channel. -/
def handleMessageFromClient (pointer : Nat) (clientId : Int) (channelId : UInt8) (specific : Bool)
    (data : Bytes) : ServerAct ClientThread := do
  let base ← readHandler pointer
  match base.kind with
  | .default =>
      DefaultChannelHandler.handleMessageFromClient channelId specific data
      pure .reading
  -- Video is routed through snowmix
  | .video _ => pure .reading
  | .input _ =>
      writeHandler pointer (ChannelHandler.updateInput (.registerClient clientId))
      pure (.opening pointer .resetChannelOpen)

/-- The virtual call of `disconnected`; only the input handlers do something. -/
def ChannelHandler.disconnected (clientId : Int) : ChannelHandler → ChannelHandler :=
  ChannelHandler.updateInput (.disconnected clientId)

def ChannelHandler.sendRequest (protobuf : Protobuf) (handler : ChannelHandler) : ServerAct Unit :=
  match handler.kind with
  | .default => pure ()
  | .video _ => VideoChannelHandler.sendSetupRequest handler.channelId
  | .input input =>
      InputChannelHandler.sendHandshakeRequest protobuf handler.channelId input.available_buttons

/-- A thread that waits goes on when its flag is set. -/
def OpenStep.enabled (handler : ChannelHandler) : OpenStep → Bool
  | .awaitChannelOpen => handler.gotChannelOpenResponse
  | .awaitAnswer => handler.answered
  | _ => true

/-- One statement of opening a channel, and the next one; `none` when it is open. -/
def OpenStep.run (protobuf : Protobuf) (pointer : Nat) : OpenStep → ServerAct (Option OpenStep)
  | .resetChannelOpen => do
      writeHandler pointer fun handler => { handler with gotChannelOpenResponse := false }
      pure (some .sendChannelOpen)
  | .sendChannelOpen => do
      ChannelHandler.sendChannelOpenRequest protobuf (← readHandler pointer).channelId
      pure (some .awaitChannelOpen)
  | .awaitChannelOpen => pure (some .resetAnswer)
  | .resetAnswer => do
      writeHandler pointer (ChannelHandler.setAnswered false)
      pure (some .sendRequest)
  | .sendRequest => do
      ChannelHandler.sendRequest protobuf (← readHandler pointer)
      pure (some .awaitAnswer)
  | .awaitAnswer => pure none

end AAServer

end AACS
