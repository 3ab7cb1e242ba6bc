import AACS.Library.Effects
import AACS.Protocol.Exceptions
import AACS.Protocol.Protobuf

/-!
`AAClient` behind `getMessage`: the dispatch in `setup`, the channel handlers, and the
two ways to the server.

Messages of the phone are answered, or forwarded as packets through the slot of
`channelMessage`; packets of the server become messages for the phone through
`sendMessagePublic`.
-/

namespace AACS

namespace AAClient

open Effects

/-- `startTimestamp` of a `VideoChannelHandler`, and whether its pipeline has been made. -/
structure VideoChannelHandler where
  startTimestamp : UInt64 := 0
  app_source : Bool := false
  deriving DecidableEq, Repr

inductive HandlerKind where
  | default
  | video (handler : VideoChannelHandler)
  | input
  deriving DecidableEq, Repr

structure ChannelHandler where
  channelId : UInt8
  kind : HandlerKind
  deriving DecidableEq, Repr

/-- The table has 255 entries, which the constructor leaves uninitialised but for the
first one; `none` is an entry that nothing has been written to, or that does not exist. -/
structure State where
  serviceDescription : Bytes
  channelHandlers : UInt8 → Option ChannelHandler

def initial (sd : Bytes) : State where
  serviceDescription := sd
  channelHandlers := Function.update (fun _ => none) 0 (some { channelId := 0, kind := .default })

/-- What leaves the client: a message put into the send queue, a packet written to the
server, or a buffer offered to a pipeline, with its timestamp if it has got one. -/
inductive Output where
  | enqueue (channel flags : UInt8) (content : Bytes)
  | packet (bytes : Bytes)
  | pushed (timestamp : Option UInt64) (data : Bytes)
  deriving DecidableEq, Repr

abbrev ClientAct := Act State Output Fault

/-- How the outside answers: the `write` of a packet to the server, where `EAGAIN` and
`EINTR` are tried again, and the pipeline of a video handler. -/
structure Outside where
  write : Except Thrown Unit := .ok ()
  createAppSource : Except Thrown Unit := .ok ()
  pushBuffer : Except Thrown Unit := .ok ()

def Outside.call (answer : Except Thrown Unit) : ClientAct Unit :=
  match answer with
  | .ok () => pure ()
  | .error exception => Act.throw (.thrown exception)

def undefinedBehaviour {α : Type} : ClientAct α := Act.throw .undefinedBehaviour

/-- `sendMessage` of the communicator, which every `sendToMobile` is connected to. -/
def sendToMobile (channel flags : UInt8) (data : Bytes) : ClientAct Unit :=
  Act.emit (.enqueue channel flags data)

/-- The slot that `channelMessage` is connected to. -/
def channelMessage (outside : Outside) (channel : UInt8) (specific : Bool) (msg : Bytes) :
    ClientAct Unit := do
  Outside.call outside.write
  Act.emit (.packet (0x01 :: channel :: (if specific then 0xff else 0x00) :: msg))

def messageType : Bytes → ClientAct UInt16
  | high :: low :: _ => pure (bigEndian16 high low)
  | _ => undefinedBehaviour

def encryptedBulk : UInt8 := EncryptionType.Encrypted.mask ||| FrameType.Bulk.mask

/-- `handleMessageFromServer`, which is the same for all kinds of handlers. -/
def ChannelHandler.handleMessageFromServer (channelId : UInt8) (specific : Bool) (data : Bytes) :
    ClientAct Unit :=
  sendToMobile channelId
    (if specific then encryptedBulk ||| MessageTypeFlags.Specific.mask else encryptedBulk) data

/-- `sendChannelOpenResponse`, which the input and the video handlers share. -/
def sendChannelOpenResponse (channelId : UInt8) : ClientAct Unit :=
  sendToMobile channelId (encryptedBulk ||| MessageTypeFlags.Specific.mask)
    (pushBackInt16 [] MessageType.ChannelOpenResponse.code ++ [0x08, 0x00])

namespace DefaultChannelHandler

def handleMessageFromMobile (outside : Outside) (channelId flags : UInt8) (data : Bytes) :
    ClientAct Unit :=
  channelMessage outside channelId (isSpecific flags) data

end DefaultChannelHandler

namespace InputChannelHandler

def sendHandshakeResponse (channelId : UInt8) : ClientAct Unit :=
  sendToMobile channelId (encryptedBulk ||| MessageTypeFlags.Control.mask)
    (pushBackInt16 [] InputChannelMessageType.HandshakeResponse.code ++ [0x08, 0x00])

def handleMessageFromMobile (outside : Outside) (handler : ChannelHandler) (channelId : UInt8)
    (data : Bytes) : ClientAct Unit := do
  let msgType ← messageType data
  if msgType = MessageType.ChannelOpenRequest.code then
    sendChannelOpenResponse handler.channelId
    channelMessage outside channelId false []
  else if msgType = InputChannelMessageType.HandshakeRequest.code then
    sendHandshakeResponse handler.channelId
  else
    pure ()

end InputChannelHandler

namespace VideoChannelHandler

def sendSetupResponse (protobuf : Protobuf) (channelId : UInt8) : ClientAct Unit :=
  sendToMobile channelId encryptedBulk
    (pushBackInt16 [] MediaMessageType.SetupResponse.code ++
      protobuf.mediaChannelSetupResponse 2 1 0)

def sendVideoFocusIndication (channelId : UInt8) : ClientAct Unit :=
  sendToMobile channelId encryptedBulk
    (pushBackInt16 [] MediaMessageType.VideoFocusIndication.code ++ [0x08, 0x01, 0x10, 0x00])

def sendAck (channelId : UInt8) : ClientAct Unit :=
  sendToMobile channelId encryptedBulk
    (pushBackInt16 [] MediaMessageType.MediaAckIndication.code ++ [0x08, 0x00, 0x10, 0x01])

/-- `GST_BUFFER_TIMESTAMP` of a new buffer; only a time other than zero is written there. -/
def bufferTimestamp (ts : UInt64) : Option UInt64 := if ts ≠ 0 then some ts else none

/-- Without a pipeline the pointer to it is not initialised. -/
def pushDataToPipeline (outside : Outside) (handler : VideoChannelHandler) (ts : UInt64)
    (data : Bytes) : ClientAct Unit :=
  if handler.app_source then do
    Act.emit (.pushed (bufferTimestamp ts) data)
    Outside.call outside.pushBuffer
  else
    undefinedBehaviour

/-- `bytesToUInt64(data, 2)`; the length is unsigned, and it is at least two. -/
def timestampOf (data : Bytes) : ClientAct UInt64 :=
  if data.length - 2 < 8 then
    Act.throw (.thrown (.runtimeError "bytesToUInt64: vector too small"))
  else
    pure (UInt64.ofNat (BigEndian.decode ((data.drop 2).take 8)))

def setHandler (channel : UInt8) (channelId : UInt8) (handler : VideoChannelHandler) :
    ClientAct Unit :=
  Act.modify fun state => { state with
    channelHandlers := Function.update state.channelHandlers channel
      (some { channelId, kind := .video handler }) }

def handleMessageFromMobile (protobuf : Protobuf) (outside : Outside) (channel : UInt8)
    (channelId : UInt8) (handler : VideoChannelHandler) (data : Bytes) : ClientAct Unit := do
  let msgType ← messageType data
  if msgType = MessageType.ChannelOpenRequest.code then
    sendChannelOpenResponse channelId
  else if msgType = MediaMessageType.SetupRequest.code then
    sendSetupResponse protobuf channelId
    sendVideoFocusIndication channelId
  else if msgType = MediaMessageType.StartIndication.code then
    pure ()
  else if msgType = MediaMessageType.MediaIndication.code then
    let handler := { handler with app_source := true }
    setHandler channel channelId handler
    Outside.call outside.createAppSource
    pushDataToPipeline outside handler 0 (data.drop 2)
    sendAck channelId
  else if msgType = MediaMessageType.MediaWithTimestampIndication.code then
    let ts ← timestampOf data
    let handler := if handler.startTimestamp = 0 then
      { handler with startTimestamp := ts - 100000 } else handler
    setHandler channel channelId handler
    pushDataToPipeline outside handler ((ts - handler.startTimestamp) * 1000) (data.drop 10)
    sendAck channelId
  else
    pure ()

end VideoChannelHandler

def newHandler (channel : Channel) : HandlerKind :=
  if channel.media_channel = some .Video then .video {}
  else if channel.input_channel.isSome then .input
  else .default

/-- One turn of the loop in `handleServiceDiscoveryRequest`; the table ends at 254. -/
def installHandler (channel : Channel) : ClientAct Unit :=
  if channel.channel_id < 255 then
    let number := UInt8.ofNat channel.channel_id
    Act.modify fun state => { state with
      channelHandlers := Function.update state.channelHandlers number
        (some { channelId := number, kind := newHandler channel }) }
  else
    undefinedBehaviour

def handleServiceDiscoveryRequest (protobuf : Protobuf) : ClientAct Unit := do
  let state ← Act.get
  (protobuf.serviceDiscoveryResponse_channels state.serviceDescription).forM installHandler
  sendToMobile 0 (encryptedBulk ||| MessageTypeFlags.Control.mask)
    (pushBackInt16 [] MessageType.ServiceDiscoveryResponse.code ++ state.serviceDescription)

def handleChannelMessage (protobuf : Protobuf) (outside : Outside) (msg : Message) :
    ClientAct Unit := do
  match (← Act.get).channelHandlers msg.channel with
  | none => undefinedBehaviour
  | some handler =>
      match handler.kind with
      | .default =>
          DefaultChannelHandler.handleMessageFromMobile outside msg.channel msg.flags msg.content
      | .input =>
          InputChannelHandler.handleMessageFromMobile outside handler msg.channel msg.content
      | .video video =>
          VideoChannelHandler.handleMessageFromMobile protobuf outside msg.channel
            handler.channelId video msg.content

def forwardChannelMessage (outside : Outside) (msg : Message) : ClientAct Unit :=
  channelMessage outside msg.channel (isSpecific msg.flags) msg.content

def forwardedMessageTypes : List UInt16 :=
  [MessageType.AudioFocusRequest.code, MessageType.NavigationFocusRequest.code,
    MessageType.VoiceSessionRequest.code]

def hexStr (data : Bytes) : String :=
  String.join (data.map fun byte =>
    (if byte < 16 then "0" else "") ++ String.ofList (Nat.toDigits 16 byte.toNat) ++ " ")

/-- What the loop of `setup` does with a message; the type is looked at first. -/
def dispatch (protobuf : Protobuf) (outside : Outside) (msg : Message) : ClientAct Unit := do
  let msgType ← messageType msg.content
  if msgType = MessageType.ServiceDiscoveryRequest.code then
    handleServiceDiscoveryRequest protobuf
  else if msg.channel ≠ 0 then
    handleChannelMessage protobuf outside msg
  else if msgType ∈ forwardedMessageTypes then
    forwardChannelMessage outside msg
  else
    Act.throw (.thrown (.runtimeError ("unexpected message: " ++ toString msg.channel.toNat ++
      " " ++ toString msg.flags.toNat ++ " " ++ hexStr msg.content)))

def sendMessagePublic (channel : UInt8) (specific : Bool) (buf : Bytes) : ClientAct Unit := do
  match (← Act.get).channelHandlers channel with
  | none => undefinedBehaviour
  | some _ => ChannelHandler.handleMessageFromServer channel specific buf

/-- The buffer of the thread that reads from the server; a longer packet is cut off. -/
def readerBufSize : Nat := 100 * 1024

/-- One packet in the reader thread of `main`. A packet of one byte makes the range for the
content end before it begins. -/
def readerThread (packet : Bytes) : ClientAct Unit :=
  match packet.take readerBufSize with
  | [] => pure ()
  | [_] => Act.throw
      (.thrown (.lengthError "cannot create std::vector larger than max_size()"))
  | channel :: specific :: buf => sendMessagePublic channel (specific != 0) buf

end AAClient

end AACS
