import AACS.Server.Handlers

/-!
`AaCommunicator` of the server, from `handleMessageContent` on: the control
channel, the service discovery and the dispatch to the channel handlers.
-/

namespace AACS

namespace AAServer

open Effects

def sendVersionResponse (major minor : UInt16) : ServerAct Unit :=
  sendToHeadunit 0 (EncryptionType.Plain.mask ||| FrameType.Bulk.mask)
    (pushBackInt16 (pushBackInt16 (pushBackInt16 (pushBackInt16 []
      MessageType.VersionResponse.code) major) minor) 0)

/-- Four bytes are read, however many there are. -/
def handleVersionRequest (buf : Bytes) : ServerAct Unit :=
  match buf with
  | high :: low :: _ :: _ :: _ =>
      if bigEndian16 high low = 1 then sendVersionResponse 1 5
      else throw (.runtimeError "unsupported version")
  | _ => undefinedBehaviour

def sendServiceDiscoveryRequest (protobuf : Protobuf) : ServerAct Unit :=
  sendToHeadunit 0 (EncryptionType.Encrypted.mask ||| FrameType.Bulk.mask)
    (pushBackInt16 [] MessageType.ServiceDiscoveryRequest.code ++
      protobuf.serviceDiscoveryRequest "TAG" "AAServer")

def Channel.newHandler (channel : Channel) : HandlerKind :=
  if channel.media_channel = some .Video then .video {}
  else
    match channel.input_channel with
    | some available_buttons => .input { available_buttons }
    | none => .default

def HandlerKind.channelType : HandlerKind → Option ChannelType
  | .default => none
  | .video _ => some .Video
  | .input _ => some .Input

/-- What the libraries make of a message: of a part of the handshake, `SSL_accept` fails, or there
is something to answer; of a service descriptor, GStreamer cannot link the pipeline of a video
handler, that of the channel at the position, or it links them all. -/
inductive Accept where
  | failed
  | answer (bytes : Bytes)
  | unlinked (position : Nat)
  deriving DecidableEq, Repr

def Accept.links (accept : Accept) (position : Nat) : Bool :=
  accept ≠ .unlinked position

/-- One turn of the loop in `handleServiceDiscoveryResponse`. The type table, which keeps a
`uint8_t`, is written before the handler is made, and the constructor of a video handler may
throw; the handler table has no entry from 256 on. -/
def installHandler (linked : Bool) (channel : Channel) : ServerAct Unit := do
  let number := UInt8.ofNat channel.channel_id
  let kind := Channel.newHandler channel
  Act.modify fun state => { state with
    channelTypeToChannelNumber := fun channelType =>
      if kind.channelType = some channelType then number
      else state.channelTypeToChannelNumber channelType }
  if kind.channelType = some .Video ∧ linked = false then
    throw (.runtimeError "GStreamer function call failed at line 109")
  else if channel.channel_id < 256 then
    Act.modify fun state => { state with
      handlers := state.handlers ++ [{ channelId := number, kind }]
      channelHandlers := Function.update state.channelHandlers number state.handlers.length }
  else
    undefinedBehaviour

def handleServiceDiscoveryResponse (protobuf : Protobuf) (accept : Accept) (buf : Bytes) :
    ServerAct Unit := do
  Act.modify fun state => { state with serviceDescriptor := buf }
  (protobuf.serviceDiscoveryResponse_channels buf).zipIdx.forM fun entry =>
    installHandler (accept.links entry.2) entry.1

/-- A `uint8_t` is never below zero, so nothing is thrown; the table has two entries. -/
def getChannelNumberByChannelType (ct : UInt8) : ServerAct UInt8 := do
  let state ← Act.get
  if ct = 0 then pure (state.channelTypeToChannelNumber .Video)
  else if ct = 1 then pure (state.channelTypeToChannelNumber .Input)
  else undefinedBehaviour

def handleChannelMessage (write : Nat → WriteResult) (message : Message) : ServerAct Unit := do
  let messageType ← messageType message.content
  if message.channel ≠ 0 then
    match (← Act.get).channelHandlers message.channel with
    | none => undefinedBehaviour
    | some pointer =>
        if ← handleMessageFromHeadunit write pointer message then
          pure ()
        else
          throw (.aaRuntimeError ("Unknown packet on channel " ++ toString message.channel.toNat ++
            " with message type " ++ toString messageType.toNat))
  else
    gotMessage write (-1) message.channel (isSpecific message.flags) message.content

def handleSslHandshake (accept : Accept) : ServerAct Unit := do
  Act.modify fun state => { state with sslInitialized := true }
  match accept with
  | .answer bytes =>
      sendToHeadunit 0 (EncryptionType.Plain.mask ||| FrameType.Bulk.mask)
        (pushBackInt16 [] MessageType.SslHandshake.code ++ bytes)
  | _ => throw (.runtimeError "SSL_accept failed")

def handlePingRequest (protobuf : Protobuf) (buf : Bytes) : ServerAct Unit :=
  match protobuf.pingResponse (protobuf.pingRequest_timestamp buf) with
  | none => throw (.aaRuntimeError "presp.SerializeToArray failed")
  | some buffer =>
      sendToHeadunit 0 (EncryptionType.Encrypted.mask ||| FrameType.Bulk.mask)
        (pushBackInt16 [] MessageType.PingResponse.code ++ buffer)

/-- The messages on channel 0 that go to the clients. -/
def isFocusResponse (messageType : UInt16) : Bool :=
  messageType = MessageType.AudioFocusResponse.code ∨
    messageType = MessageType.NavigationFocusResponse.code

def handleMessageContent (protobuf : Protobuf) (accept : Accept) (write : Nat → WriteResult)
    (message : Message) : ServerAct Unit := do
  let messageType ← messageType message.content
  let buf := message.content.drop 2
  if message.channel ≠ 0 then handleChannelMessage write message
  else if isFocusResponse messageType then handleChannelMessage write message
  else if messageType = MessageType.VersionRequest.code then handleVersionRequest buf
  else if messageType = MessageType.SslHandshake.code then handleSslHandshake accept
  else if messageType = MessageType.AuthComplete.code then sendServiceDiscoveryRequest protobuf
  else if messageType = MessageType.ServiceDiscoveryResponse.code then
    handleServiceDiscoveryResponse protobuf accept buf
  else if messageType = MessageType.PingRequest.code then handlePingRequest protobuf buf
  else throw (.runtimeError ("Unhandled message type: " ++ toString messageType.toNat))

def sendToChannel (clientId : Int) (channelNumber : UInt8) (specific : Bool) (data : Bytes) :
    ServerAct ClientThread := do
  match (← Act.get).channelHandlers channelNumber with
  | none => throw (.runtimeError ("No handler for channel " ++ toString channelNumber.toNat))
  | some pointer => handleMessageFromClient pointer clientId channelNumber specific data

def State.isInstalled (state : State) (pointer : Nat) : Bool :=
  (List.range 256).any fun channel =>
    state.channelHandlers (UInt8.ofNat channel) = some pointer

/-- Each handler in the table is told; telling one twice makes no difference. -/
def disconnected (clientId : Int) : ServerAct Unit :=
  Act.modify fun state => { state with
    handlers := state.handlers.mapIdx fun pointer handler =>
      if state.isInstalled pointer then handler.disconnected clientId else handler }

end AAServer

end AACS
