import AACS.Client.Dispatch
import AACS.Server.Tables
import AACS.Server.Replies

/-!
The way of a message from the phone to the head unit.

`AAClient` makes a packet of raw data of it, and the thread that reads for the client
in `AAServer` makes a message for the head unit of the packet.
-/

namespace AACS

open Effects Transitions

def Message.hasType (msg : Message) (type : UInt16) : Prop :=
  ∃ high low rest, msg.content = high :: low :: rest ∧ bigEndian16 high low = type

def Message.rawData (msg : Message) : Bytes :=
  0x01 :: msg.channel :: (if isSpecific msg.flags then 0xff else 0x00) :: msg.content

namespace AAClient

structure Forwarded (client : State) (msg : Message) : Prop where
  typed : 2 ≤ msg.content.length
  ordinary : msg.channel ≠ 0 → ∃ handler, client.channelHandlers msg.channel = some handler ∧
    handler.kind = .default
  control : msg.channel = 0 → ∃ type ∈ forwardedMessageTypes, msg.hasType type

section Forwarding

variable {protobuf : Protobuf} {outside : Outside} {client : State} {msg : Message}

theorem channelMessage_run (sends : outside.write = .ok ()) (client : State) (channel : UInt8)
    (specific : Bool) (msg : Bytes) :
    (channelMessage outside channel specific msg).run client =
      ⟨.ok (), client,
        [.packet (0x01 :: channel :: (if specific then 0xff else 0x00) :: msg)]⟩ := by
  simp [channelMessage, sends, Outside.call]

theorem dispatch_forwards (sends : outside.write = .ok ()) (forwarded : Forwarded client msg)
    (other : msg.channel ≠ 0 → ¬ msg.hasType MessageType.ServiceDiscoveryRequest.code) :
    (dispatch protobuf outside msg).run client = ⟨.ok (), client, [.packet msg.rawData]⟩ := by
  obtain ⟨typed, ordinary, control⟩ := forwarded
  rcases content : msg.content with _ | ⟨high, _ | ⟨low, rest⟩⟩
  · simp [content] at typed
  · simp [content] at typed
  have typeRun : (messageType msg.content).run client =
      ⟨.ok (bigEndian16 high low), client, []⟩ := by
    rw [content]
    rfl
  have sent := channelMessage_run sends client msg.channel (isSpecific msg.flags) msg.content
  simp only [dispatch, Act.run_bind, typeRun, Act.andThen_ok, List.nil_append]
  by_cases channel : msg.channel = 0
  · obtain ⟨type, member, first, second, tail, same, rfl⟩ := control channel
    rw [content] at same
    cases same
    have notDiscovery : bigEndian16 high low ≠ MessageType.ServiceDiscoveryRequest.code := by
      intro equal
      rw [equal] at member
      revert member
      decide
    rw [if_neg notDiscovery, if_neg (by simpa using channel), if_pos member]
    exact sent
  · obtain ⟨handler, installed, kind⟩ := ordinary channel
    have notDiscovery : bigEndian16 high low ≠ MessageType.ServiceDiscoveryRequest.code :=
      fun equal => other channel ⟨high, low, rest, content, equal⟩
    rw [if_neg notDiscovery, if_pos channel]
    simp only [handleChannelMessage, Act.run_bind, Act.run_get, Act.andThen_ok, installed, kind,
      DefaultChannelHandler.handleMessageFromMobile, sent, List.nil_append]
    rfl

/-- A message that looks like a ServiceDiscoveryRequest is answered, or the program ends. -/
theorem dispatch_discovers
    (type : msg.hasType MessageType.ServiceDiscoveryRequest.code)
    (ends : ((dispatch protobuf outside msg).run client).result = .ok ()) :
    ∃ flags content, .enqueue 0 flags content ∈
      ((dispatch protobuf outside msg).run client).log := by
  obtain ⟨high, low, rest, content, type⟩ := type
  have discovery : (dispatch protobuf outside msg).run client =
      (handleServiceDiscoveryRequest protobuf).run client := by
    simp only [dispatch, content, messageType, Act.run_bind, Act.run_pure, Act.andThen_ok, type,
      if_true, List.nil_append]
  rw [discovery] at ends ⊢
  simp only [handleServiceDiscoveryRequest, Act.run_bind, Act.run_get, Act.andThen_ok,
    List.nil_append] at ends ⊢
  rcases installs : ((protobuf.serviceDiscoveryResponse_channels
    client.serviceDescription).forM installHandler).run client with ⟨thrown | ⟨⟨⟩⟩, after, log⟩
  · rw [installs] at ends
    cases ends
  · exact ⟨encryptedBulk ||| MessageTypeFlags.Control.mask,
      pushBackInt16 [] MessageType.ServiceDiscoveryResponse.code ++ client.serviceDescription,
      List.mem_append_right _ (List.mem_singleton.mpr rfl)⟩

end Forwarding

end AAClient

namespace AAServer

def State.IsDefault (state : State) (channel : UInt8) : Prop :=
  ∃ handler, state.handlerAt channel = some handler ∧ handler.kind = .default

def Event.reading (scl : Nat) : Event → Option Reading
  | .read other reading _ => if other = scl then some reading else none
  | _ => none

def readings (scl : Nat) (events : List Event) : List Reading :=
  events.filterMap (Event.reading scl)

def causedBy (scl : Nat) (trace : List (Event × List Output)) : List Output :=
  trace.flatMap fun turn => if turn.1.actor = some scl then turn.2 else []

/-- The message for the head unit that a message of the phone becomes. -/
def enqueued (msg : Message) : Output :=
  .enqueue msg.channel
    (if isSpecific msg.flags
      then EncryptionType.Encrypted.mask ||| FrameType.Bulk.mask ||| MessageTypeFlags.Specific.mask
      else EncryptionType.Encrypted.mask ||| FrameType.Bulk.mask) msg.content

section Passing

variable {protobuf : Protobuf} {state next : State} {scl : Nat} {client : SocketClient}
  {msg : Message} {outputs : List Output}

theorem State.SameTable.isDefault (same : state.SameTable next) {channel : UInt8}
    (isDefault : state.IsDefault channel) : next.IsDefault channel := by
  obtain ⟨handler, found, kind⟩ := isDefault
  obtain ⟨pointer, installed, present⟩ := Option.bind_eq_some_iff.mp found
  obtain ⟨later, presentToo, shape⟩ := same.handler present
  refine ⟨later, ?_, ?_⟩
  · rw [State.handlerAt, same.channelHandlers, installed]
    exact presentToo
  · have sameType : later.kind.channelType = handler.kind.channelType := congrArg Prod.snd shape
    rw [kind] at sameType
    cases laterKind : later.kind with
    | default => rfl
    | video video => simp [laterKind, HandlerKind.channelType] at sameType
    | input input => simp [laterKind, HandlerKind.channelType] at sameType

theorem packet_rawData (client : SocketClient) (short : msg.content.length ≤ clientBufSize - 3) :
    client.packet (.data msg.rawData) = {
      packetType := PacketType.RawData.code
      channelNumber := msg.channel
      specific := if isSpecific msg.flags then 0xff else 0x00
      data := msg.content } := by
  rw [Message.rawData, packet_data, List.take_of_length_le short]
  rfl

theorem passes_rawData {p : Packet} {pointer : Nat} {handler : ChannelHandler} {clientId : Int}
    (write : Nat → WriteResult) (known : state.clients.lookup scl = some clientId)
    (packet : p = {
      packetType := PacketType.RawData.code
      channelNumber := msg.channel
      specific := if isSpecific msg.flags then 0xff else 0x00
      data := msg.content })
    (installed : state.channelHandlers msg.channel = some pointer)
    (present : state.handlers[pointer]? = some handler) (kind : handler.kind = .default) :
    (gotPacket write scl p).run state = ⟨.ok .reading, state, [enqueued msg]⟩ := by
  subst packet
  rw [gotPacket_rawData write known rfl, installed]
  simp only [present, Option.map_some, kind]
  unfold enqueued
  cases isSpecific msg.flags <;> rfl

theorem step_rawData (protobuf : Protobuf) (write : Nat → WriteResult) (wired : state.Wired)
    (present : state.sockets scl = some client) (ready : client.thread = .reading)
    (short : msg.content.length ≤ clientBufSize - 3) (isDefault : state.IsDefault msg.channel) :
    (machine protobuf).step state (.read scl (.data msg.rawData) write) =
      some ((state.buffered scl client (.data msg.rawData)).withThread scl .reading,
        [enqueued msg]) := by
  obtain ⟨clientId, known⟩ := wired.known present (by simp [ready])
  obtain ⟨handler, found, kind⟩ := isDefault
  obtain ⟨pointer, installed, pointed⟩ := Option.bind_eq_some_iff.mp found
  have outcome := passes_rawData write
    (show (state.buffered scl client (.data msg.rawData)).clients.lookup scl = some clientId
      from known) (packet_rawData client short) installed pointed kind
  rw [step_read_packet protobuf write present ready (by simp [Message.rawData])]
  exact finishClient_ok outcome

end Passing

end AAServer

end AACS
