import AACS.Protocol.Message

/-!
The protobuf messages, as far as the two programs look at them.

The classes are generated from the `.proto` files when the programs are built, so
their parsers and serializers are parameters.
-/

namespace AACS

inductive MediaStreamType where
  | None
  | Audio
  | Video
  deriving DecidableEq, Repr

/-- `channel_id` is a `uint32`; of a media channel the media type is read, of an
input channel the available buttons. -/
structure Channel where
  channel_id : Nat
  media_channel : Option MediaStreamType := none
  input_channel : Option (List Int) := none
  deriving DecidableEq, Repr

def Channel.number (channel : Channel) : UInt8 := UInt8.ofNat channel.channel_id

theorem Channel.number_eq_iff (channel : Channel) (small : channel.channel_id < 256)
    {number : UInt8} : channel.number = number ↔ channel.channel_id = number.toNat := by
  rw [Channel.number, ← UInt8.toNat_inj, UInt8.toNat_ofNat', Nat.mod_eq_of_lt small]

/-- The result of `ParseFromArray` is ignored everywhere, so a parser returns what it
has understood. `none` stands for a `SerializeToArray` that fails. -/
structure Protobuf where
  serviceDiscoveryRequest (manufacturer model : String) : Bytes
  serviceDiscoveryResponse_channels (buf : Bytes) : List Channel
  pingRequest_timestamp (buf : Bytes) : Int
  pingResponse (timestamp : Int) : Option Bytes
  channelOpenRequest (channel_id unknown_field : Int) : Bytes
  inputChannelHandshakeRequest (available_buttons : List Int) : Option Bytes
  mediaChannelSetupResponse (unknown_field_1 unknown_field_2 unknown_field_3 : Int) : Bytes

namespace Protobuf

/-! The wire format where every number and every length takes one byte. -/

def smallString (tag : UInt8) (text : String) : Bytes :=
  tag :: UInt8.ofNat text.toUTF8.size :: text.toUTF8.toList

def smallNumber (tag : UInt8) (number : Int) : Bytes := [tag, UInt8.ofNat number.toNat]

def smallChannels : Bytes → List Channel
  | 0x0a :: 0x06 :: 0x08 :: id :: 0x1a :: 0x02 :: 0x08 :: 0x03 :: rest =>
      { channel_id := id.toNat, media_channel := some .Video } :: smallChannels rest
  | 0x0a :: 0x04 :: 0x08 :: id :: 0x22 :: 0x00 :: rest =>
      { channel_id := id.toNat, input_channel := some [] } :: smallChannels rest
  | 0x0a :: 0x04 :: 0x08 :: id :: 0x12 :: 0x00 :: rest =>
      { channel_id := id.toNat } :: smallChannels rest
  | _ => []

def small : Protobuf where
  serviceDiscoveryRequest manufacturer model :=
    smallString 0x22 model ++ smallString 0x2a manufacturer
  serviceDiscoveryResponse_channels := smallChannels
  pingRequest_timestamp buf := (buf.getD 1 0).toNat
  pingResponse timestamp := some (smallNumber 0x08 timestamp)
  channelOpenRequest channel_id unknown_field :=
    smallNumber 0x08 unknown_field ++ smallNumber 0x10 channel_id
  inputChannelHandshakeRequest available_buttons :=
    some (available_buttons.flatMap (smallNumber 0x08))
  mediaChannelSetupResponse unknown_field_1 unknown_field_2 unknown_field_3 :=
    smallNumber 0x08 unknown_field_1 ++ smallNumber 0x10 unknown_field_2 ++
      smallNumber 0x18 unknown_field_3

end Protobuf

end AACS
