import AACS.Library.BigEndian
import Mathlib.Data.FinEnum

/-!
The vocabulary shared by both programs: the flag bits of a frame, the message
types and the queued message.
-/

namespace AACS

abbrev Bytes := List UInt8

inductive EncryptionType where
  | Plain
  | Encrypted
  deriving DecidableEq, Repr

def EncryptionType.mask : EncryptionType → UInt8
  | .Plain => 0
  | .Encrypted => 8

inductive FrameType where
  | First
  | Last
  | Bulk
  deriving DecidableEq, Repr

def FrameType.mask : FrameType → UInt8
  | .First => 1
  | .Last => 2
  | .Bulk => 3

inductive MessageTypeFlags where
  | Control
  | Specific
  deriving DecidableEq, Repr

def MessageTypeFlags.mask : MessageTypeFlags → UInt8
  | .Control => 0
  | .Specific => 4

inductive MessageType where
  | VersionRequest
  | VersionResponse
  | SslHandshake
  | AuthComplete
  | ServiceDiscoveryRequest
  | ServiceDiscoveryResponse
  | ChannelOpenRequest
  | ChannelOpenResponse
  | PingRequest
  | PingResponse
  | NavigationFocusRequest
  | NavigationFocusResponse
  | VoiceSessionRequest
  | AudioFocusRequest
  | AudioFocusResponse
  deriving DecidableEq, Repr

def MessageType.code : MessageType → UInt16
  | .VersionRequest => 1
  | .VersionResponse => 2
  | .SslHandshake => 3
  | .AuthComplete => 4
  | .ServiceDiscoveryRequest => 5
  | .ServiceDiscoveryResponse => 6
  | .ChannelOpenRequest => 7
  | .ChannelOpenResponse => 8
  | .PingRequest => 0xb
  | .PingResponse => 0xc
  | .NavigationFocusRequest => 0x0d
  | .NavigationFocusResponse => 0x0e
  | .VoiceSessionRequest => 0x11
  | .AudioFocusRequest => 0x12
  | .AudioFocusResponse => 0x13

inductive MediaMessageType where
  | MediaWithTimestampIndication
  | MediaIndication
  | SetupRequest
  | StartIndication
  | SetupResponse
  | MediaAckIndication
  | VideoFocusIndication
  deriving DecidableEq, Repr

def MediaMessageType.code : MediaMessageType → UInt16
  | .MediaWithTimestampIndication => 0x0000
  | .MediaIndication => 0x0001
  | .SetupRequest => 0x8000
  | .StartIndication => 0x8001
  | .SetupResponse => 0x8003
  | .MediaAckIndication => 0x8004
  | .VideoFocusIndication => 0x8008

inductive InputChannelMessageType where
  | None
  | Event
  | HandshakeRequest
  | HandshakeResponse
  deriving DecidableEq, Repr

def InputChannelMessageType.code : InputChannelMessageType → UInt16
  | .None => 0
  | .Event => 0x8001
  | .HandshakeRequest => 0x8002
  | .HandshakeResponse => 0x8003

/-- A message in a send queue or handed on by a receiver. `offset` counts the
content bytes that earlier frames have already taken. -/
structure Message where
  channel : UInt8
  flags : UInt8
  content : Bytes
  offset : Nat := 0
  deriving DecidableEq, Repr

/-- A stack array that bytes are read into; what has not been written yet is there
to be read all the same. -/
abbrev Buffer := Nat → UInt8

def Buffer.overwrite (buffer : Buffer) (bytes : Bytes) : Buffer :=
  fun index => bytes.getD index (buffer index)

def frameBits (flags : UInt8) : UInt8 := flags &&& FrameType.Bulk.mask

/-- The bits of a flags byte that fragmentation leaves alone. -/
def otherBits (flags : UInt8) : UInt8 := flags &&& ~~~FrameType.Bulk.mask

def isEncrypted (flags : UInt8) : Bool := flags &&& EncryptionType.Encrypted.mask != 0

def isSpecific (flags : UInt8) : Bool := flags &&& MessageTypeFlags.Specific.mask != 0

/-- `be16_to_cpu` of the first two bytes of a content. -/
def bigEndian16 (high low : UInt8) : UInt16 := high.toUInt16 <<< 8 ||| low.toUInt16

def pushBackInt16 (vec : Bytes) (num : UInt16) : Bytes :=
  vec ++ [((num >>> 8) &&& 0xff).toUInt8, ((num >>> 0) &&& 0xff).toUInt8]

def pushBackInt64 (vec : Bytes) (num : UInt64) : Bytes := vec ++ BigEndian.encode 8 num.toNat

section FlagBits

/-! The frame bits and the other bits of a flags byte are independent. -/

theorem or_and_mask (flags other mask : UInt8) :
    (flags ||| other) &&& mask = flags &&& mask ||| other &&& mask :=
  UInt8.toBitVec_inj.mp BitVec.and_or_distrib_right

theorem frameBits_or (flags other : UInt8) :
    frameBits (flags ||| other) = frameBits flags ||| frameBits other :=
  or_and_mask flags other FrameType.Bulk.mask

theorem otherBits_or (flags other : UInt8) :
    otherBits (flags ||| other) = otherBits flags ||| otherBits other :=
  or_and_mask flags other (~~~FrameType.Bulk.mask)

theorem otherBits_or_frameBits (flags : UInt8) : otherBits flags ||| frameBits flags = flags := by
  have every : ~~~FrameType.Bulk.mask ||| FrameType.Bulk.mask = -1 := UInt8.not_or_self
  have joined : otherBits flags ||| frameBits flags =
      flags &&& (~~~FrameType.Bulk.mask ||| FrameType.Bulk.mask) :=
    UInt8.toBitVec_inj.mp BitVec.and_or_distrib_left.symm
  rw [joined, every, UInt8.and_neg_one]

theorem frameBits_mask (frameType : FrameType) : frameBits frameType.mask = frameType.mask := by
  cases frameType <;> rfl

theorem otherBits_mask (frameType : FrameType) : otherBits frameType.mask = 0 := by
  cases frameType <;> rfl

@[simp] theorem frameBits_otherBits (flags : UInt8) : frameBits (otherBits flags) = 0 := by
  rw [frameBits, otherBits, UInt8.and_assoc, UInt8.not_and_self, UInt8.and_zero]

theorem otherBits_otherBits (flags : UInt8) : otherBits (otherBits flags) = otherBits flags := by
  rw [otherBits, otherBits, UInt8.and_assoc, UInt8.and_self]

theorem frameBits_or_mask (flags : UInt8) (frameType : FrameType) :
    frameBits (otherBits flags ||| frameType.mask) = frameType.mask := by
  rw [frameBits_or, frameBits_otherBits, frameBits_mask, UInt8.zero_or]

theorem frameBits_first (flags : UInt8) :
    frameBits (otherBits flags ||| FrameType.First.mask) = FrameType.First.mask :=
  frameBits_or_mask flags .First

theorem frameBits_last (flags : UInt8) :
    frameBits (otherBits flags ||| FrameType.Last.mask) = FrameType.Last.mask :=
  frameBits_or_mask flags .Last

@[simp] theorem otherBits_or_mask (flags : UInt8) (frameType : FrameType) :
    otherBits (otherBits flags ||| frameType.mask) = otherBits flags := by
  rw [otherBits_or, otherBits_otherBits, otherBits_mask, UInt8.or_zero]

theorem otherBits_of_frameBits {flags : UInt8} (cleared : frameBits flags = 0) :
    otherBits flags = flags := by
  have parts := otherBits_or_frameBits flags
  rwa [cleared, UInt8.or_zero] at parts

theorem otherBits_or_bulk (flags : UInt8) :
    otherBits flags ||| FrameType.Bulk.mask = flags ||| FrameType.Bulk.mask := by
  have covered : frameBits flags ||| FrameType.Bulk.mask = FrameType.Bulk.mask := by
    apply UInt8.toBitVec_inj.mp
    ext index inside
    simp [frameBits]
  have parts := otherBits_or_frameBits flags
  calc otherBits flags ||| FrameType.Bulk.mask
      = otherBits flags ||| (frameBits flags ||| FrameType.Bulk.mask) := by rw [covered]
    _ = flags ||| FrameType.Bulk.mask := by rw [← UInt8.or_assoc, parts]

theorem or_bulk_eq_self {flags : UInt8} (bulk : frameBits flags = FrameType.Bulk.mask) :
    flags ||| FrameType.Bulk.mask = flags := by
  rw [← otherBits_or_bulk, ← bulk, otherBits_or_frameBits]

theorem or_mask_or_bulk (flags : UInt8) (frameType : FrameType) :
    (flags ||| frameType.mask) ||| FrameType.Bulk.mask = flags ||| FrameType.Bulk.mask := by
  have covered : frameType.mask ||| FrameType.Bulk.mask = FrameType.Bulk.mask := by
    cases frameType <;> rfl
  rw [UInt8.or_assoc, covered]

@[simp] theorem isEncrypted_otherBits (flags : UInt8) :
    isEncrypted (otherBits flags) = isEncrypted flags := by
  have apart : ~~~FrameType.Bulk.mask &&& EncryptionType.Encrypted.mask =
      EncryptionType.Encrypted.mask := rfl
  rw [isEncrypted, otherBits, UInt8.and_assoc, apart, isEncrypted]

@[simp] theorem isEncrypted_or_mask (flags : UInt8) (frameType : FrameType) :
    isEncrypted (flags ||| frameType.mask) = isEncrypted flags := by
  have apart : frameType.mask &&& EncryptionType.Encrypted.mask = 0 := by
    cases frameType <;> rfl
  rw [isEncrypted, or_and_mask, apart, UInt8.or_zero, isEncrypted]

end FlagBits

theorem pushBackInt16_eq (vec : Bytes) (number : Nat) :
    pushBackInt16 vec (UInt16.ofNat number) = vec ++ BigEndian.encode 2 number := by
  have mask (value : Nat) : value &&& 255 = value % 256 :=
    Nat.and_two_pow_sub_one_eq_mod value 8
  have high : ((UInt16.ofNat number >>> 8) &&& 0xff).toUInt8 = UInt8.ofNat (number >>> 8) := by
    apply UInt8.toNat_inj.mp
    simp [Nat.shiftRight_eq_div_pow, mask]
    omega
  have low : ((UInt16.ofNat number >>> 0) &&& 0xff).toUInt8 = UInt8.ofNat number := by
    apply UInt8.toNat_inj.mp
    simp [-UInt16.toUInt8_and, mask]
  simp only [pushBackInt16, BigEndian.encode, high, low, Nat.mul_one, Nat.mul_zero,
    Nat.shiftRight_zero]

end AACS
