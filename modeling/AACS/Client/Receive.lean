import AACS.Protocol.Exceptions
import AACS.Protocol.Fragment

/-!
`AAClient::getMessage`, which reassembles a message from USB transfers.

Its buffer is read where a short transfer has not written, so the bytes left over
from earlier passes, and from the stack before the first, are part of the state.
-/

namespace AACS

open RecordLayer

/-- What a bulk transfer from the phone meets: data on the wire, or a fault that
delivers nothing. -/
inductive Transfer where
  | completed (bytes : Bytes)
  | failed (result : Int)
  deriving DecidableEq, Repr

/-- The four bytes of an `int`, as two's complement. -/
def toInt32 (bits : Nat) : Int := (BitVec.ofNat 32 bits).toInt

/-- An `int` compared with a `size_t` is converted to one. -/
def asSizeT (value : Int) : Nat := (BitVec.ofInt 64 value).toNat

namespace AAClient

def bufSize : Nat := 100000

/-- `LIBUSB_ERROR_OVERFLOW`: the device sent more than the buffer holds. -/
def libusbErrorOverflow : Int := -8

/-- The result code of `libusb_bulk_transfer` and the bytes it has transferred. -/
def bulkTransfer : Transfer → Int × Bytes
  | .completed bytes => if bytes.length ≤ bufSize then (0, bytes) else (libusbErrorOverflow, [])
  | .failed result => (result, [])

variable {ρ : Type}

def decryptMessage (tls : Opener ρ DecryptFailure UInt8) (ssl : ρ) (encryptedMsg : Bytes) :
    ρ × Except Thrown Bytes :=
  match tls.read ssl encryptedMsg with
  | (ssl, .ok plain) => (ssl, .ok plain)
  | (ssl, .error .bioWrite) => (ssl, .error (.runtimeError "BIO_write failed"))
  | (ssl, .error (.sslRead ret error detail)) =>
      (ssl, .error (.runtimeError ("SSL_read failed: " ++ toString ret ++ " " ++ toString error ++
        if error = sslErrorSsl then " " ++ detail else "")))

/-- The locals of `getMessage` that live from one pass of its loop to the next. -/
structure Reassembly where
  buffer : Buffer
  fullContent : Bytes := []
  totalLength : Int := 0

/-- One pass of the loop: the channel and flags it read, and the locals after it. -/
def receiveFrame (tls : Opener ρ DecryptFailure UInt8) (ssl : ρ) (soFar : Reassembly)
    (transfer : Transfer) : ρ × Except Thrown (UInt8 × UInt8 × Reassembly) :=
  let (result, transferred) := bulkTransfer transfer
  if result ≠ 0 ∨ transferred.length < 2 then
    (ssl, .error (.runtimeError ("in transfer failed: " ++ toString result)))
  else
    let buffer := soFar.buffer.overwrite transferred
    let flags := buffer 1
    let length := BigEndian.decode [buffer 2, buffer 3]
    let first := frameBits flags = FrameType.First.mask
    let totalLength :=
      if first then toInt32 (BigEndian.decode [buffer 4, buffer 5, buffer 6, buffer 7])
      else soFar.totalLength
    let offset := if first then 8 else 4
    -- a range that ends before it begins is too long for a `vector`
    if transferred.length < offset then
      (ssl, .error (.lengthError "cannot create std::vector larger than max_size()"))
    else
      let content := transferred.drop offset
      if length ≠ content.length then
        (ssl, .error (.runtimeError "wrong length"))
      else
        match if isEncrypted flags then decryptMessage tls ssl content else (ssl, .ok content) with
        | (ssl, .error thrown) => (ssl, .error thrown)
        | (ssl, .ok content) =>
            (ssl, .ok (buffer 0, flags,
              { buffer, fullContent := soFar.fullContent ++ content, totalLength }))

/-- How a call ends: with a message or an exception and the transfers it has not
consumed, or still waiting for one. -/
inductive Received (ρ : Type) where
  | returned (msg : Message) (ssl : ρ) (rest : List Transfer)
  | threw (thrown : Thrown) (ssl : ρ) (rest : List Transfer)
  | waiting (ssl : ρ)

def getMessageFrom (tls : Opener ρ DecryptFailure UInt8) (ssl : ρ) (soFar : Reassembly) :
    List Transfer → Received ρ
  | [] => .waiting ssl
  | transfer :: rest =>
      match receiveFrame tls ssl soFar transfer with
      | (ssl, .error thrown) => .threw thrown ssl rest
      | (ssl, .ok (channel, flags, soFar)) =>
          if soFar.fullContent.length < asSizeT soFar.totalLength then
            getMessageFrom tls ssl soFar rest
          else
            .returned ⟨channel, flags ||| FrameType.Bulk.mask, soFar.fullContent, 0⟩ ssl rest

def getMessage (tls : Opener ρ DecryptFailure UInt8) (buffer : Buffer) (ssl : ρ)
    (transfers : List Transfer) : Received ρ :=
  getMessageFrom tls ssl { buffer } transfers

end AAClient

/-- A transfer with a complete header, taken apart. `length` is what its header
says of the payload. -/
structure Frame where
  channel : UInt8
  flags : UInt8
  length : Nat
  total : Option Nat
  payload : Bytes
  deriving DecidableEq, Repr

namespace Frame

def parse : Bytes → Option Frame
  | channel :: flags :: high :: low :: rest =>
      if frameBits flags = FrameType.First.mask then
        match rest with
        | byte0 :: byte1 :: byte2 :: byte3 :: payload =>
            some ⟨channel, flags, BigEndian.decode [high, low],
              some (BigEndian.decode [byte0, byte1, byte2, byte3]), payload⟩
        | _ => none
      else
        some ⟨channel, flags, BigEndian.decode [high, low], none, rest⟩
  | _ => none

variable {ρ : Type}

def content (tls : Opener ρ DecryptFailure UInt8) (ssl : ρ) (frame : Frame) :
    ρ × Except Thrown Bytes :=
  if frame.length ≠ frame.payload.length then (ssl, .error (.runtimeError "wrong length"))
  else if isEncrypted frame.flags then AAClient.decryptMessage tls ssl frame.payload
  else (ssl, .ok frame.payload)

end Frame

def Fragment.Headed (fragment : Fragment) : Prop :=
  fragment.total.isSome = true ↔ frameBits fragment.flags = FrameType.First.mask

theorem Frame.parse_encode {fragment : Fragment} {payload : Bytes} (headed : fragment.Headed)
    (fits : fragment.Fits payload) :
    Frame.parse (fragment.encode payload) =
      some ⟨fragment.channel, fragment.flags, payload.length, fragment.total, payload⟩ := by
  have length := @BigEndian.decode_encode 2 _ fits.1
  obtain ⟨channel, flags, total, chunk⟩ := fragment
  cases total with
  | none =>
      have other : frameBits flags ≠ FrameType.First.mask := by simpa [Fragment.Headed] using headed
      simpa [Fragment.encode, Fragment.header, Frame.parse, BigEndian.encode, other] using length
  | some total =>
      have first : frameBits flags = FrameType.First.mask := by simpa [Fragment.Headed] using headed
      have announced := @BigEndian.decode_encode 4 _ (fits.2 total rfl)
      simpa [Fragment.encode, Fragment.header, Frame.parse, BigEndian.encode, first] using
        ⟨length, announced⟩

namespace AAClient

variable {ρ : Type}

def Reassembly.add (soFar : Reassembly) (bytes : Bytes) (frame : Frame) (content : Bytes) :
    Reassembly where
  buffer := soFar.buffer.overwrite bytes
  fullContent := soFar.fullContent ++ content
  totalLength := frame.total.elim soFar.totalLength toInt32

/-- A pass over a transfer with a complete header depends on the frame alone. -/
theorem receiveFrame_parse {tls : Opener ρ DecryptFailure UInt8} {bytes : Bytes} {frame : Frame}
    (ssl : ρ) (soFar : Reassembly) (parsed : Frame.parse bytes = some frame)
    (room : bytes.length ≤ bufSize) :
    receiveFrame tls ssl soFar (.completed bytes) =
      match frame.content tls ssl with
      | (ssl, .error thrown) => (ssl, .error thrown)
      | (ssl, .ok content) =>
          (ssl, .ok (frame.channel, frame.flags, soFar.add bytes frame content)) := by
  have transferred : bulkTransfer (.completed bytes) = (0, bytes) := if_pos room
  fun_cases Frame.parse bytes with
  | case1 channel flags high low first byte0 byte1 byte2 byte3 payload =>
      obtain rfl : _ = frame := by simpa [Frame.parse, first] using parsed
      simp only [receiveFrame, transferred, Buffer.overwrite, Frame.content, Reassembly.add]
      simp only [ne_eq, not_true_eq_false, false_or, List.length_cons, List.getD_cons_succ,
        List.getD_cons_zero, first, if_true, List.drop_succ_cons, List.drop_zero, Option.elim_some]
      rw [if_neg (by omega), if_neg (by omega)]
      split <;> rfl
  | case2 => simp_all [Frame.parse]
  | case3 channel flags high low rest other =>
      obtain rfl : _ = frame := by simpa [Frame.parse, other] using parsed
      simp only [receiveFrame, transferred, Buffer.overwrite, Frame.content, Reassembly.add]
      simp only [ne_eq, not_true_eq_false, false_or, List.length_cons, List.getD_cons_succ,
        List.getD_cons_zero, other, if_false, List.drop_succ_cons, List.drop_zero, Option.elim_none]
      rw [if_neg (by omega), if_neg (by omega)]
      split <;> rfl
  | case4 => simp_all [Frame.parse]

theorem getMessageFrom_accepted {tls : Opener ρ DecryptFailure UInt8} {bytes content : Bytes}
    {frame : Frame} {ssl next : ρ} (soFar : Reassembly) (rest : List Transfer)
    (parsed : Frame.parse bytes = some frame) (room : bytes.length ≤ bufSize)
    (accepted : frame.content tls ssl = (next, .ok content)) :
    getMessageFrom tls ssl soFar (.completed bytes :: rest) =
      if (soFar.fullContent ++ content).length <
          asSizeT (frame.total.elim soFar.totalLength toInt32) then
        getMessageFrom tls next (soFar.add bytes frame content) rest
      else
        .returned ⟨frame.channel, frame.flags ||| FrameType.Bulk.mask,
          soFar.fullContent ++ content, 0⟩ next rest := by
  rw [getMessageFrom, receiveFrame_parse ssl soFar parsed room, accepted]
  rfl

theorem getMessageFrom_refused {tls : Opener ρ DecryptFailure UInt8} {bytes : Bytes}
    {frame : Frame} {ssl next : ρ} {thrown : Thrown} (soFar : Reassembly) (rest : List Transfer)
    (parsed : Frame.parse bytes = some frame) (room : bytes.length ≤ bufSize)
    (refused : frame.content tls ssl = (next, .error thrown)) :
    getMessageFrom tls ssl soFar (.completed bytes :: rest) = .threw thrown next rest := by
  rw [getMessageFrom, receiveFrame_parse ssl soFar parsed room, refused]

theorem getMessageFrom_failed {tls : Opener ρ DecryptFailure UInt8} (ssl : ρ)
    (soFar : Reassembly) (result : Int) (rest : List Transfer) :
    getMessageFrom tls ssl soFar (.failed result :: rest) =
      .threw (.runtimeError ("in transfer failed: " ++ toString result)) ssl rest := by
  simp [getMessageFrom, receiveFrame, bulkTransfer]

end AAClient

end AACS
