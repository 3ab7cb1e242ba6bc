import Mathlib.Data.Nat.Bitwise
import Mathlib.Tactic.Ring

/-!
Big-endian numbers of a fixed width in bytes.
-/

namespace BigEndian

/-- The low `width` bytes of a number, most significant first. -/
def encode : Nat → Nat → List UInt8
  | 0, _ => []
  | width + 1, number => UInt8.ofNat (number >>> (8 * width)) :: encode width number

/-- Shift the bytes in from the right, starting at `start`. -/
def decodeFrom (start : Nat) (bytes : List UInt8) : Nat :=
  bytes.foldl (fun value byte => value <<< 8 ||| byte.toNat) start

def decode (bytes : List UInt8) : Nat := decodeFrom 0 bytes

@[simp] theorem length_encode (width number : Nat) : (encode width number).length = width := by
  induction width with
  | zero => rfl
  | succ width inductionHypothesis => simp [encode, inductionHypothesis]

theorem shift_byte (value : Nat) (byte : UInt8) :
    value <<< 8 ||| byte.toNat = 256 * value + byte.toNat := by
  rw [← Nat.shiftLeft_add_eq_or_of_lt (by simpa using byte.toNat_lt) value, Nat.shiftLeft_eq]
  omega

theorem decodeFrom_encode (width start number : Nat) :
    decodeFrom start (encode width number) =
      start * 2 ^ (8 * width) + number % 2 ^ (8 * width) := by
  induction width generalizing start with
  | zero => simp [decodeFrom, encode, Nat.mod_one]
  | succ width inductionHypothesis =>
      have step : decodeFrom start (encode (width + 1) number) =
          decodeFrom (256 * start + number / 2 ^ (8 * width) % 256) (encode width number) := by
        simp only [decodeFrom, encode, List.foldl_cons, shift_byte]
        simp [Nat.shiftRight_eq_div_pow]
      have split : number % 2 ^ (8 * (width + 1)) =
          number % 2 ^ (8 * width) + 2 ^ (8 * width) * (number / 2 ^ (8 * width) % 256) := by
        rw [show 8 * (width + 1) = 8 * width + 8 by ring, pow_add, Nat.mod_mul]
        simp only [Nat.reducePow]
      rw [step, inductionHypothesis, split, show 8 * (width + 1) = 8 * width + 8 by ring, pow_add]
      ring

theorem decode_encode {width number : Nat} (fits : number < 2 ^ (8 * width)) :
    decode (encode width number) = number := by
  simp [decode, decodeFrom_encode, Nat.mod_eq_of_lt fits]

end BigEndian
