import AACS.Client.Dispatch
import AACS.Client.Receive

/-!
`bytesToUInt64`, for any vector and any offset.

The offset is an `int` and the size of the vector a `size_t`, so their difference wraps where the
offset is beyond the end, and the guard lets it pass.
-/

namespace AACS

/-- `vec.size() - offset`, where the offset is converted to a `size_t`. -/
def sizeMinus (size : Nat) (offset : Int) : Nat :=
  if asSizeT offset ≤ size then size - asSizeT offset else size + 2 ^ 64 - asSizeT offset

/-- The difference modulo 2 ^ 64 for every size that there is. -/
theorem sizeMinus_eq_mod {size : Nat} (fits : size < 2 ^ 64) (offset : Int) :
    sizeMinus size offset = (size + 2 ^ 64 - asSizeT offset) % 2 ^ 64 := by
  have small : asSizeT offset < 2 ^ 64 := (BitVec.ofInt 64 offset).isLt
  unfold sizeMinus
  split <;> omega

/-- `(uint64_t)vec[offset + index]`; the sum is one of `int`s. -/
def byteAt (vec : Bytes) (offset : Int32) (index : Nat) : Except Fault UInt64 :=
  if 2 ^ 31 ≤ offset.toInt + index then .error .undefinedBehaviour
  else
    match vec[asSizeT (offset.toInt + index)]? with
    | some byte => .ok byte.toUInt64
    | none => .error .undefinedBehaviour

def bytesToUInt64 (vec : Bytes) (offset : Int32) : Except Fault UInt64 :=
  if sizeMinus vec.length offset.toInt < 8 then
    .error (.thrown (.runtimeError "bytesToUInt64: vector too small"))
  else do
    let byte0 ← byteAt vec offset 0
    let byte1 ← byteAt vec offset 1
    let byte2 ← byteAt vec offset 2
    let byte3 ← byteAt vec offset 3
    let byte4 ← byteAt vec offset 4
    let byte5 ← byteAt vec offset 5
    let byte6 ← byteAt vec offset 6
    let byte7 ← byteAt vec offset 7
    pure (byte0 <<< 56 ||| byte1 <<< 48 ||| byte2 <<< 40 ||| byte3 <<< 32 |||
      byte4 <<< 24 ||| byte5 <<< 16 ||| byte6 <<< 8 ||| byte7 <<< 0)

/-- `bytesToUInt64` throws exactly where fewer than eight bytes are there, and reads inside of the
vector. -/
structure GuardSound (vec : Bytes) (offset : Int32) : Prop where
  throws : (∃ exception, bytesToUInt64 vec offset = .error (.thrown exception)) ↔
    (vec.length : Int) < offset.toInt + 8
  inside : bytesToUInt64 vec offset ≠ .error .undefinedBehaviour

section Shifts

theorem toNat_shifted (byte : UInt8) {places : UInt64} (few : places.toNat ≤ 56) :
    (byte.toUInt64 <<< places).toNat = byte.toNat <<< places.toNat := by
  have small : byte.toNat < 2 ^ 8 := byte.toNat_lt
  have fits : byte.toNat <<< places.toNat < 2 ^ 64 := by
    rw [Nat.shiftLeft_eq]
    calc byte.toNat * 2 ^ places.toNat < 2 ^ 8 * 2 ^ places.toNat :=
          Nat.mul_lt_mul_of_pos_right small (Nat.two_pow_pos _)
      _ ≤ 2 ^ 8 * 2 ^ 56 := Nat.mul_le_mul_left _ (Nat.pow_le_pow_right (by decide) few)
  rw [UInt64.toNat_shiftLeft, UInt8.toNat_toUInt64, Nat.mod_eq_of_lt (by omega : places.toNat < 64),
    Nat.mod_eq_of_lt fits]

/-- The eight bytes, shifted one by one, are the number that they spell. -/
theorem shifted_eq_decode (byte0 byte1 byte2 byte3 byte4 byte5 byte6 byte7 : UInt8) :
    byte0.toUInt64 <<< 56 ||| byte1.toUInt64 <<< 48 ||| byte2.toUInt64 <<< 40 |||
        byte3.toUInt64 <<< 32 ||| byte4.toUInt64 <<< 24 ||| byte5.toUInt64 <<< 16 |||
        byte6.toUInt64 <<< 8 ||| byte7.toUInt64 <<< 0 =
      UInt64.ofNat
        (BigEndian.decode [byte0, byte1, byte2, byte3, byte4, byte5, byte6, byte7]) := by
  have spelled : (byte0.toUInt64 <<< 56 ||| byte1.toUInt64 <<< 48 ||| byte2.toUInt64 <<< 40 |||
        byte3.toUInt64 <<< 32 ||| byte4.toUInt64 <<< 24 ||| byte5.toUInt64 <<< 16 |||
        byte6.toUInt64 <<< 8 ||| byte7.toUInt64 <<< 0).toNat =
      BigEndian.decode [byte0, byte1, byte2, byte3, byte4, byte5, byte6, byte7] := by
    simp only [UInt64.toNat_or]
    rw [toNat_shifted byte0 (by decide), toNat_shifted byte1 (by decide),
      toNat_shifted byte2 (by decide), toNat_shifted byte3 (by decide),
      toNat_shifted byte4 (by decide), toNat_shifted byte5 (by decide),
      toNat_shifted byte6 (by decide), toNat_shifted byte7 (by decide)]
    simp [BigEndian.decode, BigEndian.decodeFrom, Nat.shiftLeft_or_distrib, ← Nat.shiftLeft_add]
  rw [← spelled, UInt64.ofNat_toNat]

end Shifts

section Guard

variable {vec : Bytes} {offset : Int32}

theorem asSizeT_natural {value : Int} (natural : 0 ≤ value) (small : value < 2 ^ 64) :
    asSizeT value = value.toNat := by
  rw [asSizeT, BitVec.toNat_ofInt]
  omega

theorem bytesToUInt64_short (natural : 0 ≤ offset.toInt) (inside : offset.toInt ≤ vec.length)
    (short : (vec.length : Int) < offset.toInt + 8) :
    bytesToUInt64 vec offset =
      .error (.thrown (.runtimeError "bytesToUInt64: vector too small")) := by
  have small := offset.toInt_lt
  have guarded : sizeMinus vec.length offset.toInt < 8 := by
    rw [sizeMinus, asSizeT_natural natural (by omega)]
    split <;> omega
  rw [bytesToUInt64, if_pos guarded]

theorem byteAt_present {index : Nat} {byte : UInt8} (natural : 0 ≤ offset.toInt)
    (isInt : offset.toInt + index < 2 ^ 31)
    (present : vec[offset.toInt.toNat + index]? = some byte) :
    byteAt vec offset index = .ok byte.toUInt64 := by
  have place : asSizeT (offset.toInt + index) = offset.toInt.toNat + index := by
    rw [asSizeT_natural (by omega) (by omega)]
    omega
  rw [byteAt, if_neg (by omega), place, present]

theorem byteAt_overflows {index : Nat} (overflows : 2 ^ 31 ≤ offset.toInt + index) :
    byteAt vec offset index = .error .undefinedBehaviour := if_pos overflows

theorem byteAt_absent {index : Nat} (natural : 0 ≤ offset.toInt)
    (absent : (vec.length : Int) ≤ offset.toInt + index) :
    byteAt vec offset index = .error .undefinedBehaviour := by
  by_cases overflows : 2 ^ 31 ≤ offset.toInt + index
  · exact byteAt_overflows overflows
  · have none : vec[asSizeT (offset.toInt + index)]? = none := by
      rw [asSizeT_natural (by omega) (by omega), List.getElem?_eq_none_iff]
      omega
    rw [byteAt, if_neg overflows, none]

theorem not_guarded (natural : 0 ≤ offset.toInt)
    (passes : (vec.length : Int) < offset.toInt ∨ offset.toInt + 8 ≤ vec.length) :
    ¬ sizeMinus vec.length offset.toInt < 8 := by
  have small := offset.toInt_lt
  rw [sizeMinus, asSizeT_natural natural (by omega)]
  split <;> omega

theorem bytesToUInt64_read {byte0 byte1 byte2 byte3 byte4 byte5 byte6 byte7 : UInt8}
    {rest : Bytes} (natural : 0 ≤ offset.toInt) (isInt : offset.toInt + 7 < 2 ^ 31)
    (there : vec.drop offset.toInt.toNat =
      byte0 :: byte1 :: byte2 :: byte3 :: byte4 :: byte5 :: byte6 :: byte7 :: rest) :
    bytesToUInt64 vec offset = .ok (UInt64.ofNat
      (BigEndian.decode [byte0, byte1, byte2, byte3, byte4, byte5, byte6, byte7])) := by
  have size := congrArg List.length there
  simp only [List.length_drop, List.length_cons] at size
  have read (index : Nat) {byte : UInt8} (few : index ≤ 7)
      (found : (vec.drop offset.toInt.toNat)[index]? = some byte) :
      byteAt vec offset index = .ok byte.toUInt64 := by
    rw [List.getElem?_drop] at found
    exact byteAt_present natural (by omega) found
  rw [there] at read
  rw [bytesToUInt64, if_neg (not_guarded natural (by omega)), read 0 (by decide) rfl,
    read 1 (by decide) rfl, read 2 (by decide) rfl, read 3 (by decide) rfl,
    read 4 (by decide) rfl, read 5 (by decide) rfl, read 6 (by decide) rfl,
    read 7 (by decide) rfl, ← shifted_eq_decode]
  rfl

theorem byteAt_error {index : Nat} {fault : Fault}
    (failed : byteAt vec offset index = .error fault) : fault = .undefinedBehaviour := by
  unfold byteAt at failed
  split at failed
  · exact (Except.error.inj failed).symm
  · split at failed
    · cases failed
    · exact (Except.error.inj failed).symm

theorem bind_undefined {α β : Type} {first : Except Fault α} {next : α → Except Fault β}
    (here : ∀ fault, first = .error fault → fault = .undefinedBehaviour)
    (later : ∀ value, next value = .error .undefinedBehaviour) :
    first >>= next = .error .undefinedBehaviour := by
  cases first with
  | error fault => exact congrArg Except.error (here fault rfl)
  | ok value => exact later value

theorem bytesToUInt64_overflows (natural : 0 ≤ offset.toInt)
    (there : offset.toInt + 8 ≤ vec.length) (overflows : 2 ^ 31 ≤ offset.toInt + 7) :
    bytesToUInt64 vec offset = .error .undefinedBehaviour := by
  rw [bytesToUInt64, if_neg (not_guarded natural (.inr there))]
  apply bind_undefined (fun _ => byteAt_error) fun _ => ?_
  apply bind_undefined (fun _ => byteAt_error) fun _ => ?_
  apply bind_undefined (fun _ => byteAt_error) fun _ => ?_
  apply bind_undefined (fun _ => byteAt_error) fun _ => ?_
  apply bind_undefined (fun _ => byteAt_error) fun _ => ?_
  apply bind_undefined (fun _ => byteAt_error) fun _ => ?_
  apply bind_undefined (fun _ => byteAt_error) fun _ => ?_
  rw [byteAt_overflows overflows]
  rfl

/-- Beyond the end the guard passes, and the first read is outside of the vector. -/
theorem bytesToUInt64_beyond (natural : 0 ≤ offset.toInt)
    (beyond : (vec.length : Int) < offset.toInt) :
    bytesToUInt64 vec offset = .error .undefinedBehaviour := by
  rw [bytesToUInt64, if_neg (not_guarded natural (.inl beyond)),
    byteAt_absent natural (by omega)]
  rfl

theorem eight_of_length {bytes : Bytes} (long : 8 ≤ bytes.length) :
    ∃ byte0 byte1 byte2 byte3 byte4 byte5 byte6 byte7 rest, bytes =
      byte0 :: byte1 :: byte2 :: byte3 :: byte4 :: byte5 :: byte6 :: byte7 :: rest := by
  rcases bytes with _ | ⟨byte0, _ | ⟨byte1, _ | ⟨byte2, _ | ⟨byte3, _ | ⟨byte4, _ | ⟨byte5,
    _ | ⟨byte6, _ | ⟨byte7, rest⟩⟩⟩⟩⟩⟩⟩⟩
  case cons.cons.cons.cons.cons.cons.cons.cons =>
    exact ⟨byte0, byte1, byte2, byte3, byte4, byte5, byte6, byte7, rest, rfl⟩
  all_goals simp at long

theorem bytesToUInt64_ok (natural : 0 ≤ offset.toInt) (isInt : offset.toInt + 7 < 2 ^ 31)
    (there : offset.toInt + 8 ≤ vec.length) :
    bytesToUInt64 vec offset =
      .ok (UInt64.ofNat (BigEndian.decode ((vec.drop offset.toInt.toNat).take 8))) := by
  obtain ⟨byte0, byte1, byte2, byte3, byte4, byte5, byte6, byte7, rest, eight⟩ :=
    @eight_of_length (vec.drop offset.toInt.toNat) (by rw [List.length_drop]; omega)
  rw [bytesToUInt64_read natural isInt eight, eight]
  rfl

theorem guardSound_iff (natural : 0 ≤ offset.toInt) :
    GuardSound vec offset ↔ offset.toInt ≤ vec.length ∧
      (offset.toInt + 8 ≤ vec.length → offset.toInt + 7 < 2 ^ 31) := by
  constructor
  · intro sound
    refine ⟨?_, fun there => ?_⟩
    · by_contra beyond
      exact sound.inside (bytesToUInt64_beyond natural (by omega))
    · by_contra overflows
      exact sound.inside (bytesToUInt64_overflows natural there (by omega))
  · rintro ⟨inside, isInt⟩
    by_cases short : (vec.length : Int) < offset.toInt + 8
    · have thrown := bytesToUInt64_short natural inside short
      exact ⟨iff_of_true ⟨_, thrown⟩ short, by rw [thrown]; simp⟩
    · have read := bytesToUInt64_ok natural (isInt (by omega)) (by omega : _ ≤ (vec.length : Int))
      refine ⟨iff_of_false ?_ short, by rw [read]; simp⟩
      rw [read]
      simp

theorem bytesToUInt64_pushed {front : Bytes} (start : (front.length : Int) = offset.toInt)
    (isInt : offset.toInt + 7 < 2 ^ 31) (num : UInt64) (rest : Bytes) :
    bytesToUInt64 (pushBackInt64 front num ++ rest) offset = .ok num := by
  have place : offset.toInt.toNat = front.length := by omega
  have length : (BigEndian.encode 8 num.toNat).length = 8 := BigEndian.length_encode 8 _
  have long : offset.toInt + 8 ≤ ((pushBackInt64 front num ++ rest).length : Int) := by
    simp only [pushBackInt64, List.length_append, length]
    omega
  rw [bytesToUInt64_ok (by omega) isInt long, place, pushBackInt64, List.append_assoc,
    List.drop_left, List.take_left' length, BigEndian.decode_encode num.toNat_lt,
    UInt64.ofNat_toNat]

theorem roundTrip_iff {front : Bytes} (start : (front.length : Int) = offset.toInt) :
    (∀ num rest, bytesToUInt64 (pushBackInt64 front num ++ rest) offset = .ok num) ↔
      offset.toInt + 7 < 2 ^ 31 := by
  refine ⟨fun back => ?_, bytesToUInt64_pushed start⟩
  by_contra overflows
  have there : offset.toInt + 8 ≤ ((pushBackInt64 front 0 ++ []).length : Int) := by
    simp only [pushBackInt64, List.length_append, BigEndian.length_encode, List.length_nil]
    omega
  have undefined := bytesToUInt64_overflows (by omega) there (by omega)
  rw [back 0 []] at undefined
  cases undefined

end Guard

theorem AAClient.VideoChannelHandler.timestampOf_eq {data : Bytes} (typed : 2 ≤ data.length)
    (state : AAClient.State) :
    (AAClient.VideoChannelHandler.timestampOf data).run state =
      ⟨bytesToUInt64 data 2, state, []⟩ := by
  have two : (2 : Int32).toInt = 2 := rfl
  unfold AAClient.VideoChannelHandler.timestampOf
  split
  next short =>
    rw [bytesToUInt64_short (by rw [two]; decide) (by rw [two]; omega) (by rw [two]; omega)]
    rfl
  next long =>
    rw [bytesToUInt64_ok (by rw [two]; decide) (by rw [two]; decide) (by rw [two]; omega)]
    rfl

/-- A number that has been pushed is read back, and the guard is sound, exactly where the offset
is not beyond the end and the offsets of the bytes that are there are `int`s. -/
theorem uint64_codec_iff (offset : Int32) (natural : 0 ≤ offset.toInt) :
    (∀ front : Bytes, (front.length : Int) = offset.toInt →
      ((∀ num rest, bytesToUInt64 (pushBackInt64 front num ++ rest) offset = .ok num) ↔
        offset.toInt + 7 < 2 ^ 31)) ∧
    ∀ vec : Bytes, GuardSound vec offset ↔ offset.toInt ≤ vec.length ∧
      (offset.toInt + 8 ≤ vec.length → offset.toInt + 7 < 2 ^ 31) :=
  ⟨fun _ start => roundTrip_iff start, fun _ => guardSound_iff natural⟩

theorem uint64_codec_behind_type :
    bytesToUInt64 (pushBackInt64 [0, 0] 1000 ++ [7]) 2 = .ok 1000 ∧ GuardSound [0, 0, 5] 2 :=
  ⟨((uint64_codec_iff 2 (by decide)).1 [0, 0] rfl).mpr (by decide) 1000 [7],
    ((uint64_codec_iff 2 (by decide)).2 [0, 0, 5]).mpr (by decide)⟩

/-- The guard lets an offset beyond the end of an empty vector pass. -/
theorem guard_passes_beyond_end :
    bytesToUInt64 [] 1 = .error .undefinedBehaviour ∧ ¬ GuardSound [] 1 := by
  have undefined : bytesToUInt64 [] 1 = .error .undefinedBehaviour := rfl
  exact ⟨undefined, fun sound => sound.inside undefined⟩

end AACS
