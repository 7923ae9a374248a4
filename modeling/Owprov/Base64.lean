import Mathlib.Data.List.Basic
import Mathlib.Data.Nat.Bitwise

/-!
# Base64

`Utils::base64encode` and `Utils::base64decode`.  Both work on a number of 32 bits, from which the
encoder takes fields of six bits and the decoder bytes; the decoder does not clear it between the
groups of four characters.
-/

namespace Owprov

/-! ## Encoding -/

def kEncodeLookup : List Char :=
  "ABCDEFGHIJKLMNOPQRSTUVWXYZabcdefghijklmnopqrstuvwxyz0123456789+/".toList

def kPadCharacter : Char := '='

/-- A character of the lookup table, which ends with a character of code zero. -/
def encodeLookup (index : UInt32) : Char :=
  kEncodeLookup.getD index.toNat (Char.ofNat 0)

/-- The first two characters of a group. -/
def encodeFirst (temp : UInt32) : List Char :=
  [encodeLookup ((temp &&& 0x00FC0000) >>> 18), encodeLookup ((temp &&& 0x0003F000) >>> 12)]

def encodeThird (temp : UInt32) : Char :=
  encodeLookup ((temp &&& 0x00000FC0) >>> 6)

def encodeFourth (temp : UInt32) : Char :=
  encodeLookup (temp &&& 0x0000003F)

/-- The characters of groups of three bytes, and of what is left after them. -/
def encodeBytes : List UInt8 → List Char
  | [] => []
  | [first] =>
      let temp := first.toUInt32 <<< 16
      encodeFirst temp ++ [kPadCharacter, kPadCharacter]
  | [first, second] =>
      let temp := (first.toUInt32 <<< 16) + (second.toUInt32 <<< 8)
      encodeFirst temp ++ [encodeThird temp, kPadCharacter]
  | first :: second :: third :: rest =>
      let temp := (first.toUInt32 <<< 16) + (second.toUInt32 <<< 8) + third.toUInt32
      encodeFirst temp ++ encodeThird temp :: encodeFourth temp :: encodeBytes rest

def base64encode (input : List UInt8) : String :=
  String.ofList (encodeBytes input)

/-! ## Decoding -/

inductive Base64Error where
  | invalidLength
  | invalidPadding
  | invalidCharacter
  deriving DecidableEq, Repr

/-- The six bits that a character stands for. -/
def sextet (c : Char) : Option UInt32 :=
  if 0x41 ≤ c.val ∧ c.val ≤ 0x5A then some (c.val - 0x41)
  else if 0x61 ≤ c.val ∧ c.val ≤ 0x7A then some (c.val - 0x47)
  else if 0x30 ≤ c.val ∧ c.val ≤ 0x39 then some (c.val + 0x04)
  else if c.val = 0x2B then some 0x3E
  else if c.val = 0x2F then some 0x3F
  else none

/-- The byte of `temp` that starts at a bit. -/
def byteAt (temp shift : UInt32) : UInt8 :=
  ((temp >>> shift) &&& 0x000000FF).toUInt8

/-- A pad character with `rest` after it, which ends the text. -/
def decodePadding (shifted : UInt32) (decoded : List UInt8) :
    List Char → Except Base64Error (List UInt8)
  | [] => .ok (decoded ++ [byteAt shifted 16, byteAt shifted 8])
  | [_] => .ok (decoded ++ [byteAt shifted 10])
  | _ => .error .invalidPadding

/-- The characters from one on that is number `i` of its group; `temp` has the bits before it and
`decoded` the bytes of the earlier groups. -/
def decodeChars : ℕ → UInt32 → List UInt8 → List Char → Except Base64Error (List UInt8)
  | _, _, decoded, [] => .ok decoded
  | i, temp, decoded, c :: rest =>
      let shifted := temp <<< 6
      match sextet c with
      | some bits =>
          let temp := shifted ||| bits
          if i = 3 then
            decodeChars 0 temp (decoded ++ [byteAt temp 16, byteAt temp 8, byteAt temp 0]) rest
          else
            decodeChars (i + 1) temp decoded rest
      | none =>
          if c = kPadCharacter then decodePadding shifted decoded rest
          else .error .invalidCharacter

def base64decode (input : String) : Except Base64Error (List UInt8) :=
  if input.toList.length % 4 ≠ 0 then .error .invalidLength
  else decodeChars 0 0 [] input.toList

/-! ## Bits -/

/-- Six bits come after the ones that were there. -/
theorem toNat_accumulate (temp bits : UInt32) (six : bits.toNat < 64) :
    ((temp <<< 6) ||| bits).toNat = temp.toNat % 2 ^ 26 * 64 + bits.toNat := by
  have shifted : (temp <<< 6).toNat = 2 ^ 6 * (temp.toNat % 2 ^ 26) := by
    simp only [UInt32.toNat_shiftLeft, UInt32.reduceToNat, Nat.shiftLeft_eq, Nat.reduceMod,
      Nat.reducePow]
    omega
  rw [UInt32.toNat_or, shifted, ← Nat.two_pow_add_eq_or_of_lt (by omega)]
  omega

theorem toNat_shift (temp : UInt32) : (temp <<< 6).toNat = temp.toNat % 2 ^ 26 * 64 := by
  have zero := toNat_accumulate temp 0 (by decide)
  rwa [UInt32.or_zero] at zero

/-- A field of `width` bits that a mask marks. -/
theorem toNat_field (temp mask shift : UInt32) (width : ℕ) (within : shift.toNat < 32)
    (marks : mask.toNat >>> shift.toNat = 2 ^ width - 1) :
    ((temp &&& mask) >>> shift).toNat = temp.toNat / 2 ^ shift.toNat % 2 ^ width := by
  rw [UInt32.toNat_shiftRight, UInt32.toNat_and, Nat.mod_eq_of_lt within,
    Nat.shiftRight_and_distrib, marks, Nat.and_two_pow_sub_one_eq_mod, Nat.shiftRight_eq_div_pow]

theorem toNat_byteAt (temp shift : UInt32) (within : shift.toNat < 32) :
    (byteAt temp shift).toNat = temp.toNat / 2 ^ shift.toNat % 256 := by
  have mask : (0x000000FF : UInt32).toNat = 2 ^ 8 - 1 := rfl
  rw [byteAt, UInt32.toNat_toUInt8, UInt32.toNat_and, UInt32.toNat_shiftRight, mask,
    Nat.and_two_pow_sub_one_eq_mod, Nat.mod_mod, Nat.mod_eq_of_lt within,
    Nat.shiftRight_eq_div_pow]

/-- Three bytes in the number of a group. -/
theorem toNat_pack (first second third : UInt8) :
    ((first.toUInt32 <<< 16) + (second.toUInt32 <<< 8) + third.toUInt32).toNat =
      first.toNat * 65536 + second.toNat * 256 + third.toNat := by
  have firstBound := first.toNat_lt
  have secondBound := second.toNat_lt
  have thirdBound := third.toNat_lt
  simp only [UInt32.toNat_add, UInt32.toNat_shiftLeft, UInt8.toNat_toUInt32, UInt32.reduceToNat,
    Nat.shiftLeft_eq, Nat.reduceMod, Nat.reducePow]
  omega

/-! ## One character -/

theorem sextet_lookup : ∀ index : Fin 64,
    sextet (kEncodeLookup.getD index (Char.ofNat 0)) = some (UInt32.ofNat index) := by
  decide +kernel

/-- A character of the encoder stands for the six bits that it was looked up with. -/
theorem sextet_encodeLookup {index : UInt32} (six : index.toNat < 64) :
    sextet (encodeLookup index) = some index := by
  have found := sextet_lookup ⟨index.toNat, six⟩
  rw [encodeLookup, found, UInt32.ofNat_toNat]

theorem sextet_pad : sextet kPadCharacter = none := by decide

variable {temp bits : UInt32} {decoded : List UInt8} {rest : List Char}

theorem decodeChars_bits {i : ℕ} (notLast : i ≠ 3) (six : bits.toNat < 64) :
    decodeChars i temp decoded (encodeLookup bits :: rest) =
      decodeChars (i + 1) ((temp <<< 6) ||| bits) decoded rest := by
  rw [decodeChars, sextet_encodeLookup six]
  dsimp only
  rw [if_neg notLast]

theorem decodeChars_lastBits (six : bits.toNat < 64) :
    decodeChars 3 temp decoded (encodeLookup bits :: rest) =
      decodeChars 0 ((temp <<< 6) ||| bits)
        (decoded ++ [byteAt ((temp <<< 6) ||| bits) 16, byteAt ((temp <<< 6) ||| bits) 8,
          byteAt ((temp <<< 6) ||| bits) 0]) rest := by
  rw [decodeChars, sextet_encodeLookup six]
  dsimp only
  rw [if_pos rfl]

theorem decodeChars_pad {i : ℕ} :
    decodeChars i temp decoded (kPadCharacter :: rest) =
      decodePadding (temp <<< 6) decoded rest := by
  rw [decodeChars, sextet_pad]
  rfl

/-! ## Groups -/

/-- The bits of a group that its characters bring, one field of six after another. -/
theorem encodeFirst_six (group : UInt32) :
    ((group &&& 0x00FC0000) >>> 18).toNat = group.toNat / 2 ^ 18 % 64 ∧
      ((group &&& 0x0003F000) >>> 12).toNat = group.toNat / 2 ^ 12 % 64 :=
  ⟨toNat_field group 0x00FC0000 18 6 (by decide) rfl,
    toNat_field group 0x0003F000 12 6 (by decide) rfl⟩

theorem decodeChars_encodeFirst (group : UInt32) :
    ∃ next : UInt32, next.toNat % 2 ^ 12 = group.toNat / 2 ^ 12 % 2 ^ 12 ∧
      decodeChars 0 temp decoded (encodeFirst group ++ rest) =
        decodeChars 2 next decoded rest := by
  obtain ⟨first, second⟩ := encodeFirst_six group
  have firstSix : ((group &&& 0x00FC0000) >>> 18).toNat < 64 := by omega
  have secondSix : ((group &&& 0x0003F000) >>> 12).toNat < 64 := by omega
  refine ⟨((temp <<< 6 ||| (group &&& 0x00FC0000) >>> 18) <<< 6) |||
    ((group &&& 0x0003F000) >>> 12), ?bits, ?read⟩
  case bits =>
      rw [toNat_accumulate _ _ secondSix, toNat_accumulate _ _ firstSix, first, second]
      omega
  case read =>
      rw [encodeFirst, List.cons_append, List.singleton_append,
        decodeChars_bits (by decide) firstSix, decodeChars_bits (by decide) secondSix]

theorem decodeChars_encodeThird (group : UInt32)
    (upper : temp.toNat % 2 ^ 12 = group.toNat / 2 ^ 12 % 2 ^ 12) :
    ∃ next : UInt32, next.toNat % 2 ^ 18 = group.toNat / 2 ^ 6 % 2 ^ 18 ∧
      decodeChars 2 temp decoded (encodeThird group :: rest) =
        decodeChars 3 next decoded rest := by
  have third : ((group &&& 0x00000FC0) >>> 6).toNat = group.toNat / 2 ^ 6 % 64 :=
    toNat_field group 0x00000FC0 6 6 (by decide) rfl
  have thirdSix : ((group &&& 0x00000FC0) >>> 6).toNat < 64 := by omega
  refine ⟨(temp <<< 6) ||| ((group &&& 0x00000FC0) >>> 6), ?bits, ?read⟩
  case bits =>
      rw [toNat_accumulate _ _ thirdSix, third]
      omega
  case read => rw [encodeThird, decodeChars_bits (by decide) thirdSix]

theorem decodeChars_encodeFourth (group : UInt32)
    (upper : temp.toNat % 2 ^ 18 = group.toNat / 2 ^ 6 % 2 ^ 18) :
    ∃ next : UInt32, next.toNat % 2 ^ 24 = group.toNat % 2 ^ 24 ∧
      decodeChars 3 temp decoded (encodeFourth group :: rest) =
        decodeChars 0 next
          (decoded ++ [byteAt next 16, byteAt next 8, byteAt next 0]) rest := by
  have fourth : (group &&& 0x0000003F).toNat = group.toNat % 64 := by
    have mask : (0x0000003F : UInt32).toNat = 2 ^ 6 - 1 := rfl
    rw [UInt32.toNat_and, mask, Nat.and_two_pow_sub_one_eq_mod]
  have fourthSix : (group &&& 0x0000003F).toNat < 64 := by omega
  refine ⟨(temp <<< 6) ||| (group &&& 0x0000003F), ?bits, ?read⟩
  case bits =>
      rw [toNat_accumulate _ _ fourthSix, fourth]
      omega
  case read => rw [encodeFourth, decodeChars_lastBits fourthSix]

/-- A byte of a number whose lower bits are those of a group. -/
theorem byteAt_eq {number shift : UInt32} {byte : UInt8} (within : shift.toNat < 32)
    (bits : number.toNat / 2 ^ shift.toNat % 256 = byte.toNat) : byteAt number shift = byte := by
  apply UInt8.toNat.inj
  rw [toNat_byteAt number shift within, bits]

/-- What the encoder writes of some bytes is read as these bytes. -/
theorem decodeChars_encodeBytes (input : List UInt8) (temp : UInt32) (decoded : List UInt8) :
    decodeChars 0 temp decoded (encodeBytes input) = .ok (decoded ++ input) := by
  induction input using encodeBytes.induct generalizing temp decoded with
  | case1 => rw [encodeBytes, decodeChars, List.append_nil]
  | case2 first =>
      have packed := toNat_pack first 0 0
      have noMore : (first.toUInt32 <<< 16) + ((0 : UInt8).toUInt32 <<< 8) + (0 : UInt8).toUInt32 =
          first.toUInt32 <<< 16 := by simp
      rw [noMore] at packed
      have bound := first.toNat_lt
      obtain ⟨next, bits, read⟩ := @decodeChars_encodeFirst temp decoded
        [kPadCharacter, kPadCharacter] (first.toUInt32 <<< 16)
      have zero : (0 : UInt8).toNat = 0 := rfl
      have byte : byteAt (next <<< 6) 10 = first := by
        apply byteAt_eq (by decide)
        change (next <<< 6).toNat / 2 ^ 10 % 256 = first.toNat
        rw [toNat_shift]
        omega
      rw [encodeBytes, read, decodeChars_pad, decodePadding, byte]
  | case3 first second =>
      have packed := toNat_pack first second 0
      have noMore : (first.toUInt32 <<< 16) + (second.toUInt32 <<< 8) + (0 : UInt8).toUInt32 =
          (first.toUInt32 <<< 16) + (second.toUInt32 <<< 8) := by simp
      rw [noMore] at packed
      have firstBound := first.toNat_lt
      have secondBound := second.toNat_lt
      have zero : (0 : UInt8).toNat = 0 := rfl
      obtain ⟨next, bits, read⟩ := @decodeChars_encodeFirst temp decoded
        [encodeThird ((first.toUInt32 <<< 16) + (second.toUInt32 <<< 8)), kPadCharacter]
        ((first.toUInt32 <<< 16) + (second.toUInt32 <<< 8))
      obtain ⟨last, lastBits, readLast⟩ := @decodeChars_encodeThird next decoded [kPadCharacter]
        _ bits
      have firstByte : byteAt (last <<< 6) 16 = first := by
        apply byteAt_eq (by decide)
        change (last <<< 6).toNat / 2 ^ 16 % 256 = first.toNat
        rw [toNat_shift]
        omega
      have secondByte : byteAt (last <<< 6) 8 = second := by
        apply byteAt_eq (by decide)
        change (last <<< 6).toNat / 2 ^ 8 % 256 = second.toNat
        rw [toNat_shift]
        omega
      rw [encodeBytes, read, readLast, decodeChars_pad, decodePadding, firstByte, secondByte]
  | case4 first second third rest ih =>
      have packed := toNat_pack first second third
      have firstBound := first.toNat_lt
      have secondBound := second.toNat_lt
      have thirdBound := third.toNat_lt
      generalize grouped : (first.toUInt32 <<< 16) + (second.toUInt32 <<< 8) + third.toUInt32 =
        group at packed
      obtain ⟨next, bits, read⟩ := @decodeChars_encodeFirst temp decoded
        (encodeThird group :: encodeFourth group :: encodeBytes rest) group
      obtain ⟨later, thirdBits, readThird⟩ := @decodeChars_encodeThird next decoded
        (encodeFourth group :: encodeBytes rest) _ bits
      obtain ⟨last, lastBits, readLast⟩ := @decodeChars_encodeFourth later decoded
        (encodeBytes rest) _ thirdBits
      have firstByte : byteAt last 16 = first := by
        apply byteAt_eq (by decide)
        change last.toNat / 2 ^ 16 % 256 = first.toNat
        omega
      have secondByte : byteAt last 8 = second := by
        apply byteAt_eq (by decide)
        change last.toNat / 2 ^ 8 % 256 = second.toNat
        omega
      have thirdByte : byteAt last 0 = third := by
        apply byteAt_eq (by decide)
        change last.toNat / 2 ^ 0 % 256 = third.toNat
        omega
      rw [encodeBytes, grouped, read, readThird, readLast, firstByte, secondByte, thirdByte, ih,
        List.append_assoc]
      rfl

theorem length_encodeFirst (group : UInt32) : (encodeFirst group).length = 2 := rfl

theorem length_encodeBytes (input : List UInt8) : (encodeBytes input).length % 4 = 0 := by
  induction input using encodeBytes.induct with
  | case1 => rfl
  | case2 first =>
      rw [encodeBytes, List.length_append, length_encodeFirst, List.length_cons,
        List.length_singleton]
  | case3 first second =>
      rw [encodeBytes, List.length_append, length_encodeFirst, List.length_cons,
        List.length_singleton]
  | case4 first second third rest ih =>
      rw [encodeBytes, List.length_append, length_encodeFirst, List.length_cons, List.length_cons]
      omega

/-- What the encoder writes of some bytes is decoded to these bytes. -/
theorem base64_roundTrip (input : List UInt8) :
    base64decode (base64encode input) = .ok input := by
  have wholeGroups := length_encodeBytes input
  rw [base64decode, base64encode, String.toList_ofList, if_neg (not_not.mpr wholeGroups),
    decodeChars_encodeBytes, List.nil_append]

end Owprov
