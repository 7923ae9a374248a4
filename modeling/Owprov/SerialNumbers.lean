import Owprov.Lib.FixedDigits
import Owprov.Request

/-!
# Serial numbers as numbers

A serial number is a text of hexadecimal digits.  `std::stoull` reads it as a number of 64 bits,
and `IntToSerialNumber` writes 48 bits as 12 digits.
-/

namespace Owprov

/-- The value of a hexadecimal digit. -/
def hexDigit? (c : Char) : Option ℕ :=
  if '0' ≤ c ∧ c ≤ '9' then some (c.toNat - '0'.toNat)
  else if 'a' ≤ c ∧ c ≤ 'f' then some (c.toNat - 'a'.toNat + 10)
  else if 'A' ≤ c ∧ c ≤ 'F' then some (c.toNat - 'A'.toNat + 10)
  else none

/-- The digits that a text starts with. -/
def hexDigits : List Char → List ℕ
  | [] => []
  | c :: rest =>
      match hexDigit? c with
      | none => []
      | some digit => digit :: hexDigits rest

def ofHexDigits (digits : List ℕ) : ℕ :=
  digits.foldl (fun value digit => 16 * value + digit) 0

/-- The digits after a prefix `0x`, which counts only before a digit. -/
def afterHexPrefix : List Char → List Char
  | '0' :: x :: c :: rest =>
      if (x = 'x' ∨ x = 'X') ∧ (hexDigit? c).isSome then c :: rest else '0' :: x :: c :: rest
  | rest => rest

/-- The sign of a number and the rest of it. -/
def signOf : List Char → Bool × List Char
  | '-' :: rest => (true, rest)
  | '+' :: rest => (false, rest)
  | rest => (false, rest)

/-- `std::stoull(text, nullptr, 16)`, which throws an exception without digits and beyond 64
bits. -/
def stoull16 (text : String) : Option ℕ :=
  let (negative, unsigned) := signOf (text.toList.dropWhile isSpace)
  let digits := hexDigits (afterHexPrefix unsigned)
  if digits = [] ∨ 2 ^ 64 ≤ ofHexDigits digits then
    none
  else if negative then
    some ((2 ^ 64 - ofHexDigits digits) % 2 ^ 64)
  else
    some (ofHexDigits digits)

/-- A digit in lower case. -/
def hexChar (digit : ℕ) : Char :=
  if digit < 10 then Char.ofNat ('0'.toNat + digit) else Char.ofNat ('a'.toNat + (digit - 10))

/-- `Utils::IntToSerialNumber`. -/
def intToSerialNumber (value : ℕ) : String :=
  String.ofList ((List.range 12).map fun i => hexChar (value / 16 ^ (11 - i) % 16))

/-! ## Hexadecimal texts -/

/-- A digit in either case. -/
def IsHex (c : Char) : Prop :=
  (hexDigit? c).isSome

instance (c : Char) : Decidable (IsHex c) :=
  inferInstanceAs (Decidable ((hexDigit? c).isSome = true))

def hexValue (c : Char) : ℕ :=
  (hexDigit? c).getD 0

theorem char_le_iff {c d : Char} : c ≤ d ↔ c.toNat ≤ d.toNat :=
  Iff.rfl

theorem isHex_iff {c : Char} :
    IsHex c ↔ (48 ≤ c.toNat ∧ c.toNat ≤ 57) ∨ (97 ≤ c.toNat ∧ c.toNat ≤ 102) ∨
      (65 ≤ c.toNat ∧ c.toNat ≤ 70) := by
  have zero : '0'.toNat = 48 := rfl
  have nine : '9'.toNat = 57 := rfl
  have a : 'a'.toNat = 97 := rfl
  have f : 'f'.toNat = 102 := rfl
  have upperA : 'A'.toNat = 65 := rfl
  have upperF : 'F'.toNat = 70 := rfl
  unfold IsHex hexDigit?
  simp only [char_le_iff, zero, nine, a, f, upperA, upperF]
  split_ifs with digit lower upper
  · simp [digit]
  · simp [lower]
  · simp [upper]
  · simp only [Option.isSome_none, Bool.false_eq_true, false_iff, not_or]
    exact ⟨digit, lower, upper⟩

theorem IsHex.hexDigit? {c : Char} (hex : IsHex c) : Owprov.hexDigit? c = some (hexValue c) := by
  obtain ⟨digit, isDigit⟩ := Option.isSome_iff_exists.mp hex
  rw [hexValue, isDigit, Option.getD_some]

theorem hexValue_lt (c : Char) : hexValue c < 16 := by
  have zero : '0'.toNat = 48 := rfl
  have nine : '9'.toNat = 57 := rfl
  have a : 'a'.toNat = 97 := rfl
  have f : 'f'.toNat = 102 := rfl
  have upperA : 'A'.toNat = 65 := rfl
  have upperF : 'F'.toNat = 70 := rfl
  unfold hexValue Owprov.hexDigit?
  simp only [char_le_iff, zero, nine, a, f, upperA, upperF]
  split_ifs <;> simp only [Option.getD_some, Option.getD_none] <;> omega

theorem IsHex.isSpace {c : Char} (hex : IsHex c) : Owprov.isSpace c = false := by
  rw [isHex_iff] at hex
  have notBlank : c ≠ ' ' := by
    rintro rfl
    exact absurd hex (by decide)
  have notControl : 9 ≤ c.toNat → 13 < c.toNat := by omega
  simpa [Owprov.isSpace, notBlank] using notControl

section HexText

variable {chars : List Char}

theorem hexDigits_of_isHex (hex : ∀ c ∈ chars, IsHex c) : hexDigits chars = chars.map hexValue := by
  induction chars with
  | nil => rfl
  | cons c chars ih =>
      rw [hexDigits, (hex c List.mem_cons_self).hexDigit?, List.map_cons]
      dsimp only
      rw [ih fun d member => hex d (List.mem_cons_of_mem c member)]

theorem signOf_of_isHex (hex : ∀ c ∈ chars, IsHex c) : signOf chars = (false, chars) := by
  unfold signOf
  split
  · exact absurd (hex _ List.mem_cons_self) (by decide)
  · exact absurd (hex _ List.mem_cons_self) (by decide)
  · rfl

theorem afterHexPrefix_of_isHex (hex : ∀ c ∈ chars, IsHex c) : afterHexPrefix chars = chars := by
  unfold afterHexPrefix
  split
  · rename_i x c rest
    have digit : IsHex x := hex x (List.mem_cons_of_mem _ List.mem_cons_self)
    rw [if_neg]
    rintro ⟨rfl | rfl, -⟩
    · exact absurd digit (by decide)
    · exact absurd digit (by decide)
  · rfl

theorem dropWhile_isSpace_of_isHex (hex : ∀ c ∈ chars, IsHex c) : chars.dropWhile isSpace = chars := by
  cases chars with
  | nil => rfl
  | cons c chars =>
      rw [List.dropWhile_cons, (hex c List.mem_cons_self).isSpace]
      rfl

theorem ofHexDigits_lt (chars : List Char) : ofHexDigits (chars.map hexValue) < 16 ^ chars.length := by
  have bounded : ∀ digit ∈ chars.map hexValue, digit < 16 := by
    intro digit member
    obtain ⟨c, -, rfl⟩ := List.mem_map.mp member
    exact hexValue_lt c
  have bound := FixedDigits.valueOf_lt bounded
  rwa [List.length_map] at bound

end HexText

/-- A hexadecimal text of at most 16 digits is read in full. -/
theorem stoull16_of_isHex {text : String} (hex : ∀ c ∈ text.toList, IsHex c)
    (nonempty : text.toList ≠ []) (short : text.toList.length ≤ 16) :
    stoull16 text = some (ofHexDigits (text.toList.map hexValue)) := by
  have digits : text.toList.map hexValue ≠ [] := fun empty => nonempty (List.map_eq_nil_iff.mp empty)
  have small : ¬ 2 ^ 64 ≤ ofHexDigits (text.toList.map hexValue) := by
    have bound := ofHexDigits_lt text.toList
    have width : 16 ^ text.toList.length ≤ 16 ^ 16 := Nat.pow_le_pow_right (by decide) short
    omega
  unfold stoull16
  rw [dropWhile_isSpace_of_isHex hex, signOf_of_isHex hex]
  dsimp only
  rw [afterHexPrefix_of_isHex hex, hexDigits_of_isHex hex, if_neg (not_or.mpr ⟨digits, small⟩),
    if_neg (by decide)]

/-! ## Canonical serial numbers -/

/-- A digit in lower case. -/
def IsLowerHex (c : Char) : Prop :=
  ('0' ≤ c ∧ c ≤ '9') ∨ ('a' ≤ c ∧ c ≤ 'f')

instance (c : Char) : Decidable (IsLowerHex c) :=
  inferInstanceAs (Decidable (_ ∨ _))

/-- 12 digits in lower case. -/
def CanonicalSerial (serial : String) : Prop :=
  serial.toList.length = 12 ∧ ∀ c ∈ serial.toList, IsLowerHex c

instance (serial : String) : Decidable (CanonicalSerial serial) :=
  decidable_of_iff
    (serial.toList.length = 12 ∧ serial.toList.all (fun c => decide (IsLowerHex c)) = true) (by
      rw [List.all_eq_true]
      simp only [decide_eq_true_eq]
      rfl)

/-- `ReverseSerialNumber`. -/
def reverseSerialNumber (serial : String) : String :=
  String.ofList serial.toList.reverse

theorem CanonicalSerial.reverse {serial : String} (canonical : CanonicalSerial serial) :
    CanonicalSerial (reverseSerialNumber serial) := by
  unfold CanonicalSerial reverseSerialNumber
  rw [String.toList_ofList, List.length_reverse]
  exact ⟨canonical.1, fun c member => canonical.2 c (List.mem_reverse.mp member)⟩

/-- The value of a digit in lower case. -/
def lowerHexValue (c : Char) : ℕ :=
  if c ≤ '9' then c.toNat - 48 else c.toNat - 87

theorem isLowerHex_iff {c : Char} :
    IsLowerHex c ↔ (48 ≤ c.toNat ∧ c.toNat ≤ 57) ∨ (97 ≤ c.toNat ∧ c.toNat ≤ 102) :=
  Iff.rfl

theorem hexDigit?_of_isLowerHex {c : Char} (lower : IsLowerHex c) :
    hexDigit? c = some (lowerHexValue c) := by
  rw [isLowerHex_iff] at lower
  have zero : '0'.toNat = 48 := rfl
  have nine : '9'.toNat = 57 := rfl
  have a : 'a'.toNat = 97 := rfl
  have f : 'f'.toNat = 102 := rfl
  unfold hexDigit? lowerHexValue
  simp only [char_le_iff, zero, nine, a, f]
  rcases lower with digit | letter
  · rw [if_pos digit, if_pos digit.2]
  · rw [if_neg (by omega), if_pos letter, if_neg (by omega)]
    congr 1
    omega

theorem IsLowerHex.isHex {c : Char} (lower : IsLowerHex c) : IsHex c := by
  rw [IsHex, hexDigit?_of_isLowerHex lower]
  rfl

theorem hexValue_of_isLowerHex {c : Char} (lower : IsLowerHex c) : hexValue c = lowerHexValue c := by
  rw [hexValue, hexDigit?_of_isLowerHex lower, Option.getD_some]

theorem lowerHexValue_lt {c : Char} (lower : IsLowerHex c) : lowerHexValue c < 16 := by
  rw [isLowerHex_iff] at lower
  have nine : '9'.toNat = 57 := rfl
  unfold lowerHexValue
  simp only [char_le_iff, nine]
  split_ifs <;> omega

theorem lowerHexValue_injective {c d : Char} (first : IsLowerHex c) (second : IsLowerHex d)
    (same : lowerHexValue c = lowerHexValue d) : c = d := by
  rw [isLowerHex_iff] at first second
  have nine : '9'.toNat = 57 := rfl
  unfold lowerHexValue at same
  simp only [char_le_iff, nine] at same
  apply Char.toNat_inj.mp
  split_ifs at same <;> omega

theorem ofHexDigits_eq (digits : List ℕ) : ofHexDigits digits = Nat.ofDigits 16 digits.reverse := by
  rw [Nat.ofDigits_eq_foldr, List.foldr_reverse, ofHexDigits]
  congr 1
  funext value digit
  exact Nat.add_comm _ _

/-- The number that a canonical serial number stands for. -/
def serialValue (serial : String) : ℕ :=
  ofHexDigits (serial.toList.map lowerHexValue)

theorem CanonicalSerial.values_lt {serial : String} (canonical : CanonicalSerial serial) :
    ∀ value ∈ (serial.toList.map lowerHexValue).reverse, value < 16 := by
  intro value member
  obtain ⟨c, isChar, rfl⟩ := List.mem_map.mp (List.mem_reverse.mp member)
  exact lowerHexValue_lt (canonical.2 c isChar)

theorem CanonicalSerial.serialValue_lt {serial : String} (canonical : CanonicalSerial serial) :
    serialValue serial < 16 ^ 12 := by
  have bound := Nat.ofDigits_lt_base_pow_length (by decide : 1 < 16) canonical.values_lt
  rw [List.length_reverse, List.length_map, canonical.1] at bound
  rw [serialValue, ofHexDigits_eq]
  exact bound

/-- A canonical serial number is read in full. -/
theorem CanonicalSerial.stoull16 {serial : String} (canonical : CanonicalSerial serial) :
    Owprov.stoull16 serial = some (serialValue serial) := by
  have nonempty : serial.toList ≠ [] := by
    rw [Ne, ← List.length_eq_zero_iff, canonical.1]
    decide
  have values : serial.toList.map hexValue = serial.toList.map lowerHexValue :=
    List.map_congr_left fun c member => hexValue_of_isLowerHex (canonical.2 c member)
  rw [stoull16_of_isHex (fun c member => (canonical.2 c member).isHex) nonempty
    (by rw [canonical.1]; decide), values, serialValue]

theorem map_lowerHexValue_injective {first second : List Char}
    (lowerFirst : ∀ c ∈ first, IsLowerHex c) (lowerSecond : ∀ c ∈ second, IsLowerHex c)
    (same : first.map lowerHexValue = second.map lowerHexValue) : first = second := by
  induction first generalizing second with
  | nil => exact (List.map_eq_nil_iff.mp same.symm).symm
  | cons c first ih =>
      cases second with
      | nil => cases same
      | cons d second =>
          rw [List.map_cons, List.map_cons, List.cons.injEq] at same
          rw [lowerHexValue_injective (lowerFirst c List.mem_cons_self)
              (lowerSecond d List.mem_cons_self) same.1,
            ih (fun e member => lowerFirst e (List.mem_cons_of_mem c member))
              (fun e member => lowerSecond e (List.mem_cons_of_mem d member)) same.2]

/-- Two canonical serial numbers of one value are the same. -/
theorem serialValue_injective {first second : String} (canonicalFirst : CanonicalSerial first)
    (canonicalSecond : CanonicalSerial second)
    (same : serialValue first = serialValue second) : first = second := by
  rw [serialValue, serialValue, ofHexDigits_eq, ofHexDigits_eq] at same
  have lengths : (first.toList.map lowerHexValue).reverse.length =
      (second.toList.map lowerHexValue).reverse.length := by
    rw [List.length_reverse, List.length_reverse, List.length_map, List.length_map,
      canonicalFirst.1, canonicalSecond.1]
  have reversed := Nat.ofDigits_inj_of_len_eq (by decide) lengths canonicalFirst.values_lt
    canonicalSecond.values_lt same
  exact String.toList_inj.mp (map_lowerHexValue_injective canonicalFirst.2 canonicalSecond.2
    (List.reverse_injective reversed))

end Owprov
