import Owprov.SerialCache

/-!
# Searching the cache of serial numbers

A search text is padded with zeros to a serial number, and the numbers are read from its
`lower_bound` on as long as their text starts with it.  A text after a star is searched for at
the end of the serial numbers, which is the start of the reversed ones.
-/

namespace Owprov

open FixedDigits

/-- 12 digits in either case. -/
def HexSerial (serial : String) : Prop :=
  serial.toList.length = 12 ∧ ∀ c ∈ serial.toList, IsHex c

instance (serial : String) : Decidable (HexSerial serial) :=
  decidable_of_iff
    (serial.toList.length = 12 ∧ serial.toList.all (fun c => decide (IsHex c)) = true) (by
      rw [List.all_eq_true]
      simp only [decide_eq_true_eq]
      rfl)

/-- The number that a hexadecimal text stands for. -/
def hexNumber (text : String) : ℕ :=
  ofHexDigits (text.toList.map hexValue)

/-- The number whose 12 digits are those of another one in reverse. -/
def reversedNumber (sn : ℕ) : ℕ :=
  reverseDigits 16 12 sn

namespace SerialCache

/-! ## The code -/

/-- The loop of `Reverse`, with the nibbles that are left. -/
def reverseFrom : ℕ → ℕ → ℕ → ℕ
  | 0, res, _ => res
  | left + 1, res, n => reverseFrom left ((res <<< 4) % 2 ^ 64 + (n &&& 15)) (n >>> 4)

/-- `Reverse`. -/
def reverse (n : ℕ) : ℕ :=
  reverseFrom 16 0 n >>> 16

/-- The loop of `ReturnNumbers` from the `lower_bound` on. -/
def collectNumbers (search : String) (reverseResult : Bool) :
    ℕ → List ℕ → List ℕ → List ℕ
  | 0, _, found => found
  | _ + 1, [], found => found
  | howMany + 1, sn :: rest, found =>
      if reverseResult then
        let text := reverseSerialNumber (intToSerialNumber (reverse sn))
        if search.toList = text.toList.take search.toList.length then
          collectNumbers search reverseResult howMany rest (found ++ [reverse sn])
        else
          found
      else
        let text := intToSerialNumber sn
        if search.toList = text.toList.take search.toList.length then
          collectNumbers search reverseResult howMany rest (found ++ [sn])
        else
          found

/-- `ReturnNumbers`, or nothing when `std::stoull` throws. -/
def returnNumbers (search : String) (howMany : ℕ) (numbers found : List ℕ)
    (reverseResult : Bool) : Option (List ℕ) :=
  if search.toList.length = 12 then
    (stoull16 search).map fun sn =>
      if sn ∈ numbers then found ++ [if reverseResult then reverse sn else sn] else found
  else if search.toList.length < 12 then
    let padded := String.ofList
      (search.toList ++ List.replicate (12 - search.toList.length) '0')
    (stoull16 padded).map fun sn =>
      collectNumbers search reverseResult howMany (numbers.dropWhile fun n => decide (n < sn)) found
  else
    some found

/-- `FindNumbers`, or nothing when `std::stoull` throws. -/
def findNumbers (cache : SerialCache) (search : String) (howMany : ℕ) (found : List ℕ) :
    Option (List ℕ) :=
  match search.toList with
  | [] => some found
  | first :: rest =>
      if first = '*' then
        if rest = [] then
          some found
        else
          returnNumbers (String.ofList rest.reverse) howMany cache.reverseSns found true
      else
        returnNumbers search howMany cache.sns found false

example : reverse 0x0123456789ab = 0xba9876543210 := by decide

end SerialCache

/-! ## Texts and digits -/

theorem toList_intToSerialNumber (sn : ℕ) :
    (intToSerialNumber sn).toList = (fixedDigits 16 12 sn).map hexChar := by
  rw [fixedDigits_eq_range, List.map_map, intToSerialNumber, String.toList_ofList]
  rfl

theorem hexValue_hexChar {digit : ℕ} (small : digit < 16) : hexValue (hexChar digit) = digit := by
  have all : ∀ d < 16, hexValue (hexChar d) = d := by decide
  exact all digit small

theorem hexChar_hexValue {c : Char} (lower : IsLowerHex c) : hexChar (hexValue c) = c := by
  have value := lowerHexValue_lt lower
  have digit := hexValue_hexChar value
  have lowerChar : IsLowerHex (hexChar (lowerHexValue c)) := by
    have all : ∀ d < 16, IsLowerHex (hexChar d) := by decide
    exact all _ value
  rw [hexValue_of_isLowerHex lower]
  apply lowerHexValue_injective lowerChar lower
  rwa [hexValue_of_isLowerHex lowerChar] at digit

theorem map_hexChar_hexValue {chars : List Char} (lower : ∀ c ∈ chars, IsLowerHex c) :
    (chars.map hexValue).map hexChar = chars := by
  rw [List.map_map]
  calc
    chars.map (hexChar ∘ hexValue) = chars.map id :=
      List.map_congr_left fun c member => hexChar_hexValue (lower c member)
    _ = chars := List.map_id chars

theorem map_hexValue_hexChar (width sn : ℕ) :
    ((fixedDigits 16 width sn).map hexChar).map hexValue = fixedDigits 16 width sn := by
  rw [List.map_map]
  calc
    (fixedDigits 16 width sn).map (hexValue ∘ hexChar) = (fixedDigits 16 width sn).map id :=
      List.map_congr_left fun digit member =>
        hexValue_hexChar (lt_of_mem_fixedDigits (by decide) member)
    _ = fixedDigits 16 width sn := List.map_id _

theorem map_hexValue_lt (chars : List Char) : ∀ digit ∈ chars.map hexValue, digit < 16 := by
  intro digit member
  obtain ⟨c, -, rfl⟩ := List.mem_map.mp member
  exact hexValue_lt c

/-- A text starts a serial number when its digits start those of the number. -/
theorem isPrefix_text_iff {chars : List Char} (lower : ∀ c ∈ chars, IsLowerHex c) (sn : ℕ) :
    chars <+: (intToSerialNumber sn).toList ↔ chars.map hexValue <+: fixedDigits 16 12 sn := by
  rw [toList_intToSerialNumber]
  constructor
  · intro start
    have digits := start.map hexValue
    rwa [map_hexValue_hexChar] at digits
  · intro start
    have text := start.map hexChar
    rwa [map_hexChar_hexValue lower] at text

theorem HexSerial.reverse {serial : String} (hex : HexSerial serial) :
    HexSerial (reverseSerialNumber serial) := by
  unfold HexSerial reverseSerialNumber
  rw [String.toList_ofList, List.length_reverse]
  exact ⟨hex.1, fun c member => hex.2 c (List.mem_reverse.mp member)⟩

theorem HexSerial.stoull16 {serial : String} (hex : HexSerial serial) :
    Owprov.stoull16 serial = some (hexNumber serial) := by
  apply stoull16_of_isHex hex.2
  · rw [Ne, ← List.length_eq_zero_iff, hex.1]
    decide
  · rw [hex.1]
    decide

theorem HexSerial.hexNumber_lt {serial : String} (hex : HexSerial serial) :
    hexNumber serial < 16 ^ 12 := by
  have bound := ofHexDigits_lt serial.toList
  rwa [hex.1] at bound

/-- A serial number read from its end is the reversed number. -/
theorem HexSerial.hexNumber_reverse {serial : String} (hex : HexSerial serial) :
    hexNumber (reverseSerialNumber serial) = reversedNumber (hexNumber serial) := by
  have digits := reverseDigits_valueOf (map_hexValue_lt serial.toList)
  rw [List.length_map, hex.1] at digits
  unfold hexNumber reverseSerialNumber
  rw [String.toList_ofList, List.map_reverse]
  exact digits.symm

/-! ## `Reverse` -/

namespace SerialCache

theorem reverseFrom_eq {left res n : ℕ} (short : left ≤ 16) (small : res < 16 ^ (16 - left)) :
    reverseFrom left res n = res * 16 ^ left + reverseDigits 16 left n := by
  induction left generalizing res n with
  | zero => simp [reverseFrom, reverseDigits, fixedDigits, valueOf]
  | succ left ih =>
      have room : 16 ^ (16 - (left + 1)) * 16 = 16 ^ (16 - left) := by
        rw [← pow_succ]
        congr 1
        omega
      have word : 16 ^ (16 - left) ≤ 2 ^ 64 := by
        have width : 16 ^ (16 - left) ≤ 16 ^ 16 := Nat.pow_le_pow_right (by decide) (by omega)
        omega
      have nibble : n &&& 15 = n % 16 := Nat.and_two_pow_sub_one_eq_mod n 4
      have quotient : n >>> 4 = n / 16 := Nat.shiftRight_eq_div_pow n 4
      have shifted : (res <<< 4) % 2 ^ 64 = res * 16 := by
        rw [Nat.shiftLeft_eq]
        exact Nat.mod_eq_of_lt (by omega)
      have digits : reverseDigits 16 (left + 1) n =
          n % 16 * 16 ^ left + reverseDigits 16 left (n / 16) := by
        rw [reverseDigits, fixedDigits, List.reverse_append, valueOf_append, List.length_reverse,
          length_fixedDigits, reverseDigits]
        simp [valueOf]
      rw [reverseFrom, nibble, quotient, shifted, ih (by omega) (by omega), digits, pow_succ]
      ring

/-- The 16 nibbles of a number of 12 digits end with four zeros when they are reversed. -/
theorem reverse_eq {sn : ℕ} (small : sn < 16 ^ 12) : reverse sn = reversedNumber sn := by
  have padded : fixedDigits 16 16 sn = List.replicate 4 0 ++ fixedDigits 16 12 sn := by
    rw [fixedDigits_add 16 4 12, Nat.div_eq_of_lt small]
    rfl
  have value : reverseDigits 16 16 sn = reversedNumber sn * 2 ^ 16 := by
    rw [reverseDigits, padded, List.reverse_append, List.reverse_replicate, valueOf_append,
      valueOf_replicate_zero, List.length_replicate, Nat.add_zero]
    norm_num [reversedNumber, reverseDigits]
  rw [reverse, reverseFrom_eq (by decide) (by decide), Nat.zero_mul, Nat.zero_add, value,
    Nat.shiftRight_eq_div_pow, Nat.mul_div_cancel _ (by decide)]

/-! ## The search -/

/-- The digits of the search text start the number. -/
def starts (search : String) (sn : ℕ) : Bool :=
  decide (search.toList.map hexValue <+: fixedDigits 16 12 sn)

/-- The number that is answered for one that was found. -/
def answered (reverseResult : Bool) (sn : ℕ) : ℕ :=
  if reverseResult then reversedNumber sn else sn

theorem reversed_text {sn : ℕ} (small : sn < 16 ^ 12) :
    (reverseSerialNumber (intToSerialNumber (reverse sn))).toList =
      (intToSerialNumber sn).toList := by
  rw [reverseSerialNumber, String.toList_ofList, toList_intToSerialNumber, reverse_eq small,
    reversedNumber, fixedDigits_reverseDigits (by decide), List.map_reverse, List.reverse_reverse,
    toList_intToSerialNumber]

section Search

variable {search : String} {numbers found : List ℕ} {howMany : ℕ}

theorem textStarts_iff (lower : ∀ c ∈ search.toList, IsLowerHex c) (sn : ℕ) :
    search.toList = (intToSerialNumber sn).toList.take search.toList.length ↔
      starts search sn = true := by
  rw [← List.prefix_iff_eq_take, isPrefix_text_iff lower, starts, decide_eq_true_eq]

/-- The loop answers the numbers up to the first one that the search text does not start. -/
theorem collectNumbers_eq (lower : ∀ c ∈ search.toList, IsLowerHex c)
    (bounded : ∀ sn ∈ numbers, sn < 16 ^ 12) (reverseResult : Bool) :
    collectNumbers search reverseResult howMany numbers found =
      found ++ ((numbers.takeWhile (starts search)).take howMany).map (answered reverseResult) := by
  induction numbers generalizing found howMany with
  | nil => cases howMany <;> simp [collectNumbers]
  | cons sn numbers ih =>
      cases howMany with
      | zero => simp [collectNumbers]
      | succ howMany =>
          have small := bounded sn List.mem_cons_self
          have later := @ih (found ++ [answered reverseResult sn]) howMany
            fun other member => bounded other (List.mem_cons_of_mem sn member)
          have step : collectNumbers search reverseResult (howMany + 1) (sn :: numbers) found =
              if starts search sn = true then
                collectNumbers search reverseResult howMany numbers
                  (found ++ [answered reverseResult sn])
              else
                found := by
            rw [collectNumbers]
            dsimp only
            rw [reversed_text small, reverse_eq small]
            simp only [textStarts_iff lower]
            cases reverseResult <;> rfl
          rw [step]
          by_cases start : starts search sn = true
          · rw [if_pos start, later, List.takeWhile_cons_of_pos start, List.take_succ_cons,
              List.map_cons, List.append_assoc, List.singleton_append]
          · rw [if_neg start, List.takeWhile_cons_of_neg start, List.take_nil, List.map_nil,
              List.append_nil]

/-- Padded with zeros a search text is the lower end of its interval. -/
theorem stoull16_padded (lower : ∀ c ∈ search.toList, IsLowerHex c)
    (nonempty : search.toList ≠ []) (short : search.toList.length ≤ 12) :
    stoull16 (String.ofList
        (search.toList ++ List.replicate (12 - search.toList.length) '0')) =
      some (hexNumber search * 16 ^ (12 - search.toList.length)) := by
  have hex : ∀ c ∈ search.toList ++ List.replicate (12 - search.toList.length) '0', IsHex c := by
    intro c member
    rcases List.mem_append.mp member with digit | zero
    · exact (lower c digit).isHex
    · rw [List.eq_of_mem_replicate zero]
      decide
  have zeros : ∀ count, (List.replicate count '0').map hexValue = List.replicate count 0 :=
    fun count => List.map_replicate
  rw [stoull16_of_isHex]
  · rw [String.toList_ofList, List.map_append, zeros, hexNumber]
    congr 1
    exact (valueOf_append _ _).trans (by rw [valueOf_replicate_zero, List.length_replicate]; rfl)
  · rwa [String.toList_ofList]
  · rw [String.toList_ofList, Ne, List.append_eq_nil_iff, not_and]
    exact fun empty => absurd empty nonempty
  · rw [String.toList_ofList, List.length_append, List.length_replicate]
    omega

theorem starts_iff (short : search.toList.length ≤ 12) {sn : ℕ} (small : sn < 16 ^ 12) :
    starts search sn = true ↔
      hexNumber search * 16 ^ (12 - search.toList.length) ≤ sn ∧
        sn < (hexNumber search + 1) * 16 ^ (12 - search.toList.length) := by
  have width : (search.toList.map hexValue).length + (12 - search.toList.length) = 12 := by
    rw [List.length_map]
    omega
  have interval := @isPrefix_fixedDigits_iff 16 sn (search.toList.map hexValue)
    (12 - search.toList.length) (map_hexValue_lt search.toList) (by rwa [width])
  rw [width] at interval
  rw [starts, decide_eq_true_eq, interval]
  rfl

/-- The search answers the first numbers of those that the text starts. -/
theorem returnNumbers_eq (lower : ∀ c ∈ search.toList, IsLowerHex c)
    (nonempty : search.toList ≠ []) (short : search.toList.length ≤ 12) (positive : 1 ≤ howMany)
    (sorted : numbers.Pairwise (· < ·)) (bounded : ∀ sn ∈ numbers, sn < 16 ^ 12)
    (reverseResult : Bool) :
    returnNumbers search howMany numbers found reverseResult =
      some (found ++
        ((numbers.filter (starts search)).take howMany).map (answered reverseResult)) := by
  have interval := fun sn member => starts_iff short (bounded sn member)
  unfold returnNumbers
  by_cases full : search.toList.length = 12
  · have hex : HexSerial search := ⟨full, fun c member => (lower c member).isHex⟩
    have same : numbers.filter (starts search) = numbers.filter (· = hexNumber search) := by
      apply List.filter_congr
      intro sn member
      rw [Bool.eq_iff_iff, interval sn member, full, decide_eq_true_eq]
      omega
    rw [if_pos full, hex.stoull16, Option.map_some, same, List.filter_eq]
    congr 1
    by_cases member : hexNumber search ∈ numbers
    · rw [if_pos member, List.count_eq_one_of_mem sorted.nodup member, List.replicate_one,
        List.take_of_length_le positive, reverse_eq (bounded _ member)]
      rfl
    · rw [if_neg member, List.count_eq_zero_of_not_mem member, List.replicate_zero, List.take_nil,
        List.map_nil, List.append_nil]
  · rw [if_neg full, if_pos (by omega)]
    dsimp only
    rw [stoull16_padded lower nonempty short, Option.map_some, collectNumbers_eq lower, takeWhile_dropWhile_eq_filter sorted interval]
    intro sn member
    exact bounded sn ((List.dropWhile_sublist _).subset member)

end Search

/-! ## Runs of calls -/

/-- A call that changes the cache. -/
inductive Call where
  | add (serial : String)
  | delete (serial : String)

def Call.serial : Call → String
  | add serial => serial
  | delete serial => serial

/-- The cache after a call, or nothing when it throws. -/
def Call.apply (cache : SerialCache) : Call → Option SerialCache
  | add serial => cache.addSerialNumber serial
  | delete serial => cache.deleteSerialNumber serial

/-- The cache after calls one after the other, which starts empty. -/
def afterCalls (calls : List Call) : Option SerialCache :=
  calls.foldlM Call.apply empty

/-- A number that was added and not deleted since. -/
def Held (calls : List Call) (sn : ℕ) : Prop :=
  ∃ before serial after, calls = before ++ .add serial :: after ∧ hexNumber serial = sn ∧
    ∀ deleted, .delete deleted ∈ after → hexNumber deleted ≠ sn

/-- Where an entry stands in a list with one more call. -/
theorem append_singleton_eq_iff {calls before after : List Call} {entry last : Call} :
    calls ++ [last] = before ++ entry :: after ↔
      (calls = before ∧ entry = last ∧ after = []) ∨
        ∃ earlier, after = earlier ++ [last] ∧ calls = before ++ entry :: earlier := by
  constructor
  · intro split
    rcases List.eq_nil_or_concat' after with rfl | ⟨earlier, final, rfl⟩
    · obtain ⟨sameCalls, sameEntry⟩ := List.append_inj' split rfl
      exact Or.inl ⟨sameCalls, (List.cons.inj sameEntry).1.symm, rfl⟩
    · rw [← List.cons_append, ← List.append_assoc] at split
      obtain ⟨sameCalls, sameLast⟩ := List.append_inj' split rfl
      obtain rfl := (List.cons.inj sameLast).1
      exact Or.inr ⟨earlier, rfl, sameCalls⟩
  · rintro (⟨rfl, rfl, rfl⟩ | ⟨earlier, rfl, rfl⟩)
    · rfl
    · rw [List.append_assoc, List.cons_append]

theorem held_append_add (calls : List Call) (serial : String) (sn : ℕ) :
    Held (calls ++ [.add serial]) sn ↔ sn = hexNumber serial ∨ Held calls sn := by
  constructor
  · rintro ⟨before, added, after, split, rfl, kept⟩
    rcases append_singleton_eq_iff.mp split with ⟨-, same, -⟩ | ⟨earlier, rfl, isCalls⟩
    · cases same
      exact Or.inl rfl
    · exact Or.inr ⟨before, added, earlier, isCalls, rfl,
        fun deleted member => kept deleted (List.mem_append_left _ member)⟩
  · rintro (rfl | ⟨before, added, after, rfl, rfl, kept⟩)
    · exact ⟨calls, serial, [], rfl, rfl, fun _ member => absurd member List.not_mem_nil⟩
    · refine ⟨before, added, after ++ [.add serial], by simp, rfl, fun deleted member => ?_⟩
      rcases List.mem_append.mp member with isAfter | isLast
      · exact kept deleted isAfter
      · cases List.mem_singleton.mp isLast

theorem held_append_delete (calls : List Call) (serial : String) (sn : ℕ) :
    Held (calls ++ [.delete serial]) sn ↔ sn ≠ hexNumber serial ∧ Held calls sn := by
  constructor
  · rintro ⟨before, added, after, split, rfl, kept⟩
    rcases append_singleton_eq_iff.mp split with ⟨-, same, -⟩ | ⟨earlier, rfl, isCalls⟩
    · cases same
    · refine ⟨(kept serial (by simp)).symm, before, added, earlier, isCalls, rfl, ?_⟩
      exact fun deleted member => kept deleted (List.mem_append_left _ member)
  · rintro ⟨other, before, added, after, rfl, rfl, kept⟩
    refine ⟨before, added, after ++ [.delete serial], by simp, rfl, fun deleted member => ?_⟩
    rcases List.mem_append.mp member with isAfter | isLast
    · exact kept deleted isAfter
    · obtain rfl := Call.delete.inj (List.mem_singleton.mp isLast)
      exact other.symm

/-- The two lists hold the same serial numbers, once in each direction. -/
structure Mirrors (cache : SerialCache) (held : ℕ → Prop) : Prop where
  mem_sns : ∀ sn, sn ∈ cache.sns ↔ held sn
  bounded : ∀ sn, held sn → sn < 16 ^ 12
  mem_reverseSns : ∀ rsn, rsn ∈ cache.reverseSns ↔ ∃ sn, held sn ∧ reversedNumber sn = rsn
  reverseDistinct : cache.reverseSns.Nodup

theorem mirrors_empty : Mirrors empty fun _ => False where
  mem_sns := fun _ => by simp [empty]
  bounded := fun _ => False.elim
  mem_reverseSns := fun _ => by simp [empty]
  reverseDistinct := .nil

theorem Mirrors.congr {cache : SerialCache} {held held' : ℕ → Prop}
    (mirrors : cache.Mirrors held) (same : ∀ sn, held' sn ↔ held sn) : cache.Mirrors held' := by
  have equal : held' = held := funext fun sn => propext (same sn)
  rwa [equal]

theorem reversedNumber_injective {sn other : ℕ} (small : sn < 16 ^ 12) (smallOther : other < 16 ^ 12)
    (same : reversedNumber sn = reversedNumber other) : sn = other :=
  reverseDigits_injective (by decide) small smallOther same

/-- A serial number is added to both lists, unless it is there already. -/
theorem Mirrors.add {cache : SerialCache} {held : ℕ → Prop} (mirrors : cache.Mirrors held)
    {serial : String} (hex : HexSerial serial) :
    ∃ cache', cache.addSerialNumber serial = some cache' ∧
      cache'.Mirrors fun sn => sn = hexNumber serial ∨ held sn := by
  unfold addSerialNumber
  rw [hex.stoull16, hex.reverse.stoull16, Option.bind_some]
  split_ifs with known
  · refine ⟨cache, rfl, mirrors.congr fun sn => ?_⟩
    constructor
    · rintro (rfl | isHeld)
      · exact (mirrors.mem_sns _).mp known
      · exact isHeld
    · exact Or.inr
  · have new : ¬ held (hexNumber serial) := fun isHeld => known ((mirrors.mem_sns _).mpr isHeld)
    refine ⟨_, rfl, ?_, ?_, ?_, ?_⟩
    · intro sn
      rw [← mirrors.mem_sns]
      exact List.mem_orderedInsert _
    · rintro sn (rfl | isHeld)
      · exact hex.hexNumber_lt
      · exact mirrors.bounded sn isHeld
    · intro rsn
      have member : rsn ∈ (cache.insert (hexNumber serial)
          (hexNumber (reverseSerialNumber serial)) known).reverseSns ↔
          rsn = hexNumber (reverseSerialNumber serial) ∨ rsn ∈ cache.reverseSns :=
        List.mem_orderedInsert _
      rw [member, mirrors.mem_reverseSns, hex.hexNumber_reverse]
      constructor
      · rintro (rfl | ⟨sn, isHeld, rfl⟩)
        · exact ⟨hexNumber serial, Or.inl rfl, rfl⟩
        · exact ⟨sn, Or.inr isHeld, rfl⟩
      · rintro ⟨sn, rfl | isHeld, rfl⟩
        · exact Or.inl rfl
        · exact Or.inr ⟨sn, isHeld, rfl⟩
    · apply (List.perm_orderedInsert (· ≤ ·) _ cache.reverseSns).nodup_iff.mpr
      refine List.nodup_cons.mpr ⟨fun member => ?_, mirrors.reverseDistinct⟩
      obtain ⟨sn, isHeld, same⟩ := (mirrors.mem_reverseSns _).mp member
      rw [hex.hexNumber_reverse] at same
      have equal := reversedNumber_injective (mirrors.bounded sn isHeld) hex.hexNumber_lt same
      exact new (equal ▸ isHeld)

/-- A serial number is deleted from both lists. -/
theorem Mirrors.delete {cache : SerialCache} {held : ℕ → Prop} (mirrors : cache.Mirrors held)
    {serial : String} (hex : HexSerial serial) :
    ∃ cache', cache.deleteSerialNumber serial = some cache' ∧
      cache'.Mirrors fun sn => sn ≠ hexNumber serial ∧ held sn := by
  unfold deleteSerialNumber
  rw [hex.stoull16, hex.reverse.stoull16, Option.bind_some]
  split_ifs with known
  · refine ⟨_, rfl, ?_, ?_, ?_, ?_⟩
    · intro sn
      rw [← mirrors.mem_sns]
      exact cache.distinct.mem_erase_iff
    · rintro sn ⟨-, isHeld⟩
      exact mirrors.bounded sn isHeld
    · intro rsn
      have member : rsn ∈ (cache.erase (hexNumber serial)
          (hexNumber (reverseSerialNumber serial))).reverseSns ↔
          rsn ≠ hexNumber (reverseSerialNumber serial) ∧ rsn ∈ cache.reverseSns :=
        mirrors.reverseDistinct.mem_erase_iff
      rw [member, mirrors.mem_reverseSns, hex.hexNumber_reverse]
      constructor
      · rintro ⟨other, sn, isHeld, rfl⟩
        refine ⟨sn, ⟨?_, isHeld⟩, rfl⟩
        rintro rfl
        exact other rfl
      · rintro ⟨sn, ⟨other, isHeld⟩, rfl⟩
        refine ⟨fun same => other ?_, sn, isHeld, rfl⟩
        exact reversedNumber_injective (mirrors.bounded sn isHeld) hex.hexNumber_lt same
    · exact mirrors.reverseDistinct.sublist List.erase_sublist
  · refine ⟨cache, rfl, mirrors.congr fun sn => ?_⟩
    constructor
    · exact And.right
    · intro isHeld
      refine ⟨?_, isHeld⟩
      rintro rfl
      exact known ((mirrors.mem_sns _).mpr isHeld)

/-- After any calls on hexadecimal serial numbers the cache holds what was added and not deleted. -/
theorem exists_afterCalls {calls : List Call} (hex : ∀ call ∈ calls, HexSerial call.serial) :
    ∃ cache, afterCalls calls = some cache ∧ cache.Mirrors (Held calls) := by
  induction calls using List.reverseRecOn with
  | nil =>
      refine ⟨empty, rfl, mirrors_empty.congr fun sn => ?_⟩
      rw [iff_false]
      rintro ⟨before, serial, after, split, -⟩
      exact absurd split (by simp)
  | append_singleton calls call ih =>
      obtain ⟨cache, isCache, mirrors⟩ := ih fun other member => hex other (List.mem_append_left _ member)
      have last : HexSerial call.serial := hex call (by simp)
      have step : afterCalls (calls ++ [call]) = call.apply cache := by
        rw [afterCalls, List.foldlM_append]
        rw [afterCalls] at isCache
        simp [isCache]
      rw [step]
      cases call with
      | add serial =>
          obtain ⟨cache', added, mirrors'⟩ := mirrors.add last
          exact ⟨cache', added, mirrors'.congr (held_append_add calls serial)⟩
      | delete serial =>
          obtain ⟨cache', deleted, mirrors'⟩ := mirrors.delete last
          exact ⟨cache', deleted, mirrors'.congr (held_append_delete calls serial)⟩

/-- The first numbers in the order of a key among those that are held and chosen. -/
def FirstOf (held chosen : ℕ → Prop) (key : ℕ → ℕ) (howMany : ℕ) (answer : List ℕ) : Prop :=
  ∃ matching : List ℕ, matching.Pairwise (fun sn other => key sn < key other) ∧
    (∀ sn, sn ∈ matching ↔ held sn ∧ chosen sn) ∧ answer = matching.take howMany

/-- The cache holds the serial numbers of some calls, and finds them by their start and end. -/
structure ExactSearch (calls : List Call) (cache : SerialCache) : Prop where
  increasing : cache.sns.Pairwise (· < ·)
  mem_sns : ∀ sn, sn ∈ cache.sns ↔ Held calls sn
  reverseIncreasing : cache.reverseSns.Pairwise (· < ·)
  mem_reverseSns : ∀ rsn, rsn ∈ cache.reverseSns ↔ ∃ sn, Held calls sn ∧ reversedNumber sn = rsn
  starting : ∀ (search : String) (howMany : ℕ) (found : List ℕ),
    search.toList ≠ [] → search.toList.length ≤ 12 → (∀ c ∈ search.toList, IsLowerHex c) →
      1 ≤ howMany → ∃ answer, cache.findNumbers search howMany found = some (found ++ answer) ∧
        FirstOf (Held calls) (fun sn => search.toList <+: (intToSerialNumber sn).toList) id
          howMany answer
  ending : ∀ (search : String) (howMany : ℕ) (found : List ℕ),
    search.toList ≠ [] → search.toList.length ≤ 12 → (∀ c ∈ search.toList, IsLowerHex c) →
      1 ≤ howMany →
        ∃ answer, cache.findNumbers ("*" ++ search) howMany found = some (found ++ answer) ∧
          FirstOf (Held calls) (fun sn => search.toList <:+ (intToSerialNumber sn).toList)
            reversedNumber howMany answer

section Exact

variable {calls : List Call} {cache : SerialCache} {search : String}

theorem toList_intToSerialNumber_reversedNumber (sn : ℕ) :
    (intToSerialNumber (reversedNumber sn)).toList = (intToSerialNumber sn).toList.reverse := by
  rw [toList_intToSerialNumber, toList_intToSerialNumber, reversedNumber,
    fixedDigits_reverseDigits (by decide), List.map_reverse]

theorem increasing_of_nodup {numbers : List ℕ} (sorted : numbers.Pairwise (· ≤ ·))
    (distinct : numbers.Nodup) : numbers.Pairwise (· < ·) :=
  (sorted.and distinct).imp fun both => lt_of_le_of_ne both.1 both.2

theorem starts_eq_true_iff (lower : ∀ c ∈ search.toList, IsLowerHex c) (sn : ℕ) :
    starts search sn = true ↔ search.toList <+: (intToSerialNumber sn).toList := by
  rw [isPrefix_text_iff lower, starts, decide_eq_true_eq]

/-- A search without a star looks through the serial numbers. -/
theorem findNumbers_plain (lower : ∀ c ∈ search.toList, IsLowerHex c)
    (nonempty : search.toList ≠ []) (howMany : ℕ) (found : List ℕ) :
    cache.findNumbers search howMany found =
      returnNumbers search howMany cache.sns found false := by
  unfold findNumbers
  cases text : search.toList with
  | nil => exact absurd text nonempty
  | cons first rest =>
      have notStar : first ≠ '*' := by
        rintro rfl
        exact absurd (lower '*' (by simp [text])) (by decide)
      dsimp only
      rw [if_neg notStar]

/-- A search with a star looks through the reversed serial numbers. -/
theorem findNumbers_star (nonempty : search.toList ≠ []) (howMany : ℕ) (found : List ℕ) :
    cache.findNumbers ("*" ++ search) howMany found =
      returnNumbers (reverseSerialNumber search) howMany cache.reverseSns found true := by
  have text : ("*" ++ search).toList = '*' :: search.toList := by simp
  unfold findNumbers
  rw [text]
  dsimp only
  rw [if_pos rfl, if_neg nonempty, reverseSerialNumber]

theorem Mirrors.exactSearch (mirrors : cache.Mirrors (Held calls)) : ExactSearch calls cache := by
  have increasing := increasing_of_nodup cache.sorted cache.distinct
  have reverseIncreasing := increasing_of_nodup cache.reverseSorted mirrors.reverseDistinct
  refine ⟨increasing, mirrors.mem_sns, reverseIncreasing, mirrors.mem_reverseSns, ?_, ?_⟩
  · intro search howMany found nonempty short lower positive
    refine ⟨(cache.sns.filter (starts search)).take howMany, ?_,
      cache.sns.filter (starts search), increasing.filter _, fun sn => ?_, rfl⟩
    · have bounded : ∀ sn ∈ cache.sns, sn < 16 ^ 12 := fun sn member =>
        mirrors.bounded sn ((mirrors.mem_sns sn).mp member)
      have same : answered false = id := rfl
      rw [findNumbers_plain lower nonempty, returnNumbers_eq lower nonempty short positive increasing
        bounded, same, List.map_id]
    · rw [List.mem_filter, mirrors.mem_sns, starts_eq_true_iff lower]
  · intro search howMany found nonempty short lower positive
    have text : (reverseSerialNumber search).toList = search.toList.reverse :=
      String.toList_ofList
    have lowerReversed : ∀ c ∈ (reverseSerialNumber search).toList, IsLowerHex c := by
      rw [text]
      exact fun c member => lower c (List.mem_reverse.mp member)
    have bounded : ∀ rsn ∈ cache.reverseSns, rsn < 16 ^ 12 := by
      intro rsn member
      obtain ⟨sn, -, rfl⟩ := (mirrors.mem_reverseSns rsn).mp member
      exact reverseDigits_lt (by decide) 12 sn
    have twice : ∀ sn < 16 ^ 12, reversedNumber (reversedNumber sn) = sn :=
      fun sn small => reverseDigits_reverseDigits (by decide) small
    have ends : ∀ sn, starts (reverseSerialNumber search) (reversedNumber sn) = true ↔
        search.toList <:+ (intToSerialNumber sn).toList := fun sn => by
      rw [starts_eq_true_iff lowerReversed, text, toList_intToSerialNumber_reversedNumber,
        List.reverse_prefix]
    have matching := reverseIncreasing.filter (starts (reverseSerialNumber search))
    refine ⟨((cache.reverseSns.filter (starts (reverseSerialNumber search))).take howMany).map
      reversedNumber, ?_,
      (cache.reverseSns.filter (starts (reverseSerialNumber search))).map reversedNumber, ?_,
      fun sn => ?_, List.map_take⟩
    · rw [findNumbers_star nonempty, returnNumbers_eq lowerReversed _ _ positive reverseIncreasing
        bounded]
      · rfl
      · rwa [text, Ne, List.reverse_eq_nil_iff]
      · rwa [text, List.length_reverse]
    · rw [List.pairwise_map]
      refine matching.imp_of_mem fun {rsn other} member memberOther less => ?_
      rw [twice rsn (bounded rsn (List.mem_filter.mp member).1),
        twice other (bounded other (List.mem_filter.mp memberOther).1)]
      exact less
    · rw [List.mem_map]
      constructor
      · rintro ⟨rsn, member, rfl⟩
        obtain ⟨isReversed, start⟩ := List.mem_filter.mp member
        obtain ⟨sn, isHeld, rfl⟩ := (mirrors.mem_reverseSns rsn).mp isReversed
        rw [twice sn (mirrors.bounded sn isHeld)]
        exact ⟨isHeld, (ends sn).mp start⟩
      · rintro ⟨isHeld, isEnd⟩
        refine ⟨reversedNumber sn, List.mem_filter.mpr ⟨?_, (ends sn).mpr isEnd⟩,
          twice sn (mirrors.bounded sn isHeld)⟩
        exact (mirrors.mem_reverseSns _).mpr ⟨sn, isHeld, rfl⟩

end Exact

/-- After any calls on hexadecimal serial numbers the search is exact. -/
theorem afterCalls_exactSearch (calls : List Call)
    (hex : ∀ call ∈ calls, HexSerial call.serial) :
    ∃ cache, afterCalls calls = some cache ∧ ExactSearch calls cache := by
  obtain ⟨cache, isCache, mirrors⟩ := exists_afterCalls hex
  exact ⟨cache, isCache, mirrors.exactSearch⟩

/-- A serial number with leading zeros, one that is spelt in upper case and one that is deleted. -/
def threeCalls : List Call :=
  [.add "00000000000a", .add "0A0B0C0D0E0F", .add "112233445566", .delete "112233445566"]

theorem threeCalls_exactSearch :
    ∃ cache, afterCalls threeCalls = some cache ∧ ExactSearch threeCalls cache :=
  afterCalls_exactSearch threeCalls (by decide)

end SerialCache

end Owprov
