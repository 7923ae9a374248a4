import Mathlib.Data.List.TakeWhile
import Owprov.Lib.JsonValues

/-!
# Compact JSON text

A writer that puts no blanks between the parts of a value and a reader for its texts.  The
reader takes fuel, of which the length of the text is enough, and leaves what follows the value.
-/

namespace JsonText

open JsonValues

/-! ## Strings -/

def quote : Char := Char.ofNat 34

def backslash : Char := Char.ofNat 92

/-- The characters that are written with a backslash, with the letter after it. -/
def escapes : List (Char × Char) :=
  [(quote, quote), (backslash, backslash), ('/', '/'), (Char.ofNat 8, 'b'), (Char.ofNat 12, 'f'),
    (Char.ofNat 10, 'n'), (Char.ofNat 13, 'r'), (Char.ofNat 9, 't')]

def renderChar (c : Char) : List Char :=
  match escapes.lookup c with
  | some letter => [backslash, letter]
  | none => [c]

/-- The character that a letter stands for after a backslash. -/
def unescape (letter : Char) : Option Char :=
  (escapes.map Prod.swap).lookup letter

/-- The characters of a string whose first quote has been read, and the text after it. -/
def readChars : List Char → Option (List Char × List Char)
  | [] => none
  | [c] => if c = quote then some ([], []) else none
  | c :: next :: text =>
      if c = quote then
        some ([], next :: text)
      else if c = backslash then do
        let escaped ← unescape next
        let (chars, rest) ← readChars text
        some (escaped :: chars, rest)
      else do
        let (chars, rest) ← readChars (next :: text)
        some (c :: chars, rest)

theorem unescape_of_lookup {c letter : Char} (escaped : escapes.lookup c = some letter) :
    unescape letter = some c := by
  have member : (c, letter) ∈ escapes := by
    have found := List.lookup_eq_some_iff.mp escaped
    obtain ⟨before, after, split, -⟩ := found
    rw [split]
    simp
  have all : ∀ pair ∈ escapes, unescape pair.2 = some pair.1 := by decide
  exact all (c, letter) member

theorem ne_of_lookup_none {c : Char} (plain : escapes.lookup c = none) :
    c ≠ quote ∧ c ≠ backslash := by
  constructor
  · rintro rfl
    exact absurd plain (by decide)
  · rintro rfl
    exact absurd plain (by decide)

theorem readChars_escaped {c letter : Char} (escaped : unescape letter = some c)
    (text : List Char) :
    readChars (backslash :: letter :: text) =
      (readChars text).bind fun scanned => some (c :: scanned.1, scanned.2) := by
  rw [readChars, if_neg (by decide), if_pos rfl, escaped]
  rfl

theorem readChars_plain {c : Char} (noQuote : c ≠ quote) (noBackslash : c ≠ backslash)
    (text : List Char) :
    readChars (c :: text) =
      (readChars text).bind fun scanned => some (c :: scanned.1, scanned.2) := by
  cases text with
  | nil => simp only [readChars, if_neg noQuote, Option.bind_none]
  | cons next text =>
      rw [readChars, if_neg noQuote, if_neg noBackslash]
      rfl

theorem readChars_flatMap (chars rest : List Char) :
    readChars (chars.flatMap renderChar ++ quote :: rest) = some (chars, rest) := by
  induction chars with
  | nil => cases rest <;> simp [readChars]
  | cons c chars ih =>
      rw [List.flatMap_cons, List.append_assoc]
      cases escaped : escapes.lookup c with
      | none =>
          obtain ⟨noQuote, noBackslash⟩ := ne_of_lookup_none escaped
          have plain : renderChar c = [c] := by rw [renderChar, escaped]
          rw [plain, List.singleton_append, readChars_plain noQuote noBackslash, ih]
          rfl
      | some letter =>
          have marked : renderChar c = [backslash, letter] := by rw [renderChar, escaped]
          rw [marked, List.cons_append, List.singleton_append,
            readChars_escaped (unescape_of_lookup escaped), ih]
          rfl

def renderString (text : String) : List Char :=
  quote :: (text.toList.flatMap renderChar ++ [quote])

/-- A string whose first quote has been read. -/
def readString (text : List Char) : Option (String × List Char) :=
  (readChars text).map fun scanned => (String.ofList scanned.1, scanned.2)

theorem renderString_append (text : String) (rest : List Char) :
    renderString text ++ rest = quote :: (text.toList.flatMap renderChar ++ quote :: rest) := by
  rw [renderString, List.cons_append, List.append_assoc, List.singleton_append]

theorem readString_render (text : String) (rest : List Char) :
    readString (text.toList.flatMap renderChar ++ quote :: rest) = some (text, rest) := by
  rw [readString, readChars_flatMap, Option.map_some, String.ofList_toList]

/-! ## Numbers -/

def renderNumber (n : ℤ) : List Char :=
  if n < 0 then '-' :: Nat.toDigits 10 n.natAbs else Nat.toDigits 10 n.natAbs

/-- A number without a sign. -/
def readDigits (text : List Char) : Option (ℕ × List Char) :=
  let digits := text.takeWhile Char.isDigit
  if digits = [] then none
  else some (Nat.ofDigitChars 10 digits 0, text.dropWhile Char.isDigit)

def readNumber : List Char → Option (ℤ × List Char)
  | [] => none
  | c :: text =>
      if c = '-' then
        (readDigits text).map fun scanned => (-(scanned.1 : ℤ), scanned.2)
      else
        (readDigits (c :: text)).map fun scanned => ((scanned.1 : ℤ), scanned.2)

/-- No digit comes next. -/
def EndsDigits (rest : List Char) : Prop := ∀ c ∈ rest.head?, c.isDigit = false

theorem takeWhile_of_endsDigits {rest : List Char} (ends : EndsDigits rest) :
    rest.takeWhile Char.isDigit = [] ∧ rest.dropWhile Char.isDigit = rest := by
  cases rest with
  | nil => exact ⟨rfl, rfl⟩
  | cons c rest =>
      have noDigit := ends c rfl
      exact ⟨List.takeWhile_cons_of_neg (by rw [noDigit]; decide),
        List.dropWhile_cons_of_neg (by rw [noDigit]; decide)⟩

theorem readDigits_toDigits (n : ℕ) {rest : List Char} (ends : EndsDigits rest) :
    readDigits (Nat.toDigits 10 n ++ rest) = some (n, rest) := by
  obtain ⟨noneTaken, allLeft⟩ := takeWhile_of_endsDigits ends
  have digits : ∀ c ∈ Nat.toDigits 10 n, c.isDigit = true := fun c member =>
    Nat.isDigit_of_mem_toDigits (by decide) (by decide) member
  have taken : (Nat.toDigits 10 n ++ rest).takeWhile Char.isDigit = Nat.toDigits 10 n := by
    rw [List.takeWhile_append_of_pos digits, noneTaken, List.append_nil]
  have left : (Nat.toDigits 10 n ++ rest).dropWhile Char.isDigit = rest := by
    rw [List.dropWhile_append_of_pos digits, allLeft]
  unfold readDigits
  rw [taken, left]
  dsimp only
  rw [if_neg Nat.toDigits_ne_nil, Nat.ofDigitChars_ten_toDigits]

theorem head_toDigits (n : ℕ) :
    ∃ digit digits, Nat.toDigits 10 n = digit :: digits ∧ digit.isDigit = true := by
  cases written : Nat.toDigits 10 n with
  | nil => exact absurd written Nat.toDigits_ne_nil
  | cons digit digits =>
      refine ⟨digit, digits, rfl, ?_⟩
      exact Nat.isDigit_of_mem_toDigits (b := 10) (n := n) (by decide) (by decide)
        (by rw [written]; exact List.mem_cons_self)

theorem readNumber_render (n : ℤ) {rest : List Char} (ends : EndsDigits rest) :
    readNumber (renderNumber n ++ rest) = some (n, rest) := by
  unfold renderNumber
  by_cases negative : n < 0
  · rw [if_pos negative, List.cons_append, readNumber, if_pos rfl,
      readDigits_toDigits n.natAbs ends, Option.map_some]
    have magnitude : -(n.natAbs : ℤ) = n := by omega
    rw [magnitude]
  · rw [if_neg negative]
    obtain ⟨digit, digits, written, isDigit⟩ := head_toDigits n.natAbs
    have noSign : digit ≠ '-' := by
      rintro rfl
      exact absurd isDigit (by decide)
    have read := readDigits_toDigits n.natAbs ends
    rw [written, List.cons_append] at read ⊢
    have magnitude : (n.natAbs : ℤ) = n := by omega
    rw [readNumber, if_neg noSign, read, Option.map_some, magnitude]

/-! ## Values -/

mutual

def renderValue : Value → List Char
  | .null => "null".toList
  | .bool true => "true".toList
  | .bool false => "false".toList
  | .num n => renderNumber n
  | .str text => renderString text
  | .arr [] => ['[', ']']
  | .arr (item :: items) => '[' :: (renderValue item ++ renderItems items)
  | .obj [] => ['{', '}']
  | .obj ((name, value) :: members) =>
      '{' :: (renderString name ++ ':' :: (renderValue value ++ renderMembers members))

/-- The items after the first, and the end of their array. -/
def renderItems : List Value → List Char
  | [] => [']']
  | item :: items => ',' :: (renderValue item ++ renderItems items)

/-- The members after the first, and the end of their object. -/
def renderMembers : Members → List Char
  | [] => ['}']
  | (name, value) :: members =>
      ',' :: (renderString name ++ ':' :: (renderValue value ++ renderMembers members))

end

/-- A word that has to come next. -/
def expect (word : List Char) (value : Value) (text : List Char) : Option (Value × List Char) :=
  if word <+: text then some (value, text.drop word.length) else none

mutual

def readValue : ℕ → List Char → Option (Value × List Char)
  | 0, _ => none
  | _ + 1, [] => none
  | fuel + 1, c :: text =>
      if c = 'n' then expect "ull".toList .null text
      else if c = 't' then expect "rue".toList (.bool true) text
      else if c = 'f' then expect "alse".toList (.bool false) text
      else if c = quote then (readString text).map fun scanned => (.str scanned.1, scanned.2)
      else if c = '[' then readArray fuel text
      else if c = '{' then readObject fuel text
      else (readNumber (c :: text)).map fun scanned => (.num scanned.1, scanned.2)

/-- An array whose bracket has been read. -/
def readArray : ℕ → List Char → Option (Value × List Char)
  | 0, _ => none
  | fuel + 1, text =>
      if text.head? = some ']' then
        some (.arr [], text.tail)
      else do
        let (item, rest) ← readValue fuel text
        let (items, rest) ← readItems fuel rest
        some (.arr (item :: items), rest)

def readItems : ℕ → List Char → Option (List Value × List Char)
  | 0, _ => none
  | _ + 1, [] => none
  | fuel + 1, c :: text =>
      if c = ']' then
        some ([], text)
      else if c = ',' then do
        let (item, rest) ← readValue fuel text
        let (items, rest) ← readItems fuel rest
        some (item :: items, rest)
      else none

/-- An object whose brace has been read. -/
def readObject : ℕ → List Char → Option (Value × List Char)
  | 0, _ => none
  | fuel + 1, text =>
      if text.head? = some '}' then
        some (.obj [], text.tail)
      else do
        let (member, rest) ← readMember fuel text
        let (members, rest) ← readMembers fuel rest
        some (.obj (member :: members), rest)

def readMembers : ℕ → List Char → Option (Members × List Char)
  | 0, _ => none
  | _ + 1, [] => none
  | fuel + 1, c :: text =>
      if c = '}' then
        some ([], text)
      else if c = ',' then do
        let (member, rest) ← readMember fuel text
        let (members, rest) ← readMembers fuel rest
        some (member :: members, rest)
      else none

def readMember : ℕ → List Char → Option ((String × Value) × List Char)
  | 0, _ => none
  | fuel + 1, text =>
      if text.head? = some quote then do
        let (name, rest) ← readString text.tail
        if rest.head? = some ':' then do
          let (value, rest) ← readValue fuel rest.tail
          some ((name, value), rest)
        else none
      else none

end

/-! ## What is written is read -/

theorem renderValue_num (n : ℤ) : renderValue (.num n) = renderNumber n := rfl

theorem renderValue_str (text : String) : renderValue (.str text) = renderString text := rfl

theorem renderValue_arr_nil : renderValue (.arr []) = ['[', ']'] := rfl

theorem renderValue_arr_cons (item : Value) (items : List Value) :
    renderValue (.arr (item :: items)) = '[' :: (renderValue item ++ renderItems items) :=
  rfl

theorem renderValue_obj_nil : renderValue (.obj []) = ['{', '}'] := rfl

theorem renderValue_obj_cons (name : String) (value : Value) (members : Members) :
    renderValue (.obj ((name, value) :: members)) =
      '{' :: (renderString name ++ ':' :: (renderValue value ++ renderMembers members)) :=
  rfl

/-- The text of a value is read as the value, whatever comes after it. -/
def ReadsBack (value : Value) : Prop :=
  ∀ fuel rest, 2 * (renderValue value).length ≤ fuel → EndsDigits rest →
    readValue fuel (renderValue value ++ rest) = some (value, rest)

theorem head_renderValue (value : Value) :
    ∃ c text, renderValue value = c :: text ∧ c ≠ ']' := by
  unfold renderValue
  split
  case h_4 n =>
      unfold renderNumber
      obtain ⟨digit, digits, written, isDigit⟩ := head_toDigits n.natAbs
      by_cases negative : n < 0
      · exact ⟨'-', _, if_pos negative, by decide⟩
      · refine ⟨digit, digits, by rw [if_neg negative, written], ?_⟩
        rintro rfl
        exact absurd isDigit (by decide)
  all_goals exact ⟨_, _, rfl, by decide⟩

theorem endsDigits_cons {c : Char} (noDigit : c.isDigit = false) (rest : List Char) :
    EndsDigits (c :: rest) := by
  intro other found
  obtain rfl : c = other := by simpa using found
  exact noDigit

theorem endsDigits_renderItems (items : List Value) (rest : List Char) :
    EndsDigits (renderItems items ++ rest) := by
  cases items with
  | nil => exact endsDigits_cons (by decide) rest
  | cons item items => exact endsDigits_cons (by decide) _

theorem endsDigits_renderMembers (members : Members) (rest : List Char) :
    EndsDigits (renderMembers members ++ rest) := by
  cases members with
  | nil => exact endsDigits_cons (by decide) rest
  | cons member members => exact endsDigits_cons (by decide) _

theorem expect_append (word rest : List Char) (value : Value) :
    expect word value (word ++ rest) = some (value, rest) := by
  rw [expect, if_pos (List.prefix_append word rest), List.drop_left]

theorem readsBack_num (n : ℤ) : ReadsBack (.num n) := by
  intro fuel rest enough ends
  have read := readNumber_render n ends
  obtain ⟨c, text, written, sign⟩ : ∃ c text, renderNumber n = c :: text ∧
      (c = '-' ∨ c.isDigit = true) := by
    unfold renderNumber
    obtain ⟨digit, digits, written, isDigit⟩ := head_toDigits n.natAbs
    by_cases negative : n < 0
    · exact ⟨'-', _, if_pos negative, Or.inl rfl⟩
    · exact ⟨digit, digits, by rw [if_neg negative, written], Or.inr isDigit⟩
  have other : ∀ word : Char, word ≠ '-' → word.isDigit = false → c ≠ word := by
    rintro word noSign noDigit rfl
    rcases sign with rfl | isDigit
    · exact noSign rfl
    · rw [noDigit] at isDigit
      cases isDigit
  rw [renderValue_num, written] at enough ⊢
  rw [written] at read
  obtain ⟨fuel, rfl⟩ : ∃ less, fuel = less + 1 := ⟨fuel - 1, by simp at enough; omega⟩
  rw [List.cons_append] at read ⊢
  rw [readValue, if_neg (other _ (by decide) (by decide)), if_neg (other _ (by decide) (by decide)),
    if_neg (other _ (by decide) (by decide)), if_neg (other _ (by decide) (by decide)),
    if_neg (other _ (by decide) (by decide)), if_neg (other _ (by decide) (by decide)), read]
  rfl

theorem readsBack_str (text : String) : ReadsBack (.str text) := by
  intro fuel rest enough _
  obtain ⟨fuel, rfl⟩ : ∃ less, fuel = less + 1 :=
    ⟨fuel - 1, by simp [renderValue_str, renderString] at enough; omega⟩
  rw [renderValue_str, renderString_append, readValue, if_neg (by decide), if_neg (by decide),
    if_neg (by decide), if_pos rfl, readString_render]
  rfl

theorem readItems_render (items : List Value) (back : ∀ item ∈ items, ReadsBack item) (fuel : ℕ)
    (rest : List Char) (enough : 2 * (renderItems items).length ≤ fuel) :
    readItems fuel (renderItems items ++ rest) = some (items, rest) := by
  induction items generalizing fuel with
  | nil =>
      obtain ⟨fuel, rfl⟩ : ∃ less, fuel = less + 1 :=
        ⟨fuel - 1, by simp [renderItems] at enough; omega⟩
      rw [renderItems, List.singleton_append, readItems, if_pos rfl]
  | cons item items ih =>
      rw [renderItems, List.length_cons, List.length_append] at enough
      obtain ⟨fuel, rfl⟩ : ∃ less, fuel = less + 1 := ⟨fuel - 1, by omega⟩
      have first := back item List.mem_cons_self fuel (renderItems items ++ rest) (by omega)
        (endsDigits_renderItems items rest)
      have others := ih (fun other member => back other (List.mem_cons_of_mem item member)) fuel
        (by omega)
      rw [renderItems, List.cons_append, List.append_assoc, readItems, if_neg (by decide),
        if_pos rfl, first]
      simp only [Option.bind_eq_bind, Option.bind_some, others]

theorem readsBack_arr (items : List Value) (back : ∀ item ∈ items, ReadsBack item) :
    ReadsBack (.arr items) := by
  intro fuel rest enough _
  cases items with
  | nil =>
      obtain ⟨fuel, rfl⟩ : ∃ less, fuel = less + 2 :=
        ⟨fuel - 2, by simp [renderValue_arr_nil] at enough; omega⟩
      rfl
  | cons item items =>
      rw [renderValue_arr_cons, List.length_cons, List.length_append] at enough
      obtain ⟨fuel, rfl⟩ : ∃ less, fuel = less + 2 := ⟨fuel - 2, by omega⟩
      have first := back item List.mem_cons_self fuel (renderItems items ++ rest) (by omega)
        (endsDigits_renderItems items rest)
      have others := readItems_render items
        (fun other member => back other (List.mem_cons_of_mem item member)) fuel rest (by omega)
      obtain ⟨c, text, written, noBracket⟩ := head_renderValue item
      have noEnd : (renderValue item ++ (renderItems items ++ rest)).head? ≠ some ']' := by
        rw [written, List.cons_append, List.head?_cons]
        exact fun same => noBracket (Option.some.inj same)
      rw [renderValue_arr_cons, List.cons_append, List.append_assoc, readValue, if_neg (by decide),
        if_neg (by decide), if_neg (by decide), if_neg (by decide), if_pos rfl, readArray,
        if_neg noEnd, first]
      simp only [Option.bind_eq_bind, Option.bind_some, others]

theorem readMember_render (name : String) {value : Value} (back : ReadsBack value) (fuel : ℕ)
    {rest : List Char} (enough : 2 * (renderValue value).length < fuel) (ends : EndsDigits rest) :
    readMember fuel (renderString name ++ ':' :: (renderValue value ++ rest)) =
      some ((name, value), rest) := by
  obtain ⟨fuel, rfl⟩ : ∃ less, fuel = less + 1 := ⟨fuel - 1, by omega⟩
  rw [renderString_append, readMember, List.head?_cons, if_pos rfl, List.tail_cons,
    readString_render]
  simp only [Option.bind_eq_bind, Option.bind_some, List.head?_cons, if_true, List.tail_cons]
  rw [back fuel rest (by omega) ends, Option.bind_some]

theorem readMembers_render (members : Members) (back : ∀ member ∈ members, ReadsBack member.2)
    (fuel : ℕ) (rest : List Char) (enough : 2 * (renderMembers members).length ≤ fuel) :
    readMembers fuel (renderMembers members ++ rest) = some (members, rest) := by
  induction members generalizing fuel with
  | nil =>
      obtain ⟨fuel, rfl⟩ : ∃ less, fuel = less + 1 :=
        ⟨fuel - 1, by simp [renderMembers] at enough; omega⟩
      rw [renderMembers, List.singleton_append, readMembers, if_pos rfl]
  | cons member members ih =>
      obtain ⟨name, value⟩ := member
      simp only [renderMembers, List.length_cons, List.length_append] at enough
      obtain ⟨fuel, rfl⟩ : ∃ less, fuel = less + 1 := ⟨fuel - 1, by omega⟩
      have ofValue : ReadsBack value := back (name, value) List.mem_cons_self
      have first := readMember_render name ofValue fuel (by omega)
        (endsDigits_renderMembers members rest)
      have others := ih (fun other member => back other (List.mem_cons_of_mem _ member)) fuel
        (by omega)
      rw [renderMembers, List.cons_append, List.append_assoc, List.cons_append, List.append_assoc,
        readMembers, if_neg (by decide), if_pos rfl, first]
      simp only [Option.bind_eq_bind, Option.bind_some, others]

theorem readsBack_obj (members : Members) (back : ∀ member ∈ members, ReadsBack member.2) :
    ReadsBack (.obj members) := by
  intro fuel rest enough _
  cases members with
  | nil =>
      obtain ⟨fuel, rfl⟩ : ∃ less, fuel = less + 2 :=
        ⟨fuel - 2, by simp [renderValue_obj_nil] at enough; omega⟩
      rfl
  | cons member members =>
      obtain ⟨name, value⟩ := member
      simp only [renderValue_obj_cons, List.length_cons, List.length_append] at enough
      obtain ⟨fuel, rfl⟩ : ∃ less, fuel = less + 2 := ⟨fuel - 2, by omega⟩
      have ofValue : ReadsBack value := back (name, value) List.mem_cons_self
      have first := readMember_render name ofValue fuel (by omega)
        (endsDigits_renderMembers members rest)
      have others := readMembers_render members
        (fun other member => back other (List.mem_cons_of_mem _ member)) fuel rest (by omega)
      rw [renderValue_obj_cons, List.cons_append, List.append_assoc, List.cons_append,
        List.append_assoc, readValue, if_neg (by decide), if_neg (by decide), if_neg (by decide),
        if_neg (by decide), if_neg (by decide), if_pos rfl, readObject, renderString_append,
        List.head?_cons, if_neg (by decide), ← renderString_append, first]
      simp only [Option.bind_eq_bind, Option.bind_some, others]

theorem readsBack (value : Value) : ReadsBack value := by
  induction value using Value.parts_induction with
  | plain value noArray noObject =>
      cases value with
      | null =>
          intro fuel rest enough _
          obtain ⟨fuel, rfl⟩ : ∃ less, fuel = less + 1 :=
            ⟨fuel - 1, by simp [renderValue] at enough; omega⟩
          exact expect_append "ull".toList rest .null
      | bool value =>
          intro fuel rest enough _
          cases value with
          | true =>
              obtain ⟨fuel, rfl⟩ : ∃ less, fuel = less + 1 :=
                ⟨fuel - 1, by simp [renderValue] at enough; omega⟩
              exact expect_append "rue".toList rest (.bool true)
          | false =>
              obtain ⟨fuel, rfl⟩ : ∃ less, fuel = less + 1 :=
                ⟨fuel - 1, by simp [renderValue] at enough; omega⟩
              exact expect_append "alse".toList rest (.bool false)
      | num n => exact readsBack_num n
      | str text => exact readsBack_str text
      | arr items => exact absurd rfl (noArray items)
      | obj members => exact absurd rfl (noObject members)
  | arr items back => exact readsBack_arr items back
  | obj members back => exact readsBack_obj members back

/-! ## Texts -/

def render (value : Value) : String := String.ofList (renderValue value)

/-- The value of a text that has nothing after it. -/
def parse (text : String) : Option Value :=
  match readValue (2 * text.toList.length) text.toList with
  | some (value, []) => some value
  | _ => none

theorem parse_render (value : Value) : parse (render value) = some value := by
  have read := readsBack value (2 * (renderValue value).length) [] (le_refl _)
    (by simp [EndsDigits])
  rw [List.append_nil] at read
  rw [parse, render, String.toList_ofList, read]

end JsonText
