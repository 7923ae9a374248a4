import Mathlib.Data.List.Nodup
import Mathlib.Data.List.TakeWhile

/-!
# String literals in three dialects of SQL

A string literal stands between quotes, and a quote inside it is written twice.  MySQL also
reads a backslash together with the character after it, and the other two dialects end their
text at a character with the code zero.  The tokens are those of comparisons: names, signs,
literals and parentheses.  Any other character ends the lexer.
-/

namespace SqlText

inductive Dialect where
  | sqlite
  | postgresql
  | mysql
  deriving DecidableEq

def quote : Char := Char.ofNat 39

def backslash : Char := Char.ofNat 92

def nul : Char := Char.ofNat 0

/-! ## Literals -/

/-- What a character after a backslash stands for; a pattern keeps its backslash. -/
def unescape (c : Char) : List Char :=
  if c = '%' ∨ c = '_' then [backslash, c]
  else if c = '0' then [nul]
  else if c = 'b' then [Char.ofNat 8]
  else if c = 't' then [Char.ofNat 9]
  else if c = 'n' then [Char.ofNat 10]
  else if c = 'r' then [Char.ofNat 13]
  else if c = 'Z' then [Char.ofNat 26]
  else [c]

/-- What comes before the next character of a literal. -/
inductive Position where
  | inside
  | afterQuote
  | afterBackslash

/-- The value of a literal whose first quote has been read, and the text after it. -/
def scanLiteral (dialect : Dialect) : Position → List Char → Option (List Char × List Char)
  | .inside, [] => none
  | .inside, c :: text =>
      if c = quote then
        scanLiteral dialect .afterQuote text
      else if dialect = .mysql ∧ c = backslash then
        scanLiteral dialect .afterBackslash text
      else
        (scanLiteral dialect .inside text).map fun scanned => (c :: scanned.1, scanned.2)
  | .afterQuote, [] => some ([], [])
  | .afterQuote, c :: text =>
      if c = quote then
        (scanLiteral dialect .inside text).map fun scanned => (quote :: scanned.1, scanned.2)
      else
        some ([], c :: text)
  | .afterBackslash, [] => none
  | .afterBackslash, c :: text =>
      (scanLiteral dialect .inside text).map fun scanned => (unescape c ++ scanned.1, scanned.2)

/-- Every quote is written twice. -/
def doubleQuotes : List Char → List Char
  | [] => []
  | c :: value => if c = quote then quote :: quote :: doubleQuotes value else c :: doubleQuotes value

/-- The text starts with a percent sign or an underscore. -/
def startsPattern : List Char → Bool
  | [] => false
  | c :: _ => c == '%' || c == '_'

/-- Every backslash stands before a percent sign or an underscore. -/
def keepsBackslashes : List Char → Bool
  | [] => true
  | c :: value => (c != backslash || startsPattern value) && keepsBackslashes value

section Literals

variable {dialect : Dialect} {c : Char} {text value rest : List Char}

theorem scanLiteral_quote (dialect : Dialect) (text : List Char) :
    scanLiteral dialect .inside (quote :: text) = scanLiteral dialect .afterQuote text :=
  if_pos rfl

theorem scanLiteral_two_quotes (dialect : Dialect) (text : List Char) :
    scanLiteral dialect .inside (quote :: quote :: text) =
      (scanLiteral dialect .inside text).map fun scanned => (quote :: scanned.1, scanned.2) := by
  rw [scanLiteral_quote]
  exact if_pos rfl

theorem scanLiteral_plain (notQuote : c ≠ quote) (notEscape : dialect = .mysql → c ≠ backslash)
    (text : List Char) :
    scanLiteral dialect .inside (c :: text) =
      (scanLiteral dialect .inside text).map fun scanned => (c :: scanned.1, scanned.2) :=
  (if_neg notQuote).trans (if_neg fun both => notEscape both.1 both.2)

theorem scanLiteral_afterBackslash (dialect : Dialect) (c : Char) (text : List Char) :
    scanLiteral dialect .afterBackslash (c :: text) =
      (scanLiteral dialect .inside text).map fun scanned =>
        (unescape c ++ scanned.1, scanned.2) := rfl

theorem doubleQuotes_of_ne (notQuote : c ≠ quote) (value : List Char) :
    doubleQuotes (c :: value) = c :: doubleQuotes value :=
  if_neg notQuote

/-- A quote that no other follows ends a literal. -/
theorem scanLiteral_end (open' : ∀ more, rest ≠ quote :: more) :
    scanLiteral dialect .inside (quote :: rest) = some ([], rest) := by
  rw [scanLiteral_quote]
  cases rest with
  | nil => rfl
  | cons c more =>
      refine if_neg ?_
      rintro rfl
      exact open' more rfl

/-- Where a backslash is a character like any other, doubled quotes are read back. -/
theorem scanLiteral_doubleQuotes (other : dialect ≠ .mysql) (value : List Char)
    (open' : ∀ more, rest ≠ quote :: more) :
    scanLiteral dialect .inside (doubleQuotes value ++ quote :: rest) = some (value, rest) := by
  induction value with
  | nil => exact scanLiteral_end open'
  | cons c value ih =>
      by_cases isQuote : c = quote
      · subst isQuote
        rw [doubleQuotes, if_pos rfl, List.cons_append, List.cons_append, scanLiteral_two_quotes,
          ih, Option.map_some]
      · rw [doubleQuotes_of_ne isQuote, List.cons_append,
          scanLiteral_plain isQuote fun isMysql => absurd isMysql other, ih, Option.map_some]

/-- A literal that no quote ends is no literal. -/
theorem scanLiteral_of_not_mem (unclosed : quote ∉ text) :
    scanLiteral dialect .inside text = none ∧ scanLiteral dialect .afterBackslash text = none := by
  induction text with
  | nil => exact ⟨rfl, rfl⟩
  | cons c text ih =>
      rw [List.mem_cons, not_or] at unclosed
      obtain ⟨inside, afterBackslash⟩ := ih unclosed.2
      constructor
      · rw [scanLiteral, if_neg (Ne.symm unclosed.1), inside, afterBackslash]
        split <;> rfl
      · rw [scanLiteral, inside]
        rfl

theorem scanLiteral_doubleQuotes_unclosed (other : dialect ≠ .mysql) (value : List Char) :
    scanLiteral dialect .inside (doubleQuotes value) = none := by
  induction value with
  | nil => rfl
  | cons c value ih =>
      by_cases isQuote : c = quote
      · subst isQuote
        rw [doubleQuotes, if_pos rfl, scanLiteral_two_quotes, ih]
        rfl
      · rw [doubleQuotes_of_ne isQuote,
          scanLiteral_plain isQuote fun isMysql => absurd isMysql other, ih]
        rfl

/-! ### Backslashes -/

theorem length_unescape_le (c : Char) : (unescape c).length ≤ 2 := by
  delta unescape
  split_ifs <;> simp

theorem unescape_backslash : unescape backslash = [backslash] := by decide

theorem unescape_quote : unescape quote = [quote] := by decide

/-- Only a backslash or a pattern gives a backslash first. -/
theorem unescape_eq_cons_backslash {more tail : List Char}
    (escaped : unescape c ++ more = backslash :: tail) :
    (c = '%' ∨ c = '_') ∧ c :: more = tail ∨ c = backslash ∧ more = tail := by
  by_cases isBackslash : c = backslash
  · subst isBackslash
    rw [unescape_backslash] at escaped
    exact Or.inr ⟨rfl, (List.cons.inj escaped).2⟩
  · delta unescape at escaped
    split at escaped
    · rename_i pattern
      exact Or.inl ⟨pattern, (List.cons.inj escaped).2⟩
    · exfalso
      split_ifs at escaped
      all_goals have first := (List.cons.inj escaped).1
      case neg => exact isBackslash first
      all_goals exact absurd first (by decide)

theorem scanLiteral_backslash (text : List Char) :
    scanLiteral .mysql .inside (backslash :: text) = scanLiteral .mysql .afterBackslash text := by
  rw [scanLiteral, if_neg (by decide), if_pos ⟨rfl, rfl⟩]

/-- Within doubled quotes no more characters are read than were written.  After a backslash has
taken one quote of a pair, the other one is read with what follows. -/
theorem length_scanLiteral_le (unclosed : quote ∉ rest) (value : List Char) :
    (∀ scanned, scanLiteral .mysql .inside (doubleQuotes value ++ quote :: rest) = some scanned →
      scanned.1.length ≤ value.length) ∧
    (∀ scanned,
      scanLiteral .mysql .afterQuote (doubleQuotes value ++ quote :: rest) = some scanned →
        scanned.1.length ≤ value.length) ∧
    ∀ scanned,
      scanLiteral .mysql .afterBackslash (doubleQuotes value ++ quote :: rest) = some scanned →
        scanned.1.length ≤ value.length + 1 := by
  induction value with
  | nil =>
      have nothing : scanLiteral .mysql .inside rest = none :=
        (scanLiteral_of_not_mem unclosed).1
      refine ⟨?_, ?_, ?_⟩
      · intro scanned found
        rw [doubleQuotes, List.nil_append, scanLiteral_end] at found
        · cases found
          exact Nat.le_refl 0
        · rintro more rfl
          exact unclosed List.mem_cons_self
      · intro scanned found
        rw [doubleQuotes, List.nil_append, scanLiteral, if_pos rfl, nothing] at found
        cases found
      · intro scanned found
        rw [doubleQuotes, List.nil_append, scanLiteral, nothing] at found
        cases found
  | cons c value ih =>
      obtain ⟨inside, afterQuote, afterBackslash⟩ := ih
      by_cases isQuote : c = quote
      · subst isQuote
        rw [doubleQuotes, if_pos rfl, List.cons_append, List.cons_append]
        refine ⟨?_, ?_, ?_⟩
        · intro scanned found
          rw [scanLiteral_two_quotes] at found
          obtain ⟨tail, isTail, rfl⟩ := Option.map_eq_some_iff.mp found
          simpa using inside tail isTail
        · intro scanned found
          rw [scanLiteral, if_pos rfl, scanLiteral_quote] at found
          obtain ⟨tail, isTail, rfl⟩ := Option.map_eq_some_iff.mp found
          simpa using afterQuote tail isTail
        · intro scanned found
          rw [scanLiteral, scanLiteral_quote, unescape_quote] at found
          obtain ⟨tail, isTail, rfl⟩ := Option.map_eq_some_iff.mp found
          have bound := afterQuote tail isTail
          simp only [List.length_append, List.length_cons, List.length_nil]
          omega
      · rw [doubleQuotes_of_ne isQuote, List.cons_append]
        refine ⟨?_, ?_, ?_⟩
        · intro scanned found
          by_cases isBackslash : c = backslash
          · subst isBackslash
            rw [scanLiteral_backslash] at found
            simpa using afterBackslash scanned found
          · rw [scanLiteral_plain isQuote fun _ => isBackslash] at found
            obtain ⟨tail, isTail, rfl⟩ := Option.map_eq_some_iff.mp found
            simpa using inside tail isTail
        · intro scanned found
          rw [scanLiteral, if_neg isQuote] at found
          cases found
          exact Nat.zero_le _
        · intro scanned found
          rw [scanLiteral] at found
          obtain ⟨tail, isTail, rfl⟩ := Option.map_eq_some_iff.mp found
          have bound := inside tail isTail
          have short := length_unescape_le c
          simp only [List.length_append, List.length_cons]
          omega

theorem keepsBackslashes_of_ne (notBackslash : c ≠ backslash) (value : List Char) :
    keepsBackslashes (c :: value) = keepsBackslashes value := by
  simp [keepsBackslashes, notBackslash]

theorem keepsBackslashes_backslash (value : List Char) :
    keepsBackslashes (backslash :: value) = (startsPattern value && keepsBackslashes value) := by
  simp [keepsBackslashes]

theorem map_cons_eq_some_iff (c : Char) (scanned : Option (List Char × List Char))
    (tail rest' : List Char) :
    (scanned.map fun scanned => (c :: scanned.1, scanned.2)) = some (c :: tail, rest') ↔
      scanned = some (tail, rest') := by
  cases scanned <;> simp [Prod.ext_iff]

/-- After a backslash the text has to go on with a pattern. -/
theorem scanLiteral_afterBackslash_iff (unclosed : quote ∉ rest) (value rest' : List Char) :
    scanLiteral .mysql .afterBackslash (doubleQuotes value ++ quote :: rest) =
        some (backslash :: value, rest') ↔
      startsPattern value = true ∧
        scanLiteral .mysql .inside (doubleQuotes value ++ quote :: rest) = some (value, rest') := by
  cases value with
  | nil =>
      have nothing : scanLiteral .mysql .inside rest = none :=
        (scanLiteral_of_not_mem unclosed).1
      have ends : scanLiteral .mysql .afterBackslash (quote :: rest) = none := by
        rw [scanLiteral, nothing]
        rfl
      simp [doubleQuotes, ends, startsPattern]
  | cons c value =>
      by_cases isQuote : c = quote
      · subst isQuote
        have notPattern : startsPattern (quote :: value) = false := by
          simp only [startsPattern]
          decide
        rw [notPattern, doubleQuotes, if_pos rfl, List.cons_append, scanLiteral_afterBackslash,
          unescape_quote]
        constructor
        · intro found
          obtain ⟨tail, _, equal⟩ := Option.map_eq_some_iff.mp found
          have first := (List.cons.inj (Prod.mk.inj equal).1).1
          exact absurd first (by decide)
        · rintro ⟨⟨⟩, _⟩
      · rw [doubleQuotes_of_ne isQuote, List.cons_append, scanLiteral_afterBackslash]
        constructor
        · intro found
          obtain ⟨tail, isTail, equal⟩ := Option.map_eq_some_iff.mp found
          obtain ⟨read, rfl⟩ := Prod.mk.inj equal
          rcases unescape_eq_cons_backslash read with ⟨pattern, same⟩ | ⟨rfl, same⟩
          · have notBackslash : c ≠ backslash := by
              rcases pattern with rfl | rfl <;> decide
            refine ⟨by simpa [startsPattern] using pattern, ?_⟩
            rw [scanLiteral_plain isQuote fun _ => notBackslash, isTail, ← (List.cons.inj same).2]
            rfl
          · exfalso
            have bound := (length_scanLiteral_le unclosed value).1 tail isTail
            rw [same, List.length_cons] at bound
            omega
        · rintro ⟨starts, found⟩
          have pattern : c = '%' ∨ c = '_' := by simpa [startsPattern] using starts
          have notBackslash : c ≠ backslash := by
            rcases pattern with rfl | rfl <;> decide
          rw [scanLiteral_plain isQuote fun _ => notBackslash, map_cons_eq_some_iff] at found
          rw [found, Option.map_some, unescape, if_pos pattern]
          rfl

/-- In MySQL doubled quotes are read back exactly when every backslash belongs to a pattern. -/
theorem scanLiteral_mysql_iff (unclosed : quote ∉ rest) (value rest' : List Char) :
    scanLiteral .mysql .inside (doubleQuotes value ++ quote :: rest) = some (value, rest') ↔
      keepsBackslashes value = true ∧ rest' = rest := by
  induction value with
  | nil =>
      rw [doubleQuotes, List.nil_append, scanLiteral_end]
      · simp [keepsBackslashes, eq_comm]
      · rintro more rfl
        exact unclosed List.mem_cons_self
  | cons c value ih =>
      by_cases isQuote : c = quote
      · subst isQuote
        rw [doubleQuotes, if_pos rfl, List.cons_append, List.cons_append, scanLiteral_two_quotes,
          map_cons_eq_some_iff, keepsBackslashes_of_ne (by decide)]
        exact ih
      · rw [doubleQuotes_of_ne isQuote, List.cons_append]
        by_cases isBackslash : c = backslash
        · subst isBackslash
          rw [scanLiteral_backslash, scanLiteral_afterBackslash_iff unclosed,
            keepsBackslashes_backslash, Bool.and_eq_true, and_assoc]
          exact and_congr_right fun _ => ih
        · rw [scanLiteral_plain isQuote fun _ => isBackslash, map_cons_eq_some_iff,
            keepsBackslashes_of_ne isBackslash]
          exact ih

end Literals

/-! ## Tokens -/

inductive Token where
  | opening
  | closing
  | name (text : List Char)
  | sign (text : List Char)
  | literal (value : List Char)
  deriving DecidableEq

def isNameStart (c : Char) : Bool := c.isAlpha || c == '_'

def isNameChar (c : Char) : Bool := c.isAlphanum || c == '_'

def isSignChar (c : Char) : Bool := c == '=' || c == '<' || c == '>' || c == '!'

/-- A name that stands without quotes. -/
structure Name where
  first : Char
  more : List Char
  starts : isNameStart first = true
  continues : ∀ c ∈ more, isNameChar c = true

def Name.chars (name : Name) : List Char := name.first :: name.more

/-- The sign of a comparison. -/
structure Sign where
  first : Char
  more : List Char
  starts : isSignChar first = true
  continues : ∀ c ∈ more, isSignChar c = true

def Sign.chars (sign : Sign) : List Char := sign.first :: sign.more

/-- The part of a text that is read. -/
def Dialect.readable : Dialect → List Char → List Char
  | .mysql, text => text
  | _, text => text.takeWhile fun c => c != nul

/-- The first token of a text, which does not start with a blank, and the text after it. -/
def nextToken (dialect : Dialect) : List Char → Option (Token × List Char)
  | [] => none
  | c :: text =>
      if c = '(' then
        some (.opening, text)
      else if c = ')' then
        some (.closing, text)
      else if c = quote then
        (scanLiteral dialect .inside text).map fun scanned => (.literal scanned.1, scanned.2)
      else if isSignChar c then
        some (.sign (c :: text.takeWhile isSignChar), text.dropWhile isSignChar)
      else if isNameStart c then
        some (.name (c :: text.takeWhile isNameChar), text.dropWhile isNameChar)
      else
        none

/-- The tokens of a text that has at most as many characters as there is fuel. -/
def lexWith (dialect : Dialect) : ℕ → List Char → Option (List Token)
  | _, [] => some []
  | 0, _ :: _ => none
  | fuel + 1, c :: text =>
      if c.isWhitespace then
        lexWith dialect fuel text
      else
        (nextToken dialect (c :: text)).bind fun next =>
          (lexWith dialect fuel next.2).map fun tokens => next.1 :: tokens

/-- The tokens of a text. -/
def lex (dialect : Dialect) (text : List Char) : Option (List Token) :=
  lexWith dialect (dialect.readable text).length (dialect.readable text)

/-- A comparison with a value whose quotes are doubled. -/
def comparison (name : Name) (sign : Sign) (value : List Char) : List Char :=
  name.chars ++ sign.chars ++ quote :: (doubleQuotes value ++ [quote])

/-- What a value must be for its literal to be read back. -/
def Dialect.Keeps : Dialect → List Char → Prop
  | .mysql, value => keepsBackslashes value = true
  | _, value => nul ∉ value

instance (dialect : Dialect) (value : List Char) : Decidable (dialect.Keeps value) :=
  match dialect with
  | .mysql => inferInstanceAs (Decidable (keepsBackslashes value = true))
  | .sqlite | .postgresql => inferInstanceAs (Decidable (nul ∉ value))

section Tokens

variable {dialect : Dialect} {rest : List Char}

theorem span_append {p : Char → Bool} {run : List Char} (within : ∀ c ∈ run, p c = true)
    (ends : ∀ c more, rest = c :: more → p c = false) :
    (run ++ rest).takeWhile p = run ∧ (run ++ rest).dropWhile p = rest := by
  induction run with
  | nil =>
      cases rest with
      | nil => exact ⟨rfl, rfl⟩
      | cons c more => simp [ends c more rfl]
  | cons c run ih =>
      rw [List.forall_mem_cons] at within
      obtain ⟨taken, dropped⟩ := ih within.2
      rw [List.cons_append, List.takeWhile_cons_of_pos within.1,
        List.dropWhile_cons_of_pos within.1, taken, dropped]
      exact ⟨rfl, rfl⟩

/-- The characters that start a token are told apart, and none of them is a blank. -/
theorem isNameStart_apart {c : Char} (starts : isNameStart c = true) :
    c ≠ '(' ∧ c ≠ ')' ∧ c ≠ quote ∧ c ≠ nul ∧ isSignChar c = false ∧ c.isWhitespace = false := by
  refine ⟨?_, ?_, ?_, ?_, ?_, ?_⟩
  · rintro rfl
    exact absurd starts (by decide)
  · rintro rfl
    exact absurd starts (by decide)
  · rintro rfl
    exact absurd starts (by decide)
  · rintro rfl
    exact absurd starts (by decide)
  · by_contra isSign
    simp only [isSignChar, Bool.not_eq_false, Bool.or_eq_true, beq_iff_eq] at isSign
    rcases isSign with ((rfl | rfl) | rfl) | rfl <;> exact absurd starts (by decide)
  · by_contra blank
    simp only [Char.isWhitespace, Bool.not_eq_false, Bool.or_eq_true, decide_eq_true_eq] at blank
    rcases blank with ((rfl | rfl) | rfl) | rfl <;> exact absurd starts (by decide)

theorem isSignChar_apart {c : Char} (starts : isSignChar c = true) :
    c ≠ '(' ∧ c ≠ ')' ∧ c ≠ quote ∧ c ≠ nul ∧ isNameChar c = false ∧ c.isWhitespace = false := by
  simp only [isSignChar, Bool.or_eq_true, beq_iff_eq] at starts
  rcases starts with ((rfl | rfl) | rfl) | rfl <;> decide

theorem nextToken_name (name : Name)
    (ends : ∀ c more, rest = c :: more → isNameChar c = false) :
    nextToken dialect (name.chars ++ rest) = some (.name name.chars, rest) := by
  obtain ⟨taken, dropped⟩ := span_append name.continues ends
  obtain ⟨notOpening, notClosing, notQuote, _, notSign, _⟩ := isNameStart_apart name.starts
  rw [Name.chars, List.cons_append, nextToken, if_neg notOpening, if_neg notClosing,
    if_neg notQuote, if_neg (by simp [notSign]), if_pos name.starts, taken, dropped]

theorem nextToken_sign (sign : Sign)
    (ends : ∀ c more, rest = c :: more → isSignChar c = false) :
    nextToken dialect (sign.chars ++ rest) = some (.sign sign.chars, rest) := by
  obtain ⟨taken, dropped⟩ := span_append sign.continues ends
  obtain ⟨notOpening, notClosing, notQuote, _⟩ := isSignChar_apart sign.starts
  rw [Sign.chars, List.cons_append, nextToken, if_neg notOpening, if_neg notClosing,
    if_neg notQuote, if_pos sign.starts, taken, dropped]

theorem nextToken_literal (text : List Char) :
    nextToken dialect (quote :: text) =
      (scanLiteral dialect .inside text).map fun scanned =>
        (.literal scanned.1, scanned.2) := by
  rw [nextToken, if_neg (by decide), if_neg (by decide), if_pos rfl]

theorem lexWith_succ {c : Char} (notBlank : c.isWhitespace = false) (fuel : ℕ)
    (text : List Char) :
    lexWith dialect (fuel + 1) (c :: text) =
      (nextToken dialect (c :: text)).bind fun next =>
        (lexWith dialect fuel next.2).map fun tokens => next.1 :: tokens := by
  rw [lexWith, if_neg (by simp [notBlank])]

/-- The lexer reads a name and a sign, and then has to read a literal. -/
theorem lexWith_comparison (name : Name) (sign : Sign) (text : List Char) (fuel : ℕ) :
    lexWith dialect (fuel + 3) (name.chars ++ (sign.chars ++ quote :: text)) =
      (scanLiteral dialect .inside text).bind fun scanned =>
        (lexWith dialect fuel scanned.2).map fun tokens =>
          .name name.chars :: .sign sign.chars :: .literal scanned.1 :: tokens := by
  have nameEnds : ∀ c more, sign.chars ++ quote :: text = c :: more → isNameChar c = false := by
    rintro c more starts
    rw [Sign.chars, List.cons_append] at starts
    rw [← (List.cons.inj starts).1]
    exact (isSignChar_apart sign.starts).2.2.2.2.1
  have signEnds : ∀ c more, quote :: text = c :: more → isSignChar c = false := by
    rintro c more starts
    rw [← (List.cons.inj starts).1]
    decide
  have nameFirst : name.chars ++ (sign.chars ++ quote :: text) =
      name.first :: (name.more ++ (sign.chars ++ quote :: text)) := rfl
  have signFirst : sign.chars ++ quote :: text = sign.first :: (sign.more ++ quote :: text) := rfl
  rw [nameFirst, lexWith_succ (isNameStart_apart name.starts).2.2.2.2.2, ← nameFirst,
    nextToken_name name nameEnds, Option.bind_some]
  dsimp only
  rw [signFirst, lexWith_succ (isSignChar_apart sign.starts).2.2.2.2.2, ← signFirst,
    nextToken_sign sign signEnds, Option.bind_some]
  dsimp only
  rw [lexWith_succ (by decide), nextToken_literal]
  cases scanLiteral dialect .inside text with
  | none => rfl
  | some scanned =>
      rw [Option.map_some, Option.bind_some, Option.bind_some, Option.map_map, Option.map_map]
      rfl

/-! ### What is read -/

theorem readable_cons {c : Char} (notNul : c ≠ nul) (text : List Char) :
    dialect.readable (c :: text) = c :: dialect.readable text := by
  cases dialect <;> simp [Dialect.readable, notNul]

theorem readable_append {run : List Char} (noNul : nul ∉ run) (text : List Char) :
    dialect.readable (run ++ text) = run ++ dialect.readable text := by
  induction run with
  | nil => rfl
  | cons c run ih =>
      rw [List.mem_cons, not_or] at noNul
      rw [List.cons_append, readable_cons (Ne.symm noNul.1), ih noNul.2, List.cons_append]

theorem mem_doubleQuotes {c : Char} {value : List Char} : c ∈ doubleQuotes value ↔ c ∈ value := by
  induction value with
  | nil => rfl
  | cons d value ih =>
      rw [doubleQuotes]
      split
      · rename_i isQuote
        simp [ih, isQuote]
      · simp [ih]

/-- A text that ends within its literal. -/
theorem takeWhile_doubleQuotes {value : List Char} (cut : nul ∈ value) (rest : List Char) :
    (doubleQuotes value ++ rest).takeWhile (fun c => c != nul) =
      doubleQuotes (value.takeWhile fun c => c != nul) := by
  induction value with
  | nil => cases cut
  | cons c value ih =>
      by_cases isNul : c = nul
      · subst isNul
        rw [doubleQuotes_of_ne (by decide), List.cons_append, List.takeWhile_cons_of_neg (by simp),
          List.takeWhile_cons_of_neg (by simp)]
        rfl
      · have later : nul ∈ value := (List.mem_cons.mp cut).resolve_left (Ne.symm isNul)
        rw [List.takeWhile_cons_of_pos (by simpa using isNul)]
        by_cases isQuote : c = quote
        · subst isQuote
          rw [doubleQuotes, if_pos rfl, doubleQuotes, if_pos rfl, List.cons_append,
            List.cons_append, List.takeWhile_cons_of_pos (by decide),
            List.takeWhile_cons_of_pos (by decide), ih later]
        · rw [doubleQuotes_of_ne isQuote, doubleQuotes_of_ne isQuote, List.cons_append,
            List.takeWhile_cons_of_pos (by simpa using isNul), ih later]

/-- The literal of a value is read back exactly when the dialect keeps the value. -/
theorem scanLiteral_readable_iff (unclosed : quote ∉ rest) (noNul : nul ∉ rest)
    (value rest' : List Char) :
    scanLiteral dialect .inside (dialect.readable (doubleQuotes value ++ quote :: rest)) =
        some (value, rest') ↔ dialect.Keeps value ∧ rest' = rest := by
  have literal : dialect ≠ .mysql →
      (scanLiteral dialect .inside
          ((doubleQuotes value ++ quote :: rest).takeWhile fun c => c != nul) =
        some (value, rest') ↔ nul ∉ value ∧ rest' = rest) := by
    intro other
    by_cases cut : nul ∈ value
    · rw [takeWhile_doubleQuotes cut, scanLiteral_doubleQuotes_unclosed other]
      simp [cut]
    · have whole : (doubleQuotes value ++ quote :: rest).takeWhile (fun c => c != nul) =
          doubleQuotes value ++ quote :: rest := by
        rw [List.takeWhile_eq_self_iff]
        intro c member
        rw [List.mem_append, mem_doubleQuotes, List.mem_cons] at member
        rw [bne_iff_ne]
        rintro rfl
        rcases member with within | isQuote | after
        · exact cut within
        · exact absurd isQuote (by decide)
        · exact noNul after
      rw [whole, scanLiteral_doubleQuotes other]
      · simp [cut, eq_comm]
      · rintro more rfl
        exact unclosed List.mem_cons_self
  cases dialect with
  | mysql => exact scanLiteral_mysql_iff unclosed value rest'
  | sqlite => exact literal (by decide)
  | postgresql => exact literal (by decide)

theorem Name.nul_not_mem (name : Name) : nul ∉ name.chars := by
  rw [Name.chars, List.mem_cons, not_or]
  refine ⟨fun isFirst => ?_, fun member => ?_⟩
  · exact (isNameStart_apart name.starts).2.2.2.1 isFirst.symm
  · exact absurd (name.continues nul member) (by decide)

theorem Sign.nul_not_mem (sign : Sign) : nul ∉ sign.chars := by
  rw [Sign.chars, List.mem_cons, not_or]
  refine ⟨fun isFirst => ?_, fun member => ?_⟩
  · exact (isSignChar_apart sign.starts).2.2.2.1 isFirst.symm
  · exact absurd (sign.continues nul member) (by decide)

theorem readable_comparison (name : Name) (sign : Sign) (text : List Char) :
    dialect.readable (name.chars ++ (sign.chars ++ quote :: text)) =
      name.chars ++ (sign.chars ++ quote :: dialect.readable text) := by
  rw [readable_append name.nul_not_mem, readable_append sign.nul_not_mem,
    readable_cons (by decide)]

/-- A comparison and the text after it are read as they were meant exactly when the dialect keeps
the value and the text after it is. -/
theorem lexWith_comparison_iff (unclosed : quote ∉ rest) (noNul : nul ∉ rest) (name : Name)
    (sign : Sign) (value : List Char) (after : List Token) (fuel : ℕ) :
    lexWith dialect (fuel + 3) (name.chars ++ (sign.chars ++
        quote :: dialect.readable (doubleQuotes value ++ quote :: rest))) =
        some (.name name.chars :: .sign sign.chars :: .literal value :: after) ↔
      dialect.Keeps value ∧ lexWith dialect fuel rest = some after := by
  have scanned := @scanLiteral_readable_iff dialect rest unclosed noNul value
  rw [lexWith_comparison]
  constructor
  · intro lexed
    obtain ⟨⟨value', rest'⟩, found, lexed⟩ := Option.bind_eq_some_iff.mp lexed
    obtain ⟨tokens, afterwards, equal⟩ := Option.map_eq_some_iff.mp lexed
    obtain ⟨rfl, rfl⟩ : value' = value ∧ tokens = after := by simpa using equal
    obtain ⟨keeps, rfl⟩ := (scanned rest').mp found
    exact ⟨keeps, afterwards⟩
  · rintro ⟨keeps, afterwards⟩
    rw [(scanned rest).mpr ⟨keeps, rfl⟩, Option.bind_some, afterwards, Option.map_some]

theorem lex_comparison_iff (dialect : Dialect) (name : Name) (sign : Sign) (value : List Char) :
    lex dialect (comparison name sign value) =
        some [.name name.chars, .sign sign.chars, .literal value] ↔ dialect.Keeps value := by
  have shape : comparison name sign value =
      name.chars ++ (sign.chars ++ quote :: (doubleQuotes value ++ quote :: [])) := by
    rw [comparison, List.append_assoc]
  rw [shape, lex, readable_comparison]
  obtain ⟨fuel, isFuel⟩ : ∃ fuel, (name.chars ++ (sign.chars ++
      quote :: dialect.readable (doubleQuotes value ++ quote :: []))).length = fuel + 3 := by
    rw [List.length_append, List.length_append, List.length_cons, Name.chars, Sign.chars,
      List.length_cons, List.length_cons]
    exact ⟨name.more.length + sign.more.length +
      (dialect.readable (doubleQuotes value ++ quote :: [])).length, by omega⟩
  rw [isFuel, lexWith_comparison_iff (by simp) (by simp)]
  simp [lexWith]

/-- The same between parentheses. -/
theorem lex_enclosed_iff (dialect : Dialect) (name : Name) (sign : Sign) (value : List Char) :
    lex dialect ('(' :: (comparison name sign value ++ [')'])) =
        some [.opening, .name name.chars, .sign sign.chars, .literal value, .closing] ↔
      dialect.Keeps value := by
  have shape : comparison name sign value ++ [')'] =
      name.chars ++ (sign.chars ++ quote :: (doubleQuotes value ++ quote :: [')'])) := by
    simp [comparison]
  rw [shape, lex, readable_cons (by decide), readable_comparison]
  obtain ⟨fuel, isFuel⟩ : ∃ fuel, ('(' :: (name.chars ++ (sign.chars ++
      quote :: dialect.readable (doubleQuotes value ++ quote :: [')'])))).length = fuel + 3 + 1 ∧
        (dialect.readable (doubleQuotes value ++ quote :: [')'])).length ≤ fuel := by
    rw [List.length_cons, List.length_append, List.length_append, List.length_cons, Name.chars,
      Sign.chars, List.length_cons, List.length_cons]
    exact ⟨name.more.length + sign.more.length +
      (dialect.readable (doubleQuotes value ++ quote :: [')'])).length, by omega, by omega⟩
  have opens : ∀ text : List Char, nextToken dialect ('(' :: text) = some (.opening, text) :=
    fun _ => rfl
  rw [isFuel.1, lexWith_succ (by decide), opens, Option.bind_some]
  dsimp only
  have inner := @lexWith_comparison_iff dialect [')'] (by decide) (by decide) name sign value
    [.closing] fuel
  constructor
  · intro lexed
    obtain ⟨tokens, found, equal⟩ := Option.map_eq_some_iff.mp lexed
    rw [(List.cons.inj equal).2] at found
    exact (inner.mp found).1
  · intro keeps
    have filled : dialect.readable (doubleQuotes value ++ quote :: [')']) ≠ [] := by
      intro nothing
      have found := (@scanLiteral_readable_iff dialect [')'] (by decide) (by decide) value
        [')']).mpr ⟨keeps, rfl⟩
      rw [nothing] at found
      cases found
    have positive := List.length_pos_of_ne_nil filled
    obtain ⟨fuel, rfl⟩ : ∃ smaller, fuel = smaller + 1 := ⟨fuel - 1, by omega⟩
    have closes : lexWith dialect (fuel + 1) [')'] = some [.closing] := by
      rw [lexWith_succ (by decide)]
      simp [nextToken, lexWith]
    rw [inner.mpr ⟨keeps, closes⟩, Option.map_some]

end Tokens

end SqlText
