import Owprov.Lib.SqlText

/-!
# Hand-built conditions

The handlers and the database classes paste values into the text of a condition, with every quote
written twice.  The statement is then lexed by SQLite, PostgreSQL or MySQL.
-/

namespace Owprov

open SqlText

/-- `ORM::SqlComparison`. -/
inductive SqlComparison where
  | eq
  | neq
  | lt
  | lte
  | gt
  | gte
  deriving DecidableEq

/-- `ORM::SQLCOMPS`. -/
def SqlComparison.text : SqlComparison → String
  | eq => "="
  | neq => "!="
  | lt => "<"
  | lte => "<="
  | gt => ">"
  | gte => ">="

/-- `ORM::Escape`. -/
def escape (value : String) : String :=
  value.toList.foldl
    (fun escaped c => if c = quote then (escaped.push quote).push quote else escaped.push c) ""

def quoteText : String := quote.toString

/-- `ORM::DB::OP` for a text. -/
def opText (field : String) (comparison : SqlComparison) (value : String) : String :=
  "(" ++ field ++ comparison.text ++ quoteText ++ escape value ++ quoteText ++ ")"

/-- `ORM::WHERE_AND_` for texts, which skips the empty ones. -/
def whereAndFrom (result : String) : List (String × String) → String
  | [] => result
  | (field, value) :: more =>
      if value = "" then
        whereAndFrom result more
      else
        let joined := if result = "" then result else result ++ " and "
        whereAndFrom (joined ++ field ++ "=" ++ quoteText ++ escape value ++ quoteText) more

/-- `ORM::WHERE_AND`. -/
def whereAnd (fields : List (String × String)) : String :=
  whereAndFrom "" fields

/-- The name of a column, as a text. -/
def columnText (column : Name) : String :=
  String.ofList column.chars

/-- The sign of a comparison is one token. -/
def SqlComparison.sign : SqlComparison → Sign
  | eq => ⟨'=', [], by decide, List.all_eq_true.mp (by decide)⟩
  | neq => ⟨'!', ['='], by decide, List.all_eq_true.mp (by decide)⟩
  | lt => ⟨'<', [], by decide, List.all_eq_true.mp (by decide)⟩
  | lte => ⟨'<', ['='], by decide, List.all_eq_true.mp (by decide)⟩
  | gt => ⟨'>', [], by decide, List.all_eq_true.mp (by decide)⟩
  | gte => ⟨'>', ['='], by decide, List.all_eq_true.mp (by decide)⟩

theorem SqlComparison.text_toList (comparison : SqlComparison) :
    comparison.text.toList = comparison.sign.chars := by
  cases comparison <;> decide

/-- `Escape` writes every quote twice. -/
theorem escape_toList (value : String) : (escape value).toList = doubleQuotes value.toList := by
  have grows : ∀ (chars : List Char) (escaped : String),
      (chars.foldl (fun escaped c =>
        if c = quote then (escaped.push quote).push quote else escaped.push c) escaped).toList =
        escaped.toList ++ doubleQuotes chars := by
    intro chars
    induction chars with
    | nil => simp [doubleQuotes]
    | cons c chars ih =>
        intro escaped
        rw [List.foldl_cons, ih]
        by_cases isQuote : c = quote
        · simp [isQuote, doubleQuotes]
        · simp [isQuote, doubleQuotes]
  rw [escape, grows]
  rfl

theorem opText_toList (column : Name) (comparison : SqlComparison) (value : String) :
    (opText (columnText column) comparison value).toList =
      '(' :: (SqlText.comparison column comparison.sign value.toList ++ [')']) := by
  simp [opText, columnText, quoteText, escape_toList, comparison.text_toList,
    SqlText.comparison]

theorem whereAnd_toList (column : Name) {value : String} (filled : value ≠ "") :
    (whereAnd [(columnText column, value)]).toList =
      SqlText.comparison column SqlComparison.eq.sign value.toList := by
  simp [whereAnd, whereAndFrom, filled, columnText, quoteText, escape_toList,
    SqlText.comparison, SqlComparison.sign, Sign.chars]

/-- A hand-built comparison is lexed as the column, the sign and the value exactly when the
dialect keeps the value; `WHERE_AND` gives no text for an empty value. -/
theorem handBuilt_lexes_iff (dialect : Dialect) (column : Name) (comparison : SqlComparison)
    (value : String) :
    (lex dialect (opText (columnText column) comparison value).toList =
        some [.opening, .name column.chars, .sign comparison.text.toList, .literal value.toList,
          .closing] ↔ dialect.Keeps value.toList) ∧
      (lex dialect (whereAnd [(columnText column, value)]).toList =
        some [.name column.chars, .sign SqlComparison.eq.text.toList, .literal value.toList] ↔
          value ≠ "" ∧ dialect.Keeps value.toList) := by
  constructor
  · rw [opText_toList, comparison.text_toList]
    exact lex_enclosed_iff dialect column comparison.sign value.toList
  · by_cases empty : value = ""
    · subst empty
      have nothing : lex dialect [] = some [] := by cases dialect <;> rfl
      have noText : (whereAnd [(columnText column, "")]).toList = [] := by
        simp [whereAnd, whereAndFrom]
      simp [noText, nothing]
    · rw [whereAnd_toList column empty, SqlComparison.eq.text_toList, lex_comparison_iff]
      simp [empty]

/-- The name of the column that lists select by. -/
def venueColumn : Name where
  first := 'v'
  more := ['e', 'n', 'u', 'e']
  starts := by decide
  continues := List.all_eq_true.mp (by decide)

/-- In MySQL a backslash takes the quote that was written for the end of the value. -/
theorem backslash_breaks_out :
    ¬ ∀ (dialect : Dialect) (column : Name) (comparison : SqlComparison) (value : String),
      lex dialect (opText (columnText column) comparison value).toList =
          some [.opening, .name column.chars, .sign comparison.text.toList,
            .literal value.toList, .closing] ∧
        lex dialect (whereAnd [(columnText column, value)]).toList =
          some [.name column.chars, .sign SqlComparison.eq.text.toList,
            .literal value.toList] := by
  intro claim
  have lexed := (claim .mysql venueColumn .eq (backslash.toString ++ quoteText ++ " or 1=1 -- ")).1
  exact absurd lexed (by decide)

end Owprov
