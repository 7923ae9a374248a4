import Owprov.EntityTree
import Owprov.ListHandlers

/-!
# Filtered lists

A list request for the records of an entity or of a venue compares the column with a blank and
the id.  The answer is right where neither those records nor the wanted ones reach the page.
-/

namespace Owprov

open RowTable

/-- The columns that a list is filtered by. -/
inductive ListColumn where
  | entity
  | venue
  deriving DecidableEq

namespace ListColumn

def name : ListColumn → String
  | entity => "entity"
  | venue => "venue"

/-- The request asks for the records with a value in the column.  An entity comes first. -/
def Asks (column : ListColumn) (request : Request) (value : String) : Prop :=
  value ≠ "" ∧
    match column with
    | entity => request.getParameter "entity" = value
    | venue => request.getParameter "entity" = "" ∧ request.getParameter "venue" = value

instance (column : ListColumn) (request : Request) (value : String) :
    Decidable (column.Asks request value) := by
  cases column <;> exact inferInstanceAs (Decidable (_ ∧ _))

end ListColumn

section FilteredLists

variable {α : Type} [Keyed α String]

/-- How a record is read at a column, if the table has it. -/
def ListSource.read (source : ListSource α) : ListColumn → Option (α → String)
  | .entity => some source.entity
  | .venue => source.venue

/-- The records with a value in a column. -/
def ListSource.rowsWith (source : ListSource α) (db : Store) (column : ListColumn)
    (value : String) : List α :=
  match source.read column with
  | none => []
  | some read => (source.table db).rows.filter fun row => read row == value

/-- The records from an offset on, up to a limit. -/
def QueryBlock.page (block : QueryBlock) (rows : List α) : List α :=
  (rows.drop block.offset).take block.limit

/-- The page of some records, or their number. -/
def pageOrCount (block : QueryBlock) (rows : List α) : ListAnswer α :=
  if block.countOnly then .count rows.length else .records (block.page rows)

/-- The rows that a statement with a broken text answers. -/
def ListSource.brokenRows (source : ListSource α) (env : Env) (db : Store) (block : QueryBlock)
    (column : ListColumn) (value : String) : List α :=
  source.quoted env.quotedSelects db
    (" " ++ column.name ++ "=" ++ sqlQuote.toString ++ " " ++ value ++ sqlQuote.toString) block

/-- Where the blank before the value does no harm: no record of the page has the value or the value
after a blank, and a page of the latter has as many records as there are of the former.  A
value with a quote breaks the statement. -/
def ListSource.BlankHarmless (source : ListSource α) (env : Env) (db : Store) (block : QueryBlock)
    (column : ListColumn) (value : String) : Prop :=
  let wanted := (source.rowsWith db column value).length
  let blank := (source.rowsWith db column (" " ++ value)).length
  let inRange := block.offset < 2 ^ 63 ∧ block.limit < 2 ^ 63
  if value.toList.contains sqlQuote then
    pageOrCount block (source.rowsWith db column value) =
      rowsOrCount block (source.brokenRows env db block column value)
  else if block.countOnly then
    wanted = if inRange then min block.limit (blank - block.offset) else 0
  else
    (wanted ≤ block.offset ∨ block.limit = 0) ∧
      (inRange → blank ≤ block.offset ∨ block.limit = 0)

theorem listHandler_of_asks (source : ListSource α) (env : Env) (db : Store) {request : Request}
    {block : QueryBlock} {column : ListColumn} {value : String}
    (parsed : request.queryBlock = .ok block) (noIds : block.select = [])
    (asks : column.Asks request value) :
    listHandler source env db request =
      .ok (rowsOrCount block
        (source.getRecords env db block column.name (source.read column) value)) := by
  unfold listHandler
  rw [parsed]
  simp only [bind, Except.bind, noIds, ne_eq, not_true_eq_false, if_false]
  cases column with
  | entity =>
      obtain ⟨filled, rfl⟩ := asks
      rw [if_pos filled]
      rfl
  | venue =>
      obtain ⟨filled, noEntity, rfl⟩ := asks
      rw [if_neg (not_not.mpr noEntity), if_pos filled]
      rfl

omit [Keyed α String] in
theorem QueryBlock.length_window (block : QueryBlock) (rows : List α) :
    (block.window rows).length =
      if block.offset < 2 ^ 63 ∧ block.limit < 2 ^ 63 then
        min block.limit (rows.length - block.offset)
      else 0 := by
  unfold QueryBlock.window
  split
  · rw [List.length_take, List.length_drop]
  · rfl

omit [Keyed α String] in
theorem QueryBlock.window_eq_nil_iff (block : QueryBlock) (rows : List α) :
    block.window rows = [] ↔
      (block.offset < 2 ^ 63 ∧ block.limit < 2 ^ 63 →
        rows.length ≤ block.offset ∨ block.limit = 0) := by
  rw [← List.length_eq_zero_iff, block.length_window]
  by_cases inRange : block.offset < 2 ^ 63 ∧ block.limit < 2 ^ 63
  · simp only [inRange, and_self, if_true, forall_const]
    omega
  · rw [if_neg inRange]
    exact iff_of_true rfl fun both => absurd both inRange

omit [Keyed α String] in
theorem QueryBlock.page_eq_nil_iff (block : QueryBlock) (rows : List α) :
    block.page rows = [] ↔ rows.length ≤ block.offset ∨ block.limit = 0 := by
  rw [← List.length_eq_zero_iff, QueryBlock.page, List.length_take, List.length_drop]
  omega

/-- Without a quote the records are those with the value after a blank. -/
theorem ListSource.getRecords_eq (source : ListSource α) (env : Env) (db : Store)
    (block : QueryBlock) (column : ListColumn) {value : String}
    (plain : ¬ value.toList.contains sqlQuote = true) :
    source.getRecords env db block column.name (source.read column) value =
      block.window (source.rowsWith db column (" " ++ value)) := by
  unfold ListSource.getRecords ListSource.rowsWith
  rw [if_neg plain]
  cases source.read column with
  | none => simp [QueryBlock.window]
  | some read => rfl

theorem ListSource.read_of_mem_rowsWith {source : ListSource α} {db : Store} {column : ListColumn}
    {value : String} {row : α} (member : row ∈ source.rowsWith db column value) :
    ∃ read, source.read column = some read ∧ read row = value := by
  unfold ListSource.rowsWith at member
  cases found : source.read column with
  | none =>
      rw [found] at member
      cases member
  | some read =>
      rw [found] at member
      exact ⟨read, rfl, beq_iff_eq.mp (List.mem_filter.mp member).2⟩

/-- No record has both the value and the value after a blank. -/
theorem ListSource.rowsWith_disjoint (source : ListSource α) (db : Store) (column : ListColumn)
    (value : String) {row : α} (member : row ∈ source.rowsWith db column value) :
    row ∉ source.rowsWith db column (" " ++ value) := by
  intro blank
  obtain ⟨read, isRead, same⟩ := source.read_of_mem_rowsWith member
  obtain ⟨read', isRead', longer⟩ := source.read_of_mem_rowsWith blank
  rw [isRead] at isRead'
  obtain rfl := Option.some.inj isRead'
  have lengths := congrArg String.length (same.symm.trans longer)
  rw [String.length_append] at lengths
  have one : " ".length = 1 := rfl
  omega

omit [Keyed α String] in
/-- Two answers of different records agree only when both are empty. -/
theorem window_eq_page_iff {first second : List α} (block : QueryBlock)
    (disjoint : ∀ row ∈ second, row ∉ first) :
    block.window first = block.page second ↔ block.page second = [] ∧ block.window first = [] := by
  constructor
  · intro same
    have nothing : block.page second = [] := by
      rw [List.eq_nil_iff_forall_not_mem]
      intro row member
      have isSecond : row ∈ second := List.mem_of_mem_drop (List.mem_of_mem_take member)
      rw [← same] at member
      exact disjoint row isSecond (QueryBlock.mem_of_mem_window member)
    exact ⟨nothing, same.trans nothing⟩
  · rintro ⟨noPage, noWindow⟩
    rw [noPage, noWindow]

/-- A filtered list is the page of the records with the value, or their number, exactly where the
blank does no harm. -/
theorem filteredList_exact_iff (source : ListSource α) (env : Env) (db : Store) (request : Request)
    (block : QueryBlock) (column : ListColumn) (value : String)
    (parsed : request.queryBlock = .ok block) (noIds : block.select = [])
    (asks : column.Asks request value) :
    listHandler source env db request = .ok (pageOrCount block (source.rowsWith db column value)) ↔
      source.BlankHarmless env db block column value := by
  rw [listHandler_of_asks source env db parsed noIds asks, Except.ok.injEq, ListSource.BlankHarmless]
  by_cases quoted : value.toList.contains sqlQuote = true
  · have rows : source.getRecords env db block column.name (source.read column) value =
        source.brokenRows env db block column value := by
      unfold ListSource.getRecords
      rw [if_pos quoted]
      rfl
    rw [if_pos quoted, rows, eq_comm]
  · rw [if_neg quoted, source.getRecords_eq env db block column quoted]
    have disjoint : ∀ row ∈ source.rowsWith db column value,
        row ∉ source.rowsWith db column (" " ++ value) :=
      fun _ member => source.rowsWith_disjoint db column value member
    cases counting : block.countOnly with
    | true =>
        simp only [rowsOrCount, pageOrCount, counting, if_true, ListAnswer.count.injEq,
          QueryBlock.length_window]
        exact eq_comm
    | false =>
        simp only [rowsOrCount, pageOrCount, counting, Bool.false_eq_true, if_false,
          ListAnswer.records.injEq]
        rw [window_eq_page_iff block disjoint, block.page_eq_nil_iff, block.window_eq_nil_iff]

end FilteredLists

/-- A store with one contact, in an entity. -/
def campusContacts : Store :=
  { initialStore with
    contactDB := .singleton { info := { id := "contact" }, entity := "campus" } }

/-- The request for the contacts of an entity. -/
def contactsRequest (entityId : String) : Request where
  method := .get
  uri := "/api/v1/contact?entity=" ++ entityId
  parameters := [("entity", entityId)]

theorem contactsRequest_exact_iff :
    listHandler contactSource (rootContext 0).env campusContacts (contactsRequest "office") =
        .ok (pageOrCount {} (contactSource.rowsWith campusContacts .entity "office")) ↔
      contactSource.BlankHarmless (rootContext 0).env campusContacts {} .entity "office" :=
  filteredList_exact_iff contactSource (rootContext 0).env campusContacts (contactsRequest "office") {}
    .entity "office" (by decide) rfl (by decide)

/-- The list of an entity leaves its contact out. -/
theorem contact_left_out :
    ¬ ∀ (source : ListSource Contact) (env : Env) (db : Store) (request : Request)
      (block : QueryBlock) (column : ListColumn) (value : String),
      request.queryBlock = .ok block → block.select = [] → column.Asks request value →
        listHandler source env db request =
          .ok (pageOrCount block (source.rowsWith db column value)) := by
  intro claim
  have answer := claim contactSource (rootContext 0).env campusContacts (contactsRequest "campus") {}
    .entity "campus" (by decide) rfl (by decide)
  have empty : answeredRows (listHandler contactSource (rootContext 0).env campusContacts
      (contactsRequest "campus")) = [] := by decide
  rw [answer] at empty
  exact absurd empty (by decide)

end Owprov
