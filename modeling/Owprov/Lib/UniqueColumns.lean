import Mathlib.Logic.Function.Basic
import Owprov.Lib.Table

/-!
# Unique columns and mirrored tables

When no two rows of a table share the value of a column, the column is an index: each value has
one row at most.  A row that comes, changes or goes updates the index at one value.  One table
mirrors another when its index shows what the index of the other shows.
-/

namespace UniqueColumns

open RowTable

universe u v w x

/-! ## Indices -/

section Index

variable {α : Type u} {κ : Type v} {β : Type w} {γ : Type x} [Keyed α κ] [DecidableEq β]

/-- No two rows share the value of the column. -/
def UniqueColumn (column : α → β) (table : Table α) : Prop :=
  (table.rows.map column).Nodup

/-- What the row with a value shows. -/
def index (column : α → β) (view : α → γ) (table : Table α) (value : β) : Option γ :=
  (table.rows.find? fun row => column row == value).map view

variable {column : α → β} {view : α → γ} {table table' : Table α} {row other : α} {value : β}

omit [DecidableEq β] in
theorem UniqueColumn.eq_of_mem (unique : UniqueColumn column table) (member : row ∈ table.rows)
    (otherMem : other ∈ table.rows) (same : column row = column other) : row = other :=
  List.inj_on_of_nodup_map unique member otherMem same

theorem index_eq_none_iff :
    index column view table value = none ↔ ∀ row ∈ table.rows, column row ≠ value := by
  rw [index, Option.map_eq_none_iff, List.find?_eq_none]
  simp only [beq_iff_eq, ne_eq]

theorem UniqueColumn.index_of_mem (unique : UniqueColumn column table) (view : α → γ)
    (member : row ∈ table.rows) : index column view table (column row) = some (view row) := by
  cases found : table.rows.find? fun other => column other == column row with
  | none => exact absurd (beq_self_eq_true _) (List.find?_eq_none.mp found row member)
  | some other =>
      have same : column other = column row := by simpa using List.find?_some found
      rw [index, found, unique.eq_of_mem (List.mem_of_find?_eq_some found) member same]
      rfl

theorem exists_of_index {shown : γ} (found : index column view table value = some shown) :
    ∃ row ∈ table.rows, column row = value ∧ view row = shown := by
  obtain ⟨row, isRow, rfl⟩ := Option.map_eq_some_iff.mp found
  exact ⟨row, List.mem_of_find?_eq_some isRow, by simpa using List.find?_some isRow, rfl⟩

/-- A table in which one row has taken the place of the rows with its value. -/
theorem UniqueColumn.index_eq_update (unique' : UniqueColumn column table')
    (members : ∀ other, other ∈ table'.rows ↔
      other = row ∨ other ∈ table.rows ∧ column other ≠ column row) :
    index column view table' =
      Function.update (index column view table) (column row) (some (view row)) := by
  funext value
  by_cases same : value = column row
  · rw [same, Function.update_self]
    exact unique'.index_of_mem view ((members row).mpr (.inl rfl))
  · rw [Function.update_of_ne same]
    cases found : index column view table value with
    | none =>
        rw [index_eq_none_iff] at found ⊢
        intro other member
        rcases (members other).mp member with rfl | ⟨old, _⟩
        · exact Ne.symm same
        · exact found other old
    | some shown =>
        obtain ⟨other, member, rfl, rfl⟩ := exists_of_index found
        exact unique'.index_of_mem view ((members other).mpr (.inr ⟨member, same⟩))

/-- A table in which the rows with a value are gone. -/
theorem UniqueColumn.index_eq_erase (unique : UniqueColumn column table')
    (members : ∀ other, other ∈ table'.rows ↔ other ∈ table.rows ∧ column other ≠ value) :
    index column view table' = Function.update (index column view table) value none := by
  funext otherValue
  by_cases same : otherValue = value
  · rw [same, Function.update_self, index_eq_none_iff]
    exact fun other member => ((members other).mp member).2
  · rw [Function.update_of_ne same]
    cases found : index column view table otherValue with
    | none =>
        rw [index_eq_none_iff] at found ⊢
        exact fun other member => found other ((members other).mp member).1
    | some shown =>
        obtain ⟨other, member, rfl, rfl⟩ := exists_of_index found
        exact unique.index_of_mem view ((members other).mpr ⟨member, same⟩)

variable [DecidableEq κ]

theorem UniqueColumn.insert? (unique : UniqueColumn column table) (view : α → γ)
    (inserted : table.insert? row = some table')
    (free : index column view table (column row) = none) :
    UniqueColumn column table' ∧
      index column view table' =
        Function.update (index column view table) (column row) (some (view row)) := by
  rw [index_eq_none_iff] at free
  have unique' : UniqueColumn column table' := by
    rw [UniqueColumn, Table.map_rows_insert? inserted, List.nodup_append]
    refine ⟨unique, List.nodup_singleton _, ?_⟩
    intro value old value' new same
    obtain ⟨other, member, rfl⟩ := List.mem_map.mp old
    exact free other member (same.trans (List.mem_singleton.mp new))
  refine ⟨unique', unique'.index_eq_update ?_⟩
  intro other
  rw [Table.mem_rows_insert? inserted]
  constructor
  · rintro (old | rfl)
    · exact .inr ⟨old, free other old⟩
    · exact .inl rfl
  · rintro (rfl | ⟨old, _⟩)
    · exact .inr rfl
    · exact .inl old

theorem UniqueColumn.update {old new : α} (unique : UniqueColumn column table) (view : α → γ)
    (found : table.get? (key new) = some old) (same : column new = column old) :
    UniqueColumn column (table.update new) ∧
      index column view (table.update new) =
        Function.update (index column view table) (column new) (some (view new)) := by
  have unique' : UniqueColumn column (table.update new) := by
    rw [UniqueColumn, Table.map_rows_update]
    · exact unique
    · intro row isRow
      rw [found] at isRow
      rw [← Option.some.inj isRow, same]
  have isOld := Table.mem_of_get? found
  refine ⟨unique', unique'.index_eq_update ?_⟩
  intro other
  have isRow : ∀ (rows : Table α), other ∈ rows.rows ↔ rows.get? (key other) = some other :=
    fun rows => ⟨Table.get?_key_of_mem, Table.mem_of_get?⟩
  rw [isRow (table.update new)]
  by_cases sameKey : key other = key new
  · rw [sameKey, Table.get?_update_self found, Option.some.injEq]
    constructor
    · exact fun equal => .inl equal.symm
    · rintro (rfl | ⟨member, differs⟩)
      · rfl
      · rw [isRow table, sameKey, found, Option.some.injEq] at member
        rw [← member, same] at differs
        exact absurd rfl differs
  · rw [Table.get?_update_of_ne table sameKey, ← isRow table]
    constructor
    · intro member
      refine .inr ⟨member, fun sameValue => sameKey ?_⟩
      rw [unique.eq_of_mem member isOld (sameValue.trans same), Table.key_of_get? found]
    · rintro (rfl | ⟨member, _⟩)
      · exact absurd rfl sameKey
      · exact member

omit [DecidableEq β] [DecidableEq κ] in
theorem UniqueColumn.sublist (unique : UniqueColumn column table)
    (fewer : table'.rows.Sublist table.rows) : UniqueColumn column table' :=
  List.Nodup.sublist (fewer.map column) unique

theorem UniqueColumn.delete (unique : UniqueColumn column table) (view : α → γ)
    (member : row ∈ table.rows) :
    UniqueColumn column (table.delete (key row)) ∧
      index column view (table.delete (key row)) =
        Function.update (index column view table) (column row) none := by
  have unique' : UniqueColumn column (table.delete (key row)) :=
    unique.sublist List.filter_sublist
  refine ⟨unique', unique'.index_eq_erase ?_⟩
  intro other
  rw [Table.mem_rows_delete]
  refine and_congr_right fun otherMem => not_congr ⟨?_, ?_⟩
  · intro sameKey
    rw [List.inj_on_of_nodup_map table.distinct otherMem member sameKey]
  · intro sameValue
    rw [unique.eq_of_mem otherMem member sameValue]

omit [DecidableEq κ] in
/-- The rows that are deleted are those with a value. -/
theorem UniqueColumn.deleteWhere (unique : UniqueColumn column table) (view : α → γ)
    {doomed : α → Bool}
    (goes : ∀ row ∈ table.rows, doomed row = true ↔ column row = value) :
    UniqueColumn column (table.deleteWhere doomed) ∧
      index column view (table.deleteWhere doomed) =
        Function.update (index column view table) value none := by
  have unique' : UniqueColumn column (table.deleteWhere doomed) :=
    unique.sublist List.filter_sublist
  refine ⟨unique', unique'.index_eq_erase ?_⟩
  intro other
  show other ∈ table.rows.filter _ ↔ _
  rw [List.mem_filter]
  refine and_congr_right fun member => ?_
  rw [Bool.not_eq_true', Bool.eq_false_iff, Ne, goes other member]

theorem get?_deleteWhere_eq_none {k : κ} (free : table.get? k = none) (doomed : α → Bool) :
    (table.deleteWhere doomed).get? k = none := by
  rw [Table.get?_eq_none_iff] at free ⊢
  intro isKey
  obtain ⟨row, member, sameKey⟩ := List.mem_map.mp isKey
  exact free (List.mem_map.mpr ⟨row, List.mem_of_mem_filter member, sameKey⟩)

end Index

/-! ## Mirrors -/

section Mirrors

variable {β : Type u} {γ : Type v} [DecidableEq β]

/-- The replica shows what the primary shows, and nothing else that claims to come from there. -/
structure Mirrors (claims : γ → Prop) (primary replica : β → Option γ) : Prop where
  shows : ∀ value shown, primary value = some shown → replica value = some shown
  backed : ∀ value shown, replica value = some shown → claims shown → primary value = some shown

variable {claims : γ → Prop} {primary replica : β → Option γ} {value : β} {shown new : γ}

omit [DecidableEq β] in
theorem Mirrors.primary_eq_none (mirrors : Mirrors claims primary replica)
    (missing : replica value = none) : primary value = none := by
  rw [Option.eq_none_iff_forall_ne_some]
  intro shown isShown
  rw [mirrors.shows value shown isShown] at missing
  cases missing

/-- Both are written at one value. -/
theorem Mirrors.write (mirrors : Mirrors claims primary replica) {first second : Option γ}
    (shows : ∀ shown, first = some shown → second = some shown)
    (backed : ∀ shown, second = some shown → claims shown → first = some shown) :
    Mirrors claims (Function.update primary value first)
      (Function.update replica value second) := by
  constructor
  case shows =>
    intro other shown
    by_cases same : other = value
    · rw [same, Function.update_self, Function.update_self]
      exact shows shown
    · rw [Function.update_of_ne same, Function.update_of_ne same]
      exact mirrors.shows other shown
  case backed =>
    intro other shown
    by_cases same : other = value
    · rw [same, Function.update_self, Function.update_self]
      exact backed shown
    · rw [Function.update_of_ne same, Function.update_of_ne same]
      exact mirrors.backed other shown

theorem Mirrors.put (mirrors : Mirrors claims primary replica) (value : β) (new : Option γ) :
    Mirrors claims (Function.update primary value new) (Function.update replica value new) :=
  mirrors.write (fun _ same => same) fun _ same _ => same

/-- The primary lets go of a value, and the replica claims it no more. -/
theorem Mirrors.release (mirrors : Mirrors claims primary replica) (value : β)
    (unclaimed : ¬claims new) :
    Mirrors claims (Function.update primary value none)
      (Function.update replica value (some new)) := by
  apply mirrors.write
  · rintro shown ⟨⟩
  · rintro shown isNew claimed
    cases isNew
    exact absurd claimed unclaimed

/-- What the primary does not have can be written in the replica. -/
theorem Mirrors.enter (mirrors : Mirrors claims primary replica) (missing : primary value = none)
    (unclaimed : ¬claims new) :
    Mirrors claims primary (Function.update replica value (some new)) := by
  have same : Function.update primary value none = primary := by
    rw [← missing, Function.update_eq_self]
  have released := mirrors.release value unclaimed
  rwa [same] at released

theorem Mirrors.discard (mirrors : Mirrors claims primary replica)
    (missing : primary value = none) :
    Mirrors claims primary (Function.update replica value none) := by
  have same : Function.update primary value none = primary := by
    rw [← missing, Function.update_eq_self]
  have removed := mirrors.put value none
  rwa [same] at removed

/-- The replica gets a new version, and the primary follows where it has one. -/
theorem Mirrors.revise (mirrors : Mirrors claims primary replica)
    (isShown : replica value = some shown) (sameClaim : claims new → claims shown) :
    Mirrors claims
      (Function.update primary value ((primary value).map fun _ => new))
      (Function.update replica value (some new)) := by
  cases found : primary value with
  | none =>
      apply mirrors.release
      intro claimed
      rw [mirrors.backed value shown isShown (sameClaim claimed)] at found
      cases found
  | some old => exact mirrors.put value (some new)

end Mirrors

end UniqueColumns
