import Mathlib.Data.List.Nodup

/-!
# Tables of keyed rows

A table is a list of rows with pairwise different keys.  The four operations of a
record store (read, insert, update, delete) are total functions on tables, and each
is described by what it does to the lookup function `get?`.
-/

namespace RowTable

universe u v

/-- A row type with a key column. -/
class Keyed (α : Type u) (κ : outParam (Type v)) where
  /-- The key column of a row. -/
  key : α → κ

export Keyed (key)

/-- A list of rows whose keys are pairwise different. -/
@[ext]
structure Table (α : Type u) {κ : Type v} [Keyed α κ] where
  rows : List α
  distinct : (rows.map key).Nodup

namespace Table

variable {α : Type u} {κ : Type v} [Keyed α κ] [DecidableEq κ]

/-- The table without rows. -/
def empty : Table α where
  rows := []
  distinct := List.nodup_nil

/-- The table with one row. -/
def singleton (row : α) : Table α where
  rows := [row]
  distinct := List.nodup_singleton _

/-- The row with a given key. -/
def get? (table : Table α) (k : κ) : Option α :=
  table.rows.find? fun row => key row = k

/-- Append a row unless its key is taken. -/
def insert? (table : Table α) (row : α) : Option (Table α) :=
  if taken : key row ∈ table.rows.map key then
    none
  else
    some
      { rows := table.rows ++ [row]
        distinct := by
          rw [List.map_append, List.nodup_append]
          refine ⟨table.distinct, List.nodup_singleton _, ?_⟩
          intro left leftMem right rightMem equal
          rw [List.map_singleton, List.mem_singleton] at rightMem
          exact taken (rightMem ▸ equal ▸ leftMem) }

omit [DecidableEq κ] in
private theorem map_key_of_key_preserving (rows : List α) (change : α → α)
    (preserves : ∀ row, key (change row) = key row) :
    (rows.map change).map key = rows.map key := by
  rw [List.map_map]
  exact List.map_congr_left fun row _ => preserves row

/-- Replace the row that carries the new row's key. -/
def update (table : Table α) (new : α) : Table α where
  rows := table.rows.map fun row => if key row = key new then new else row
  distinct := by
    rw [map_key_of_key_preserving]
    · exact table.distinct
    · intro row
      split <;> simp_all

/-- Read a row, change it and write it back; a missing row changes nothing. -/
def modify (table : Table α) (k : κ) (change : α → α) : Table α :=
  match table.get? k with
  | none => table
  | some row => table.update (change row)

/-- Remove the row with a given key. -/
def delete (table : Table α) (k : κ) : Table α where
  rows := table.rows.filter fun row => key row ≠ k
  distinct := table.distinct.sublist ((List.filter_sublist).map key)

/-- Remove every row that satisfies a predicate. -/
def deleteWhere (table : Table α) (doomed : α → Bool) : Table α where
  rows := table.rows.filter fun row => !doomed row
  distinct := table.distinct.sublist ((List.filter_sublist).map key)

/-! ## Lookup -/

theorem get?_eq_some_iff {table : Table α} {k : κ} {row : α} :
    table.get? k = some row ↔ row ∈ table.rows ∧ key row = k := by
  constructor
  · intro found
    exact ⟨List.mem_of_find?_eq_some found, by simpa using List.find?_some found⟩
  · rintro ⟨member, rfl⟩
    cases found : table.get? (key row) with
    | none =>
        have missing := List.find?_eq_none.mp found row member
        simp at missing
    | some other =>
        have otherMem := List.mem_of_find?_eq_some found
        have otherKey : key other = key row := by simpa using List.find?_some found
        rw [List.inj_on_of_nodup_map table.distinct otherMem member otherKey]

theorem key_of_get? {table : Table α} {k : κ} {row : α}
    (found : table.get? k = some row) : key row = k :=
  (get?_eq_some_iff.mp found).2

theorem mem_of_get? {table : Table α} {k : κ} {row : α}
    (found : table.get? k = some row) : row ∈ table.rows :=
  (get?_eq_some_iff.mp found).1

theorem get?_key_of_mem {table : Table α} {row : α} (member : row ∈ table.rows) :
    table.get? (key row) = some row :=
  get?_eq_some_iff.mpr ⟨member, rfl⟩

theorem get?_eq_none_iff {table : Table α} {k : κ} :
    table.get? k = none ↔ k ∉ table.rows.map key := by
  rw [get?, List.find?_eq_none, List.mem_map]
  constructor
  · rintro missing ⟨row, member, rfl⟩
    simpa using missing row member
  · intro missing row member
    have := fun equal => missing ⟨row, member, equal⟩
    simpa using this

@[simp]
theorem get?_empty (k : κ) : (empty : Table α).get? k = none := rfl

theorem get?_singleton (row : α) (k : κ) :
    (singleton row).get? k = if key row = k then some row else none := by
  by_cases equal : key row = k <;> simp [get?, singleton, equal]

/-! ## What the operations do to lookups -/

theorem get?_insert? {table table' : Table α} {row : α}
    (inserted : table.insert? row = some table') (k : κ) :
    table'.get? k = if k = key row then some row else table.get? k := by
  unfold insert? at inserted
  split at inserted
  · cases inserted
  · rename_i free
    cases inserted
    by_cases equal : k = key row
    · subst equal
      rw [if_pos rfl]
      exact get?_eq_some_iff.mpr ⟨by simp, rfl⟩
    · rw [if_neg equal]
      have differ : key row ≠ k := Ne.symm equal
      simp [get?, List.find?_append, differ]

theorem get?_key_of_insert? {table table' : Table α} {row : α}
    (inserted : table.insert? row = some table') : table.get? (key row) = none := by
  unfold insert? at inserted
  split at inserted
  · cases inserted
  · exact get?_eq_none_iff.mpr ‹_›

theorem insert?_isSome {table : Table α} {row : α}
    (free : table.get? (key row) = none) : ∃ table', table.insert? row = some table' := by
  rw [get?_eq_none_iff] at free
  exact ⟨_, by rw [insert?, dif_neg free]⟩

theorem mem_rows_insert? {table table' : Table α} {row other : α}
    (inserted : table.insert? row = some table') :
    other ∈ table'.rows ↔ other ∈ table.rows ∨ other = row := by
  unfold insert? at inserted
  split at inserted
  · cases inserted
  · cases inserted
    simp

theorem get?_update (table : Table α) (new : α) (k : κ) :
    (table.update new).get? k =
      if k = key new then (table.get? k).map (fun _ => new) else table.get? k := by
  unfold get? update
  simp only
  induction table.rows with
  | nil => simp
  | cons row rows ih =>
      by_cases same : key row = key new
      · by_cases equal : k = key new
        · subst equal
          simp [same]
        · have differ : key new ≠ k := Ne.symm equal
          simpa [same, equal, differ] using ih
      · by_cases equal : k = key row
        · subst equal
          simp [same]
        · have differ : key row ≠ k := Ne.symm equal
          simpa [same, differ] using ih

theorem get?_update_self {table : Table α} {old new : α}
    (found : table.get? (key new) = some old) :
    (table.update new).get? (key new) = some new := by
  rw [get?_update, if_pos rfl, found, Option.map_some]

theorem get?_update_of_ne (table : Table α) {new : α} {k : κ} (differ : k ≠ key new) :
    (table.update new).get? k = table.get? k := by
  rw [get?_update, if_neg differ]

theorem get?_modify (table : Table α) {change : α → α}
    (preserves : ∀ row, key (change row) = key row) (k k' : κ) :
    (table.modify k change).get? k' =
      if k' = k then (table.get? k).map change else table.get? k' := by
  unfold modify
  cases found : table.get? k with
  | none =>
      by_cases equal : k' = k
      · subst equal
        simp [found]
      · simp [equal]
  | some row =>
      have rowKey : key (change row) = k := (preserves row).trans (key_of_get? found)
      rw [get?_update, rowKey]
      by_cases equal : k' = k
      · subst equal
        simp [found]
      · simp [equal]

theorem get?_delete (table : Table α) (k k' : κ) :
    (table.delete k).get? k' = if k' = k then none else table.get? k' := by
  by_cases equal : k' = k
  · subst equal
    rw [if_pos rfl, get?_eq_none_iff]
    simp [delete]
  · rw [if_neg equal]
    unfold get? delete
    rw [List.find?_filter]
    congr 1
    funext row
    by_cases same : key row = k'
    · have differ : key row ≠ k := fun h => equal (same.symm.trans h)
      simp [same, equal]
    · simp [same]

theorem get?_deleteWhere (table : Table α) (doomed : α → Bool) (k : κ) :
    (table.deleteWhere doomed).get? k = (table.get? k).filter fun row => !doomed row := by
  apply Option.ext
  intro row
  rw [get?_eq_some_iff, Option.filter_eq_some_iff, get?_eq_some_iff, deleteWhere, List.mem_filter]
  exact and_right_comm

theorem mem_rows_delete {table : Table α} {k : κ} {row : α} :
    row ∈ (table.delete k).rows ↔ row ∈ table.rows ∧ key row ≠ k := by
  simp [delete]

theorem mem_rows_update {table : Table α} {new row : α}
    (member : row ∈ (table.update new).rows) : row = new ∨ row ∈ table.rows := by
  simp only [update, List.mem_map] at member
  obtain ⟨old, oldMem, rfl⟩ := member
  by_cases same : key old = key new
  · exact Or.inl (if_pos same)
  · rw [if_neg same]
    exact Or.inr oldMem

/-- A property that a new version lacks is one of the other rows. -/
theorem exists_mem_update {table : Table α} {new : α} {property : α → Prop}
    (lacks : ¬ property new) :
    (∃ row ∈ (table.update new).rows, property row) ↔
      ∃ row ∈ table.rows, key row ≠ key new ∧ property row := by
  constructor
  · rintro ⟨row, member, holds⟩
    simp only [update, List.mem_map] at member
    obtain ⟨old, oldMem, rfl⟩ := member
    split at holds
    · exact absurd holds lacks
    · rename_i differ
      exact ⟨old, oldMem, differ, holds⟩
  · rintro ⟨row, member, differ, holds⟩
    refine ⟨row, List.mem_map.mpr ⟨row, member, ?_⟩, holds⟩
    rw [if_neg differ]

/-- A row that is written back as it is changes nothing. -/
theorem update_self {table : Table α} {row : α} (member : row ∈ table.rows) :
    table.update row = table := by
  apply Table.ext
  show table.rows.map (fun other => if key other = key row then row else other) = table.rows
  conv_rhs => rw [← List.map_id table.rows]
  apply List.map_congr_left
  intro other otherMem
  split
  · rename_i same
    exact List.inj_on_of_nodup_map table.distinct member otherMem same.symm
  · rfl

/-- A row that is inserted and deleted again leaves the table as it was. -/
theorem delete_of_insert? {table table' : Table α} {row : α}
    (inserted : table.insert? row = some table') : table'.delete (key row) = table := by
  have free := get?_key_of_insert? inserted
  rw [get?_eq_none_iff, List.mem_map] at free
  unfold insert? at inserted
  split at inserted
  · cases inserted
  · cases inserted
    apply Table.ext
    have kept : table.rows.filter (fun other => decide (key other ≠ key row)) = table.rows := by
      rw [List.filter_eq_self]
      intro other member
      simpa using fun same => free ⟨other, member, same⟩
    show (table.rows ++ [row]).filter (fun other => decide (key other ≠ key row)) = table.rows
    rw [List.filter_append, kept]
    simp

/-! ## Writes of several rows -/

theorem get?_foldl_delete (rows : List α) (table : Table α) (k : κ) :
    (rows.foldl (fun table row => table.delete (key row)) table).get? k =
      if k ∈ rows.map key then none else table.get? k := by
  induction rows generalizing table with
  | nil => simp
  | cons row rows ih =>
      simp only [List.foldl_cons, ih, get?_delete, List.map_cons, List.mem_cons]
      by_cases same : k = key row <;> simp [same]

theorem get?_foldl_modify {change : α → α} (preserves : ∀ row, key (change row) = key row)
    (once : ∀ row, change (change row) = change row) (rows : List α) (table : Table α) (k : κ) :
    (rows.foldl (fun table row => table.modify (key row) change) table).get? k =
      if k ∈ rows.map key then (table.get? k).map change else table.get? k := by
  induction rows generalizing table with
  | nil => simp
  | cons row rows ih =>
      simp only [List.foldl_cons, ih, get?_modify table preserves, List.map_cons, List.mem_cons]
      by_cases same : k = key row
      · subst same
        cases table.get? (key row) <;> simp [once]
      · simp [same]

theorem get?_foldl_update_of_not_mem {rows : List α} {k : κ} (absent : k ∉ rows.map key)
    (table : Table α) : (rows.foldl update table).get? k = table.get? k := by
  induction rows generalizing table with
  | nil => rfl
  | cons row rows ih =>
      rw [List.map_cons, List.mem_cons, not_or] at absent
      rw [List.foldl_cons, ih absent.2, get?_update_of_ne table absent.1]

theorem get?_foldl_update_of_mem {rows : List α} (apart : (rows.map key).Nodup) {row : α}
    (member : row ∈ rows) (table : Table α) :
    (rows.foldl update table).get? (key row) = (table.get? (key row)).map fun _ => row := by
  induction rows generalizing table with
  | nil => cases member
  | cons first rows ih =>
      rw [List.map_cons, List.nodup_cons] at apart
      rw [List.foldl_cons]
      rcases List.mem_cons.mp member with rfl | later
      · rw [get?_foldl_update_of_not_mem apart.1, get?_update, if_pos rfl]
      · rw [ih apart.2 later, get?_update_of_ne]
        exact fun same => apart.1 (same ▸ List.mem_map_of_mem later)

/-! ## Columns -/

/-- A new row adds its value to a column. -/
theorem map_rows_insert? {table table' : Table α} {row : α} {β : Type*}
    (inserted : table.insert? row = some table') (column : α → β) :
    table'.rows.map column = table.rows.map column ++ [column row] := by
  unfold insert? at inserted
  split at inserted
  · cases inserted
  · cases inserted
    simp

/-- A new version with the same value leaves a column as it is. -/
theorem map_rows_update {table : Table α} {β : Type*} {new : α} {column : α → β}
    (same : ∀ row, table.get? (key new) = some row → column row = column new) :
    (table.update new).rows.map column = table.rows.map column := by
  rw [update, List.map_map]
  apply List.map_congr_left
  intro row member
  by_cases replaced : key row = key new
  · rw [Function.comp_apply, if_pos replaced]
    exact (same row (replaced ▸ get?_key_of_mem member)).symm
  · rw [Function.comp_apply, if_neg replaced]

/-- A row whose value nobody else has leaves with its value. -/
theorem map_rows_delete {table : Table α} {row : α} {β : Type*} [DecidableEq β] {column : α → β}
    (unique : (table.rows.map column).Nodup) (member : row ∈ table.rows) :
    (table.delete (key row)).rows.map column =
      (table.rows.map column).filter fun value => value ≠ column row := by
  rw [delete, List.filter_map]
  congr 1
  apply List.filter_congr
  intro other otherMem
  have sameRow : key other = key row ↔ column other = column row := by
    constructor
    · intro sameKey
      rw [List.inj_on_of_nodup_map table.distinct otherMem member sameKey]
    · intro sameValue
      rw [List.inj_on_of_nodup_map unique otherMem member sameValue]
  simp [sameRow]

end Table

end RowTable
