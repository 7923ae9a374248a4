import Mathlib.Data.List.Induction
import Owprov.Lib.Table

/-!
# Writes that a database may refuse

A program that writes several rows one after the other has to undo the earlier writes when a
later one is refused.  Each write is told whether it is refused; a refused write leaves its
table as it is.
-/

namespace RowTable

universe u v

namespace Table

variable {α : Type u} {κ : Type v} [Keyed α κ] [DecidableEq κ]

/-- A row that is inserted unless the database refuses it. -/
def insertUnless (table : Table α) (refused : Bool) (row : α) : Option (Table α) :=
  if refused then none else table.insert? row

/-- A row that is rewritten unless the database refuses it. -/
def updateUnless (table : Table α) (refused : Bool) (new : α) : Option (Table α) :=
  if refused then none else some (table.update new)

/-- A row that is deleted unless the database refuses it; nobody asks for the answer. -/
def deleteUnless (table : Table α) (refused : Bool) (k : κ) : Table α :=
  if refused then table else table.delete k

variable {table table' : Table α} {row : α} {refused : Bool}

@[simp]
theorem insertUnless_false (table : Table α) (row : α) :
    table.insertUnless false row = table.insert? row := rfl

@[simp]
theorem updateUnless_false (table : Table α) (new : α) :
    table.updateUnless false new = some (table.update new) := rfl

@[simp]
theorem deleteUnless_false (table : Table α) (k : κ) :
    table.deleteUnless false k = table.delete k := rfl

theorem insertUnless_eq_some_iff :
    table.insertUnless refused row = some table' ↔
      refused = false ∧ table.insert? row = some table' := by
  cases refused <;> simp [insertUnless]

theorem insertUnless_eq_none_iff :
    table.insertUnless refused row = none ↔ ¬ (refused = false ∧ table.get? (key row) = none) := by
  constructor
  · rintro missing ⟨rfl, free⟩
    obtain ⟨table', inserted⟩ := insert?_isSome free
    rw [insertUnless_false, inserted] at missing
    cases missing
  · intro notAccepted
    cases stored : table.insertUnless refused row with
    | none => rfl
    | some table' =>
        obtain ⟨accepted, inserted⟩ := insertUnless_eq_some_iff.mp stored
        exact absurd ⟨accepted, get?_key_of_insert? inserted⟩ notAccepted

/-- A new row changes its table. -/
theorem ne_of_insert? (inserted : table.insert? row = some table') : table' ≠ table := by
  rintro rfl
  have present := get?_insert? inserted (key row)
  rw [if_pos rfl, get?_key_of_insert? inserted] at present
  cases present

/-- A new version of a missing row is not stored. -/
theorem update_of_missing {new : α} (missing : table.get? (key new) = none) :
    table.update new = table := by
  apply Table.ext
  show table.rows.map (fun other => if key other = key new then new else other) = table.rows
  conv_rhs => rw [← List.map_id table.rows]
  apply List.map_congr_left
  intro other member
  have differs : key other ≠ key new := by
    intro same
    rw [← same, get?_key_of_mem member] at missing
    cases missing
  exact if_neg differs

/-- A new version that is filtered out like the old one. -/
theorem filter_rows_update {new : α} {chosen : α → Bool} (notNew : chosen new = false)
    (notOld : ∀ old, table.get? (key new) = some old → chosen old = false) :
    (table.update new).rows.filter chosen = table.rows.filter chosen := by
  have same : ∀ rows : List α, (∀ row ∈ rows, row ∈ table.rows) →
      (rows.map fun row => if key row = key new then new else row).filter chosen =
        rows.filter chosen := by
    intro rows
    induction rows with
    | nil => exact fun _ => rfl
    | cons row rows ih =>
        intro members
        have rest := ih fun other member => members other (List.mem_cons_of_mem row member)
        have isRow := members row List.mem_cons_self
        rw [List.map_cons]
        by_cases replaced : key row = key new
        · have old : chosen row = false := notOld row (replaced ▸ get?_key_of_mem isRow)
          rw [if_pos replaced, List.filter_cons_of_neg (by simp [notNew]),
            List.filter_cons_of_neg (by simp [old]), rest]
        · rw [if_neg replaced, List.filter_cons, List.filter_cons, rest]
  exact same table.rows fun _ member => member

/-! ## Batches -/

/-- One write of a batch. -/
inductive BatchWrite (α : Type u) where
  | insert (row : α)
  | update (new : α)

def BatchWrite.apply (table : Table α) : BatchWrite α → Option (Table α)
  | .insert row => table.insert? row
  | .update new => some (table.update new)

/-- The table after the writes of a batch, unless the key of a new row is taken. -/
def applyBatch (writes : List (BatchWrite α)) (table : Table α) : Option (Table α) :=
  writes.foldlM BatchWrite.apply table

/-- The keys of the rows that a batch inserts. -/
def insertedKeys : List (BatchWrite α) → List κ
  | [] => []
  | .insert row :: writes => key row :: insertedKeys writes
  | .update _ :: writes => insertedKeys writes

/-- The rows that a batch rewrites, with their new contents. -/
def updatedRows : List (BatchWrite α) → List α
  | [] => []
  | .insert _ :: writes => updatedRows writes
  | .update new :: writes => new :: updatedRows writes

/-- The last version among those of a row. -/
def lastVersion (versions : List α) (k : κ) : Option α :=
  versions.reverse.find? fun new => key new = k

/-- The inserted rows are deleted, unless the database refuses it. -/
def undoInserts (refused : κ → Bool) (keys : List κ) (table : Table α) : Table α :=
  keys.foldl (fun table k => table.deleteUnless (refused k) k) table

section Batches

variable {writes : List (BatchWrite α)} {refusedKey : κ → Bool}

omit [DecidableEq κ] in
theorem insertedKeys_append (first second : List (BatchWrite α)) :
    insertedKeys (first ++ second) = insertedKeys first ++ insertedKeys second := by
  induction first with
  | nil => rfl
  | cons write first ih => cases write <;> simp [insertedKeys, ih]

omit [DecidableEq κ] in
theorem updatedRows_append (first second : List (BatchWrite α)) :
    updatedRows (first ++ second) = updatedRows first ++ updatedRows second := by
  induction first with
  | nil => rfl
  | cons write first ih => cases write <;> simp [updatedRows, ih]

theorem lastVersion_append_singleton (versions : List α) (new : α) (k : κ) :
    lastVersion (versions ++ [new]) k =
      if key new = k then some new else lastVersion versions k := by
  rw [lastVersion, List.reverse_append, List.reverse_singleton, List.singleton_append,
    List.find?_cons]
  split <;> simp_all [lastVersion]

theorem key_of_lastVersion {versions : List α} {k : κ} {new : α}
    (last : lastVersion versions k = some new) : key new = k := by
  simpa using List.find?_some last

/-- A batch that was applied: the rows other than the inserted ones are the old ones in their last
versions, and the inserted keys are new. -/
structure Applied (writes : List (BatchWrite α)) (table table' : Table α) : Prop where
  kept : (table'.rows.filter fun row => decide (key row ∉ insertedKeys writes)) =
    table.rows.map fun row => (lastVersion (updatedRows writes) (key row)).getD row
  new : ∀ k ∈ insertedKeys writes, table.get? k = none
  present : ∀ k ∈ insertedKeys writes, ∃ row ∈ table'.rows, key row = k

theorem key_getD_lastVersion (versions : List α) (row : α) :
    key ((lastVersion versions (key row)).getD row) = key row := by
  cases last : lastVersion versions (key row) with
  | none => rfl
  | some new => exact key_of_lastVersion last

/-- The keys of the old rows are there still. -/
theorem Applied.exists_mem (applied : Applied writes table table') {row : α}
    (member : row ∈ table.rows) : ∃ row' ∈ table'.rows, key row' = key row := by
  have isVersion : (lastVersion (updatedRows writes) (key row)).getD row ∈
      table.rows.map fun row => (lastVersion (updatedRows writes) (key row)).getD row :=
    List.mem_map_of_mem member
  rw [← applied.kept] at isVersion
  exact ⟨_, (List.mem_filter.mp isVersion).1, key_getD_lastVersion _ row⟩

/-- A row has the key of an old row or of an inserted one. -/
theorem Applied.key_cases (applied : Applied writes table table') {row : α}
    (member : row ∈ table'.rows) :
    (∃ old ∈ table.rows, key old = key row) ∨ key row ∈ insertedKeys writes := by
  by_cases inserted : key row ∈ insertedKeys writes
  · exact Or.inr inserted
  · have isKept : row ∈ table'.rows.filter fun row => decide (key row ∉ insertedKeys writes) :=
      List.mem_filter.mpr ⟨member, by simpa using inserted⟩
    rw [applied.kept] at isKept
    obtain ⟨old, isOld, rfl⟩ := List.mem_map.mp isKept
    exact Or.inl ⟨old, isOld, (key_getD_lastVersion _ old).symm⟩

theorem Applied.insert {middle : Table α} (applied : Applied writes table middle)
    (inserted : middle.insert? row = some table') :
    Applied (writes ++ [.insert row]) table table' := by
  have missing : middle.get? (key row) = none := get?_key_of_insert? inserted
  have rows : table'.rows = middle.rows ++ [row] := by
    have mapped := map_rows_insert? inserted id
    simpa using mapped
  have keys : insertedKeys (writes ++ [BatchWrite.insert row]) = insertedKeys writes ++ [key row] :=
    insertedKeys_append _ _
  have updated : updatedRows (writes ++ [BatchWrite.insert row]) = updatedRows writes := by
    simp [updatedRows_append, updatedRows]
  constructor
  case kept =>
    rw [rows, keys, updated, ← applied.kept, List.filter_append]
    have last : ([row].filter fun other =>
        decide (key other ∉ insertedKeys writes ++ [key row])) = [] := by simp
    rw [last, List.append_nil]
    apply List.filter_congr
    intro other member
    have differs : key other ≠ key row := by
      intro same
      rw [← same, get?_key_of_mem member] at missing
      cases missing
    simp [differs]
  case new =>
    intro k member
    rw [keys, List.mem_append, List.mem_singleton] at member
    rcases member with earlier | rfl
    · exact applied.new k earlier
    · rw [get?_eq_none_iff, List.mem_map]
      rintro ⟨old, isOld, same⟩
      obtain ⟨other, isOther, sameKey⟩ := applied.exists_mem isOld
      rw [← same, ← sameKey, get?_key_of_mem isOther] at missing
      cases missing
  case present =>
    intro k member
    rw [keys, List.mem_append, List.mem_singleton] at member
    rw [rows]
    rcases member with earlier | rfl
    · obtain ⟨other, isOther, rfl⟩ := applied.present k earlier
      exact ⟨other, List.mem_append_left _ isOther, rfl⟩
    · exact ⟨row, by simp, rfl⟩

theorem Applied.update {middle : Table α} (applied : Applied writes table middle) (new : α) :
    Applied (writes ++ [.update new]) table (middle.update new) := by
  have keys : insertedKeys (writes ++ [BatchWrite.update new]) = insertedKeys writes := by
    simp [insertedKeys_append, insertedKeys]
  have updated : updatedRows (writes ++ [BatchWrite.update new]) = updatedRows writes ++ [new] :=
    updatedRows_append _ _
  have sameKey : ∀ other, key (if key other = key new then new else other) = key other := by
    intro other
    split
    · rename_i same
      exact same.symm
    · rfl
  constructor
  case kept =>
    rw [keys, updated]
    show ((middle.rows.map fun other => if key other = key new then new else other).filter
      fun other => decide (key other ∉ insertedKeys writes)) = _
    have filtered : (fun other => decide (key other ∉ insertedKeys writes)) ∘
        (fun other => if key other = key new then new else other) =
          fun other => decide (key other ∉ insertedKeys writes) := by
      funext other
      rw [Function.comp_apply, sameKey]
    rw [List.filter_map, filtered, applied.kept, List.map_map]
    apply List.map_congr_left
    intro other _
    rw [Function.comp_apply, key_getD_lastVersion, lastVersion_append_singleton]
    by_cases same : key other = key new
    · rw [if_pos same, if_pos same.symm, Option.getD_some]
    · rw [if_neg same, if_neg (Ne.symm same)]
  case new =>
    rw [keys]
    exact applied.new
  case present =>
    rw [keys]
    intro k member
    obtain ⟨other, isOther, rfl⟩ := applied.present k member
    exact ⟨_, List.mem_map_of_mem isOther, sameKey other⟩

/-- The writes of a batch are applied one after the other. -/
theorem applyBatch_append_singleton (writes : List (BatchWrite α)) (write : BatchWrite α)
    (table : Table α) :
    applyBatch (writes ++ [write]) table = (applyBatch writes table).bind write.apply := by
  rw [applyBatch, List.foldlM_append, applyBatch]
  cases writes.foldlM BatchWrite.apply table with
  | none => rfl
  | some middle => simp

theorem applied_of_applyBatch (applied : applyBatch writes table = some table') :
    Applied writes table table' := by
  induction writes using List.reverseRecOn generalizing table' with
  | nil =>
      obtain rfl := Option.some.inj applied
      refine ⟨?_, by simp [insertedKeys], by simp [insertedKeys]⟩
      simp [insertedKeys, updatedRows, lastVersion]
  | append_singleton writes write ih =>
      rw [applyBatch_append_singleton] at applied
      obtain ⟨middle, isMiddle, written⟩ := Option.bind_eq_some_iff.mp applied
      cases write with
      | insert row => exact (ih isMiddle).insert written
      | update new =>
          obtain rfl := Option.some.inj written
          exact (ih isMiddle).update new

end Batches

end Table

end RowTable
