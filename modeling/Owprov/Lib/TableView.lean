import Owprov.Lib.Table

/-!
# Views of tables

A view reads some columns of a row.  Two tables show the same view when they hold the same
keys and the rows agree in these columns.  A table keeps a view of another when the rows that
are in both agree, whatever rows were added or removed.
-/

namespace RowTable

universe u v w

namespace Table

variable {α : Type u} {κ : Type v} {β : Type w} [Keyed α κ] [DecidableEq κ]

/-- The tables hold the same keys, and equal views of the rows. -/
def SameView (view : α → β) (table table' : Table α) : Prop :=
  ∀ k, (table'.get? k).map view = (table.get? k).map view

/-- The rows that are in both tables have equal views. -/
def KeepsView (view : α → β) (table table' : Table α) : Prop :=
  ∀ k row row', table.get? k = some row → table'.get? k = some row' → view row' = view row

variable {view : α → β} {table table' table'' : Table α}

namespace SameView

theorem refl (view : α → β) (table : Table α) : SameView view table table := fun _ => rfl

theorem symm (same : SameView view table table') : SameView view table' table :=
  fun k => (same k).symm

theorem trans (same : SameView view table table') (same' : SameView view table' table'') :
    SameView view table table'' :=
  fun k => (same' k).trans (same k)

/-- A view of a view. -/
theorem comp {γ : Type*} (same : SameView view table table') (part : β → γ) :
    SameView (fun row => part (view row)) table table' := by
  intro k
  have views := congrArg (Option.map part) (same k)
  simpa [Option.map_map, Function.comp_def] using views

theorem found (same : SameView view table table') {k : κ} {row : α}
    (found : table'.get? k = some row) : ∃ old, table.get? k = some old ∧ view row = view old := by
  have views := same k
  rw [found, Option.map_some] at views
  obtain ⟨old, before, equal⟩ := Option.map_eq_some_iff.mp views.symm
  exact ⟨old, before, equal.symm⟩

theorem get?_eq_none (same : SameView view table table') {k : κ} (missing : table.get? k = none) :
    table'.get? k = none := by
  have views := same k
  rw [missing, Option.map_none] at views
  exact Option.map_eq_none_iff.mp views

/-- Some row has a property of its view in both tables, or in none. -/
theorem exists_mem_iff (same : SameView view table table') (property : β → Prop) :
    (∃ row ∈ table'.rows, property (view row)) ↔ ∃ row ∈ table.rows, property (view row) := by
  have carried : ∀ {source target : Table α}, SameView view source target →
      (∃ row ∈ target.rows, property (view row)) → ∃ row ∈ source.rows, property (view row) := by
    rintro source target same ⟨row, member, holds⟩
    obtain ⟨old, isOld, equal⟩ := same.found (get?_key_of_mem member)
    exact ⟨old, mem_of_get? isOld, equal ▸ holds⟩
  exact ⟨carried same, carried same.symm⟩

/-- A row is replaced by one with the same view. -/
theorem update {old new : α} (found : table.get? (key new) = some old)
    (kept : view new = view old) : SameView view table (table.update new) := by
  intro k
  by_cases equal : k = key new
  · subst equal
    rw [get?_update_self found, found, Option.map_some, Option.map_some, kept]
  · rw [get?_update_of_ne table equal]

theorem modify {change : α → α} (preserves : ∀ row, key (change row) = key row)
    (kept : ∀ row, view (change row) = view row) (k : κ) :
    SameView view table (table.modify k change) := by
  intro other
  rw [get?_modify table preserves]
  split
  · rename_i equal
    rw [equal, Option.map_map]
    congr 1
    exact funext kept
  · rfl

end SameView

namespace KeepsView

theorem of_same (same : SameView view table table') : KeepsView view table table' := by
  intro k row row' before after
  obtain ⟨old, isOld, views⟩ := same.found after
  rw [before, Option.some.injEq] at isOld
  rw [views, isOld]

theorem trans_same (kept : KeepsView view table table') (same : SameView view table' table'') :
    KeepsView view table table'' := by
  intro k row row' before after
  obtain ⟨middle, isMiddle, views⟩ := same.found after
  exact views.trans (kept k row middle before isMiddle)

theorem of_insert? {row : α} (inserted : table.insert? row = some table') :
    KeepsView view table table' := by
  intro k old new before after
  rw [get?_insert? inserted] at after
  split at after
  · rename_i equal
    have free := get?_key_of_insert? inserted
    rw [equal, free] at before
    cases before
  · rw [before, Option.some.injEq] at after
    rw [after]

theorem delete (kept : KeepsView view table table') (k : κ) :
    KeepsView view table (table'.delete k) := by
  intro other row row' before after
  rw [get?_delete] at after
  split at after
  · cases after
  · exact kept other row row' before after

/-- What a kept view says of one key that is in both tables. -/
theorem map_get? (kept : KeepsView view table table') {k : κ} (before : (table.get? k).isSome)
    (after : (table'.get? k).isSome) : (table'.get? k).map view = (table.get? k).map view := by
  obtain ⟨row, found⟩ := Option.isSome_iff_exists.mp before
  obtain ⟨row', found'⟩ := Option.isSome_iff_exists.mp after
  rw [found, found', Option.map_some, Option.map_some, kept k row row' found found']

end KeepsView

end Table

end RowTable
