import Owprov.Lib.LinkedForest
import Owprov.Store

/-!
# Tables of linked records

Entities and venues name their parent in one column and list their children in another.
Such a table is a forest in the sense of `LinkedForest`, and each write of the handlers
to a linked table is one of the writes to a forest.
-/

namespace Owprov

open RowTable LinkedForest

/-- The columns that link the records of a table. -/
structure LinkColumns (α : Type) [Keyed α String] where
  parent : α → String
  children : VectorMember α
  parent_set : ∀ ids row, parent (children.set ids row) = parent row

/-- An id column that may be left empty. -/
def optionalId (id : String) : Option String :=
  if id = "" then none else some id

@[simp]
theorem optionalId_empty : optionalId "" = none := rfl

theorem optionalId_of_ne {id : String} (filled : id ≠ "") : optionalId id = some id :=
  if_neg filled

theorem optionalId_eq_some_iff {id other : String} :
    optionalId id = some other ↔ id = other ∧ id ≠ "" := by
  unfold optionalId
  split
  · rename_i blank
    simp [blank]
  · rename_i filled
    simp [filled]

variable {α : Type} [Keyed α String]

namespace LinkColumns

/-- The links of a record. -/
def links (columns : LinkColumns α) (row : α) : Links String where
  parent := optionalId (columns.parent row)
  children := columns.children.get row

/-- The forest of a linked table. -/
def forest (columns : LinkColumns α) (table : Table α) : Forest String :=
  fun id => (table.get? id).map columns.links

variable {columns : LinkColumns α} {table table' : Table α}

theorem forest_eq_some_iff {id : String} {links : Links String} :
    columns.forest table id = some links ↔
      ∃ row, table.get? id = some row ∧ columns.links row = links := by
  simp [forest]

theorem forest_eq_none_iff {id : String} :
    columns.forest table id = none ↔ table.get? id = none := by
  simp [forest]

theorem parentEdge_iff {child parent : String} :
    ParentEdge (columns.forest table) child parent ↔
      ∃ row, table.get? child = some row ∧ columns.parent row = parent ∧ parent ≠ "" := by
  constructor
  · rintro ⟨_, linked, isParent⟩
    obtain ⟨row, found, rfl⟩ := forest_eq_some_iff.mp linked
    obtain ⟨named, filled⟩ := optionalId_eq_some_iff.mp isParent
    exact ⟨row, found, named, named ▸ filled⟩
  · rintro ⟨row, found, rfl, filled⟩
    exact ⟨columns.links row, forest_eq_some_iff.mpr ⟨row, found, rfl⟩,
      optionalId_of_ne filled⟩

theorem childEdge_iff {parent child : String} :
    ChildEdge (columns.forest table) parent child ↔
      ∃ row, table.get? parent = some row ∧ child ∈ columns.children.get row := by
  constructor
  · rintro ⟨_, linked, member⟩
    obtain ⟨row, found, rfl⟩ := forest_eq_some_iff.mp linked
    exact ⟨row, found, Multiset.mem_coe.mp member⟩
  · rintro ⟨row, found, member⟩
    exact ⟨columns.links row, forest_eq_some_iff.mpr ⟨row, found, rfl⟩,
      Multiset.mem_coe.mpr member⟩

/-! ## The writes to a linked table -/

theorem forest_insert? {row : α} (inserted : table.insert? row = some table') :
    columns.forest table' =
      Function.update (columns.forest table) (key row) (some (columns.links row)) := by
  funext id
  by_cases same : id = key row
  · subst same
    simp [forest, Table.get?_insert? inserted]
  · simp [forest, Table.get?_insert? inserted, same]

theorem forest_delete (id : String) :
    columns.forest (table.delete id) = Function.update (columns.forest table) id none := by
  funext other
  by_cases same : other = id
  · subst same
    simp [forest, Table.get?_delete]
  · simp [forest, Table.get?_delete, same]

/-- An update that keeps the links keeps the forest. -/
theorem forest_update {old new : α} (found : table.get? (key new) = some old)
    (kept : columns.links new = columns.links old) :
    columns.forest (table.update new) = columns.forest table := by
  funext id
  by_cases same : id = key new
  · subst same
    simp [forest, Table.get?_update_self found, found, kept]
  · simp [forest, Table.get?_update_of_ne table same]

/-- An update of the parent column. -/
theorem forest_update_parent {old new : α} (found : table.get? (key new) = some old)
    (kept : columns.children.get new = columns.children.get old) :
    columns.forest (table.update new) =
      setParent (columns.forest table) (key new) (optionalId (columns.parent new)) := by
  funext id
  by_cases same : id = key new
  · subst same
    simp [forest, setParent, Table.get?_update_self found, found, links, kept]
  · simp [forest, setParent, Table.get?_update_of_ne table same, same]

theorem links_set_children (row : α) (ids : List String) :
    columns.links (columns.children.set ids row) =
      { columns.links row with children := ids } := by
  simp [links, columns.parent_set, columns.children.get_set]

theorem coe_manipulateVector_add (ids : List String) (childUUID : String) :
    (manipulateVector ids childUUID true : Multiset String) =
      if childUUID ∈ (ids : Multiset String) then (ids : Multiset String)
      else childUUID ::ₘ (ids : Multiset String) := by
  unfold manipulateVector
  by_cases present : childUUID ∈ ids
  · simp [present]
  · have sorted := List.perm_insertionSort (· ≤ ·) (ids ++ [childUUID])
    have appended : (ids ++ [childUUID]).Perm (childUUID :: ids) :=
      List.perm_append_singleton childUUID ids
    simpa [present] using Multiset.coe_eq_coe.mpr (sorted.trans appended)

theorem forest_addChild (parentId childId : String) :
    columns.forest (manipulateVectorMember table columns.children parentId childId true) =
      addChild (columns.forest table) parentId childId := by
  funext id
  by_cases same : id = parentId
  · subst same
    cases found : table.get? id with
    | none => simp [forest, addChild, get?_manipulateVectorMember, found]
    | some row =>
        have written := coe_manipulateVector_add (columns.children.get row) childId
        simp only [forest, addChild, get?_manipulateVectorMember, found, if_true, Option.map_some,
          Function.update_self, links_set_children, written]
        rfl
  · simp [forest, addChild, get?_manipulateVectorMember, same]

theorem forest_removeChild (parentId childId : String) :
    columns.forest (manipulateVectorMember table columns.children parentId childId false) =
      removeChild (columns.forest table) parentId childId := by
  funext id
  by_cases same : id = parentId
  · subst same
    cases found : table.get? id with
    | none => simp [forest, removeChild, get?_manipulateVectorMember, found]
    | some row =>
        simp only [forest, removeChild, get?_manipulateVectorMember, found, if_true,
          Option.map_some, Function.update_self, links_set_children]
        rfl
  · simp [forest, removeChild, get?_manipulateVectorMember, same]

theorem forest_addMembership (parentId childId : String) :
    columns.forest (addMembership table columns.children parentId childId) =
      addToParent (columns.forest table) (optionalId parentId) childId := by
  unfold addMembership
  by_cases blank : parentId = ""
  · rw [if_pos blank, blank, optionalId_empty]
    rfl
  · rw [if_neg blank, optionalId_of_ne blank]
    exact forest_addChild parentId childId

theorem forest_removeMembership (parentId childId : String) :
    columns.forest (removeMembership table columns.children parentId childId) =
      removeFromParent (columns.forest table) (optionalId parentId) childId := by
  unfold removeMembership
  by_cases blank : parentId = ""
  · rw [if_pos blank, blank, optionalId_empty]
    rfl
  · rw [if_neg blank, optionalId_of_ne blank]
    exact forest_removeChild parentId childId

/-- Membership lists other than the children leave the forest alone. -/
theorem forest_manipulateVectorMember (member : VectorMember α)
    (apart : ∀ ids row, columns.links (member.set ids row) = columns.links row)
    (parentId id : String) (add : Bool) :
    columns.forest (manipulateVectorMember table member parentId id add) =
      columns.forest table := by
  funext other
  by_cases same : other = parentId
  · subst same
    cases found : table.get? other with
    | none => simp [forest, get?_manipulateVectorMember, found]
    | some row => simp [forest, get?_manipulateVectorMember, found, apart]
  · simp [forest, get?_manipulateVectorMember, same]

theorem forest_addMembership_of_apart (member : VectorMember α)
    (apart : ∀ ids row, columns.links (member.set ids row) = columns.links row)
    (parentId id : String) :
    columns.forest (addMembership table member parentId id) = columns.forest table := by
  unfold addMembership
  split
  · rfl
  · exact forest_manipulateVectorMember member apart parentId id true

/-- The records that have a parent, or children, are among the rows of the table. -/
def ids (table : Table α) : Finset String :=
  (table.rows.map key).toFinset

theorem mem_ids_of_get? {id : String} {row : α} (found : table.get? id = some row) :
    id ∈ ids table := by
  rw [ids, List.mem_toFinset, List.mem_map]
  exact ⟨row, Table.mem_of_get? found, Table.key_of_get? found⟩

theorem card_ids_le (table : Table α) : (ids table).card ≤ table.rows.length := by
  rw [ids, ← List.length_map (f := key)]
  exact List.toFinset_card_le _

end LinkColumns

end Owprov
