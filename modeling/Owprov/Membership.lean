import Owprov.Lib.ForeignKeys
import Owprov.Lib.TableView
import Owprov.LinkedTable

/-!
# Membership lists

The lists of a table hold the members that name one of its records in a column of another
table, or of the same one.  Each write of the handlers to a list, or to the column, is one of
the writes that `ForeignKeys` describes.
-/

namespace Owprov

open RowTable ForeignKeys

variable {α γ : Type} [Keyed α String] [Keyed γ String]

/-! ## Frames -/

section Frames

variable {β : Type} {view : α → β} {table : Table α} {member : VectorMember α}

theorem sameView_manipulateVectorMember (apart : ∀ ids row, view (member.set ids row) = view row)
    (parentId id : String) (add : Bool) :
    Table.SameView view table (manipulateVectorMember table member parentId id add) :=
  Table.SameView.modify (fun row => member.key_set _ row) (fun row => apart _ row) parentId

theorem sameView_addMembership (apart : ∀ ids row, view (member.set ids row) = view row)
    (parentId id : String) : Table.SameView view table (addMembership table member parentId id) := by
  unfold addMembership
  split
  · exact Table.SameView.refl view table
  · exact sameView_manipulateVectorMember apart parentId id true

theorem sameView_removeMembership (apart : ∀ ids row, view (member.set ids row) = view row)
    (parentId id : String) :
    Table.SameView view table (removeMembership table member parentId id) := by
  unfold removeMembership
  split
  · exact Table.SameView.refl view table
  · exact sameView_manipulateVectorMember apart parentId id false

theorem sameView_manageMembership (apart : ∀ ids row, view (member.set ids row) = view row)
    (fromId toId id : String) :
    Table.SameView view table (manageMembership table member fromId toId id) :=
  (sameView_removeMembership apart fromId id).trans (sameView_addMembership apart toId id)

theorem sameView_moveUsage (apart : ∀ ids row, view (member.set ids row) = view row)
    (dbPrefix fromId toId id : String) :
    Table.SameView view table (moveUsage table member dbPrefix fromId toId id) := by
  unfold moveUsage
  split
  · exact Table.SameView.refl view table
  · exact sameView_manageMembership apart fromId toId (dbPrefix ++ ":" ++ id)

theorem sameView_moveUsages (apart : ∀ ids row, view (member.set ids row) = view row)
    (dbPrefix : String) (fromIds toIds : List String) (id : String) :
    Table.SameView view table (moveUsages table member dbPrefix fromIds toIds id) := by
  have folded : ∀ (add : Bool) (ids : List String) (table : Table α),
      Table.SameView view table (ids.foldl (fun table obj =>
        manipulateVectorMember table member obj (dbPrefix ++ ":" ++ id) add) table) := by
    intro add ids
    induction ids with
    | nil => exact fun table => Table.SameView.refl view table
    | cons object ids ih =>
        intro table
        rw [List.foldl_cons]
        exact (sameView_manipulateVectorMember apart object _ add).trans (ih _)
  unfold moveUsages
  split
  · exact Table.SameView.refl view table
  · exact (folded false fromIds table).trans (folded true toIds _)

end Frames

/-! ## Existence -/

theorem idExists_congr {β : Type} {view : α → β} {table table' : Table α}
    (same : Table.SameView view table table') (id : String) :
    idExists table' id = idExists table id := by
  have views := congrArg Option.isSome (same id)
  simpa [idExists] using views

theorem idExists_manipulateVectorMember (table : Table α) (member : VectorMember α)
    (parentId id : String) (add : Bool) (other : String) :
    idExists (manipulateVectorMember table member parentId id add) other = idExists table other := by
  have same : Table.SameView (fun _ => ()) table
      (manipulateVectorMember table member parentId id add) :=
    sameView_manipulateVectorMember (fun _ _ => rfl) parentId id add
  exact idExists_congr same other

theorem idExists_removeMembership (table : Table α) (member : VectorMember α)
    (parentId id other : String) :
    idExists (removeMembership table member parentId id) other = idExists table other := by
  unfold removeMembership
  split
  · rfl
  · exact idExists_manipulateVectorMember table member parentId id false other

theorem idExists_insert {table table' : Table α} {row : α}
    (inserted : table.insert? row = some table') {id : String} (present : idExists table id = true) :
    idExists table' id = true := by
  rw [idExists, Table.get?_insert? inserted]
  split
  · rfl
  · exact present

theorem idExists_delete {table : Table α} {id other : String}
    (apart : id ≠ other) (present : idExists table id = true) :
    idExists (table.delete other) id = true := by
  rw [idExists, Table.get?_delete, if_neg apart]
  exact present

/-! ## Columns and lists -/

/-- The owner that a member of a table names. -/
def owners (table : Table γ) (column : γ → String) : Column String String :=
  fun id => (table.get? id).bind fun row => optionalId (column row)

/-- The lists of a table. -/
def memberships (table : Table α) (member : VectorMember α) : Lists String String :=
  fun id => (table.get? id).map fun row => (member.get row : Multiset String)

section Column

variable {table table' : Table γ} {column : γ → String}

theorem owners_eq_some_iff {id owner : String} :
    owners table column id = some owner ↔
      ∃ row, table.get? id = some row ∧ column row = owner ∧ owner ≠ "" := by
  unfold owners
  rw [Option.bind_eq_some_iff]
  constructor
  · rintro ⟨row, found, named⟩
    obtain ⟨equal, filled⟩ := optionalId_eq_some_iff.mp named
    exact ⟨row, found, equal, equal ▸ filled⟩
  · rintro ⟨row, found, equal, filled⟩
    exact ⟨row, found, optionalId_eq_some_iff.mpr ⟨equal, equal ▸ filled⟩⟩

theorem owners_of_get? {id : String} {row : γ} (found : table.get? id = some row) :
    owners table column id = optionalId (column row) := by
  rw [owners, found, Option.bind_some]

theorem owners_congr (same : Table.SameView column table table') :
    owners table' column = owners table column := by
  funext id
  have views := congrArg (Option.bind · optionalId) (same id)
  simpa [owners, Option.bind_map] using views

theorem owners_insert? {row : γ} (inserted : table.insert? row = some table') :
    owners table' column =
      Function.update (owners table column) (key row) (optionalId (column row)) := by
  funext id
  by_cases same : id = key row
  · subst same
    simp [owners, Table.get?_insert? inserted]
  · simp [owners, Table.get?_insert? inserted, same]

theorem owners_update {old new : γ} (found : table.get? (key new) = some old) :
    owners (table.update new) column =
      Function.update (owners table column) (key new) (optionalId (column new)) := by
  funext id
  by_cases same : id = key new
  · subst same
    simp [owners, Table.get?_update_self found]
  · simp [owners, Table.get?_update_of_ne table same, same]

theorem owners_delete (id : String) :
    owners (table.delete id) column = Function.update (owners table column) id none := by
  funext other
  by_cases same : other = id
  · subst same
    simp [owners, Table.get?_delete]
  · simp [owners, Table.get?_delete, same]

end Column

section Lists

variable {table table' : Table α} {member : VectorMember α}

theorem memberships_eq_some_iff {id : String} {list : Multiset String} :
    memberships table member id = some list ↔
      ∃ row, table.get? id = some row ∧ (member.get row : Multiset String) = list := by
  simp [memberships]

theorem isSome_memberships {id : String} :
    (memberships table member id).isSome = idExists table id := by
  simp [memberships, idExists]

theorem memberships_congr (same : Table.SameView member.get table table') :
    memberships table' member = memberships table member := by
  funext id
  have views := congrArg (Option.map fun ids : List String => (ids : Multiset String)) (same id)
  simpa [memberships, Option.map_map, Function.comp_def] using views

theorem memberships_insert? {row : α} (inserted : table.insert? row = some table') :
    memberships table' member =
      Function.update (memberships table member) (key row) (some (member.get row)) := by
  funext id
  by_cases same : id = key row
  · subst same
    simp [memberships, Table.get?_insert? inserted]
  · simp [memberships, Table.get?_insert? inserted, same]

theorem memberships_delete (id : String) :
    memberships (table.delete id) member = Function.update (memberships table member) id none := by
  funext other
  by_cases same : other = id
  · subst same
    simp [memberships, Table.get?_delete]
  · simp [memberships, Table.get?_delete, same]

theorem memberships_add (parentId id : String) :
    memberships (manipulateVectorMember table member parentId id true) member =
      addTo (memberships table member) (some parentId) id := by
  funext other
  by_cases same : other = parentId
  · subst same
    cases found : table.get? other with
    | none => simp [memberships, addTo, get?_manipulateVectorMember, found]
    | some row =>
        have written := LinkColumns.coe_manipulateVector_add (member.get row) id
        simp only [memberships, addTo, get?_manipulateVectorMember, found, if_true, Option.map_some,
          Option.elim_some, Function.update_self, member.get_set, written]
  · simp [memberships, addTo, get?_manipulateVectorMember, same]

theorem memberships_remove (parentId id : String) :
    memberships (manipulateVectorMember table member parentId id false) member =
      removeFrom (memberships table member) (some parentId) id := by
  funext other
  by_cases same : other = parentId
  · subst same
    cases found : table.get? other with
    | none => simp [memberships, removeFrom, get?_manipulateVectorMember, found]
    | some row =>
        simp only [memberships, removeFrom, get?_manipulateVectorMember, found, if_true,
          Option.map_some, Option.elim_some, Function.update_self, member.get_set]
        rfl
  · simp [memberships, removeFrom, get?_manipulateVectorMember, same]

theorem memberships_addMembership (parentId id : String) :
    memberships (addMembership table member parentId id) member =
      addTo (memberships table member) (optionalId parentId) id := by
  unfold addMembership
  by_cases blank : parentId = ""
  · rw [if_pos blank, blank, optionalId_empty]
    rfl
  · rw [if_neg blank, optionalId_of_ne blank]
    exact memberships_add parentId id

theorem memberships_removeMembership (parentId id : String) :
    memberships (removeMembership table member parentId id) member =
      removeFrom (memberships table member) (optionalId parentId) id := by
  unfold removeMembership
  by_cases blank : parentId = ""
  · rw [if_pos blank, blank, optionalId_empty]
    rfl
  · rw [if_neg blank, optionalId_of_ne blank]
    exact memberships_remove parentId id

theorem memberships_manageMembership (fromId toId id : String) :
    memberships (manageMembership table member fromId toId id) member =
      addTo (removeFrom (memberships table member) (optionalId fromId) id) (optionalId toId) id := by
  unfold manageMembership
  rw [memberships_addMembership, memberships_removeMembership]

end Lists

/-! ## Exact lists -/

section Exactness

variable {owner owner' : Table α} {table table' : Table γ} {member : VectorMember α}
    {column : γ → String}

/-- A list holds each of its members once, and they are the records that name its owner. -/
theorem exact_list (exact : Exact (owners table column) (memberships owner member))
    {id : String} (filled : id ≠ "") {row : α} (found : owner.get? id = some row) :
    (member.get row).Nodup ∧
      ∀ c, c ∈ member.get row ↔ ∃ child, table.get? c = some child ∧ column child = id := by
  have isList : memberships owner member id = some (member.get row) :=
    memberships_eq_some_iff.mpr ⟨row, found, rfl⟩
  refine ⟨Multiset.coe_nodup.mp (exact.nodup isList), fun c => ?_⟩
  rw [← Multiset.mem_coe, exact.mem_iff isList, owners_eq_some_iff]
  constructor
  · rintro ⟨child, isChild, named, _⟩
    exact ⟨child, isChild, named⟩
  · rintro ⟨child, isChild, named⟩
    exact ⟨child, isChild, named, filled⟩

theorem isSome_memberships_of_exists {id : String} (found : id = "" ∨ idExists owner id = true) :
    ∀ p, optionalId id = some p → (memberships owner member p).isSome := by
  intro p isOwner
  obtain ⟨rfl, filled⟩ := optionalId_eq_some_iff.mp isOwner
  rw [isSome_memberships]
  exact found.resolve_left filled

/-- A new record is listed at the owner that it names. -/
theorem exact_create (exact : Exact (owners table column) (memberships owner member))
    {row : γ} (inserted : table.insert? row = some table')
    (ownerFound : column row = "" ∨ idExists owner (column row) = true) :
    Exact (owners table' column)
      (memberships (manageMembership owner member "" (column row) (key row)) member) := by
  have noOwner : owners table column (key row) = none := by
    rw [owners, Table.get?_key_of_insert? inserted, Option.bind_none]
  have moved := exact.move (key row) (optionalId (column row))
    (isSome_memberships_of_exists ownerFound)
  rw [noOwner] at moved
  rw [owners_insert? inserted, memberships_manageMembership, optionalId_empty]
  exact moved

/-- An updated record moves from the old owner to the new one. -/
theorem exact_transfer (exact : Exact (owners table column) (memberships owner member))
    {old new : γ} (found : table.get? (key new) = some old)
    (ownerFound : column new = "" ∨ idExists owner (column new) = true) :
    Exact (owners (table.update new) column)
      (memberships (manageMembership owner member (column old) (column new) (key new))
        member) := by
  have moved := exact.move (key new) (optionalId (column new))
    (isSome_memberships_of_exists ownerFound)
  rw [owners_of_get? found] at moved
  rw [owners_update found, memberships_manageMembership]
  exact moved

/-- A record that is deleted is taken off its list. -/
theorem exact_remove (exact : Exact (owners table column) (memberships owner member))
    {row : γ} {id : String} (found : table.get? id = some row) :
    Exact (owners (table.delete id) column)
      (memberships (manageMembership owner member (column row) "" id) member) := by
  have moved := exact.move id none (by rintro p ⟨⟩)
  rw [owners_of_get? found] at moved
  rw [owners_delete, memberships_manageMembership, optionalId_empty]
  exact moved

end Exactness

end Owprov
