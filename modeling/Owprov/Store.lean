import Mathlib.Data.List.Sort
import Owprov.ProvObjects

/-!
# The provisioning database

One table for each record type, and the bookkeeping operations that the handlers share:
membership lists (`ManipulateVectorMember`), usage lists (`MoveUsage`) and optional
references (`CreateMove`).
-/

namespace Owprov

open RowTable

/-- `StorageService()`: the tables of the database. -/
structure Store where
  entityDB : Table Entity
  venueDB : Table Venue := .empty
  rolesDB : Table ManagementRole := .empty
  policyDB : Table ManagementPolicy := .empty
  inventoryDB : Table InventoryTag := .empty
  configurationDB : Table DeviceConfiguration := .empty
  contactDB : Table Contact := .empty
  locationDB : Table Location := .empty
  mapDB : Table Map := .empty
  variablesDB : Table VariableBlock := .empty
  operatorDB : Table Operator := .empty
  serviceClassDB : Table ServiceClass := .empty
  signupDB : Table SignupEntry := .empty
  subscriberDeviceDB : Table SubscriberDevice := .empty
  opContactDB : Table OperatorContact := .empty
  opLocationDB : Table OperatorLocation := .empty

/-- `EntityDB::RootUUID()`. -/
def rootUUID : String := "0000-0000-0000"

/-- The database after the root entity was created: one entity and nothing else. -/
def initialStore : Store where
  entityDB := .singleton
    { info := { id := rootUUID, name := "Top Entity" }, deviceRules := { rrm := "off" } }

section Lookup

variable {α : Type} [Keyed α String]

/-- `Exists("id", id)`. -/
def idExists (table : Table α) (id : String) : Bool :=
  (table.get? id).isSome

/-- `GetRecord(column, value)` for a column other than the id: the first matching row. -/
def getBy (table : Table α) (column : α → String) (value : String) : Option α :=
  table.rows.find? fun row => column row == value

theorem idExists_iff {table : Table α} {id : String} :
    idExists table id = true ↔ ∃ row, table.get? id = some row := by
  rw [idExists, Option.isSome_iff_exists]

theorem getBy_mem {table : Table α} {column : α → String} {value : String} {row : α}
    (found : getBy table column value = some row) : row ∈ table.rows :=
  List.mem_of_find?_eq_some found

theorem getBy_column {table : Table α} {column : α → String} {value : String} {row : α}
    (found : getBy table column value = some row) : column row = value := by
  simpa using List.find?_some found

theorem getBy_eq_none {table : Table α} {column : α → String} {value : String}
    (missing : getBy table column value = none) {row : α} (member : row ∈ table.rows) :
    column row ≠ value := by
  simpa using List.find?_eq_none.mp missing row member

end Lookup

/-! ## Vector members of a record -/

/-- A pointer to a member of type vector of ids, such as `&ProvObjects::Venue::children`. -/
structure VectorMember (α : Type) [Keyed α String] where
  get : α → List String
  set : List String → α → α
  get_set : ∀ ids row, get (set ids row) = ids
  key_set : ∀ ids row, key (set ids row) = key row

namespace Entity

def childrenMember : VectorMember Entity where
  get entity := entity.children
  set ids entity := { entity with children := ids }
  get_set _ _ := rfl
  key_set _ _ := rfl

def venuesMember : VectorMember Entity where
  get entity := entity.venues
  set ids entity := { entity with venues := ids }
  get_set _ _ := rfl
  key_set _ _ := rfl

def contactsMember : VectorMember Entity where
  get entity := entity.contacts
  set ids entity := { entity with contacts := ids }
  get_set _ _ := rfl
  key_set _ _ := rfl

def locationsMember : VectorMember Entity where
  get entity := entity.locations
  set ids entity := { entity with locations := ids }
  get_set _ _ := rfl
  key_set _ _ := rfl

def devicesMember : VectorMember Entity where
  get entity := entity.devices
  set ids entity := { entity with devices := ids }
  get_set _ _ := rfl
  key_set _ _ := rfl

def configurationsMember : VectorMember Entity where
  get entity := entity.configurations
  set ids entity := { entity with configurations := ids }
  get_set _ _ := rfl
  key_set _ _ := rfl

def managementRolesMember : VectorMember Entity where
  get entity := entity.managementRoles
  set ids entity := { entity with managementRoles := ids }
  get_set _ _ := rfl
  key_set _ _ := rfl

end Entity

namespace Venue

def childrenMember : VectorMember Venue where
  get venue := venue.children
  set ids venue := { venue with children := ids }
  get_set _ _ := rfl
  key_set _ _ := rfl

def devicesMember : VectorMember Venue where
  get venue := venue.devices
  set ids venue := { venue with devices := ids }
  get_set _ _ := rfl
  key_set _ _ := rfl

def configurationsMember : VectorMember Venue where
  get venue := venue.configurations
  set ids venue := { venue with configurations := ids }
  get_set _ _ := rfl
  key_set _ _ := rfl

def managementRolesMember : VectorMember Venue where
  get venue := venue.managementRoles
  set ids venue := { venue with managementRoles := ids }
  get_set _ _ := rfl
  key_set _ _ := rfl

end Venue

def ManagementPolicy.inUseMember : VectorMember ManagementPolicy where
  get policy := policy.inUse
  set ids policy := { policy with inUse := ids }
  get_set _ _ := rfl
  key_set _ _ := rfl

def VariableBlock.configurationsMember : VectorMember VariableBlock where
  get block := block.configurations
  set ids block := { block with configurations := ids }
  get_set _ _ := rfl
  key_set _ _ := rfl

def Contact.inUseMember : VectorMember Contact where
  get contact := contact.inUse
  set ids contact := { contact with inUse := ids }
  get_set _ _ := rfl
  key_set _ _ := rfl

def Location.inUseMember : VectorMember Location where
  get location := location.inUse
  set ids location := { location with inUse := ids }
  get_set _ _ := rfl
  key_set _ _ := rfl

def DeviceConfiguration.inUseMember : VectorMember DeviceConfiguration where
  get config := config.inUse
  set ids config := { config with inUse := ids }
  get_set _ _ := rfl
  key_set _ _ := rfl

section Membership

variable {α : Type} [Keyed α String]

/-- The list after `ManipulateVectorMember`: an id is added once and the list sorted, or
its first occurrence is removed. -/
def manipulateVector (ids : List String) (childUUID : String) (add : Bool) : List String :=
  if add then
    if childUUID ∈ ids then ids else (ids ++ [childUUID]).insertionSort (· ≤ ·)
  else
    ids.erase childUUID

/-- `ManipulateVectorMember`. -/
def manipulateVectorMember (table : Table α) (member : VectorMember α)
    (parentUUID childUUID : String) (add : Bool) : Table α :=
  table.modify parentUUID fun row =>
    member.set (manipulateVector (member.get row) childUUID add) row

/-- `RemoveMembership`. -/
def removeMembership (table : Table α) (member : VectorMember α) (obj id : String) : Table α :=
  if obj = "" then table else manipulateVectorMember table member obj id false

/-- `AddMembership`. -/
def addMembership (table : Table α) (member : VectorMember α) (obj id : String) : Table α :=
  if obj = "" then table else manipulateVectorMember table member obj id true

/-- `ManageMembership` for single ids. -/
def manageMembership (table : Table α) (member : VectorMember α) (fromId toId id : String) :
    Table α :=
  addMembership (removeMembership table member fromId id) member toId id

/-- `MoveUsage` for single ids; `dbPrefix` is the prefix of the table of the user. -/
def moveUsage (table : Table α) (inUse : VectorMember α) (dbPrefix fromId toId id : String) :
    Table α :=
  if fromId = toId then
    table
  else
    addMembership (removeMembership table inUse fromId (dbPrefix ++ ":" ++ id)) inUse toId
      (dbPrefix ++ ":" ++ id)

/-- `MoveUsage` for lists of ids. -/
def moveUsages (table : Table α) (inUse : VectorMember α) (dbPrefix : String)
    (fromIds toIds : List String) (id : String) : Table α :=
  if fromIds = toIds then
    table
  else
    let removed := fromIds.foldl
      (fun table obj => manipulateVectorMember table inUse obj (dbPrefix ++ ":" ++ id) false)
      table
    toIds.foldl
      (fun table obj => manipulateVectorMember table inUse obj (dbPrefix ++ ":" ++ id) true)
      removed

/-- `CreateMove`: the old and the new value of an optional reference, when the body names
the field; a new value has to exist. -/
def createMove {β : Type} [Keyed β String] (body : JsonObject) (field : String)
    (existing : String) (table : Table β) (missing : Failure) :
    Except Failure (String × String × String) := do
  if body.has field then
    let moveTo ← body.getString field
    if moveTo ≠ "" ∧ idExists table moveTo = false then
      throw missing
    return (existing, moveTo, moveTo)
  else
    return ("", "", existing)

end Membership

section MembershipLemmas

variable {α : Type} [Keyed α String]

theorem mem_manipulateVector_add (ids : List String) (childUUID id : String) :
    id ∈ manipulateVector ids childUUID true ↔ id ∈ ids ∨ id = childUUID := by
  unfold manipulateVector
  by_cases present : childUUID ∈ ids
  · simp only [if_true, if_pos present]
    constructor
    · exact Or.inl
    · rintro (member | rfl)
      · exact member
      · exact present
  · simp [present, List.mem_insertionSort]

theorem nodup_manipulateVector {ids : List String} (nodup : ids.Nodup) (childUUID : String)
    (add : Bool) : (manipulateVector ids childUUID add).Nodup := by
  unfold manipulateVector
  cases add with
  | false => exact nodup.erase _
  | true =>
      by_cases present : childUUID ∈ ids
      · simpa [present] using nodup
      · rw [if_pos rfl, if_neg present]
        rw [(List.perm_insertionSort (· ≤ ·) (ids ++ [childUUID])).nodup_iff, List.nodup_append]
        refine ⟨nodup, List.nodup_singleton _, ?_⟩
        intro left leftMem right rightMem equal
        rw [List.mem_singleton] at rightMem
        exact present (rightMem ▸ equal ▸ leftMem)

theorem mem_manipulateVector_remove {ids : List String} (nodup : ids.Nodup)
    (childUUID id : String) :
    id ∈ manipulateVector ids childUUID false ↔ id ∈ ids ∧ id ≠ childUUID := by
  simp [manipulateVector, nodup.mem_erase_iff, and_comm]

theorem get?_manipulateVectorMember (table : Table α) (member : VectorMember α)
    (parentUUID childUUID : String) (add : Bool) (k : String) :
    (manipulateVectorMember table member parentUUID childUUID add).get? k =
      if k = parentUUID then
        (table.get? parentUUID).map fun row =>
          member.set (manipulateVector (member.get row) childUUID add) row
      else
        table.get? k := by
  unfold manipulateVectorMember
  exact Table.get?_modify table (fun row => member.key_set _ row) parentUUID k

end MembershipLemmas

end Owprov
