import Owprov.EntityHandlers
import Owprov.InUseRuns
import Owprov.Lib.Backlinks
import Owprov.ReferenceHandlers

/-!
# What a deletion leaves behind

A record is named in fields and lists of other tables.  Before it deletes a record a handler
refuses some of the references to it and takes some back; the rest names a record that is gone.
-/

namespace Owprov

open RowTable Runs

/-! ## The remaining deletions -/

def Venue.variablesMember : VectorMember Venue where
  get venue := venue.variables
  set ids venue := { venue with «variables» := ids }
  get_set _ _ := rfl
  key_set _ _ := rfl

def Entity.variablesMember : VectorMember Entity where
  get entity := entity.variables
  set ids entity := { entity with «variables» := ids }
  get_set _ _ := rfl
  key_set _ _ := rfl

/-- The checks of `RESTAPI_variables_handler::DoDelete`. -/
def variablesDoDeletePlan (db : Store) (request : Request) : Except Failure VariableBlock := do
  let uuid := request.getBinding "uuid"
  require (uuid != "") (.badRequest .missingUUID)
  match db.variablesDB.get? uuid with
  | none => throw .notFound
  | some existing =>
      require existing.configurations.isEmpty (.badRequest .stillInUse)
      return existing

def variablesDoDelete (db : Store) (request : Request) : Outcome :=
  match variablesDoDeletePlan db request with
  | .error failure => .fail db failure
  | .ok existing =>
      let id := existing.info.id
      let released := movePolicyUsage db "var" existing.managementPolicy "" id
      .done { released with
        venueDB := removeMembership released.venueDB Venue.variablesMember existing.venue id
        entityDB := removeMembership released.entityDB Entity.variablesMember existing.entity id
        variablesDB := released.variablesDB.delete id }

/-- The checks of `RESTAPI_service_class_handler::DoDelete`. -/
def serviceClassDoDeletePlan (db : Store) (request : Request) : Except Failure ServiceClass := do
  let uuid := request.getBinding "uuid"
  require (uuid != "") (.badRequest .missingUUID)
  match db.serviceClassDB.get? uuid with
  | none => throw .notFound
  | some existing =>
      require (!db.subscriberDeviceDB.rows.any fun device => device.serviceClass == uuid)
        (.badRequest .stillInUse)
      return existing

def serviceClassDoDelete (db : Store) (request : Request) : Outcome :=
  match serviceClassDoDeletePlan db request with
  | .error failure => .fail db failure
  | .ok existing => .done { db with serviceClassDB := db.serviceClassDB.delete existing.info.id }

/-! ## References -/

/-- The overrides of a device, which may name a policy as well. -/
structure ConfigurationOverrideList where
  serialNumber : String
  managementPolicy : String := ""
  deriving DecidableEq, Repr

instance : Keyed ConfigurationOverrideList String where
  key overrides := overrides.serialNumber

/-- The database with the overrides. -/
structure OverriddenStore extends Store where
  overridesDB : Table ConfigurationOverrideList := .empty

/-- The kinds of records whose deletion is to leave nothing behind. -/
inductive DeletedKind where
  | policy
  | operator
  | serviceClass
  | configuration
  | variableBlock
  | entity
  | location
  | contact
  deriving DecidableEq, Repr

/-- What the handler of a DELETE does to the database. -/
def DeletedKind.handle (ctx : Context) (db : Store) (request : Request) : DeletedKind → Outcome
  | .policy => policyDoDelete ctx db request
  | .operator => operatorDoDelete db request
  | .serviceClass => serviceClassDoDelete db request
  | .configuration => configurationDoDelete db request
  | .variableBlock => variablesDoDelete db request
  | .entity => entityDoDelete db request
  | .location => locationDoDelete db request
  | .contact => contactDoDelete db request

def DeletedKind.delete (kind : DeletedKind) (ctx : Context) (before : OverriddenStore)
    (request : Request) : OverriddenStore :=
  { before with toStore := (kind.handle ctx before.toStore request).store }

/-- A column of a table that names records of some kind. -/
structure ReferenceColumn where
  {α : Type}
  [keyed : Keyed α String]
  table : OverriddenStore → Table α
  entries : α → List String
  /-- The text that stands for an id. -/
  entry : String → String
  /-- How many references to an id its deletion takes back from the row under a key, or has
  refused before. -/
  takenBack : Store → String → String → ℕ

attribute [instance] ReferenceColumn.keyed

namespace ReferenceColumn

variable {α : Type} [Keyed α String]

/-- A field for one id. -/
def scalar (table : OverriddenStore → Table α) (field : α → String)
    (takenBack : Store → String → String → ℕ) : ReferenceColumn where
  table := table
  entries row := [field row]
  entry id := id
  takenBack := takenBack

/-- A list of ids. -/
def ids (table : OverriddenStore → Table α) (field : α → List String)
    (takenBack : Store → String → String → ℕ) : ReferenceColumn where
  table := table
  entries := field
  entry id := id
  takenBack := takenBack

/-- A list of the prefixes and ids of users. -/
def users (table : OverriddenStore → Table α) (inUse : α → List String) (dbPrefix : String)
    (takenBack : Store → String → String → ℕ) : ReferenceColumn where
  table := table
  entries := inUse
  entry id := dbPrefix ++ ":" ++ id
  takenBack := takenBack

/-- No row names an id. -/
def Silent (column : ReferenceColumn) (db : OverriddenStore) (id : String) : Prop :=
  ∀ row ∈ (column.table db).rows, column.entry id ∉ column.entries row

/-- No row names an id more often than its deletion takes it back. -/
def TakenBack (column : ReferenceColumn) (db : OverriddenStore) (id : String) : Prop :=
  Table.ListsAtMost (column.takenBack db.toStore id) (column.table db) column.entries
    (column.entry id)

instance (column : ReferenceColumn) (db : OverriddenStore) (id : String) :
    Decidable (column.TakenBack db id) :=
  inferInstanceAs (Decidable (∀ row ∈ (column.table db).rows,
    (column.entries row).count (column.entry id) ≤ column.takenBack db.toStore id (key row)))

end ReferenceColumn

/-- Nothing is taken back. -/
def untouched : Store → String → String → ℕ :=
  fun _ _ _ => 0

/-- Each reference in the column is refused or goes with its row. -/
def guarded : Store → String → String → ℕ :=
  fun _ _ _ => 1

/-- One reference is taken back from the row that the deleted record names. -/
def takenFrom {α : Type} [Keyed α String] (table : Store → Table α) (owner : α → String) :
    Store → String → String → ℕ :=
  fun db id k =>
    if ((table db).get? id).any fun row => owner row != "" && owner row == k then 1 else 0

/-- As many references as the deleted configuration names the block. -/
def takenFromVariables : Store → String → String → ℕ :=
  fun db id k =>
    if k = "" then 0
    else ((db.configurationDB.get? id).map fun config => config.variables.count k).getD 0

/-- The linked entity of a deleted operator goes with it. -/
def linkedTo : Store → String → String → ℕ :=
  fun db id k =>
    if ((db.operatorDB.get? id).bind (linkedEntity db)).any fun entity => entity.info.id == k
    then 1 else 0

/-- The deleted record goes with its own references. -/
def itself : Store → String → String → ℕ :=
  fun _ id k => if k = id then 1 else 0

/-- The parent of a deleted entity takes it off its list, and the entity goes with its own. -/
def parentAndItself : Store → String → String → ℕ :=
  fun db id k =>
    (if (db.entityDB.get? id).any fun entity => entity.parent == k then 1 else 0) + itself db id k

/-- The roles that are deleted along with an entity. -/
def rolesOn : Store → String → String → ℕ :=
  fun db id k =>
    if k ∈ ((db.rolesDB.rows.filter fun role => role.entity == id).take 10000).map key then 1 else 0

open ReferenceColumn in
/-- The columns that name a record of some kind. -/
def DeletedKind.columns : DeletedKind → List ReferenceColumn
  | .policy =>
      [scalar (fun db => db.rolesDB) ManagementRole.managementPolicy untouched,
        scalar (fun db => db.entityDB) Entity.managementPolicy untouched,
        ids (fun db => db.entityDB) Entity.managementPolicies untouched,
        scalar (fun db => db.venueDB) Venue.managementPolicy untouched,
        ids (fun db => db.venueDB) Venue.managementPolicies untouched,
        scalar (fun db => db.inventoryDB) InventoryTag.managementPolicy untouched,
        scalar (fun db => db.configurationDB) DeviceConfiguration.managementPolicy untouched,
        scalar (fun db => db.contactDB) Contact.managementPolicy untouched,
        scalar (fun db => db.locationDB) Location.managementPolicy untouched,
        scalar (fun db => db.mapDB) Map.managementPolicy untouched,
        scalar (fun db => db.variablesDB) VariableBlock.managementPolicy untouched,
        scalar (fun db => db.operatorDB) Operator.managementPolicy untouched,
        scalar (fun db => db.serviceClassDB) ServiceClass.managementPolicy untouched,
        scalar (fun db => db.subscriberDeviceDB) SubscriberDevice.managementPolicy untouched,
        scalar (fun db => db.opContactDB) OperatorContact.managementPolicy untouched,
        scalar (fun db => db.opLocationDB) OperatorLocation.managementPolicy untouched,
        scalar (fun db => db.overridesDB) ConfigurationOverrideList.managementPolicy untouched]
  | .operator =>
      [scalar (fun db => db.entityDB) Entity.operatorId linkedTo,
        scalar (fun db => db.serviceClassDB) ServiceClass.operatorId guarded,
        scalar (fun db => db.signupDB) SignupEntry.operatorId guarded,
        scalar (fun db => db.subscriberDeviceDB) SubscriberDevice.operatorId untouched,
        scalar (fun db => db.opContactDB) OperatorContact.operatorId untouched,
        scalar (fun db => db.opLocationDB) OperatorLocation.operatorId untouched]
  | .serviceClass =>
      [scalar (fun db => db.subscriberDeviceDB) SubscriberDevice.serviceClass guarded]
  | .configuration =>
      [ids (fun db => db.entityDB) Entity.deviceConfiguration untouched,
        ids (fun db => db.entityDB) Entity.configurations
          (takenFrom (fun db => db.configurationDB) DeviceConfiguration.entity),
        ids (fun db => db.venueDB) Venue.deviceConfiguration untouched,
        ids (fun db => db.venueDB) Venue.configurations
          (takenFrom (fun db => db.configurationDB) DeviceConfiguration.venue),
        scalar (fun db => db.inventoryDB) InventoryTag.deviceConfiguration untouched,
        scalar (fun db => db.subscriberDeviceDB) SubscriberDevice.deviceConfiguration untouched,
        ids (fun db => db.variablesDB) VariableBlock.configurations takenFromVariables,
        users (fun db => db.policyDB) ManagementPolicy.inUse "cfg"
          (takenFrom (fun db => db.configurationDB) DeviceConfiguration.managementPolicy)]
  | .variableBlock =>
      [ids (fun db => db.entityDB) Entity.variables
          (takenFrom (fun db => db.variablesDB) VariableBlock.entity),
        ids (fun db => db.venueDB) Venue.variables
          (takenFrom (fun db => db.variablesDB) VariableBlock.venue),
        ids (fun db => db.configurationDB) DeviceConfiguration.variables untouched,
        users (fun db => db.policyDB) ManagementPolicy.inUse "var"
          (takenFrom (fun db => db.variablesDB) VariableBlock.managementPolicy)]
  | .entity =>
      [scalar (fun db => db.entityDB) Entity.parent itself,
        ids (fun db => db.entityDB) Entity.children parentAndItself,
        scalar (fun db => db.venueDB) Venue.entity untouched,
        scalar (fun db => db.rolesDB) ManagementRole.entity rolesOn,
        scalar (fun db => db.policyDB) ManagementPolicy.entity untouched,
        scalar (fun db => db.inventoryDB) InventoryTag.entity untouched,
        scalar (fun db => db.configurationDB) DeviceConfiguration.entity untouched,
        scalar (fun db => db.contactDB) Contact.entity untouched,
        scalar (fun db => db.locationDB) Location.entity untouched,
        scalar (fun db => db.mapDB) Map.entity untouched,
        scalar (fun db => db.variablesDB) VariableBlock.entity untouched,
        scalar (fun db => db.operatorDB) Operator.entityId untouched,
        users (fun db => db.policyDB) ManagementPolicy.inUse "ent"
          (takenFrom (fun db => db.entityDB) Entity.managementPolicy),
        users (fun db => db.configurationDB) DeviceConfiguration.inUse "ent" untouched]
  | .location =>
      [ids (fun db => db.entityDB) Entity.locations
          (takenFrom (fun db => db.locationDB) Location.entity),
        scalar (fun db => db.venueDB) Venue.location untouched,
        scalar (fun db => db.inventoryDB) InventoryTag.location untouched,
        -- the usage is moved from the policy that has the id of the location
        users (fun db => db.policyDB) ManagementPolicy.inUse "loc" itself]
  | .contact =>
      [ids (fun db => db.entityDB) Entity.contacts
          (takenFrom (fun db => db.contactDB) Contact.entity),
        ids (fun db => db.venueDB) Venue.contacts untouched,
        scalar (fun db => db.inventoryDB) InventoryTag.contact untouched,
        users (fun db => db.policyDB) ManagementPolicy.inUse "con" itself]

/-! ## What the writes take back -/

section Membership

variable {α : Type} [Keyed α String] {table : Table α} {member : VectorMember α}
  {entries : α → List String} {bound : String → ℕ} {obj e : String}

end Membership

namespace ReferenceColumn

variable {column : ReferenceColumn} {before after : OverriddenStore} {id : String}

end ReferenceColumn

/-- In each column that names a record, nothing is left after a deletion just when all of it is
taken back. -/
def DeletedKind.Exact (kind : DeletedKind) (ctx : Context) (before : OverriddenStore)
    (request : Request) : Prop :=
  ∀ column ∈ kind.columns,
    (column.Silent (kind.delete ctx before request) (request.getBinding "uuid") ↔
      column.TakenBack before (request.getBinding "uuid"))

/-- The roles that go with an entity, and the lists of their policies, are all that is written. -/
theorem deleteScopeRoles_eq (db : Store) (onScope : ManagementRole → Bool) :
    deleteScopeRoles db onScope =
      { db with
        rolesDB := (deleteScopeRoles db onScope).rolesDB
        policyDB := (deleteScopeRoles db onScope).policyDB } := by
  unfold deleteScopeRoles
  generalize (db.rolesDB.rows.filter onScope).take 10000 = roles
  induction roles generalizing db with
  | nil => rfl
  | cons role roles ih =>
      rw [List.foldl_cons, ih]
      rfl

/-- The entities after the deletion of an operator. -/
def entitiesWithout (db : Store) : Option Entity → Table Entity
  | none => db.entityDB
  | some entity =>
      manipulateVectorMember (db.entityDB.delete entity.info.id) Entity.childrenMember
        entity.parent entity.info.id false

/-- What the deletion of an operator writes, and what it has checked. -/
theorem operatorDoDelete_succeeds {db : Store} {request : Request}
    (accepted : (operatorDoDelete db request).Succeeds) :
    ∃ existing policyDB, db.operatorDB.get? (request.getBinding "uuid") = some existing ∧
      (∀ entry ∈ db.signupDB.rows, entry.operatorId ≠ request.getBinding "uuid") ∧
      (operatorDoDelete db request).store =
        { db with
          policyDB := policyDB
          entityDB := entitiesWithout db (linkedEntity db existing)
          operatorDB := db.operatorDB.delete (request.getBinding "uuid")
          serviceClassDB := db.serviceClassDB.deleteWhere fun service =>
            service.operatorId == request.getBinding "uuid" } := by
  unfold operatorDoDelete at accepted ⊢
  cases planned : operatorDoDeletePlan db request with
  | error failure =>
      rw [planned] at accepted
      cases accepted
  | ok result =>
      obtain ⟨existing, entity⟩ := result
      simp only [operatorDoDeletePlan, bind_eq_ok_iff, require_eq_ok_iff] at planned
      obtain ⟨_, _, planned⟩ := planned
      split at planned
      · cases planned
      · rename_i operator found
        have sameId : operator.info.id = request.getBinding "uuid" := Table.key_of_get? found
        simp only [bind_eq_ok_iff, require_eq_ok_iff] at planned
        obtain ⟨_, _, _, unused, planned⟩ := planned
        have signups : ∀ entry ∈ db.signupDB.rows,
            entry.operatorId ≠ request.getBinding "uuid" := by
          simpa using unused
        split at planned
        · rename_i unlinked
          obtain ⟨rfl, rfl⟩ := Prod.mk.inj (Except.ok.inj planned)
          refine ⟨operator, db.policyDB, found, signups, ?_⟩
          rw [unlinked, ← sameId]
          rfl
        · rename_i linked isLinked
          simp only [bind_eq_ok_iff, require_eq_ok_iff] at planned
          obtain ⟨_, _, _, _, _, _, planned⟩ := planned
          obtain ⟨rfl, rfl⟩ := Prod.mk.inj (Except.ok.inj planned)
          refine ⟨operator, (movePolicyUsage db "ent" linked.managementPolicy ""
            linked.info.id).policyDB, found, signups, ?_⟩
          rw [isLinked, ← sameId]
          rfl

/-- A request that deletes a record. -/
def deleteRequest (id : String) : Request where
  method := .delete
  uri := "/api/v1/" ++ id
  bindings := [("uuid", id)]
  body := none

end Owprov
