import Owprov.InlineLedger

/-!
# Runs keep the `inUse` lists exact

The requests on roles, policies, entities, venues, devices, locations, contacts and
configurations keep the ledgers exact from the first start of the service on, apart from those
that forget a move: a role that takes or leaves a policy by request, a location or a contact that
is deleted while it has a policy, and records that come or go along with a venue or a device.
-/

namespace Owprov

open RowTable ForeignKeys UsageLedger Runs

/-- The resources whose requests write the `inUse` lists or the references. -/
inductive LedgerResource where
  | managementRole
  | managementPolicy
  | entity
  | venue
  | inventory
  | location
  | contact
  | configuration

/-- The methods that write. -/
inductive WriteMethod where
  | post
  | put
  | delete

/-- What the handler of a request does to the database. -/
def LedgerResource.handle (ctx : Context) (db : Store) (request : Request) :
    LedgerResource → WriteMethod → Outcome
  | .managementRole, .post => roleDoPost ctx db request
  | .managementRole, .put => roleDoPut ctx db request
  | .managementRole, .delete => roleDoDelete ctx db request
  | .managementPolicy, .post => policyDoPost ctx db request
  | .managementPolicy, .put => policyDoPut ctx db request
  | .managementPolicy, .delete => policyDoDelete ctx db request
  | .entity, .post => entityDoPost ctx db request
  | .entity, .put => entityDoPut ctx db request
  | .entity, .delete => entityDoDelete db request
  | .venue, .post => venueDoPost ctx db request
  | .venue, .put => venueDoPut ctx db request
  | .venue, .delete => venueDoDelete db request
  | .inventory, .post => inventoryDoPost ctx db request
  | .inventory, .put => inventoryDoPut ctx db request
  | .inventory, .delete => inventoryDoDelete db request
  | .location, .post => locationDoPost ctx db request
  | .location, .put => locationDoPut ctx db request
  | .location, .delete => locationDoDelete db request
  | .contact, .post => contactDoPost ctx db request
  | .contact, .put => contactDoPut db request
  | .contact, .delete => contactDoDelete db request
  | .configuration, .post => configurationDoPost ctx db request
  | .configuration, .put => configurationDoPut ctx db request
  | .configuration, .delete => configurationDoDelete db request

/-- The record that a request deletes has no policy. -/
def DeletesWithoutPolicy {α : Type} [Keyed α String] (db : Store) (table : Table α)
    (managementPolicy : α → String) (id : String) : Prop :=
  ∀ existing, table.get? id = some existing →
    idExists db.policyDB (managementPolicy existing) = false

/-- The requests that no handler forgets a move of. -/
def KeepsLedgers (ctx : Context) (db : Store) (request : Request) :
    LedgerResource → WriteMethod → Prop
  | .managementRole, .post => RolesKeepPolicies ctx db request
  | .managementRole, .put => RoleUpdateKeepsPolicy db request
  | .managementRole, .delete =>
      DeletesWithoutPolicy db db.rolesDB ManagementRole.managementPolicy (request.getBinding "id")
  | .location, .delete =>
      DeletesWithoutPolicy db db.locationDB Location.managementPolicy (request.getBinding "uuid")
  | .contact, .delete =>
      DeletesWithoutPolicy db db.contactDB Contact.managementPolicy (request.getBinding "uuid")
  | .venue, .post => InlineComesUnused db request "location"
  | .venue, .put => venueCommand request = none → InlineComesUnused db request "location"
  | .inventory, .post => InlineComesUnused db request "configuration"
  | .inventory, .put =>
      if request.getParameter "removeSubscriber" = "" then
        InlineComesUnused db request "configuration"
      else ReturnsConfiguration db request
  | .inventory, .delete => DeletesConfiguration db request
  | _, _ => True

/-- One request, whoever sends it, which meets a condition if it is accepted. -/
def LedgerStep
    (condition : Context → Store → Request → LedgerResource → WriteMethod → Prop)
    (db db' : Store) : Prop :=
  ∃ (resource : LedgerResource) (method : WriteMethod) (ctx : Context) (request : Request),
    ctx.Unseen db ∧
      ((resource.handle ctx db request method).Succeeds →
        condition ctx db request resource method) ∧
      db' = (resource.handle ctx db request method).store

theorem exactLedgers_start {db : Store} (start : ServiceStart db) : ExactLedgers db := by
  have unlisted : ∀ kind id, ledgers initialStore kind id = none := by
    intro kind id
    cases kind <;> rfl
  have unused : ∀ user kind, uses initialStore user kind = [] := by
    rintro ⟨table, id⟩ kind
    cases table
    case entity =>
      by_cases isRoot : rootUUID = id
      · rw [show uses initialStore ⟨.entity, id⟩ = _ from
          usesOf_of_get? ((Table.get?_singleton _ id).trans (if_pos isRoot))]
        cases kind <;> rfl
      · rw [show uses initialStore ⟨.entity, id⟩ = _ from
          usesOf_of_missing ((Table.get?_singleton _ id).trans (if_neg isRoot))]
    all_goals rfl
  have bare : ExactLedgers initialStore := by
    constructor
    case exact =>
      intro kind id ledger isLedger
      rw [unlisted] at isLedger
      cases isLedger
    case bare => exact fun id => unused ⟨.entity, id⟩ .configuration
  cases start with
  | bare => exact bare
  | served operatorId serviceId _ => exact bare.congr rfl rfl

theorem ExactLedgers.step {db db' : Store} (exact : ExactLedgers db)
    (isStep : LedgerStep KeepsLedgers db db') : ExactLedgers db' := by
  obtain ⟨resource, method, ctx, request, unseen, condition, rfl⟩ := isStep
  cases resource with
  | managementRole =>
      cases method with
      | post => exact exact.roleDoPost unseen condition
      | put => exact exact.roleDoPut condition
      | delete => exact exact.roleDoDelete condition
  | managementPolicy =>
      cases method with
      | post => exact exact.policyDoPost unseen request
      | put => exact exact.policyDoPut request
      | delete => exact exact.policyDoDelete request
  | entity =>
      cases method with
      | post => exact exact.entityDoPost unseen.toFresh request
      | put => exact exact.entityDoPut request
      | delete => exact exact.entityDoDelete request
  | venue =>
      cases method with
      | post => exact exact.venueDoPost unseen condition
      | put => exact exact.venueDoPut unseen condition
      | delete => exact exact.venueDoDelete request
  | inventory =>
      cases method with
      | post => exact exact.inventoryDoPost unseen condition
      | put => exact exact.inventoryDoPut unseen condition
      | delete => exact exact.inventoryDoDelete condition
  | location =>
      cases method with
      | post => exact exact.locationDoPost unseen request
      | put => exact exact.locationDoPut request
      | delete => exact exact.locationDoDelete condition
  | contact =>
      cases method with
      | post => exact exact.contactDoPost unseen request
      | put => exact exact.contactDoPut request
      | delete => exact exact.contactDoDelete condition
  | configuration =>
      cases method with
      | post => exact exact.configurationDoPost unseen request
      | put => exact exact.configurationDoPut request
      | delete => exact exact.configurationDoDelete request

/-- As long as the requests that are accepted meet the condition, every `inUse` list names
exactly the records that refer to its record. -/
theorem in_use_exact_of_run {db : Store}
    (reached : Reachable ServiceStart (LedgerStep KeepsLedgers) db) : InUseExact db :=
  (reached.invariant (fun _ => exactLedgers_start) fun _ _ => ExactLedgers.step).inUseExact

/-! ### A role with a policy -/

section Unseen

variable {α : Type} [Keyed α String] {length longer : ℕ} {table : Table α}
  {references : α → Referable → List String}

/-- The references of the rows of a table are at most of a given length. -/
def referencesBounded (length : ℕ) (table : Table α) (references : α → Referable → List String) :
    Bool :=
  table.rows.all fun row =>
    [Referable.policy, .location, .contact, .configuration].all fun kind =>
      (references row kind).all fun id => decide (id.length ≤ length)

theorem unaryId_notMem_usesOf (bounded : referencesBounded length table references = true)
    (long : length < longer) (id : String) (kind : Referable) :
    unaryId longer ∉ usesOf table references id kind := by
  intro member
  cases found : table.get? id with
  | none =>
      rw [usesOf_of_missing found] at member
      cases member
  | some row =>
      rw [usesOf_of_get? found] at member
      have kinds := List.all_eq_true.mp bounded row (Table.mem_of_get? found)
      have listed : kind ∈ [Referable.policy, .location, .contact, .configuration] := by
        cases kind <;> decide
      have short := List.all_eq_true.mp (List.all_eq_true.mp kinds kind listed) _ member
      rw [length_unaryId, decide_eq_true_iff] at short
      omega

end Unseen

/-- The new ids are not seen where all ids and all references are short. -/
theorem rootContext_unseen {length : ℕ} {db : Store} (fresh : (rootContext length).Fresh db)
    (bounded : (idsBounded length db.policyDB && idsBounded length db.contactDB &&
      idsBounded length db.configurationDB && idsBounded length db.inventoryDB) = true)
    (referred : (referencesBounded length db.rolesDB ManagementRole.references &&
      referencesBounded length db.entityDB Entity.references &&
      referencesBounded length db.venueDB Venue.references &&
      referencesBounded length db.inventoryDB InventoryTag.references &&
      referencesBounded length db.locationDB Location.references &&
      referencesBounded length db.contactDB Contact.references &&
      referencesBounded length db.configurationDB DeviceConfiguration.references) = true) :
    (rootContext length).Unseen db := by
  simp only [Bool.and_eq_true] at bounded referred
  obtain ⟨⟨⟨policy, contact⟩, configuration⟩, inventory⟩ := bounded
  obtain ⟨⟨⟨⟨⟨⟨byRoles, byEntities⟩, byVenues⟩, byTags⟩, byLocations⟩, byContacts⟩,
    byConfigurations⟩ := referred
  constructor
  case toFresh => exact fresh
  case policy => exact fun i => get?_unaryId policy (by omega)
  case contact => exact fun i => get?_unaryId contact (by omega)
  case configuration => exact fun i => get?_unaryId configuration (by omega)
  case inventory => exact fun i => get?_unaryId inventory (by omega)
  case unreferenced =>
    rintro i ⟨user, id⟩ kind
    cases user with
    | role => exact unaryId_notMem_usesOf byRoles (by omega) id kind
    | entity => exact unaryId_notMem_usesOf byEntities (by omega) id kind
    | venue => exact unaryId_notMem_usesOf byVenues (by omega) id kind
    | inventory => exact unaryId_notMem_usesOf byTags (by omega) id kind
    | location => exact unaryId_notMem_usesOf byLocations (by omega) id kind
    | contact => exact unaryId_notMem_usesOf byContacts (by omega) id kind
    | configuration => exact unaryId_notMem_usesOf byConfigurations (by omega) id kind

theorem assigningContext_unseen {length : ℕ} {db : Store}
    (unseen : (rootContext length).Unseen db) : (assigningContext length).Unseen db :=
  ⟨assigningContext_fresh unseen.toFresh, unseen.policy, unseen.contact, unseen.configuration,
    unseen.inventory, unseen.unreferenced⟩

/-- A request that creates a policy. -/
def policyRequest : Request where
  method := .post
  uri := "/api/v1/managementPolicy/0"
  bindings := [("uuid", "0")]
  body := some [("name", .str "Readers")]

/-- A request that gives a user a role with a policy. -/
def empowerRequest (policyId : String) : Request :=
  { roleRequest with
    body := some [("name", .str "Keeper"), ("entity", .str rootUUID),
      ("managementPolicy", .str policyId), ("users", .arr [.str "u-1"] "[\"u-1\"]")] }

/-- A request that creates a location with a policy. -/
def guardedLocationRequest (policyId : String) : Request where
  method := .post
  uri := "/api/v1/location/0"
  bindings := [("uuid", "0")]
  body := some [("name", .str "Lab"), ("timezone", .str "UTC"), ("entity", .str rootUUID),
    ("managementPolicy", .str policyId)]

/-- The database with a policy. -/
def onePolicy : Store :=
  (policyDoPost (rootContext 14) initialStore policyRequest).store

theorem onePolicy_reached
    {condition : Context → Store → Request → LedgerResource → WriteMethod → Prop}
    (meets : condition (rootContext 14) initialStore policyRequest .managementPolicy .post) :
    Reachable ServiceStart (LedgerStep condition) onePolicy :=
  .step (.start .bare) ⟨.managementPolicy, .post, rootContext 14, policyRequest,
    rootContext_unseen (rootContext_fresh (by decide)) (by decide)
      (by decide), fun _ => meets, rfl⟩

/-- A role refers to a policy whose list does not have it. -/
theorem role_missing_in_use :
    ¬ ∀ db, Reachable ServiceStart (LedgerStep fun _ _ _ _ _ => True) db → InUseExact db := by
  intro claim
  have unseen : (assigningContext 20).Unseen onePolicy :=
    assigningContext_unseen (rootContext_unseen (rootContext_fresh (by decide))
      (by decide) (by decide))
  have exact := claim _ ((onePolicy_reached trivial).step
    ⟨.managementRole, .post, assigningContext 20, empowerRequest (unaryId 15), unseen,
      fun _ => trivial, rfl⟩)
  let empowered : Store :=
    (roleDoPost (assigningContext 20) onePolicy (empowerRequest (unaryId 15))).store
  have refers : unaryId 15 ∈ uses empowered ⟨.role, unaryId 21⟩ .policy := by decide
  have unlisted : inUseOf empowered .policy (unaryId 15) = some [] := by decide
  exact List.not_mem_nil ((exact .policy (unaryId 15) [] unlisted ⟨.role, unaryId 21⟩).mpr refers)

/-- A location is listed by its policy. -/
theorem in_use_exact_after_location :
    ∃ db, inUseOf db .policy (unaryId 15) = some ["loc:" ++ unaryId 21] ∧ InUseExact db := by
  have unseen : (rootContext 20).Unseen onePolicy :=
    rootContext_unseen (rootContext_fresh (by decide)) (by decide)
      (by decide)
  exact ⟨(locationDoPost (rootContext 20) onePolicy (guardedLocationRequest (unaryId 15))).store,
    by decide,
    in_use_exact_of_run ((onePolicy_reached trivial).step
      ⟨.location, .post, rootContext 20, guardedLocationRequest (unaryId 15), unseen,
        fun _ => trivial, rfl⟩)⟩

end Owprov
