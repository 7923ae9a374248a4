import Owprov.Handler

/-!
# The entity and operator handlers

Entities are created under the root entity or under the entity of an operator.  An
operator gets its entity when it is created and takes it along when it is deleted.
-/

namespace Owprov

open RowTable

/-- The lists that keep an entity from being deleted are empty. -/
def Entity.isVacant (entity : Entity) : Bool :=
  entity.children.isEmpty && entity.devices.isEmpty && entity.venues.isEmpty &&
    entity.locations.isEmpty && entity.contacts.isEmpty && entity.configurations.isEmpty

/-- `AddChild` and `DeleteChild` on `EntityDB`. -/
def manipulateChild (db : Store) (parentId childId : String) (add : Bool) : Store :=
  { db with
    entityDB := manipulateVectorMember db.entityDB Entity.childrenMember parentId childId add }

/-! ## Entities -/

/-- The checks of `RESTAPI_entity_handler::DoPost` and the record it creates. -/
def entityDoPostPlan (ctx : Context) (db : Store) (request : Request) :
    Except Failure Entity := do
  let uuid := request.getBinding "uuid"
  require (uuid != "") (.badRequest .missingUUID)
  require (uuid != rootUUID) (.badRequest .missingOrInvalidParameters)
  let body ← request.jsonBody
  let newEntity ← Entity.fromJson body
  checkDeviceRules ctx.env body newEntity.deviceRules
  let info ← createObjectInfo body newEntity.info (ctx.newId 0)
  require (newEntity.parent != "" && idExists db.entityDB newEntity.parent)
    (.badRequest .parentUUIDMustExist)
  let parentIsOperator :=
    (db.entityDB.get? newEntity.parent).any fun parent => parent.operatorId != ""
  require (newEntity.parent == rootUUID || parentIsOperator) (.badRequest .invalidEntityType)
  require (emptyOrExists db.policyDB newEntity.managementPolicy)
    (.badRequest .unknownManagementPolicyUUID)
  require (newEntity.sourceIP.isEmpty || ctx.env.validateIpRanges newEntity.sourceIP)
    (.badRequest .invalidIPRanges)
  return { newEntity with
    info := { info with id := ctx.newId 1 }
    venues := []
    children := []
    contacts := []
    locations := []
    deviceConfiguration := []
    managementRoles := []
    operatorId := "" }

/-- The policy usage and the parent's children after a new entity was stored. -/
def linkNewEntity (db : Store) (entityDB : Table Entity) (newEntity : Entity) : Store :=
  manipulateChild
    (movePolicyUsage { db with entityDB := entityDB } "ent" "" newEntity.managementPolicy
      newEntity.info.id)
    newEntity.parent newEntity.info.id true

def entityDoPost (ctx : Context) (db : Store) (request : Request) : Outcome :=
  match entityDoPostPlan ctx db request with
  | .error failure => .fail db failure
  | .ok newEntity =>
      match db.entityDB.insert? newEntity with
      | none => .fail db (.internalError .recordNotCreated)
      | some entityDB =>
          let (stored, roleStored) :=
            autoCreateCreatorRole ctx (linkNewEntity db entityDB newEntity) newEntity.info.id ""
              newEntity.parent "" (ctx.newId 2)
          if roleStored then
            .done stored
          else
            .fail { stored with entityDB := stored.entityDB.delete newEntity.info.id }
              (.internalError .recordNotCreated)

/-- The checks of `RESTAPI_entity_handler::DoPut`: the updated record and the policy it
leaves and takes. -/
def entityDoPutPlan (ctx : Context) (db : Store) (request : Request) :
    Except Failure (Entity × String × String) := do
  let uuid := request.getBinding "uuid"
  match db.entityDB.get? uuid with
  | none => throw .notFound
  | some existing =>
      require (uuid != "") .notFound
      let body ← request.jsonBody
      let newEntity ← Entity.fromJson body
      checkDeviceRules ctx.env body newEntity.deviceRules
      let info ← updateObjectInfo body existing.info
      let (fromPolicy, toPolicy, managementPolicy) ←
        createMove body "managementPolicy" existing.managementPolicy db.policyDB
          (.badRequest .unknownManagementPolicyUUID)
      require (!body.has "sourceIP" || newEntity.sourceIP.isEmpty ||
        ctx.env.validateIpRanges newEntity.sourceIP) (.badRequest .invalidIPRanges)
      require (validateParameters ctx.env db request.parameters) (.badRequest .unknownId)
      let updated : Entity :=
        { existing with
          info := info
          managementPolicy := managementPolicy
          sourceIP := if body.has "sourceIP" then newEntity.sourceIP else existing.sourceIP
          deviceRules :=
            if body.has "deviceRules" then newEntity.deviceRules else existing.deviceRules }
      return (updated, fromPolicy, toPolicy)

def entityDoPut (ctx : Context) (db : Store) (request : Request) : Outcome :=
  match entityDoPutPlan ctx db request with
  | .error failure => .fail db failure
  | .ok (updated, fromPolicy, toPolicy) =>
      .done (movePolicyUsage { db with entityDB := db.entityDB.update updated } "ent"
        fromPolicy toPolicy updated.info.id)

/-- The checks of `RESTAPI_entity_handler::DoDelete`. -/
def entityDoDeletePlan (db : Store) (request : Request) : Except Failure Entity := do
  let uuid := request.getBinding "uuid"
  match db.entityDB.get? uuid with
  | none => throw .notFound
  | some existing =>
      require (uuid != "") .notFound
      require (uuid != rootUUID) (.badRequest .cannotDeleteRoot)
      require (existing.operatorId == "") (.badRequest .stillInUse)
      require existing.isVacant (.badRequest .stillInUse)
      return existing

def entityDoDelete (db : Store) (request : Request) : Outcome :=
  match entityDoDeletePlan db request with
  | .error failure => .fail db failure
  | .ok existing =>
      let id := existing.info.id
      let released := movePolicyUsage db "ent" existing.managementPolicy "" id
      let cleaned := deleteScopeRoles released fun role => role.entity == id
      let deleted := { cleaned with entityDB := cleaned.entityDB.delete id }
      .done (manipulateChild deleted existing.parent id false)

/-! ## Operators -/

/-- The checks of `RESTAPI_operators_handler::DoPost`: the operator and its entity. -/
def operatorDoPostPlan (ctx : Context) (db : Store) (request : Request) :
    Except Failure (Operator × Entity) := do
  let body ← request.jsonBody
  let newObject ← Operator.fromJson body
  require (!newObject.defaultOperator) (.badRequest .cannotCreateDefaultOperator)
  checkDeviceRules ctx.env body newObject.deviceRules
  require (!body.has "managementPolicy" || idExists db.policyDB newObject.managementPolicy)
    (.badRequest .unknownManagementPolicyUUID)
  let registrationId := toLower newObject.registrationId
  require (registrationId != "" &&
    (getBy db.operatorDB Operator.registrationId registrationId).isNone)
    (.badRequest .invalidRegistrationOperatorName)
  require (!body.has "entityId") (.badRequest .missingOrInvalidParameters)
  let info ← createObjectInfo body newObject.info (ctx.newId 0)
  let newEntity : Entity :=
    { info :=
        { id := ctx.newId 1
          name := "Operator-entity:" ++ info.name
          description := info.description }
      parent := rootUUID
      operatorId := info.id }
  return ({ newObject with
    info := info
    registrationId := registrationId
    entityId := newEntity.info.id }, newEntity)

/-- The default service class of a new operator. -/
def defaultServiceClass (id operatorId : String) : ServiceClass where
  info := { id := id, name := "Default Service Class" }
  defaultService := true
  operatorId := operatorId
  period := "monthly"
  billingCode := "basic"
  currency := "USD"

def operatorDoPost (ctx : Context) (db : Store) (request : Request) : Outcome :=
  match operatorDoPostPlan ctx db request with
  | .error failure => .fail db failure
  | .ok (newObject, newEntity) =>
      match db.entityDB.insert? newEntity with
      | none => .fail db (.internalError .recordNotCreated)
      | some entityDB =>
          let linked := manipulateChild { db with entityDB := entityDB } newEntity.parent
            newEntity.info.id true
          match db.operatorDB.insert? newObject with
          | some operatorDB =>
              let service := defaultServiceClass (ctx.newId 2) newObject.info.id
              .done { linked with
                operatorDB := operatorDB
                serviceClassDB :=
                  (linked.serviceClassDB.insert? service).getD linked.serviceClassDB }
          | none =>
              let unlinked := manipulateChild linked newEntity.parent newEntity.info.id false
              .fail { unlinked with entityDB := unlinked.entityDB.delete newEntity.info.id }
                (.internalError .recordNotCreated)

/-- `UpdateObjectInfo` where its answer is ignored: an empty name is kept and ends it. -/
def updateObjectInfoUnchecked (body : JsonObject) (info : ObjectInfo) :
    Except Failure ObjectInfo := do
  let name ← body.assignIfPresent "name" info.name
  if name = "" then
    return { info with name := name }
  else
    let description ← body.assignIfPresent "description" info.description
    return { info with name := name, description := description }

theorem updateObjectInfoUnchecked_eq_ok {body : JsonObject} {info info' : ObjectInfo}
    (updated : updateObjectInfoUnchecked body info = .ok info') : info'.id = info.id := by
  unfold updateObjectInfoUnchecked at updated
  obtain ⟨name, _, updated⟩ := bind_eq_ok_iff.mp updated
  split at updated
  · cases updated
    rfl
  · obtain ⟨description, _, updated⟩ := bind_eq_ok_iff.mp updated
    cases updated
    rfl

/-- The checks of `RESTAPI_operators_handler::DoPut` and the updated record. -/
def operatorDoPutPlan (ctx : Context) (db : Store) (request : Request) :
    Except Failure Operator := do
  let uuid := request.getBinding "uuid"
  require (uuid != "") (.badRequest .missingUUID)
  match db.operatorDB.get? uuid with
  | none => throw .notFound
  | some existing =>
      let body ← request.jsonBody
      let updatedObj ← Operator.fromJson body
      checkDeviceRules ctx.env body updatedObj.deviceRules
      require (!body.has "managementPolicy" || idExists db.policyDB updatedObj.managementPolicy)
        (.badRequest .unknownManagementPolicyUUID)
      let info ← updateObjectInfoUnchecked body existing.info
      require (!body.has "entityId") (.badRequest .missingOrInvalidParameters)
      return { existing with
        info := info
        managementPolicy :=
          if body.has "managementPolicy" then updatedObj.managementPolicy
          else existing.managementPolicy
        sourceIP := if body.has "sourceIP" then updatedObj.sourceIP else existing.sourceIP
        deviceRules :=
          if body.has "deviceRules" then updatedObj.deviceRules else existing.deviceRules }

def operatorDoPut (ctx : Context) (db : Store) (request : Request) : Outcome :=
  match operatorDoPutPlan ctx db request with
  | .error failure => .fail db failure
  | .ok updated => .done { db with operatorDB := db.operatorDB.update updated }

/-- The entity of an operator: by the operator's link, else by the entity's own. -/
def linkedEntity (db : Store) (operator : Operator) : Option Entity :=
  let byLink :=
    if operator.entityId = "" then none else db.entityDB.get? operator.entityId
  byLink.or (getBy db.entityDB Entity.operatorId operator.info.id)

/-- The checks of `RESTAPI_operators_handler::DoDelete`: the operator and its entity. -/
def operatorDoDeletePlan (db : Store) (request : Request) :
    Except Failure (Operator × Option Entity) := do
  let uuid := request.getBinding "uuid"
  require (uuid != "") (.badRequest .missingUUID)
  match db.operatorDB.get? uuid with
  | none => throw .notFound
  | some existing =>
      require (!existing.defaultOperator) (.badRequest .cannotDeleteDefaultOperator)
      require (!db.signupDB.rows.any fun signup => signup.operatorId == uuid)
        (.badRequest .stillInUse)
      match linkedEntity db existing with
      | none => return (existing, none)
      | some entity =>
          require (entity.info.id != rootUUID) (.badRequest .stillInUse)
          require (entity.operatorId == "" || entity.operatorId == existing.info.id)
            (.badRequest .stillInUse)
          require entity.isVacant (.badRequest .stillInUse)
          return (existing, some entity)

/-- The removal of an operator's entity. -/
def deleteLinkedEntity (db : Store) (entity : Entity) : Store :=
  let released := movePolicyUsage db "ent" entity.managementPolicy "" entity.info.id
  manipulateChild { released with entityDB := released.entityDB.delete entity.info.id }
    entity.parent entity.info.id false

def operatorDoDelete (db : Store) (request : Request) : Outcome :=
  match operatorDoDeletePlan db request with
  | .error failure => .fail db failure
  | .ok (existing, entity) =>
      let freed := entity.elim db (deleteLinkedEntity db)
      .done { freed with
        operatorDB := freed.operatorDB.delete existing.info.id
        serviceClassDB :=
          freed.serviceClassDB.deleteWhere fun service => service.operatorId == existing.info.id }

/-! ## What the checks establish -/

theorem entityDoPostPlan_eq_ok {ctx : Context} {db : Store} {request : Request}
    {entity : Entity} (planned : entityDoPostPlan ctx db request = .ok entity) :
    entity.info.id = ctx.newId 1 ∧ entity.children = [] ∧ entity.operatorId = "" ∧
      idExists db.entityDB entity.parent = true ∧
      (entity.parent = rootUUID ∨
        ∃ parent, db.entityDB.get? entity.parent = some parent ∧ parent.operatorId ≠ "") := by
  simp only [entityDoPostPlan, bind_eq_ok_iff, require_eq_ok_iff] at planned
  obtain ⟨_, _, _, _, body, _, newEntity, _, _, _, info, _, _, parentExists, _, parentKind,
    _, _, _, _, built⟩ := planned
  cases built
  rw [Bool.and_eq_true] at parentExists
  refine ⟨rfl, rfl, rfl, parentExists.2, ?_⟩
  simpa [Option.any_eq_true] using parentKind

/-- An update writes the name, the policy, the addresses and the rules of an entity. -/
theorem writes_of_entityDoPutPlan {ctx : Context} {db : Store} {request : Request}
    {updated : Entity} {fromPolicy toPolicy : String}
    (planned : entityDoPutPlan ctx db request = .ok (updated, fromPolicy, toPolicy)) :
    ∃ existing info managementPolicy sourceIP deviceRules,
      db.entityDB.get? (key updated) = some existing ∧
        updated = { existing with info, managementPolicy, sourceIP, deviceRules } := by
  unfold entityDoPutPlan at planned
  dsimp only at planned
  split at planned
  · cases planned
  · rename_i existing found
    simp only [bind_eq_ok_iff, require_eq_ok_iff] at planned
    obtain ⟨_, _, body, _, newEntity, _, _, _, info, updatedInfo, move, _, planned⟩ := planned
    obtain ⟨_, _, _, _, planned⟩ := planned
    cases planned
    have sameId : info.id = existing.info.id := updateObjectInfo_eq_ok updatedInfo
    have existingId : existing.info.id = request.getBinding "uuid" := Table.key_of_get? found
    refine ⟨existing, _, _, _, _, ?_, rfl⟩
    show db.entityDB.get? info.id = some existing
    rw [sameId, existingId, found]

theorem entityDoPutPlan_eq_ok {ctx : Context} {db : Store} {request : Request}
    {updated : Entity} {fromPolicy toPolicy : String}
    (planned : entityDoPutPlan ctx db request = .ok (updated, fromPolicy, toPolicy)) :
    ∃ existing, db.entityDB.get? (key updated) = some existing ∧
      updated.parent = existing.parent ∧ updated.children = existing.children ∧
      updated.operatorId = existing.operatorId := by
  obtain ⟨existing, info, policy, sourceIP, rules, found, rfl⟩ := writes_of_entityDoPutPlan planned
  exact ⟨existing, found, rfl, rfl, rfl⟩

theorem entityDoDeletePlan_eq_ok {db : Store} {request : Request} {existing : Entity}
    (planned : entityDoDeletePlan db request = .ok existing) :
    db.entityDB.get? existing.info.id = some existing ∧ existing.info.id ≠ rootUUID ∧
      existing.isVacant = true := by
  unfold entityDoDeletePlan at planned
  dsimp only at planned
  split at planned
  · cases planned
  · rename_i found
    simp only [bind_eq_ok_iff, require_eq_ok_iff] at planned
    obtain ⟨_, _, _, notRoot, _, _, _, vacant, planned⟩ := planned
    cases planned
    have existingId : existing.info.id = request.getBinding "uuid" := Table.key_of_get? found
    rw [existingId]
    exact ⟨found, by simpa using notRoot, vacant⟩

theorem Entity.children_of_isVacant {entity : Entity} (vacant : entity.isVacant = true) :
    entity.children = [] := by
  simp only [isVacant, Bool.and_eq_true, List.isEmpty_iff] at vacant
  exact vacant.1.1.1.1.1

theorem operatorDoPostPlan_eq_ok {ctx : Context} {db : Store} {request : Request}
    {operator : Operator} {entity : Entity}
    (planned : operatorDoPostPlan ctx db request = .ok (operator, entity)) :
    entity.info.id = ctx.newId 1 ∧ entity.children = [] ∧ entity.parent = rootUUID ∧
      operator.info.id = ctx.newId 0 := by
  simp only [operatorDoPostPlan, bind_eq_ok_iff, require_eq_ok_iff] at planned
  obtain ⟨body, _, newObject, _, _, _, _, _, _, _, _, _, _, _, info, created, planned⟩ := planned
  cases planned
  exact ⟨rfl, rfl, rfl, createObjectInfo_eq_ok created⟩

theorem linkedEntity_mem {db : Store} {operator : Operator} {entity : Entity}
    (linked : linkedEntity db operator = some entity) :
    db.entityDB.get? entity.info.id = some entity := by
  unfold linkedEntity at linked
  rcases Option.or_eq_some_iff.mp linked with byLink | ⟨_, byOperator⟩
  · split at byLink
    · cases byLink
    · exact Table.get?_key_of_mem (Table.mem_of_get? byLink)
  · exact Table.get?_key_of_mem (getBy_mem byOperator)

theorem operatorDoDeletePlan_eq_ok {db : Store} {request : Request} {operator : Operator}
    {entity : Entity} (planned : operatorDoDeletePlan db request = .ok (operator, some entity)) :
    db.entityDB.get? entity.info.id = some entity ∧ entity.info.id ≠ rootUUID ∧
      entity.isVacant = true := by
  simp only [operatorDoDeletePlan, bind_eq_ok_iff, require_eq_ok_iff] at planned
  obtain ⟨_, _, planned⟩ := planned
  split at planned
  · cases planned
  · simp only [bind_eq_ok_iff, require_eq_ok_iff] at planned
    obtain ⟨_, _, _, _, planned⟩ := planned
    split at planned
    · cases planned
    · rename_i linked
      simp only [bind_eq_ok_iff, require_eq_ok_iff] at planned
      obtain ⟨_, notRoot, _, _, _, vacant, planned⟩ := planned
      cases planned
      exact ⟨linkedEntity_mem linked, by simpa using notRoot, vacant⟩

/-! ## What the handlers do -/

/-- A creation is refused, or the entity is stored and linked. -/
theorem entityDoPost_cases {ctx : Context} {db : Store} (fresh : ctx.Fresh db)
    (request : Request) :
    (entityDoPost ctx db request).store = db ∨
      ∃ entity entityDB, entityDoPostPlan ctx db request = .ok entity ∧
        db.entityDB.insert? entity = some entityDB ∧
        (entityDoPost ctx db request).store =
          (autoCreateCreatorRole ctx (linkNewEntity db entityDB entity) entity.info.id ""
            entity.parent "" (ctx.newId 2)).1 := by
  unfold entityDoPost
  split
  · exact Or.inl rfl
  · rename_i entity planned
    split
    · exact Or.inl rfl
    · rename_i entityDB inserted
      have roleFresh : (linkNewEntity db entityDB entity).rolesDB.get? (ctx.newId 2) = none :=
        fresh.role 2
      refine Or.inr ⟨entity, entityDB, planned, inserted, ?_⟩
      dsimp only
      rw [if_pos (autoCreateCreatorRole_snd roleFresh)]
      rfl

theorem operatorId_of_entityDoDeletePlan {db : Store} {request : Request} {existing : Entity}
    (planned : entityDoDeletePlan db request = .ok existing) : existing.operatorId = "" := by
  unfold entityDoDeletePlan at planned
  dsimp only at planned
  split at planned
  · cases planned
  · simp only [bind_eq_ok_iff, require_eq_ok_iff, beq_iff_eq] at planned
    obtain ⟨_, _, _, _, _, noOperator, _, _, planned⟩ := planned
    cases planned
    exact noOperator

/-- What a new operator and its entity say about each other. -/
theorem links_of_operatorDoPostPlan {ctx : Context} {db : Store} {request : Request}
    {operator : Operator} {entity : Entity}
    (planned : operatorDoPostPlan ctx db request = .ok (operator, entity)) :
    operator.entityId = ctx.newId 1 ∧ entity.operatorId = ctx.newId 0 ∧
      operator.defaultOperator = false := by
  simp only [operatorDoPostPlan, bind_eq_ok_iff, require_eq_ok_iff] at planned
  obtain ⟨body, _, newObject, _, _, notDefault, _, _, _, _, _, _, _, _, info, created, planned⟩ :=
    planned
  cases planned
  exact ⟨rfl, createObjectInfo_eq_ok created, by simpa using notDefault⟩

/-- A creation of an operator is refused, or the operator and its entity are stored. -/
theorem operatorDoPost_cases {ctx : Context} {db : Store} (fresh : ctx.Fresh db)
    (request : Request) :
    (operatorDoPost ctx db request).store = db ∨
      ∃ operator entity operatorDB entityDB,
        operatorDoPostPlan ctx db request = .ok (operator, entity) ∧
        db.operatorDB.insert? operator = some operatorDB ∧
        db.entityDB.insert? entity = some entityDB ∧
        (operatorDoPost ctx db request).store =
          { manipulateChild { db with entityDB := entityDB } entity.parent entity.info.id true with
            operatorDB := operatorDB
            serviceClassDB :=
              (db.serviceClassDB.insert?
                (defaultServiceClass (ctx.newId 2) operator.info.id)).getD db.serviceClassDB } := by
  unfold operatorDoPost
  split
  · exact Or.inl rfl
  · rename_i operator entity planned
    split
    · exact Or.inl rfl
    · rename_i entityDB inserted
      have free : db.operatorDB.get? (key operator) = none := by
        obtain ⟨_, _, _, operatorId⟩ := operatorDoPostPlan_eq_ok planned
        rw [show key operator = operator.info.id from rfl, operatorId]
        exact fresh.operator 0
      obtain ⟨operatorDB, stored⟩ := Table.insert?_isSome free
      refine Or.inr ⟨operator, entity, operatorDB, entityDB, planned, stored, inserted, ?_⟩
      dsimp only [manipulateChild]
      rw [stored]
      rfl

theorem operatorDoPutPlan_eq_ok {ctx : Context} {db : Store} {request : Request}
    {updated : Operator} (planned : operatorDoPutPlan ctx db request = .ok updated) :
    ∃ existing, db.operatorDB.get? (key updated) = some existing ∧
      updated.entityId = existing.entityId ∧
      updated.defaultOperator = existing.defaultOperator := by
  simp only [operatorDoPutPlan, bind_eq_ok_iff, require_eq_ok_iff] at planned
  obtain ⟨_, _, planned⟩ := planned
  split at planned
  · cases planned
  · rename_i existing found
    simp only [bind_eq_ok_iff, require_eq_ok_iff] at planned
    obtain ⟨body, _, object, _, _, _, _, _, info, updatedInfo, _, _, planned⟩ := planned
    cases planned
    have sameId : info.id = existing.info.id := updateObjectInfoUnchecked_eq_ok updatedInfo
    refine ⟨existing, ?_, rfl, rfl⟩
    show db.operatorDB.get? info.id = some existing
    rw [sameId, show existing.info.id = _ from Table.key_of_get? found, found]

/-- What the deletion of an operator has checked. -/
theorem existing_of_operatorDoDeletePlan {db : Store} {request : Request} {existing : Operator}
    {entity : Option Entity}
    (planned : operatorDoDeletePlan db request = .ok (existing, entity)) :
    db.operatorDB.get? existing.info.id = some existing ∧ existing.defaultOperator = false ∧
      linkedEntity db existing = entity := by
  simp only [operatorDoDeletePlan, bind_eq_ok_iff, require_eq_ok_iff] at planned
  obtain ⟨_, _, planned⟩ := planned
  split at planned
  · cases planned
  · rename_i found
    simp only [bind_eq_ok_iff, require_eq_ok_iff] at planned
    obtain ⟨_, notDefault, _, _, planned⟩ := planned
    have isFound : ∀ op, db.operatorDB.get? (request.getBinding "uuid") = some op →
        db.operatorDB.get? op.info.id = some op := fun op isOp =>
      Table.get?_key_of_mem (Table.mem_of_get? isOp)
    split at planned
    · rename_i linked
      cases planned
      exact ⟨isFound _ found, by simpa using notDefault, linked⟩
    · rename_i linked
      simp only [bind_eq_ok_iff, require_eq_ok_iff] at planned
      obtain ⟨_, _, _, _, _, _, planned⟩ := planned
      cases planned
      exact ⟨isFound _ found, by simpa using notDefault, linked⟩

end Owprov
