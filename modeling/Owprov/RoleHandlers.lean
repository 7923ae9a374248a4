import Owprov.Delegation
import Owprov.Handler

/-!
# The management role handler

A role gives one user a policy on an entity, or on venues of that entity.  One request may
name several venues and then gives one role for each.
-/

namespace Owprov

open RowTable

/-- `ParseVenueIds` on the items of `venueIds`: filled ids, each once. -/
def distinctVenueIds : List String → List String → List String
  | _, [] => []
  | seen, id :: ids =>
      if id = "" ∨ id ∈ seen then distinctVenueIds seen ids
      else id :: distinctVenueIds (id :: seen) ids

/-- `ParseVenueIds`, with the empty scope where it answers nothing. -/
def parseVenueIds (body : JsonObject) (fallbackVenue : String) :
    Except Failure (List String) := do
  let listed ← body.stringsField "venueIds"
  let venueIds := distinctVenueIds [] listed
  if venueIds.isEmpty then
    return [fallbackVenue]
  else
    return venueIds

/-- `ValidateVenueScope`. -/
def validateVenueScope (db : Store) (entityId venueId : String) : Bool :=
  venueId == "" || (db.venueDB.get? venueId).any fun venue => venue.entity == entityId

/-- The policy that a new role names, if it names one. -/
def targetPolicy (db : Store) (managementPolicy : String) :
    Except Failure (Option ManagementPolicy) :=
  if managementPolicy = "" then
    .ok none
  else
    match db.policyDB.get? managementPolicy with
    | none => .error (.badRequest .unknownManagementPolicyUUID)
    | some policy => .ok (some policy)

/-- The checks of `RESTAPI_managementRole_handler::DoPost` that come before those about the
requester: the record, the venues of the roles and the policy. -/
def roleDoPostPlan (ctx : Context) (db : Store) (request : Request) :
    Except Failure (ManagementRole × List String × Option ManagementPolicy) := do
  require (request.getBinding "id" != "") (.badRequest .missingUUID)
  let body ← request.jsonBody
  let newObject ← ManagementRole.fromJson body
  let info ← createObjectInfo body newObject.info (ctx.newId 0)
  require (newObject.entity != "" && idExists db.entityDB newObject.entity)
    (.badRequest .entityMustExist)
  let scopes ← parseVenueIds body newObject.venue
  let target ← targetPolicy db newObject.managementPolicy
  require (scopes.all (validateVenueScope db newObject.entity)) (.badRequest .venueMustExist)
  return ({ newObject with info := info }, scopes, target)

/-- The requester's own policies cover the granted one on every scope. -/
def checkDelegation (db : Store) (caller : Caller) (entityId : String) (target : ManagementPolicy) :
    List String → Except Failure Unit
  | [] => .ok ()
  | venueId :: scopes =>
      match requesterHasEqualOrStrongerPermission db caller entityId venueId target with
      | none => .error .noAnswer
      | some false => .error (.badRequest .missingOrInvalidParameters)
      | some true => checkDelegation db caller entityId target scopes

/-- `ValidateAssignableUser`. -/
def checkAssignableUser (ctx : Context) (userId : String) : Except Failure Unit :=
  match ctx.env.secUser userId with
  | none =>
      .error (.badRequestWith .missingOrInvalidParameters
        "The selected user could not be found.")
  | some user =>
      require (ctx.caller.user.userRole == .root || user.createdBy == ctx.caller.user.id ||
          user.id == ctx.caller.user.id)
        (.badRequestWith .missingOrInvalidParameters
          ("You are not authorized to assign or modify roles for users you did not " ++
            "create."))

/-- The delegation check, which a root user and a role without a policy skip. -/
def checkRequester (db : Store) (caller : Caller) (entityId : String) (scopes : List String)
    (target : Option ManagementPolicy) : Except Failure Unit :=
  match target with
  | none => .ok ()
  | some policy =>
      if caller.user.userRole = .root then .ok ()
      else checkDelegation db caller entityId policy scopes

/-- The one user of a new role. -/
def assignedUser (ctx : Context) (role : ManagementRole) : Except Failure String :=
  match role.users with
  | [userId] => (checkAssignableUser ctx userId).map fun _ => userId
  | _ =>
      .error (.badRequestWith .missingOrInvalidParameters
        "Management role must contain exactly one user in the users array.")

/-- `FindExactExistingRole`. -/
def findExactExistingRole (ctx : Context) (db : Store) (userId entityId venueId : String) :
    Option ManagementRole :=
  match (ctx.cachedRoles userId).filter fun roles => !roles.isEmpty with
  | some roles => roles.find? fun role => role.entity == entityId && role.venue == venueId
  | none =>
      let selected := (db.rolesDB.rows.filter fun role =>
        role.entity == entityId && role.venue == venueId &&
          ctx.env.usersLike role.users userId).take 100
      selected.find? fun role => role.users.contains userId

/-- One role of a request: the existing role gets the policy, or a new one is created. -/
def saveRole (ctx : Context) (db : Store) (userId : String) (role : ManagementRole) :
    Option Store :=
  match findExactExistingRole ctx db userId role.entity role.venue with
  | some existing =>
      some { db with
        rolesDB := db.rolesDB.update { existing with managementPolicy := role.managementPolicy } }
  | none => (db.rolesDB.insert? role).map fun rolesDB => { db with rolesDB := rolesDB }

/-- The loop over the scopes; a role that cannot be stored ends it, and the roles created
before are deleted again. -/
def saveRoles (ctx : Context) (userId : String) (role : ManagementRole) :
    ℕ → List String → List String → Store → Outcome
  | _, _, [], db => .done db
  | index, created, venueId :: scopes, db =>
      let roleForScope : ManagementRole :=
        { role with
          venue := venueId
          info := if index = 0 then role.info else { role.info with id := ctx.newId index } }
      match saveRole ctx db userId roleForScope with
      | none =>
          .fail { db with rolesDB := created.foldl Table.delete db.rolesDB }
            (.internalError .recordNotCreated)
      | some saved =>
          let fresh :=
            (findExactExistingRole ctx db userId roleForScope.entity venueId).isNone
          saveRoles ctx userId role (index + 1)
            (if fresh then created ++ [roleForScope.info.id] else created) scopes saved

def roleDoPost (ctx : Context) (db : Store) (request : Request) : Outcome :=
  match roleDoPostPlan ctx db request with
  | .error failure => .fail db failure
  | .ok (newObject, scopes, target) =>
      match checkRequester db ctx.caller newObject.entity scopes target with
      | .error failure => .fail db failure
      | .ok () =>
          match assignedUser ctx newObject with
          | .error failure => .fail db failure
          | .ok userId => saveRoles ctx userId newObject 0 [] scopes db

/-! ## Update and deletion -/

/-- The answer to a body that names another scope or user than the role has. -/
def immutableScope : Failure :=
  .badRequestWith .missingOrInvalidParameters
    ("Entity ID, Venue ID, and User ID are immutable. To change scope, delete the existing " ++
      "role and create a new role.")

/-- A field of the body is absent or names the existing value. -/
def requireUnchanged (body : JsonObject) (field existing : String) : Except Failure Unit := do
  if body.has field then
    let requested ← body.getString field
    require (requested == existing) immutableScope

/-- The users of a role can be assigned by the requester, which a root user need not show. -/
def checkRoleUsers (ctx : Context) (role : ManagementRole) : Except Failure Unit :=
  if ctx.caller.user.userRole = .root then .ok ()
  else role.users.forM (checkAssignableUser ctx)

/-- The venue of a role exists and belongs to its entity. -/
def checkRoleVenue (db : Store) (role : ManagementRole) : Except Failure Unit :=
  if role.venue = "" then
    .ok ()
  else
    match db.venueDB.get? role.venue with
    | none => .error (.badRequest .venueMustExist)
    | some venue =>
        require (venue.entity == role.entity) (.badRequest .missingOrInvalidParameters)

/-- The checks of `RESTAPI_managementRole_handler::DoPut` and the updated record. -/
def roleDoPutPlan (ctx : Context) (db : Store) (request : Request) :
    Except Failure ManagementRole := do
  let uuid := request.getBinding "id"
  match db.rolesDB.get? uuid with
  | none => throw .notFound
  | some existing =>
      require (uuid != "") .notFound
      let body ← request.jsonBody
      let newObject ← ManagementRole.fromJson body
      let info ← updateObjectInfo body existing.info
      checkRoleUsers ctx existing
      requireUnchanged body "entity" existing.entity
      requireUnchanged body "venue" existing.venue
      require (!body.has "users" || newObject.users == existing.users) immutableScope
      let managementPolicy ← body.assignIfPresent "managementPolicy" existing.managementPolicy
      let target ← targetPolicy db managementPolicy
      checkRequester db ctx.caller existing.entity [existing.venue] target
      checkRoleVenue db existing
      return { existing with info := info, managementPolicy := managementPolicy }

def roleDoPut (ctx : Context) (db : Store) (request : Request) : Outcome :=
  match roleDoPutPlan ctx db request with
  | .error failure => .fail db failure
  | .ok updated => .done { db with rolesDB := db.rolesDB.update updated }

/-- The checks of `RESTAPI_managementRole_handler::DoDelete`. -/
def roleDoDeletePlan (ctx : Context) (db : Store) (request : Request) :
    Except Failure ManagementRole := do
  let uuid := request.getBinding "id"
  match db.rolesDB.get? uuid with
  | none => throw .notFound
  | some existing =>
      require (uuid != "") .notFound
      checkRoleUsers ctx existing
      return existing

def roleDoDelete (ctx : Context) (db : Store) (request : Request) : Outcome :=
  match roleDoDeletePlan ctx db request with
  | .error failure => .fail db failure
  | .ok existing => .done { db with rolesDB := db.rolesDB.delete existing.info.id }

/-! ## What the handlers do -/

/-- An update changes the names and the policy of a role. -/
theorem roleDoPutPlan_eq_ok {ctx : Context} {db : Store} {request : Request}
    {updated : ManagementRole} (planned : roleDoPutPlan ctx db request = .ok updated) :
    ∃ existing, db.rolesDB.get? (key updated) = some existing ∧
      updated.entity = existing.entity ∧ updated.venue = existing.venue ∧
      updated.users = existing.users := by
  unfold roleDoPutPlan at planned
  dsimp only at planned
  split at planned
  · cases planned
  · rename_i existing found
    simp only [bind_eq_ok_iff, require_eq_ok_iff] at planned
    obtain ⟨_, _, body, _, newObject, _, info, updatedInfo, planned⟩ := planned
    obtain ⟨_, _, _, _, _, _, _, _, policy, _, target, _, _, _, _, _, planned⟩ := planned
    cases planned
    have sameId : info.id = existing.info.id := updateObjectInfo_eq_ok updatedInfo
    refine ⟨existing, ?_, rfl, rfl, rfl⟩
    show db.rolesDB.get? info.id = some existing
    rw [sameId, show existing.info.id = _ from Table.key_of_get? found, found]

/-- A new role names existing scopes and one user. -/
theorem roleDoPost_cases (ctx : Context) (db : Store) (request : Request) :
    (roleDoPost ctx db request).store = db ∨
      ∃ role scopes target userId,
        roleDoPostPlan ctx db request = .ok (role, scopes, target) ∧ role.users = [userId] ∧
          roleDoPost ctx db request = saveRoles ctx userId role 0 [] scopes db := by
  unfold roleDoPost
  split
  · exact Or.inl rfl
  · rename_i role scopes target planned
    split
    · exact Or.inl rfl
    · split
      · exact Or.inl rfl
      · rename_i userId assigned
        refine Or.inr ⟨role, scopes, target, userId, planned, ?_, rfl⟩
        unfold assignedUser at assigned
        split at assigned
        · rename_i user isUser
          rw [isUser]
          cases checked : checkAssignableUser ctx user with
          | error failure =>
              rw [checked] at assigned
              cases assigned
          | ok _ =>
              rw [checked] at assigned
              cases assigned
              rfl
        · cases assigned

/-! ## The delegation check -/

/-- The role of a request for one of its venues. -/
def roleForScope (ctx : Context) (role : ManagementRole) (index : ℕ) (venueId : String) :
    ManagementRole :=
  { role with
    venue := venueId
    info := if index = 0 then role.info else { role.info with id := ctx.newId index } }

theorem id_roleForScope {ctx : Context} {role : ManagementRole} (isId : role.info.id = ctx.newId 0)
    (index : ℕ) (venueId : String) :
    (roleForScope ctx role index venueId).info.id = ctx.newId index := by
  unfold roleForScope
  by_cases first : index = 0
  · rw [first]
    exact isId
  · simp only [if_neg first]

end Owprov
