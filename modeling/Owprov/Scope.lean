import Owprov.Access
import Owprov.Store

/-!
# The authorization of a request

`resolveTargetContext` finds the entity and venue a request is about, from the path
binding, else from the query parameters, else from the body.  `roleIsAuthorized` asks
whether a role of the caller on that scope has a policy that allows the method.
-/

namespace Owprov

open RowTable

/-! ## Callers -/

/-- A user with what `FindAllUserRoles` answers for it and with the policy records that a
policy check finds, whether in the cache or in the database. -/
structure Caller where
  user : UserInfo
  roles : List ManagementRole := []
  policy : String → Option ManagementPolicy := fun _ => none

/-- `CheckRolePolicy`: a role whose policy is missing allows nothing. -/
def Caller.checkRolePolicy (caller : Caller) (resource : String) (method : HttpMethod)
    (role : ManagementRole) : Bool :=
  match caller.policy role.managementPolicy with
  | none => false
  | some policy => policyAllows policy resource method

/-! ## The venues of an entity -/

/-- `GetDescendantVenues`: the venues that are visited from one venue.  The answer is
`none` when the fuel does not suffice. -/
def getDescendantVenues (db : Store) : ℕ → String → Option (List String)
  | 0, _ => none
  | fuel + 1, id =>
      match db.venueDB.get? id with
      | none => some [id]
      | some venue => do
          let below ← venue.children.mapM (getDescendantVenues db fuel)
          return id :: below.flatten

/-- Fuel for a recursion over venues that stops: one call for each venue on the way and
one for an id that names none. -/
def Store.venueFuel (db : Store) : ℕ :=
  db.venueDB.rows.length + 1

/-- The set `AllowedVenues` of a role on an entity; `none` stands for a recursion that
does not end. -/
def allowedVenues (db : Store) (entity : String) : Option (List String) :=
  match db.entityDB.get? entity with
  | none => some []
  | some record => do
      let visited ← record.venues.mapM (getDescendantVenues db db.venueFuel)
      return visited.flatten

/-! ## Resolving the scope -/

/-- How `ResolveTargetContext` ends. -/
inductive Resolution where
  /-- A JSON value could not be read. -/
  | thrown
  /-- The answer is false. -/
  | unresolved
  /-- The answer is true with a target entity and a target venue. -/
  | resolved (entity venue : String)
  deriving DecidableEq, Repr

/-- The binding that names the object of a request. -/
def Request.boundId (request : Request) : String :=
  match request.bindings.lookup "id" with
  | some id => id
  | none =>
      match request.bindings.lookup "uuid" with
      | some id => id
      | none =>
          match request.bindings.lookup "serialNumber" with
          | some id => id
          | none => (request.bindings.lookup "serialnumber").getD ""

/-- The id is one that names an object: not empty, not `0` and, on a creation, not `new`. -/
def namesObject (method : HttpMethod) (id : String) : Bool :=
  id != "" && id != "0" && !(method == .post && icompare id "new")

/-- The branches for a bound object. -/
inductive BoundBranch where
  | entity
  | venue
  | inventory
  | overrides
  | configuration
  | managementRole
  | contact
  | location
  | managementPolicy
  | map
  | variableBlock
  | serviceClass
  | operator
  | subscriberDevice
  | subscriber
  | opContact
  | opLocation
  deriving DecidableEq, Repr

/-- The branch that a path with a bound object takes. -/
def boundBranch (path : String) : Option BoundBranch :=
  if pathHas path "/api/v1/entity" then some .entity
  else if pathHas path "/api/v1/venue" then some .venue
  else if pathHas path "/api/v1/inventory" then some .inventory
  else if pathHas path "/api/v1/configurationOverrides" || pathHas path "/api/v1/overrides" then
    some .overrides
  else if pathHas path "/api/v1/configuration" then some .configuration
  else if pathHas path "/api/v1/managementRole" then some .managementRole
  else if pathHas path "/api/v1/contact" then some .contact
  else if pathHas path "/api/v1/location" then some .location
  else if pathHas path "/api/v1/managementPolicy" then some .managementPolicy
  else if pathHas path "/api/v1/map" then some .map
  else if pathHas path "/api/v1/variables" then some .variableBlock
  else if pathHas path "/api/v1/serviceClass" then some .serviceClass
  else if pathHas path "/api/v1/operator" then some .operator
  else if pathHas path "/api/v1/subscriberDevice" then some .subscriberDevice
  else if pathHas path "/api/v1/subscriber" then some .subscriber
  else if pathHas path "/api/v1/op_contact" then some .opContact
  else if pathHas path "/api/v1/op_location" then some .opLocation
  else none

/-- The entity of an operator. -/
def operatorScope (db : Store) (operatorId : String) : Resolution :=
  match db.operatorDB.get? operatorId with
  | some op => .resolved op.entityId ""
  | none => .unresolved

/-- A signup entry by its user id or by its own id. -/
def findSignup (db : Store) (id : String) : Option SignupEntry :=
  (getBy db.signupDB SignupEntry.userId id).or (db.signupDB.get? id)

/-- An inventory tag by its id or by its serial number. -/
def findTag (db : Store) (id : String) : Option InventoryTag :=
  (db.inventoryDB.get? id).or (getBy db.inventoryDB InventoryTag.serialNumber id)

/-- A subscriber device by its id or by its serial number. -/
def findSubscriberDevice (db : Store) (id : String) : Option SubscriberDevice :=
  (db.subscriberDeviceDB.get? id).or
    (getBy db.subscriberDeviceDB SubscriberDevice.serialNumber id)

/-- The entity that belongs to an operator id, or that has it as its own id. -/
def findOperatorEntity (db : Store) (operatorId : String) : Option Entity :=
  (getBy db.entityDB Entity.operatorId operatorId).or (db.entityDB.get? operatorId)

/-- The entity of a tag, or else that of its venue. -/
def tagEntity (db : Store) (tag : InventoryTag) : String :=
  if tag.entity = "" ∧ tag.venue ≠ "" then
    ((db.venueDB.get? tag.venue).map Venue.entity).getD ""
  else
    tag.entity

/-- The entity of a tag, or that of its venue, or that of its subscriber's operator. -/
def tagEntityOrSubscriber (db : Store) (tag : InventoryTag) : String :=
  if tagEntity db tag = "" ∧ tag.subscriber ≠ "" then
    match findSignup db tag.subscriber with
    | none => ""
    | some signup => ((db.operatorDB.get? signup.operatorId).map Operator.entityId).getD ""
  else
    tagEntity db tag

/-- The fallback of the inventory branch to the subscriber devices. -/
def subscriberDeviceFallback (db : Store) (id : String) : Resolution :=
  match findSubscriberDevice db id with
  | none => .unresolved
  | some device =>
      if device.operatorId = "" then
        .unresolved
      else
        match db.operatorDB.get? device.operatorId with
        | some op => .resolved op.entityId ""
        | none =>
            match findOperatorEntity db device.operatorId with
            | some entity => .resolved entity.info.id ""
            | none => .unresolved

def inventoryScope (db : Store) (id : String) : Resolution :=
  match findTag db id with
  | none => subscriberDeviceFallback db id
  | some tag =>
      if tagEntityOrSubscriber db tag ≠ "" ∨ tag.venue ≠ "" then
        .resolved (tagEntityOrSubscriber db tag) tag.venue
      else
        subscriberDeviceFallback db id

def overridesScope (db : Store) (id : String) : Resolution :=
  match findTag db id with
  | none => .unresolved
  | some tag =>
      if tagEntity db tag ≠ "" ∨ tag.venue ≠ "" then
        .resolved (tagEntity db tag) tag.venue
      else
        .unresolved

/-- The scope of a found record, or a failed lookup. -/
def scopeOf {α : Type} (record : Option α) (scope : α → Resolution) : Resolution :=
  match record with
  | some row => scope row
  | none => .unresolved

/-- The scope of a found record; a failed lookup on a creation falls through. -/
def scopeOfUnlessPost {α : Type} (method : HttpMethod) (record : Option α)
    (scope : α → Resolution) : Option Resolution :=
  match record with
  | some row => some (scope row)
  | none => if method = .post then none else some .unresolved

/-- Source 1 of `ResolveTargetContext`: the bound object.  The answer `none` falls through
to the query parameters. -/
def resolveBound (db : Store) (method : HttpMethod) (id : String) :
    Option BoundBranch → Option Resolution
  | some .entity =>
      some (scopeOf (db.entityDB.get? id) fun _ => .resolved id "")
  | some .venue =>
      some (scopeOf (db.venueDB.get? id) fun venue => .resolved venue.entity id)
  | some .inventory => some (inventoryScope db id)
  | some .overrides => some (overridesScope db id)
  | some .configuration =>
      some (scopeOf (db.configurationDB.get? id) fun config =>
        .resolved config.entity config.venue)
  | some .managementRole =>
      scopeOfUnlessPost method (db.rolesDB.get? id) fun role => .resolved role.entity role.venue
  | some .contact =>
      some (scopeOf (db.contactDB.get? id) fun contact => .resolved contact.entity "")
  | some .location =>
      some (scopeOf (db.locationDB.get? id) fun location => .resolved location.entity "")
  | some .managementPolicy =>
      scopeOfUnlessPost method (db.policyDB.get? id) fun policy =>
        .resolved policy.entity policy.venue
  | some .map =>
      some (scopeOf (db.mapDB.get? id) fun map => .resolved map.entity map.venue)
  | some .variableBlock =>
      some (scopeOf (db.variablesDB.get? id) fun block => .resolved block.entity block.venue)
  | some .serviceClass =>
      some (scopeOf (db.serviceClassDB.get? id) fun service =>
        operatorScope db service.operatorId)
  | some .operator => some (operatorScope db id)
  | some .subscriberDevice =>
      some (scopeOf (findSubscriberDevice db id) fun device => operatorScope db device.operatorId)
  | some .subscriber =>
      some (scopeOf (findSignup db id) fun signup => operatorScope db signup.operatorId)
  | some .opContact =>
      some (scopeOf (db.opContactDB.get? id) fun contact => operatorScope db contact.operatorId)
  | some .opLocation =>
      some (scopeOf (db.opLocationDB.get? id) fun location =>
        operatorScope db location.operatorId)
  | none => if method = .post then none else some .unresolved

/-- `CandidateEntity`, `CandidateVenue` and `CandidateOperator`. -/
structure Candidates where
  entity : String := ""
  venue : String := ""
  operator : String := ""
  deriving DecidableEq, Repr

def Candidates.isEmpty (candidates : Candidates) : Bool :=
  candidates.entity == "" && candidates.venue == "" && candidates.operator == ""

/-- What one query parameter does to the candidates. -/
def queryStep (db : Store) (candidates : Candidates) (parameter : String × String) :
    Candidates :=
  match parameter with
  | (name, value) =>
      if name = "entity" then
        { candidates with entity := value }
      else if name = "venue" then
        { candidates with venue := value }
      else if name = "operatorId" ∨ name = "operator" ∨ name = "registrationId" then
        { candidates with operator := value }
      else if name = "subscriberId" ∨ name = "signupUUID" then
        match findSignup db value with
        | some signup => { candidates with operator := signup.operatorId }
        | none => candidates
      else
        candidates

/-- Source 2 of `ResolveTargetContext`: the query parameters, in their order. -/
def queryCandidates (db : Store) (parameters : List (String × String)) : Candidates :=
  parameters.foldl (queryStep db) {}

/-- The entity or venue named by the `parent` field, which counts on two routes only. -/
def parentCandidates (path parentId : String) : Candidates :=
  if pathHas path "/api/v1/entity" then { entity := parentId }
  else if pathHas path "/api/v1/venue" then { venue := parentId }
  else {}

/-- The venue candidate of a body: the `venue` field, else the first of `venueIds`. -/
def bodyVenue (body : JsonObject) : Except Failure String := do
  let venue ← body.assignIfPresent "venue" ""
  if venue = "" then
    match body.getArray? "venueIds" with
    | some (first :: _) => first.toString
    | _ => return ""
  else
    return venue

/-- The operator candidate of a body. -/
def bodyOperator (body : JsonObject) : Except Failure String :=
  if body.has "operatorId" then body.getString "operatorId"
  else if body.has "operator" then body.getString "operator"
  else if body.has "registrationId" then body.getString "registrationId"
  else .ok ""

/-- Source 3 of `ResolveTargetContext`: the fields of the body. -/
def bodyCandidates (path : String) (body : JsonObject) : Except Failure Candidates := do
  let entity ← body.assignIfPresent "entity" ""
  let venue ← bodyVenue body
  let operator ← bodyOperator body
  let candidates : Candidates := { entity, venue, operator }
  if candidates.isEmpty ∧ body.has "parent" then
    let parentId ← body.getString "parent"
    return parentCandidates path parentId
  else
    return candidates

/-- The entity that an operator candidate stands for. -/
def operatorCandidateScope (db : Store) (candidate : String) : Resolution :=
  match findOperatorEntity db candidate with
  | some entity => .resolved entity.info.id ""
  | none =>
      match (db.operatorDB.get? candidate).or
          (getBy db.operatorDB Operator.registrationId candidate) with
      | none => .unresolved
      | some op =>
          if op.entityId ≠ "" ∧ idExists db.entityDB op.entityId = true then
            .resolved op.entityId ""
          else
            match getBy db.entityDB Entity.operatorId op.info.id with
            | some entity => .resolved entity.info.id ""
            | none => .resolved (if op.entityId = "" then op.info.id else op.entityId) ""

/-- The candidates are looked up, a venue before an entity before an operator. -/
def resolveCandidates (db : Store) (candidates : Candidates) : Resolution :=
  if candidates.venue ≠ "" then
    scopeOf (db.venueDB.get? candidates.venue) fun venue =>
      .resolved venue.entity candidates.venue
  else if candidates.entity ≠ "" then
    scopeOf (db.entityDB.get? candidates.entity) fun _ => .resolved candidates.entity ""
  else if candidates.operator ≠ "" then
    operatorCandidateScope db candidates.operator
  else
    .unresolved

/-- Sources 2 and 3 of `ResolveTargetContext`. -/
def resolveUnbound (db : Store) (request : Request) : Resolution :=
  let fromQuery := queryCandidates db request.parameters
  match request.body with
  | none => resolveCandidates db fromQuery
  | some body =>
      if fromQuery.isEmpty then
        match bodyCandidates request.uri body with
        | .error _ => .thrown
        | .ok fromBody => resolveCandidates db fromBody
      else
        resolveCandidates db fromQuery

/-- `ResolveTargetContext`. -/
def resolveTargetContext (db : Store) (request : Request) : Resolution :=
  let bound :=
    if namesObject request.method request.boundId then
      resolveBound db request.method request.boundId (boundBranch request.uri)
    else
      none
  bound.getD (resolveUnbound db request)

/-! ## The scope guard -/

/-- The resources that `HasScopeConstraint` calls scoped. -/
def scopedResources : List String :=
  ["entity", "venue", "inventory", "configuration", "managementRole", "contact", "location",
    "managementPolicy", "map", "variables", "serviceClass", "operator", "overrides",
    "subscriber", "subscriberDevice", "op_contact", "op_location"]

/-- The binding that `HasScopeConstraint` looks at. -/
def Request.constraintId (request : Request) : String :=
  match request.bindings.lookup "id" with
  | some id => id
  | none =>
      match request.bindings.lookup "uuid" with
      | some id => id
      | none => (request.bindings.lookup (toLower "serialNumber")).getD ""

/-- The request carries one of the selectors that `HasScopeConstraint` knows. -/
def Request.hasScopeSelector (request : Request) : Bool :=
  namesObject request.method request.constraintId ||
    request.parameters.any (fun parameter =>
      ["entity", "venue", "operatorId", "operator"].contains parameter.1) ||
    request.body.any fun body =>
      body.has "entity" || body.has "venue" || body.has "operatorId" || body.has "operator" ||
        body.has "parent"

/-- `HasScopeConstraint`. -/
def hasScopeConstraint (resource : String) (request : Request) : Bool :=
  scopedResources.contains resource && request.hasScopeSelector

/-! ## The decision -/

/-- The resources that everybody may read. -/
def isOpenRead (resource : String) (method : HttpMethod) : Bool :=
  ["managementPolicy", "systemConfiguration", "radiusEndpoint", "openroaming",
    "iptocountry"].contains resource && method == .get

/-- The check that only root gives the root role, on a resource no path maps to. -/
def assignsRootRole (resource : String) (request : Request) : Except Failure Bool := do
  if resource = "user" ∧ (request.method = .post ∨ request.method = .put) then
    match request.body with
    | none => return false
    | some body =>
        if body.has "userRole" then
          let role ← body.getString "userRole"
          return icompare role "root"
        else
          return false
  else
    return false

/-- The loop over the entity-level roles for a target venue. -/
def entityRoleLoop (db : Store) (allows : ManagementRole → Bool)
    (targetEntity targetVenue : String) : List ManagementRole → Option Bool
  | [] => some false
  | role :: roles =>
      if role.entity = targetEntity ∧ role.venue = "" then
        match allowedVenues db role.entity with
        | none => none
        | some allowed =>
            if targetVenue ∈ allowed ∧ allows role = true then
              some true
            else
              entityRoleLoop db allows targetEntity targetVenue roles
      else
        entityRoleLoop db allows targetEntity targetVenue roles

/-- The decision for a resolved scope. -/
def scopeIsAuthorized (db : Store) (allows : ManagementRole → Bool)
    (roles : List ManagementRole) (targetEntity targetVenue : String) : Option Bool :=
  if targetVenue ≠ "" then
    if roles.any fun role => role.venue == targetVenue then
      some (roles.any fun role => role.venue == targetVenue && allows role)
    else
      entityRoleLoop db allows targetEntity targetVenue roles
  else
    some (roles.any fun role => role.entity == targetEntity && role.venue == "" && allows role)

/-- `RoleIsAuthorized`.  The answer `none` stands for an exception or for a recursion that
does not end; in neither case does the request reach its handler. -/
def roleIsAuthorized (db : Store) (caller : Caller) (request : Request) : Option Bool :=
  if caller.user.userRole = .root then
    some true
  else
    let resource := getResourceName request.uri
    if resource = "" then
      some false
    else
      match assignsRootRole resource request with
      | .error _ => none
      | .ok true => some false
      | .ok false =>
          if isOpenRead resource request.method then
            some true
          else
            let allows := caller.checkRolePolicy resource request.method
            match resolveTargetContext db request with
            | .thrown => none
            | .unresolved =>
                if hasScopeConstraint resource request then
                  some false
                else
                  some (caller.roles.any allows)
            | .resolved targetEntity targetVenue =>
                scopeIsAuthorized db allows caller.roles targetEntity targetVenue

end Owprov
