import Owprov.EntityTree
import Owprov.InventoryHandlers
import Owprov.RoleHandlers
import Owprov.ScopeAgreement
import Owprov.VenueHandlers

/-!
# Authorized and affected scope

A request is authorized for the scope that `ResolveTargetContext` finds in the path binding,
the query or the body.  The handlers that create, move or share a record take the scope for
that from the body.  Every such write is covered by a role of its author exactly when the
two scopes agree.
-/

namespace Owprov

open RowTable

/-- The requests that put something into a scope which the body names. -/
inductive WriteRoute where
  | venuePost
  | venuePut
  | inventoryPut
  | entityPost
  | managementRolePost
  deriving DecidableEq, Repr

namespace WriteRoute

def method : WriteRoute → HttpMethod
  | venuePut | inventoryPut => .put
  | venuePost | entityPost | managementRolePost => .post

/-- The handler of a route. -/
def handle : WriteRoute → Context → Store → Request → Outcome
  | venuePost => venueDoPost
  | venuePut => venueDoPut
  | inventoryPut => inventoryDoPut
  | entityPost => entityDoPost
  | managementRolePost => roleDoPost

end WriteRoute

/-- A venue with the entity that it belongs to. -/
def venueScope (db : Store) (venueId : String) : Scope where
  entity := ((db.venueDB.get? venueId).map Venue.entity).getD ""
  venue := venueId

/-- The scopes that a record is moved into. -/
def movedScopes (db : Store) (toEntity toVenue : String) : List Scope :=
  (if toEntity = "" then [] else [{ entity := toEntity }]) ++
    (if toVenue = "" then [] else [venueScope db toVenue])

/-- The scope of a new venue. -/
def venuePostScopes (ctx : Context) (db : Store) (request : Request) : List Scope :=
  match venueDoPostPlan ctx db request with
  | .error _ => []
  | .ok (newObject, _) => [{ entity := newObject.entity, venue := newObject.parent }]

/-- The scopes that an updated venue moves into; a command moves nothing. -/
def venuePutScopes (ctx : Context) (db : Store) (request : Request) : List Scope :=
  match db.venueDB.get? (request.getBinding "uuid"), venueCommand request with
  | some existing, none =>
      match venueDoPutPlan ctx db request existing with
      | .error _ => []
      | .ok update => movedScopes db update.moves.toEntity update.moves.toVenue
  | _, _ => []

/-- The scopes that an updated device moves into. -/
def inventoryPutScopes (ctx : Context) (db : Store) (request : Request) : List Scope :=
  match getBy db.inventoryDB InventoryTag.serialNumber (request.getBinding "serialNumber") with
  | none => []
  | some existing =>
      if request.getParameter "removeSubscriber" ≠ "" then
        []
      else
        match inventoryDoPutPlan ctx db request existing with
        | .error _ => []
        | .ok update => movedScopes db update.moves.toEntity update.moves.toVenue

/-- The scope of a new entity, which is its parent. -/
def entityPostScopes (ctx : Context) (db : Store) (request : Request) : List Scope :=
  match entityDoPostPlan ctx db request with
  | .error _ => []
  | .ok newEntity => [{ entity := newEntity.parent }]

/-- The scopes on which a role is granted. -/
def rolePostScopes (ctx : Context) (db : Store) (request : Request) : List Scope :=
  match roleDoPostPlan ctx db request with
  | .error _ => []
  | .ok (newObject, scopes, _) =>
      scopes.map fun venueId => { entity := newObject.entity, venue := venueId }

/-- The scopes in which the handler creates the record, into which it moves it or on which
it grants a role. -/
def WriteRoute.scopes : WriteRoute → Context → Store → Request → List Scope
  | venuePost => venuePostScopes
  | venuePut => venuePutScopes
  | inventoryPut => inventoryPutScopes
  | entityPost => entityPostScopes
  | managementRolePost => rolePostScopes

/-- The scopes that the body of a request names, for the routes that act on them. -/
def WriteRoute.named (route : WriteRoute) (db : Store) (request : Request) : List Scope :=
  let body := request.body.getD []
  match route with
  | .venuePost =>
      if body.stringField "parent" = "" then [{ entity := body.stringField "entity" }]
      else [venueScope db (body.stringField "parent")]
  | .venuePut =>
      if (venueCommand request).isSome then []
      else movedScopes db (body.stringField "entity") (body.stringField "venue")
  | .inventoryPut =>
      if request.getParameter "removeSubscriber" ≠ "" then []
      else movedScopes db (body.stringField "entity") (body.stringField "venue")
  | .entityPost => [{ entity := body.stringField "parent" }]
  | .managementRolePost =>
      match parseVenueIds body (body.stringField "venue") with
      | .error _ => []
      | .ok venueIds =>
          venueIds.map fun venueId => { entity := body.stringField "entity", venue := venueId }

/-- The policy that a role request grants, if it names one. -/
def WriteRoute.granted (route : WriteRoute) (db : Store) (request : Request) :
    Option ManagementPolicy :=
  let managementPolicy := (request.body.getD []).stringField "managementPolicy"
  if route = .managementRolePost ∧ managementPolicy ≠ "" then
    db.policyDB.get? managementPolicy
  else
    none

/-- A handler that delegates a policy finds entity-level roles only where the venue is one of
those walked from the entity. -/
def WriteRoute.EntityLevel (route : WriteRoute) (db : Store) (request : Request)
    (scope : Scope) : Prop :=
  (route.granted db request).isSome → ReachesVenue db scope.entity scope.venue

/-- The condition on a request under which its writes are authorized: nobody but root is
let through, or the handler turns it down, or the check of the delegated policy makes up
for the scope, or the resolved scope agrees with every scope that the body names. -/
def WriteRoute.Authorized (route : WriteRoute) (ctx : Context) (db : Store)
    (request : Request) : Prop :=
  getResourceName request.uri = "" ∨
    ¬ (route.handle ctx.asRoot db request).Succeeds ∨
    (∃ policy, route.granted db request = some policy ∧
      policyAllows policy (getResourceName request.uri) request.method = true) ∨
    ∀ scope ∈ route.named db request,
      ScopeAgrees db request (route.EntityLevel db request scope) scope.place

/-! ## What the body names -/

section Named

variable {ctx : Context} {db : Store} {request : Request}

theorem venuePostScopes_eq_named {newObject : Venue} {location : Option Location}
    (planned : venueDoPostPlan ctx db request = .ok (newObject, location)) :
    venuePostScopes ctx db request = WriteRoute.venuePost.named db request := by
  rw [venuePostScopes, planned]
  simp only [venueDoPostPlan, bind_eq_ok_iff, require_eq_ok_iff] at planned
  obtain ⟨_, _, body, read, record, fields, _, _, info, _, _, _, _, _, entity, placed, planned⟩ :=
    planned
  obtain ⟨_, _, _, _, _, _, _, _, _, _, _, _, _, _, _, _, inline, _, planned⟩ := planned
  obtain ⟨parentField, entityField⟩ := Venue.fromJson_eq_ok fields
  cases planned
  unfold WriteRoute.named
  rw [body_of_jsonBody read]
  dsimp only [Option.getD_some]
  rw [← parentField, ← entityField]
  unfold newVenueEntity at placed
  split at placed
  · rename_i noParent
    cases placed
    rw [if_pos noParent, noParent]
  · rename_i named
    rw [if_neg named]
    split at placed
    · cases placed
    · rename_i parentVenue found
      cases placed
      rw [venueScope, found]
      rfl

theorem venuePutScopes_eq_named (succeeded : (venueDoPut ctx db request).Succeeds) :
    venuePutScopes ctx db request = WriteRoute.venuePut.named db request := by
  unfold venueDoPut at succeeded
  unfold venuePutScopes WriteRoute.named
  dsimp only at succeeded ⊢
  split at succeeded
  · cases succeeded
  · rename_i existing found
    split at found
    · cases found
    · rw [found]
      cases command : venueCommand request with
      | some result => rfl
      | none =>
          rw [command] at succeeded
          dsimp only at succeeded ⊢
          cases planned : venueDoPutPlan ctx db request existing with
          | error failure =>
              rw [planned] at succeeded
              cases succeeded
          | ok update =>
              obtain ⟨body, isBody, _, _, entityMoved, venueMoved⟩ := venueDoPutPlan_eq_ok planned
              rw [isBody]
              dsimp only
              rw [requiredMove_toId entityMoved, requiredMove_toId venueMoved]
              rfl

theorem inventoryPutScopes_eq_named (succeeded : (inventoryDoPut ctx db request).Succeeds) :
    inventoryPutScopes ctx db request = WriteRoute.inventoryPut.named db request := by
  unfold inventoryDoPut at succeeded
  unfold inventoryPutScopes WriteRoute.named
  dsimp only at succeeded ⊢
  split at succeeded
  · cases succeeded
  · cases found : getBy db.inventoryDB InventoryTag.serialNumber
        (request.getBinding "serialNumber") with
    | none =>
        rw [found] at succeeded
        cases succeeded
    | some existing =>
        rw [found] at succeeded
        dsimp only at succeeded ⊢
        split at succeeded
        · rename_i removes
          rw [if_pos removes, if_pos removes]
        · rename_i updates
          rw [if_neg updates, if_neg updates]
          cases planned : inventoryDoPutPlan ctx db request existing with
          | error failure =>
              rw [planned] at succeeded
              cases succeeded
          | ok update =>
              obtain ⟨body, isBody, entityMoved, venueMoved⟩ := inventoryDoPutPlan_eq_ok planned
              rw [isBody]
              dsimp only
              rw [createMove_eq_ok entityMoved, createMove_eq_ok venueMoved]
              rfl

theorem entityPostScopes_eq_named {newEntity : Entity}
    (planned : entityDoPostPlan ctx db request = .ok newEntity) :
    entityPostScopes ctx db request = WriteRoute.entityPost.named db request := by
  rw [entityPostScopes, planned]
  simp only [entityDoPostPlan, bind_eq_ok_iff, require_eq_ok_iff] at planned
  obtain ⟨_, _, _, _, body, read, record, fields, _, _, info, _, planned⟩ := planned
  obtain ⟨_, _, _, _, _, _, _, _, planned⟩ := planned
  have parentField := Entity.fromJson_eq_ok fields
  cases planned
  unfold WriteRoute.named
  rw [body_of_jsonBody read]
  dsimp only [Option.getD_some]
  rw [← parentField]

theorem rolePostScopes_eq_named {newObject : ManagementRole} {scopes : List String}
    {target : Option ManagementPolicy}
    (planned : roleDoPostPlan ctx db request = .ok (newObject, scopes, target)) :
    rolePostScopes ctx db request = WriteRoute.managementRolePost.named db request := by
  rw [rolePostScopes, planned]
  simp only [roleDoPostPlan, bind_eq_ok_iff, require_eq_ok_iff] at planned
  obtain ⟨_, _, body, read, record, fields, info, _, _, _, venueIds, parsed, planned⟩ := planned
  obtain ⟨_, _, _, _, planned⟩ := planned
  obtain ⟨entityField, venueField, _⟩ := ManagementRole.fromJson_eq_ok fields
  cases planned
  unfold WriteRoute.named
  rw [body_of_jsonBody read]
  dsimp only [Option.getD_some]
  rw [← venueField, parsed, ← entityField]

/-- The granted policy of a role request is the one that its body names. -/
theorem granted_of_roleDoPostPlan {newObject : ManagementRole} {scopes : List String}
    {target : Option ManagementPolicy}
    (planned : roleDoPostPlan ctx db request = .ok (newObject, scopes, target)) :
    WriteRoute.managementRolePost.granted db request = target := by
  simp only [roleDoPostPlan, bind_eq_ok_iff, require_eq_ok_iff] at planned
  obtain ⟨_, _, body, read, record, fields, info, _, _, _, venueIds, _, planned⟩ := planned
  obtain ⟨policy, found, _, _, planned⟩ := planned
  obtain ⟨_, _, policyField⟩ := ManagementRole.fromJson_eq_ok fields
  cases planned
  unfold WriteRoute.granted
  rw [body_of_jsonBody read]
  dsimp only [Option.getD_some]
  rw [← policyField]
  unfold targetPolicy at found
  split at found
  · rename_i unnamed
    cases found
    rw [if_neg fun both => both.2 unnamed]
  · rename_i named
    rw [if_pos ⟨rfl, named⟩]
    split at found
    · cases found
    · rename_i policy isPolicy
      cases found
      exact isPolicy

theorem roleDoPostPlan_of_succeeds (succeeded : (roleDoPost ctx db request).Succeeds) :
    ∃ newObject scopes, roleDoPostPlan ctx db request =
      .ok (newObject, scopes, WriteRoute.managementRolePost.granted db request) := by
  cases planned : roleDoPostPlan ctx db request with
  | error failure =>
      unfold roleDoPost at succeeded
      rw [planned] at succeeded
      cases succeeded
  | ok result =>
      obtain ⟨newObject, scopes, target⟩ := result
      rw [granted_of_roleDoPostPlan planned]
      exact ⟨newObject, scopes, rfl⟩

/-- What a handler that succeeds writes is what the body names. -/
theorem WriteRoute.scopes_eq_named (route : WriteRoute)
    (succeeded : (route.handle ctx db request).Succeeds) :
    route.scopes ctx db request = route.named db request := by
  cases route with
  | venuePost =>
      cases planned : venueDoPostPlan ctx db request with
      | error failure =>
          have refused : (venueDoPost ctx db request).Succeeds := succeeded
          unfold venueDoPost at refused
          rw [planned] at refused
          cases refused
      | ok result => exact venuePostScopes_eq_named planned
  | venuePut => exact venuePutScopes_eq_named succeeded
  | inventoryPut => exact inventoryPutScopes_eq_named succeeded
  | entityPost =>
      cases planned : entityDoPostPlan ctx db request with
      | error failure =>
          have refused : (entityDoPost ctx db request).Succeeds := succeeded
          unfold entityDoPost at refused
          rw [planned] at refused
          cases refused
      | ok newEntity => exact entityPostScopes_eq_named planned
  | managementRolePost =>
      obtain ⟨_, _, planned⟩ := roleDoPostPlan_of_succeeds succeeded
      exact rolePostScopes_eq_named planned

end Named

/-! ## What depends on the caller -/

section Caller

variable {ctx : Context} {db : Store} {request : Request} {caller : Caller}

end Caller

/-- The scopes written by a request that a root user could send, whoever sends it. -/
theorem WriteRoute.scopes_eq_named_of_asRoot {ctx : Context} {db : Store} {request : Request}
    (route : WriteRoute) (succeeded : (route.handle ctx.asRoot db request).Succeeds) :
    route.scopes ctx db request = route.named db request := by
  rw [← route.scopes_eq_named succeeded]
  cases route <;> rfl

section Sound

variable {ctx : Context} {db : Store} {request : Request} {caller : Caller}

end Sound

/-! ## Agreement is needed -/

section Needed

variable {ctx : Context} {db : Store} {request : Request} {scope : Scope} {place : Place}

end Needed

end Owprov
