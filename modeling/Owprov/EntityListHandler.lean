import Mathlib.Data.Finset.Sort
import Mathlib.Data.String.Basic
import Owprov.Scope

/-!
# The entity list of a user

For a user who is not root, the entity list handler first computes which entities and venues
the user sees: it goes through the roles, and a role on a venue also shows the way up from
it, while a role on an entity shows the venues below.  The tree is then built from the
visible records, with the devices of a node when a role lets the user read the inventory
there.  The other forms of the list read the visible entities only.
-/

namespace Owprov

open RowTable

/-- `VisibleEntities`, `VisibleVenues` and `DeniedVenues`. -/
structure Visible where
  entities : Finset String := ∅
  venues : Finset String := ∅
  denied : Finset String := ∅
  deriving DecidableEq

/-! ## Visible entities and venues -/

/-- `addVenueAncestors`.  Fuel runs out when the parents of a venue go round in a circle,
where the handler does not return. -/
def addVenueAncestors (db : Store) : ℕ → String → Visible → Option Visible
  | 0, _, _ => none
  | fuel + 1, venueId, visible =>
      match db.venueDB.get? venueId with
      | none => some visible
      | some ven =>
          let visible :=
            if ven.entity ≠ "" then { visible with entities := insert ven.entity visible.entities }
            else visible
          if ven.parent ≠ "" ∧ ven.parent ≠ venueId then
            addVenueAncestors db fuel ven.parent
              { visible with venues := insert ven.parent visible.venues }
          else
            some visible

/-- `addVenueAndDescendants`. -/
def addVenueAndDescendants (db : Store) : ℕ → Finset String → String → Finset String
  | 0, visibleVenues, _ => visibleVenues
  | fuel + 1, visibleVenues, venueId =>
      if venueId ∈ visibleVenues then
        visibleVenues
      else
        match db.venueDB.get? venueId with
        | none => insert venueId visibleVenues
        | some ven =>
            ven.children.foldl (addVenueAndDescendants db fuel) (insert venueId visibleVenues)

/-- `addEntityAndDescendants`. -/
def addEntityAndDescendants (db : Store) (entityId : String) (visible : Visible) : Visible :=
  if entityId ∈ visible.entities then
    visible
  else
    match db.entityDB.get? entityId with
    | none => { visible with entities := insert entityId visible.entities }
    | some ent =>
        { visible with
          entities := insert entityId visible.entities
          venues := ent.venues.foldl (addVenueAndDescendants db db.venueFuel) visible.venues }

/-- One turn of the loop over the roles. -/
def addRole (db : Store) (caller : Caller) (fuel : ℕ) (visible : Visible)
    (role : ManagementRole) : Option Visible :=
  if role.venue ≠ "" then
    if caller.checkRolePolicy "venue" .get role then
      addVenueAncestors db fuel role.venue
        { visible with venues := insert role.venue visible.venues }
    else if (db.venueDB.get? role.venue).isSome then
      some { visible with denied := insert role.venue visible.denied }
    else
      some visible
  else if role.entity ≠ "" ∧ caller.checkRolePolicy "entity" .get role then
    some (addEntityAndDescendants db role.entity visible)
  else
    some visible

def visibleScopes (db : Store) (caller : Caller) (fuel : ℕ) : Option Visible := do
  let visible ← caller.roles.foldlM (addRole db caller fuel) {}
  return { visible with venues := visible.venues \ visible.denied }

/-! ## The tree -/

/-- `canReadInventoryOnVenue`. -/
def canReadInventoryOnVenue (db : Store) (caller : Caller) (vId : String) : Bool :=
  match caller.roles.find? fun role => role.venue == vId with
  | some role => caller.checkRolePolicy "inventory" .get role
  | none =>
      match db.venueDB.get? vId with
      | none => false
      | some ven =>
          if ven.entity ≠ "" then
            match caller.roles.find? fun role =>
                role.entity == ven.entity && role.venue == "" with
            | some role => caller.checkRolePolicy "inventory" .get role
            | none => false
          else
            false

/-- `canReadInventoryOnEntity`. -/
def canReadInventoryOnEntity (caller : Caller) (eId : String) : Bool :=
  match caller.roles.find? fun role => role.entity == eId && role.venue == "" with
  | some role => caller.checkRolePolicy "inventory" .get role
  | none => false

/-- A node of the tree. -/
inductive ScopeNode where
  | entity (name uuid : String) (children venues : List ScopeNode) (devices : List String)
  | venue (name uuid : String) (children : List ScopeNode) (devices : List String)

/-- The entry of `EntityRecords`. -/
def Visible.entityRecord (db : Store) (visible : Visible) (entityId : String) : Option Entity :=
  if entityId ∈ visible.entities then db.entityDB.get? entityId else none

/-- The entry of `VenueRecords`. -/
def Visible.venueRecord (db : Store) (visible : Visible) (venueId : String) : Option Venue :=
  if venueId ∈ visible.venues then db.venueDB.get? venueId else none

/-- `buildVenueNode`, where the inner `none` is the null pointer. -/
def buildVenueNode (db : Store) (visible : Visible) (canRead : String → Bool) :
    ℕ → String → Option (Option ScopeNode)
  | 0, _ => none
  | fuel + 1, venueId =>
      match visible.venueRecord db venueId with
      | none => some none
      | some venue => do
          let children ← venue.children.mapM (buildVenueNode db visible canRead fuel)
          return some (.venue venue.info.name venue.info.id children.reduceOption
            (if canRead venueId then venue.devices else []))

/-- The venues of an entity that hang directly below it in the tree. -/
def Visible.topVenues (db : Store) (visible : Visible) (entity : Entity) : List String :=
  entity.venues.filter fun venueId =>
    match visible.venueRecord db venueId with
    | none => false
    | some venue => venue.parent == ""

/-- `buildEntityNode`. -/
def buildEntityNode (db : Store) (visible : Visible) (canReadVenue canReadEntity : String → Bool) :
    ℕ → String → Option (Option ScopeNode)
  | 0, _ => none
  | fuel + 1, entityId =>
      match visible.entityRecord db entityId with
      | none => some none
      | some entity => do
          let children ←
            entity.children.mapM (buildEntityNode db visible canReadVenue canReadEntity fuel)
          let venues ←
            (visible.topVenues db entity).mapM (buildVenueNode db visible canReadVenue fuel)
          return some (.entity entity.info.name entity.info.id children.reduceOption
            venues.reduceOption (if canReadEntity entityId then entity.devices else []))

/-- The visible entities without a visible parent. -/
def Visible.rootEntities (db : Store) (visible : Visible) : List String :=
  visible.entities.sort.filter fun entityId =>
    match db.entityDB.get? entityId with
    | none => false
    | some entity => entity.parent == "" || entity.parent ∉ visible.entities

/-- The visible venues without a visible parent and, at the top of an entity, without that
entity. -/
def Visible.rootVenues (db : Store) (visible : Visible) : List String :=
  visible.venues.sort.filter fun venueId =>
    match db.venueDB.get? venueId with
    | none => false
    | some venue =>
        if venue.parent = "" then venue.entity ∉ visible.entities
        else venue.parent ∉ visible.venues

/-- The answer to `getTree`. -/
inductive ScopeTree where
  | empty
  | single (node : ScopeNode)
  /-- The tree with the name `Assigned Scopes`. -/
  | assignedScopes (children venues : List ScopeNode)

def scopeTree : List ScopeNode → List ScopeNode → ScopeTree
  | [], [] => .empty
  | [entity], [] => .single entity
  | [], [venue] => .single venue
  | entities, venues => .assignedScopes entities venues

def buildScopeTree (db : Store) (caller : Caller) (visible : Visible) (fuel : ℕ) :
    Option ScopeTree := do
  let entities ← (visible.rootEntities db).mapM
    (buildEntityNode db visible (canReadInventoryOnVenue db caller)
      (canReadInventoryOnEntity caller) fuel)
  let venues ← (visible.rootVenues db).mapM
    (buildVenueNode db visible (canReadInventoryOnVenue db caller) fuel)
  return scopeTree entities.reduceOption venues.reduceOption

/-! ## The handler -/

/-- What an answer of the handler shows to the caller. -/
inductive EntityListing where
  /-- Root sees every record. -/
  | everything
  | scopes (entities venues : Finset String)
  | tree (tree : ScopeTree)

/-- `RESTAPI_entity_list_handler::DoGet`, as far as it depends on the roles. -/
def entityListDoGet (db : Store) (caller : Caller) (getTree : Bool) (fuel : ℕ) :
    Option EntityListing :=
  if caller.user.userRole = .root then
    some .everything
  else do
    let visible ← visibleScopes db caller fuel
    if getTree then
      let tree ← buildScopeTree db caller visible fuel
      return .tree tree
    else
      return .scopes visible.entities visible.venues

end Owprov
