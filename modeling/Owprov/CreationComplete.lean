import Owprov.AuthorizedWrites
import Owprov.VenueForest

/-!
# Creation with an entity-level role

A role on a whole entity should be enough to create what belongs to the entity.  The
resolver looks at the path binding first, where a creation has either no id or that of an
object which does not exist yet; what it finds then decides whether the role is looked for
in the right place.
-/

namespace Owprov

open RowTable

/-- The requests that create an object in an entity or a venue. -/
inductive CreationRoute where
  | entity
  | venue
  | configuration
  | managementRole
  | inventory
  deriving DecidableEq, Repr

/-- The handler of a route. -/
def CreationRoute.handle : CreationRoute → Context → Store → Request → Outcome
  | entity => entityDoPost
  | venue => venueDoPost
  | configuration => configurationDoPost
  | managementRole => roleDoPost
  | inventory => inventoryDoPost

/-- The scope of an object that names an entity, a venue, both or none of them. -/
def namedScopes (db : Store) (entity venue : String) : List Scope :=
  if entity ≠ "" then [{ entity, venue }]
  else if venue ≠ "" then [venueScope db venue]
  else []

/-- The scope of a new configuration, when one is created. -/
def configurationPostScopes (ctx : Context) (db : Store) (request : Request) : List Scope :=
  if request.getParameter "validateOnly" = "true" then
    []
  else
    match configurationDoPostPlan ctx db request with
    | .error _ => []
    | .ok newObject => namedScopes db newObject.entity newObject.venue

/-- The scope of a new device. -/
def inventoryPostScopes (ctx : Context) (db : Store) (request : Request) : List Scope :=
  match inventoryDoPostPlan ctx db request with
  | .error _ => []
  | .ok (newObject, _) => namedScopes db newObject.entity newObject.venue

/-- The scopes in which a request creates an object. -/
def CreationRoute.scopes : CreationRoute → Context → Store → Request → List Scope
  | entity => entityPostScopes
  | venue => venuePostScopes
  | configuration => configurationPostScopes
  | managementRole => rolePostScopes
  | inventory => inventoryPostScopes

/-- The scopes that the body of a request names for the object it creates. -/
def CreationRoute.named (route : CreationRoute) (db : Store) (request : Request) : List Scope :=
  let body := request.body.getD []
  match route with
  | .entity => WriteRoute.entityPost.named db request
  | .venue => WriteRoute.venuePost.named db request
  | .configuration =>
      if request.getParameter "validateOnly" = "true" then []
      else namedScopes db (body.stringField "entity") (body.stringField "venue")
  | .managementRole => WriteRoute.managementRolePost.named db request
  | .inventory => namedScopes db (body.stringField "entity") (body.stringField "venue")

theorem DeviceConfiguration.fromJson_eq_ok {obj : JsonObject} {config : DeviceConfiguration}
    (read : DeviceConfiguration.fromJson obj = .ok config) :
    config.entity = obj.stringField "entity" ∧ config.venue = obj.stringField "venue" := by
  unfold DeviceConfiguration.fromJson at read
  rw [orInvalid_eq_ok_iff] at read
  simp only [bind_eq_ok_iff] at read
  obtain ⟨_, _, _, _, _, _, _, _, read⟩ := read
  cases read
  exact ⟨rfl, rfl⟩

section Named

variable {ctx : Context} {db : Store} {request : Request}

theorem configurationPostScopes_eq_named
    (succeeded : (configurationDoPost ctx db request).Succeeds) :
    configurationPostScopes ctx db request = CreationRoute.configuration.named db request := by
  unfold configurationDoPost at succeeded
  unfold configurationPostScopes CreationRoute.named
  dsimp only
  split at succeeded
  · cases succeeded
  · split at succeeded
    · rename_i onlyValidates
      rw [if_pos onlyValidates, if_pos onlyValidates]
    · rename_i creates
      rw [if_neg creates, if_neg creates]
      cases planned : configurationDoPostPlan ctx db request with
      | error failure =>
          rw [planned] at succeeded
          cases succeeded
      | ok newObject =>
          simp only [configurationDoPostPlan, bind_eq_ok_iff, require_eq_ok_iff] at planned
          obtain ⟨body, read, record, fields, _, _, info, _, planned⟩ := planned
          obtain ⟨_, _, _, _, _, _, _, _, _, _, _, _, _, _, planned⟩ := planned
          obtain ⟨entityField, venueField⟩ := DeviceConfiguration.fromJson_eq_ok fields
          cases planned
          rw [body_of_jsonBody read]
          dsimp only [Option.getD_some]
          rw [entityField, venueField]

theorem inventoryPostScopes_eq_named (succeeded : (inventoryDoPost ctx db request).Succeeds) :
    inventoryPostScopes ctx db request = CreationRoute.inventory.named db request := by
  unfold inventoryDoPost at succeeded
  unfold inventoryPostScopes CreationRoute.named
  cases planned : inventoryDoPostPlan ctx db request with
  | error failure =>
      rw [planned] at succeeded
      cases succeeded
  | ok result =>
      simp only [inventoryDoPostPlan, bind_eq_ok_iff, require_eq_ok_iff] at planned
      obtain ⟨_, _, _, _, _, _, body, read, record, fields, _, _, planned⟩ := planned
      obtain ⟨_, _, _, _, info, _, _, _, _, _, _, _, planned⟩ := planned
      obtain ⟨_, _, _, _, _, _, _, _, _, _, _, _, config, _, planned⟩ := planned
      cases fields
      cases planned
      rw [body_of_jsonBody read]
      rfl

/-- What a handler that succeeds creates lies where the body says. -/
theorem CreationRoute.scopes_eq_named (route : CreationRoute)
    (succeeded : (route.handle ctx.asRoot db request).Succeeds) :
    route.scopes ctx db request = route.named db request := by
  cases route with
  | entity => exact WriteRoute.entityPost.scopes_eq_named_of_asRoot succeeded
  | venue => exact WriteRoute.venuePost.scopes_eq_named_of_asRoot succeeded
  | configuration => exact configurationPostScopes_eq_named succeeded
  | managementRole => exact WriteRoute.managementRolePost.scopes_eq_named_of_asRoot succeeded
  | inventory => exact inventoryPostScopes_eq_named succeeded

end Named

section Admits

variable {db : Store} {request : Request} {scopes : List Scope} {scope : Scope}

end Admits

end Owprov
