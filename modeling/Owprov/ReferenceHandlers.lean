import Owprov.InventoryHandlers

/-!
# Policies, locations, contacts and configurations

Other records refer to policies, locations, contacts and configurations.  Policies are
written by root users only.  A location or a contact belongs to an entity, and may be deleted
by force while it is in use.
-/

namespace Owprov

open RowTable

/-- `CreateMove` where the handler keeps no record of where the reference came from. -/
def updatedReference {β : Type} [Keyed β String] (body : JsonObject) (field existing : String)
    (table : Table β) (missing : Failure) : Except Failure String := do
  let (_, _, value) ← createMove body field existing table missing
  return value

/-- The record under the id of a request. -/
def boundRecord {α : Type} [Keyed α String] (table : Table α) (request : Request) :
    Except Failure α := do
  let uuid := request.getBinding "uuid"
  require (uuid != "") .notFound
  match table.get? uuid with
  | none => throw .notFound
  | some existing => return existing

/-! ## Policies -/

/-- Full access stands for every other one. -/
def ManagementPolicyEntry.normalize (entry : ManagementPolicyEntry) : ManagementPolicyEntry :=
  if entry.access.any (icompare · "FULL") then { entry with access := ["FULL"] } else entry

def requireRoot (ctx : Context) : Except Failure Unit :=
  require (ctx.caller.user.userRole == .root) (.unAuthorized .accessDenied)

/-- The checks of `RESTAPI_managementPolicy_handler::DoPost` and the record it creates. -/
def policyDoPostPlan (ctx : Context) (db : Store) (request : Request) :
    Except Failure ManagementPolicy := do
  requireRoot ctx
  require (request.getBinding "uuid" != "") (.badRequest .missingUUID)
  let body ← request.jsonBody
  let newObject ← ManagementPolicy.fromJson body
  let info ← createObjectInfo body newObject.info (ctx.newId 0)
  require (emptyOrExists db.entityDB newObject.entity) (.badRequest .entityMustExist)
  require (emptyOrExists db.venueDB newObject.venue) (.badRequest .venueMustExist)
  return { newObject with
    info := info
    entries := newObject.entries.map ManagementPolicyEntry.normalize
    inUse := [] }

def policyDoPost (ctx : Context) (db : Store) (request : Request) : Outcome :=
  match policyDoPostPlan ctx db request with
  | .error failure => .fail db failure
  | .ok newObject =>
      match db.policyDB.insert? newObject with
      | none => .fail db (.internalError .recordNotCreated)
      | some policyDB => .done { db with policyDB := policyDB }

/-- The checks of `RESTAPI_managementPolicy_handler::DoPut` and the updated record. -/
def policyDoPutPlan (ctx : Context) (db : Store) (request : Request) :
    Except Failure ManagementPolicy := do
  requireRoot ctx
  let existing ← boundRecord db.policyDB request
  let body ← request.jsonBody
  let newPolicy ← ManagementPolicy.fromJson body
  let info ← updateObjectInfo body existing.info
  let entity ← updatedReference body "entity" existing.entity db.entityDB
    (.badRequest .entityMustExist)
  let venue ← updatedReference body "venue" existing.venue db.venueDB (.badRequest .venueMustExist)
  return { existing with
    info := info
    entity := entity
    venue := venue
    entries :=
      if body.has "entries" then newPolicy.entries.map ManagementPolicyEntry.normalize
      else existing.entries }

def policyDoPut (ctx : Context) (db : Store) (request : Request) : Outcome :=
  match policyDoPutPlan ctx db request with
  | .error failure => .fail db failure
  | .ok updated => .done { db with policyDB := db.policyDB.update updated }

/-- `RESTAPI_managementPolicy_handler::DoDelete`, which does not ask who uses the policy. -/
def policyDoDelete (ctx : Context) (db : Store) (request : Request) : Outcome :=
  match (do requireRoot ctx; boundRecord db.policyDB request) with
  | .error failure => .fail db failure
  | .ok existing => .done { db with policyDB := db.policyDB.delete existing.info.id }

/-! ## Locations and contacts -/

/-- A timezone in a body, trimmed. -/
def checkedTimezone (env : Env) (body : JsonObject) : Except Failure String :=
  match body.lookup "timezone" with
  | some (.str timezone) => do
      require (env.validTimeZone (trim timezone)) (.badRequest .invalidTimezone)
      return trim timezone
  | _ => .error (.badRequest .invalidTimezone)

/-- The timezone of a location after an update. -/
def updatedTimezone (env : Env) (body : JsonObject) (existing : String) :
    Except Failure String :=
  if body.has "timezone" then checkedTimezone env body else .ok existing

/-- Texts of a record that `AssignIfPresent` reads, of which a null one throws. -/
def checkTexts (body : JsonObject) (fields : List String) : Except Failure Unit := do
  let _texts ← fields.mapM fun field => body.assignIfPresent field ""
  return ()

/-- The checks of `RESTAPI_location_handler::DoPost` and the record it creates. -/
def locationDoPostPlan (ctx : Context) (db : Store) (request : Request) :
    Except Failure Location := do
  require (request.getBinding "uuid" != "") (.badRequest .missingUUID)
  let body ← request.getBody
  let timezone ← checkedTimezone ctx.env body
  let newObject ← Location.fromJson body
  let info ← createObjectInfo body newObject.info (ctx.newId 0)
  require (newObject.entity != "" && idExists db.entityDB newObject.entity)
    (.badRequest .entityMustExist)
  require (emptyOrExists db.policyDB newObject.managementPolicy)
    (.badRequest .unknownManagementPolicyUUID)
  return { newObject with info := info, timezone := timezone, inUse := [] }

def locationDoPost (ctx : Context) (db : Store) (request : Request) : Outcome :=
  match locationDoPostPlan ctx db request with
  | .error failure => .fail db failure
  | .ok newObject =>
      match db.locationDB.insert? newObject with
      | none => .fail db (.badRequest .recordNotCreated)
      | some locationDB =>
          .done (movePolicyUsage
            { db with
              locationDB := locationDB
              entityDB := addMembership db.entityDB Entity.locationsMember newObject.entity
                newObject.info.id }
            "loc" "" newObject.managementPolicy newObject.info.id)

/-- The policy and the entity that a location or a contact leaves and takes. -/
structure ReferenceMoves where
  fromPolicy : String
  toPolicy : String
  fromEntity : String
  toEntity : String

/-- The checks of `RESTAPI_location_handler::DoPut`: the updated record and its moves. -/
def locationDoPutPlan (ctx : Context) (db : Store) (request : Request) :
    Except Failure (Location × ReferenceMoves) := do
  let existing ← boundRecord db.locationDB request
  let body ← request.getBody
  let timezone ← updatedTimezone ctx.env body existing.timezone
  let _newObject ← Location.fromJson body
  let info ← updateObjectInfo body existing.info
  let (fromPolicy, toPolicy, managementPolicy) ←
    createMove body "managementPolicy" existing.managementPolicy db.policyDB
      (.badRequest .entityMustExist)
  let (fromEntity, toEntity, entity) ←
    createMove body "entity" existing.entity db.entityDB (.badRequest .entityMustExist)
  checkTexts body ["buildingName", "city", "state", "postal", "country", "geoCode"]
  return (
    { existing with
      info := info
      timezone := timezone
      managementPolicy := managementPolicy
      entity := entity },
    { fromPolicy, toPolicy, fromEntity, toEntity })

def locationDoPut (ctx : Context) (db : Store) (request : Request) : Outcome :=
  match locationDoPutPlan ctx db request with
  | .error failure => .fail db failure
  | .ok (updated, moves) =>
      .done (movePolicyUsage
        { db with
          locationDB := db.locationDB.update updated
          entityDB := manageMembership db.entityDB Entity.locationsMember moves.fromEntity
            moves.toEntity updated.info.id }
        "loc" moves.fromPolicy moves.toPolicy updated.info.id)

/-- The `force` parameter of a deletion. -/
def isForced (request : Request) : Bool :=
  request.getBoolParameter "force"

/-- The checks of `RESTAPI_location_handler::DoDelete`. -/
def locationDoDeletePlan (db : Store) (request : Request) : Except Failure Location := do
  let existing ← boundRecord db.locationDB request
  require (isForced request || existing.inUse.isEmpty) (.badRequest .stillInUse)
  return existing

def locationDoDelete (db : Store) (request : Request) : Outcome :=
  match locationDoDeletePlan db request with
  | .error failure => .fail db failure
  | .ok existing =>
      let id := existing.info.id
      -- the usage is moved from the id of the location, not from that of its policy
      .done (movePolicyUsage
        { db with
          locationDB := db.locationDB.delete id
          entityDB := removeMembership db.entityDB Entity.locationsMember existing.entity id }
        "loc" id "" id)

/-- The checks of `RESTAPI_contact_handler::DoPost` and the record it creates; an entity that
is named need not exist. -/
def contactDoPostPlan (ctx : Context) (db : Store) (request : Request) :
    Except Failure Contact := do
  require (request.getBinding "uuid" != "") (.badRequest .missingUUID)
  let body ← request.jsonBody
  let newObject ← Contact.fromJson body
  let info ← createObjectInfo body newObject.info (ctx.newId 0)
  require (newObject.entity != "" || idExists db.entityDB newObject.entity)
    (.badRequest .entityMustExist)
  require (emptyOrExists db.policyDB newObject.managementPolicy)
    (.badRequest .unknownManagementPolicyUUID)
  return { newObject with info := info, inUse := [] }

def contactDoPost (ctx : Context) (db : Store) (request : Request) : Outcome :=
  match contactDoPostPlan ctx db request with
  | .error failure => .fail db failure
  | .ok newObject =>
      match db.contactDB.insert? newObject with
      | none => .fail db (.internalError .recordNotCreated)
      | some contactDB =>
          .done (movePolicyUsage
            { db with
              contactDB := contactDB
              entityDB := addMembership db.entityDB Entity.contactsMember newObject.entity
                newObject.info.id }
            "con" "" newObject.managementPolicy newObject.info.id)

/-- The checks of `RESTAPI_contact_handler::DoPut`: the updated record and its moves. -/
def contactDoPutPlan (db : Store) (request : Request) :
    Except Failure (Contact × ReferenceMoves) := do
  let existing ← boundRecord db.contactDB request
  let body ← request.jsonBody
  let _newObject ← Contact.fromJson body
  let info ← updateObjectInfo body existing.info
  let (fromPolicy, toPolicy, managementPolicy) ←
    createMove body "managementPolicy" existing.managementPolicy db.policyDB
      (.badRequest .entityMustExist)
  let (fromEntity, toEntity, entity) ←
    createMove body "entity" existing.entity db.entityDB (.badRequest .entityMustExist)
  checkTexts body ["title", "salutation", "firstname", "lastname", "initials", "visual",
    "primaryEmail", "secondaryEmail", "accessPIN"]
  return (
    { existing with info := info, managementPolicy := managementPolicy, entity := entity },
    { fromPolicy, toPolicy, fromEntity, toEntity })

def contactDoPut (db : Store) (request : Request) : Outcome :=
  match contactDoPutPlan db request with
  | .error failure => .fail db failure
  | .ok (updated, moves) =>
      .done (movePolicyUsage
        { db with
          contactDB := db.contactDB.update updated
          entityDB := manageMembership db.entityDB Entity.contactsMember moves.fromEntity
            moves.toEntity updated.info.id }
        "con" moves.fromPolicy moves.toPolicy updated.info.id)

/-- The checks of `RESTAPI_contact_handler::DoDelete`. -/
def contactDoDeletePlan (db : Store) (request : Request) : Except Failure Contact := do
  let existing ← boundRecord db.contactDB request
  require (isForced request || existing.inUse.isEmpty) (.badRequest .stillInUse)
  return existing

def contactDoDelete (db : Store) (request : Request) : Outcome :=
  match contactDoDeletePlan db request with
  | .error failure => .fail db failure
  | .ok existing =>
      let id := existing.info.id
      -- as for a location, the usage is moved from the wrong id
      .done (movePolicyUsage
        { db with
          contactDB := db.contactDB.delete id
          entityDB := removeMembership db.entityDB Entity.contactsMember existing.entity id }
        "con" id "" id)

/-! ## Configurations -/

/-- The memberships and usages of a configuration, when they move. -/
structure ConfigurationMoves where
  fromPolicy : String := ""
  toPolicy : String := ""
  fromEntity : String := ""
  toEntity : String := ""
  fromVenue : String := ""
  toVenue : String := ""
  fromVariables : List String := []
  toVariables : List String := []

/-- `ManageMembership` for lists of ids. -/
def manageMemberships {α : Type} [Keyed α String] (table : Table α) (member : VectorMember α)
    (fromIds toIds : List String) (id : String) : Table α :=
  if fromIds = toIds then
    table
  else
    let removed := fromIds.foldl (fun table obj => removeMembership table member obj id) table
    toIds.foldl (fun table obj => addMembership table member obj id) removed

/-- The checks of `RESTAPI_configurations_handler::DoPut`; the configuration block of the body
is validated also where the body has none. -/
def configurationDoPutPlan (ctx : Context) (db : Store) (request : Request) :
    Except Failure (DeviceConfiguration × ConfigurationMoves) := do
  let existing ← boundRecord db.configurationDB request
  let body ← request.jsonBody
  let newObject ← DeviceConfiguration.fromJson body
  checkDeviceRules ctx.env body newObject.deviceRules
  let info ← updateObjectInfo body existing.info
  require (newObject.deviceTypes.all fun type =>
    type == "*" || ctx.env.isAcceptedDeviceType type) (.badRequest .invalidDeviceTypes)
  let validationType ← resolveValidationType request body
  require (ctx.env.configBlockError validationType newObject).isNone
    (.badRequest .configBlockInvalid)
  let (fromPolicy, toPolicy, managementPolicy) ←
    createMove body "managementPolicy" existing.managementPolicy db.policyDB
      (.badRequest .entityMustExist)
  let (fromEntity, toEntity, entity) ←
    createMove body "entity" existing.entity db.entityDB (.badRequest .entityMustExist)
  let (fromVenue, toVenue, venue) ←
    createMove body "venue" existing.venue db.venueDB (.badRequest .venueMustExist)
  require (!body.has "variables" ||
    newObject.variables.all (emptyOrExists db.variablesDB)) (.badRequest .variableMustExist)
  let (fromVariables, toVariables, «variables») :=
    if body.has "variables" then (existing.variables, newObject.variables, newObject.variables)
    else ([], [], existing.variables)
  return (
    { existing with
      info := info
      deviceTypes :=
        if newObject.deviceTypes.isEmpty then existing.deviceTypes else newObject.deviceTypes
      configuration :=
        if body.has "configuration" then newObject.configuration else existing.configuration
      managementPolicy := managementPolicy
      entity := entity
      venue := venue
      «variables» := «variables»
      deviceRules :=
        if body.has "deviceRules" then newObject.deviceRules else existing.deviceRules },
    { fromPolicy, toPolicy, fromEntity, toEntity, fromVenue, toVenue, fromVariables, toVariables })

/-- The calls of `ManageMembership` and `MoveUsage` after a configuration was stored. -/
def moveConfiguration (db : Store) (moves : ConfigurationMoves) (id : String) : Store :=
  movePolicyUsage
    { db with
      variablesDB := manageMemberships db.variablesDB VariableBlock.configurationsMember
        moves.fromVariables moves.toVariables id
      venueDB := manageMembership db.venueDB Venue.configurationsMember moves.fromVenue
        moves.toVenue id
      entityDB := manageMembership db.entityDB Entity.configurationsMember moves.fromEntity
        moves.toEntity id }
    "cfg" moves.fromPolicy moves.toPolicy id

def configurationDoPut (ctx : Context) (db : Store) (request : Request) : Outcome :=
  match configurationDoPutPlan ctx db request with
  | .error failure => .fail db failure
  | .ok (updated, moves) =>
      .done (moveConfiguration { db with configurationDB := db.configurationDB.update updated }
        moves updated.info.id)

/-- The checks of `RESTAPI_configurations_handler::DoDelete`. -/
def configurationDoDeletePlan (db : Store) (request : Request) :
    Except Failure DeviceConfiguration := do
  let existing ← boundRecord db.configurationDB request
  require existing.inUse.isEmpty (.badRequest .stillInUse)
  return existing

def configurationDoDelete (db : Store) (request : Request) : Outcome :=
  match configurationDoDeletePlan db request with
  | .error failure => .fail db failure
  | .ok existing =>
      let id := existing.info.id
      .done (moveConfiguration { db with configurationDB := db.configurationDB.delete id }
        { fromPolicy := existing.managementPolicy
          fromEntity := existing.entity
          fromVenue := existing.venue
          fromVariables := existing.variables } id)

end Owprov
