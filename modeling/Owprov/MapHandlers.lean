import Owprov.ReferenceHandlers

/-!
# Requests for maps

A map belongs to the user who created it, and nobody else but a root user or an administrator
changes it.
-/

namespace Owprov

open RowTable

def Entity.mapsMember : VectorMember Entity where
  get entity := entity.maps
  set ids entity := { entity with maps := ids }
  get_set _ _ := rfl
  key_set _ _ := rfl

def Venue.mapsMember : VectorMember Venue where
  get venue := venue.maps
  set ids venue := { venue with maps := ids }
  get_set _ _ := rfl
  key_set _ _ := rfl

def Map.fromJson (obj : JsonObject) : Map where
  info := ObjectInfo.fromJson obj
  data := obj.stringField "data"
  entity := obj.stringField "entity"
  creator := obj.stringField "creator"
  visibility := obj.stringField "visibility" "private"
  managementPolicy := obj.stringField "managementPolicy"
  venue := obj.stringField "venue"

def validateVisibility (visibility : String) : Bool :=
  visibility == "private" || visibility == "public" || visibility == "select"

/-- The caller is the creator of a map, a root user or an administrator. -/
def requireCreator (ctx : Context) (map : Map) : Except Failure Unit :=
  require (ctx.caller.user.userRole == .root || ctx.caller.user.userRole == .admin ||
    ctx.caller.user.id == map.creator) (.unAuthorized .accessDenied)

/-- The checks of `RESTAPI_map_handler::DoPost` and the record it creates; the venue of a map
need not exist. -/
def mapDoPostPlan (ctx : Context) (db : Store) (request : Request) : Except Failure Map := do
  require (request.getBinding "uuid" != "") (.badRequest .missingUUID)
  let body ← request.jsonBody
  let newObject := Map.fromJson body
  let info ← createObjectInfo body newObject.info (ctx.newId 0)
  require (validateVisibility newObject.visibility) (.badRequest .invalidVisibilityAttribute)
  require (!body.has "entity" || emptyOrExists db.entityDB newObject.entity)
    (.badRequest .entityMustExist)
  require (!body.has "managementPolicy" || emptyOrExists db.policyDB newObject.managementPolicy)
    (.badRequest .unknownManagementPolicyUUID)
  return { newObject with info := info, creator := ctx.caller.user.id }

def mapDoPost (ctx : Context) (db : Store) (request : Request) : Outcome :=
  match mapDoPostPlan ctx db request with
  | .error failure => .fail db failure
  | .ok newObject =>
      match db.mapDB.insert? newObject with
      | none => .fail db (.internalError .recordNotCreated)
      | some mapDB =>
          let id := newObject.info.id
          .done (movePolicyUsage
            { db with
              mapDB := mapDB
              entityDB := addMembership db.entityDB Entity.mapsMember newObject.entity id
              venueDB := addMembership db.venueDB Venue.mapsMember newObject.venue id }
            "map" "" newObject.managementPolicy id)

/-- The checks of `RESTAPI_map_handler::DoPut`: the updated record and its moves.  A user who
passes the first check of the creator passes those of the visibility too. -/
def mapDoPutPlan (ctx : Context) (db : Store) (request : Request) :
    Except Failure (Map × ConfigurationMoves) := do
  let existing ← boundRecord db.mapDB request
  let body ← request.jsonBody
  let newObject := Map.fromJson body
  let info ← updateObjectInfo body existing.info
  requireCreator ctx existing
  let (fromPolicy, toPolicy, managementPolicy) ←
    createMove body "managementPolicy" existing.managementPolicy db.policyDB
      (.badRequest .entityMustExist)
  let (fromEntity, toEntity, entity) ←
    createMove body "entity" existing.entity db.entityDB (.badRequest .entityMustExist)
  let (fromVenue, toVenue, venue) ←
    createMove body "venue" existing.venue db.venueDB (.badRequest .venueMustExist)
  let data ← body.assignIfPresent "data" existing.data
  return (
    { existing with
      info := info
      data := data
      visibility := if body.has "visibility" then newObject.visibility else existing.visibility
      managementPolicy := managementPolicy
      entity := entity
      venue := venue },
    { fromPolicy, toPolicy, fromEntity, toEntity, fromVenue, toVenue })

def mapDoPut (ctx : Context) (db : Store) (request : Request) : Outcome :=
  match mapDoPutPlan ctx db request with
  | .error failure => .fail db failure
  | .ok (updated, moves) =>
      let id := updated.info.id
      .done (movePolicyUsage
        { db with
          mapDB := db.mapDB.update updated
          entityDB := manageMembership db.entityDB Entity.mapsMember moves.fromEntity
            moves.toEntity id
          venueDB := manageMembership db.venueDB Venue.mapsMember moves.fromVenue
            moves.toVenue id }
        "map" moves.fromPolicy moves.toPolicy id)

/-- The checks of `RESTAPI_map_handler::DoDelete`. -/
def mapDoDeletePlan (ctx : Context) (db : Store) (request : Request) : Except Failure Map := do
  let existing ← boundRecord db.mapDB request
  requireCreator ctx existing
  return existing

def mapDoDelete (ctx : Context) (db : Store) (request : Request) : Outcome :=
  match mapDoDeletePlan ctx db request with
  | .error failure => .fail db failure
  | .ok existing =>
      let id := existing.info.id
      .done (movePolicyUsage
        { db with
          mapDB := db.mapDB.delete id
          entityDB := removeMembership db.entityDB Entity.mapsMember existing.entity id
          venueDB := removeMembership db.venueDB Venue.mapsMember existing.venue id }
        "map" existing.managementPolicy "" id)

end Owprov
