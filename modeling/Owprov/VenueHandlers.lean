import Owprov.Handler
import Owprov.Hierarchy

/-!
# The venue handler

A venue is created under a venue or under an entity.  An update may give it another
entity and another parent venue, each named by its own field of the body, and writes the
lists on both sides of each link.
-/

namespace Owprov

open RowTable

/-! ## Inline locations -/

/-- The check of the name of an inline location against the present location. -/
def checkInlineName (db : Store) (present : String) : Option Json → Except String Unit
  | none => .ok ()
  | some (.str name) =>
      if trim name = "" ∨ present = "" then
        .ok ()
      else
        match db.locationDB.get? present with
        | none => .error "Could not load location record"
        | some existing =>
            if existing.info.name = trim name then .error "Location name already exists"
            else .ok ()
  | some _ => .error "Invalid name in createObjects.location"

/-- The inline location of a venue whose present location is given, its timezone trimmed. -/
def inlineLocation (env : Env) (db : Store) (request : Request) (body : JsonObject)
    (present : String) : Except String (Option Location) := do
  match ← createObjectsItem request body with
  | none => return none
  | some item =>
      if item.has "location" = false then
        throw "Invalid JSON document: item in createObjects.objects must contain location"
      match item.getObject? "location" with
      | none => throw "Invalid JSON document: location in createObjects must be a JSON object"
      | some fields =>
          if body.has "location" then
            throw "Cannot specify both location and createObjects.location"
          checkInlineName db present (fields.lookup "name")
          match fields.lookup "timezone" with
          | some (.str timezone) =>
              if env.validTimeZone (trim timezone) = false then
                throw "Invalid timezone identifier in createObjects.location"
              match Location.fromJson (("timezone", .str (trim timezone)) :: fields) with
              | .error _ => throw "Invalid JSON document"
              | .ok location => return some location
          | _ => throw "Invalid timezone identifier in createObjects.location"

/-- The inline location as it is stored: with a new id and the entity above the venue. -/
def placeInlineLocation (db : Store) (newObject : Venue) (location : Location) (newId : String) :
    Except Failure Location :=
  match findParentEntity db (db.venueFuel + 1) newObject with
  | none => .error .noAnswer
  | some parentEntity =>
      .ok { location with info := { location.info with id := newId }, entity := parentEntity }

/-- `CreateObjects` for a venue: the location that is to be stored, if any. -/
def createVenueObjects (ctx : Context) (db : Store) (request : Request) (body : JsonObject)
    (newObject : Venue) (newId : String) : Except Failure (Option Location) :=
  match inlineLocation ctx.env db request body newObject.location with
  | .error error => .error (createObjectsFailure error)
  | .ok none => .ok none
  | .ok (some location) => (placeInlineLocation db newObject location newId).map some

/-- The inline location is stored and listed at its entity. -/
def storeInlineLocation (db : Store) : Option Location → Except Failure Store
  | none => .ok db
  | some location =>
      match db.locationDB.insert? location with
      | none => .error (createObjectsFailure "Could not create inline location")
      | some locationDB =>
          .ok { db with
            locationDB := locationDB
            entityDB := addMembership db.entityDB Entity.locationsMember location.entity
              location.info.id }

/-! ## Creation -/

/-- `VenueDB::DoesVenueNameAlreadyExist`, which pastes the texts into the statement. -/
def doesVenueNameAlreadyExist (env : Env) (db : Store) (name entityUUID parentUUID : String) :
    Bool :=
  let scope := if entityUUID ≠ "" then "entity='" ++ entityUUID else "parent='" ++ parentUUID
  if breaksStatement (entityUUID ++ parentUUID ++ name) then
    env.countsQuoted db ("select count(*) from venues where " ++ scope ++
      "' and upper(name)='" ++ toUpper name ++ "'")
  else
    db.venueDB.rows.any fun venue =>
      (if entityUUID ≠ "" then venue.entity == entityUUID else venue.parent == parentUUID) &&
        toUpper venue.info.name == toUpper name

/-- The entity of a new venue: that of its parent venue, else its own. -/
def newVenueEntity (db : Store) (newObject : Venue) : Except Failure String :=
  if newObject.parent = "" then
    .ok newObject.entity
  else
    match db.venueDB.get? newObject.parent with
    | none => .error (.badRequest .venueMustExist)
    | some parentVenue => .ok parentVenue.entity

/-- The checks of `RESTAPI_venue_handler::DoPost`: the record and its inline location. -/
def venueDoPostPlan (ctx : Context) (db : Store) (request : Request) :
    Except Failure (Venue × Option Location) := do
  require (request.getBinding "uuid" != "") (.badRequest .missingUUID)
  let body ← request.jsonBody
  let newObject ← Venue.fromJson body
  checkDeviceRules ctx.env body newObject.deviceRules
  let info ← createObjectInfo body newObject.info (ctx.newId 0)
  require (newObject.parent != "" || newObject.entity != "")
    (.badRequest .parentOrEntityMustBeSet)
  require (newObject.parent == "" || newObject.entity == "") (.badRequest .notBoth)
  let entity ← newVenueEntity db newObject
  require (entity != rootUUID) (.badRequest .validNonRootUUID)
  require (emptyOrExists db.entityDB entity) (.badRequest .entityMustExist)
  require (!doesVenueNameAlreadyExist ctx.env db info.name entity newObject.parent)
    (.badRequest .venuesNameAlreadyExists)
  require (newObject.contacts.all (idExists db.contactDB)) (.badRequest .contactMustExist)
  require (emptyOrExists db.locationDB newObject.location) (.badRequest .locationMustExist)
  require (emptyOrExists db.policyDB newObject.managementPolicy)
    (.badRequest .unknownManagementPolicyUUID)
  require (newObject.deviceConfiguration.all (idExists db.configurationDB))
    (.badRequest .unknownManagementPolicyUUID)
  require (newObject.sourceIP.isEmpty || ctx.env.validateIpRanges newObject.sourceIP)
    (.badRequest .invalidIPRanges)
  let checked : Venue := { newObject with info := info, entity := entity, children := [] }
  let location ← createVenueObjects ctx db request body checked (ctx.newId 1)
  let placed := (location.map fun location => location.info.id).getD checked.location
  return ({ checked with location := placed }, location)

/-- The usages and memberships of a venue, when they move from one value to another. -/
structure VenueMoves where
  fromEntity : String := ""
  toEntity : String := ""
  fromVenue : String := ""
  toVenue : String := ""
  fromLocation : String := ""
  toLocation : String := ""
  fromPolicy : String := ""
  toPolicy : String := ""
  fromContacts : List String := []
  toContacts : List String := []
  fromConfigurations : List String := []
  toConfigurations : List String := []
  deriving DecidableEq, Repr

/-- The moves of a new venue, which come from nowhere. -/
def Venue.arrivals (venue : Venue) : VenueMoves where
  toEntity := venue.entity
  toVenue := venue.parent
  toLocation := venue.location
  toPolicy := venue.managementPolicy
  toContacts := venue.contacts
  toConfigurations := venue.deviceConfiguration

/-- The calls of `MoveUsage` and `ManageMembership` after a venue was stored. -/
def moveVenue (db : Store) (moves : VenueMoves) (id : String) : Store :=
  { db with
    contactDB := moveUsages db.contactDB Contact.inUseMember "ven" moves.fromContacts
      moves.toContacts id
    locationDB := moveUsage db.locationDB Location.inUseMember "ven" moves.fromLocation
      moves.toLocation id
    policyDB := moveUsage db.policyDB ManagementPolicy.inUseMember "ven" moves.fromPolicy
      moves.toPolicy id
    entityDB := manageMembership db.entityDB Entity.venuesMember moves.fromEntity moves.toEntity id
    venueDB := manageMembership db.venueDB Venue.childrenMember moves.fromVenue moves.toVenue id
    configurationDB := moveUsages db.configurationDB DeviceConfiguration.inUseMember "ven"
      moves.fromConfigurations moves.toConfigurations id }

@[simp]
theorem moveVenue_entityDB (db : Store) (moves : VenueMoves) (id : String) :
    (moveVenue db moves id).entityDB =
      manageMembership db.entityDB Entity.venuesMember moves.fromEntity moves.toEntity id := rfl

@[simp]
theorem moveVenue_venueDB (db : Store) (moves : VenueMoves) (id : String) :
    (moveVenue db moves id).venueDB =
      manageMembership db.venueDB Venue.childrenMember moves.fromVenue moves.toVenue id := rfl

def venueDoPost (ctx : Context) (db : Store) (request : Request) : Outcome :=
  match venueDoPostPlan ctx db request with
  | .error failure => .fail db failure
  | .ok (newObject, location) =>
      match storeInlineLocation db location with
      | .error failure => .fail db failure
      | .ok located =>
          match located.venueDB.insert? newObject with
          | none => .fail located (.internalError .recordNotCreated)
          | some venueDB =>
              let id := newObject.info.id
              let (stored, roleStored) :=
                autoCreateCreatorRole ctx
                  (moveVenue { located with venueDB := venueDB } newObject.arrivals id)
                  newObject.entity id newObject.entity newObject.parent (ctx.newId 2)
              if roleStored then
                .done stored
              else
                .fail { stored with venueDB := stored.venueDB.delete id }
                  (.internalError .recordNotCreated)

/-! ## Update -/

/-- A reference that the body may replace by one to an existing record: the values it
moves from and to, and its value afterwards. -/
def requiredMove {β : Type} [Keyed β String] (body : JsonObject) (field : String)
    (existing : String) (table : Table β) (missing : Errors) :
    Except Failure (String × String × String) := do
  if body.has field then
    let moveTo ← body.getString field
    require (moveTo != "" && idExists table moveTo) (.badRequest missing)
    return (existing, moveTo, moveTo)
  else
    return ("", "", existing)

/-- The contacts of a venue, when the body replaces them. -/
def contactsMove (db : Store) (body : JsonObject) (newContacts existing : List String) :
    Except Failure (List String × List String × List String) := do
  match body.getArray? "contacts" with
  | none => return ([], [], existing)
  | some items =>
      let moveTo ← items.mapM Json.toString
      require (newContacts.all (idExists db.contactDB)) (.badRequest .contactMustExist)
      return (existing, moveTo, moveTo)

/-- The configurations of a venue, when the body replaces them. -/
def configurationsMove (db : Store) (body : JsonObject)
    (newConfigurations existing : List String) :
    Except Failure (List String × List String × List String) := do
  if body.has "deviceConfiguration" then
    require (newConfigurations.all (idExists db.configurationDB))
      (.badRequest .configurationMustExist)
    return (existing, newConfigurations, newConfigurations)
  else
    return ([], [], existing)

/-- The update of a venue: the record, the moves that follow it and its inline location. -/
structure VenueUpdate where
  updated : Venue
  moves : VenueMoves
  location : Option Location

/-- The checks of `RESTAPI_venue_handler::DoPut` after the commands, for an existing venue. -/
def venueDoPutPlan (ctx : Context) (db : Store) (request : Request) (existing : Venue) :
    Except Failure VenueUpdate := do
  let body ← request.jsonBody
  let newObject ← Venue.fromJson body
  checkDeviceRules ctx.env body newObject.deviceRules
  let info ← updateObjectInfo body existing.info
  require (!body.has "sourceIP" || newObject.sourceIP.isEmpty ||
    ctx.env.validateIpRanges newObject.sourceIP) (.badRequest .invalidIPRanges)
  let (fromEntity, toEntity, entity) ←
    requiredMove body "entity" existing.entity db.entityDB .entityMustExist
  let (fromVenue, toVenue, parent) ←
    requiredMove body "venue" existing.parent db.venueDB .venueMustExist
  let (fromLocation, toLocation, location) ←
    createMove body "location" existing.location db.locationDB (.badRequest .locationMustExist)
  let (fromContacts, toContacts, contacts) ←
    contactsMove db body newObject.contacts existing.contacts
  let (fromPolicy, toPolicy, managementPolicy) ←
    requiredMove body "managementPolicy" existing.managementPolicy db.policyDB
      .unknownManagementPolicyUUID
  let (fromConfigurations, toConfigurations, deviceConfiguration) ←
    configurationsMove db body newObject.deviceConfiguration existing.deviceConfiguration
  let inline ← createVenueObjects ctx db request body
    { newObject with parent := parent, entity := entity, location := location } (ctx.newId 0)
  let updated : Venue :=
    { existing with
      info := info
      deviceRules := if body.has "deviceRules" then newObject.deviceRules else existing.deviceRules
      sourceIP := if body.has "sourceIP" then newObject.sourceIP else existing.sourceIP
      entity := entity
      parent := parent
      location := (inline.map fun created => created.info.id).getD location
      contacts := contacts
      managementPolicy := managementPolicy
      deviceConfiguration := deviceConfiguration
      boards := if body.has "boards" then newObject.boards else existing.boards }
  let moves : VenueMoves :=
    { fromEntity, toEntity, fromVenue, toVenue
      fromLocation := if inline.isSome then location else fromLocation
      toLocation := (inline.map fun created => created.info.id).getD toLocation
      fromPolicy, toPolicy, fromContacts, toContacts, fromConfigurations, toConfigurations }
  return { updated, moves, location := inline }

/-- The commands of a venue update, which start jobs and leave the database alone. -/
def venueCommand (request : Request) : Option (Except Failure Unit) :=
  if request.getBoolParameter "testUpdateOnly" || request.getBoolParameter "updateAllDevices" then
    some (.ok ())
  else if request.getBoolParameter "upgradeAllDevices" then
    some (require (request.getBoolParameter "revisionsAvailable" ||
      request.getParameter "revision" != "") (.badRequest .missingOrInvalidParameters))
  else if request.getBoolParameter "rebootAllDevices" then
    some (.ok ())
  else
    none

/-- The writes of a venue update. -/
def venueDoPutCommit (db : Store) (update : VenueUpdate) : Outcome :=
  match storeInlineLocation db update.location with
  | .error failure => .fail db failure
  | .ok located =>
      .done (moveVenue { located with venueDB := located.venueDB.update update.updated }
        update.moves update.updated.info.id)

def venueDoPut (ctx : Context) (db : Store) (request : Request) : Outcome :=
  let uuid := request.getBinding "uuid"
  match if uuid = "" then none else db.venueDB.get? uuid with
  | none => .fail db .notFound
  | some existing =>
      match venueCommand request with
      | some result => { store := db, result := result }
      | none =>
          match venueDoPutPlan ctx db request existing with
          | .error failure => .fail db failure
          | .ok update => venueDoPutCommit db update

/-! ## Deletion -/

/-- The checks of `RESTAPI_venue_handler::DoDelete`. -/
def venueDoDeletePlan (db : Store) (request : Request) : Except Failure Venue := do
  let uuid := request.getBinding "uuid"
  match db.venueDB.get? uuid with
  | none => throw .notFound
  | some existing =>
      require (uuid != "") .notFound
      require (existing.children.isEmpty && existing.devices.isEmpty) (.badRequest .stillInUse)
      require (existing.subscriber == "") (.badRequest .venueDeleteRequiresSubscriberApi)
      return existing

/-- The moves of a deleted venue, which lead nowhere. -/
def Venue.departures (venue : Venue) : VenueMoves where
  fromEntity := venue.entity
  fromVenue := venue.parent
  fromLocation := venue.location
  fromPolicy := venue.managementPolicy
  fromContacts := venue.contacts
  fromConfigurations := venue.deviceConfiguration

def venueDoDelete (db : Store) (request : Request) : Outcome :=
  match venueDoDeletePlan db request with
  | .error failure => .fail db failure
  | .ok existing =>
      let id := existing.info.id
      let released := moveVenue db existing.departures id
      let cleaned := deleteScopeRoles released fun role => role.venue == id
      .done { cleaned with venueDB := cleaned.venueDB.delete id }

/-! ## What the checks establish -/

theorem newVenueEntity_eq_ok {db : Store} {newObject : Venue} {entity : String}
    (found : newVenueEntity db newObject = .ok entity) :
    newObject.parent = "" ∨
      ∃ parent, db.venueDB.get? newObject.parent = some parent ∧ parent.entity = entity := by
  unfold newVenueEntity at found
  split at found
  · exact Or.inl ‹_›
  · split at found
    · cases found
    · rename_i parentVenue isParent
      cases found
      exact Or.inr ⟨parentVenue, isParent, rfl⟩

theorem venueDoPostPlan_eq_ok {ctx : Context} {db : Store} {request : Request} {venue : Venue}
    {location : Option Location}
    (planned : venueDoPostPlan ctx db request = .ok (venue, location)) :
    venue.info.id = ctx.newId 0 ∧ venue.children = [] ∧
      (venue.parent = "" ∨ idExists db.venueDB venue.parent = true) := by
  simp only [venueDoPostPlan, bind_eq_ok_iff, require_eq_ok_iff] at planned
  obtain ⟨_, _, body, _, newObject, _, _, _, info, created, _, _, _, _, entity, placed, planned⟩ :=
    planned
  obtain ⟨_, _, _, _, _, _, _, _, _, _, _, _, _, _, _, _, inline, _, planned⟩ := planned
  have parentFound := newVenueEntity_eq_ok placed
  cases planned
  refine ⟨createObjectInfo_eq_ok created, rfl, parentFound.imp_right ?_⟩
  rintro ⟨parent, isParent, _⟩
  exact idExists_iff.mpr ⟨parent, isParent⟩

/-- A new venue belongs to an existing entity, the one of its parent. -/
theorem entity_of_venueDoPostPlan {ctx : Context} {db : Store} {request : Request} {venue : Venue}
    {location : Option Location}
    (planned : venueDoPostPlan ctx db request = .ok (venue, location)) :
    (venue.entity = "" ∨ idExists db.entityDB venue.entity = true) ∧
      (venue.parent = "" ∨
        ∃ parent, db.venueDB.get? venue.parent = some parent ∧ parent.entity = venue.entity) := by
  simp only [venueDoPostPlan, bind_eq_ok_iff, require_eq_ok_iff] at planned
  obtain ⟨_, _, body, _, newObject, _, _, _, info, created, _, _, _, _, entity, placed, planned⟩ :=
    planned
  obtain ⟨_, _, _, entityFound, _, _, _, _, _, _, _, _, _, _, _, _, inline, _, planned⟩ := planned
  have parentFound := newVenueEntity_eq_ok placed
  cases planned
  exact ⟨by simpa [emptyOrExists] using entityFound, parentFound⟩

/-- What an optional or required move of a reference amounts to. -/
theorem requiredMove_eq_ok {β : Type} [Keyed β String] {body : JsonObject}
    {field existing : String} {table : Table β} {missing : Errors} {fromId toId value : String}
    (moved : requiredMove body field existing table missing = .ok (fromId, toId, value)) :
    (body.has field = false ∧ fromId = "" ∧ toId = "" ∧ value = existing) ∨
      (body.has field = true ∧ body.getString field = .ok value ∧ fromId = existing ∧
        toId = value ∧ value ≠ "" ∧ idExists table value = true) := by
  unfold requiredMove at moved
  split at moved
  · rename_i present
    simp only [bind_eq_ok_iff, require_eq_ok_iff, Bool.and_eq_true] at moved
    obtain ⟨moveTo, read, _, ⟨filled, existsInTable⟩, built⟩ := moved
    cases built
    exact Or.inr ⟨present, read, rfl, rfl, by simpa using filled, existsInTable⟩
  · rename_i absent
    cases moved
    exact Or.inl ⟨by simpa using absent, rfl, rfl, rfl⟩

theorem requiredMove_toId {β : Type} [Keyed β String] {body : JsonObject}
    {field existing : String} {table : Table β} {missing : Errors} {fromId toId value : String}
    (moved : requiredMove body field existing table missing = .ok (fromId, toId, value)) :
    toId = body.stringField field := by
  rcases requiredMove_eq_ok moved with ⟨absent, _, rfl, _⟩ | ⟨_, read, _, rfl, _, _⟩
  · exact (stringField_of_has absent).symm
  · exact (stringField_of_getString read).symm

theorem venueDoPutPlan_eq_ok {ctx : Context} {db : Store} {request : Request} {existing : Venue}
    {update : VenueUpdate} (planned : venueDoPutPlan ctx db request existing = .ok update) :
    ∃ body, request.body = some body ∧
      update.updated.info.id = existing.info.id ∧
      update.updated.children = existing.children ∧
      requiredMove body "entity" existing.entity db.entityDB .entityMustExist =
        .ok (update.moves.fromEntity, update.moves.toEntity, update.updated.entity) ∧
      requiredMove body "venue" existing.parent db.venueDB .venueMustExist =
        .ok (update.moves.fromVenue, update.moves.toVenue, update.updated.parent) := by
  simp only [venueDoPutPlan, bind_eq_ok_iff, require_eq_ok_iff] at planned
  obtain ⟨body, read, newObject, _, _, _, info, updated, _, _, entityMove, entityMoved,
    planned⟩ := planned
  obtain ⟨venueMove, venueMoved, locationMove, _, contactsMove, _, policyMove, _, configMove, _,
    inline, _, planned⟩ := planned
  cases planned
  exact ⟨body, body_of_jsonBody read, updateObjectInfo_eq_ok updated, rfl, entityMoved,
    venueMoved⟩

theorem venueDoDeletePlan_eq_ok {db : Store} {request : Request} {existing : Venue}
    (planned : venueDoDeletePlan db request = .ok existing) :
    db.venueDB.get? existing.info.id = some existing ∧ existing.children = [] := by
  unfold venueDoDeletePlan at planned
  dsimp only at planned
  split at planned
  · cases planned
  · rename_i found
    simp only [bind_eq_ok_iff, require_eq_ok_iff, Bool.and_eq_true, List.isEmpty_iff] at planned
    obtain ⟨_, _, _, ⟨leaf, _⟩, _, _, planned⟩ := planned
    cases planned
    have id : existing.info.id = request.getBinding "uuid" := Table.key_of_get? found
    rw [id]
    exact ⟨found, leaf⟩

theorem storeInlineLocation_eq_ok {db located : Store} {location : Option Location}
    (stored : storeInlineLocation db location = .ok located) :
    located.venueDB = db.venueDB ∧ located.rolesDB = db.rolesDB ∧
      (located.entityDB = db.entityDB ∨
        ∃ entity id, located.entityDB =
          addMembership db.entityDB Entity.locationsMember entity id) := by
  unfold storeInlineLocation at stored
  split at stored
  · cases stored
    exact ⟨rfl, rfl, Or.inl rfl⟩
  · split at stored
    · cases stored
    · cases stored
      exact ⟨rfl, rfl, Or.inr ⟨_, _, rfl⟩⟩

/-! ## What the handlers do -/

/-- A new venue is stored and linked, as its plan says. -/
structure VenueCreated (ctx : Context) (db : Store) (request : Request) (venue : Venue)
    (location : Option Location) (located : Store) (venueDB : Table Venue) : Prop where
  planned : venueDoPostPlan ctx db request = .ok (venue, location)
  stored : storeInlineLocation db location = .ok located
  inserted : located.venueDB.insert? venue = some venueDB
  outcome : venueDoPost ctx db request =
    .done (autoCreateCreatorRole ctx
      (moveVenue { located with venueDB := venueDB } venue.arrivals venue.info.id)
      venue.entity venue.info.id venue.entity venue.parent (ctx.newId 2)).1

/-- A creation is refused, or carries out its plan. -/
theorem venueDoPost_cases {ctx : Context} {db : Store} (fresh : ctx.Fresh db)
    (request : Request) :
    (venueDoPost ctx db request).store = db ∨
      ∃ venue location located venueDB,
        VenueCreated ctx db request venue location located venueDB := by
  cases planned : venueDoPostPlan ctx db request with
  | error failure =>
      rw [venueDoPost, planned]
      exact Or.inl rfl
  | ok plan =>
      obtain ⟨venue, location⟩ := plan
      cases stored : storeInlineLocation db location with
      | error failure =>
          simp only [venueDoPost, planned, stored]
          exact Or.inl rfl
      | ok located =>
          obtain ⟨sameVenues, sameRoles, _⟩ := storeInlineLocation_eq_ok stored
          have free : located.venueDB.get? (key venue) = none := by
            obtain ⟨id, _, _⟩ := venueDoPostPlan_eq_ok planned
            rw [sameVenues, show key venue = venue.info.id from rfl, id]
            exact fresh.venue 0
          obtain ⟨venueDB, inserted⟩ := Table.insert?_isSome free
          refine Or.inr ⟨venue, location, located, venueDB, planned, stored, inserted, ?_⟩
          have roleFresh : (moveVenue { located with venueDB := venueDB } venue.arrivals
              venue.info.id).rolesDB.get? (ctx.newId 2) = none :=
            (congrArg (fun table => table.get? (ctx.newId 2)) sameRoles).trans (fresh.role 2)
          simp only [venueDoPost, planned, stored, inserted]
          rw [if_pos (autoCreateCreatorRole_snd roleFresh)]

/-- A deletion is refused, or removes the venue and its roles. -/
theorem venueDoDelete_cases (db : Store) (request : Request) :
    (venueDoDelete db request).store = db ∨
      ∃ existing, venueDoDeletePlan db request = .ok existing ∧
        (venueDoDelete db request).store =
          let cleaned := deleteScopeRoles (moveVenue db existing.departures existing.info.id)
            fun role => role.venue == existing.info.id
          { cleaned with venueDB := cleaned.venueDB.delete existing.info.id } := by
  unfold venueDoDelete
  split
  · exact Or.inl rfl
  · rename_i existing planned
    exact Or.inr ⟨existing, planned, rfl⟩

/-- An update stores a record under its id, and moves what the plan says. -/
structure VenueUpdated (ctx : Context) (db : Store) (request : Request) (existing : Venue)
    (update : VenueUpdate) (located : Store) : Prop where
  found : db.venueDB.get? (request.getBinding "uuid") = some existing
  planned : venueDoPutPlan ctx db request existing = .ok update
  stored : storeInlineLocation db update.location = .ok located
  outcome : venueDoPut ctx db request =
    .done (moveVenue { located with venueDB := located.venueDB.update update.updated }
      update.moves update.updated.info.id)

/-- A venue update is a command, or fails, or carries out its plan. -/
theorem venueDoPut_cases (ctx : Context) (db : Store) (request : Request) :
    ((venueDoPut ctx db request).store = db ∧
      ((venueCommand request).isSome ∨ ¬ (venueDoPut ctx db request).Succeeds)) ∨
      (venueCommand request = none ∧
        ∃ existing update located, VenueUpdated ctx db request existing update located) := by
  unfold venueDoPut
  dsimp only
  split
  · exact Or.inl ⟨rfl, Or.inr (by rintro ⟨⟩)⟩
  · rename_i existing isExisting
    have found : db.venueDB.get? (request.getBinding "uuid") = some existing := by
      split at isExisting
      · cases isExisting
      · exact isExisting
    split
    · rename_i command
      exact Or.inl ⟨rfl, Or.inl (by simp [command])⟩
    · rename_i plain
      split
      · exact Or.inl ⟨rfl, Or.inr (by rintro ⟨⟩)⟩
      · rename_i update planned
        cases stored : storeInlineLocation db update.location with
        | error failure =>
            simp only [venueDoPutCommit, stored]
            exact Or.inl ⟨rfl, Or.inr (by rintro ⟨⟩)⟩
        | ok located =>
            refine Or.inr ⟨plain, existing, update, located, found, planned, stored, ?_⟩
            have named : ¬ request.getBinding "uuid" = "" := by
              intro blank
              rw [if_pos blank] at isExisting
              cases isExisting
            simp only [venueDoPut, if_neg named, found, plain, planned, venueDoPutCommit, stored]

namespace VenueUpdated

variable {ctx : Context} {db located : Store} {request : Request} {existing : Venue}
    {update : VenueUpdate}

theorem id_eq (updated : VenueUpdated ctx db request existing update located) :
    update.updated.info.id = request.getBinding "uuid" := by
  obtain ⟨_, _, id, _⟩ := venueDoPutPlan_eq_ok updated.planned
  exact id.trans (Table.key_of_get? updated.found)

theorem foundLocated (updated : VenueUpdated ctx db request existing update located) :
    located.venueDB.get? (key update.updated) = some existing := by
  obtain ⟨venueDB, _, _⟩ := storeInlineLocation_eq_ok updated.stored
  rw [venueDB, show key update.updated = update.updated.info.id from rfl, updated.id_eq,
    updated.found]

end VenueUpdated

end Owprov
