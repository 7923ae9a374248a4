import Owprov.Handler

/-!
# The inventory and configuration handlers

A device is entered into the inventory under a venue or an entity, and an update may move
it.  A configuration belongs to an entity, a venue, or nothing.
-/

namespace Owprov

open RowTable

/-! ## Serial numbers -/

/-- `NormalizeMac`: the text afterwards and whether it is a MAC address. -/
def normalizeMac (mac : String) : String × Bool :=
  let stripped := mac.toList.filter fun c => !(c == ':' || c == '-')
  let isHex := fun c : Char => c.isDigit || ('a' ≤ c.toLower && c.toLower ≤ 'f')
  if stripped.length = 12 ∧ stripped.all isHex = true then
    (toLower (String.ofList stripped), true)
  else
    (String.ofList stripped, false)

/-- `Utils::ValidSerialNumber`. -/
def validSerialNumber (serial : String) : Bool :=
  serial.length < 30 &&
    serial.toList.all fun c => c.isDigit || ('a' ≤ c.toLower && c.toLower ≤ 'f')

/-- `DeviceClass::Validate`. -/
def validDeviceClass (devClass : String) : Bool :=
  ["any", "entity", "subscriber", "venue"].contains devClass

/-! ## Inline configurations -/

/-- `CreateObjects` for a device: the configuration that is to be stored, if any. -/
def inlineConfiguration (env : Env) (request : Request) (body : JsonObject) (platform : String) :
    Except String (Option DeviceConfiguration) := do
  match ← createObjectsItem request body with
  | none => return none
  | some item =>
      if item.has "configuration" = false then
        throw "Invalid JSON document: item in createObjects.objects must contain configuration"
      match item.getObject? "configuration" with
      | none => throw "Invalid JSON document: configuration in createObjects must be a JSON object"
      | some fields =>
          if body.has "deviceConfiguration" then
            throw "Cannot specify both deviceConfiguration and createObjects.configuration"
          match DeviceConfiguration.fromJson fields with
          | .error _ => throw "Invalid JSON document"
          | .ok config =>
              match env.configBlockError (.ofText platform) config with
              | some error => throw error
              | none => return some config

def createTagObjects (ctx : Context) (request : Request) (body : JsonObject) (platform newId : String) :
    Except Failure (Option DeviceConfiguration) :=
  match inlineConfiguration ctx.env request body platform with
  | .error error => .error (createObjectsFailure error)
  | .ok none => .ok none
  | .ok (some config) => .ok (some { config with info := { config.info with id := newId } })

/-- The inline configuration is stored. -/
def storeInlineConfiguration (db : Store) : Option DeviceConfiguration → Except Failure Store
  | none => .ok db
  | some config =>
      match db.configurationDB.insert? config with
      | none => .error (createObjectsFailure "Could not create inline configuration")
      | some configurationDB => .ok { db with configurationDB := configurationDB }

/-! ## Inventory -/

/-- A new device is not entered into a venue that belongs to a subscriber. -/
def venueTakesDevices (db : Store) (venue : String) : Except Failure Unit :=
  if venue = "" then
    .ok ()
  else
    match db.venueDB.get? venue with
    | none => .error (.badRequest .venueMustExist)
    | some record =>
        require (record.subscriber == "") (.badRequest .venueAddDeviceRequiresSubscriberApi)

/-- The checks of `RESTAPI_inventory_handler::DoPost`: the tag and its inline configuration. -/
def inventoryDoPostPlan (ctx : Context) (db : Store) (request : Request) :
    Except Failure (InventoryTag × Option DeviceConfiguration) := do
  let bound := toLower (request.getBinding "serialNumber")
  require (bound != "") (.badRequest .missingSerialNumber)
  let (serialNumber, isMac) := normalizeMac bound
  require isMac (.badRequest .invalidSerialNumber)
  require (getBy db.inventoryDB InventoryTag.serialNumber serialNumber).isNone
    (.badRequest .serialNumberExists)
  let body ← request.jsonBody
  let newObject ← InventoryTag.fromJson body
  require (serialNumber == (normalizeMac newObject.serialNumber).1)
    (.badRequest .serialNumberMismatch)
  checkDeviceRules ctx.env body newObject.deviceRules
  require (validDeviceClass newObject.devClass) (.badRequest .invalidDeviceClass)
  let info ← createObjectInfo body newObject.info (ctx.newId 0)
  require (newObject.deviceType != "" && ctx.env.isAcceptedDeviceType newObject.deviceType)
    (.badRequest .invalidDeviceTypes)
  require (newObject.entity != rootUUID && emptyOrExists db.entityDB newObject.entity)
    (.badRequest .validNonRootUUID)
  require (emptyOrExists db.venueDB newObject.venue) (.badRequest .venueMustExist)
  venueTakesDevices db newObject.venue
  require (newObject.venue == "" || newObject.entity == "") (.badRequest .notBoth)
  require (emptyOrExists db.locationDB newObject.location) (.badRequest .locationMustExist)
  require (emptyOrExists db.contactDB newObject.contact) (.badRequest .contactMustExist)
  require (emptyOrExists db.configurationDB newObject.deviceConfiguration)
    (.badRequest .configurationMustExist)
  require (emptyOrExists db.policyDB newObject.managementPolicy)
    (.badRequest .unknownManagementPolicyUUID)
  let config ← createTagObjects ctx request body newObject.platform (ctx.newId 1)
  return ({ newObject with
    info := info
    serialNumber := serialNumber
    deviceConfiguration :=
      (config.map fun created => created.info.id).getD newObject.deviceConfiguration }, config)

/-- The usages and memberships of a device, when they move from one value to another. -/
structure TagMoves where
  fromPolicy : String := ""
  toPolicy : String := ""
  fromLocation : String := ""
  toLocation : String := ""
  fromContact : String := ""
  toContact : String := ""
  fromConfiguration : String := ""
  toConfiguration : String := ""
  fromEntity : String := ""
  toEntity : String := ""
  fromVenue : String := ""
  toVenue : String := ""
  deriving DecidableEq, Repr

/-- The moves of a new device, which come from nowhere. -/
def InventoryTag.arrivals (tag : InventoryTag) : TagMoves where
  toPolicy := tag.managementPolicy
  toLocation := tag.location
  toContact := tag.contact
  toConfiguration := tag.deviceConfiguration
  toEntity := tag.entity
  toVenue := tag.venue

/-- The calls of `MoveUsage` and `ManageMembership` after a device was stored. -/
def moveTag (db : Store) (moves : TagMoves) (id : String) : Store :=
  { db with
    policyDB := moveUsage db.policyDB ManagementPolicy.inUseMember "inv" moves.fromPolicy
      moves.toPolicy id
    locationDB := moveUsage db.locationDB Location.inUseMember "inv" moves.fromLocation
      moves.toLocation id
    contactDB := moveUsage db.contactDB Contact.inUseMember "inv" moves.fromContact
      moves.toContact id
    configurationDB := moveUsage db.configurationDB DeviceConfiguration.inUseMember "inv"
      moves.fromConfiguration moves.toConfiguration id
    entityDB := manageMembership db.entityDB Entity.devicesMember moves.fromEntity moves.toEntity id
    venueDB := manageMembership db.venueDB Venue.devicesMember moves.fromVenue moves.toVenue id }

def inventoryDoPost (ctx : Context) (db : Store) (request : Request) : Outcome :=
  match inventoryDoPostPlan ctx db request with
  | .error failure => .fail db failure
  | .ok (newObject, config) =>
      match storeInlineConfiguration db config with
      | .error failure => .fail db failure
      | .ok configured =>
          match configured.inventoryDB.insert? newObject with
          | none => .fail configured (.internalError .recordNotCreated)
          | some inventoryDB =>
              .done (moveTag { configured with inventoryDB := inventoryDB } newObject.arrivals
                newObject.info.id)

/-- The state of a device that a subscriber has given back. -/
def returnedState (now : String) : String :=
  "\x7b\"date\":" ++ now ++
    ",\"last-operation\":\"returned to inventory\",\"method\":\"auto-discovery\"\x7d"

/-- The configuration of a subscriber's device goes away with the subscriber. -/
def dropSubscriberConfiguration (db : Store) (id : String) : Table DeviceConfiguration :=
  if (db.configurationDB.get? id).any DeviceConfiguration.subscriberOnly then
    db.configurationDB.delete id
  else
    db.configurationDB

/-- The `removeSubscriber` command. -/
def removeSubscriber (ctx : Context) (db : Store) (existing : InventoryTag)
    (subscriber : String) : Outcome :=
  if existing.subscriber = subscriber then
    let released : InventoryTag :=
      { existing with
        deviceConfiguration :=
          if idExists db.configurationDB existing.deviceConfiguration then ""
          else existing.deviceConfiguration
        subscriber := ""
        devClass := "any"
        state := returnedState ctx.env.now }
    .done { db with
      configurationDB := dropSubscriberConfiguration db existing.deviceConfiguration
      inventoryDB := db.inventoryDB.update released
      signupDB := db.signupDB.deleteWhere fun signup => signup.userId == subscriber
      subscriberDeviceDB :=
        db.subscriberDeviceDB.deleteWhere fun device => device.subscriberId == subscriber
      -- the id of the membership call is the word `id`, not that of an entity
      entityDB := removeMembership db.entityDB Entity.devicesMember "id" existing.info.id }
  else
    .fail db (.badRequest .missingOrInvalidParameters)

/-- The subscriber of a device after an update. -/
def updatedSubscriber (ctx : Context) (body : JsonObject) (existing : String) :
    Except Failure String := do
  let newSubscriber ← body.assignIfPresent "subscriber" existing
  require (newSubscriber == "" || newSubscriber == existing || ctx.env.secSubscriber newSubscriber)
    (.badRequest .subscriberMustExist)
  return newSubscriber

/-- The update of a device: the record, the moves and the inline configuration. -/
structure TagUpdate where
  updated : InventoryTag
  moves : TagMoves
  config : Option DeviceConfiguration

/-- The checks of `RESTAPI_inventory_handler::DoPut` for an existing device. -/
def inventoryDoPutPlan (ctx : Context) (db : Store) (request : Request)
    (existing : InventoryTag) : Except Failure TagUpdate := do
  let body ← request.jsonBody
  let newObject ← InventoryTag.fromJson body
  checkDeviceRules ctx.env body newObject.deviceRules
  require (validDeviceClass newObject.devClass) (.badRequest .invalidDeviceClass)
  require (newObject.deviceType == "" || newObject.deviceType == existing.deviceType ||
    ctx.env.isAcceptedDeviceType newObject.deviceType) (.badRequest .invalidDeviceTypes)
  let info ← updateObjectInfo body existing.info
  let (fromPolicy, toPolicy, managementPolicy) ←
    createMove body "managementPolicy" existing.managementPolicy db.policyDB
      (.badRequest .entityMustExist)
  let (fromEntity, toEntity, entity) ←
    createMove body "entity" existing.entity db.entityDB (.badRequest .entityMustExist)
  let (fromVenue, toVenue, venue) ←
    createMove body "venue" existing.venue db.venueDB (.badRequest .venueMustExist)
  let (fromLocation, toLocation, location) ←
    createMove body "location" existing.location db.locationDB (.badRequest .venueMustExist)
  let (fromContact, toContact, contact) ←
    createMove body "contact" existing.contact db.contactDB (.badRequest .venueMustExist)
  let (fromConfiguration, toConfiguration, deviceConfiguration) ←
    createMove body "deviceConfiguration" existing.deviceConfiguration db.configurationDB
      (.badRequest .configurationMustExist)
  let subscriber ← updatedSubscriber ctx body existing.subscriber
  let doNotAllowOverrides ←
    body.assignBoolIfPresent "doNotAllowOverrides" existing.doNotAllowOverrides
  let config ← createTagObjects ctx request body newObject.platform (ctx.newId 0)
  let updated : InventoryTag :=
    { existing with
      info := info
      deviceRules := if body.has "deviceRules" then newObject.deviceRules else existing.deviceRules
      managementPolicy := managementPolicy
      entity := entity
      venue := venue
      location := location
      contact := contact
      deviceConfiguration := (config.map fun created => created.info.id).getD deviceConfiguration
      subscriber := subscriber
      doNotAllowOverrides := doNotAllowOverrides
      devClass := if body.has "devClass" then newObject.devClass else existing.devClass
      state := if body.has "state" then newObject.state else existing.state
      deviceType :=
        if body.has "deviceType" ∧ newObject.deviceType ≠ "" then newObject.deviceType
        else existing.deviceType }
  let moves : TagMoves :=
    { fromPolicy, toPolicy, fromLocation, toLocation, fromContact, toContact
      fromConfiguration := if config.isSome then deviceConfiguration else fromConfiguration
      toConfiguration := (config.map fun created => created.info.id).getD toConfiguration
      fromEntity, toEntity, fromVenue, toVenue }
  return { updated, moves, config }

/-- The subscriber device of the same serial number follows the configuration. -/
def syncSubscriberDevice (db : Store) (serialNumber deviceConfiguration : String) :
    Table SubscriberDevice :=
  match getBy db.subscriberDeviceDB SubscriberDevice.serialNumber serialNumber with
  | none => db.subscriberDeviceDB
  | some device =>
      db.subscriberDeviceDB.update { device with deviceConfiguration := deviceConfiguration }

/-- The writes of a device update. -/
def inventoryDoPutCommit (db : Store) (serialNumber : String) (update : TagUpdate) : Outcome :=
  match storeInlineConfiguration db update.config with
  | .error failure => .fail db failure
  | .ok configured =>
      let moved := moveTag
        { configured with inventoryDB := configured.inventoryDB.update update.updated }
        update.moves update.updated.info.id
      .done { moved with
        subscriberDeviceDB :=
          syncSubscriberDevice moved serialNumber update.updated.deviceConfiguration }

def inventoryDoPut (ctx : Context) (db : Store) (request : Request) : Outcome :=
  let serialNumber := request.getBinding "serialNumber"
  if serialNumber = "" ∨ validSerialNumber serialNumber = false then
    .fail db (.badRequest .missingOrInvalidParameters)
  else
    match getBy db.inventoryDB InventoryTag.serialNumber serialNumber with
    | none => .fail db .notFound
    | some existing =>
        if request.getParameter "removeSubscriber" ≠ "" then
          removeSubscriber ctx db existing (request.getParameter "removeSubscriber")
        else
          match inventoryDoPutPlan ctx db request existing with
          | .error failure => .fail db failure
          | .ok update => inventoryDoPutCommit db serialNumber update

/-- The checks of `RESTAPI_inventory_handler::DoDelete`: the device belongs to no subscriber. -/
def inventoryDoDeletePlan (db : Store) (request : Request) : Except Failure InventoryTag := do
  let serialNumber := request.getBinding "serialNumber"
  match getBy db.inventoryDB InventoryTag.serialNumber serialNumber with
  | none => throw .notFound
  | some existing =>
      require (serialNumber != "") .notFound
      require (existing.subscriber == "" &&
        (getBy db.subscriberDeviceDB SubscriberDevice.serialNumber existing.serialNumber).isNone)
        (.badRequest .subscriberDeviceDeleteRequiresSubscriberApi)
      return existing

/-- The moves of a deleted device, which lead nowhere. -/
def InventoryTag.departures (tag : InventoryTag) : TagMoves where
  fromPolicy := tag.managementPolicy
  fromLocation := tag.location
  fromContact := tag.contact
  fromConfiguration := tag.deviceConfiguration
  fromEntity := tag.entity
  fromVenue := tag.venue

/-- The configuration of a deleted device goes away when it is for a subscriber only. -/
def releaseConfiguration (db : Store) (existing : InventoryTag) : Table DeviceConfiguration :=
  match db.configurationDB.get? existing.deviceConfiguration with
  | none => db.configurationDB
  | some config =>
      if existing.deviceConfiguration = "" then
        db.configurationDB
      else if config.subscriberOnly then
        db.configurationDB.delete existing.deviceConfiguration
      else
        manipulateVectorMember db.configurationDB DeviceConfiguration.inUseMember
          existing.deviceConfiguration ("inv:" ++ existing.info.id) false

def inventoryDoDelete (db : Store) (request : Request) : Outcome :=
  match inventoryDoDeletePlan db request with
  | .error failure => .fail db failure
  | .ok existing =>
      let id := existing.info.id
      let unlisted : Store :=
        { db with
          venueDB := removeMembership db.venueDB Venue.configurationsMember existing.venue id
          entityDB := removeMembership db.entityDB Entity.configurationsMember existing.entity id
          configurationDB := releaseConfiguration db existing }
      -- the usages of policy, location and contact are removed twice
      let released := moveTag unlisted
        { fromPolicy := existing.managementPolicy
          fromLocation := existing.location
          fromContact := existing.contact } id
      let moved := moveTag released existing.departures id
      .done { moved with inventoryDB := moved.inventoryDB.delete id }

theorem inventoryDoPutPlan_eq_ok {ctx : Context} {db : Store} {request : Request}
    {existing : InventoryTag} {update : TagUpdate}
    (planned : inventoryDoPutPlan ctx db request existing = .ok update) :
    ∃ body, request.body = some body ∧
      createMove body "entity" existing.entity db.entityDB (.badRequest .entityMustExist) =
        .ok (update.moves.fromEntity, update.moves.toEntity, update.updated.entity) ∧
      createMove body "venue" existing.venue db.venueDB (.badRequest .venueMustExist) =
        .ok (update.moves.fromVenue, update.moves.toVenue, update.updated.venue) := by
  simp only [inventoryDoPutPlan, bind_eq_ok_iff, require_eq_ok_iff] at planned
  obtain ⟨body, read, newObject, _, _, _, _, _, _, _, info, _, policyMove, _, planned⟩ := planned
  obtain ⟨entityMove, entityMoved, venueMove, venueMoved, planned⟩ := planned
  obtain ⟨_, _, _, _, _, _, _, _, _, _, _, _, planned⟩ := planned
  cases planned
  exact ⟨body, body_of_jsonBody read, entityMoved, venueMoved⟩

/-! ## Configurations -/

/-- The `validateOnly` command, which stores nothing. -/
def validateOnly (request : Request) : Except Failure Unit := do
  let body ← request.getBody
  require (body.has "configuration") (.badRequest .mustHaveConfigElement)
  let _config ← body.getString "configuration"
  return ()

/-- `ResolveValidationType`. -/
def resolveValidationType (request : Request) (body : JsonObject) :
    Except Failure ConfigurationType := do
  let hint ← body.assignIfPresent "deviceGroup" (request.getParameter "deviceType" "AP")
  return .ofText hint

/-- The checks of `RESTAPI_configurations_handler::DoPost` and the record it creates. -/
def configurationDoPostPlan (ctx : Context) (db : Store) (request : Request) :
    Except Failure DeviceConfiguration := do
  let body ← request.jsonBody
  let newObject ← DeviceConfiguration.fromJson body
  checkDeviceRules ctx.env body newObject.deviceRules
  let info ← createObjectInfo body newObject.info (ctx.newId 0)
  require (emptyOrExists db.entityDB newObject.entity) (.badRequest .entityMustExist)
  require (emptyOrExists db.venueDB newObject.venue) (.badRequest .venueMustExist)
  require (emptyOrExists db.policyDB newObject.managementPolicy)
    (.badRequest .unknownManagementPolicyUUID)
  require (!newObject.deviceTypes.isEmpty && newObject.deviceTypes.all fun type =>
    type == "*" || ctx.env.isAcceptedDeviceType type) (.badRequest .invalidDeviceTypes)
  let validationType ← resolveValidationType request body
  require (ctx.env.configBlockError validationType newObject).isNone
    (.badRequest .configBlockInvalid)
  require (!body.has "variables" ||
    newObject.variables.all (emptyOrExists db.variablesDB)) (.badRequest .variableMustExist)
  return { newObject with info := info, inUse := [] }

/-- The memberships and the usage of a new configuration. -/
def linkConfiguration (db : Store) (body : JsonObject) (config : DeviceConfiguration) : Store :=
  let toVariables := if body.has "variables" then config.variables else []
  { db with
    variablesDB := toVariables.foldl
      (fun table block => addMembership table VariableBlock.configurationsMember block
        config.info.id) db.variablesDB
    policyDB := moveUsage db.policyDB ManagementPolicy.inUseMember "cfg" ""
      config.managementPolicy config.info.id
    venueDB := addMembership db.venueDB Venue.configurationsMember config.venue config.info.id
    entityDB := addMembership db.entityDB Entity.configurationsMember config.entity
      config.info.id }

def configurationDoPost (ctx : Context) (db : Store) (request : Request) : Outcome :=
  if request.getBinding "uuid" = "" then
    .fail db (.badRequest .missingUUID)
  else if request.getParameter "validateOnly" = "true" then
    { store := db, result := validateOnly request }
  else
    match configurationDoPostPlan ctx db request with
    | .error failure => .fail db failure
    | .ok newObject =>
        match db.configurationDB.insert? newObject with
        | none => .fail db (.internalError .recordNotCreated)
        | some configurationDB =>
            .done (linkConfiguration { db with configurationDB := configurationDB }
              (request.body.getD []) newObject)

end Owprov
