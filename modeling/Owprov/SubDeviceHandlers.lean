import Owprov.InventoryHandlers

/-!
# The subscriber device handler

A subscriber's first device is an optical line gateway (`olg`), the others are access points
(`ap`).  Each device has a tag in the inventory, at the subscriber's venue, and may bring its
own configuration, which goes away with it.
-/

namespace Owprov

open RowTable

/-- `Utils::ValidUUID`. -/
def validUUID (uuid : String) : Bool :=
  uuid.length ≤ 36 && uuid.toList.contains '-' &&
    uuid.toList.all fun c =>
      c == '-' || c.isDigit || ('a' ≤ c.toLower && c.toLower ≤ 'f')

/-- The `configuration` of a body, which is no column of the table. -/
def configurationElements (body : JsonObject) : Except Failure (List DeviceConfigurationElement) :=
  orInvalid do
    return (← body.objectsField "configuration").map DeviceConfigurationElement.fromJson

/-- The devices of a subscriber. -/
def devicesOf (db : Store) (subscriberId : String) : List SubscriberDevice :=
  db.subscriberDeviceDB.rows.filter fun device => device.subscriberId == subscriberId

/-! ## Checks -/

/-- `ValidateRequestFields`. -/
def validateRequestFields (ctx : Context) (db : Store) (device : SubscriberDevice) :
    Except Failure Unit := do
  require (emptyOrExists db.policyDB device.managementPolicy)
    (.badRequest .unknownManagementPolicyUUID)
  require (device.operatorId != "" && idExists db.operatorDB device.operatorId)
    (.badRequest .invalidOperatorId)
  require (emptyOrExists db.serviceClassDB device.serviceClass)
    (.badRequest .invalidServiceClassId)
  require (emptyOrExists db.configurationDB device.deviceConfiguration)
    (.badRequest .configurationMustExist)
  require (device.subscriberId == "" || ctx.env.secSubscriber device.subscriberId)
    (.badRequest .invalidSubscriberId)
  require (validDeviceRules ctx.env device.deviceRules) (.badRequest .invalidRRM)
  require (device.serialNumber != "" && validSerialNumber device.serialNumber)
    (.badRequest .invalidSerialNumber)

/-- `ValidateDeviceGroup`, which answers the group in lower case. -/
def validateDeviceGroup (db : Store) (body : JsonObject) (device : SubscriberDevice) :
    Except Failure String := do
  require (body.has "deviceGroup") (.badRequest .invalidSubscriberDeviceGroup)
  let deviceGroup := toLower device.deviceGroup
  require (deviceGroup == "olg" || deviceGroup == "ap")
    (.badRequest .invalidSubscriberDeviceGroup)
  if (devicesOf db device.subscriberId).length = 0 then
    require (deviceGroup == "olg") (.badRequest .firstSubscriberDeviceMustBeOLG)
  else
    require (deviceGroup != "olg") (.badRequest .onlyFirstSubscriberDeviceCanBeOLG)
  return deviceGroup

/-- `ValidateDeviceGroupForUpdate`. -/
def validateDeviceGroupForUpdate (db : Store) (existing update : SubscriberDevice) :
    Except Failure Unit := do
  let targetGroup := toLower update.deviceGroup
  require (targetGroup == "olg" || targetGroup == "ap")
    (.badRequest .invalidSubscriberDeviceGroup)
  let targetSubscriberId :=
    if update.subscriberId = "" then existing.subscriberId else update.subscriberId
  require (targetGroup != "olg" ||
    !(devicesOf db targetSubscriberId).any fun other =>
      toLower other.deviceGroup == "olg" && other.info.id != existing.info.id)
    (.badRequest .onlyFirstSubscriberDeviceCanBeOLG)

/-! ## Configurations -/

/-- `CleanupSubscriberConfigurationRecord`. -/
def cleanupSubscriberConfigurationRecord (db : Store) (deviceConfiguration inventoryId : String) :
    Store :=
  if deviceConfiguration = "" then
    db
  else
    let released :=
      if inventoryId = "" then
        db.configurationDB
      else
        manipulateVectorMember db.configurationDB DeviceConfiguration.inUseMember
          deviceConfiguration ("inv:" ++ inventoryId) false
    { db with configurationDB := released.delete deviceConfiguration }

/-- The device types of a subscriber's configuration. -/
def configurationDeviceTypes (deviceType : String) : List String :=
  [if deviceType = "" then "*" else deviceType]

/-- `CreateConfigurationRecord`: the database and the device with its new configuration. -/
def createConfigurationRecord (ctx : Context) (db : Store) (device : SubscriberDevice)
    (configuration : List DeviceConfigurationElement) (newId : String) :
    Except Failure (Store × SubscriberDevice) :=
  if configuration.isEmpty then
    .ok (db, device)
  else
    let record : DeviceConfiguration :=
      { info := { id := newId, name := "subscriber-device:" ++ device.serialNumber }
        configuration := configuration
        managementPolicy := device.managementPolicy
        deviceTypes := configurationDeviceTypes device.deviceType }
    if (ctx.env.configBlockError (.ofText (toLower device.deviceGroup)) record).isSome then
      .error (.badRequest .configBlockInvalid)
    else
      match db.configurationDB.insert? record with
      | none => .error (.internalError .recordNotCreated)
      | some configurationDB =>
          .ok ({ db with configurationDB := configurationDB },
            { device with deviceConfiguration := record.info.id })

/-! ## Inventory -/

/-- The venue of a subscriber. -/
def resolvedVenueId (db : Store) (subscriberId : String) : String :=
  ((getBy db.venueDB Venue.subscriber subscriberId).map fun venue => venue.info.id).getD ""

/-- What a tag takes from a subscriber device. -/
def InventoryTag.ofDevice (tag : InventoryTag) (device : SubscriberDevice) : InventoryTag :=
  { tag with
    subscriber := device.subscriberId
    deviceType := device.deviceType
    managementPolicy := device.managementPolicy
    deviceConfiguration := device.deviceConfiguration
    deviceRules := device.deviceRules
    state := device.state
    locale := device.locale
    realMacAddress := device.realMacAddress }

/-- The tag of a device that the inventory does not have. -/
def newInventoryTag (device : SubscriberDevice) (newId venueId : String) : InventoryTag :=
  InventoryTag.ofDevice
    { info := { id := newId, name := device.serialNumber }
      serialNumber := device.serialNumber
      devClass := "any"
      platform := "AP"
      venue := venueId } device

/-- `CreateInventoryRecord`: the tag of the device is updated, or created. -/
def createInventoryRecord (db : Store) (device : SubscriberDevice) (newId : String) :
    Option Store :=
  let venueId := resolvedVenueId db device.subscriberId
  match getBy db.inventoryDB InventoryTag.serialNumber device.serialNumber with
  | some existing =>
      let record : InventoryTag :=
        { existing.ofDevice device with
          venue := if venueId = "" then existing.venue else venueId }
      some (moveTag { db with inventoryDB := db.inventoryDB.update record }
        { fromPolicy := existing.managementPolicy
          toPolicy := record.managementPolicy
          fromConfiguration := existing.deviceConfiguration
          toConfiguration := record.deviceConfiguration
          fromVenue := existing.venue
          toVenue := record.venue } record.info.id)
  | none =>
      let record := newInventoryTag device newId venueId
      (db.inventoryDB.insert? record).map fun inventoryDB =>
        moveTag { db with inventoryDB := inventoryDB }
          { toPolicy := record.managementPolicy
            toConfiguration := record.deviceConfiguration
            toVenue := record.venue } record.info.id

/-- `DeleteInventoryForSubscriberDevice`; the two configurations are a set. -/
def deleteInventoryForSubscriberDevice (db : Store) (device : SubscriberDevice) : Store :=
  match getBy db.inventoryDB InventoryTag.serialNumber device.serialNumber with
  | none => cleanupSubscriberConfigurationRecord db device.deviceConfiguration ""
  | some tag =>
      let released := moveTag db
        { fromPolicy := tag.managementPolicy
          fromLocation := tag.location
          fromContact := tag.contact
          fromEntity := tag.entity
          fromVenue := tag.venue } tag.info.id
      let configurations :=
        [device.deviceConfiguration, tag.deviceConfiguration].dedup.insertionSort (· ≤ ·)
      let cleaned := configurations.foldl
        (fun db id => cleanupSubscriberConfigurationRecord db id tag.info.id) released
      { cleaned with inventoryDB := cleaned.inventoryDB.delete tag.info.id }

/-! ## Monitoring -/

/-- `StartMonitoring`: the venue of the subscriber gets a board. -/
def startMonitoring (ctx : Context) (db : Store) (device : SubscriberDevice) : Store :=
  match getBy db.venueDB Venue.subscriber device.subscriberId with
  | none => db
  | some venue =>
      if toLower device.deviceGroup ≠ "olg" ∨ venue.info.id = "" ∨ venue.boards ≠ [] then
        db
      else
        match ctx.env.startMonitoring venue with
        | none => db
        | some boardId =>
            { db with
              venueDB := db.venueDB.modify venue.info.id fun venue =>
                { venue with boards := venue.boards ++ [boardId] } }

/-- `StopMonitoring`, which ends the request without an answer when a board does not stop. -/
def stopMonitoring (ctx : Context) (db : Store) (device : SubscriberDevice) : Option Store :=
  match getBy db.venueDB Venue.subscriber device.subscriberId with
  | none => some db
  | some venue =>
      if toLower device.deviceGroup ≠ "olg" ∨ venue.info.id = "" ∨ venue.boards = [] then
        some db
      else if venue.boards.all fun boardId => boardId == "" || ctx.env.stopMonitoring boardId then
        some { db with venueDB := db.venueDB.update { venue with boards := [] } }
      else
        none

/-! ## Creation -/

/-- `CreateObjectInfo` where its answer is ignored: without a name the record keeps the id of
the body. -/
def createObjectInfoUnchecked (body : JsonObject) (info : ObjectInfo) (newId : String) :
    Except Failure ObjectInfo := do
  let name ← body.assignIfPresent "name" info.name
  if name = "" then
    return { info with name := name }
  else
    let description ← body.assignIfPresent "description" info.description
    return { id := newId, name := name, description := description }

/-- The checks of `RESTAPI_sub_devices_handler::DoPost`: the body, the device and the
configuration that comes with it. -/
def subDeviceDoPostPlan (ctx : Context) (db : Store) (request : Request) :
    Except Failure (JsonObject × SubscriberDevice × List DeviceConfigurationElement) := do
  let body ← request.jsonBody
  let newObject ← SubscriberDevice.fromJson body
  let configuration ← configurationElements body
  require (getBy db.subscriberDeviceDB SubscriberDevice.serialNumber newObject.serialNumber).isNone
    (.badRequest .serialNumberExists)
  validateRequestFields ctx db newObject
  let deviceGroup ← validateDeviceGroup db body newObject
  return (body, { newObject with deviceGroup := deviceGroup }, configuration)

def subDeviceDoPost (ctx : Context) (db : Store) (request : Request) : Outcome :=
  match subDeviceDoPostPlan ctx db request with
  | .error failure => .fail db failure
  | .ok (body, device, configuration) =>
      match createConfigurationRecord ctx db device configuration (ctx.newId 0) with
      | .error failure => .fail db failure
      | .ok (configured, device) =>
          match createObjectInfoUnchecked body device.info (ctx.newId 1) with
          | .error failure => .fail configured failure
          | .ok info =>
              let newObject := { device with info := info }
              match configured.subscriberDeviceDB.insert? newObject with
              | none => .fail configured (.internalError .recordNotCreated)
              | some subscriberDeviceDB =>
                  let stored := { configured with subscriberDeviceDB := subscriberDeviceDB }
                  match createInventoryRecord stored newObject (ctx.newId 2) with
                  | none =>
                      .fail { stored with
                        subscriberDeviceDB := stored.subscriberDeviceDB.delete info.id }
                        (.internalError .recordNotCreated)
                  | some entered => .done (startMonitoring ctx entered newObject)

/-! ## Update -/

/-- What a device update starts from: the body, the stored device, the device of the body and
the configuration that comes with it. -/
structure SubDevicePut where
  body : JsonObject
  existing : SubscriberDevice
  update : SubscriberDevice
  configuration : List DeviceConfigurationElement

/-- `ParsePutRequest`. -/
def parsePutRequest (ctx : Context) (db : Store) (request : Request) :
    Except Failure SubDevicePut := do
  let uuid := request.getBinding "uuid"
  require (uuid != "") (.badRequest .missingUUID)
  let body ← request.jsonBody
  let update ← SubscriberDevice.fromJson body
  let configuration ← configurationElements body
  match db.subscriberDeviceDB.get? uuid with
  | none => throw .notFound
  | some existing =>
      validateRequestFields ctx db update
      require ((getBy db.subscriberDeviceDB SubscriberDevice.serialNumber update.serialNumber).all
        fun other => other.info.id == uuid) (.badRequest .serialNumberExists)
      validateDeviceGroupForUpdate db existing update
      return { body, existing, update, configuration }

/-- `ApplyPutRequest`. -/
def applyPutRequest (body : JsonObject) (update existing : SubscriberDevice) :
    Except Failure SubscriberDevice := do
  let info ← updateObjectInfo body existing.info
  let deviceType ← body.assignIfPresent "deviceType" existing.deviceType
  let subscriberId ← body.assignIfPresent "subscriberId" existing.subscriberId
  let managementPolicy ← body.assignIfPresent "managementPolicy" existing.managementPolicy
  let serviceClass ← body.assignIfPresent "serviceClass" existing.serviceClass
  let qrCode ← body.assignIfPresent "qrCode" existing.qrCode
  let geoCode ← body.assignIfPresent "geoCode" existing.geoCode
  let state ← body.assignIfPresent "state" existing.state
  let locale ← body.assignIfPresent "locale" existing.locale
  let billingCode ← body.assignIfPresent "billingCode" existing.billingCode
  let realMacAddress ← body.assignIfPresent "realMacAddress" existing.realMacAddress
  return { existing with
    info, deviceType, subscriberId, managementPolicy, serviceClass, qrCode, geoCode, state, locale
    billingCode, realMacAddress
    deviceRules := if body.has "deviceRules" then update.deviceRules else existing.deviceRules
    deviceGroup := if body.has "deviceGroup" then update.deviceGroup else existing.deviceGroup
    deviceConfiguration :=
      if body.has "deviceConfiguration" || body.has "configuration" then
        update.deviceConfiguration
      else existing.deviceConfiguration }

/-- What `UpdateConfiguration` does to the configurations: the database, the configuration of
the device and whether it was updated. -/
structure ConfigurationUpdate where
  db : Store
  deviceConfiguration : String
  updated : Bool

/-- The new version of the configuration of a device. -/
def SubDevicePut.rewrite (put : SubDevicePut) (record : DeviceConfiguration) :
    DeviceConfiguration :=
  { record with
    configuration := put.configuration
    managementPolicy :=
      if put.body.has "managementPolicy" then put.update.managementPolicy
      else put.existing.managementPolicy
    deviceTypes := configurationDeviceTypes
      (if put.body.has "deviceType" then put.update.deviceType else put.existing.deviceType) }

/-- The configuration that an update is about. -/
def SubDevicePut.effectiveConfigurationId (put : SubDevicePut) : String :=
  if put.update.deviceConfiguration = "" then put.existing.deviceConfiguration
  else put.update.deviceConfiguration

def SubDevicePut.effectiveDeviceGroup (put : SubDevicePut) : String :=
  toLower (if put.body.has "deviceGroup" then put.update.deviceGroup else put.existing.deviceGroup)

/-- The first part of `UpdateConfiguration`. -/
def updateConfigurationRecord (ctx : Context) (db : Store) (put : SubDevicePut) :
    Except Failure ConfigurationUpdate :=
  let id := put.effectiveConfigurationId
  if put.body.has "configuration" = false then
    .ok { db, deviceConfiguration := put.update.deviceConfiguration, updated := false }
  else if put.configuration.isEmpty then
    -- an empty configuration clears the reference
    .ok { db, deviceConfiguration := "", updated := id != "" }
  else
    match if id = "" then none else db.configurationDB.get? id with
    | some record =>
        let rewritten := put.rewrite record
        if rewritten = record then
          .ok { db, deviceConfiguration := record.info.id, updated := false }
        else if (ctx.env.configBlockError (.ofText put.effectiveDeviceGroup) rewritten).isSome then
          .error (.badRequest .configBlockInvalid)
        else
          .ok { db := { db with configurationDB := db.configurationDB.update rewritten }
                deviceConfiguration := record.info.id
                updated := true }
    | none =>
        (createConfigurationRecord ctx db put.update put.configuration (ctx.newId 0)).map
          fun created =>
            { db := created.1
              deviceConfiguration := created.2.deviceConfiguration
              updated := true }

/-- The fields of a body that are copied to the inventory. -/
def syncsInventory (body : JsonObject) : Bool :=
  ["subscriberId", "deviceType", "managementPolicy", "deviceRules", "state", "locale",
    "realMacAddress"].any body.has

/-- The end of a device update: the inventory follows the device. -/
def syncInventory (ctx : Context) (db : Store) (body : JsonObject) (device : SubscriberDevice)
    (updated : Bool) : Outcome :=
  if updated || syncsInventory body then
    match createInventoryRecord db device (ctx.newId 1) with
    | none => .fail db (.internalError .recordNotUpdated)
    | some synced => .done synced
  else
    .done db

/-- The device of an update is stored, and the configuration that it gave up is deleted. -/
def storeSubDevice (db : Store) (put : SubDevicePut) (projected : SubscriberDevice) : Store :=
  let stored := { db with subscriberDeviceDB := db.subscriberDeviceDB.update projected }
  if put.body.has "configuration" = true ∧ projected.deviceConfiguration = "" then
    cleanupSubscriberConfigurationRecord stored put.existing.deviceConfiguration ""
  else
    stored

def subDeviceDoPut (ctx : Context) (db : Store) (request : Request) : Outcome :=
  match parsePutRequest ctx db request with
  | .error failure => .fail db failure
  | .ok put =>
      match updateConfigurationRecord ctx db put with
      | .error failure => .fail db failure
      | .ok configured =>
          let update :=
            { put.update with deviceConfiguration := configured.deviceConfiguration }
          match applyPutRequest put.body update put.existing with
          | .error failure => .fail configured.db failure
          | .ok projected =>
              if projected = put.existing then
                syncInventory ctx configured.db put.body put.existing configured.updated
              else
                syncInventory ctx (storeSubDevice configured.db put projected) put.body projected
                  (configured.updated || put.body.has "deviceConfiguration" &&
                    put.existing.deviceConfiguration != projected.deviceConfiguration)

/-! ## Deletion -/

/-- The device that a deletion names by its serial number or by its id. -/
def boundSubDevice (db : Store) (deviceIdOrSerial : String) : Except Failure SubscriberDevice :=
  if validSerialNumber deviceIdOrSerial then
    match getBy db.subscriberDeviceDB SubscriberDevice.serialNumber deviceIdOrSerial with
    | none => .error .notFound
    | some device => .ok device
  else if validUUID deviceIdOrSerial then
    match db.subscriberDeviceDB.get? deviceIdOrSerial with
    | none => .error .notFound
    | some device => .ok device
  else
    .error (.badRequest .missingOrInvalidParameters)

/-- `ValidateDeleteRequest`. -/
def validateDeleteRequest (db : Store) (request : Request) : Except Failure SubscriberDevice := do
  let deviceIdOrSerial := request.getBinding "uuid"
  require (deviceIdOrSerial != "") (.badRequest .missingOrInvalidParameters)
  let device ← boundSubDevice db deviceIdOrSerial
  require (toLower device.deviceGroup != "olg" || (devicesOf db device.subscriberId).length ≤ 1)
    (.badRequest .mustDeleteAPDevicesBeforeOLG)
  return device

def subDeviceDoDelete (ctx : Context) (db : Store) (request : Request) : Outcome :=
  match validateDeleteRequest db request with
  | .error failure => .fail db failure
  | .ok existing =>
      match stopMonitoring ctx db existing with
      | none => .fail db .noAnswer
      | some stopped =>
          .done (deleteInventoryForSubscriberDevice
            { stopped with
              subscriberDeviceDB := stopped.subscriberDeviceDB.delete existing.info.id } existing)

/-! ## What the handlers do -/

section Results

variable {ctx : Context} {db db' : Store} {device : SubscriberDevice}

/-- A new configuration, which belongs to nobody, is all that is written, and the device names
it. -/
theorem createConfigurationRecord_eq_ok {configuration : List DeviceConfigurationElement}
    {newId : String} {device' : SubscriberDevice}
    (created : createConfigurationRecord ctx db device configuration newId = .ok (db', device')) :
    (db' = db ∧ device' = device) ∨
      ∃ record configurationDB,
        (record.info.id = newId ∧ record.entity = "" ∧ record.venue = "") ∧
        db.configurationDB.insert? record = some configurationDB ∧
        db' = { db with configurationDB := configurationDB } ∧
        device' = { device with deviceConfiguration := newId } := by
  unfold createConfigurationRecord at created
  split at created
  · cases created
    exact Or.inl ⟨rfl, rfl⟩
  · dsimp only at created
    split at created
    · cases created
    · split at created
      · cases created
      · rename_i configurationDB inserted
        cases created
        exact Or.inr ⟨_, configurationDB, ⟨rfl, rfl, rfl⟩, inserted, rfl, rfl⟩

/-- An update writes one configuration at most. -/
theorem updateConfigurationRecord_eq_ok {put : SubDevicePut} {configured : ConfigurationUpdate}
    (updated : updateConfigurationRecord ctx db put = .ok configured) :
    configured.db = db ∨
      (∃ record, db.configurationDB.get? put.effectiveConfigurationId = some record ∧
        configured.db =
          { db with configurationDB := db.configurationDB.update (put.rewrite record) }) ∨
      ∃ record configurationDB,
        (record.info.id = ctx.newId 0 ∧ record.entity = "" ∧ record.venue = "") ∧
        db.configurationDB.insert? record = some configurationDB ∧
        configured.db = { db with configurationDB := configurationDB } := by
  unfold updateConfigurationRecord at updated
  dsimp only at updated
  split at updated
  · cases updated
    exact Or.inl rfl
  · split at updated
    · cases updated
      exact Or.inl rfl
    · split at updated
      · rename_i record found
        split at updated
        · cases updated
          exact Or.inl rfl
        · split at updated
          · cases updated
          · cases updated
            refine Or.inr (Or.inl ⟨record, ?_, rfl⟩)
            split at found
            · cases found
            · exact found
      · cases created : createConfigurationRecord ctx db put.update put.configuration
          (ctx.newId 0) with
        | error failure =>
            rw [created] at updated
            cases updated
        | ok pair =>
            rw [created] at updated
            cases updated
            rcases createConfigurationRecord_eq_ok created with
              ⟨same, _⟩ | ⟨record, configurationDB, isNew, inserted, stored, _⟩
            · exact Or.inl same
            · exact Or.inr (Or.inr ⟨record, configurationDB, isNew, inserted, stored⟩)

/-- Outside its table of configurations an update leaves the database alone. -/
theorem tables_updateConfigurationRecord {put : SubDevicePut} {configured : ConfigurationUpdate}
    (updated : updateConfigurationRecord ctx db put = .ok configured) :
    configured.db = { db with configurationDB := configured.db.configurationDB } := by
  rcases updateConfigurationRecord_eq_ok updated with
    same | ⟨record, _, same⟩ | ⟨record, configurationDB, _, _, same⟩ <;> rw [same]

theorem subscriberDeviceDB_createInventoryRecord {newId : String}
    (entered : createInventoryRecord db device newId = some db') :
    db'.subscriberDeviceDB = db.subscriberDeviceDB := by
  unfold createInventoryRecord at entered
  dsimp only at entered
  split at entered
  · cases entered
    rfl
  · obtain ⟨_, _, rfl⟩ := Option.map_eq_some_iff.mp entered
    rfl

/-- A device with a fresh id enters the inventory. -/
theorem createInventoryRecord_isSome {newId : String} (free : db.inventoryDB.get? newId = none) :
    ∃ entered, createInventoryRecord db device newId = some entered := by
  unfold createInventoryRecord
  dsimp only
  split
  · exact ⟨_, rfl⟩
  · have unused : db.inventoryDB.get?
        (key (newInventoryTag device newId (resolvedVenueId db device.subscriberId))) = none := free
    obtain ⟨table, inserted⟩ := Table.insert?_isSome unused
    exact ⟨_, by rw [inserted, Option.map_some]⟩

theorem subscriberDeviceDB_startMonitoring :
    (startMonitoring ctx db device).subscriberDeviceDB = db.subscriberDeviceDB := by
  unfold startMonitoring
  split
  · rfl
  · split
    · rfl
    · split <;> rfl

theorem subscriberDeviceDB_stopMonitoring (stopped : stopMonitoring ctx db device = some db') :
    db'.subscriberDeviceDB = db.subscriberDeviceDB := by
  unfold stopMonitoring at stopped
  split at stopped
  · cases stopped
    rfl
  · split at stopped
    · cases stopped
      rfl
    · split at stopped
      · cases stopped
        rfl
      · cases stopped

/-- A cleanup writes configurations only. -/
theorem tables_cleanupSubscriberConfigurationRecord (db : Store) (id inventoryId : String) :
    cleanupSubscriberConfigurationRecord db id inventoryId =
      { db with configurationDB :=
        (cleanupSubscriberConfigurationRecord db id inventoryId).configurationDB } := by
  unfold cleanupSubscriberConfigurationRecord
  split <;> rfl

theorem inventoryDB_storeSubDevice (db : Store) (put : SubDevicePut)
    (projected : SubscriberDevice) :
    (storeSubDevice db put projected).inventoryDB = db.inventoryDB := by
  unfold storeSubDevice
  dsimp only
  split
  · rw [tables_cleanupSubscriberConfigurationRecord]
  · rfl

theorem tables_cleanups (db : Store) (ids : List String) (inventoryId : String) :
    ids.foldl (fun db id => cleanupSubscriberConfigurationRecord db id inventoryId) db =
      { db with configurationDB := (ids.foldl (fun db id =>
        cleanupSubscriberConfigurationRecord db id inventoryId) db).configurationDB } := by
  induction ids generalizing db with
  | nil => rfl
  | cons id ids ih =>
      rw [List.foldl_cons, ih, tables_cleanupSubscriberConfigurationRecord db id inventoryId]

theorem subscriberDeviceDB_deleteInventory :
    (deleteInventoryForSubscriberDevice db device).subscriberDeviceDB = db.subscriberDeviceDB := by
  unfold deleteInventoryForSubscriberDevice
  split
  · rw [tables_cleanupSubscriberConfigurationRecord]
  · dsimp only
    rw [tables_cleanups]
    rfl

end Results

end Owprov
