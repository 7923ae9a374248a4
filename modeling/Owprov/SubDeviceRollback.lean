import Owprov.Lib.RefusedWrites
import Owprov.SubscriberGateways

/-!
# Failed subscriber device requests

A request writes the configuration of the device first, then the device and then its tag.  When
the database refuses the tag of a new device, the device is deleted again; nothing else is taken
back.
-/

namespace Owprov

open RowTable Table

/-! ## The code -/

/-- The writes of a request whose answers are looked at, and the deletions whose answers are not. -/
inductive SubDeviceWrite where
  | configuration
  | device
  | inventory
  | undoDevice
  | cleanup
  deriving DecidableEq

/-- `createConfigurationRecord`, where the database may refuse the record. -/
def createConfigurationRecordUnless (ctx : Context) (refused : Bool) (db : Store)
    (device : SubscriberDevice) (configuration : List DeviceConfigurationElement) (newId : String) :
    Except Failure (Store × SubscriberDevice) :=
  if configuration.isEmpty then
    .ok (db, device)
  else
    let record : DeviceConfiguration :=
      { info := { id := newId, name := "subscriber-device:" ++ device.serialNumber }
        configuration := configuration
        managementPolicy := device.managementPolicy
        deviceTypes := configurationDeviceTypes device.deviceType }
    if (ctx.env.configBlockError (.ofText (toLower device.deviceGroup)) record).isSome then
      .error (.badRequest .configBlockInvalid)
    else
      match db.configurationDB.insertUnless refused record with
      | none => .error (.internalError .recordNotCreated)
      | some configurationDB =>
          .ok ({ db with configurationDB := configurationDB },
            { device with deviceConfiguration := record.info.id })

/-- `createInventoryRecord`, where the database may refuse the tag. -/
def createInventoryRecordUnless (refused : Bool) (db : Store) (device : SubscriberDevice)
    (newId : String) : Option Store :=
  if refused then none else createInventoryRecord db device newId

/-- `RESTAPI_sub_devices_handler::DoPost` with writes that may be refused. -/
def subDeviceDoPostUnless (ctx : Context) (refuses : SubDeviceWrite → Bool) (db : Store)
    (request : Request) : Outcome :=
  match subDeviceDoPostPlan ctx db request with
  | .error failure => .fail db failure
  | .ok (body, device, configuration) =>
      match createConfigurationRecordUnless ctx (refuses .configuration) db device configuration
        (ctx.newId 0) with
      | .error failure => .fail db failure
      | .ok (configured, device) =>
          match createObjectInfoUnchecked body device.info (ctx.newId 1) with
          | .error failure => .fail configured failure
          | .ok info =>
              let newObject := { device with info := info }
              match configured.subscriberDeviceDB.insertUnless (refuses .device) newObject with
              | none => .fail configured (.internalError .recordNotCreated)
              | some subscriberDeviceDB =>
                  let stored := { configured with subscriberDeviceDB := subscriberDeviceDB }
                  match createInventoryRecordUnless (refuses .inventory) stored newObject
                    (ctx.newId 2) with
                  | none =>
                      .fail { stored with
                        subscriberDeviceDB :=
                          stored.subscriberDeviceDB.deleteUnless (refuses .undoDevice) info.id }
                        (.internalError .recordNotCreated)
                  | some entered => .done (startMonitoring ctx entered newObject)

/-- `updateConfigurationRecord`, where the database may refuse the record. -/
def updateConfigurationRecordUnless (ctx : Context) (refused : Bool) (db : Store)
    (put : SubDevicePut) : Except Failure ConfigurationUpdate :=
  let id := put.effectiveConfigurationId
  if put.body.has "configuration" = false then
    .ok { db, deviceConfiguration := put.update.deviceConfiguration, updated := false }
  else if put.configuration.isEmpty then
    .ok { db, deviceConfiguration := "", updated := id != "" }
  else
    match if id = "" then none else db.configurationDB.get? id with
    | some record =>
        let rewritten := put.rewrite record
        if rewritten = record then
          .ok { db, deviceConfiguration := record.info.id, updated := false }
        else if (ctx.env.configBlockError (.ofText put.effectiveDeviceGroup) rewritten).isSome then
          .error (.badRequest .configBlockInvalid)
        else
          match db.configurationDB.updateUnless refused rewritten with
          | none => .error (.internalError .recordNotUpdated)
          | some configurationDB =>
              .ok { db := { db with configurationDB := configurationDB }
                    deviceConfiguration := record.info.id
                    updated := true }
    | none =>
        (createConfigurationRecordUnless ctx refused db put.update put.configuration
          (ctx.newId 0)).map fun created =>
            { db := created.1
              deviceConfiguration := created.2.deviceConfiguration
              updated := true }

/-- `syncInventory`, where the database may refuse the tag. -/
def syncInventoryUnless (ctx : Context) (refused : Bool) (db : Store) (body : JsonObject)
    (device : SubscriberDevice) (updated : Bool) : Outcome :=
  if updated || syncsInventory body then
    match createInventoryRecordUnless refused db device (ctx.newId 1) with
    | none => .fail db (.internalError .recordNotUpdated)
    | some synced => .done synced
  else
    .done db

/-- `storeSubDevice`, where the database may refuse the device and the deletion after it. -/
def storeSubDeviceUnless (refuses : SubDeviceWrite → Bool) (db : Store) (put : SubDevicePut)
    (projected : SubscriberDevice) : Option Store :=
  (db.subscriberDeviceDB.updateUnless (refuses .device) projected).map fun subscriberDeviceDB =>
    let stored := { db with subscriberDeviceDB := subscriberDeviceDB }
    if put.body.has "configuration" = true ∧ projected.deviceConfiguration = "" ∧
        refuses .cleanup = false then
      cleanupSubscriberConfigurationRecord stored put.existing.deviceConfiguration ""
    else
      stored

/-- `RESTAPI_sub_devices_handler::DoPut` with writes that may be refused. -/
def subDeviceDoPutUnless (ctx : Context) (refuses : SubDeviceWrite → Bool) (db : Store)
    (request : Request) : Outcome :=
  match parsePutRequest ctx db request with
  | .error failure => .fail db failure
  | .ok put =>
      match updateConfigurationRecordUnless ctx (refuses .configuration) db put with
      | .error failure => .fail db failure
      | .ok configured =>
          let update :=
            { put.update with deviceConfiguration := configured.deviceConfiguration }
          match applyPutRequest put.body update put.existing with
          | .error failure => .fail configured.db failure
          | .ok projected =>
              if projected = put.existing then
                syncInventoryUnless ctx (refuses .inventory) configured.db put.body put.existing
                  configured.updated
              else
                match storeSubDeviceUnless refuses configured.db put projected with
                | none => .fail configured.db (.internalError .recordNotUpdated)
                | some stored =>
                    syncInventoryUnless ctx (refuses .inventory) stored put.body projected
                      (configured.updated || put.body.has "deviceConfiguration" &&
                        put.existing.deviceConfiguration != projected.deviceConfiguration)

section NeverRefused

variable (ctx : Context) (db : Store) (request : Request)

/-- Without refusals this is the handler. -/
theorem subDeviceDoPostUnless_never :
    subDeviceDoPostUnless ctx (fun _ => false) db request = subDeviceDoPost ctx db request := rfl

theorem storeSubDeviceUnless_never (put : SubDevicePut) (projected : SubscriberDevice) :
    storeSubDeviceUnless (fun _ => false) db put projected =
      some (storeSubDevice db put projected) := by
  simp [storeSubDeviceUnless, storeSubDevice]

theorem subDeviceDoPutUnless_never :
    subDeviceDoPutUnless ctx (fun _ => false) db request = subDeviceDoPut ctx db request := by
  unfold subDeviceDoPutUnless subDeviceDoPut
  simp only [storeSubDeviceUnless_never]
  rfl

end NeverRefused

/-! ## What is accepted -/

section Accepted

variable {ctx : Context} {db db' : Store} {device : SubscriberDevice} {newId : String}
  {refused : Bool} {configuration : List DeviceConfigurationElement}

end Accepted

/-! ## Creation -/

section Creation

variable {ctx : Context} {refuses : SubDeviceWrite → Bool} {db : Store}

end Creation

/-! ## Update -/

namespace SubDevicePut

/-- The configuration record that an update is about. -/
def storedConfiguration (put : SubDevicePut) (db : Store) : Option DeviceConfiguration :=
  if put.effectiveConfigurationId = "" then none
  else db.configurationDB.get? put.effectiveConfigurationId

/-- The configuration that the device names afterwards. -/
def resolvedConfiguration (put : SubDevicePut) (ctx : Context) (db : Store) : String :=
  if put.body.has "configuration" = false then
    put.update.deviceConfiguration
  else if put.configuration.isEmpty then
    ""
  else
    match put.storedConfiguration db with
    | some record => record.info.id
    | none => ctx.newId 0

/-- The device after the update. -/
def projected (put : SubDevicePut) (ctx : Context) (db : Store) : Except Failure SubscriberDevice :=
  applyPutRequest put.body
    { put.update with deviceConfiguration := put.resolvedConfiguration ctx db } put.existing

end SubDevicePut

section Update

variable {ctx : Context} {refuses : SubDeviceWrite → Bool} {db : Store} {put : SubDevicePut}

end Update

end Owprov
