import Owprov.Lib.UniqueColumns
import Owprov.SharedConfigurations
import Owprov.SignupLifecycle
import Owprov.UniqueKeys

/-!
# The inventory as a mirror of the subscriber devices

A subscriber device and its inventory record have the same serial number, the same subscriber and
the same configuration.  The requests on subscriber devices write both.  The requests on the
inventory and the signup worker do so as well, as long as no inventory request sets a subscriber,
a subscriber with several devices is not removed through one of them, and the worker finds devices
without a configuration.
-/

namespace Owprov

open RowTable Runs UniqueColumns

/-! ## The mirror -/

/-- The subscriber and the configuration of a device. -/
def SubscriberDevice.subscription (device : SubscriberDevice) : String × String :=
  (device.subscriberId, device.deviceConfiguration)

/-- The subscriber and the configuration of a tag. -/
def InventoryTag.subscription (tag : InventoryTag) : String × String :=
  (tag.subscriber, tag.deviceConfiguration)

/-- Devices and tags name each other. -/
structure DeviceMirror (db : Store) : Prop where
  tag : ∀ device ∈ db.subscriberDeviceDB.rows,
    ∃! tag, (tag ∈ db.inventoryDB.rows ∧ tag.serialNumber = device.serialNumber) ∧
      tag.subscriber = device.subscriberId ∧
      tag.deviceConfiguration = device.deviceConfiguration
  onlyTag : ∀ device ∈ db.subscriberDeviceDB.rows, ∀ tag ∈ db.inventoryDB.rows,
    ∀ tag' ∈ db.inventoryDB.rows, tag.serialNumber = device.serialNumber →
      tag'.serialNumber = device.serialNumber → tag = tag'
  device : ∀ tag ∈ db.inventoryDB.rows, tag.subscriber ≠ "" →
    ∃! device, device ∈ db.subscriberDeviceDB.rows ∧ device.serialNumber = tag.serialNumber

/-- A tag with a subscriber claims to have a device. -/
def Claimed (subscription : String × String) : Prop :=
  subscription.1 ≠ ""

def deviceIndex (db : Store) : String → Option (String × String) :=
  index SubscriberDevice.serialNumber SubscriberDevice.subscription db.subscriberDeviceDB

def tagIndex (db : Store) : String → Option (String × String) :=
  index InventoryTag.serialNumber InventoryTag.subscription db.inventoryDB

/-- Serial numbers are unique, and the tags show the subscriptions of the devices. -/
structure Mirrored (db : Store) : Prop where
  tags : UniqueColumn InventoryTag.serialNumber db.inventoryDB
  devices : UniqueColumn SubscriberDevice.serialNumber db.subscriberDeviceDB
  mirrors : Mirrors Claimed (deviceIndex db) (tagIndex db)

section Mirrored

variable {db db' : Store}

/-- The tag of a device shows its subscription. -/
theorem Mirrored.tagIndex_of_mem (mirrored : Mirrored db) {device : SubscriberDevice}
    (member : device ∈ db.subscriberDeviceDB.rows) :
    tagIndex db device.serialNumber = some device.subscription := by
  apply mirrored.mirrors.shows
  exact mirrored.devices.index_of_mem SubscriberDevice.subscription member

theorem Mirrored.deviceMirror (mirrored : Mirrored db) : DeviceMirror db := by
  constructor
  case tag =>
    intro device member
    have shown := mirrored.tagIndex_of_mem member
    obtain ⟨tag, isTag, sameSerial, same⟩ := exists_of_index shown
    obtain ⟨sameSubscriber, sameConfiguration⟩ := Prod.mk.inj same
    refine ⟨tag, ⟨⟨isTag, sameSerial⟩, sameSubscriber, sameConfiguration⟩, ?_⟩
    rintro other ⟨⟨isOther, otherSerial⟩, _⟩
    exact mirrored.tags.eq_of_mem isOther isTag (otherSerial.trans sameSerial.symm)
  case onlyTag =>
    intro device _ tag isTag other isOther sameSerial otherSerial
    exact mirrored.tags.eq_of_mem isTag isOther (sameSerial.trans otherSerial.symm)
  case device =>
    intro tag member subscribed
    have isShown := mirrored.tags.index_of_mem InventoryTag.subscription member
    have backed := mirrored.mirrors.backed _ _ isShown subscribed
    obtain ⟨device, isDevice, sameSerial, _⟩ := exists_of_index backed
    refine ⟨device, ⟨isDevice, sameSerial⟩, ?_⟩
    rintro other ⟨isOther, otherSerial⟩
    exact mirrored.devices.eq_of_mem isOther isDevice (otherSerial.trans sameSerial.symm)

theorem Mirrored.congr (mirrored : Mirrored db) (tags : db'.inventoryDB = db.inventoryDB)
    (devices : db'.subscriberDeviceDB = db.subscriberDeviceDB) : Mirrored db' where
  tags := tags ▸ mirrored.tags
  devices := devices ▸ mirrored.devices
  mirrors := by
    rw [deviceIndex, tagIndex, tags, devices]
    exact mirrored.mirrors

/-- Both tables are written at one serial number. -/
structure Writes (db db' : Store) (serialNumber : String) (device tag : Option (String × String)) :
    Prop where
  tags : UniqueColumn InventoryTag.serialNumber db'.inventoryDB
  devices : UniqueColumn SubscriberDevice.serialNumber db'.subscriberDeviceDB
  deviceIndex : deviceIndex db' = Function.update (deviceIndex db) serialNumber device
  tagIndex : tagIndex db' = Function.update (tagIndex db) serialNumber tag

variable {serialNumber : String} {subscription old : String × String}

theorem Mirrored.put (mirrored : Mirrored db) {new : Option (String × String)}
    (writes : Writes db db' serialNumber new new) : Mirrored db' where
  tags := writes.tags
  devices := writes.devices
  mirrors := by
    rw [writes.deviceIndex, writes.tagIndex]
    exact mirrored.mirrors.put serialNumber new

theorem Mirrored.release (mirrored : Mirrored db)
    (writes : Writes db db' serialNumber none (some subscription))
    (free : subscription.1 = "") : Mirrored db' where
  tags := writes.tags
  devices := writes.devices
  mirrors := by
    rw [writes.deviceIndex, writes.tagIndex]
    exact mirrored.mirrors.release serialNumber fun claimed => claimed free

theorem Mirrored.revise (mirrored : Mirrored db) (isShown : tagIndex db serialNumber = some old)
    (sameSubscriber : subscription.1 = old.1)
    (writes : Writes db db' serialNumber
      ((Owprov.deviceIndex db serialNumber).map fun _ => subscription) (some subscription)) :
    Mirrored db' where
  tags := writes.tags
  devices := writes.devices
  mirrors := by
    rw [writes.deviceIndex, writes.tagIndex]
    apply mirrored.mirrors.revise isShown
    exact fun claimed same => claimed (sameSubscriber.trans same)

/-- A tag without a subscriber comes where there is no device. -/
theorem Mirrored.enter (mirrored : Mirrored db)
    (tags : UniqueColumn InventoryTag.serialNumber db'.inventoryDB ∧
      tagIndex db' = Function.update (tagIndex db) serialNumber (some subscription))
    (sameDevices : db'.subscriberDeviceDB = db.subscriberDeviceDB)
    (missing : deviceIndex db serialNumber = none) (free : subscription.1 = "") :
    Mirrored db' where
  tags := tags.1
  devices := sameDevices ▸ mirrored.devices
  mirrors := by
    rw [deviceIndex, sameDevices, tags.2]
    exact mirrored.mirrors.enter missing fun claimed => claimed free

/-- A tag goes that has no device. -/
theorem Mirrored.discard (mirrored : Mirrored db)
    (tags : UniqueColumn InventoryTag.serialNumber db'.inventoryDB ∧
      tagIndex db' = Function.update (tagIndex db) serialNumber none)
    (sameDevices : db'.subscriberDeviceDB = db.subscriberDeviceDB)
    (missing : deviceIndex db serialNumber = none) : Mirrored db' where
  tags := tags.1
  devices := sameDevices ▸ mirrored.devices
  mirrors := by
    rw [deviceIndex, sameDevices, tags.2]
    exact mirrored.mirrors.discard missing

end Mirrored

/-! ## Requests on subscriber devices -/

section SubDevices

variable {ctx : Context} {db db' : Store} {device : SubscriberDevice}

/-- The tag of a device takes its subscription. -/
theorem tagIndex_createInventoryRecord {newId : String}
    (entered : createInventoryRecord db device newId = some db')
    (unique : UniqueColumn InventoryTag.serialNumber db.inventoryDB) :
    UniqueColumn InventoryTag.serialNumber db'.inventoryDB ∧
      tagIndex db' =
        Function.update (tagIndex db) device.serialNumber (some device.subscription) := by
  unfold createInventoryRecord at entered
  dsimp only at entered
  cases found : getBy db.inventoryDB InventoryTag.serialNumber device.serialNumber with
  | none =>
      rw [found] at entered
      obtain ⟨inventoryDB, inserted, rfl⟩ := Option.map_eq_some_iff.mp entered
      have free : index InventoryTag.serialNumber InventoryTag.subscription db.inventoryDB
          device.serialNumber = none := Option.map_eq_none_iff.mpr found
      exact unique.insert? InventoryTag.subscription inserted free
  | some existing =>
      rw [found] at entered
      cases entered
      have member := getBy_mem found
      have sameSerial := getBy_column found
      let record : InventoryTag :=
        { existing.ofDevice device with
          venue := if resolvedVenueId db device.subscriberId = "" then existing.venue
            else resolvedVenueId db device.subscriberId }
      have stored : db.inventoryDB.get? (key record) = some existing :=
        Table.get?_key_of_mem member
      rw [← sameSerial]
      exact unique.update InventoryTag.subscription stored rfl

/-- A device is stored, and its tag follows. -/
theorem writes_createInventoryRecord {stored : Store} {newId : String}
    (entered : createInventoryRecord stored device newId = some db')
    (tags : UniqueColumn InventoryTag.serialNumber db.inventoryDB)
    (sameTags : stored.inventoryDB = db.inventoryDB)
    (devices : UniqueColumn SubscriberDevice.serialNumber stored.subscriberDeviceDB ∧
      deviceIndex stored =
        Function.update (deviceIndex db) device.serialNumber (some device.subscription)) :
    Writes db db' device.serialNumber (some device.subscription) (some device.subscription) := by
  have sameDevices := subscriberDeviceDB_createInventoryRecord entered
  have sameIndex : deviceIndex db' = deviceIndex stored := by
    rw [deviceIndex, sameDevices, deviceIndex]
  obtain ⟨unique, tagged⟩ := tagIndex_createInventoryRecord entered (sameTags ▸ tags)
  constructor
  case tags => exact unique
  case devices => exact sameDevices ▸ devices.1
  case deviceIndex => rw [sameIndex, devices.2]
  case tagIndex => rw [tagged, tagIndex, sameTags, tagIndex]

theorem inventoryDB_startMonitoring :
    (startMonitoring ctx db device).inventoryDB = db.inventoryDB := by
  unfold startMonitoring
  split
  · rfl
  · split
    · rfl
    · split <;> rfl

/-- A new device gets a tag with its subscription, whether the inventory has one or not. -/
theorem Mirrored.subDeviceDoPost (mirrored : Mirrored db) (request : Request) :
    Mirrored (subDeviceDoPost ctx db request).store := by
  unfold Owprov.subDeviceDoPost
  split
  · exact mirrored
  · rename_i body device configuration planned
    have free := subDeviceDoPostPlan_free planned
    split
    · exact mirrored
    · rename_i configured configuredDevice created
      have tables : configured.subscriberDeviceDB = db.subscriberDeviceDB ∧
          configured.inventoryDB = db.inventoryDB := by
        rcases createConfigurationRecord_eq_ok created with ⟨same, _⟩ | ⟨_, _, _, _, same, _⟩ <;>
          rw [same] <;> exact ⟨rfl, rfl⟩
      have sameSerial : configuredDevice.serialNumber = device.serialNumber := by
        rcases createConfigurationRecord_eq_ok created with ⟨_, same⟩ | ⟨_, _, _, _, _, same⟩ <;>
          rw [same]
      have kept : Mirrored configured := mirrored.congr tables.2 tables.1
      split
      · exact kept
      · rename_i info named
        dsimp only
        split
        · exact kept
        · rename_i subscriberDeviceDB inserted
          split
          · rw [Outcome.store_fail]
            exact kept.congr rfl (Table.delete_of_insert? inserted)
          · rename_i entered isEntered
            have missing : index SubscriberDevice.serialNumber SubscriberDevice.subscription
                configured.subscriberDeviceDB configuredDevice.serialNumber = none := by
              rw [index, tables.1, sameSerial]
              exact Option.map_eq_none_iff.mpr free
            have devices := kept.devices.insert? SubscriberDevice.subscription inserted missing
            have entered' := kept.put (writes_createInventoryRecord isEntered kept.tags rfl devices)
            rw [Outcome.store_done]
            exact entered'.congr inventoryDB_startMonitoring subscriberDeviceDB_startMonitoring

/-! ### Updates -/

theorem deviceConfiguration_of_fromJson {body : JsonObject}
    (read : SubscriberDevice.fromJson body = .ok device) :
    device.deviceConfiguration = body.stringField "deviceConfiguration" := by
  unfold SubscriberDevice.fromJson at read
  rw [orInvalid_eq_ok_iff, bind_eq_ok_iff] at read
  obtain ⟨_, _, read⟩ := read
  obtain rfl := Except.ok.inj read
  rfl

theorem deviceConfiguration_of_applyPutRequest {body : JsonObject}
    {update existing projected : SubscriberDevice}
    (applied : applyPutRequest body update existing = .ok projected) :
    projected.deviceConfiguration =
      if body.has "deviceConfiguration" || body.has "configuration" then
        update.deviceConfiguration
      else existing.deviceConfiguration := by
  simp only [applyPutRequest, bind_eq_ok_iff] at applied
  obtain ⟨info, _, _, _, _, _, _, _, _, _, _, _, _, _, _, _, applied⟩ := applied
  obtain ⟨_, _, _, _, _, _, applied⟩ := applied
  obtain rfl := Except.ok.inj applied
  rfl

/-- A configuration that was not written is still the configuration of the device. -/
theorem deviceConfiguration_of_not_updated {put : SubDevicePut}
    {configured : ConfigurationUpdate}
    (configuredOk : updateConfigurationRecord ctx db put = .ok configured)
    (present : put.body.has "configuration" = true)
    (unnamed : put.update.deviceConfiguration = "") (notUpdated : configured.updated = false) :
    configured.deviceConfiguration = put.existing.deviceConfiguration := by
  have effective : put.effectiveConfigurationId = put.existing.deviceConfiguration :=
    if_pos unnamed
  unfold updateConfigurationRecord at configuredOk
  dsimp only at configuredOk
  rw [effective, if_neg (by rw [present]; decide)] at configuredOk
  split at configuredOk
  case isTrue empty =>
    cases configuredOk
    exact (bne_eq_false_iff_eq.mp notUpdated).symm
  case isFalse filled =>
    split at configuredOk
    case h_1 record found =>
      have isKey : record.info.id = put.existing.deviceConfiguration := by
        split at found
        · cases found
        · exact Table.key_of_get? found
      split at configuredOk
      · cases configuredOk
        exact isKey
      · split at configuredOk
        · cases configuredOk
        · cases configuredOk
          cases notUpdated
    case h_2 missing =>
      cases created : createConfigurationRecord ctx db put.update put.configuration
          (ctx.newId 0) with
      | error failure =>
          rw [created] at configuredOk
          cases configuredOk
      | ok pair =>
          rw [created] at configuredOk
          cases configuredOk
          cases notUpdated

/-- Without a copy to the inventory a device keeps its subscription. -/
theorem subscription_of_not_synced {request : Request} {put : SubDevicePut}
    {configured : ConfigurationUpdate} {projected : SubscriberDevice}
    (parsed : parsePutRequest ctx db request = .ok put)
    (configuredOk : updateConfigurationRecord ctx db put = .ok configured)
    (applied : applyPutRequest put.body
      { put.update with deviceConfiguration := configured.deviceConfiguration } put.existing =
        .ok projected)
    (notSynced : ((configured.updated || put.body.has "deviceConfiguration" &&
      put.existing.deviceConfiguration != projected.deviceConfiguration) ||
        syncsInventory put.body) = false) :
    projected.subscription = put.existing.subscription := by
  obtain ⟨_, isUpdate, _, _⟩ := existing_of_parsePutRequest parsed
  rw [Bool.or_eq_false_iff, Bool.or_eq_false_iff, Bool.and_eq_false_iff] at notSynced
  obtain ⟨⟨notUpdated, sameOrAbsent⟩, notCopied⟩ := notSynced
  have noSubscriber : put.body.has "subscriberId" = false := by
    rw [syncsInventory, List.any_cons, Bool.or_eq_false_iff] at notCopied
    exact notCopied.1
  have subscriber : projected.subscriberId = put.existing.subscriberId := by
    rw [(applyPutRequest_eq_ok applied).2.1, newReference, if_neg (by rw [noSubscriber]; decide)]
  have configuration : projected.deviceConfiguration = put.existing.deviceConfiguration := by
    rcases sameOrAbsent with absent | same
    · have unnamed : put.update.deviceConfiguration = "" := by
        rw [deviceConfiguration_of_fromJson isUpdate]
        exact stringField_of_has absent
      rw [deviceConfiguration_of_applyPutRequest applied, absent, Bool.false_or]
      split
      case isTrue present =>
        exact deviceConfiguration_of_not_updated configuredOk present unnamed notUpdated
      case isFalse none => rfl
    · exact (bne_eq_false_iff_eq.mp same).symm
  rw [SubscriberDevice.subscription, subscriber, configuration]
  rfl

theorem subscriberDeviceDB_storeSubDevice (db : Store) (put : SubDevicePut)
    (projected : SubscriberDevice) :
    (storeSubDevice db put projected).subscriberDeviceDB =
      db.subscriberDeviceDB.update projected := by
  unfold storeSubDevice
  dsimp only
  split
  · rw [tables_cleanupSubscriberConfigurationRecord]
  · rfl

/-- The tag of a device that has one follows, when the inventory is to follow. -/
theorem writes_syncInventory {stored : Store} {body : JsonObject} {updated : Bool}
    {subscription : String × String} (tagged : tagIndex db device.serialNumber = some subscription)
    (tags : UniqueColumn InventoryTag.serialNumber db.inventoryDB)
    (sameTags : stored.inventoryDB = db.inventoryDB)
    (devices : UniqueColumn SubscriberDevice.serialNumber stored.subscriberDeviceDB ∧
      deviceIndex stored =
        Function.update (deviceIndex db) device.serialNumber (some device.subscription))
    (kept : (updated || syncsInventory body) = false → device.subscription = subscription) :
    Writes db (syncInventory ctx stored body device updated).store device.serialNumber
      (some device.subscription) (some device.subscription) := by
  unfold syncInventory
  split
  case isTrue synced =>
    have present : ∃ tag, getBy stored.inventoryDB InventoryTag.serialNumber device.serialNumber =
        some tag := by
      obtain ⟨tag, found, _⟩ := Option.map_eq_some_iff.mp tagged
      exact ⟨tag, sameTags ▸ found⟩
    obtain ⟨tag, found⟩ := present
    have entered : ∃ entered, createInventoryRecord stored device (ctx.newId 1) = some entered := by
      rw [createInventoryRecord, found]
      exact ⟨_, rfl⟩
    obtain ⟨entered, isEntered⟩ := entered
    rw [isEntered]
    exact writes_createInventoryRecord isEntered tags sameTags devices
  case isFalse notSynced =>
    have same := kept (Bool.eq_false_of_not_eq_true notSynced)
    constructor
    case tags => exact sameTags ▸ tags
    case devices => exact devices.1
    case deviceIndex => exact devices.2
    case tagIndex =>
      have sameIndex : tagIndex stored = tagIndex db := by
        rw [tagIndex, sameTags, tagIndex]
      rw [Outcome.store_done, sameIndex, same, ← tagged, Function.update_eq_self]

theorem Mirrored.subDeviceDoPut (mirrored : Mirrored db) (request : Request) :
    Mirrored (subDeviceDoPut ctx db request).store := by
  unfold Owprov.subDeviceDoPut
  split
  · exact mirrored
  · rename_i put parsed
    split
    · exact mirrored
    · rename_i configured configuredOk
      have tables := tables_updateConfigurationRecord configuredOk
      have sameTags : configured.db.inventoryDB = db.inventoryDB := by rw [tables]
      have sameDevices : configured.db.subscriberDeviceDB = db.subscriberDeviceDB := by rw [tables]
      dsimp only
      split
      · exact mirrored.congr sameTags sameDevices
      · rename_i projected applied
        obtain ⟨_, _, found, _⟩ := existing_of_parsePutRequest parsed
        have sameSerial := (configuration_of_applyPutRequest applied).1
        have sameId := (applyPutRequest_eq_ok applied).1
        have member := Table.mem_of_get? found
        have shown := mirrored.devices.index_of_mem SubscriberDevice.subscription member
        have tagged := mirrored.tagIndex_of_mem member
        split
        · have unchanged : Function.update (deviceIndex db) put.existing.serialNumber
              (some put.existing.subscription) = deviceIndex db := by
            rw [show some put.existing.subscription = deviceIndex db put.existing.serialNumber from
              shown.symm, Function.update_eq_self]
          have devices : UniqueColumn SubscriberDevice.serialNumber
              configured.db.subscriberDeviceDB ∧ deviceIndex configured.db =
                Function.update (deviceIndex db) put.existing.serialNumber
                  (some put.existing.subscription) := by
            rw [unchanged, deviceIndex, sameDevices]
            exact ⟨mirrored.devices, rfl⟩
          exact mirrored.put
            (writes_syncInventory tagged mirrored.tags sameTags devices fun _ => rfl)
        · have stored : db.subscriberDeviceDB.get? (key projected) = some put.existing := by
            rw [show key projected = put.existing.info.id from sameId]
            exact Table.get?_key_of_mem member
          have updated := mirrored.devices.update SubscriberDevice.subscription stored sameSerial
          have devices : UniqueColumn SubscriberDevice.serialNumber
              (storeSubDevice configured.db put projected).subscriberDeviceDB ∧
              deviceIndex (storeSubDevice configured.db put projected) =
                Function.update (deviceIndex db) projected.serialNumber
                  (some projected.subscription) := by
            rw [deviceIndex, subscriberDeviceDB_storeSubDevice, sameDevices]
            exact updated
          rw [← sameSerial] at tagged
          refine mirrored.put (writes_syncInventory tagged mirrored.tags ?_ devices fun kept => ?_)
          · rw [inventoryDB_storeSubDevice, sameTags]
          · exact subscription_of_not_synced parsed configuredOk applied kept

/-! ### Deletions -/

theorem tagIndex_deleteInventory (unique : UniqueColumn InventoryTag.serialNumber db.inventoryDB) :
    UniqueColumn InventoryTag.serialNumber
      (deleteInventoryForSubscriberDevice db device).inventoryDB ∧
      tagIndex (deleteInventoryForSubscriberDevice db device) =
        Function.update (tagIndex db) device.serialNumber none := by
  unfold deleteInventoryForSubscriberDevice
  cases found : getBy db.inventoryDB InventoryTag.serialNumber device.serialNumber with
  | none =>
      have missing : tagIndex db device.serialNumber = none := Option.map_eq_none_iff.mpr found
      have unchanged : Function.update (tagIndex db) device.serialNumber none = tagIndex db := by
        rw [← missing, Function.update_eq_self]
      rw [unchanged, tables_cleanupSubscriberConfigurationRecord]
      exact ⟨unique, rfl⟩
  | some tag =>
      rw [← getBy_column found]
      dsimp only
      rw [tables_cleanups]
      exact unique.delete InventoryTag.subscription (getBy_mem found)

/-- A device leaves with its tag. -/
theorem Mirrored.subDeviceDoDelete (mirrored : Mirrored db) (request : Request) :
    Mirrored (subDeviceDoDelete ctx db request).store := by
  unfold Owprov.subDeviceDoDelete
  split
  · exact mirrored
  · rename_i existing validated
    split
    · exact mirrored
    · rename_i stopped isStopped
      obtain ⟨venueDB, rfl, _⟩ := tables_stopMonitoring isStopped
      have member : existing ∈ db.subscriberDeviceDB.rows := by
        simp only [validateDeleteRequest, bind_eq_ok_iff, require_eq_ok_iff] at validated
        obtain ⟨_, _, device, bound, _, _, same⟩ := validated
        rw [← Except.ok.inj same]
        exact boundSubDevice_eq_ok bound
      let removed : Store :=
        { db with
          venueDB := venueDB
          subscriberDeviceDB := db.subscriberDeviceDB.delete existing.info.id }
      have devices := mirrored.devices.delete SubscriberDevice.subscription member
      have tags : UniqueColumn InventoryTag.serialNumber
          (deleteInventoryForSubscriberDevice removed existing).inventoryDB ∧
          tagIndex (deleteInventoryForSubscriberDevice removed existing) =
            Function.update (tagIndex removed) existing.serialNumber none :=
        tagIndex_deleteInventory mirrored.tags
      have sameDevices : (deleteInventoryForSubscriberDevice removed existing).subscriberDeviceDB =
          db.subscriberDeviceDB.delete existing.info.id := subscriberDeviceDB_deleteInventory
      have writes : Writes db (deleteInventoryForSubscriberDevice removed existing)
          existing.serialNumber none none := by
        constructor
        case tags => exact tags.1
        case devices => exact sameDevices ▸ devices.1
        case deviceIndex =>
          rw [deviceIndex, sameDevices]
          exact devices.2
        case tagIndex => exact tags.2
      exact mirrored.put writes

end SubDevices

/-! ## Requests on the inventory -/

/-- An accepted POST sets no subscriber. -/
def EntersVacant (ctx : Context) (db : Store) (request : Request) : Prop :=
  (inventoryDoPost ctx db request).Succeeds →
    ∀ body, request.body = some body → body.stringField "subscriber" = ""

/-- An accepted PUT keeps the subscriber of its tag, and `removeSubscriber` is about a subscriber
with one tag. -/
def KeepsSubscribers (ctx : Context) (db : Store) (request : Request) : Prop :=
  (inventoryDoPut ctx db request).Succeeds →
    ∀ existing, getBy db.inventoryDB InventoryTag.serialNumber
        (request.getBinding "serialNumber") = some existing →
      if request.getParameter "removeSubscriber" ≠ "" then
        ∀ tag ∈ db.inventoryDB.rows, tag.subscriber = existing.subscriber → tag = existing
      else
        ∀ body, request.body = some body →
          newReference body "subscriber" existing.subscriber = existing.subscriber

section Inventory

variable {ctx : Context} {db : Store} {request : Request} {existing : InventoryTag}

theorem subscriber_of_inventoryDoPostPlan {tag : InventoryTag}
    {config : Option DeviceConfiguration}
    (planned : inventoryDoPostPlan ctx db request = .ok (tag, config)) :
    ∃ body, request.body = some body ∧ tag.subscriber = body.stringField "subscriber" := by
  simp only [inventoryDoPostPlan, bind_eq_ok_iff, require_eq_ok_iff] at planned
  obtain ⟨_, _, _, _, _, _, body, read, newObject, fields, _, _, planned⟩ := planned
  obtain ⟨_, _, _, _, _, _, _, _, _, _, _, _, _, _, _, _, planned⟩ := planned
  obtain ⟨_, _, _, _, _, _, _, _, _, _, planned⟩ := planned
  obtain ⟨rfl, _⟩ := Prod.mk.inj (Except.ok.inj planned)
  obtain rfl := Except.ok.inj fields
  exact ⟨body, body_of_jsonBody read, rfl⟩

theorem Mirrored.inventoryDoPost (mirrored : Mirrored db) (vacant : EntersVacant ctx db request) :
    Mirrored (inventoryDoPost ctx db request).store := by
  unfold EntersVacant at vacant
  unfold Owprov.inventoryDoPost at vacant ⊢
  cases planned : inventoryDoPostPlan ctx db request with
  | error failure => exact mirrored
  | ok result =>
      obtain ⟨tag, config⟩ := result
      rw [planned] at vacant
      dsimp only at vacant ⊢
      cases stored : storeInlineConfiguration db config with
      | error failure => exact mirrored
      | ok configured =>
          rw [stored] at vacant
          dsimp only at vacant ⊢
          have tables := storeInlineConfiguration_eq_ok stored
          have sameTags : configured.inventoryDB = db.inventoryDB := by rw [tables]
          have kept : Mirrored configured := mirrored.congr sameTags (by rw [tables])
          cases inserted : configured.inventoryDB.insert? tag with
          | none => exact kept
          | some inventoryDB =>
              rw [inserted] at vacant
              obtain ⟨body, isBody, sameSubscriber⟩ := subscriber_of_inventoryDoPostPlan planned
              have noSubscriber : tag.subscriber = "" := by
                rw [sameSubscriber]
                exact vacant rfl body isBody
              have free : tagIndex configured tag.serialNumber = none := by
                rw [tagIndex, index, sameTags]
                exact Option.map_eq_none_iff.mpr (inventoryDoPostPlan_free planned)
              have tags := kept.tags.insert? InventoryTag.subscription inserted free
              exact kept.enter tags rfl (kept.mirrors.primary_eq_none free) noSubscriber

/-- The only device of a subscriber goes, and its tag has no subscriber any more. -/
theorem Mirrored.removeSubscriber (mirrored : Mirrored db) (member : existing ∈ db.inventoryDB.rows)
    {subscriber : String}
    (alone : existing.subscriber = subscriber →
      ∀ tag ∈ db.inventoryDB.rows, tag.subscriber = existing.subscriber → tag = existing) :
    Mirrored (removeSubscriber ctx db existing subscriber).store := by
  unfold Owprov.removeSubscriber
  split
  case isFalse other => exact mirrored
  case isTrue same =>
    have goes : ∀ device ∈ db.subscriberDeviceDB.rows,
        (device.subscriberId == subscriber) = true ↔
          device.serialNumber = existing.serialNumber := by
      intro device isDevice
      have shown := mirrored.tagIndex_of_mem isDevice
      rw [beq_iff_eq]
      constructor
      · intro mine
        obtain ⟨tag, isTag, sameSerial, subscription⟩ := exists_of_index shown
        have sameSubscriber : tag.subscriber = device.subscriberId :=
          congrArg Prod.fst subscription
        have isExisting := alone same tag isTag (by rw [sameSubscriber, mine, same])
        rw [← sameSerial, isExisting]
      · intro sameSerial
        have tagged := mirrored.tags.index_of_mem InventoryTag.subscription member
        rw [sameSerial] at shown
        have subscription := Option.some.inj (shown.symm.trans tagged)
        exact (congrArg Prod.fst subscription).trans same
    have devices := mirrored.devices.deleteWhere SubscriberDevice.subscription goes
    let released : InventoryTag :=
      { existing with
        deviceConfiguration :=
          if idExists db.configurationDB existing.deviceConfiguration then ""
          else existing.deviceConfiguration
        subscriber := ""
        devClass := "any"
        state := returnedState ctx.env.now }
    have stored : db.inventoryDB.get? (key released) = some existing :=
      Table.get?_key_of_mem member
    have tags := mirrored.tags.update InventoryTag.subscription stored rfl
    exact mirrored.release ⟨tags.1, devices.1, devices.2, tags.2⟩ rfl

theorem subscriber_of_inventoryDoPutPlan {update : TagUpdate}
    (planned : inventoryDoPutPlan ctx db request existing = .ok update) :
    update.updated.serialNumber = existing.serialNumber ∧ ∃ body, request.body = some body ∧
      update.updated.subscriber = newReference body "subscriber" existing.subscriber := by
  simp only [inventoryDoPutPlan, bind_eq_ok_iff, require_eq_ok_iff] at planned
  obtain ⟨body, read, newObject, _, _, _, _, _, _, _, info, _, policyMove, _, planned⟩ := planned
  obtain ⟨_, _, _, _, _, _, _, _, _, _, subscriber, isSubscriber, planned⟩ := planned
  obtain ⟨_, _, _, _, planned⟩ := planned
  cases planned
  simp only [updatedSubscriber, bind_eq_ok_iff, require_eq_ok_iff] at isSubscriber
  obtain ⟨_, assigned, _, _, same⟩ := isSubscriber
  obtain rfl := Except.ok.inj same
  exact ⟨rfl, body, body_of_jsonBody read, assignIfPresent_eq_ok assigned⟩

/-- The device of a tag follows the configuration. -/
theorem deviceIndex_syncSubscriberDevice {serialNumber subscriber : String}
    (unique : UniqueColumn SubscriberDevice.serialNumber db.subscriberDeviceDB)
    (sameSubscriber : ∀ device ∈ db.subscriberDeviceDB.rows, device.serialNumber = serialNumber →
      device.subscriberId = subscriber) (deviceConfiguration : String) :
    UniqueColumn SubscriberDevice.serialNumber
      (syncSubscriberDevice db serialNumber deviceConfiguration) ∧
      index SubscriberDevice.serialNumber SubscriberDevice.subscription
          (syncSubscriberDevice db serialNumber deviceConfiguration) =
        Function.update (deviceIndex db) serialNumber
          ((deviceIndex db serialNumber).map fun _ => (subscriber, deviceConfiguration)) := by
  rw [syncSubscriberDevice]
  cases found : getBy db.subscriberDeviceDB SubscriberDevice.serialNumber serialNumber with
  | none =>
      have missing : deviceIndex db serialNumber = none := Option.map_eq_none_iff.mpr found
      refine ⟨unique, ?_⟩
      rw [missing, Option.map_none, ← missing, Function.update_eq_self]
      rfl
  | some device =>
      have member := getBy_mem found
      have isSerial := getBy_column found
      have shown : deviceIndex db serialNumber = some device.subscription := by
        rw [← isSerial]
        exact unique.index_of_mem SubscriberDevice.subscription member
      let revised : SubscriberDevice := { device with deviceConfiguration := deviceConfiguration }
      have stored : db.subscriberDeviceDB.get? (key revised) = some device :=
        Table.get?_key_of_mem member
      have isRevised : revised.subscription = (subscriber, deviceConfiguration) := by
        rw [← sameSubscriber device member isSerial]
        rfl
      have updated := unique.update SubscriberDevice.subscription stored rfl
      rw [isRevised, show revised.serialNumber = serialNumber from isSerial] at updated
      rw [shown]
      exact updated

/-- A tag that keeps its subscriber is stored, and its device follows. -/
theorem Mirrored.updateTag (mirrored : Mirrored db) {serialNumber : String}
    (found : getBy db.inventoryDB InventoryTag.serialNumber serialNumber = some existing)
    {configured : Store} {config : Option DeviceConfiguration}
    (inline : storeInlineConfiguration db config = .ok configured) {updated : InventoryTag}
    (sameSerial : updated.serialNumber = existing.serialNumber)
    (sameId : updated.info.id = existing.info.id)
    (sameSubscriber : updated.subscriber = existing.subscriber) {moves : TagMoves} :
    Mirrored
      { moveTag { configured with inventoryDB := configured.inventoryDB.update updated } moves
          updated.info.id with
        subscriberDeviceDB := syncSubscriberDevice
          (moveTag { configured with inventoryDB := configured.inventoryDB.update updated } moves
            updated.info.id) serialNumber updated.deviceConfiguration } := by
  have tables := storeInlineConfiguration_eq_ok inline
  have sameTags : configured.inventoryDB = db.inventoryDB := by rw [tables]
  have sameDevices : configured.subscriberDeviceDB = db.subscriberDeviceDB := by rw [tables]
  have kept : Mirrored configured := mirrored.congr sameTags sameDevices
  have member : existing ∈ configured.inventoryDB.rows := sameTags ▸ getBy_mem found
  have isSerial := getBy_column found
  have stored : configured.inventoryDB.get? (key updated) = some existing := by
    rw [show key updated = key existing from sameId]
    exact Table.get?_key_of_mem member
  have tags := kept.tags.update InventoryTag.subscription stored sameSerial
  rw [sameSerial, isSerial] at tags
  have isShown : tagIndex configured serialNumber = some existing.subscription := by
    rw [← isSerial]
    exact kept.tags.index_of_mem InventoryTag.subscription member
  have subscribers : ∀ device ∈ configured.subscriberDeviceDB.rows,
      device.serialNumber = serialNumber → device.subscriberId = updated.subscriber := by
    intro device isDevice deviceSerial
    have shown := kept.tagIndex_of_mem isDevice
    rw [deviceSerial, isShown] at shown
    rw [sameSubscriber]
    exact (congrArg Prod.fst (Option.some.inj shown)).symm
  have devices := deviceIndex_syncSubscriberDevice kept.devices subscribers
    updated.deviceConfiguration
  exact kept.revise isShown sameSubscriber ⟨tags.1, devices.1, devices.2, tags.2⟩

theorem Mirrored.inventoryDoPut (mirrored : Mirrored db)
    (keeps : KeepsSubscribers ctx db request) : Mirrored (inventoryDoPut ctx db request).store := by
  unfold KeepsSubscribers at keeps
  unfold Owprov.inventoryDoPut at keeps ⊢
  dsimp only at keeps ⊢
  split
  · exact mirrored
  · rename_i isValid
    rw [if_neg isValid] at keeps
    cases found : getBy db.inventoryDB InventoryTag.serialNumber
        (request.getBinding "serialNumber") with
    | none => exact mirrored
    | some existing =>
        rw [found] at keeps
        dsimp only at keeps ⊢
        have member := getBy_mem found
        split
        case isTrue removes =>
          rw [if_pos removes] at keeps
          apply mirrored.removeSubscriber member
          intro same
          have accepted : (Owprov.removeSubscriber ctx db existing
              (request.getParameter "removeSubscriber")).Succeeds := by
            rw [Owprov.removeSubscriber, if_pos same]
            rfl
          simpa [removes] using keeps accepted existing rfl
        case isFalse updates =>
          rw [if_neg updates] at keeps
          cases planned : inventoryDoPutPlan ctx db request existing with
          | error failure => exact mirrored
          | ok update =>
              rw [planned] at keeps
              dsimp only at keeps ⊢
              unfold inventoryDoPutCommit at keeps ⊢
              cases inline : storeInlineConfiguration db update.config with
              | error failure => exact mirrored
              | ok configured =>
                  rw [inline] at keeps
                  dsimp only at keeps ⊢
                  obtain ⟨sameSerial, body, isBody, newSubscriber⟩ :=
                    subscriber_of_inventoryDoPutPlan planned
                  have sameSubscriber : update.updated.subscriber = existing.subscriber := by
                    have kept := keeps rfl existing rfl
                    rw [if_neg updates] at kept
                    rw [newSubscriber, kept body isBody]
                  exact mirrored.updateTag found inline sameSerial
                    (id_of_inventoryDoPutPlan planned) sameSubscriber

/-- A tag without a device goes. -/
theorem Mirrored.inventoryDoDelete (mirrored : Mirrored db) (request : Request) :
    Mirrored (inventoryDoDelete db request).store := by
  unfold Owprov.inventoryDoDelete
  split
  · exact mirrored
  · rename_i existing planned
    have member := Table.mem_of_get? (inventoryDoDeletePlan_eq_ok planned)
    have noDevice : deviceIndex db existing.serialNumber = none := by
      unfold inventoryDoDeletePlan at planned
      dsimp only at planned
      split at planned
      · cases planned
      · simp only [bind_eq_ok_iff, require_eq_ok_iff, Bool.and_eq_true] at planned
        obtain ⟨_, _, _, ⟨_, missing⟩, same⟩ := planned
        obtain rfl := Except.ok.inj same
        exact Option.map_eq_none_iff.mpr (Option.isNone_iff_eq_none.mp missing)
    have tags := mirrored.tags.delete InventoryTag.subscription member
    exact mirrored.discard tags rfl noDevice

end Inventory

/-! ## The signup worker -/

/-- The devices that the worker finds have no configuration; a MAC address that is no number ends
the loop. -/
def FindsBareDevices (inventoryDB : Table InventoryTag) : List SignupEntry → Prop
  | [] => True
  | entry :: rest =>
      if entry.statusCode = .signupWaitingForDevice then
        match triedSerialNumbers entry.macAddress with
        | none => True
        | some serialNumbers =>
            (∀ found, findDevice inventoryDB serialNumbers = some found →
              found.2.deviceConfiguration = "") ∧ FindsBareDevices inventoryDB rest
      else
        FindsBareDevices inventoryDB rest

/-- What the worker asks of a tag, and its configuration. -/
def InventoryTag.stock (tag : InventoryTag) : String × String :=
  (tag.deviceType, tag.deviceConfiguration)

def stockIndex (inventoryDB : Table InventoryTag) : String → Option (String × String) :=
  index InventoryTag.serialNumber InventoryTag.stock inventoryDB

section Worker

variable {env : SignupEnv} {ctx : Context} {db : Store}
  {inventoryDB inventoryDB' : Table InventoryTag}

/-- The worker reads no more than the stock. -/
theorem stock_findDevice (inventoryDB : Table InventoryTag) (serialNumbers : List String) :
    (findDevice inventoryDB serialNumbers).map (fun found => found.2.stock) =
      serialNumbers.findSome? fun serialNumber =>
        (stockIndex inventoryDB serialNumber).bind fun stock =>
          if stock.1 = "" then none else some stock := by
  rw [findDevice, List.map_findSome?]
  congr 1
  funext serialNumber
  rw [Function.comp_apply]
  cases found : getBy inventoryDB InventoryTag.serialNumber serialNumber with
  | none =>
      have missing : stockIndex inventoryDB serialNumber = none :=
        Option.map_eq_none_iff.mpr found
      rw [missing]
      rfl
  | some tag =>
      have shown : stockIndex inventoryDB serialNumber = some tag.stock :=
        congrArg (Option.map InventoryTag.stock) found
      rw [shown, Option.bind_some, InventoryTag.stock]
      dsimp only
      split <;> rfl

theorem bare_congr (same : stockIndex inventoryDB' = stockIndex inventoryDB)
    {serialNumbers : List String}
    (bare : ∀ found, findDevice inventoryDB serialNumbers = some found →
      found.2.deviceConfiguration = "") :
    ∀ found, findDevice inventoryDB' serialNumbers = some found →
      found.2.deviceConfiguration = "" := by
  intro found isFound
  have stocks := stock_findDevice inventoryDB' serialNumbers
  rw [same, ← stock_findDevice inventoryDB serialNumbers, isFound, Option.map_some] at stocks
  obtain ⟨found', isFound', sameStock⟩ := Option.map_eq_some_iff.mp stocks.symm
  have configuration : found'.2.deviceConfiguration = found.2.deviceConfiguration :=
    congrArg Prod.snd sameStock
  rw [← configuration]
  exact bare found' isFound'

theorem FindsBareDevices.congr {entries : List SignupEntry}
    (bare : FindsBareDevices inventoryDB entries)
    (same : stockIndex inventoryDB' = stockIndex inventoryDB) :
    FindsBareDevices inventoryDB' entries := by
  induction entries with
  | nil => trivial
  | cons entry rest ih =>
      unfold FindsBareDevices at bare ⊢
      split
      case isTrue waits =>
        rw [if_pos waits] at bare
        cases tried : triedSerialNumbers entry.macAddress with
        | none => trivial
        | some serialNumbers =>
            rw [tried] at bare
            exact ⟨bare_congr same bare.1, ih bare.2⟩
      case isFalse other =>
        rw [if_neg other] at bare
        exact ih bare

theorem stockIndex_completeSignup {now : ℕ} {entry : SignupEntry} {serialNumber newId : String}
    {tag : InventoryTag} (unique : UniqueColumn InventoryTag.serialNumber db.inventoryDB)
    (member : tag ∈ db.inventoryDB.rows) :
    stockIndex (completeSignup env now db entry serialNumber newId tag).inventoryDB =
      stockIndex db.inventoryDB := by
  let completed : InventoryTag :=
    { tag with
      subscriber := entry.userId
      realMacAddress := entry.macAddress
      state := env.completedState }
  have stored : db.inventoryDB.get? (key completed) = some tag := Table.get?_key_of_mem member
  have updated := unique.update InventoryTag.stock stored rfl
  have shown := unique.index_of_mem InventoryTag.stock member
  show index InventoryTag.serialNumber InventoryTag.stock (db.inventoryDB.update completed) = _
  rw [updated.2, show completed.serialNumber = tag.serialNumber from rfl,
    show some completed.stock = index InventoryTag.serialNumber InventoryTag.stock db.inventoryDB
      tag.serialNumber from shown.symm, Function.update_eq_self]
  rfl

/-- A completed signup gives the device of its tag to the subscriber. -/
theorem Mirrored.completeSignup (mirrored : Mirrored db) {now : ℕ} {entry : SignupEntry}
    {serialNumber newId : String} {tag : InventoryTag} (member : tag ∈ db.inventoryDB.rows)
    (isSerial : tag.serialNumber = serialNumber) (bare : tag.deviceConfiguration = "")
    (free : db.subscriberDeviceDB.get? newId = none) :
    Mirrored (completeSignup env now db entry serialNumber newId tag) := by
  let completed : InventoryTag :=
    { tag with
      subscriber := entry.userId
      realMacAddress := entry.macAddress
      state := env.completedState }
  have stored : db.inventoryDB.get? (key completed) = some tag := Table.get?_key_of_mem member
  have tags := mirrored.tags.update InventoryTag.subscription stored rfl
  have isSubscription : completed.subscription = (entry.userId, "") := congrArg _ bare
  rw [isSubscription, show completed.serialNumber = serialNumber from isSerial] at tags
  let cleared := db.subscriberDeviceDB.deleteWhere fun device => device.serialNumber == serialNumber
  have deleted : UniqueColumn SubscriberDevice.serialNumber cleared ∧
      index SubscriberDevice.serialNumber SubscriberDevice.subscription cleared =
        Function.update (deviceIndex db) serialNumber none :=
    mirrored.devices.deleteWhere SubscriberDevice.subscription fun row _ => beq_iff_eq
  let device := signupDevice env db entry serialNumber newId tag
  have unused : cleared.get? (key device) = none := get?_deleteWhere_eq_none free _
  obtain ⟨table, inserted⟩ := Table.insert?_isSome unused
  have missing : index SubscriberDevice.serialNumber SubscriberDevice.subscription cleared
      serialNumber = none := by
    rw [deleted.2, Function.update_self]
  have devices := deleted.1.insert? SubscriberDevice.subscription inserted missing
  rw [deleted.2, show device.serialNumber = serialNumber from rfl, Function.update_idem,
    show device.subscription = (entry.userId, "") from rfl] at devices
  have stored : (cleared.insert? device).getD cleared = table := by
    rw [inserted]
    rfl
  have writes : Writes db (Owprov.completeSignup env now db entry serialNumber newId tag)
      serialNumber (some (entry.userId, "")) (some (entry.userId, "")) := by
    constructor
    case tags => exact tags.1
    case devices =>
      show UniqueColumn SubscriberDevice.serialNumber ((cleared.insert? device).getD cleared)
      rw [stored]
      exact devices.1
    case deviceIndex =>
      show index SubscriberDevice.serialNumber SubscriberDevice.subscription
        ((cleared.insert? device).getD cleared) = _
      rw [stored, devices.2]
    case tagIndex => exact tags.2
  exact mirrored.put writes

theorem get?_completeSignup {now : ℕ} {entry : SignupEntry} {serialNumber newId id : String}
    {tag : InventoryTag} (free : db.subscriberDeviceDB.get? id = none) (differs : id ≠ newId) :
    (completeSignup env now db entry serialNumber newId tag).subscriberDeviceDB.get? id = none := by
  let cleared := db.subscriberDeviceDB.deleteWhere fun device => device.serialNumber == serialNumber
  have unused : cleared.get? id = none := get?_deleteWhere_eq_none free _
  show ((cleared.insert? (signupDevice env db entry serialNumber newId tag)).getD cleared).get? id =
    none
  cases inserted : cleared.insert? (signupDevice env db entry serialNumber newId tag) with
  | none => exact unused
  | some table =>
      rw [Option.getD_some, Table.get?_insert? inserted, if_neg, unused]
      exact differs

/-- The new ids of the devices of a worker. -/
structure Context.NewDevices (ctx : Context) (db : Store) : Prop where
  distinct : Function.Injective ctx.newId
  free : ∀ i, db.subscriberDeviceDB.get? (ctx.newId i) = none

theorem Mirrored.workerLoop {created : ℕ} {entries : List SignupEntry} (mirrored : Mirrored db)
    (bare : FindsBareDevices db.inventoryDB entries) (distinct : Function.Injective ctx.newId)
    (free : ∀ i ≥ created, db.subscriberDeviceDB.get? (ctx.newId i) = none) :
    Mirrored (workerLoop env ctx created entries db).db := by
  induction entries generalizing created db with
  | nil => exact mirrored
  | cons entry rest ih =>
      unfold FindsBareDevices at bare
      unfold Owprov.workerLoop
      split
      case isTrue waits =>
        rw [if_pos waits] at bare
        cases tried : triedSerialNumbers entry.macAddress with
        | none => exact mirrored
        | some serialNumbers =>
            rw [tried] at bare
            dsimp only
            cases found : findDevice db.inventoryDB serialNumbers with
            | none => exact ih mirrored bare.2 free
            | some pair =>
                obtain ⟨serialNumber, tag⟩ := pair
                obtain ⟨isTag, _, _⟩ := findDevice_eq_some found
                have member := getBy_mem isTag
                have completed : Mirrored (Owprov.completeSignup env ctx.env.clock db entry
                    serialNumber (ctx.newId created) tag) :=
                  mirrored.completeSignup member (getBy_column isTag) (bare.1 _ found)
                    (free created le_rfl)
                refine ih completed ?_ ?_
                · exact bare.2.congr (stockIndex_completeSignup mirrored.tags member)
                · intro i later
                  apply get?_completeSignup (free i (by omega))
                  exact fun same => absurd (distinct same) (by omega)
      case isFalse other =>
        rw [if_neg other] at bare
        exact ih mirrored bare free

end Worker

/-! ## Runs -/

/-- The requests and passes that write devices or tags. -/
inductive MirrorMove where
  | subDevicePost (ctx : Context) (request : Request)
  | subDevicePut (ctx : Context) (request : Request)
  | subDeviceDelete (ctx : Context) (request : Request)
  | inventoryPost (ctx : Context) (request : Request)
  | inventoryPut (ctx : Context) (request : Request)
  | inventoryDelete (request : Request)
  | workerPass (env : SignupEnv) (ctx : Context) (outstanding : Table SignupEntry)
      (running : Bool)

namespace MirrorMove

def store (db : Store) : MirrorMove → Store
  | subDevicePost ctx request => (subDeviceDoPost ctx db request).store
  | subDevicePut ctx request => (subDeviceDoPut ctx db request).store
  | subDeviceDelete ctx request => (subDeviceDoDelete ctx db request).store
  | inventoryPost ctx request => (inventoryDoPost ctx db request).store
  | inventoryPut ctx request => (inventoryDoPut ctx db request).store
  | inventoryDelete request => (inventoryDoDelete db request).store
  | workerPass env ctx outstanding running =>
      (SignupServer.workerPass env ctx { db, outstanding, running }).db

/-- The worker makes new ids for its devices. -/
def NewIds (db : Store) : MirrorMove → Prop
  | workerPass _ ctx _ _ => ctx.NewDevices db
  | _ => True

/-- The inventory requests leave the subscribers alone, and the worker finds devices without a
configuration. -/
def KeepsMirror (db : Store) : MirrorMove → Prop
  | inventoryPost ctx request => EntersVacant ctx db request
  | inventoryPut ctx request => KeepsSubscribers ctx db request
  | workerPass _ _ outstanding running => running = true →
      FindsBareDevices db.inventoryDB
        (outstanding.rows.insertionSort fun a b => a.info.id ≤ b.info.id)
  | _ => True

end MirrorMove

/-- A request or a pass, or a change of other tables. -/
inductive MirrorStep (condition : Store → MirrorMove → Prop) (db : Store) : Store → Prop
  | move (move : MirrorMove) (newIds : move.NewIds db) (meets : condition db move) :
      MirrorStep condition db (move.store db)
  | elsewhere (db' : Store) (tags : db'.inventoryDB = db.inventoryDB)
      (devices : db'.subscriberDeviceDB = db.subscriberDeviceDB) : MirrorStep condition db db'

/-- Nobody has a device yet. -/
structure Unsubscribed (db : Store) : Prop where
  devices : db.subscriberDeviceDB.rows = []
  tags : (db.inventoryDB.rows.map InventoryTag.serialNumber).Nodup
  vacant : ∀ tag ∈ db.inventoryDB.rows, tag.subscriber = ""

theorem Unsubscribed.mirrored {db : Store} (start : Unsubscribed db) : Mirrored db where
  tags := start.tags
  devices := by
    rw [UniqueColumn, start.devices]
    exact List.nodup_nil
  mirrors := by
    constructor
    case shows =>
      intro serialNumber subscription isShown
      obtain ⟨device, member, _⟩ := exists_of_index isShown
      rw [start.devices] at member
      cases member
    case backed =>
      intro serialNumber subscription isShown claimed
      obtain ⟨tag, member, _, rfl⟩ := exists_of_index isShown
      exact absurd (start.vacant tag member) claimed

theorem Mirrored.step {db db' : Store} (mirrored : Mirrored db)
    (isStep : MirrorStep (fun db => MirrorMove.KeepsMirror db) db db') : Mirrored db' := by
  cases isStep with
  | elsewhere _ tags devices => exact mirrored.congr tags devices
  | move move newIds keeps =>
      cases move with
      | subDevicePost ctx request => exact mirrored.subDeviceDoPost request
      | subDevicePut ctx request => exact mirrored.subDeviceDoPut request
      | subDeviceDelete ctx request => exact mirrored.subDeviceDoDelete request
      | inventoryPost ctx request => exact mirrored.inventoryDoPost keeps
      | inventoryPut ctx request => exact mirrored.inventoryDoPut keeps
      | inventoryDelete request => exact mirrored.inventoryDoDelete request
      | workerPass env ctx outstanding running =>
          rw [MirrorMove.store, SignupServer.workerPass]
          split
          case isTrue isRunning =>
            exact mirrored.workerLoop (keeps isRunning) newIds.distinct fun i _ => newIds.free i
          case isFalse stopped => exact mirrored

/-- As long as the moves keep the mirror, devices and tags name each other. -/
theorem deviceMirror_of_run {db : Store}
    (reached : Reachable Unsubscribed (MirrorStep fun db => MirrorMove.KeepsMirror db) db) :
    DeviceMirror db :=
  (reached.invariant (fun _ => Unsubscribed.mirrored) fun _ _ => Mirrored.step).deviceMirror

/-- A gateway and its tag. -/
theorem deviceMirror_oneGateway :
    Unsubscribed (systemStore "o-1" "s-1") ∧
      (oneGateway.inventoryDB.rows.map InventoryTag.subscription = [("u-1", "")] ∧
        DeviceMirror oneGateway) :=
  ⟨⟨rfl, by decide, by decide⟩, by decide,
    deviceMirror_of_run (.step (.start ⟨rfl, by decide, by decide⟩)
      (.move (.subDevicePost (rootContext 14) (subDeviceRequest "aabbccddeeff" "olg")) trivial
        trivial))⟩

/-- A request that enters a device with a subscriber. -/
def subscribedRequest : Request where
  method := .post
  uri := "/api/v1/inventory/aabbccddeeff"
  bindings := [("serialnumber", "aabbccddeeff")]
  body := some [("name", .str "AP"), ("serialNumber", .str "aabbccddeeff"),
    ("deviceType", .str "cig_wf660"), ("devClass", .str "any"), ("subscriber", .str "u-1")]

/-- An inventory POST with a subscriber makes no subscriber device. -/
theorem subscriber_without_device :
    ¬ ∀ db, Reachable Unsubscribed (MirrorStep fun _ _ => True) db → DeviceMirror db := by
  intro claim
  have entered : Reachable Unsubscribed (MirrorStep fun _ _ => True)
      (inventoryDoPost (rootContext 5) initialStore subscribedRequest).store :=
    .step (.start ⟨rfl, by decide, by decide⟩)
      (.move (.inventoryPost (rootContext 5) subscribedRequest) trivial trivial)
  have mirror := claim _ entered
  have subscribed : ∃ tag ∈ (inventoryDoPost (rootContext 5) initialStore
      subscribedRequest).store.inventoryDB.rows, tag.subscriber ≠ "" := by
    decide
  obtain ⟨tag, member, filled⟩ := subscribed
  obtain ⟨device, ⟨isDevice, _⟩, _⟩ := mirror.device tag member filled
  have none : (inventoryDoPost (rootContext 5) initialStore
      subscribedRequest).store.subscriberDeviceDB.rows = [] := by
    decide
  rw [none] at isDevice
  cases isDevice

end Owprov
