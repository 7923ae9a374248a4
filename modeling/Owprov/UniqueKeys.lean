import Owprov.Connections
import Owprov.DevicePlacement
import Owprov.Lib.CheckThenCreate
import Owprov.Lib.Runs
import Owprov.SubDeviceHandlers
import Owprov.SubscriberHandlers

/-!
# Unique keys

The tables have a unique key on the id only.  That no two devices share a serial number, no two
operators a registration id and no two signup entries an email rests on the checks of the
handlers, and other requests may come in between a check and the `CreateRecord` after it.
-/

namespace Owprov

open RowTable CheckThenCreate Runs

/-! ## Keys -/

/-- The keys that are to be unique. -/
inductive UniqueKey where
  | inventory (serialNumber : String)
  | subscriberDevice (serialNumber : String)
  | operator (registrationId : String)
  | signup (email : String)
  deriving DecidableEq

/-- The number of records of a key. -/
def keyCount (db : Store) : UniqueKey → ℕ
  | .inventory serialNumber =>
      (db.inventoryDB.rows.map InventoryTag.serialNumber).count serialNumber
  | .subscriberDevice serialNumber =>
      (db.subscriberDeviceDB.rows.map SubscriberDevice.serialNumber).count serialNumber
  | .operator registrationId =>
      (db.operatorDB.rows.map Operator.registrationId).count registrationId
  | .signup email => (db.signupDB.rows.map SignupEntry.email).count email

/-- No two records of a table share their key. -/
structure UniqueKeys (db : Store) : Prop where
  inventory : (db.inventoryDB.rows.map InventoryTag.serialNumber).Nodup
  subscriberDevice : (db.subscriberDeviceDB.rows.map SubscriberDevice.serialNumber).Nodup
  operator : (db.operatorDB.rows.map Operator.registrationId).Nodup
  signup : (db.signupDB.rows.map SignupEntry.email).Nodup

theorem uniqueKeys_iff {db : Store} : UniqueKeys db ↔ ∀ k, keyCount db k ≤ 1 := by
  constructor
  · intro unique k
    cases k with
    | inventory serialNumber => exact List.nodup_iff_count_le_one.mp unique.inventory _
    | subscriberDevice serialNumber =>
        exact List.nodup_iff_count_le_one.mp unique.subscriberDevice _
    | operator registrationId => exact List.nodup_iff_count_le_one.mp unique.operator _
    | signup email => exact List.nodup_iff_count_le_one.mp unique.signup _
  · intro counts
    constructor
    case inventory => exact List.nodup_iff_count_le_one.mpr fun k => counts (.inventory k)
    case subscriberDevice =>
      exact List.nodup_iff_count_le_one.mpr fun k => counts (.subscriberDevice k)
    case operator => exact List.nodup_iff_count_le_one.mpr fun k => counts (.operator k)
    case signup => exact List.nodup_iff_count_le_one.mpr fun k => counts (.signup k)

theorem count_of_getBy {α : Type} [Keyed α String] {table : Table α} {column : α → String}
    {value : String} (missing : getBy table column value = none) :
    (table.rows.map column).count value = 0 := by
  rw [List.count_eq_zero, List.mem_map]
  rintro ⟨row, member, same⟩
  exact getBy_eq_none missing member same

/-! ## Requests between their check and their writes -/

/-- What a request or a connection has checked and not written yet. -/
inductive Pending where
  /-- An inventory POST, with the inline configuration. -/
  | tag (tag : InventoryTag) (config : Option DeviceConfiguration)
  /-- A connection of a device that the inventory does not have. -/
  | discovered (tag : InventoryTag)
  /-- A connection of a device that the inventory has. -/
  | connected (tag : InventoryTag)
  | operator (operator : Operator) (entity : Entity)
  | signup (operator : Operator) (userName : String) (entry : SignupEntry)
  | resent (operator : Operator) (userName : String) (entry : SignupEntry)
  | subscriberDevice (body : JsonObject) (device : SubscriberDevice)
      (configuration : List DeviceConfigurationElement)
  /-- A sub-device POST that has stored its device, before it looks for the tag. -/
  | stored (device : SubscriberDevice)
  /-- A sub-device POST that has looked for the tag of its device. -/
  | deviceTag (device : SubscriberDevice) (venueId : String) (found : Option InventoryTag)

/-- The key that was checked. -/
def Pending.key : Pending → Option UniqueKey
  | .tag newTag _ => some (.inventory newTag.serialNumber)
  | .discovered newTag => some (.inventory newTag.serialNumber)
  | .operator newOperator _ => some (.operator newOperator.registrationId)
  | .signup _ _ entry => some (.signup entry.email)
  | .subscriberDevice _ device _ => some (.subscriberDevice device.serialNumber)
  | .deviceTag device _ none => some (.inventory device.serialNumber)
  | _ => none

/-- The `GetRecord` of `CreateInventoryRecord`. -/
def lookForTag (db : Store) (device : SubscriberDevice) : Pending :=
  .deviceTag device (resolvedVenueId db device.subscriberId)
    (getBy db.inventoryDB InventoryTag.serialNumber device.serialNumber)

/-- The checks of the requests and of `CreateFromConnection`, as their handlers make them: what
was pending before and what is then. -/
inductive Checked (ctx : Context) (db : Store) : Option Pending → Pending → Prop
  | inventoryPost {request : Request} {tag : InventoryTag} {config : Option DeviceConfiguration}
      (planned : inventoryDoPostPlan ctx db request = .ok (tag, config)) :
      Checked ctx db none (.tag tag config)
  | discovery {env : ConnectionEnv} {message : ConnectionMessage} {tag : InventoryTag}
      (planned : connectionPlan env db message (ctx.newId 0) = .created tag) :
      Checked ctx db none (.discovered tag)
  | connection {env : ConnectionEnv} {message : ConnectionMessage} {tag : InventoryTag}
      (planned : connectionPlan env db message (ctx.newId 0) = .updated tag) :
      Checked ctx db none (.connected tag)
  | operatorPost {request : Request} {operator : Operator} {entity : Entity}
      (planned : operatorDoPostPlan ctx db request = .ok (operator, entity)) :
      Checked ctx db none (.operator operator entity)
  | subscriberPost {request : Request} {operator : Operator} {userName : String}
      {entry : SignupEntry}
      (planned : subscriberDoPostPlan ctx db request = .ok (operator, userName, .created entry)) :
      Checked ctx db none (.signup operator userName entry)
  | subscriberResend {request : Request} {operator : Operator} {userName : String}
      {entry : SignupEntry}
      (planned : subscriberDoPostPlan ctx db request = .ok (operator, userName, .resent entry)) :
      Checked ctx db none (.resent operator userName entry)
  | subDevicePost {request : Request} {body : JsonObject} {device : SubscriberDevice}
      {configuration : List DeviceConfigurationElement}
      (planned : subDeviceDoPostPlan ctx db request = .ok (body, device, configuration)) :
      Checked ctx db none (.subscriberDevice body device configuration)
  | lookedForTag (device : SubscriberDevice) :
      Checked ctx db (some (.stored device)) (lookForTag db device)

/-! ## Writes -/

/-- The writes of `RESTAPI_inventory_handler::DoPost`. -/
def writeTag (db : Store) (newObject : InventoryTag) (config : Option DeviceConfiguration) :
    Store :=
  match storeInlineConfiguration db config with
  | .error _ => db
  | .ok configured =>
      match configured.inventoryDB.insert? newObject with
      | none => configured
      | some inventoryDB =>
          moveTag { configured with inventoryDB := inventoryDB } newObject.arrivals
            newObject.info.id

/-- The writes of `RESTAPI_operators_handler::DoPost`. -/
def writeOperator (ctx : Context) (db : Store) (newObject : Operator) (newEntity : Entity) :
    Store :=
  match db.entityDB.insert? newEntity with
  | none => db
  | some entityDB =>
      let linked := manipulateChild { db with entityDB := entityDB } newEntity.parent
        newEntity.info.id true
      match db.operatorDB.insert? newObject with
      | some operatorDB =>
          let service := defaultServiceClass (ctx.newId 2) newObject.info.id
          { linked with
            operatorDB := operatorDB
            serviceClassDB :=
              (linked.serviceClassDB.insert? service).getD linked.serviceClassDB }
      | none =>
          let unlinked := manipulateChild linked newEntity.parent newEntity.info.id false
          { unlinked with entityDB := unlinked.entityDB.delete newEntity.info.id }

/-- The writes of `RESTAPI_sub_devices_handler::DoPost` up to those of the inventory: the
database and the device that was stored, if any. -/
def writeSubscriberDevice (ctx : Context) (db : Store) (body : JsonObject)
    (device : SubscriberDevice) (configuration : List DeviceConfigurationElement) :
    Store × Option SubscriberDevice :=
  match createConfigurationRecord ctx db device configuration (ctx.newId 0) with
  | .error _ => (db, none)
  | .ok (configured, device) =>
      match createObjectInfoUnchecked body device.info (ctx.newId 1) with
      | .error _ => (configured, none)
      | .ok info =>
          match configured.subscriberDeviceDB.insert? { device with info := info } with
          | none => (configured, none)
          | some subscriberDeviceDB =>
              ({ configured with subscriberDeviceDB := subscriberDeviceDB },
                some { device with info := info })

/-- The `UpdateRecord` of a tag that was found, or the `CreateRecord` of a new one. -/
def writeInventoryRecord (db : Store) (device : SubscriberDevice) (venueId newId : String) :
    Option InventoryTag → Option Store
  | some existing =>
      let record : InventoryTag :=
        { existing.ofDevice device with
          venue := if venueId = "" then existing.venue else venueId }
      some (moveTag { db with inventoryDB := db.inventoryDB.update record }
        { fromPolicy := existing.managementPolicy
          toPolicy := record.managementPolicy
          fromConfiguration := existing.deviceConfiguration
          toConfiguration := record.deviceConfiguration
          fromVenue := existing.venue
          toVenue := record.venue } record.info.id)
  | none =>
      let record := newInventoryTag device newId venueId
      (db.inventoryDB.insert? record).map fun inventoryDB =>
        moveTag { db with inventoryDB := inventoryDB }
          { toPolicy := record.managementPolicy
            toConfiguration := record.deviceConfiguration
            toVenue := record.venue } record.info.id

/-- The writes of `CreateInventoryRecord`, and what `RESTAPI_sub_devices_handler::DoPost` does
after them; a device without a tag is deleted again. -/
def writeDeviceTag (ctx : Context) (db : Store) (device : SubscriberDevice) (venueId : String)
    (found : Option InventoryTag) : Store :=
  match writeInventoryRecord db device venueId (ctx.newId 2) found with
  | none => { db with subscriberDeviceDB := db.subscriberDeviceDB.delete device.info.id }
  | some entered => Owprov.startMonitoring ctx entered device

/-- The writes of a request or a connection, and what it goes on with. -/
def Pending.write (ctx : Context) (db : Store) : Pending → Store × Option Pending
  | .tag newTag config => (writeTag db newTag config, none)
  | .discovered newTag => ((enterDiscovered db newTag).getD db, none)
  | .connected updated => ({ db with inventoryDB := db.inventoryDB.update updated }, none)
  | .operator newOperator entity => (writeOperator ctx db newOperator entity, none)
  | .signup newOperator userName entry =>
      ((createSubscriberVenue ctx
        { db with signupDB := (db.signupDB.insert? entry).getD db.signupDB } newOperator userName
        entry.userId).store, none)
  | .resent existing userName entry =>
      ((createSubscriberVenue ctx { db with signupDB := db.signupDB.update entry } existing
        userName entry.userId).store, none)
  | .subscriberDevice body device configuration =>
      let written := writeSubscriberDevice ctx db body device configuration
      (written.1, written.2.map .stored)
  | .stored device => (db, some (.stored device))
  | .deviceTag device venueId found => (writeDeviceTag ctx db device venueId found, none)

/-! A handler on its own makes its check and its writes one after the other. -/

theorem inventoryDoPost_eq_write {ctx : Context} {db : Store} {request : Request}
    {tag : InventoryTag} {config : Option DeviceConfiguration}
    (planned : inventoryDoPostPlan ctx db request = .ok (tag, config)) :
    (inventoryDoPost ctx db request).store = ((Pending.tag tag config).write ctx db).1 := by
  simp only [inventoryDoPost, planned, Pending.write, writeTag]
  cases storeInlineConfiguration db config with
  | error failure => rfl
  | ok configured =>
      dsimp only
      cases configured.inventoryDB.insert? tag <;> rfl

theorem createFromConnection_eq_write {ctx : Context} {env : ConnectionEnv} {db : Store}
    {message : ConnectionMessage} {tag : InventoryTag}
    (planned : connectionPlan env db message (ctx.newId 0) = .created tag) :
    createFromConnection env db message (ctx.newId 0) =
      ((Pending.discovered tag).write ctx db).1 := by
  simp only [createFromConnection, planned, Pending.write]

theorem operatorDoPost_eq_write {ctx : Context} {db : Store} {request : Request}
    {operator : Operator} {entity : Entity}
    (planned : operatorDoPostPlan ctx db request = .ok (operator, entity)) :
    (operatorDoPost ctx db request).store = ((Pending.operator operator entity).write ctx db).1 := by
  simp only [operatorDoPost, planned, Pending.write, writeOperator]
  cases db.entityDB.insert? entity with
  | none => rfl
  | some entityDB =>
      dsimp only
      cases db.operatorDB.insert? operator <;> rfl

theorem subscriberDoPost_eq_write {ctx : Context} {db : Store} {request : Request}
    {operator : Operator} {userName : String} {entry : SignupEntry}
    (planned : subscriberDoPostPlan ctx db request = .ok (operator, userName, .created entry)) :
    (subscriberDoPost ctx db request).store =
      ((Pending.signup operator userName entry).write ctx db).1 := by
  unfold subscriberDoPost
  rw [planned]
  rfl

theorem createInventoryRecord_eq_write {db : Store} {device : SubscriberDevice} {newId : String} :
    createInventoryRecord db device newId =
      writeInventoryRecord db device (resolvedVenueId db device.subscriberId) newId
        (getBy db.inventoryDB InventoryTag.serialNumber device.serialNumber) := by
  unfold createInventoryRecord writeInventoryRecord
  cases getBy db.inventoryDB InventoryTag.serialNumber device.serialNumber <;> rfl

/-- A sub-device POST on its own stores the device, looks for its tag and writes the tag. -/
theorem subDeviceDoPost_eq_write {ctx : Context} {db : Store} {request : Request}
    {body : JsonObject} {device : SubscriberDevice}
    {configuration : List DeviceConfigurationElement}
    (planned : subDeviceDoPostPlan ctx db request = .ok (body, device, configuration)) :
    (subDeviceDoPost ctx db request).store =
      match writeSubscriberDevice ctx db body device configuration with
      | (written, none) => written
      | (written, some stored) => ((lookForTag written stored).write ctx written).1 := by
  simp only [subDeviceDoPost, planned, writeSubscriberDevice]
  cases createConfigurationRecord ctx db device configuration (ctx.newId 0) with
  | error failure => rfl
  | ok result =>
      obtain ⟨configured, device⟩ := result
      dsimp only
      cases createObjectInfoUnchecked body device.info (ctx.newId 1) with
      | error failure => rfl
      | ok info =>
          dsimp only
          cases configured.subscriberDeviceDB.insert? { device with info := info } with
          | none => rfl
          | some subscriberDeviceDB =>
              dsimp only [lookForTag, Pending.write, writeDeviceTag]
              rw [createInventoryRecord_eq_write]
              split <;> rename_i written <;> rw [written] <;> rfl

/-! ## What the checks establish -/

/-- What a request rewrites is still there with the same key. -/
def Pending.Backed (db : Store) : Pending → Prop
  | .connected updated => RowTable.Backed InventoryTag.serialNumber db.inventoryDB updated
  | .deviceTag _ _ (some existing) =>
      RowTable.Backed InventoryTag.serialNumber db.inventoryDB existing
  | .resent _ _ entry => RowTable.Backed SignupEntry.email db.signupDB entry
  | _ => True

theorem inventoryDoPostPlan_free {ctx : Context} {db : Store} {request : Request}
    {tag : InventoryTag} {config : Option DeviceConfiguration}
    (planned : inventoryDoPostPlan ctx db request = .ok (tag, config)) :
    getBy db.inventoryDB InventoryTag.serialNumber tag.serialNumber = none := by
  simp only [inventoryDoPostPlan, bind_eq_ok_iff, require_eq_ok_iff] at planned
  obtain ⟨_, _, _, _, _, free, _, _, _, _, planned⟩ := planned
  obtain ⟨_, _, _, _, _, _, _, _, _, _, _, _, _, _, _, _, _, _, planned⟩ := planned
  obtain ⟨_, _, _, _, _, _, _, _, _, _, planned⟩ := planned
  obtain ⟨rfl, rfl⟩ := Prod.mk.inj (Except.ok.inj planned)
  dsimp only
  exact Option.isNone_iff_eq_none.mp free

theorem operatorDoPostPlan_free {ctx : Context} {db : Store} {request : Request}
    {operator : Operator} {entity : Entity}
    (planned : operatorDoPostPlan ctx db request = .ok (operator, entity)) :
    getBy db.operatorDB Operator.registrationId operator.registrationId = none := by
  simp only [operatorDoPostPlan, bind_eq_ok_iff, require_eq_ok_iff] at planned
  obtain ⟨_, _, _, _, _, _, _, _, _, _, _, free, _, _, _, _, planned⟩ := planned
  obtain ⟨rfl, rfl⟩ := Prod.mk.inj (Except.ok.inj planned)
  rw [Bool.and_eq_true] at free
  exact Option.isNone_iff_eq_none.mp free.2

theorem subDeviceDoPostPlan_free {ctx : Context} {db : Store} {request : Request}
    {body : JsonObject} {device : SubscriberDevice}
    {configuration : List DeviceConfigurationElement}
    (planned : subDeviceDoPostPlan ctx db request = .ok (body, device, configuration)) :
    getBy db.subscriberDeviceDB SubscriberDevice.serialNumber device.serialNumber = none := by
  simp only [subDeviceDoPostPlan, bind_eq_ok_iff, require_eq_ok_iff] at planned
  obtain ⟨_, _, _, _, _, _, _, free, _, _, _, _, planned⟩ := planned
  obtain ⟨rfl, answer⟩ := Prod.mk.inj (Except.ok.inj planned)
  obtain ⟨rfl, rfl⟩ := Prod.mk.inj answer
  exact Option.isNone_iff_eq_none.mp free

theorem Checked.free {ctx : Context} {db : Store} {before : Option Pending} {found : Pending}
    (checked : Checked ctx db before found) {k : UniqueKey} (holds : found.key = some k) :
    keyCount db k = 0 := by
  cases checked with
  | inventoryPost planned =>
      cases holds
      exact count_of_getBy (inventoryDoPostPlan_free planned)
  | discovery planned =>
      cases holds
      exact count_of_getBy (connectionPlan_eq_created planned).1
  | connection planned => cases holds
  | operatorPost planned =>
      cases holds
      exact count_of_getBy (operatorDoPostPlan_free planned)
  | subscriberPost planned =>
      cases holds
      obtain ⟨missing, _, email, _⟩ := subscriberDoPostPlan_eq_ok planned
      exact count_of_getBy (email ▸ missing)
  | subscriberResend planned => cases holds
  | subDevicePost planned =>
      cases holds
      exact count_of_getBy (subDeviceDoPostPlan_free planned)
  | lookedForTag device =>
      unfold lookForTag at holds
      cases found : getBy db.inventoryDB InventoryTag.serialNumber device.serialNumber with
      | none =>
          rw [found] at holds
          cases holds
          exact count_of_getBy found
      | some existing =>
          rw [found] at holds
          cases holds

theorem Checked.backed {ctx : Context} {db : Store} {before : Option Pending} {found : Pending}
    (checked : Checked ctx db before found) : found.Backed db := by
  cases checked with
  | connection planned =>
      obtain ⟨existing, member, sameInfo, sameSerial, _⟩ := connectionPlan_eq_updated planned
      exact backed_of_mem member (congrArg ObjectInfo.id sameInfo) sameSerial
  | subscriberResend planned =>
      exact backed_of_mem (getBy_mem (subscriberDoPostPlan_eq_ok planned).1) rfl rfl
  | lookedForTag device =>
      unfold lookForTag
      cases found : getBy db.inventoryDB InventoryTag.serialNumber device.serialNumber with
      | none => trivial
      | some existing => exact backed_of_mem (getBy_mem found) rfl rfl
  | _ => trivial

/-! ## What the writes do to the keys -/

/-- The tables whose records have a key that is to be unique. -/
structure KeyTables where
  inventoryDB : Table InventoryTag
  subscriberDeviceDB : Table SubscriberDevice
  operatorDB : Table Operator
  signupDB : Table SignupEntry

def Store.keyTables (db : Store) : KeyTables where
  inventoryDB := db.inventoryDB
  subscriberDeviceDB := db.subscriberDeviceDB
  operatorDB := db.operatorDB
  signupDB := db.signupDB

/-- A write that enters a record of one key at most.  A subscriber device may also be deleted. -/
structure KeyWrite (tables : KeyTables) (own : Option UniqueKey) (tables' : KeyTables) : Prop where
  inventory : ColumnWrite InventoryTag.serialNumber tables.inventoryDB
    (fun serialNumber => own = some (.inventory serialNumber)) tables'.inventoryDB
  subscriberDevice : ColumnWrite SubscriberDevice.serialNumber tables.subscriberDeviceDB
      (fun serialNumber => own = some (.subscriberDevice serialNumber))
      tables'.subscriberDeviceDB ∨
    ∃ id, tables'.subscriberDeviceDB = tables.subscriberDeviceDB.delete id
  operator : ColumnWrite Operator.registrationId tables.operatorDB
    (fun registrationId => own = some (.operator registrationId)) tables'.operatorDB
  signup : ColumnWrite SignupEntry.email tables.signupDB
    (fun email => own = some (.signup email)) tables'.signupDB

theorem KeyWrite.same (tables : KeyTables) (own : Option UniqueKey) :
    KeyWrite tables own tables where
  inventory := .same
  subscriberDevice := .inl .same
  operator := .same
  signup := .same

theorem keyTables_createSubscriberVenue (ctx : Context) (db : Store) (operator : Operator)
    (userName userId : String) :
    (createSubscriberVenue ctx db operator userName userId).store.keyTables = db.keyTables := by
  unfold createSubscriberVenue
  split
  · rfl
  · dsimp only
    split <;> rfl

theorem keyTables_storeInlineConfiguration {db configured : Store}
    {config : Option DeviceConfiguration}
    (stored : storeInlineConfiguration db config = .ok configured) :
    configured.keyTables = db.keyTables := by
  cases config with
  | none =>
      cases stored
      rfl
  | some record =>
      rw [storeInlineConfiguration] at stored
      split at stored
      · cases stored
      · cases stored
        rfl

theorem keyTables_createConfigurationRecord {ctx : Context} {db configured : Store}
    {device device' : SubscriberDevice} {configuration : List DeviceConfigurationElement}
    {newId : String}
    (stored : createConfigurationRecord ctx db device configuration newId =
      .ok (configured, device')) :
    configured.keyTables = db.keyTables ∧ device'.serialNumber = device.serialNumber := by
  unfold createConfigurationRecord at stored
  split at stored
  · cases stored
    exact ⟨rfl, rfl⟩
  · dsimp only at stored
    split at stored
    · cases stored
    · split at stored
      · cases stored
      · cases stored
        exact ⟨rfl, rfl⟩

theorem keyTables_startMonitoring (ctx : Context) (db : Store) (device : SubscriberDevice) :
    (Owprov.startMonitoring ctx db device).keyTables = db.keyTables := by
  unfold Owprov.startMonitoring
  split
  · rfl
  · split
    · rfl
    · split <;> rfl

theorem keyTables_moveTag (db : Store) (moves : TagMoves) (id : String) :
    (moveTag db moves id).keyTables = db.keyTables :=
  rfl

theorem keyWrite_writeTag (db : Store) (newObject : InventoryTag)
    (config : Option DeviceConfiguration) :
    KeyWrite db.keyTables (some (.inventory newObject.serialNumber))
      (writeTag db newObject config).keyTables := by
  unfold writeTag
  cases stored : storeInlineConfiguration db config with
  | error failure => exact .same _ _
  | ok configured =>
      rw [← keyTables_storeInlineConfiguration stored]
      dsimp only
      cases inserted : configured.inventoryDB.insert? newObject with
      | none => exact .same _ _
      | some inventoryDB =>
          exact { KeyWrite.same configured.keyTables _ with inventory := .insert inserted rfl }

theorem keyWrite_enterDiscovered (db : Store) (tag : InventoryTag) :
    KeyWrite db.keyTables (some (.inventory tag.serialNumber))
      ((enterDiscovered db tag).getD db).keyTables := by
  unfold enterDiscovered
  cases inserted : db.inventoryDB.insert? tag with
  | none => exact .same _ _
  | some inventoryDB =>
      have entered : KeyWrite db.keyTables (some (.inventory tag.serialNumber))
          { db.keyTables with inventoryDB := inventoryDB } :=
        { KeyWrite.same db.keyTables _ with inventory := .insert inserted rfl }
      rw [Option.map_some, Option.getD_some]
      split_ifs <;> exact entered

theorem keyWrite_writeOperator (ctx : Context) (db : Store) (newObject : Operator)
    (newEntity : Entity) :
    KeyWrite db.keyTables (some (.operator newObject.registrationId))
      (writeOperator ctx db newObject newEntity).keyTables := by
  unfold writeOperator
  cases db.entityDB.insert? newEntity with
  | none => exact .same _ _
  | some entityDB =>
      dsimp only
      cases inserted : db.operatorDB.insert? newObject with
      | none => exact .same _ _
      | some operatorDB =>
          exact { KeyWrite.same db.keyTables _ with operator := .insert inserted rfl }

theorem keyWrite_writeSubscriberDevice (ctx : Context) (db : Store) (body : JsonObject)
    (device : SubscriberDevice) (configuration : List DeviceConfigurationElement) :
    KeyWrite db.keyTables (some (.subscriberDevice device.serialNumber))
      (writeSubscriberDevice ctx db body device configuration).1.keyTables := by
  unfold writeSubscriberDevice
  cases stored : createConfigurationRecord ctx db device configuration (ctx.newId 0) with
  | error failure => exact .same _ _
  | ok result =>
      obtain ⟨configured, device'⟩ := result
      obtain ⟨sameTables, sameSerial⟩ := keyTables_createConfigurationRecord stored
      rw [← sameTables, ← sameSerial]
      dsimp only
      cases createObjectInfoUnchecked body device'.info (ctx.newId 1) with
      | error failure => exact .same _ _
      | ok info =>
          dsimp only
          cases inserted : configured.subscriberDeviceDB.insert? { device' with info := info } with
          | none => exact .same _ _
          | some subscriberDeviceDB =>
              exact { KeyWrite.same configured.keyTables _ with
                subscriberDevice := .inl (.insert inserted rfl) }

theorem keyWrite_writeDeviceTag (ctx : Context) (db : Store) (device : SubscriberDevice)
    (venueId : String) (found : Option InventoryTag)
    (backed : (Pending.deviceTag device venueId found).Backed db) :
    KeyWrite db.keyTables (Pending.deviceTag device venueId found).key
      (writeDeviceTag ctx db device venueId found).keyTables := by
  unfold writeDeviceTag
  cases found with
  | some existing =>
      dsimp only [writeInventoryRecord]
      rw [keyTables_startMonitoring, keyTables_moveTag]
      exact { KeyWrite.same db.keyTables _ with inventory := .update backed }
  | none =>
      cases inserted : db.inventoryDB.insert? (newInventoryTag device (ctx.newId 2) venueId) with
      | none =>
          simp only [writeInventoryRecord, inserted, Option.map_none]
          exact { KeyWrite.same db.keyTables _ with subscriberDevice := .inr ⟨_, rfl⟩ }
      | some inventoryDB =>
          simp only [writeInventoryRecord, inserted, Option.map_some]
          rw [keyTables_startMonitoring, keyTables_moveTag]
          exact { KeyWrite.same db.keyTables _ with inventory := .insert inserted rfl }

theorem Pending.keyWrite {db : Store} {held : Pending} (ctx : Context) (backed : held.Backed db) :
    KeyWrite db.keyTables held.key (held.write ctx db).1.keyTables := by
  cases held with
  | tag newTag config => exact keyWrite_writeTag db newTag config
  | discovered newTag => exact keyWrite_enterDiscovered db newTag
  | connected updated =>
      exact { KeyWrite.same db.keyTables _ with inventory := .update backed }
  | operator newOperator entity => exact keyWrite_writeOperator ctx db newOperator entity
  | signup newOperator userName entry =>
      dsimp only [write, key]
      rw [keyTables_createSubscriberVenue]
      cases inserted : db.signupDB.insert? entry with
      | none => exact .same _ _
      | some signupDB =>
          exact { KeyWrite.same db.keyTables _ with signup := .insert inserted rfl }
  | resent existing userName entry =>
      dsimp only [write, key]
      rw [keyTables_createSubscriberVenue]
      exact { KeyWrite.same db.keyTables _ with signup := .update backed }
  | subscriberDevice body device configuration =>
      exact keyWrite_writeSubscriberDevice ctx db body device configuration
  | stored device => exact .same _ _
  | deviceTag device venueId found =>
      exact keyWrite_writeDeviceTag ctx db device venueId found backed

/-- After its writes a process holds no key. -/
theorem Pending.key_after_write (ctx : Context) (db : Store) (held : Pending) :
    (held.write ctx db).2.bind Pending.key = none := by
  cases held with
  | subscriberDevice body device configuration =>
      dsimp only [write]
      cases (writeSubscriberDevice ctx db body device configuration).2 <;> rfl
  | _ => rfl

theorem Pending.backed_after_write {ctx : Context} {db db' : Store} {held next : Pending}
    (goesOn : (held.write ctx db).2 = some next) : next.Backed db' := by
  cases held with
  | subscriberDevice body device configuration =>
      obtain ⟨stored, _, rfl⟩ := Option.map_eq_some_iff.mp goesOn
      trivial
  | stored device =>
      cases goesOn
      trivial
  | _ => cases goesOn

theorem KeyWrite.keyCount_le {db db' : Store} {own : Option UniqueKey}
    (write : KeyWrite db.keyTables own db'.keyTables) (k : UniqueKey) :
    keyCount db' k ≤ keyCount db k + if own = some k then 1 else 0 := by
  cases k with
  | inventory serialNumber => exact write.inventory.count_le serialNumber
  | operator registrationId => exact write.operator.count_le registrationId
  | signup email => exact write.signup.count_le email
  | subscriberDevice serialNumber =>
      rcases write.subscriberDevice with entered | ⟨id, deleted⟩
      · exact entered.count_le serialNumber
      · apply Nat.le_add_right_of_le
        have fewer : db'.subscriberDeviceDB.rows.Sublist db.subscriberDeviceDB.rows := by
          rw [show db'.subscriberDeviceDB = db.subscriberDeviceDB.delete id from deleted]
          exact List.filter_sublist
        exact (fewer.map _).count_le serialNumber

theorem Pending.Backed.of_keyWrite {db db' : Store} {own : Option UniqueKey} {held : Pending}
    (backed : held.Backed db) (write : KeyWrite db.keyTables own db'.keyTables) :
    held.Backed db' := by
  cases held with
  | connected updated => exact write.inventory.backed backed
  | resent existing userName entry => exact write.signup.backed backed
  | deviceTag device venueId found =>
      cases found with
      | none => trivial
      | some existing => exact write.inventory.backed backed
  | _ => trivial

/-! ## Runs -/

/-- The database, what each request or connection has checked, and whether a record of the key
that it checked was created since then. -/
structure CreationState (ι : Type) where
  db : Store
  pending : ι → Option Pending
  overtaken : ι → Bool

section Runs

variable {ι : Type} [DecidableEq ι]

/-- A step of a request or a connection: a check or the writes that follow. -/
inductive CreationStep (allowed : CreationState ι → ι → Prop) :
    CreationState ι → CreationState ι → Prop
  | check {s : CreationState ι} (p : ι) (ctx : Context) (found : Pending)
      (checked : Checked ctx s.db (s.pending p) found) :
      CreationStep allowed s
        { s with
          pending := Function.update s.pending p (some found)
          overtaken := Function.update s.overtaken p false }
  | write {s : CreationState ι} (p : ι) (ctx : Context) (held : Pending)
      (holds : s.pending p = some held)
      (may : Creates keyCount s.db (held.write ctx s.db).1 → allowed s p) :
      CreationStep allowed s
        { db := (held.write ctx s.db).1
          pending := Function.update s.pending p (held.write ctx s.db).2
          overtaken := fun q => s.overtaken q ||
            overtakes keyCount s.db (held.write ctx s.db).1 ((s.pending q).bind Pending.key) }

/-- The keys that are checked and created. -/
def CreationState.keys (s : CreationState ι) : State Store UniqueKey ι where
  store := s.db
  held := fun p => (s.pending p).bind Pending.key
  overtaken := s.overtaken

/-- What the requests rewrite is still there. -/
def CreationState.AllBacked (s : CreationState ι) : Prop :=
  ∀ p held, s.pending p = some held → held.Backed s.db

theorem bind_update (pending : ι → Option Pending) (p : ι) (next : Option Pending) :
    (fun q => (Function.update pending p next q).bind Pending.key) =
      Function.update (fun q => (pending q).bind Pending.key) p (next.bind Pending.key) := by
  funext q
  by_cases equal : q = p
  · subst equal
    rw [Function.update_self, Function.update_self]
  · rw [Function.update_of_ne equal, Function.update_of_ne equal]

/-- A step is a check or a write of the keys. -/
theorem CreationStep.keys {allowed : CreationState ι → ι → Prop}
    {allowedKeys : State Store UniqueKey ι → ι → Prop} {s t : CreationState ι}
    (weaker : ∀ s p, allowed s p → allowedKeys s.keys p) (backed : s.AllBacked)
    (moved : CreationStep allowed s t) : Step keyCount allowedKeys s.keys t.keys := by
  cases moved with
  | check p ctx found checked =>
      unfold CreationState.keys
      rw [bind_update, Option.bind_some]
      exact .check p found.key fun k holds => checked.free holds
  | write p ctx held holds may =>
      unfold CreationState.keys
      rw [bind_update, Pending.key_after_write]
      apply Step.write (s := s.keys) p
      · exact fun created => weaker s p (may created)
      · intro k
        have own : s.keys.held p = held.key := by
          show (s.pending p).bind Pending.key = held.key
          rw [holds, Option.bind_some]
        rw [own]
        exact (Pending.keyWrite ctx (backed p held holds)).keyCount_le k

theorem CreationState.AllBacked.step {allowed : CreationState ι → ι → Prop}
    {s t : CreationState ι} (backed : s.AllBacked) (moved : CreationStep allowed s t) :
    t.AllBacked := by
  intro q other waits
  cases moved with
  | check p ctx found checked =>
      dsimp only at waits ⊢
      by_cases self : q = p
      · subst self
        rw [Function.update_self] at waits
        cases waits
        exact checked.backed
      · rw [Function.update_of_ne self] at waits
        exact backed q other waits
  | write p ctx held holds may =>
      dsimp only at waits ⊢
      have write := Pending.keyWrite ctx (backed p held holds)
      by_cases self : q = p
      · subst self
        rw [Function.update_self] at waits
        exact Pending.backed_after_write waits
      · rw [Function.update_of_ne self] at waits
        exact (backed q other waits).of_keyWrite write

/-- At the start nothing is pending. -/
def CreationState.Idle (s : CreationState ι) : Prop :=
  UniqueKeys s.db ∧ ∀ p, s.pending p = none

/-- A record is only created by a request or a connection when no record of its key was created
since its check. -/
def InTime (s : CreationState ι) (p : ι) : Prop :=
  s.overtaken p = false

/-- What such runs keep. -/
structure OrderlyCreation (s : CreationState ι) : Prop where
  backed : s.AllBacked
  tracked : Tracked keyCount s.keys
  unique : Unique keyCount s.keys

omit [DecidableEq ι] in
theorem orderlyCreation_start {s : CreationState ι} (start : s.Idle) : OrderlyCreation s where
  backed p held holds := by
    rw [start.2 p] at holds
    cases holds
  tracked p k holds := by
    have nothing : s.keys.held p = none := by
      show (s.pending p).bind Pending.key = none
      rw [start.2 p, Option.bind_none]
    rw [nothing] at holds
    cases holds
  unique := uniqueKeys_iff.mp start.1

theorem OrderlyCreation.step {s t : CreationState ι} (orderly : OrderlyCreation s)
    (moved : CreationStep InTime s t) : OrderlyCreation t := by
  have onKeys : Step keyCount (fun s p => s.overtaken p = false) s.keys t.keys :=
    moved.keys (fun _ _ inTime => inTime) orderly.backed
  exact ⟨orderly.backed.step moved, orderly.tracked.step onKeys,
    orderly.unique.step orderly.tracked onKeys⟩

theorem uniqueKeys_of_run {s : CreationState ι}
    (reached : Reachable CreationState.Idle (CreationStep InTime) s) : UniqueKeys s.db := by
  have orderly : OrderlyCreation s :=
    reached.invariant (fun _ => orderlyCreation_start) (fun _ _ orderly => orderly.step)
  exact uniqueKeys_iff.mpr orderly.unique

end Runs

/-- The tag that a request enters without a venue. -/
def looseTag (length : ℕ) : InventoryTag where
  info := { id := unaryId (length + 1), name := "AP" }
  serialNumber := "aabbccddeeff"
  deviceType := "cig_wf660"
  devClass := "any"

theorem looseTag_checked (length : ℕ) (few : length = 20 ∨ length = 30) :
    Checked (rootContext length) initialStore none (.tag (looseTag length) none) := by
  have planned : inventoryDoPostPlan (rootContext length) initialStore (enterRequest "") =
      .ok (looseTag length, none) := by
    rcases few with rfl | rfl <;> decide
  exact .inventoryPost planned

/-- Nothing is pending yet. -/
def idleState (db : Store) : CreationState Bool where
  db := db
  pending _ := none
  overtaken _ := false

/-- Two inventory POSTs of one serial number make their checks before either of them writes. -/
theorem duplicate_serial_number_created :
    ¬ ∀ s : CreationState Bool,
      Reachable CreationState.Idle (CreationStep fun _ _ => True) s → UniqueKeys s.db := by
  intro claim
  have start : Reachable CreationState.Idle (CreationStep fun _ _ => True)
      (idleState initialStore) :=
    .start ⟨⟨List.nodup_nil, List.nodup_nil, List.nodup_nil, List.nodup_nil⟩, fun _ => rfl⟩
  have firstChecked := start.step
    (.check false (rootContext 20) _ (looseTag_checked 20 (.inl rfl)))
  have bothChecked := firstChecked.step
    (.check true (rootContext 30) _ (looseTag_checked 30 (.inr rfl)))
  have firstWritten := bothChecked.step
    (.write false (rootContext 20) (.tag (looseTag 20) none) rfl fun _ => trivial)
  have bothWritten := firstWritten.step
    (.write true (rootContext 30) (.tag (looseTag 30) none) rfl fun _ => trivial)
  have unique := (claim _ bothWritten).inventory
  exact absurd unique (by decide)

/-- A POST of a device that the inventory does not have. -/
theorem uniqueKeys_after_post :
    ∃ db, db.inventoryDB.rows.map InventoryTag.serialNumber = ["aabbccddeeff"] ∧ UniqueKeys db := by
  have start : Reachable CreationState.Idle (CreationStep InTime) (idleState initialStore) :=
    .start ⟨⟨List.nodup_nil, List.nodup_nil, List.nodup_nil, List.nodup_nil⟩, fun _ => rfl⟩
  have checked := start.step
    (.check false (rootContext 20) _ (looseTag_checked 20 (.inl rfl)))
  have written := checked.step
    (.write false (rootContext 20) (.tag (looseTag 20) none) rfl fun _ => rfl)
  exact ⟨_, by decide, uniqueKeys_of_run written⟩

end Owprov
