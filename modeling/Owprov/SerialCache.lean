import Mathlib.Data.List.Sort
import Owprov.SerialNumbers
import Owprov.SubscriberGateways
import Owprov.UniqueKeys

/-!
# The cache of serial numbers

`SerialNumberCache` keeps the serial numbers of the inventory as sorted numbers, once as they are
and once with their digits reversed, so that a device is found by the start or the end of its
serial number.  Whoever writes a tag adds its serial number, and whoever deletes one removes it.
-/

namespace Owprov

open RowTable Runs

/-- `SNs_` and `Reverse_SNs_`. -/
@[ext]
structure SerialCache where
  sns : List ℕ
  reverseSns : List ℕ
  sorted : sns.Pairwise (· ≤ ·)
  distinct : sns.Nodup
  reverseSorted : reverseSns.Pairwise (· ≤ ·)

namespace SerialCache

def empty : SerialCache where
  sns := []
  reverseSns := []
  sorted := .nil
  distinct := .nil
  reverseSorted := .nil

/-- A number is inserted at its `lower_bound`, and so is its reverse. -/
def insert (cache : SerialCache) (sn rsn : ℕ) (new : sn ∉ cache.sns) : SerialCache where
  sns := cache.sns.orderedInsert (· ≤ ·) sn
  reverseSns := cache.reverseSns.orderedInsert (· ≤ ·) rsn
  sorted := cache.sorted.orderedInsert sn _
  distinct := by
    rw [(List.perm_orderedInsert (· ≤ ·) sn cache.sns).nodup_iff]
    exact List.nodup_cons.mpr ⟨new, cache.distinct⟩
  reverseSorted := cache.reverseSorted.orderedInsert rsn _

/-- The first occurrences of a number and of its reverse are erased. -/
def erase (cache : SerialCache) (sn rsn : ℕ) : SerialCache where
  sns := cache.sns.erase sn
  reverseSns := cache.reverseSns.erase rsn
  sorted := cache.sorted.sublist List.erase_sublist
  distinct := cache.distinct.sublist List.erase_sublist
  reverseSorted := cache.reverseSorted.sublist List.erase_sublist

/-- `AddSerialNumber`, or nothing when `std::stoull` throws. -/
def addSerialNumber (cache : SerialCache) (serial : String) : Option SerialCache :=
  (stoull16 serial).bind fun sn =>
    if known : sn ∈ cache.sns then
      some cache
    else
      (stoull16 (reverseSerialNumber serial)).map fun rsn => cache.insert sn rsn known

/-- `DeleteSerialNumber`, or nothing when `std::stoull` throws. -/
def deleteSerialNumber (cache : SerialCache) (serial : String) : Option SerialCache :=
  (stoull16 serial).bind fun sn =>
    if sn ∈ cache.sns then
      (stoull16 (reverseSerialNumber serial)).map fun rsn => cache.erase sn rsn
    else
      some cache

variable {cache cache' : SerialCache} {serial : String}

theorem addSerialNumber_isSome (canonical : CanonicalSerial serial) (cache : SerialCache) :
    (cache.addSerialNumber serial).isSome := by
  unfold addSerialNumber
  rw [canonical.stoull16, canonical.reverse.stoull16, Option.bind_some]
  split_ifs <;> rfl

theorem deleteSerialNumber_isSome (canonical : CanonicalSerial serial) (cache : SerialCache) :
    (cache.deleteSerialNumber serial).isSome := by
  unfold deleteSerialNumber
  rw [canonical.stoull16, canonical.reverse.stoull16, Option.bind_some]
  split_ifs <;> rfl

theorem mem_addSerialNumber (canonical : CanonicalSerial serial)
    (added : cache.addSerialNumber serial = some cache') (sn : ℕ) :
    sn ∈ cache'.sns ↔ sn = serialValue serial ∨ sn ∈ cache.sns := by
  unfold addSerialNumber at added
  rw [canonical.stoull16, canonical.reverse.stoull16, Option.bind_some] at added
  split_ifs at added with known
  · cases added
    constructor
    · exact Or.inr
    · rintro (rfl | member)
      · exact known
      · exact member
  · cases added
    exact List.mem_orderedInsert _

theorem mem_deleteSerialNumber (canonical : CanonicalSerial serial)
    (deleted : cache.deleteSerialNumber serial = some cache') (sn : ℕ) :
    sn ∈ cache'.sns ↔ sn ≠ serialValue serial ∧ sn ∈ cache.sns := by
  unfold deleteSerialNumber at deleted
  rw [canonical.stoull16, canonical.reverse.stoull16, Option.bind_some] at deleted
  split_ifs at deleted with known
  · cases deleted
    exact cache.distinct.mem_erase_iff
  · cases deleted
    constructor
    · intro member
      refine ⟨?_, member⟩
      rintro rfl
      exact known member
    · exact And.right

/-- Serial numbers that are added one after the other. -/
theorem exists_foldlM_addSerialNumber {serials : List String}
    (canonical : ∀ serial ∈ serials, CanonicalSerial serial) (cache : SerialCache) :
    ∃ filled, serials.foldlM addSerialNumber cache = some filled ∧
      ∀ sn, sn ∈ filled.sns ↔ sn ∈ serials.map serialValue ∨ sn ∈ cache.sns := by
  induction serials generalizing cache with
  | nil => exact ⟨cache, rfl, fun sn => by simp⟩
  | cons serial serials ih =>
      have isCanonical := canonical serial List.mem_cons_self
      obtain ⟨added, isAdded⟩ := Option.isSome_iff_exists.mp (addSerialNumber_isSome isCanonical cache)
      obtain ⟨filled, isFilled, members⟩ :=
        ih (fun other member => canonical other (List.mem_cons_of_mem serial member)) added
      refine ⟨filled, ?_, fun sn => ?_⟩
      · rw [List.foldlM_cons, isAdded]
        exact isFilled
      · rw [members, mem_addSerialNumber isCanonical isAdded, List.map_cons, List.mem_cons]
        tauto

/-- Two caches of the same numbers are the same list. -/
theorem sns_eq_of_mem_iff (same : ∀ sn, sn ∈ cache'.sns ↔ sn ∈ cache.sns) :
    cache'.sns = cache.sns :=
  ((List.perm_ext_iff_of_nodup cache'.distinct cache.distinct).mpr same).eq_of_pairwise'
    cache'.sorted cache.sorted

end SerialCache

/-- The serial numbers of the inventory. -/
def Store.serialNumbers (db : Store) : List String :=
  db.inventoryDB.rows.map InventoryTag.serialNumber

/-- `InitializeSerialCache`, or nothing when a serial number ends the start of the service. -/
def initializeSerialCache (db : Store) : Option SerialCache :=
  db.serialNumbers.foldlM SerialCache.addSerialNumber .empty

/-! ## Requests and connections -/

/-- The database and the cache. -/
structure DeviceServer where
  db : Store
  cache : SerialCache

/-- What enters devices into the inventory and takes them out. -/
inductive DeviceEvent where
  | inventoryPost (request : Request)
  | inventoryDelete (request : Request)
  | subDevicePost (request : Request)
  | subDeviceDelete (request : Request)
  | connection (env : ConnectionEnv) (message : ConnectionMessage)

/-- The database after an event, unless a request is refused. -/
def DeviceEvent.store? (ctx : Context) (db : Store) : DeviceEvent → Option Store
  | .inventoryPost request =>
      if (inventoryDoPost ctx db request).Succeeds then
        some (inventoryDoPost ctx db request).store
      else
        none
  | .inventoryDelete request =>
      if (inventoryDoDelete db request).Succeeds then
        some (inventoryDoDelete db request).store
      else
        none
  | .subDevicePost request =>
      if (subDeviceDoPost ctx db request).Succeeds then
        some (subDeviceDoPost ctx db request).store
      else
        none
  | .subDeviceDelete request =>
      if (subDeviceDoDelete ctx db request).Succeeds then
        some (subDeviceDoDelete ctx db request).store
      else
        none
  | .connection env message => some (createFromConnection env db message (ctx.newId 0))

/-- The cache after an event, unless it throws. -/
def DeviceEvent.cache? (ctx : Context) (db : Store) (cache : SerialCache) :
    DeviceEvent → Option SerialCache
  | .inventoryPost request =>
      cache.addSerialNumber (normalizeMac (toLower (request.getBinding "serialNumber"))).1
  | .inventoryDelete request => cache.deleteSerialNumber (request.getBinding "serialNumber")
  | .subDevicePost request =>
      match subDeviceDoPostPlan ctx db request with
      | .error _ => none
      | .ok (_, device, _) => cache.addSerialNumber device.serialNumber
  | .subDeviceDelete request =>
      match validateDeleteRequest db request with
      | .error _ => none
      | .ok device =>
          match getBy db.inventoryDB InventoryTag.serialNumber device.serialNumber with
          | none => some cache
          | some _ => cache.deleteSerialNumber device.serialNumber
  | .connection env message =>
      match connectionPlan env db message (ctx.newId 0) with
      | .created tag =>
          if (enterDiscovered db tag).isSome then cache.addSerialNumber tag.serialNumber
          else some cache
      | .updated _ => some cache
      | .unchanged => some cache

/-- An accepted event; a request that throws is not accepted. -/
def DeviceServer.handle (ctx : Context) (server : DeviceServer) (event : DeviceEvent) :
    Option DeviceServer := do
  let db ← event.store? ctx server.db
  let cache ← event.cache? ctx server.db server.cache
  return { db := db, cache := cache }

/-- The serial number that comes with an event has the one form that the cache expects.  An
inventory POST brings it into this form itself. -/
def DeviceEvent.Canonical : DeviceEvent → Prop
  | .subDevicePost request =>
      ∀ body, request.jsonBody = .ok body → CanonicalSerial (body.stringField "serialNumber")
  | .connection _ message => CanonicalSerial (toLower message.serialNumber)
  | _ => True

/-! ## What the events do to the serial numbers -/

/-- A serial number is in the inventory afterwards, and no other has come or gone. -/
def Enters (db : Store) (serial : String) (db' : Store) : Prop :=
  (serial ∈ db.serialNumbers ∧ db'.serialNumbers = db.serialNumbers) ∨
    (serial ∉ db.serialNumbers ∧ db'.serialNumbers = db.serialNumbers ++ [serial])

theorem not_mem_serialNumbers {db : Store} {serial : String}
    (missing : getBy db.inventoryDB InventoryTag.serialNumber serial = none) :
    serial ∉ db.serialNumbers := by
  intro member
  obtain ⟨tag, isTag, same⟩ := List.mem_map.mp member
  exact getBy_eq_none missing isTag same

theorem mem_serialNumbers {db : Store} {serial : String} {tag : InventoryTag}
    (found : getBy db.inventoryDB InventoryTag.serialNumber serial = some tag) :
    serial ∈ db.serialNumbers := by
  rw [← getBy_column found]
  exact List.mem_map_of_mem (getBy_mem found)

theorem Enters.mem {db db' : Store} {serial : String} (enters : Enters db serial db') :
    serial ∈ db'.serialNumbers := by
  rcases enters with ⟨member, same⟩ | ⟨_, appended⟩
  · exact same ▸ member
  · rw [appended]
    exact List.mem_append_right _ (List.mem_singleton_self serial)

theorem serialNumbers_congr {db db' : Store} (same : db'.inventoryDB = db.inventoryDB) :
    db'.serialNumbers = db.serialNumbers := by
  rw [Store.serialNumbers, same]
  rfl

theorem Enters.congr {db db' first last : Store} {serial : String} (enters : Enters first serial last)
    (before : first.serialNumbers = db.serialNumbers)
    (after : db'.serialNumbers = last.serialNumbers) : Enters db serial db' := by
  unfold Enters at enters ⊢
  rw [before] at enters
  rw [after]
  exact enters

theorem enters_of_insert {db db' : Store} {tag : InventoryTag}
    (missing : getBy db.inventoryDB InventoryTag.serialNumber tag.serialNumber = none)
    (inserted : db.inventoryDB.insert? tag = some db'.inventoryDB) :
    Enters db tag.serialNumber db' :=
  .inr ⟨not_mem_serialNumbers missing, Table.map_rows_insert? inserted InventoryTag.serialNumber⟩

theorem enters_inventoryDoPost {ctx : Context} {db : Store} {request : Request}
    (succeeded : (inventoryDoPost ctx db request).Succeeds) :
    ∃ tag config, inventoryDoPostPlan ctx db request = .ok (tag, config) ∧
      Enters db tag.serialNumber (inventoryDoPost ctx db request).store := by
  unfold inventoryDoPost at succeeded ⊢
  cases planned : inventoryDoPostPlan ctx db request with
  | error failure =>
      rw [planned] at succeeded
      cases succeeded
  | ok result =>
      obtain ⟨tag, config⟩ := result
      rw [planned] at succeeded
      dsimp only at succeeded ⊢
      cases stored : storeInlineConfiguration db config with
      | error failure =>
          rw [stored] at succeeded
          cases succeeded
      | ok configured =>
          rw [stored] at succeeded
          dsimp only at succeeded ⊢
          have sameTable : configured.inventoryDB = db.inventoryDB :=
            congrArg KeyTables.inventoryDB (keyTables_storeInlineConfiguration stored)
          cases inserted : configured.inventoryDB.insert? tag with
          | none =>
              rw [inserted] at succeeded
              cases succeeded
          | some inventoryDB =>
              refine ⟨tag, config, rfl, ?_⟩
              rw [sameTable] at inserted
              exact enters_of_insert (inventoryDoPostPlan_free planned) inserted

theorem enters_createInventoryRecord {db db' : Store} {device : SubscriberDevice} {newId : String}
    (entered : createInventoryRecord db device newId = some db') :
    Enters db device.serialNumber db' := by
  unfold createInventoryRecord at entered
  dsimp only at entered
  cases found : getBy db.inventoryDB InventoryTag.serialNumber device.serialNumber with
  | none =>
      rw [found] at entered
      obtain ⟨inventoryDB, inserted, rfl⟩ := Option.map_eq_some_iff.mp entered
      exact @enters_of_insert db _
        (newInventoryTag device newId (resolvedVenueId db device.subscriberId)) found inserted
  | some existing =>
      rw [found] at entered
      cases entered
      refine .inl ⟨mem_serialNumbers found, Table.map_rows_update ?_⟩
      intro row atId
      have same : some row = some existing :=
        atId.symm.trans (Table.get?_key_of_mem (getBy_mem found))
      rw [Option.some.inj same]
      rfl

theorem enters_subDeviceDoPost {ctx : Context} {db : Store} {request : Request}
    (succeeded : (subDeviceDoPost ctx db request).Succeeds) :
    ∃ body device configuration,
      subDeviceDoPostPlan ctx db request = .ok (body, device, configuration) ∧
        Enters db device.serialNumber (subDeviceDoPost ctx db request).store := by
  unfold subDeviceDoPost at succeeded ⊢
  cases planned : subDeviceDoPostPlan ctx db request with
  | error failure =>
      rw [planned] at succeeded
      cases succeeded
  | ok result =>
      obtain ⟨body, device, configuration⟩ := result
      refine ⟨body, device, configuration, rfl, ?_⟩
      rw [planned] at succeeded
      dsimp only at succeeded ⊢
      cases stored : createConfigurationRecord ctx db device configuration (ctx.newId 0) with
      | error failure =>
          rw [stored] at succeeded
          cases succeeded
      | ok result =>
          obtain ⟨configured, named⟩ := result
          obtain ⟨sameTables, sameSerial⟩ := keyTables_createConfigurationRecord stored
          rw [stored] at succeeded
          dsimp only at succeeded ⊢
          cases renamed : createObjectInfoUnchecked body named.info (ctx.newId 1) with
          | error failure =>
              rw [renamed] at succeeded
              cases succeeded
          | ok info =>
              rw [renamed] at succeeded
              dsimp only at succeeded ⊢
              cases inserted : configured.subscriberDeviceDB.insert? { named with info := info } with
              | none =>
                  rw [inserted] at succeeded
                  cases succeeded
              | some subscriberDeviceDB =>
                  rw [inserted] at succeeded
                  dsimp only at succeeded ⊢
                  split at succeeded
                  · cases succeeded
                  · rename_i entered isEntered
                    have enters : Enters _ named.serialNumber entered :=
                      enters_createInventoryRecord isEntered
                    rw [sameSerial] at enters
                    rw [Outcome.store_done]
                    exact enters.congr
                      (serialNumbers_congr (congrArg KeyTables.inventoryDB sameTables))
                      (serialNumbers_congr (congrArg KeyTables.inventoryDB
                        (keyTables_startMonitoring ctx entered _)))

/-- A connection changes the tag of a device that the inventory has. -/
theorem serialNumbers_connected {env : ConnectionEnv} {db : Store} {message : ConnectionMessage}
    {newId : String} {tag : InventoryTag}
    (planned : connectionPlan env db message newId = .updated tag) :
    ({ db with inventoryDB := db.inventoryDB.update tag } : Store).serialNumbers =
      db.serialNumbers := by
  obtain ⟨existing, member, sameInfo, sameSerial, _⟩ := connectionPlan_eq_updated planned
  apply Table.map_rows_update
  intro row atId
  have sameKey : key tag = key existing := congrArg ObjectInfo.id sameInfo
  rw [sameKey, Table.get?_key_of_mem member] at atId
  rw [← Option.some.inj atId, sameSerial]

/-- A serial number leaves the inventory. -/
def Leaves (db : Store) (serial : String) (db' : Store) : Prop :=
  serial ∈ db.serialNumbers ∧
    (db.serialNumbers.Nodup →
      db'.serialNumbers = db.serialNumbers.filter fun other => other ≠ serial)

theorem leaves_of_delete {db db' : Store} {serial : String} {tag : InventoryTag}
    (found : getBy db.inventoryDB InventoryTag.serialNumber serial = some tag)
    (deleted : db'.inventoryDB = db.inventoryDB.delete tag.info.id) : Leaves db serial db' := by
  refine ⟨mem_serialNumbers found, fun unique => ?_⟩
  have left := Table.map_rows_delete unique (getBy_mem found)
  rw [getBy_column found] at left
  rw [Store.serialNumbers, deleted]
  exact left

theorem leaves_inventoryDoDelete {db : Store} {request : Request}
    (succeeded : (inventoryDoDelete db request).Succeeds) :
    Leaves db (request.getBinding "serialNumber") (inventoryDoDelete db request).store := by
  unfold inventoryDoDelete at succeeded ⊢
  cases planned : inventoryDoDeletePlan db request with
  | error failure =>
      rw [planned] at succeeded
      cases succeeded
  | ok existing =>
      dsimp only
      rw [Outcome.store_done]
      have found : getBy db.inventoryDB InventoryTag.serialNumber
          (request.getBinding "serialNumber") = some existing := by
        unfold inventoryDoDeletePlan at planned
        dsimp only at planned
        split at planned
        · cases planned
        · rename_i tag found
          simp only [bind_eq_ok_iff, require_eq_ok_iff] at planned
          obtain ⟨_, _, _, _, same⟩ := planned
          rw [found, Except.ok.inj same]
      exact leaves_of_delete found rfl

theorem inventoryDB_stopMonitoring {ctx : Context} {db db' : Store} {device : SubscriberDevice}
    (stopped : stopMonitoring ctx db device = some db') : db'.inventoryDB = db.inventoryDB := by
  unfold stopMonitoring at stopped
  split at stopped
  · cases stopped
    rfl
  · split at stopped
    · cases stopped
      rfl
    · split at stopped
      · cases stopped
        rfl
      · cases stopped

theorem serialNumbers_deleteInventory (db : Store) (device : SubscriberDevice) :
    match getBy db.inventoryDB InventoryTag.serialNumber device.serialNumber with
    | none => (deleteInventoryForSubscriberDevice db device).serialNumbers = db.serialNumbers
    | some _ =>
        Leaves db device.serialNumber (deleteInventoryForSubscriberDevice db device) := by
  unfold deleteInventoryForSubscriberDevice
  cases found : getBy db.inventoryDB InventoryTag.serialNumber device.serialNumber with
  | none =>
      apply serialNumbers_congr
      rw [tables_cleanupSubscriberConfigurationRecord]
  | some tag =>
      apply leaves_of_delete found
      dsimp only
      rw [tables_cleanups]
      rfl

/-! ## One event -/

theorem isLowerHex_toLower {c : Char}
    (hex : (c.isDigit || ('a' ≤ c.toLower && c.toLower ≤ 'f')) = true) :
    IsLowerHex c.toLower := by
  rw [Bool.or_eq_true] at hex
  rcases hex with digit | letter
  · have range : '0' ≤ c ∧ c ≤ '9' := by
      rw [Char.isDigit, Bool.and_eq_true, decide_eq_true_eq, decide_eq_true_eq] at digit
      exact digit
    have notUpper : ¬(c.val ≥ 'A'.val ∧ c.val ≤ 'Z'.val) := by
      rintro ⟨upper, -⟩
      have before : 'A' ≤ '9' := Char.le_trans upper range.2
      exact absurd before (by decide)
    have same : c.toLower = c := dif_neg notUpper
    rw [same]
    exact .inl range
  · rw [Bool.and_eq_true, decide_eq_true_eq, decide_eq_true_eq] at letter
    exact .inr letter

/-- A MAC address is brought into the canonical form. -/
theorem canonicalSerial_normalizeMac {mac : String} (isMac : (normalizeMac mac).2 = true) :
    CanonicalSerial (normalizeMac mac).1 := by
  unfold normalizeMac at isMac ⊢
  dsimp only at isMac ⊢
  split at isMac
  · rename_i hex
    rw [if_pos hex]
    unfold CanonicalSerial toLower
    rw [String.toList_ofList, String.toList_ofList, List.length_map]
    refine ⟨hex.1, fun c member => ?_⟩
    obtain ⟨digit, isDigit, rfl⟩ := List.mem_map.mp member
    exact isLowerHex_toLower (List.all_eq_true.mp hex.2 digit isDigit)
  · cases isMac

theorem inventoryDoPostPlan_serialNumber {ctx : Context} {db : Store} {request : Request}
    {tag : InventoryTag} {config : Option DeviceConfiguration}
    (planned : inventoryDoPostPlan ctx db request = .ok (tag, config)) :
    tag.serialNumber = (normalizeMac (toLower (request.getBinding "serialNumber"))).1 ∧
      CanonicalSerial tag.serialNumber := by
  simp only [inventoryDoPostPlan, bind_eq_ok_iff, require_eq_ok_iff] at planned
  obtain ⟨_, _, _, isMac, _, _, _, _, _, _, planned⟩ := planned
  obtain ⟨_, _, _, _, _, _, _, _, _, _, _, _, _, _, _, _, _, _, planned⟩ := planned
  obtain ⟨_, _, _, _, _, _, _, _, _, _, planned⟩ := planned
  obtain ⟨rfl, rfl⟩ := Prod.mk.inj (Except.ok.inj planned)
  have canonical := canonicalSerial_normalizeMac isMac
  -- nothing below depends on how the serial number is normalized
  generalize normalizeMac (toLower (request.getBinding "serialNumber")) = normalized at canonical ⊢
  exact ⟨rfl, canonical⟩

theorem subDeviceDoPostPlan_serialNumber {ctx : Context} {db : Store} {request : Request}
    {body : JsonObject} {device : SubscriberDevice}
    {configuration : List DeviceConfigurationElement}
    (planned : subDeviceDoPostPlan ctx db request = .ok (body, device, configuration)) :
    request.jsonBody = .ok body ∧ device.serialNumber = body.stringField "serialNumber" := by
  simp only [subDeviceDoPostPlan, bind_eq_ok_iff, require_eq_ok_iff] at planned
  obtain ⟨_, isBody, _, read, _, _, _, _, _, _, _, _, planned⟩ := planned
  obtain ⟨rfl, answer⟩ := Prod.mk.inj (Except.ok.inj planned)
  obtain ⟨rfl, rfl⟩ := Prod.mk.inj answer
  rw [SubscriberDevice.fromJson, orInvalid_eq_ok_iff] at read
  simp only [bind_eq_ok_iff] at read
  obtain ⟨_, _, read⟩ := read
  rw [← Except.ok.inj read]
  exact ⟨isBody, rfl⟩

/-- What an event does to the serial numbers and to the cache, and what makes it canonical. -/
inductive SerialMove (ctx : Context) (event : DeviceEvent) (server server' : DeviceServer) : Prop
  | entered (serial : String) (asked : event.Canonical ↔ CanonicalSerial serial)
      (enters : Enters server.db serial server'.db)
      (added : server.cache.addSerialNumber serial = some server'.cache)
  | left (serial : String) (asked : event.Canonical) (leaves : Leaves server.db serial server'.db)
      (deleted : server.cache.deleteSerialNumber serial = some server'.cache)
  | same
      (asked : (∀ serial ∈ server.db.serialNumbers, CanonicalSerial serial) →
        server.db.inventoryDB.get? (ctx.newId 0) = none → event.Canonical)
      (numbers : server'.db.serialNumbers = server.db.serialNumbers)
      (cache : server'.cache = server.cache)

theorem DeviceServer.handle_eq_some {ctx : Context} {server server' : DeviceServer}
    {event : DeviceEvent} :
    server.handle ctx event = some server' ↔
      event.store? ctx server.db = some server'.db ∧
        event.cache? ctx server.db server.cache = some server'.cache := by
  unfold DeviceServer.handle
  cases event.store? ctx server.db with
  | none => simp
  | some db =>
      cases event.cache? ctx server.db server.cache with
      | none => simp
      | some cache =>
          cases server'
          simp

theorem serialMove_inventoryPost {ctx : Context} {server server' : DeviceServer}
    {request : Request} (handled : server.handle ctx (.inventoryPost request) = some server') :
    SerialMove ctx (.inventoryPost request) server server' := by
  obtain ⟨stored, cached⟩ := DeviceServer.handle_eq_some.mp handled
  unfold DeviceEvent.store? at stored
  unfold DeviceEvent.cache? at cached
  dsimp only at stored cached
  obtain ⟨succeeded, isStore⟩ := Option.ite_none_right_eq_some.mp stored
  obtain ⟨tag, config, planned, enters⟩ := enters_inventoryDoPost succeeded
  obtain ⟨isSerial, canonical⟩ := inventoryDoPostPlan_serialNumber planned
  rw [Option.some.inj isStore] at enters
  rw [← isSerial] at cached
  exact .entered tag.serialNumber (iff_of_true trivial canonical) enters cached

theorem serialMove_inventoryDelete {ctx : Context} {server server' : DeviceServer}
    {request : Request} (handled : server.handle ctx (.inventoryDelete request) = some server') :
    SerialMove ctx (.inventoryDelete request) server server' := by
  obtain ⟨stored, cached⟩ := DeviceServer.handle_eq_some.mp handled
  unfold DeviceEvent.store? at stored
  unfold DeviceEvent.cache? at cached
  dsimp only at stored cached
  obtain ⟨succeeded, isStore⟩ := Option.ite_none_right_eq_some.mp stored
  have leaves := leaves_inventoryDoDelete succeeded
  rw [Option.some.inj isStore] at leaves
  exact .left _ trivial leaves cached

theorem serialMove_subDevicePost {ctx : Context} {server server' : DeviceServer}
    {request : Request} (handled : server.handle ctx (.subDevicePost request) = some server') :
    SerialMove ctx (.subDevicePost request) server server' := by
  obtain ⟨stored, cached⟩ := DeviceServer.handle_eq_some.mp handled
  unfold DeviceEvent.store? at stored
  unfold DeviceEvent.cache? at cached
  dsimp only at stored cached
  obtain ⟨succeeded, isStore⟩ := Option.ite_none_right_eq_some.mp stored
  obtain ⟨body, device, configuration, planned, enters⟩ := enters_subDeviceDoPost succeeded
  obtain ⟨isBody, isSerial⟩ := subDeviceDoPostPlan_serialNumber planned
  rw [Option.some.inj isStore] at enters
  rw [planned] at cached
  apply SerialMove.entered device.serialNumber ?_ enters cached
  rw [isSerial]
  constructor
  · exact fun canonical => canonical body isBody
  · intro canonical other isOther
    rw [isBody] at isOther
    exact Except.ok.inj isOther ▸ canonical

theorem serialMove_subDeviceDelete {ctx : Context} {server server' : DeviceServer}
    {request : Request} (handled : server.handle ctx (.subDeviceDelete request) = some server') :
    SerialMove ctx (.subDeviceDelete request) server server' := by
  obtain ⟨stored, cached⟩ := DeviceServer.handle_eq_some.mp handled
  unfold DeviceEvent.store? at stored
  unfold DeviceEvent.cache? at cached
  dsimp only at stored cached
  obtain ⟨succeeded, isStore⟩ := Option.ite_none_right_eq_some.mp stored
  have isStore := Option.some.inj isStore
  unfold subDeviceDoDelete at succeeded isStore
  cases planned : validateDeleteRequest server.db request with
  | error failure =>
      rw [planned] at cached
      cases cached
  | ok device =>
      rw [planned] at succeeded isStore cached
      dsimp only at succeeded isStore cached
      cases stopped : stopMonitoring ctx server.db device with
      | none =>
          rw [stopped] at succeeded
          cases succeeded
      | some idle =>
          rw [stopped] at isStore
          dsimp only at isStore
          rw [Outcome.store_done] at isStore
          have sameTable := inventoryDB_stopMonitoring stopped
          have removed := serialNumbers_deleteInventory { idle with
            subscriberDeviceDB := idle.subscriberDeviceDB.delete device.info.id } device
          rw [isStore] at removed
          dsimp only at removed
          rw [sameTable] at removed
          cases found : getBy server.db.inventoryDB InventoryTag.serialNumber
              device.serialNumber with
          | none =>
              rw [found] at removed cached
              exact .same (fun _ _ => trivial) removed (Option.some.inj cached).symm
          | some tag =>
              rw [found] at removed cached
              exact .left device.serialNumber trivial removed cached

theorem serialMove_connection {ctx : Context} {server server' : DeviceServer} {env : ConnectionEnv}
    {message : ConnectionMessage}
    (handled : server.handle ctx (.connection env message) = some server') :
    SerialMove ctx (.connection env message) server server' := by
  obtain ⟨stored, cached⟩ := DeviceServer.handle_eq_some.mp handled
  unfold DeviceEvent.store? at stored
  unfold DeviceEvent.cache? at cached
  dsimp only at stored cached
  have isStore := Option.some.inj stored
  unfold createFromConnection at isStore
  cases planned : connectionPlan env server.db message (ctx.newId 0) with
  | created tag =>
      rw [planned] at isStore cached
      obtain ⟨missing, isDiscovered⟩ := connectionPlan_eq_created planned
      dsimp only at isStore cached
      cases entered : enterDiscovered server.db tag with
      | none =>
          rw [entered] at isStore cached
          rw [Option.getD_none] at isStore
          apply SerialMove.same
          · intro _ unused
            have free : server.db.inventoryDB.get? (key tag) = none := by
              rw [isDiscovered]
              exact unused
            obtain ⟨inventoryDB, inserted⟩ := Table.insert?_isSome free
            rw [enterDiscovered, inserted] at entered
            cases entered
          · rw [isStore]
          · exact (Option.some.inj cached).symm
      | some db' =>
          rw [entered] at isStore cached
          rw [Option.getD_some] at isStore
          subst isStore
          apply SerialMove.entered tag.serialNumber ?_
            (enters_of_insert missing (inventoryDB_of_enterDiscovered entered)) cached
          rw [isDiscovered]
          exact Iff.rfl
  | updated tag =>
      rw [planned] at isStore cached
      dsimp only at isStore cached
      apply SerialMove.same
      · intro canonical _
        obtain ⟨existing, member, _, sameSerial, isSerial⟩ := connectionPlan_eq_updated planned
        show CanonicalSerial (toLower message.serialNumber)
        rw [← isSerial, sameSerial]
        exact canonical existing.serialNumber (List.mem_map_of_mem member)
      · rw [← isStore]
        exact serialNumbers_connected planned
      · exact (Option.some.inj cached).symm
  | unchanged =>
      rw [planned] at isStore cached
      dsimp only at isStore cached
      apply SerialMove.same
      · intro canonical _
        unfold connectionPlan at planned
        split at planned
        · cases planned
        · rename_i existing found
          exact canonical _ (mem_serialNumbers found)
      · rw [isStore]
      · exact (Option.some.inj cached).symm

theorem DeviceServer.serialMove {ctx : Context} {server server' : DeviceServer}
    {event : DeviceEvent} (handled : server.handle ctx event = some server') :
    SerialMove ctx event server server' := by
  cases event with
  | inventoryPost request => exact serialMove_inventoryPost handled
  | inventoryDelete request => exact serialMove_inventoryDelete handled
  | subDevicePost request => exact serialMove_subDevicePost handled
  | subDeviceDelete request => exact serialMove_subDeviceDelete handled
  | connection env message => exact serialMove_connection handled

/-! ## Runs -/

/-- The cache holds the serial numbers of the inventory, which have the one form that it expects
and belong to one device each. -/
structure InStep (server : DeviceServer) : Prop where
  canonical : ∀ serial ∈ server.db.serialNumbers, CanonicalSerial serial
  unique : server.db.serialNumbers.Nodup
  cached : ∀ sn, sn ∈ server.cache.sns ↔ sn ∈ server.db.serialNumbers.map serialValue

theorem InStep.entered {server server' : DeviceServer} {serial : String} (inStep : InStep server)
    (isCanonical : CanonicalSerial serial) (enters : Enters server.db serial server'.db)
    (added : server.cache.addSerialNumber serial = some server'.cache) : InStep server' := by
  have members : ∀ other, other ∈ server'.db.serialNumbers ↔
      other = serial ∨ other ∈ server.db.serialNumbers := by
    intro other
    rcases enters with ⟨known, same⟩ | ⟨_, appended⟩
    · rw [same]
      constructor
      · exact Or.inr
      · rintro (rfl | member)
        · exact known
        · exact member
    · rw [appended, List.mem_append, List.mem_singleton, or_comm]
  constructor
  case canonical =>
    intro other member
    rcases (members other).mp member with rfl | before
    · exact isCanonical
    · exact inStep.canonical other before
  case unique =>
    rcases enters with ⟨_, same⟩ | ⟨new, appended⟩
    · rw [same]
      exact inStep.unique
    · rw [appended]
      exact List.nodup_append'.mpr ⟨inStep.unique, List.nodup_singleton serial,
        List.disjoint_singleton.mpr new⟩
  case cached =>
    intro sn
    rw [SerialCache.mem_addSerialNumber isCanonical added, inStep.cached, List.mem_map,
      List.mem_map]
    constructor
    · rintro (rfl | ⟨other, member, rfl⟩)
      · exact ⟨serial, (members serial).mpr (.inl rfl), rfl⟩
      · exact ⟨other, (members other).mpr (.inr member), rfl⟩
    · rintro ⟨other, member, rfl⟩
      rcases (members other).mp member with rfl | before
      · exact .inl rfl
      · exact .inr ⟨other, before, rfl⟩

theorem InStep.left {server server' : DeviceServer} {serial : String} (inStep : InStep server)
    (leaves : Leaves server.db serial server'.db)
    (deleted : server.cache.deleteSerialNumber serial = some server'.cache) : InStep server' := by
  obtain ⟨known, removed⟩ := leaves
  have isCanonical := inStep.canonical serial known
  have members : ∀ other, other ∈ server'.db.serialNumbers ↔
      other ∈ server.db.serialNumbers ∧ other ≠ serial := by
    intro other
    rw [removed inStep.unique, List.mem_filter, decide_eq_true_eq]
  constructor
  case canonical => exact fun other member => inStep.canonical other ((members other).mp member).1
  case unique =>
    rw [removed inStep.unique]
    exact inStep.unique.filter _
  case cached =>
    intro sn
    rw [SerialCache.mem_deleteSerialNumber isCanonical deleted, inStep.cached, List.mem_map,
      List.mem_map]
    constructor
    · rintro ⟨differ, other, member, rfl⟩
      refine ⟨other, (members other).mpr ⟨member, ?_⟩, rfl⟩
      rintro rfl
      exact differ rfl
    · rintro ⟨other, member, rfl⟩
      obtain ⟨before, differ⟩ := (members other).mp member
      -- two canonical serial numbers have different values
      exact ⟨fun same => differ (serialValue_injective (inStep.canonical other before) isCanonical
        same), other, before, rfl⟩

theorem InStep.step {ctx : Context} {event : DeviceEvent} {server server' : DeviceServer}
    (inStep : InStep server) (canonical : event.Canonical) (move : SerialMove ctx event server server') : InStep server' := by
  cases move with
  | entered serial asked enters added => exact inStep.entered (asked.mp canonical) enters added
  | left serial _ leaves deleted => exact inStep.left leaves deleted
  | same _ numbers cache =>
      constructor
      case canonical => exact numbers ▸ inStep.canonical
      case unique => exact numbers ▸ inStep.unique
      case cached =>
        rw [numbers, cache]
        exact inStep.cached

/-- An accepted event keeps the cache and the inventory in step just when its serial number is
canonical. -/
theorem inStep_handle_iff {ctx : Context} {event : DeviceEvent} {server server' : DeviceServer}
    (inStep : InStep server) (unused : server.db.inventoryDB.get? (ctx.newId 0) = none)
    (handled : server.handle ctx event = some server') : InStep server' ↔ event.Canonical := by
  have move := DeviceServer.serialMove handled
  constructor
  · intro after
    cases move with
    | entered serial asked enters added =>
        exact asked.mpr (after.canonical serial enters.mem)
    | left serial asked leaves deleted => exact asked
    | same asked numbers cache => exact asked inStep.canonical unused
  · exact fun canonical => inStep.step canonical move

/-- At the start the inventory is empty. -/
def DeviceServer.Empty (server : DeviceServer) : Prop :=
  server.db.inventoryDB.rows = [] ∧ server.cache = .empty

/-- An accepted event. -/
def DeviceStep (condition : DeviceEvent → Prop) (server server' : DeviceServer) : Prop :=
  ∃ ctx event, condition event ∧ server.handle ctx event = some server'

/-- What `SerialNumberCache` expects of the inventory, and the inventory of it. -/
structure SerialsCached (server : DeviceServer) : Prop where
  canonical : ∀ serial ∈ server.db.serialNumbers, CanonicalSerial serial
  cacheable : ∀ serial ∈ server.db.serialNumbers, ∀ cache : SerialCache,
    (cache.addSerialNumber serial).isSome ∧ (cache.deleteSerialNumber serial).isSome
  cached : ∀ sn, sn ∈ server.cache.sns ↔
    ∃ serial ∈ server.db.serialNumbers, stoull16 serial = some sn
  initialized : ∃ cache, initializeSerialCache server.db = some cache ∧
    cache.sns = server.cache.sns
  unique : (server.db.serialNumbers.map stoull16).Nodup

theorem InStep.serialsCached {server : DeviceServer} (inStep : InStep server) :
    SerialsCached server := by
  constructor
  case canonical => exact inStep.canonical
  case cacheable =>
    intro serial member cache
    have isCanonical := inStep.canonical serial member
    exact ⟨SerialCache.addSerialNumber_isSome isCanonical cache,
      SerialCache.deleteSerialNumber_isSome isCanonical cache⟩
  case cached =>
    intro sn
    rw [inStep.cached, List.mem_map]
    refine exists_congr fun serial => and_congr_right fun member => ?_
    rw [(inStep.canonical serial member).stoull16, Option.some.injEq]
  case initialized =>
    obtain ⟨filled, isFilled, members⟩ :=
      SerialCache.exists_foldlM_addSerialNumber inStep.canonical .empty
    refine ⟨filled, isFilled, SerialCache.sns_eq_of_mem_iff fun sn => ?_⟩
    rw [members, inStep.cached]
    exact or_iff_left List.not_mem_nil
  case unique =>
    apply List.Nodup.map_on ?_ inStep.unique
    intro first isFirst second isSecond same
    have canonicalFirst := inStep.canonical first isFirst
    have canonicalSecond := inStep.canonical second isSecond
    rw [canonicalFirst.stoull16, canonicalSecond.stoull16] at same
    exact serialValue_injective canonicalFirst canonicalSecond (Option.some.inj same)

theorem inStep_of_empty {server : DeviceServer} (empty : server.Empty) : InStep server := by
  obtain ⟨noRows, noNumbers⟩ := empty
  have none : server.db.serialNumbers = [] := by rw [Store.serialNumbers, noRows, List.map_nil]
  constructor
  case canonical =>
    rw [none]
    exact fun serial member => absurd member List.not_mem_nil
  case unique =>
    rw [none]
    exact List.nodup_nil
  case cached =>
    rw [none, noNumbers]
    exact fun sn => Iff.rfl

/-- As long as sub-device requests and connections bring canonical serial numbers, the cache and
the inventory agree. -/
theorem serials_cached_of_run {server : DeviceServer}
    (reached : Reachable DeviceServer.Empty (DeviceStep DeviceEvent.Canonical) server) :
    SerialsCached server := by
  have inStep : InStep server := by
    refine reached.invariant (fun _ empty => inStep_of_empty empty) ?_
    rintro server server' inStep ⟨ctx, event, canonical, handled⟩
    exact inStep.step canonical (DeviceServer.serialMove handled)
  exact inStep.serialsCached

/-- A service for whose subscriber a device can be created. -/
def systemServer : DeviceServer where
  db := systemStore "o-1" "s-1"
  cache := .empty

/-- A sub-device POST of this serial number is accepted, and the inventory has it. -/
theorem systemServer_post {serial : String}
    (entered : (DeviceServer.handle (rootContext 14) systemServer
      (.subDevicePost (subDeviceRequest serial "olg"))).map (fun server =>
        server.db.serialNumbers) = some [serial]) :
    ∃ server, server.db.serialNumbers = [serial] ∧ systemServer.handle (rootContext 14)
      (.subDevicePost (subDeviceRequest serial "olg")) = some server := by
  obtain ⟨server, handled, numbers⟩ := Option.map_eq_some_iff.mp entered
  exact ⟨server, numbers, handled⟩

/-- A sub-device POST is accepted with a serial number in capitals. -/
theorem capital_serial_stored :
    ¬ ∀ server, Reachable DeviceServer.Empty (DeviceStep fun _ => True) server →
      SerialsCached server := by
  intro claim
  obtain ⟨server, numbers, handled⟩ :=
    systemServer_post (show _ = some ["AABBCCDDEEFF"] by decide)
  have cached := claim server
    (.step (.start ⟨rfl, rfl⟩) ⟨rootContext 14, _, trivial, handled⟩)
  have canonical : CanonicalSerial "AABBCCDDEEFF" := by
    apply cached.canonical
    rw [numbers]
    exact List.mem_singleton_self _
  exact absurd canonical (by decide)

/-- A sub-device POST in lower case. -/
theorem serials_cached_after_post :
    ∃ server : DeviceServer, server.db.serialNumbers = ["aabbccddeeff"] ∧
      SerialsCached server := by
  obtain ⟨server, numbers, handled⟩ :=
    systemServer_post (show _ = some ["aabbccddeeff"] by decide)
  have canonical : (DeviceEvent.subDevicePost (subDeviceRequest "aabbccddeeff" "olg")).Canonical := by
    rintro body isBody
    cases isBody
    decide
  exact ⟨server, numbers, serials_cached_of_run
    (.step (.start ⟨rfl, rfl⟩) ⟨rootContext 14, _, canonical, handled⟩)⟩

end Owprov
