import Owprov.EffectiveRules
import Owprov.SerialCache
import Owprov.SerialSearch

/-!
# The devices under radio resource management

`InventoryDB::GetRRMDeviceList` goes through the cache of serial numbers, turns each number back
into a text and resolves the rules of the device of that serial number.  A device is listed unless
its rule is `no` or `inherit`.
-/

namespace Owprov

open AcyclicRelation FixedDigits RowTable Runs

/-! ## The code -/

/-- `InventoryDB::EvaluateDeviceSerialNumberRules`: the rules, if there is such a device. -/
def evaluateDeviceSerialNumberRules (db : Store) (config : DeviceRules) (fuel : ℕ)
    (serialNumber : String) : Option (Option DeviceRules) :=
  match getBy db.inventoryDB InventoryTag.serialNumber serialNumber with
  | none => some none
  | some tag => (evaluateDeviceRules db config fuel tag).map some

/-- The test of `GetRRMDeviceList` for one serial number. -/
def isRRMDevice (db : Store) (config : DeviceRules) (fuel : ℕ) (serialNumber : String) :
    Option Bool :=
  (evaluateDeviceSerialNumberRules db config fuel serialNumber).map fun rules =>
    rules.any fun rules => rules.rrm != "no" && rules.rrm != "inherit"

/-- `InventoryDB::GetRRMDeviceList` for a copy of the cache. -/
def getRRMDeviceList (db : Store) (config : DeviceRules) (fuel : ℕ) (sns : List ℕ) :
    Option (List String) :=
  sns.foldlM
    (fun deviceList sn =>
      (isRRMDevice db config fuel (intToSerialNumber sn)).map fun listed =>
        if listed then deviceList ++ [intToSerialNumber sn] else deviceList)
    []

/-- The serial number that a sub-device PUT adds to the cache, where the tag follows the
device. -/
def syncedSerial (ctx : Context) (db : Store) (request : Request) : Option String :=
  match parsePutRequest ctx db request with
  | .error _ => none
  | .ok put =>
      match updateConfigurationRecord ctx db put with
      | .error _ => none
      | .ok configured =>
          match applyPutRequest put.body
            { put.update with deviceConfiguration := configured.deviceConfiguration }
            put.existing with
          | .error _ => none
          | .ok projected =>
              if configured.updated || (put.body.has "deviceConfiguration" &&
                  put.existing.deviceConfiguration != projected.deviceConfiguration) ||
                  syncsInventory put.body then
                some projected.serialNumber
              else
                none

/-! ## Runs -/

/-- What changes the inventory or the cache, and any change elsewhere. -/
inductive CacheStep (server : DeviceServer) : DeviceServer → Prop
  | event {server' : DeviceServer} (ctx : Context) (event : DeviceEvent)
      (canonical : event.Canonical) (handled : server.handle ctx event = some server') :
      CacheStep server server'
  | unsynced (ctx : Context) (request : Request)
      (succeeded : (subDeviceDoPut ctx server.db request).Succeeds)
      (unsynced : syncedSerial ctx server.db request = none) :
      CacheStep server { server with db := (subDeviceDoPut ctx server.db request).store }
  | synced (ctx : Context) (request : Request) {serial : String} {cache : SerialCache}
      (succeeded : (subDeviceDoPut ctx server.db request).Succeeds)
      (synced : syncedSerial ctx server.db request = some serial)
      (canonical : CanonicalSerial serial)
      (added : server.cache.addSerialNumber serial = some cache) :
      CacheStep server { db := (subDeviceDoPut ctx server.db request).store, cache }
  | elsewhere (db : Store) (same : db.serialNumbers = server.db.serialNumbers) :
      CacheStep server { server with db }
  | restart {cache : SerialCache} (initialized : initializeSerialCache server.db = some cache) :
      CacheStep server { server with cache }

section Put

variable {ctx : Context} {db : Store}

/-- The tag follows the device, or the inventory stays as it is. -/
theorem serialNumbers_syncInventory {body : JsonObject} {device : SubscriberDevice}
    {updated : Bool} (succeeded : (syncInventory ctx db body device updated).Succeeds) :
    match if updated || syncsInventory body then some device.serialNumber else none with
    | none => (syncInventory ctx db body device updated).store.serialNumbers = db.serialNumbers
    | some serial => Enters db serial (syncInventory ctx db body device updated).store := by
  unfold syncInventory at succeeded ⊢
  cases follows : updated || syncsInventory body with
  | false => rfl
  | true =>
      rw [follows, if_pos rfl] at succeeded
      rw [if_pos rfl, if_pos rfl]
      cases entered : createInventoryRecord db device (ctx.newId 1) with
      | none =>
          rw [entered] at succeeded
          cases succeeded
      | some synced => exact enters_createInventoryRecord entered

theorem serialNumbers_subDeviceDoPut {request : Request}
    (succeeded : (subDeviceDoPut ctx db request).Succeeds) :
    match syncedSerial ctx db request with
    | none => (subDeviceDoPut ctx db request).store.serialNumbers = db.serialNumbers
    | some serial => Enters db serial (subDeviceDoPut ctx db request).store := by
  unfold syncedSerial
  unfold subDeviceDoPut at succeeded ⊢
  cases parsed : parsePutRequest ctx db request with
  | error failure =>
      rw [parsed] at succeeded
      cases succeeded
  | ok put =>
      rw [parsed] at succeeded
      dsimp only at succeeded ⊢
      cases updated : updateConfigurationRecord ctx db put with
      | error failure =>
          rw [updated] at succeeded
          cases succeeded
      | ok configured =>
          rw [updated] at succeeded
          dsimp only at succeeded ⊢
          have sameTags : configured.db.inventoryDB = db.inventoryDB := by
            rw [tables_updateConfigurationRecord updated]
          cases applied : applyPutRequest put.body
              { put.update with deviceConfiguration := configured.deviceConfiguration }
              put.existing with
          | error failure =>
              rw [applied] at succeeded
              cases succeeded
          | ok projected =>
              rw [applied] at succeeded
              dsimp only at succeeded ⊢
              have before : ∀ {device : SubscriberDevice} {updated : Bool} {stored : Store},
                  stored.inventoryDB = db.inventoryDB →
                  (syncInventory ctx stored put.body device updated).Succeeds →
                  match if updated || syncsInventory put.body then some device.serialNumber
                    else none with
                  | none => (syncInventory ctx stored put.body device updated).store.serialNumbers =
                      db.serialNumbers
                  | some serial =>
                      Enters db serial
                        (syncInventory ctx stored put.body device updated).store := by
                intro device updated stored sameTable synced
                have numbers := serialNumbers_syncInventory synced
                cases follows : updated || syncsInventory put.body with
                | false =>
                    rw [follows, if_neg Bool.false_ne_true] at numbers
                    exact numbers.trans (serialNumbers_congr sameTable)
                | true =>
                    rw [follows, if_pos rfl] at numbers
                    exact Enters.congr numbers (serialNumbers_congr sameTable) rfl
              by_cases same : projected = put.existing
              · rw [if_pos same] at succeeded ⊢
                have numbers := before sameTags succeeded
                rw [same]
                simpa only [bne_self_eq_false, Bool.and_false, Bool.or_false] using numbers
              · rw [if_neg same] at succeeded ⊢
                exact before ((inventoryDB_storeSubDevice _ put projected).trans sameTags) succeeded

end Put

/-- Each of them keeps the cache and the inventory in step. -/
theorem InStep.cacheStep {server server' : DeviceServer} (inStep : InStep server)
    (step : CacheStep server server') : InStep server' := by
  cases step with
  | event ctx event canonical handled =>
      exact inStep.step canonical (DeviceServer.serialMove handled)
  | unsynced ctx request succeeded unsynced =>
      have numbers := serialNumbers_subDeviceDoPut succeeded
      rw [unsynced] at numbers
      exact ⟨numbers ▸ inStep.canonical, numbers ▸ inStep.unique, numbers ▸ inStep.cached⟩
  | synced ctx request succeeded synced canonical added =>
      have enters := serialNumbers_subDeviceDoPut succeeded
      rw [synced] at enters
      exact inStep.entered canonical enters added
  | elsewhere db same =>
      exact ⟨same ▸ inStep.canonical, same ▸ inStep.unique, same ▸ inStep.cached⟩
  | restart initialized =>
      obtain ⟨filled, isFilled, members⟩ :=
        SerialCache.exists_foldlM_addSerialNumber inStep.canonical .empty
      obtain rfl := Option.some.inj (initialized.symm.trans isFilled)
      refine ⟨inStep.canonical, inStep.unique, fun sn => ?_⟩
      rw [members]
      exact or_iff_left List.not_mem_nil

theorem inStep_of_reached {server : DeviceServer}
    (reached : Reachable DeviceServer.Empty CacheStep server) : InStep server :=
  reached.invariant (fun _ empty => inStep_of_empty empty) fun _ _ inStep step =>
    inStep.cacheStep step

/-! ## The evaluation -/

section Evaluation

variable {db : Store} {config rules result : DeviceRules} {fuel more : ℕ}

theorem evaluateEntityRules_mono (enough : fuel ≤ more) {id : String}
    (evaluated : evaluateEntityRules db config fuel id rules = some result) :
    evaluateEntityRules db config more id rules = some result := by
  induction fuel generalizing more id rules with
  | zero => cases evaluated
  | succ fuel ih =>
      obtain ⟨more, rfl⟩ := Nat.exists_eq_add_one_of_ne_zero (by omega : more ≠ 0)
      have next := @ih
      unfold evaluateEntityRules at evaluated ⊢
      cases found : db.entityDB.get? id with
      | none =>
          rw [found] at evaluated
          exact evaluated
      | some entity =>
          rw [found] at evaluated
          dsimp only at evaluated ⊢
          split
          case h_1 applied decided =>
            rw [decided] at evaluated
            exact evaluated
          case h_2 applied inherits =>
            rw [inherits] at evaluated
            dsimp only at evaluated
            split
            case isTrue filled =>
              rw [if_pos filled] at evaluated
              exact next (by omega) evaluated
            case isFalse isTop =>
              rw [if_neg isTop] at evaluated
              exact evaluated

theorem evaluateVenueRules_mono (enough : fuel ≤ more) {id : String}
    (evaluated : evaluateVenueRules db config fuel id rules = some result) :
    evaluateVenueRules db config more id rules = some result := by
  induction fuel generalizing more id rules with
  | zero => cases evaluated
  | succ fuel ih =>
      obtain ⟨more, rfl⟩ := Nat.exists_eq_add_one_of_ne_zero (by omega : more ≠ 0)
      have next := @ih
      have less : fuel ≤ more := by omega
      unfold evaluateVenueRules at evaluated ⊢
      cases found : db.venueDB.get? id with
      | none =>
          rw [found] at evaluated
          exact evaluated
      | some venue =>
          rw [found] at evaluated
          dsimp only at evaluated ⊢
          split
          case h_1 applied decided =>
            rw [decided] at evaluated
            exact evaluated
          case h_2 applied inherits =>
            rw [inherits] at evaluated
            dsimp only at evaluated
            split
            case isTrue filled =>
              rw [if_pos filled] at evaluated
              exact next less evaluated
            case isFalse isTop =>
              rw [if_neg isTop] at evaluated
              split
              case isTrue owned =>
                rw [if_pos owned] at evaluated
                exact evaluateEntityRules_mono less evaluated
              case isFalse free =>
                rw [if_neg free] at evaluated
                exact evaluated

theorem evaluateDeviceRules_mono (enough : fuel ≤ more) {tag : InventoryTag}
    (evaluated : evaluateDeviceRules db config fuel tag = some result) :
    evaluateDeviceRules db config more tag = some result := by
  unfold evaluateDeviceRules at evaluated ⊢
  split
  case isTrue placed =>
    rw [if_pos placed] at evaluated
    exact evaluateVenueRules_mono enough evaluated
  case isFalse unplaced =>
    rw [if_neg unplaced] at evaluated
    split
    case isTrue owned =>
      rw [if_pos owned] at evaluated
      exact evaluateEntityRules_mono enough evaluated
    case isFalse free =>
      rw [if_neg free] at evaluated
      exact evaluated

/-- The rules of a device do not depend on the fuel. -/
theorem evaluateDeviceRules_unique {tag : InventoryTag} {other : DeviceRules}
    (evaluated : evaluateDeviceRules db config fuel tag = some result)
    (again : evaluateDeviceRules db config more tag = some other) : result = other := by
  have first := evaluateDeviceRules_mono (Nat.le_max_left fuel more) evaluated
  have second := evaluateDeviceRules_mono (Nat.le_max_right fuel more) again
  exact Option.some.inj (first.symm.trans second)

end Evaluation

/-! ## The list -/

/-- A loop that keeps what passes a test, where the test may not end. -/
theorem foldlM_keep_eq_some_iff {α β : Type} {test : α → Option Bool} {text : α → β}
    {items : List α} {kept result : List β} :
    (items.foldlM (fun kept item => (test item).map fun passes =>
        if passes then kept ++ [text item] else kept) kept) = some result ↔
      (∀ item ∈ items, (test item).isSome) ∧
        result = kept ++ (items.filter fun item => test item == some true).map text := by
  induction items generalizing kept with
  | nil =>
      rw [List.foldlM_nil, List.filter_nil, List.map_nil, List.append_nil]
      constructor
      · rintro ⟨⟩
        exact ⟨fun _ impossible => absurd impossible List.not_mem_nil, rfl⟩
      · rintro ⟨_, rfl⟩
        rfl
  | cons item items ih =>
      rw [List.foldlM_cons]
      cases tested : test item with
      | none =>
          rw [Option.map_none]
          refine iff_of_false (by rintro ⟨⟩) ?_
          rintro ⟨ends, _⟩
          have ended := ends item List.mem_cons_self
          rw [tested] at ended
          cases ended
      | some passes =>
          rw [Option.map_some]
          refine ih.trans ?_
          rw [List.forall_mem_cons, tested, and_iff_right (Option.isSome_some)]
          cases passes with
          | false =>
              rw [List.filter_cons_of_neg (by rw [tested]; decide), if_neg Bool.false_ne_true]
          | true =>
              rw [List.filter_cons_of_pos (by rw [tested]; decide), if_pos rfl, List.map_cons,
                List.append_assoc, List.singleton_append]

section List

variable {env : Env} {config : DeviceRules} {server : DeviceServer}

/-- The texts of the keywords are no documents. -/
structure RejectsKeywords (env : Env) : Prop where
  no : env.validRRMDetails "no" = false
  inherit : env.validRRMDetails "inherit" = false

/-- The rules of each device can be resolved, and the rule on radio management that comes out is
one that `ValidRRM` accepts. -/
def RulesSettled (env : Env) (config : DeviceRules) (db : Store) : Prop :=
  ∀ tag ∈ db.inventoryDB.rows, ∃ fuel rules,
    evaluateDeviceRules db config fuel tag = some rules ∧ validRRM env rules.rrm = true

/-- The list holds each device whose rule is a valid document once, under its serial number. -/
def ListsRRMDevices (env : Env) (config : DeviceRules) (server : DeviceServer) : Prop :=
  ∃ fuel deviceList,
    getRRMDeviceList server.db config fuel server.cache.sns = some deviceList ∧
    deviceList.Nodup ∧
    ∀ serial, serial ∈ deviceList ↔ ∃ tag ∈ server.db.inventoryDB.rows,
      tag.serialNumber = serial ∧ ∃ fuel rules,
        evaluateDeviceRules server.db config fuel tag = some rules ∧
          env.validRRMDetails rules.rrm = true

/-- A canonical serial number is what its number is turned back into. -/
theorem CanonicalSerial.intToSerialNumber {serial : String} (canonical : CanonicalSerial serial) :
    Owprov.intToSerialNumber (serialValue serial) = serial := by
  have values : serial.toList.map lowerHexValue = serial.toList.map hexValue :=
    List.map_congr_left fun c member => (hexValue_of_isLowerHex (canonical.2 c member)).symm
  have digits : fixedDigits 16 12 (serialValue serial) = serial.toList.map hexValue := by
    have read := fixedDigits_valueOf (map_hexValue_lt serial.toList)
    rw [List.length_map, canonical.1] at read
    rw [serialValue, values]
    exact read
  apply String.toList_inj.mp
  rw [toList_intToSerialNumber, digits, map_hexChar_hexValue canonical.2]

theorem InStep.text (inStep : InStep server) {sn : ℕ} (cached : sn ∈ server.cache.sns) :
    ∃ tag ∈ server.db.inventoryDB.rows, intToSerialNumber sn = tag.serialNumber ∧
      sn = serialValue tag.serialNumber := by
  obtain ⟨serial, member, rfl⟩ := List.mem_map.mp ((inStep.cached sn).mp cached)
  obtain ⟨tag, isTag, rfl⟩ := List.mem_map.mp member
  exact ⟨tag, isTag, (inStep.canonical _ member).intToSerialNumber, rfl⟩

/-- A device is found by its serial number. -/
theorem InStep.getBy (inStep : InStep server) {tag : InventoryTag}
    (member : tag ∈ server.db.inventoryDB.rows) :
    Owprov.getBy server.db.inventoryDB InventoryTag.serialNumber tag.serialNumber = some tag := by
  cases found : Owprov.getBy server.db.inventoryDB InventoryTag.serialNumber tag.serialNumber with
  | none => exact absurd rfl (getBy_eq_none found member)
  | some other =>
      rw [List.inj_on_of_nodup_map inStep.unique (getBy_mem found) member (getBy_column found)]

theorem InStep.isRRMDevice (inStep : InStep server) {tag : InventoryTag}
    (member : tag ∈ server.db.inventoryDB.rows) (fuel : ℕ) :
    Owprov.isRRMDevice server.db config fuel tag.serialNumber =
      (evaluateDeviceRules server.db config fuel tag).map fun rules =>
        rules.rrm != "no" && rules.rrm != "inherit" := by
  rw [Owprov.isRRMDevice, evaluateDeviceSerialNumberRules, inStep.getBy member, Option.map_map]
  rfl

theorem InStep.nodup_texts (inStep : InStep server) :
    (server.cache.sns.map intToSerialNumber).Nodup := by
  apply List.Nodup.map_on ?_ server.cache.distinct
  intro first isFirst second isSecond same
  obtain ⟨tag, _, text, value⟩ := inStep.text isFirst
  obtain ⟨other, _, otherText, otherValue⟩ := inStep.text isSecond
  rw [value, otherValue, ← text, ← otherText, same]

/-- What a list of the devices is, once there is one. -/
theorem InStep.mem_getRRMDeviceList (inStep : InStep server) {fuel : ℕ} {deviceList : List String}
    (listed : getRRMDeviceList server.db config fuel server.cache.sns = some deviceList) :
    (∀ tag ∈ server.db.inventoryDB.rows,
      ∃ rules, evaluateDeviceRules server.db config fuel tag = some rules) ∧
    deviceList.Nodup ∧
    ∀ serial, serial ∈ deviceList ↔ ∃ tag ∈ server.db.inventoryDB.rows,
      tag.serialNumber = serial ∧ ∃ rules,
        evaluateDeviceRules server.db config fuel tag = some rules ∧
          rules.rrm ≠ "no" ∧ rules.rrm ≠ "inherit" := by
  obtain ⟨ends, isList⟩ := foldlM_keep_eq_some_iff.mp listed
  rw [List.nil_append] at isList
  refine ⟨?_, ?_, ?_⟩
  · intro tag member
    have serial := List.mem_map_of_mem (f := InventoryTag.serialNumber) member
    have cached := (inStep.cached _).mpr (List.mem_map_of_mem (f := serialValue) serial)
    have ended := ends _ cached
    rw [(inStep.canonical _ serial).intToSerialNumber, inStep.isRRMDevice member,
      Option.isSome_map, Option.isSome_iff_exists] at ended
    exact ended
  · rw [isList]
    exact inStep.nodup_texts.sublist (List.filter_sublist.map _)
  · intro serial
    rw [isList, List.mem_map]
    constructor
    · rintro ⟨sn, kept, rfl⟩
      obtain ⟨cached, passes⟩ := List.mem_filter.mp kept
      obtain ⟨tag, member, text, _⟩ := inStep.text cached
      rw [text, inStep.isRRMDevice member, beq_iff_eq, Option.map_eq_some_iff] at passes
      obtain ⟨rules, evaluated, enabled⟩ := passes
      exact ⟨tag, member, text.symm, rules, evaluated, by simpa using enabled⟩
    · rintro ⟨tag, member, rfl, rules, evaluated, enabled⟩
      have serial := List.mem_map_of_mem (f := InventoryTag.serialNumber) member
      have cached := (inStep.cached _).mpr (List.mem_map_of_mem (f := serialValue) serial)
      have text := (inStep.canonical _ serial).intToSerialNumber
      refine ⟨serialValue tag.serialNumber, List.mem_filter.mpr ⟨cached, ?_⟩, text⟩
      rw [text, inStep.isRRMDevice member, evaluated]
      simpa using enabled

/-- Where the rules of all devices can be resolved, there is a list. -/
theorem InStep.exists_getRRMDeviceList (inStep : InStep server)
    (ends : ∀ tag ∈ server.db.inventoryDB.rows, ∃ fuel rules,
      evaluateDeviceRules server.db config fuel tag = some rules) :
    ∃ fuel deviceList,
      getRRMDeviceList server.db config fuel server.cache.sns = some deviceList := by
  obtain ⟨fuel, each⟩ := exists_fuel_of_forall
    (fun fuel tag => ∃ rules, evaluateDeviceRules server.db config fuel tag = some rules)
    (fun _ _ _ enough ⟨rules, evaluated⟩ => ⟨rules, evaluateDeviceRules_mono enough evaluated⟩) ends
  refine ⟨fuel, _, foldlM_keep_eq_some_iff.mpr ⟨fun sn cached => ?_, rfl⟩⟩
  obtain ⟨tag, member, text, _⟩ := inStep.text cached
  rw [text, inStep.isRRMDevice member, Option.isSome_map, Option.isSome_iff_exists]
  exact each tag member

theorem InStep.listsRRMDevices_iff (inStep : InStep server) (rejects : RejectsKeywords env) :
    ListsRRMDevices env config server ↔ RulesSettled env config server.db := by
  constructor
  · rintro ⟨fuel, deviceList, listed, _, exact⟩ tag member
    obtain ⟨ends, _, members⟩ := inStep.mem_getRRMDeviceList listed
    obtain ⟨rules, evaluated⟩ := ends tag member
    refine ⟨fuel, rules, evaluated, ?_⟩
    by_cases keyword : rules.rrm = "no" ∨ rules.rrm = "inherit"
    · rcases keyword with isNo | inherits
      · simp [validRRM, isNo]
      · simp [validRRM, inherits]
    · have isListed : tag.serialNumber ∈ deviceList :=
        (members _).mpr ⟨tag, member, rfl, rules, evaluated, not_or.mp keyword⟩
      obtain ⟨other, isOther, same, more, found, again, valid⟩ := (exact _).mp isListed
      obtain rfl := List.inj_on_of_nodup_map inStep.unique isOther member same
      obtain rfl := evaluateDeviceRules_unique evaluated again
      simp [validRRM, valid]
  · intro settled
    obtain ⟨fuel, deviceList, listed⟩ := inStep.exists_getRRMDeviceList fun tag member => by
      obtain ⟨fuel, rules, evaluated, _⟩ := settled tag member
      exact ⟨fuel, rules, evaluated⟩
    obtain ⟨_, nodup, members⟩ := inStep.mem_getRRMDeviceList listed
    refine ⟨fuel, deviceList, listed, nodup, fun serial => (members serial).trans ?_⟩
    refine exists_congr fun tag => and_congr_right fun member => and_congr_right fun _ => ?_
    constructor
    · rintro ⟨rules, evaluated, notNo, decided⟩
      obtain ⟨more, again, resolved, valid⟩ := settled tag member
      obtain rfl := evaluateDeviceRules_unique evaluated resolved
      refine ⟨fuel, rules, evaluated, ?_⟩
      simpa [validRRM, notNo, decided] using valid
    · rintro ⟨more, again, resolved, valid⟩
      obtain ⟨ends, _⟩ := inStep.mem_getRRMDeviceList listed
      obtain ⟨rules, evaluated⟩ := ends tag member
      obtain rfl := evaluateDeviceRules_unique evaluated resolved
      refine ⟨rules, evaluated, ?_, ?_⟩
      · intro isNo
        rw [isNo, rejects.no] at valid
        cases valid
      · intro inherits
        rw [inherits, rejects.inherit] at valid
        cases valid

end List

/-- As long as the serial numbers are canonical, the list is exact whenever no device comes to a
rule that `ValidRRM` refuses. -/
theorem rrmDeviceList_exact_iff {env : Env} (rejects : RejectsKeywords env) (config : DeviceRules)
    {server : DeviceServer} (reached : Reachable DeviceServer.Empty CacheStep server) :
    ListsRRMDevices env config server ↔ RulesSettled env config server.db :=
  (inStep_of_reached reached).listsRRMDevices_iff rejects

/-! ## Rules that are stored -/

/-- `ValidRRM` accepts every rule that a device can inherit. -/
structure ValidStoredRules (env : Env) (config : DeviceRules) (db : Store) : Prop where
  tags : ∀ tag ∈ db.inventoryDB.rows, validRRM env tag.deviceRules.rrm = true
  venues : ∀ venue ∈ db.venueDB.rows, validRRM env venue.deviceRules.rrm = true
  entities : ∀ entity ∈ db.entityDB.rows, validRRM env entity.deviceRules.rrm = true
  service : validRRM env config.rrm = true

section StoredRules

variable {env : Env} {config rules result : DeviceRules} {db : Store} {fuel : ℕ}

theorem validRRM_inheritRule {found rule : String} (validFound : validRRM env found = true)
    (validRule : validRRM env rule = true) : validRRM env (inheritRule found rule) = true := by
  unfold inheritRule
  split
  · exact validFound
  · exact validRule

theorem ValidStoredRules.evaluateEntityRules (stored : ValidStoredRules env config db) {id : String}
    (valid : validRRM env rules.rrm = true)
    (evaluated : Owprov.evaluateEntityRules db config fuel id rules = some result) :
    validRRM env result.rrm = true := by
  induction fuel generalizing id rules with
  | zero => cases evaluated
  | succ fuel ih =>
      unfold Owprov.evaluateEntityRules at evaluated
      split at evaluated
      case h_1 missing =>
        cases evaluated
        exact validRRM_inheritRule stored.service valid
      case h_2 entity found =>
        have isValid := stored.entities entity (Table.mem_of_get? found)
        have applied : validRRM env (applyRules entity.deviceRules rules).1.rrm = true :=
          validRRM_inheritRule isValid valid
        split at evaluated
        case h_1 decided =>
          rw [decided] at applied
          cases evaluated
          exact applied
        case h_2 inherits =>
          rw [inherits] at applied
          split at evaluated
          case isTrue filled => exact ih applied evaluated
          case isFalse isTop =>
            cases evaluated
            exact validRRM_inheritRule stored.service applied

theorem ValidStoredRules.evaluateVenueRules (stored : ValidStoredRules env config db) {id : String}
    (valid : validRRM env rules.rrm = true)
    (evaluated : Owprov.evaluateVenueRules db config fuel id rules = some result) :
    validRRM env result.rrm = true := by
  induction fuel generalizing id rules with
  | zero => cases evaluated
  | succ fuel ih =>
      unfold Owprov.evaluateVenueRules at evaluated
      split at evaluated
      case h_1 missing =>
        cases evaluated
        exact validRRM_inheritRule stored.service valid
      case h_2 venue found =>
        have isValid := stored.venues venue (Table.mem_of_get? found)
        have applied : validRRM env (applyRules venue.deviceRules rules).1.rrm = true :=
          validRRM_inheritRule isValid valid
        split at evaluated
        case h_1 decided =>
          rw [decided] at applied
          cases evaluated
          exact applied
        case h_2 inherits =>
          rw [inherits] at applied
          split at evaluated
          case isTrue filled => exact ih applied evaluated
          case isFalse isTop =>
            split at evaluated
            case isTrue owned => exact stored.evaluateEntityRules applied evaluated
            case isFalse free =>
              cases evaluated
              exact validRRM_inheritRule stored.service applied

/-- In a hierarchy without cycles, rules that were accepted settle every device. -/
theorem ValidStoredRules.settled (stored : ValidStoredRules env config db)
    (acyclic : AcyclicHierarchy db) : RulesSettled env config db := by
  intro tag member
  obtain ⟨fuel, result, evaluated⟩ := acyclic.evaluated config tag
  refine ⟨fuel, result, evaluated, ?_⟩
  have own := stored.tags tag member
  unfold evaluateDeviceRules at evaluated
  split at evaluated
  case isTrue placed => exact stored.evaluateVenueRules own evaluated
  case isFalse unplaced =>
    split at evaluated
    case isTrue owned => exact stored.evaluateEntityRules own evaluated
    case isFalse free =>
      cases evaluated
      exact validRRM_inheritRule stored.service own

end StoredRules

/-! ## A device below the root entity -/

/-- A service where no document on radio management is valid. -/
def noDocuments : Context :=
  { rootContext 30 with
    env := { (rootContext 30).env with validRRMDetails := fun _ => false } }

theorem noDocuments_rejects : RejectsKeywords noDocuments.env :=
  ⟨rfl, rfl⟩

theorem rrmDeviceList_exact_after_post :
    ∃ server : DeviceServer, server.db.serialNumbers = ["aabbccddeeff"] ∧
      (ListsRRMDevices noDocuments.env serviceRules server ↔
        RulesSettled noDocuments.env serviceRules server.db) := by
  obtain ⟨server, numbers, handled⟩ :=
    systemServer_post (show _ = some ["aabbccddeeff"] by decide)
  have canonical :
      (DeviceEvent.subDevicePost (subDeviceRequest "aabbccddeeff" "olg")).Canonical := by
    rintro body isBody
    cases isBody
    decide
  exact ⟨server, numbers, rrmDeviceList_exact_iff noDocuments_rejects serviceRules
    (.step (.start ⟨rfl, rfl⟩) (.event (rootContext 14) _ canonical handled))⟩

/-- A device that inherits everything gets the rule of the root entity, and is listed. -/
theorem off_device_listed :
    ¬ ∀ (env : Env) (config : DeviceRules) (server : DeviceServer), RejectsKeywords env →
      Reachable DeviceServer.Empty CacheStep server → ListsRRMDevices env config server := by
  intro claim
  have entered : (DeviceServer.handle noDocuments { db := oneVenue, cache := .empty }
      (.inventoryPost (enterRequest (unaryId 21)))).map (fun server =>
        server.db.inventoryDB.rows.map fun tag =>
          (evaluateDeviceRules server.db serviceRules 9 tag).map DeviceRules.rrm) =
      some [some "off"] := by
    decide
  obtain ⟨server, handled, rules⟩ := Option.map_eq_some_iff.mp entered
  have opened :
      CacheStep { db := initialStore, cache := .empty } { db := oneVenue, cache := .empty } :=
    .elsewhere oneVenue (by decide)
  have reached : Reachable DeviceServer.Empty CacheStep server :=
    .step (.step (.start ⟨rfl, rfl⟩) opened)
      (.event noDocuments (.inventoryPost (enterRequest (unaryId 21))) trivial handled)
  have lists := claim noDocuments.env serviceRules server noDocuments_rejects reached
  have settled := ((inStep_of_reached reached).listsRRMDevices_iff noDocuments_rejects).mp lists
  obtain ⟨tag, member, isOff⟩ := List.mem_map.mp (show some "off" ∈ _ from
    rules ▸ List.mem_singleton_self (some "off"))
  obtain ⟨found, evaluated, off⟩ := Option.map_eq_some_iff.mp isOff
  obtain ⟨fuel, again, resolved, valid⟩ := settled tag member
  obtain rfl := evaluateDeviceRules_unique evaluated resolved
  rw [off] at valid
  exact absurd valid (by decide)

end Owprov
