import Owprov.Lib.GroupHeads
import Owprov.Lib.Runs
import Owprov.OperatorLinks
import Owprov.SubDeviceHandlers
import Owprov.VenueHierarchy

/-!
# One gateway for each subscriber

The first device of a subscriber has to be its `olg`, later ones are access points, and the
`olg` is deleted last.  An update may make the `olg` an access point, or give a device to
another subscriber, and only looks for a second `olg`.
-/

namespace Owprov

open RowTable Runs GroupHeads

/-! ## Tables as sets -/

section Rows

variable {α : Type} [Keyed α String] {table table' : Table α}

theorem rowSet_insert? {row : α} (inserted : table.insert? row = some table') :
    {other | other ∈ table'.rows} = insert row {other | other ∈ table.rows} := by
  ext other
  rw [Set.mem_ofPred_eq, Table.mem_rows_insert? inserted, Set.mem_insert_iff, or_comm]
  exact Iff.rfl

theorem rowSet_delete {row : α} (member : row ∈ table.rows) :
    {other | other ∈ (table.delete (key row)).rows} = {other | other ∈ table.rows} \ {row} := by
  ext other
  rw [Set.mem_ofPred_eq, Table.mem_rows_delete, Set.mem_sdiff, Set.mem_singleton_iff,
    Set.mem_ofPred_eq]
  refine and_congr_right fun otherMem => not_congr ⟨fun same => ?_, fun same => by rw [same]⟩
  exact List.inj_on_of_nodup_map table.distinct otherMem member same

theorem rowSet_update {old new : α} (found : table.get? (key new) = some old) :
    {other | other ∈ (table.update new).rows} = insert new ({other | other ∈ table.rows} \ {old}) := by
  ext other
  have isRow : ∀ (t : Table α), other ∈ t.rows ↔ t.get? (key other) = some other :=
    fun t => ⟨Table.get?_key_of_mem, Table.mem_of_get?⟩
  rw [Set.mem_ofPred_eq, isRow, Set.mem_insert_iff, Set.mem_sdiff, Set.mem_singleton_iff,
    Set.mem_ofPred_eq, isRow]
  by_cases same : key other = key new
  · rw [same, Table.get?_update_self found, found, Option.some.injEq, Option.some.injEq]
    constructor
    · exact fun equal => Or.inl equal.symm
    · rintro (equal | ⟨equal, apart⟩)
      · exact equal.symm
      · exact absurd equal.symm apart
  · rw [Table.get?_update_of_ne table same]
    have notNew : other ≠ new := fun equal => same (congrArg key equal)
    have notOld : other ≠ old := by
      rintro rfl
      exact same (Table.key_of_get? found)
    simp [notNew, notOld]

end Rows

/-! ## What the requests do to the devices -/

/-- The device is a gateway. -/
def SubscriberDevice.IsOlg (device : SubscriberDevice) : Prop :=
  toLower device.deviceGroup = "olg"

section Devices

variable {ctx : Context} {db db' : Store} {device : SubscriberDevice}

/-- What `ValidateDeviceGroup` answers. -/
theorem validateDeviceGroup_eq_ok {body : JsonObject} {deviceGroup : String}
    (validated : validateDeviceGroup db body device = .ok deviceGroup) :
    toLower deviceGroup = "olg" ↔
      ∀ other ∈ db.subscriberDeviceDB.rows, other.subscriberId ≠ device.subscriberId := by
  have noDevices : (devicesOf db device.subscriberId).length = 0 ↔
      ∀ other ∈ db.subscriberDeviceDB.rows, other.subscriberId ≠ device.subscriberId := by
    rw [List.length_eq_zero_iff, devicesOf, List.filter_eq_nil_iff]
    simp
  simp only [validateDeviceGroup, bind_eq_ok_iff, require_eq_ok_iff, Bool.or_eq_true,
    beq_iff_eq] at validated
  obtain ⟨_, _, _, isGroup, validated⟩ := validated
  rw [← noDevices]
  split at validated
  · rename_i first
    simp only [bind_eq_ok_iff, require_eq_ok_iff, beq_iff_eq] at validated
    obtain ⟨_, olg, answer⟩ := validated
    cases answer
    rw [olg]
    exact ⟨fun _ => first, fun _ => by decide⟩
  · rename_i later
    simp only [bind_eq_ok_iff, require_eq_ok_iff, bne_iff_ne] at validated
    obtain ⟨_, notOlg, answer⟩ := validated
    cases answer
    rw [isGroup.resolve_left notOlg]
    exact ⟨fun olg => absurd olg (by decide), fun first => absurd first later⟩

/-- A creation keeps the devices, or stores a device that is its subscriber's first one
exactly when it is a gateway. -/
theorem subDeviceDoPost_cases (ctx : Context) (db : Store) (request : Request) :
    (subDeviceDoPost ctx db request).store.subscriberDeviceDB = db.subscriberDeviceDB ∨
      ∃ device table, db.subscriberDeviceDB.insert? device = some table ∧
        (subDeviceDoPost ctx db request).store.subscriberDeviceDB = table ∧
        (device.IsOlg ↔ ∀ other ∈ db.subscriberDeviceDB.rows,
          other.subscriberId ≠ device.subscriberId) := by
  unfold subDeviceDoPost
  split
  · exact Or.inl rfl
  · rename_i body device configuration planned
    split
    · exact Or.inl rfl
    · rename_i configured configuredDevice created
      have sameTable : configured.subscriberDeviceDB = db.subscriberDeviceDB := by
        rcases createConfigurationRecord_eq_ok created with ⟨same, _⟩ | ⟨_, _, _, _, same, _⟩ <;>
          rw [same]
      have sameDevice : configuredDevice.deviceGroup = device.deviceGroup ∧
          configuredDevice.subscriberId = device.subscriberId := by
        rcases createConfigurationRecord_eq_ok created with ⟨_, same⟩ | ⟨_, _, _, _, _, same⟩ <;>
          rw [same] <;> exact ⟨rfl, rfl⟩
      split
      · exact Or.inl sameTable
      · rename_i info named
        dsimp only
        split
        · exact Or.inl sameTable
        · rename_i table inserted
          rw [sameTable] at inserted
          split
          · refine Or.inl ?_
            rw [Outcome.store_fail]
            exact Table.delete_of_insert? inserted
          · rename_i entered isEntered
            refine Or.inr ⟨_, table, inserted, ?_, ?_⟩
            · rw [Outcome.store_done, subscriberDeviceDB_startMonitoring,
                subscriberDeviceDB_createInventoryRecord isEntered]
            · simp only [subDeviceDoPostPlan, bind_eq_ok_iff, require_eq_ok_iff] at planned
              obtain ⟨_, _, newObject, _, _, _, _, _, _, _, group, validated, planned⟩ := planned
              cases planned
              have isFirst := validateDeviceGroup_eq_ok validated
              rw [SubscriberDevice.IsOlg, sameDevice.1, sameDevice.2]
              exact isFirst

/-! ### Updates -/

theorem SubscriberDevice.fromJson_eq_ok {body : JsonObject}
    (read : SubscriberDevice.fromJson body = .ok device) :
    device.subscriberId = body.stringField "subscriberId" ∧
      device.deviceGroup = body.stringField "deviceGroup" := by
  unfold SubscriberDevice.fromJson at read
  rw [orInvalid_eq_ok_iff, bind_eq_ok_iff] at read
  obtain ⟨_, _, read⟩ := read
  obtain rfl := Except.ok.inj read
  exact ⟨rfl, rfl⟩

theorem assignIfPresent_eq_ok {body : JsonObject} {field existing value : String}
    (assigned : body.assignIfPresent field existing = .ok value) :
    value = newReference body field existing := by
  unfold JsonObject.assignIfPresent at assigned
  unfold newReference
  split at assigned
  · rename_i present
    rw [if_pos present, stringField_of_getString assigned]
  · rename_i absent
    rw [if_neg absent]
    exact (Except.ok.inj assigned).symm

/-- The id, the subscriber and the group of a device after an update. -/
theorem applyPutRequest_eq_ok {body : JsonObject} {update existing projected : SubscriberDevice}
    (applied : applyPutRequest body update existing = .ok projected) :
    projected.info.id = existing.info.id ∧
      projected.subscriberId = newReference body "subscriberId" existing.subscriberId ∧
      projected.deviceGroup =
        if body.has "deviceGroup" then update.deviceGroup else existing.deviceGroup := by
  simp only [applyPutRequest, bind_eq_ok_iff] at applied
  obtain ⟨info, updated, _, _, subscriberId, assigned, applied⟩ := applied
  obtain ⟨_, _, _, _, _, _, _, _, _, _, _, _, _, _, _, _, applied⟩ := applied
  cases applied
  exact ⟨updateObjectInfo_eq_ok updated, assignIfPresent_eq_ok assigned, rfl⟩

/-- An update that is carried out stores a new version of the device. -/
structure SubDeviceUpdated (ctx : Context) (db : Store) (request : Request) (put : SubDevicePut)
    (projected : SubscriberDevice) : Prop where
  parsed : parsePutRequest ctx db request = .ok put
  applied : ∃ update : SubscriberDevice, update.deviceGroup = put.update.deviceGroup ∧
    applyPutRequest put.body update put.existing = .ok projected
  stored : (subDeviceDoPut ctx db request).store.subscriberDeviceDB =
    db.subscriberDeviceDB.update projected

theorem existing_of_parsePutRequest {request : Request} {put : SubDevicePut}
    (parsed : parsePutRequest ctx db request = .ok put) :
    request.body = some put.body ∧ SubscriberDevice.fromJson put.body = .ok put.update ∧
      db.subscriberDeviceDB.get? (request.getBinding "uuid") = some put.existing ∧
      validateDeviceGroupForUpdate db put.existing put.update = .ok () := by
  simp only [parsePutRequest, bind_eq_ok_iff, require_eq_ok_iff] at parsed
  obtain ⟨_, _, body, read, update, isUpdate, configuration, _, parsed⟩ := parsed
  split at parsed
  · cases parsed
  · rename_i existing found
    simp only [bind_eq_ok_iff, require_eq_ok_iff] at parsed
    obtain ⟨_, _, _, _, _, validated, parsed⟩ := parsed
    obtain rfl := Except.ok.inj parsed
    exact ⟨body_of_jsonBody read, isUpdate, found, validated⟩

theorem syncInventory_of_free (device : SubscriberDevice) (body : JsonObject) (updated : Bool)
    (free : ∀ i, db.inventoryDB.get? (ctx.newId i) = none) :
    (syncInventory ctx db body device updated).Succeeds ∧
      (syncInventory ctx db body device updated).store.subscriberDeviceDB =
        db.subscriberDeviceDB := by
  unfold syncInventory
  split
  · obtain ⟨entered, isEntered⟩ : ∃ entered, createInventoryRecord db device (ctx.newId 1) =
        some entered := createInventoryRecord_isSome (free 1)
    rw [isEntered]
    exact ⟨rfl, subscriberDeviceDB_createInventoryRecord isEntered⟩
  · exact ⟨rfl, rfl⟩

/-- An update fails and keeps the devices, or is carried out. -/
theorem subDeviceDoPut_cases (free : ∀ i, db.inventoryDB.get? (ctx.newId i) = none)
    (request : Request) :
    (¬ (subDeviceDoPut ctx db request).Succeeds ∧
      (subDeviceDoPut ctx db request).store.subscriberDeviceDB = db.subscriberDeviceDB) ∨
      ((subDeviceDoPut ctx db request).Succeeds ∧
        ∃ put projected, SubDeviceUpdated ctx db request put projected) := by
  cases parsed : parsePutRequest ctx db request with
  | error failure =>
      rw [subDeviceDoPut, parsed]
      exact Or.inl ⟨by rintro ⟨⟩, rfl⟩
  | ok put =>
      cases updated : updateConfigurationRecord ctx db put with
      | error failure =>
          simp only [subDeviceDoPut, parsed, updated]
          exact Or.inl ⟨by rintro ⟨⟩, rfl⟩
      | ok configured =>
          have tables := tables_updateConfigurationRecord updated
          have sameDevices : configured.db.subscriberDeviceDB = db.subscriberDeviceDB := by
            rw [tables]
          have free' : ∀ i, configured.db.inventoryDB.get? (ctx.newId i) = none := by
            rw [tables]
            exact free
          cases applied : applyPutRequest put.body
              { put.update with deviceConfiguration := configured.deviceConfiguration }
              put.existing with
          | error failure =>
              simp only [subDeviceDoPut, parsed, updated, applied]
              exact Or.inl ⟨by rintro ⟨⟩, sameDevices⟩
          | ok projected =>
              obtain ⟨_, _, found, _⟩ := existing_of_parsePutRequest parsed
              have isUpdate : ∃ update : SubscriberDevice,
                  update.deviceGroup = put.update.deviceGroup ∧
                    applyPutRequest put.body update put.existing = .ok projected :=
                ⟨{ put.update with deviceConfiguration := configured.deviceConfiguration }, rfl,
                  applied⟩
              by_cases same : projected = put.existing
              · have synced := syncInventory_of_free put.existing put.body configured.updated free'
                have outcome : subDeviceDoPut ctx db request =
                    syncInventory ctx configured.db put.body put.existing configured.updated := by
                  simp only [subDeviceDoPut, parsed, updated, applied, if_pos same]
                have kept : db.subscriberDeviceDB.update projected = db.subscriberDeviceDB := by
                  rw [same]
                  exact Table.update_self (Table.mem_of_get? found)
                refine Or.inr ⟨outcome ▸ synced.1, put, projected, parsed, isUpdate, ?_⟩
                rw [outcome, synced.2, kept, sameDevices]
              · have stored : (storeSubDevice configured.db put projected).subscriberDeviceDB =
                    db.subscriberDeviceDB.update projected := by
                  unfold storeSubDevice
                  dsimp only
                  rw [← sameDevices]
                  split
                  · rw [tables_cleanupSubscriberConfigurationRecord]
                  · rfl
                have free'' : ∀ i, (storeSubDevice configured.db put projected).inventoryDB.get?
                    (ctx.newId i) = none := by
                  rw [inventoryDB_storeSubDevice]
                  exact free'
                have synced := syncInventory_of_free projected put.body
                  (configured.updated || put.body.has "deviceConfiguration" &&
                    put.existing.deviceConfiguration != projected.deviceConfiguration) free''
                have outcome : subDeviceDoPut ctx db request =
                    syncInventory ctx (storeSubDevice configured.db put projected) put.body projected
                      (configured.updated || put.body.has "deviceConfiguration" &&
                        put.existing.deviceConfiguration != projected.deviceConfiguration) := by
                  simp only [subDeviceDoPut, parsed, updated, applied, if_neg same]
                refine Or.inr ⟨outcome ▸ synced.1, put, projected, parsed, isUpdate, ?_⟩
                rw [outcome, synced.2, stored]

/-! ### Deletions -/

theorem eq_of_mem_of_length_le_one {α : Type} {rows : List α} (few : rows.length ≤ 1) {x y : α}
    (xMem : x ∈ rows) (yMem : y ∈ rows) : x = y := by
  match rows, few with
  | [row], _ => rw [List.mem_singleton.mp xMem, List.mem_singleton.mp yMem]

theorem boundSubDevice_eq_ok {deviceIdOrSerial : String}
    (found : boundSubDevice db deviceIdOrSerial = .ok device) :
    device ∈ db.subscriberDeviceDB.rows := by
  unfold boundSubDevice at found
  split at found
  · split at found
    · cases found
    · rename_i bySerial
      cases found
      exact getBy_mem bySerial
  · split at found
    · split at found
      · cases found
      · rename_i byId
        cases found
        exact Table.mem_of_get? byId
    · cases found

/-- A deletion keeps the devices, or deletes one, and a gateway only when it is the last. -/
theorem subDeviceDoDelete_cases (ctx : Context) (db : Store) (request : Request) :
    (subDeviceDoDelete ctx db request).store.subscriberDeviceDB = db.subscriberDeviceDB ∨
      ∃ device ∈ db.subscriberDeviceDB.rows,
        (subDeviceDoDelete ctx db request).store.subscriberDeviceDB =
          db.subscriberDeviceDB.delete (key device) ∧
        (device.IsOlg → ∀ other ∈ db.subscriberDeviceDB.rows,
          other.subscriberId = device.subscriberId → other = device) := by
  unfold subDeviceDoDelete
  split
  · exact Or.inl rfl
  · rename_i existing validated
    simp only [validateDeleteRequest, bind_eq_ok_iff, require_eq_ok_iff, Bool.or_eq_true,
      bne_iff_ne, decide_eq_true_eq] at validated
    obtain ⟨_, _, device, found, _, last, answer⟩ := validated
    obtain rfl := Except.ok.inj answer
    have member := boundSubDevice_eq_ok found
    split
    · exact Or.inl rfl
    · rename_i stopped isStopped
      refine Or.inr ⟨device, member, ?_, ?_⟩
      · rw [Outcome.store_done, subscriberDeviceDB_deleteInventory,
          subscriberDeviceDB_stopMonitoring isStopped]
        rfl
      · intro isOlg other otherMem same
        have few := last.resolve_left fun notOlg => notOlg isOlg
        have selected : ∀ row ∈ db.subscriberDeviceDB.rows,
            row.subscriberId = device.subscriberId → row ∈ devicesOf db device.subscriberId :=
          fun row rowMem equal => List.mem_filter.mpr ⟨rowMem, by simp [equal]⟩
        exact eq_of_mem_of_length_le_one few (selected other otherMem same)
          (selected device member rfl)

end Devices

/-! ## One gateway -/

/-- Every subscriber that has a device has one gateway. -/
abbrev OneGateway (table : Table SubscriberDevice) : Prop :=
  OneHead (fun subscriberId : String => subscriberId ≠ "") SubscriberDevice.subscriberId
    SubscriberDevice.IsOlg {device | device ∈ table.rows}

/-- A device with the group and the subscriber of a body takes the place of the stored one. -/
abbrev FitsGateway (table : Table SubscriberDevice) (existing updated : SubscriberDevice) : Prop :=
  Fits (fun subscriberId : String => subscriberId ≠ "") SubscriberDevice.subscriberId
    SubscriberDevice.IsOlg {device | device ∈ table.rows} existing updated

/-- The body of an update keeps a gateway with its subscriber while others need it, and opens
no subscriber with an access point. -/
def KeepsGateway (db : Store) (request : Request) : Prop :=
  ∀ existing body, db.subscriberDeviceDB.get? (request.getBinding "uuid") = some existing →
    request.body = some body →
      FitsGateway db.subscriberDeviceDB existing
        { existing with
          subscriberId := newReference body "subscriberId" existing.subscriberId
          deviceGroup := body.stringField "deviceGroup" }

section Gateways

variable {ctx : Context} {db : Store}

theorem OneGateway.subDeviceDoPost (one : OneGateway db.subscriberDeviceDB) (request : Request) :
    OneGateway (subDeviceDoPost ctx db request).store.subscriberDeviceDB := by
  rcases subDeviceDoPost_cases ctx db request with
    unchanged | ⟨device, table, inserted, stored, isFirst⟩
  · rw [unchanged]
    exact one
  · rw [stored, OneGateway, rowSet_insert? inserted]
    exact OneHead.insert one fun _ => isFirst

theorem OneGateway.subDeviceDoDelete (one : OneGateway db.subscriberDeviceDB)
    (request : Request) : OneGateway (subDeviceDoDelete ctx db request).store.subscriberDeviceDB := by
  rcases subDeviceDoDelete_cases ctx db request with unchanged | ⟨device, member, stored, last⟩
  · rw [unchanged]
    exact one
  · rw [stored, OneGateway, rowSet_delete member]
    exact OneHead.remove one fun _ => last

/-- What `ValidateDeviceGroupForUpdate` has checked. -/
theorem validateDeviceGroupForUpdate_eq_ok {existing update : SubscriberDevice}
    (validated : validateDeviceGroupForUpdate db existing update = .ok ()) :
    (toLower update.deviceGroup = "olg" ∨ toLower update.deviceGroup = "ap") ∧
      (toLower update.deviceGroup = "olg" → ∀ other ∈ db.subscriberDeviceDB.rows,
        (other.subscriberId =
          if update.subscriberId = "" then existing.subscriberId else update.subscriberId) →
        other.IsOlg → other.info.id = existing.info.id) := by
  simp only [validateDeviceGroupForUpdate, bind_eq_ok_iff, require_eq_ok_iff, Bool.or_eq_true,
    beq_iff_eq, bne_iff_ne, Bool.not_eq_true', List.any_eq_false, Bool.and_eq_true] at validated
  obtain ⟨_, isGroup, noRival⟩ := validated
  refine ⟨isGroup, fun olg other member same isOlg => ?_⟩
  have none := noRival.resolve_left fun notOlg => notOlg olg
  by_contra apart
  exact none other (List.mem_filter.mpr ⟨member, by simpa using same⟩) ⟨isOlg, apart⟩

/-- An update writes the subscriber and the group of its body, and meets no other gateway. -/
theorem SubDeviceUpdated.oneGateway_iff {request : Request} {put : SubDevicePut}
    {projected : SubscriberDevice} (updated : SubDeviceUpdated ctx db request put projected)
    (one : OneGateway db.subscriberDeviceDB) :
    OneGateway (subDeviceDoPut ctx db request).store.subscriberDeviceDB ↔
      KeepsGateway db request := by
  obtain ⟨isBody, isUpdate, found, validated⟩ := existing_of_parsePutRequest updated.parsed
  obtain ⟨update, sameGroup, applied⟩ := updated.applied
  obtain ⟨sameId, subscriber, group⟩ := applyPutRequest_eq_ok applied
  obtain ⟨isGroup, noRival⟩ := validateDeviceGroupForUpdate_eq_ok validated
  have read : put.update.subscriberId = put.body.stringField "subscriberId" ∧
      put.update.deviceGroup = put.body.stringField "deviceGroup" :=
    SubscriberDevice.fromJson_eq_ok isUpdate
  have grouped : projected.deviceGroup = put.body.stringField "deviceGroup" := by
    rw [group, sameGroup, read.2]
    split
    · rfl
    · rename_i absent
      have blank : put.update.deviceGroup = "" := by
        rw [read.2]
        exact stringField_of_has (by simpa using absent)
      rw [blank] at isGroup
      exact absurd isGroup (by decide)
  have member : put.existing ∈ db.subscriberDeviceDB.rows := Table.mem_of_get? found
  have foundKey : db.subscriberDeviceDB.get? (key projected) = some put.existing := by
    rw [show key projected = put.existing.info.id from sameId]
    exact Table.get?_key_of_mem member
  have rivals : projected.subscriberId ≠ "" → projected.IsOlg →
      ∀ other ∈ db.subscriberDeviceDB.rows, other.subscriberId = projected.subscriberId →
        other.IsOlg → other = put.existing := by
    intro filled isOlg other otherMem same otherOlg
    have olg : toLower put.update.deviceGroup = "olg" := by
      rw [read.2, ← grouped]
      exact isOlg
    have sameKey : key other = key put.existing := by
      apply noRival olg other otherMem _ otherOlg
      rw [same]
      rw [subscriber, newReference, ← read.1] at filled ⊢
      split at filled
      · rw [if_neg filled]
        split
        · rfl
        · contradiction
      · rename_i absent
        have blank : put.update.subscriberId = "" := by
          rw [read.1]
          exact stringField_of_has (by simpa using absent)
        rw [if_neg absent, if_pos blank]
    exact List.inj_on_of_nodup_map db.subscriberDeviceDB.distinct otherMem member sameKey
  rw [updated.stored, OneGateway, rowSet_update foundKey,
    OneHead.replace_iff one member rivals]
  constructor
  · intro fits existing' body' found' isBody'
    obtain rfl := Option.some.inj (found.symm.trans found')
    obtain rfl := Option.some.inj (isBody.symm.trans isBody')
    apply fits.congr subscriber.symm
    rw [SubscriberDevice.IsOlg, SubscriberDevice.IsOlg, grouped]
  · intro keeps
    apply (keeps put.existing put.body found isBody).congr subscriber
    rw [SubscriberDevice.IsOlg, SubscriberDevice.IsOlg, grouped]

theorem OneGateway.subDeviceDoPut (one : OneGateway db.subscriberDeviceDB)
    (free : ∀ i, db.inventoryDB.get? (ctx.newId i) = none) {request : Request}
    (condition : (subDeviceDoPut ctx db request).Succeeds → KeepsGateway db request) :
    OneGateway (subDeviceDoPut ctx db request).store.subscriberDeviceDB := by
  rcases subDeviceDoPut_cases free request with ⟨_, unchanged⟩ | ⟨succeeds, put, projected, updated⟩
  · rw [unchanged]
    exact one
  · exact (updated.oneGateway_iff one).mpr (condition succeeds)

/-- The condition is exact: an update that is carried out and breaks it leaves a subscriber
without a gateway. -/
theorem oneGateway_subDeviceDoPut_iff (one : OneGateway db.subscriberDeviceDB)
    (free : ∀ i, db.inventoryDB.get? (ctx.newId i) = none) {request : Request}
    (succeeds : (subDeviceDoPut ctx db request).Succeeds) :
    OneGateway (subDeviceDoPut ctx db request).store.subscriberDeviceDB ↔
      KeepsGateway db request := by
  rcases subDeviceDoPut_cases free request with ⟨failed, _⟩ | ⟨_, put, projected, updated⟩
  · exact absurd succeeds failed
  · exact updated.oneGateway_iff one

end Gateways

/-! ## Runs -/

/-- The requests on subscriber devices. -/
inductive SubDeviceMethod where
  | post
  | put
  | delete

/-- What the handler of a request does to the database. -/
def SubDeviceMethod.handle (ctx : Context) (db : Store) (request : Request) :
    SubDeviceMethod → Outcome
  | .post => subDeviceDoPost ctx db request
  | .put => subDeviceDoPut ctx db request
  | .delete => subDeviceDoDelete ctx db request

/-- One request, whoever sends it, where an accepted update meets a condition. -/
def SubDeviceStep (condition : Store → Request → Prop) (db db' : Store) : Prop :=
  ∃ (method : SubDeviceMethod) (ctx : Context) (request : Request),
    (∀ i, db.inventoryDB.get? (ctx.newId i) = none) ∧
    (method = .put → (method.handle ctx db request).Succeeds → condition db request) ∧
      db' = (method.handle ctx db request).store

theorem OneGateway.step {db db' : Store} (one : OneGateway db.subscriberDeviceDB)
    (isStep : SubDeviceStep KeepsGateway db db') : OneGateway db'.subscriberDeviceDB := by
  obtain ⟨method, ctx, request, free, condition, rfl⟩ := isStep
  cases method with
  | post => exact one.subDeviceDoPost request
  | put => exact one.subDeviceDoPut free (condition rfl)
  | delete => exact one.subDeviceDoDelete request

/-- The body of a request on a subscriber's device. -/
def subDeviceBody (serialNumber deviceGroup : String) : JsonObject :=
  [("name", .str serialNumber), ("serialNumber", .str serialNumber),
    ("deviceGroup", .str deviceGroup), ("operatorId", .str "o-1"), ("subscriberId", .str "u-1")]

/-- A request that gives a subscriber a device. -/
def subDeviceRequest (serialNumber deviceGroup : String) : Request where
  method := .post
  uri := "/api/v1/subscriberDevice/0"
  bindings := [("uuid", "0")]
  body := some (subDeviceBody serialNumber deviceGroup)

/-- The database with a gateway. -/
def oneGateway : Store :=
  (subDeviceDoPost (rootContext 14) (systemStore "o-1" "s-1")
    (subDeviceRequest "aabbccddeeff" "olg")).store

end Owprov
