import Owprov.DevicePlacement

/-!
# Configurations that several devices share

A client may give any device the id of any configuration.  The requests that take a device from
its subscriber delete the configuration of the device by its id, whoever else refers to it.
-/

namespace Owprov

open RowTable Runs

/-! ## References -/

/-- A tag, a device of a subscriber or a venue refers to a configuration, leaving some tags and
devices aside. -/
def Referenced (db : Store) (tagAside : InventoryTag → Prop)
    (deviceAside : SubscriberDevice → Prop) (id : String) : Prop :=
  (∃ tag ∈ db.inventoryDB.rows, ¬ tagAside tag ∧ tag.deviceConfiguration = id) ∨
    (∃ device ∈ db.subscriberDeviceDB.rows,
      ¬ deviceAside device ∧ device.deviceConfiguration = id) ∨
    ∃ venue ∈ db.venueDB.rows, id ∈ venue.deviceConfiguration

/-- No configuration goes away that a tag, a device or a venue still refers to afterwards. -/
def KeepsReferenced (db db' : Store) : Prop :=
  ∀ id, id ≠ "" → idExists db.configurationDB id = true →
    Referenced db' (fun _ => False) (fun _ => False) id →
    idExists db'.configurationDB id = true

/-- Some tags and devices lose their references, and the configurations that they give up are
deleted. -/
structure GivenUp (db db' : Store) (tagAside : InventoryTag → Prop)
    (deviceAside : SubscriberDevice → Prop) (abandoned : String → Prop) : Prop where
  referenced : ∀ id, id ≠ "" → idExists db.configurationDB id = true →
    (Referenced db' (fun _ => False) (fun _ => False) id ↔
      Referenced db tagAside deviceAside id)
  present : ∀ id, id ≠ "" → idExists db.configurationDB id = true →
    (idExists db'.configurationDB id = true ↔ ¬ abandoned id)

theorem GivenUp.keepsReferenced_iff {db db' : Store} {tagAside : InventoryTag → Prop}
    {deviceAside : SubscriberDevice → Prop} {abandoned : String → Prop}
    (givenUp : GivenUp db db' tagAside deviceAside abandoned) :
    KeepsReferenced db db' ↔
      ∀ id, id ≠ "" → idExists db.configurationDB id = true → abandoned id →
        ¬ Referenced db tagAside deviceAside id := by
  constructor
  · intro keeps id filled exist gone referenced
    have kept := keeps id filled exist ((givenUp.referenced id filled exist).mpr referenced)
    exact (givenUp.present id filled exist).mp kept gone
  · intro unshared id filled exist referenced
    rw [givenUp.present id filled exist]
    intro gone
    exact unshared id filled exist gone ((givenUp.referenced id filled exist).mp referenced)

section References

variable {db db' : Store} {tagAside : InventoryTag → Prop} {deviceAside : SubscriberDevice → Prop}
  {id : String}

theorem referenced_iff
    (tags : (∃ tag ∈ db'.inventoryDB.rows, tag.deviceConfiguration = id) ↔
      ∃ tag ∈ db.inventoryDB.rows, ¬ tagAside tag ∧ tag.deviceConfiguration = id)
    (devices : (∃ device ∈ db'.subscriberDeviceDB.rows, device.deviceConfiguration = id) ↔
      ∃ device ∈ db.subscriberDeviceDB.rows, ¬ deviceAside device ∧ device.deviceConfiguration = id)
    (venues : Table.SameView Venue.deviceConfiguration db.venueDB db'.venueDB) :
    Referenced db' (fun _ => False) (fun _ => False) id ↔ Referenced db tagAside deviceAside id := by
  have sameVenues := venues.exists_mem_iff fun ids => id ∈ ids
  unfold Referenced
  simp only [not_false_eq_true, true_and]
  rw [tags, devices, sameVenues]

/-- A row that is deleted by its key no longer refers. -/
theorem exists_mem_delete {α : Type} [Keyed α String] {table : Table α} {k : String}
    {property : α → Prop} :
    (∃ row ∈ (table.delete k).rows, property row) ↔
      ∃ row ∈ table.rows, ¬ key row = k ∧ property row := by
  simp only [Table.mem_rows_delete, and_assoc, ne_eq]

end References

/-! ## Requests -/

/-- The requests that give up a device of a subscriber, or its configuration. -/
inductive CleanupMethod where
  | subDevicePut
  | subDeviceDelete
  | inventoryPut

namespace CleanupMethod

/-- What the handler of a request does to the database. -/
def handle (ctx : Context) (db : Store) (request : Request) : CleanupMethod → Outcome
  | .subDevicePut => subDeviceDoPut ctx db request
  | .subDeviceDelete => subDeviceDoDelete ctx db request
  | .inventoryPut => inventoryDoPut ctx db request

/-- The device that a request is about. -/
def device (db : Store) (request : Request) : CleanupMethod → Option SubscriberDevice
  | .subDevicePut => db.subscriberDeviceDB.get? (request.getBinding "uuid")
  | .subDeviceDelete => (boundSubDevice db (request.getBinding "uuid")).toOption
  | .inventoryPut => none

/-- The tag that a request is about. -/
def tag (db : Store) (request : Request) (method : CleanupMethod) : Option InventoryTag :=
  match method with
  | .inventoryPut =>
      getBy db.inventoryDB InventoryTag.serialNumber (request.getBinding "serialNumber")
  | _ => (method.device db request).bind fun device =>
      getBy db.inventoryDB InventoryTag.serialNumber device.serialNumber

/-- The tags that a request takes the configuration from. -/
def TagAside (method : CleanupMethod) (db : Store) (request : Request) (tag : InventoryTag) :
    Prop :=
  ∃ own, method.tag db request = some own ∧ tag.info.id = own.info.id

/-- The devices that a request deletes or takes the configuration from. -/
def DeviceAside (method : CleanupMethod) (db : Store) (request : Request)
    (device : SubscriberDevice) : Prop :=
  match method with
  | .inventoryPut => device.subscriberId = request.getParameter "removeSubscriber"
  | _ => ∃ own, method.device db request = some own ∧ device.info.id = own.info.id

/-- The configurations that a request gives up: those of the device and of its tag in a
deletion, the one of the device where the body clears it, and that of the tag, if it is only for
subscribers, where the tag loses its subscriber. -/
def Abandons (method : CleanupMethod) (db : Store) (request : Request) (id : String) : Prop :=
  match method with
  | .subDeviceDelete =>
      (∃ own, method.device db request = some own ∧ own.deviceConfiguration = id) ∨
        ∃ own, method.tag db request = some own ∧ own.deviceConfiguration = id
  | .subDevicePut =>
      (∃ body, request.body = some body ∧ body.has "configuration" = true ∧
        configurationElements body = .ok []) ∧
      ∃ own, method.device db request = some own ∧ own.deviceConfiguration = id
  | .inventoryPut =>
      request.getParameter "removeSubscriber" ≠ "" ∧
      (∃ own, method.tag db request = some own ∧ own.deviceConfiguration = id) ∧
        ∃ config, db.configurationDB.get? id = some config ∧ config.subscriberOnly = true

/-- Nobody else refers to a configuration that a request gives up. -/
def GivesUpItsOwn (method : CleanupMethod) (db : Store) (request : Request) : Prop :=
  ∀ id, id ≠ "" → idExists db.configurationDB id = true → method.Abandons db request id →
    ¬ Referenced db (method.TagAside db request) (method.DeviceAside db request) id

end CleanupMethod

/-! ## Cleanups -/

section Cleanups

variable {ctx : Context} {db db' : Store} {device : SubscriberDevice} {id : String}

theorem idExists_delete_iff {α : Type} [Keyed α String] {table : Table α} {other : String} :
    idExists (table.delete other) id = true ↔ idExists table id = true ∧ id ≠ other := by
  by_cases same : id = other
  · simp [idExists, Table.get?_delete, same]
  · simp [idExists, Table.get?_delete, same]

theorem idExists_cleanup (filled : id ≠ "") (db : Store) (deviceConfiguration inventoryId : String) :
    idExists (cleanupSubscriberConfigurationRecord db deviceConfiguration
        inventoryId).configurationDB id = true ↔
      idExists db.configurationDB id = true ∧ id ≠ deviceConfiguration := by
  unfold cleanupSubscriberConfigurationRecord
  split
  · rename_i blank
    rw [blank]
    exact ⟨fun exist => ⟨exist, filled⟩, And.left⟩
  · dsimp only
    rw [idExists_delete_iff]
    have released : idExists (if inventoryId = "" then db.configurationDB
        else manipulateVectorMember db.configurationDB DeviceConfiguration.inUseMember
          deviceConfiguration ("inv:" ++ inventoryId) false) id =
        idExists db.configurationDB id := by
      split
      · rfl
      · exact idExists_manipulateVectorMember _ _ _ _ _ _
    rw [released]

theorem idExists_cleanups (filled : id ≠ "") (db : Store) (ids : List String)
    (inventoryId : String) :
    idExists (ids.foldl (fun db id => cleanupSubscriberConfigurationRecord db id inventoryId)
        db).configurationDB id = true ↔
      idExists db.configurationDB id = true ∧ id ∉ ids := by
  induction ids generalizing db with
  | nil => simp
  | cons other ids ih =>
      rw [List.foldl_cons, ih, idExists_cleanup filled, List.mem_cons, not_or, and_assoc]

/-- The tag of a deleted device goes, with the configurations of both. -/
theorem givenUp_deleteInventory (db : Store) (device : SubscriberDevice) :
    GivenUp db (deleteInventoryForSubscriberDevice db device)
      (fun tag => ∃ own, getBy db.inventoryDB InventoryTag.serialNumber device.serialNumber =
        some own ∧ tag.info.id = own.info.id)
      (fun _ => False)
      fun id => device.deviceConfiguration = id ∨
        ∃ own, getBy db.inventoryDB InventoryTag.serialNumber device.serialNumber = some own ∧
          own.deviceConfiguration = id := by
  unfold deleteInventoryForSubscriberDevice
  split
  · rename_i missing
    constructor
    case referenced =>
      intro id _ _
      rw [tables_cleanupSubscriberConfigurationRecord]
      apply referenced_iff
      · simp [missing]
      · simp
      · exact .refl _ _
    case present =>
      intro id filled exist
      rw [idExists_cleanup filled]
      simp [missing, exist, eq_comm]
  · rename_i tag found
    constructor
    case referenced =>
      intro id _ _
      dsimp only
      rw [tables_cleanups]
      apply referenced_iff
      · dsimp only [moveTag]
        rw [exists_mem_delete]
        simp only [found, Option.some.injEq, exists_eq_left']
        exact Iff.rfl
      · simp [moveTag]
      · exact sameView_manageMembership (fun _ _ => rfl) _ _ _
    case present =>
      intro id filled exist
      dsimp only
      rw [idExists_cleanups filled]
      have released : (moveTag db
          { fromPolicy := tag.managementPolicy
            fromLocation := tag.location
            fromContact := tag.contact
            fromEntity := tag.entity
            fromVenue := tag.venue } tag.info.id).configurationDB = db.configurationDB := rfl
      rw [released]
      simp [found, exist, eq_comm]

theorem tables_stopMonitoring {stopped : Store}
    (isStopped : stopMonitoring ctx db device = some stopped) :
    ∃ venueDB, stopped = { db with venueDB := venueDB } ∧
      Table.SameView Venue.deviceConfiguration db.venueDB venueDB := by
  unfold stopMonitoring at isStopped
  split at isStopped
  · cases isStopped
    exact ⟨db.venueDB, rfl, .refl _ _⟩
  · rename_i venue found
    split at isStopped
    · cases isStopped
      exact ⟨db.venueDB, rfl, .refl _ _⟩
    · split at isStopped
      · cases isStopped
        have stored : db.venueDB.get? venue.info.id = some venue :=
          Table.get?_key_of_mem (getBy_mem found)
        exact ⟨_, rfl, Table.SameView.update stored rfl⟩
      · cases isStopped

/-- A device is deleted, and its tag with the configurations of both. -/
theorem givenUp_subDeviceDoDelete {request : Request}
    (accepted : (subDeviceDoDelete ctx db request).Succeeds) :
    GivenUp db (subDeviceDoDelete ctx db request).store
      (CleanupMethod.subDeviceDelete.TagAside db request)
      (CleanupMethod.subDeviceDelete.DeviceAside db request)
      (CleanupMethod.subDeviceDelete.Abandons db request) := by
  cases validated : validateDeleteRequest db request with
  | error failure =>
      rw [subDeviceDoDelete, validated] at accepted
      cases accepted
  | ok existing =>
      have bound : boundSubDevice db (request.getBinding "uuid") = .ok existing := by
        simp only [validateDeleteRequest, bind_eq_ok_iff, require_eq_ok_iff] at validated
        obtain ⟨_, _, device, bound, _, _, answer⟩ := validated
        obtain rfl := Except.ok.inj answer
        exact bound
      have own : CleanupMethod.subDeviceDelete.device db request = some existing := by
        rw [CleanupMethod.device, bound]
        rfl
      have ownTag : CleanupMethod.subDeviceDelete.tag db request =
          getBy db.inventoryDB InventoryTag.serialNumber existing.serialNumber := by
        rw [CleanupMethod.tag, own, Option.bind_some]
        rintro ⟨⟩
      cases isStopped : stopMonitoring ctx db existing with
      | none =>
          simp only [subDeviceDoDelete, validated, isStopped] at accepted
          cases accepted
      | some stopped =>
          obtain ⟨venueDB, rfl, venues⟩ := tables_stopMonitoring isStopped
          let deleted : Store :=
            { db with
              venueDB := venueDB
              subscriberDeviceDB := db.subscriberDeviceDB.delete existing.info.id }
          have outcome : (subDeviceDoDelete ctx db request).store =
              deleteInventoryForSubscriberDevice deleted existing := by
            simp only [subDeviceDoDelete, validated, isStopped, Outcome.store_done]
            rfl
          have inventory := givenUp_deleteInventory deleted existing
          rw [outcome]
          constructor
          case referenced =>
            intro id filled exist
            rw [inventory.referenced id filled exist]
            have sameVenues := venues.exists_mem_iff fun ids => id ∈ ids
            unfold Referenced CleanupMethod.TagAside CleanupMethod.DeviceAside
            rw [ownTag]
            refine or_congr Iff.rfl (or_congr ?_ sameVenues)
            dsimp only [deleted]
            simp only [not_false_eq_true, true_and, own, Option.some.injEq, exists_eq_left']
            exact exists_mem_delete
          case present =>
            intro id filled exist
            rw [inventory.present id filled exist]
            unfold CleanupMethod.Abandons
            dsimp only
            rw [ownTag, own]
            simp only [Option.some.injEq, exists_eq_left']
            exact Iff.rfl

theorem idExists_dropSubscriberConfiguration (db : Store) (deviceConfiguration : String)
    (exist : idExists db.configurationDB id = true) :
    idExists (dropSubscriberConfiguration db deviceConfiguration) id = true ↔
      ¬ (deviceConfiguration = id ∧
        ∃ config, db.configurationDB.get? id = some config ∧ config.subscriberOnly = true) := by
  unfold dropSubscriberConfiguration
  by_cases same : deviceConfiguration = id
  · subst same
    split
    · rename_i only
      obtain ⟨config, found, isOnly⟩ := Option.any_eq_true _ _ |>.mp only
      rw [idExists_delete_iff]
      constructor
      · exact fun kept => absurd rfl kept.2
      · exact fun none => absurd ⟨rfl, config, found, isOnly⟩ none
    · rename_i shared
      refine ⟨?_, fun _ => exist⟩
      rintro _ ⟨_, config, found, isOnly⟩
      rw [found] at shared
      exact shared isOnly
  · have kept : ¬ (deviceConfiguration = id ∧
        ∃ config, db.configurationDB.get? id = some config ∧ config.subscriberOnly = true) :=
      fun both => same both.1
    refine ⟨fun _ => kept, fun _ => ?_⟩
    split
    · exact idExists_delete_iff.mpr ⟨exist, Ne.symm same⟩
    · exact exist

/-- A tag loses its subscriber, whose devices are deleted. -/
theorem givenUp_removeSubscriber {request : Request} {existing : InventoryTag} {subscriber : String}
    (isSubscriber : request.getParameter "removeSubscriber" = subscriber)
    (filled : subscriber ≠ "")
    (found : getBy db.inventoryDB InventoryTag.serialNumber (request.getBinding "serialNumber") =
      some existing)
    (accepted : (removeSubscriber ctx db existing subscriber).Succeeds) :
    GivenUp db (removeSubscriber ctx db existing subscriber).store
      (CleanupMethod.inventoryPut.TagAside db request)
      (CleanupMethod.inventoryPut.DeviceAside db request)
      (CleanupMethod.inventoryPut.Abandons db request) := by
  have own : CleanupMethod.inventoryPut.tag db request = some existing := found
  unfold removeSubscriber at accepted ⊢
  split at accepted
  · rename_i same
    rw [if_pos same]
    constructor
    case referenced =>
      intro id idFilled exist
      dsimp only [Outcome.store_done]
      apply referenced_iff
      · unfold CleanupMethod.TagAside
        rw [own]
        simp only [Option.some.injEq, exists_eq_left']
        apply Table.exists_mem_update
        dsimp only
        split
        · exact Ne.symm idFilled
        · rename_i missing
          rintro rfl
          exact missing exist
      · unfold CleanupMethod.DeviceAside Table.deleteWhere
        dsimp only
        rw [isSubscriber]
        simp [and_assoc]
      · exact .refl _ _
    case present =>
      intro id _ exist
      dsimp only [Outcome.store_done]
      rw [idExists_dropSubscriberConfiguration db _ exist]
      unfold CleanupMethod.Abandons
      dsimp only
      rw [own, isSubscriber]
      simp [filled]
  · cases accepted

/-! ### Requests without a cleanup -/

/-- Every configuration stays. -/
def KeepsConfigurations (db db' : Store) : Prop :=
  ∀ id, idExists db.configurationDB id = true → idExists db'.configurationDB id = true

theorem KeepsConfigurations.trans {db'' : Store} (kept : KeepsConfigurations db db')
    (kept' : KeepsConfigurations db' db'') : KeepsConfigurations db db'' :=
  fun id exist => kept' id (kept id exist)

theorem KeepsConfigurations.of_sameView
    (same : Table.SameView (fun _ => ()) db.configurationDB db'.configurationDB) :
    KeepsConfigurations db db' :=
  fun id exist => (idExists_congr same id).trans exist

theorem KeepsConfigurations.keepsReferenced (kept : KeepsConfigurations db db') :
    KeepsReferenced db db' :=
  fun id _ exist _ => kept id exist

theorem configurations_createInventoryRecord {newId : String}
    (entered : createInventoryRecord db device newId = some db') :
    Table.SameView (fun _ => ()) db.configurationDB db'.configurationDB := by
  unfold createInventoryRecord at entered
  dsimp only at entered
  split at entered
  · obtain rfl := Option.some.inj entered
    exact sameView_moveUsage (fun _ _ => rfl) _ _ _ _
  · obtain ⟨inventoryDB, _, rfl⟩ := Option.map_eq_some_iff.mp entered
    exact sameView_moveUsage (fun _ _ => rfl) _ _ _ _

theorem keepsConfigurations_syncInventory (body : JsonObject) (updated : Bool) :
    KeepsConfigurations db (syncInventory ctx db body device updated).store := by
  unfold syncInventory
  split
  · split
    · exact fun _ exist => exist
    · rename_i synced isSynced
      exact .of_sameView (configurations_createInventoryRecord isSynced)
  · exact fun _ exist => exist

theorem keepsConfigurations_insert {record : DeviceConfiguration}
    {configurationDB : Table DeviceConfiguration}
    (inserted : db.configurationDB.insert? record = some configurationDB) :
    KeepsConfigurations db { db with configurationDB := configurationDB } :=
  fun _ exist => idExists_insert inserted exist

theorem keepsConfigurations_inventoryDoPut {request : Request}
    (plain : request.getParameter "removeSubscriber" = "") :
    KeepsConfigurations db (inventoryDoPut ctx db request).store := by
  unfold inventoryDoPut
  dsimp only
  split
  · exact fun _ exist => exist
  · split
    · exact fun _ exist => exist
    · rename_i existing _
      rw [if_neg fun command => command plain]
      split
      · exact fun _ exist => exist
      · rename_i update _
        unfold inventoryDoPutCommit
        split
        · exact fun _ exist => exist
        · rename_i configured stored
          have inserted : KeepsConfigurations db configured := by
            unfold storeInlineConfiguration at stored
            split at stored
            · cases stored
              exact fun _ exist => exist
            · split at stored
              · cases stored
              · rename_i inserted
                cases stored
                exact keepsConfigurations_insert inserted
          apply inserted.trans
          apply KeepsConfigurations.of_sameView
          exact sameView_moveUsage (fun _ _ => rfl) _ _ _ _

/-- What an update does to the configurations before the device is stored. -/
theorem keepsConfigurations_updateConfigurationRecord {put : SubDevicePut}
    {configured : ConfigurationUpdate}
    (updated : updateConfigurationRecord ctx db put = .ok configured) :
    KeepsConfigurations db configured.db := by
  rcases updateConfigurationRecord_eq_ok updated with
    same | ⟨record, found, same⟩ | ⟨record, configurationDB, _, inserted, same⟩
  · rw [same]
    exact fun _ exist => exist
  · rw [same]
    have stored : db.configurationDB.get? (key (put.rewrite record)) = some record :=
      Table.get?_key_of_mem (Table.mem_of_get? found)
    apply KeepsConfigurations.of_sameView
    exact Table.SameView.update stored rfl
  · rw [same]
    exact keepsConfigurations_insert inserted

/-! ### Updates of a device -/

theorem configuration_of_parsePutRequest {request : Request} {put : SubDevicePut}
    (parsed : parsePutRequest ctx db request = .ok put) :
    configurationElements put.body = .ok put.configuration := by
  simp only [parsePutRequest, bind_eq_ok_iff, require_eq_ok_iff] at parsed
  obtain ⟨_, _, body, _, update, _, configuration, elements, parsed⟩ := parsed
  split at parsed
  · cases parsed
  · simp only [bind_eq_ok_iff, require_eq_ok_iff] at parsed
    obtain ⟨_, _, _, _, _, _, parsed⟩ := parsed
    obtain rfl := Except.ok.inj parsed
    exact elements

theorem configuration_of_applyPutRequest {body : JsonObject}
    {update existing projected : SubscriberDevice}
    (applied : applyPutRequest body update existing = .ok projected) :
    projected.serialNumber = existing.serialNumber ∧
      (body.has "configuration" = true →
        projected.deviceConfiguration = update.deviceConfiguration) := by
  simp only [applyPutRequest, bind_eq_ok_iff] at applied
  obtain ⟨info, _, _, _, _, _, _, _, _, _, _, _, _, _, _, _, applied⟩ := applied
  obtain ⟨_, _, _, _, _, _, applied⟩ := applied
  obtain rfl := Except.ok.inj applied
  refine ⟨rfl, fun present => ?_⟩
  dsimp only
  rw [if_pos (by rw [present, Bool.or_true])]

/-- Only an empty configuration leaves a device without one. -/
theorem deviceConfiguration_ne_empty {put : SubDevicePut} {configured : ConfigurationUpdate}
    (filled : ctx.newId 0 ≠ "") (present : put.body.has "configuration" = true)
    (elements : put.configuration ≠ [])
    (updated : updateConfigurationRecord ctx db put = .ok configured) :
    configured.deviceConfiguration ≠ "" := by
  unfold updateConfigurationRecord at updated
  dsimp only at updated
  rw [if_neg (by rw [present]; decide), if_neg (by simpa using elements)] at updated
  split at updated
  · rename_i record found
    have named : record.info.id ≠ "" := by
      split at found
      · cases found
      · rename_i isId
        intro blank
        apply isId
        rw [← Table.key_of_get? found]
        exact blank
    split at updated
    · cases updated
      exact named
    · split at updated
      · cases updated
      · cases updated
        exact named
  · cases created : createConfigurationRecord ctx db put.update put.configuration (ctx.newId 0) with
    | error failure =>
        rw [created] at updated
        cases updated
    | ok pair =>
        rw [created] at updated
        obtain rfl := Except.ok.inj updated
        unfold createConfigurationRecord at created
        rw [if_neg (by simpa using elements)] at created
        dsimp only at created
        split at created
        · cases created
        · split at created
          · cases created
          · cases created
            exact filled

/-- The inventory follows a device that has no configuration any more. -/
theorem tags_createInventoryRecord {newId : String} (noConfiguration : device.deviceConfiguration = "")
    (entered : createInventoryRecord db device newId = some db') (filled : id ≠ "") :
    (∃ tag ∈ db'.inventoryDB.rows, tag.deviceConfiguration = id) ↔
      ∃ tag ∈ db.inventoryDB.rows,
        (¬ ∃ own, getBy db.inventoryDB InventoryTag.serialNumber device.serialNumber = some own ∧
          tag.info.id = own.info.id) ∧ tag.deviceConfiguration = id := by
  have lacks : ¬ device.deviceConfiguration = id := by
    rw [noConfiguration]
    exact Ne.symm filled
  unfold createInventoryRecord at entered
  dsimp only at entered
  split at entered
  · rename_i existing found
    obtain rfl := Option.some.inj entered
    simp only [found, Option.some.injEq, exists_eq_left']
    exact Table.exists_mem_update lacks
  · rename_i missing
    obtain ⟨inventoryDB, inserted, rfl⟩ := Option.map_eq_some_iff.mp entered
    simp only [missing, reduceCtorEq, false_and, exists_false, not_false_eq_true, true_and]
    constructor
    · rintro ⟨tag, member, names⟩
      rcases (Table.mem_rows_insert? inserted).mp member with old | rfl
      · exact ⟨tag, old, names⟩
      · exact absurd names lacks
    · rintro ⟨tag, member, names⟩
      exact ⟨tag, (Table.mem_rows_insert? inserted).mpr (Or.inl member), names⟩

theorem venues_createInventoryRecord {newId : String}
    (entered : createInventoryRecord db device newId = some db') :
    Table.SameView Venue.deviceConfiguration db.venueDB db'.venueDB := by
  unfold createInventoryRecord at entered
  dsimp only at entered
  split at entered
  · obtain rfl := Option.some.inj entered
    exact sameView_manageMembership (fun _ _ => rfl) _ _ _
  · obtain ⟨inventoryDB, _, rfl⟩ := Option.map_eq_some_iff.mp entered
    exact sameView_manageMembership (fun _ _ => rfl) _ _ _

theorem keepsConfigurations_storeSubDevice {put : SubDevicePut} {projected : SubscriberDevice}
    (nothing : put.body.has "configuration" = true → projected.deviceConfiguration = "" →
      put.existing.deviceConfiguration = "") :
    KeepsConfigurations db (storeSubDevice db put projected) := by
  unfold storeSubDevice
  dsimp only
  split
  · rename_i cleared
    rw [nothing cleared.1 cleared.2]
    exact fun _ exist => exist
  · exact fun _ exist => exist

/-- A device is stored without its configuration, which is deleted, and its tag follows. -/
theorem givenUp_storeSubDevice {request : Request} {put : SubDevicePut}
    {projected : SubscriberDevice} {synced : Store} {newId : String}
    (parsed : parsePutRequest ctx db request = .ok put) (sameId : projected.info.id =
      put.existing.info.id) (sameSerial : projected.serialNumber = put.existing.serialNumber)
    (present : put.body.has "configuration" = true) (cleared : put.configuration = [])
    (noConfiguration : projected.deviceConfiguration = "")
    (entered : createInventoryRecord (storeSubDevice db put projected) projected newId =
      some synced) :
    GivenUp db synced (CleanupMethod.subDevicePut.TagAside db request)
      (CleanupMethod.subDevicePut.DeviceAside db request)
      (CleanupMethod.subDevicePut.Abandons db request) := by
  obtain ⟨isBody, _, found, _⟩ := existing_of_parsePutRequest parsed
  have own : CleanupMethod.subDevicePut.device db request = some put.existing := found
  have ownTag : CleanupMethod.subDevicePut.tag db request =
      getBy db.inventoryDB InventoryTag.serialNumber projected.serialNumber := by
    rw [CleanupMethod.tag, own, Option.bind_some, sameSerial]
    rintro ⟨⟩
  have stored : storeSubDevice db put projected =
      { db with
        subscriberDeviceDB := db.subscriberDeviceDB.update projected
        configurationDB := (storeSubDevice db put projected).configurationDB } := by
    unfold storeSubDevice
    dsimp only
    rw [if_pos ⟨present, noConfiguration⟩, tables_cleanupSubscriberConfigurationRecord]
  have sameTags : (storeSubDevice db put projected).inventoryDB = db.inventoryDB := by
    rw [stored]
  have sameVenues : (storeSubDevice db put projected).venueDB = db.venueDB := by
    rw [stored]
  constructor
  case referenced =>
    intro id filled _
    apply referenced_iff
    · rw [tags_createInventoryRecord noConfiguration entered filled, sameTags]
      unfold CleanupMethod.TagAside
      rw [ownTag]
    · rw [subscriberDeviceDB_createInventoryRecord entered, stored]
      unfold CleanupMethod.DeviceAside
      simp only [own, Option.some.injEq, exists_eq_left', ← sameId]
      apply Table.exists_mem_update
      rw [noConfiguration]
      exact Ne.symm filled
    · rw [← sameVenues]
      exact venues_createInventoryRecord entered
  case present =>
    intro id filled exist
    have clears : ∃ body, request.body = some body ∧ body.has "configuration" = true ∧
        configurationElements body = .ok [] :=
      ⟨put.body, isBody, present, cleared ▸ configuration_of_parsePutRequest parsed⟩
    have kept : idExists (storeSubDevice db put projected).configurationDB id = true ↔
        id ≠ put.existing.deviceConfiguration := by
      unfold storeSubDevice
      dsimp only
      rw [if_pos ⟨present, noConfiguration⟩, idExists_cleanup filled, and_iff_right exist]
    rw [idExists_congr (configurations_createInventoryRecord entered), kept]
    unfold CleanupMethod.Abandons
    dsimp only
    rw [own]
    simp only [clears, Option.some.injEq, exists_eq_left', true_and]
    exact ne_comm

/-- An empty configuration clears the reference of the device. -/
theorem updateConfigurationRecord_of_cleared {put : SubDevicePut}
    (present : put.body.has "configuration" = true) (cleared : put.configuration = []) :
    updateConfigurationRecord ctx db put =
      .ok { db, deviceConfiguration := "", updated := put.effectiveConfigurationId != "" } := by
  unfold updateConfigurationRecord
  dsimp only
  rw [if_neg (by rw [present]; decide), if_pos (by rw [cleared]; rfl)]

/-- An update gives up a configuration exactly when its body clears it. -/
theorem keepsReferenced_subDeviceDoPut_iff {request : Request} (filled : ctx.newId 0 ≠ "")
    (accepted : (subDeviceDoPut ctx db request).Succeeds) :
    KeepsReferenced db (subDeviceDoPut ctx db request).store ↔
      CleanupMethod.subDevicePut.GivesUpItsOwn db request := by
  cases parsed : parsePutRequest ctx db request with
  | error failure =>
      rw [subDeviceDoPut, parsed] at accepted
      cases accepted
  | ok put =>
      obtain ⟨isBody, _, found, _⟩ := existing_of_parsePutRequest parsed
      have elements := configuration_of_parsePutRequest parsed
      cases updated : updateConfigurationRecord ctx db put with
      | error failure =>
          simp only [subDeviceDoPut, parsed, updated] at accepted
          cases accepted
      | ok configured =>
          cases applied : applyPutRequest put.body
              { put.update with deviceConfiguration := configured.deviceConfiguration }
              put.existing with
          | error failure =>
              simp only [subDeviceDoPut, parsed, updated, applied] at accepted
              cases accepted
          | ok projected =>
              obtain ⟨sameSerial, sameConfiguration⟩ := configuration_of_applyPutRequest applied
              obtain ⟨sameId, _⟩ := applyPutRequest_eq_ok applied
              by_cases nothing : put.body.has "configuration" = true →
                  projected.deviceConfiguration = "" → put.existing.deviceConfiguration = ""
              · have kept : KeepsConfigurations db (subDeviceDoPut ctx db request).store := by
                  apply (keepsConfigurations_updateConfigurationRecord updated).trans
                  by_cases same : projected = put.existing
                  · simp only [subDeviceDoPut, parsed, updated, applied, if_pos same]
                    exact keepsConfigurations_syncInventory _ _
                  · simp only [subDeviceDoPut, parsed, updated, applied, if_neg same]
                    exact (keepsConfigurations_storeSubDevice nothing).trans
                      (keepsConfigurations_syncInventory _ _)
                refine iff_of_true kept.keepsReferenced ?_
                rintro id idFilled _ ⟨⟨body, isBody', present, cleared⟩, own, isOwn, names⟩
                obtain rfl := Option.some.inj (isBody.symm.trans isBody')
                obtain rfl := Option.some.inj (found.symm.trans isOwn)
                have noElements := Except.ok.inj (elements.symm.trans cleared)
                rw [updateConfigurationRecord_of_cleared present noElements] at updated
                obtain rfl := Except.ok.inj updated
                exact absurd (names.symm.trans (nothing present (sameConfiguration present))) idFilled
              · push Not at nothing
                obtain ⟨present, noConfiguration, held⟩ := nothing
                have cleared : put.configuration = [] := by
                  by_contra elements
                  exact deviceConfiguration_ne_empty filled present elements updated
                    ((sameConfiguration present).symm.trans noConfiguration)
                have differ : projected ≠ put.existing := by
                  rintro rfl
                  exact held noConfiguration
                rw [updateConfigurationRecord_of_cleared present cleared] at updated
                obtain rfl := Except.ok.inj updated
                have effective : (put.effectiveConfigurationId != "") = true := by
                  unfold SubDevicePut.effectiveConfigurationId
                  split
                  · simpa using held
                  · rename_i named
                    simpa using named
                have outcome : subDeviceDoPut ctx db request =
                    syncInventory ctx (storeSubDevice db put projected) put.body projected true := by
                  simp only [subDeviceDoPut, parsed, updateConfigurationRecord_of_cleared present
                    cleared, applied, if_neg differ, effective, Bool.true_or]
                cases entered : createInventoryRecord (storeSubDevice db put projected) projected
                    (ctx.newId 1) with
                | none =>
                    simp only [outcome, syncInventory, Bool.true_or, if_true, entered] at accepted
                    cases accepted
                | some synced =>
                    simp only [outcome, syncInventory, Bool.true_or, if_true, entered,
                      Outcome.store_done]
                    exact (givenUp_storeSubDevice parsed sameId sameSerial present cleared
                      noConfiguration entered).keepsReferenced_iff

theorem keepsReferenced_inventoryDoPut_iff {request : Request}
    (accepted : (inventoryDoPut ctx db request).Succeeds) :
    KeepsReferenced db (inventoryDoPut ctx db request).store ↔
      CleanupMethod.inventoryPut.GivesUpItsOwn db request := by
  by_cases plain : request.getParameter "removeSubscriber" = ""
  · have kept : KeepsReferenced db (inventoryDoPut ctx db request).store :=
      (keepsConfigurations_inventoryDoPut plain).keepsReferenced
    exact iff_of_true kept fun id _ _ abandons => absurd plain abandons.1
  · unfold inventoryDoPut at accepted ⊢
    dsimp only at accepted ⊢
    split at accepted
    · cases accepted
    · rename_i valid
      rw [if_neg valid]
      split at accepted
      · cases accepted
      · rename_i existing found
        rw [if_pos plain]
        exact (givenUp_removeSubscriber rfl plain found accepted).keepsReferenced_iff

end Cleanups

/-- A request that is accepted deletes no configuration that is still referred to, exactly when
nobody else refers to what it gives up. -/
theorem referenced_configurations_kept_iff (method : CleanupMethod) (ctx : Context) (db : Store)
    (request : Request) (filled : ctx.newId 0 ≠ "")
    (accepted : (method.handle ctx db request).Succeeds) :
    KeepsReferenced db (method.handle ctx db request).store ↔ method.GivesUpItsOwn db request := by
  cases method with
  | subDevicePut => exact keepsReferenced_subDeviceDoPut_iff filled accepted
  | subDeviceDelete => exact (givenUp_subDeviceDoDelete accepted).keepsReferenced_iff
  | inventoryPut => exact keepsReferenced_inventoryDoPut_iff accepted

/-! ### Two devices with one configuration -/

/-- A request that gives a subscriber a device with further fields. -/
def equippedDeviceRequest (serialNumber deviceGroup : String) (fields : JsonObject) : Request where
  method := .post
  uri := "/api/v1/subscriberDevice/0"
  bindings := [("uuid", "0")]
  body := some (subDeviceBody serialNumber deviceGroup ++ fields)

/-- A request that deletes a device by its serial number. -/
def releaseRequest (serialNumber : String) : Request where
  method := .delete
  uri := "/api/v1/subscriberDevice/" ++ serialNumber
  bindings := [("uuid", serialNumber)]

/-- The database with a gateway that comes with a configuration. -/
def configuredGateway : Store :=
  (subDeviceDoPost (rootContext 14) (systemStore "o-1" "s-1")
    (equippedDeviceRequest "aabbccddeeff" "olg"
      [("configuration", .arr [.obj [("name", .str "radios")] ""] "")])).store

/-- The database with an access point that names the configuration of the gateway. -/
def sharedConfiguration : Store :=
  (subDeviceDoPost (rootContext 30) configuredGateway
    (equippedDeviceRequest "aabbccddee00" "ap"
      [("deviceConfiguration", .str (unaryId 15))])).store

theorem sharedConfiguration_reached :
    Reachable ServiceStart (PlacingStep fun _ => True) sharedConfiguration := by
  have gateway : PlacingStep (fun _ => True) (systemStore "o-1" "s-1") configuredGateway :=
    ⟨.subDevice .post, rootContext 14, _,
      rootContext_unused (rootContext_fresh (by decide)) (by omega),
      fun _ _ => trivial, rfl⟩
  have accessPoint : PlacingStep (fun _ => True) configuredGateway sharedConfiguration :=
    ⟨.subDevice .post, rootContext 30, _,
      rootContext_unused (rootContext_fresh (by decide)) (by omega),
      fun _ _ => trivial, rfl⟩
  exact .step (.step (.start (.served "o-1" "s-1" (by decide))) gateway) accessPoint

/-- The access point goes, and with it the configuration of the gateway. -/
theorem shared_configuration_deleted :
    ¬ ∀ db, Reachable ServiceStart (PlacingStep fun _ => True) db →
      ∀ (method : CleanupMethod) (ctx : Context) (request : Request),
        ctx.Unused db → (method.handle ctx db request).Succeeds →
          KeepsReferenced db (method.handle ctx db request).store := by
  intro claim
  have unused : (rootContext 50).Unused sharedConfiguration :=
    rootContext_unused (rootContext_fresh (by decide)) (by omega)
  have kept := claim sharedConfiguration sharedConfiguration_reached .subDeviceDelete
    (rootContext 50) (releaseRequest "aabbccddee00") unused (by decide)
  have gateway : ∃ device ∈ (subDeviceDoDelete (rootContext 50) sharedConfiguration
      (releaseRequest "aabbccddee00")).store.subscriberDeviceDB.rows,
      device.deviceConfiguration = unaryId 15 := by
    decide
  have referenced : Referenced (subDeviceDoDelete (rootContext 50) sharedConfiguration
      (releaseRequest "aabbccddee00")).store (fun _ => False) (fun _ => False) (unaryId 15) := by
    obtain ⟨device, member, names⟩ := gateway
    exact Or.inr (Or.inl ⟨device, member, not_false, names⟩)
  exact absurd (kept (unaryId 15) (by decide) (by decide) referenced)
    (by decide)

/-- The gateway may be deleted before it shares its configuration. -/
theorem own_configuration_deleted :
    (subDeviceDoDelete (rootContext 30) configuredGateway
        (releaseRequest "aabbccddeeff")).store.configurationDB.rows = [] ∧
      (KeepsReferenced configuredGateway (subDeviceDoDelete (rootContext 30) configuredGateway
          (releaseRequest "aabbccddeeff")).store ↔
        CleanupMethod.subDeviceDelete.GivesUpItsOwn configuredGateway
          (releaseRequest "aabbccddeeff")) :=
  ⟨by decide, referenced_configurations_kept_iff .subDeviceDelete (rootContext 30)
    configuredGateway (releaseRequest "aabbccddeeff") (by decide) (by decide)⟩

end Owprov
