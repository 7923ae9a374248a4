import Owprov.InlineLedger
import Owprov.OwnedLists

/-!
# Configurations that belong to nobody

The requests for devices store and delete configurations of their own without looking at the
lists of entities and venues.  The lists stay exact as long as those configurations name no
owner.
-/

namespace Owprov

open RowTable ForeignKeys

section Writes

variable {ctx : Context} {db db' : Store}

/-- A configuration that belongs to nobody is stored. -/
theorem ExactOwnership.insertConfiguration (exact : ExactOwnership db)
    {config : DeviceConfiguration} {configurationDB : Table DeviceConfiguration}
    (inserted : db.configurationDB.insert? config = some configurationDB)
    (homeless : Belonging.configurations.Homeless db.entityDB db.venueDB config)
    (untagged : db.inventoryDB.get? config.info.id = none) :
    ExactOwnership { db with configurationDB := configurationDB } := by
  refine exact.of_configurations (exact.configurations.insertHomeless inserted homeless)
    (.refl _ _) (.refl _ _) (.refl _ _) rfl rfl ?_
  intro id configured
  refine (idExists_of_insert? inserted configured).imp_right ?_
  rintro rfl
  rw [idExists, show db.inventoryDB.get? (key config) = none from untagged]
  rfl

/-- The configuration under an id, if there is one, names no entity and no venue. -/
def BelongsToNobody (db : Store) (id : String) : Prop :=
  ∀ config, db.configurationDB.get? id = some config →
    Belonging.configurations.Homeless db.entityDB db.venueDB config

theorem ExactOwnership.deleteConfiguration (exact : ExactOwnership db) {id : String}
    (homeless : BelongsToNobody db id) :
    ExactOwnership { db with configurationDB := db.configurationDB.delete id } :=
  exact.of_configurations (exact.configurations.deleteHomeless homeless)
    (.refl _ _) (.refl _ _) (.refl _ _) rfl rfl fun _ configured =>
      Or.inl (idExists_of_delete configured)

/-- A tag whose id no configuration has joins the others. -/
theorem ExactOwnership.insertTag (exact : ExactOwnership db) {tag : InventoryTag}
    {inventoryDB : Table InventoryTag} (inserted : db.inventoryDB.insert? tag = some inventoryDB)
    (free : db.configurationDB.get? tag.info.id = none) :
    ExactOwnership { db with inventoryDB := inventoryDB } where
  configurations := exact.configurations
  variableBlocks := exact.variableBlocks
  maps := exact.maps
  entityNamed := exact.entityNamed
  venueNamed := exact.venueNamed
  apart id tagged := by
    rcases idExists_of_insert? inserted tagged with before | rfl
    · exact exact.apart id before
    · rw [idExists, show db.configurationDB.get? (key tag) = none from free]
      rfl

theorem ExactOwnership.homeless_of_blank (exact : ExactOwnership db) {config : DeviceConfiguration}
    (noEntity : config.entity = "") (noVenue : config.venue = "") :
    Belonging.configurations.Homeless db.entityDB db.venueDB config where
  entity := by
    rw [idExists, show Belonging.configurations.entity config = "" from noEntity, exact.entityNamed]
    rfl
  venue := by
    rw [idExists, show Belonging.configurations.venue config = "" from noVenue, exact.venueNamed]
    rfl

theorem SameBelongings.trans {db'' : Store} (same : SameBelongings db db')
    (same' : SameBelongings db' db'') : SameBelongings db db'' where
  entities := same.entities.trans same'.entities
  venues := same.venues.trans same'.venues
  configurations := same.configurations.trans same'.configurations
  variableBlocks := same.variableBlocks.trans same'.variableBlocks
  maps := same.maps.trans same'.maps
  tags id tagged := same.tags id (same'.tags id tagged)

theorem SameBelongings.moveTag (db : Store) (moves : TagMoves) (id : String) :
    SameBelongings db (moveTag db moves id) where
  entities := sameView_manageMembership (fun _ _ => rfl) _ _ _
  venues := sameView_manageMembership (fun _ _ => rfl) _ _ _
  configurations := sameView_moveUsage (fun _ _ => rfl) _ _ _ _
  variableBlocks := .refl _ _
  maps := .refl _ _
  tags _ tagged := tagged

theorem SameBelongings.updateTag {old new : InventoryTag}
    (found : db.inventoryDB.get? (key new) = some old) :
    SameBelongings db { db with inventoryDB := db.inventoryDB.update new } where
  entities := .refl _ _
  venues := .refl _ _
  configurations := .refl _ _
  variableBlocks := .refl _ _
  maps := .refl _ _
  tags _ tagged := idExists_of_update found tagged

theorem SameBelongings.deleteTag (db : Store) (id : String) :
    SameBelongings db { db with inventoryDB := db.inventoryDB.delete id } where
  entities := .refl _ _
  venues := .refl _ _
  configurations := .refl _ _
  variableBlocks := .refl _ _
  maps := .refl _ _
  tags _ tagged := idExists_of_delete tagged

theorem SameBelongings.releaseUsage (db : Store) (id entry : String) :
    SameBelongings db
      { db with
        configurationDB := manipulateVectorMember db.configurationDB
          DeviceConfiguration.inUseMember id entry false } :=
  ⟨.refl _ _, .refl _ _, sameView_manipulateVectorMember (fun _ _ => rfl) _ _ _, .refl _ _,
    .refl _ _, fun _ tagged => tagged⟩

theorem SameBelongings.of_subscriberDevices (db : Store)
    (subscriberDeviceDB : Table SubscriberDevice) :
    SameBelongings db { db with subscriberDeviceDB := subscriberDeviceDB } :=
  ⟨.refl _ _, .refl _ _, .refl _ _, .refl _ _, .refl _ _, fun _ tagged => tagged⟩

end Writes

/-! ## Inventory requests -/

section Inventory

variable {ctx : Context} {db db' : Store}

/-- The inline configuration of a request names no entity and no venue. -/
def InlineHomeless (db : Store) (request : Request) : Prop :=
  ∀ body item fields config, request.body = some body →
    createObjectsItem request body = .ok (some item) →
    item.getObject? "configuration" = some fields →
    DeviceConfiguration.fromJson fields = .ok config →
      Belonging.configurations.Homeless db.entityDB db.venueDB config

theorem InlineHomeless.of_createTagObjects {request : Request} {body : JsonObject}
    {platform newId : String} {config : DeviceConfiguration} (inline : InlineHomeless db request)
    (isBody : request.body = some body)
    (made : createTagObjects ctx request body platform newId = .ok (some config)) :
    config.info.id = newId ∧
      Belonging.configurations.Homeless db.entityDB db.venueDB config := by
  obtain ⟨given, read, rfl⟩ := createTagObjects_reads made
  obtain ⟨_, item, fields, isItem, isFields, isConfig⟩ := inlineConfiguration_reads read
  obtain ⟨noEntity, noVenue⟩ := inline body item fields given isBody isItem isFields isConfig
  exact ⟨rfl, noEntity, noVenue⟩

/-- An inline configuration that belongs to nobody is stored, under its own id. -/
theorem ExactOwnership.storeInlineConfiguration (exact : ExactOwnership db) {configured : Store}
    {config : Option DeviceConfiguration} {newId : String}
    (stored : storeInlineConfiguration db config = .ok configured)
    (homeless : ∀ created, config = some created → created.info.id = newId ∧
      Belonging.configurations.Homeless db.entityDB db.venueDB created)
    (untagged : db.inventoryDB.get? newId = none) :
    ExactOwnership configured ∧ ∀ id, id ≠ newId → db.configurationDB.get? id = none →
      configured.configurationDB.get? id = none := by
  unfold Owprov.storeInlineConfiguration at stored
  split at stored
  · cases stored
    exact ⟨exact, fun _ _ free => free⟩
  · rename_i created
    obtain ⟨rfl, belongs⟩ := homeless created rfl
    split at stored
    · cases stored
    · rename_i configurationDB inserted
      cases stored
      refine ⟨exact.insertConfiguration inserted belongs untagged, fun id differ free => ?_⟩
      exact get?_insert?_eq_none inserted free (Ne.symm differ)

theorem ExactOwnership.inventoryDoPost (exact : ExactOwnership db) (unclaimed : ctx.Unclaimed db)
    {request : Request}
    (condition : (inventoryDoPost ctx db request).Succeeds → InlineHomeless db request) :
    ExactOwnership (inventoryDoPost ctx db request).store := by
  cases planned : inventoryDoPostPlan ctx db request with
  | error failure =>
      simp only [Owprov.inventoryDoPost, planned]
      exact exact
  | ok plan =>
      obtain ⟨tag, config⟩ := plan
      obtain ⟨id, body, platform, isBody, made⟩ :=
        createTagObjects_of_inventoryDoPostPlan planned
      cases stored : Owprov.storeInlineConfiguration db config with
      | error failure =>
          simp only [Owprov.inventoryDoPost, planned, stored]
          exact exact
      | ok configured =>
          have free : configured.inventoryDB.get? (key tag) = none := by
            rw [storeInlineConfiguration_eq_ok stored, show key tag = tag.info.id from rfl, id]
            exact unclaimed.inventory 0
          obtain ⟨inventoryDB, inserted⟩ := Table.insert?_isSome free
          simp only [Owprov.inventoryDoPost, planned, stored, inserted] at condition ⊢
          have inline : InlineHomeless db request := condition rfl
          obtain ⟨configured', kept⟩ := exact.storeInlineConfiguration stored
            (fun created isCreated => inline.of_createTagObjects isBody (isCreated ▸ made))
            (unclaimed.inventory 1)
          have unconfigured : configured.configurationDB.get? tag.info.id = none := by
            rw [id]
            refine kept _ (fun same => ?_) (unclaimed.configuration 0)
            exact absurd (unclaimed.distinct same) (by decide)
          exact (configured'.insertTag inserted unconfigured).congr (.moveTag _ _ _)

/-- The configurations that a request gives up belong to nobody. -/
def CleanupMethod.AbandonsHomeless (method : CleanupMethod) (db : Store) (request : Request) :
    Prop :=
  ∀ id, method.Abandons db request id → BelongsToNobody db id

/-- A configuration that goes away with its subscriber belongs to nobody. -/
theorem ExactOwnership.removeSubscriber (exact : ExactOwnership db) {existing : InventoryTag}
    (member : existing ∈ db.inventoryDB.rows) {subscriber : String}
    (condition : (removeSubscriber ctx db existing subscriber).Succeeds →
      ∀ config, db.configurationDB.get? existing.deviceConfiguration = some config →
        config.subscriberOnly = true →
          Belonging.configurations.Homeless db.entityDB db.venueDB config) :
    ExactOwnership (removeSubscriber ctx db existing subscriber).store := by
  unfold Owprov.removeSubscriber at condition ⊢
  split
  · rename_i same
    rw [if_pos same] at condition
    have homeless := condition rfl
    have dropped : ExactOwnership { db with
        configurationDB := dropSubscriberConfiguration db existing.deviceConfiguration } := by
      unfold dropSubscriberConfiguration
      split
      · rename_i subscriberOnly
        refine exact.deleteConfiguration fun config isConfig => homeless config isConfig ?_
        rwa [isConfig] at subscriberOnly
      · exact exact
    have found : db.inventoryDB.get? existing.info.id = some existing :=
      Table.get?_key_of_mem member
    exact dropped.congr
      { entities := sameView_removeMembership (fun _ _ => rfl) _ _
        venues := .refl _ _
        configurations := .refl _ _
        variableBlocks := .refl _ _
        maps := .refl _ _
        tags := by
          intro id tagged
          refine idExists_of_update (?_ : _ = some existing) tagged
          exact found }
  · exact exact

theorem ExactOwnership.inventoryDoPut (exact : ExactOwnership db) (unclaimed : ctx.Unclaimed db)
    {request : Request}
    (condition : (inventoryDoPut ctx db request).Succeeds →
      (request.getParameter "removeSubscriber" = "" → InlineHomeless db request) ∧
        CleanupMethod.inventoryPut.AbandonsHomeless db request) :
    ExactOwnership (inventoryDoPut ctx db request).store := by
  unfold Owprov.inventoryDoPut at condition ⊢
  dsimp only at condition ⊢
  split
  · exact exact
  · rename_i valid
    rw [if_neg valid] at condition
    split
    · exact exact
    · rename_i existing found
      rw [found] at condition
      dsimp only at condition
      have member := getBy_mem found
      split
      · rename_i leaves
        rw [if_pos leaves] at condition
        refine exact.removeSubscriber member fun succeeds config isConfig subscriberOnly => ?_
        exact (condition succeeds).2 existing.deviceConfiguration
          ⟨leaves, ⟨existing, found, rfl⟩, config, isConfig, subscriberOnly⟩ config isConfig
      · rename_i stays
        rw [if_neg stays] at condition
        cases planned : inventoryDoPutPlan ctx db request existing with
        | error failure => exact exact
        | ok update =>
            rw [planned] at condition
            dsimp only at condition ⊢
            cases stored : Owprov.storeInlineConfiguration db update.config with
            | error failure =>
                rw [inventoryDoPutCommit, stored]
                exact exact
            | ok configured =>
                rw [inventoryDoPutCommit, stored] at condition ⊢
                have inline : InlineHomeless db request := (condition rfl).1 (not_not.mp stays)
                obtain ⟨body, platform, isBody, made⟩ :=
                  createTagObjects_of_inventoryDoPutPlan planned
                obtain ⟨configured', _⟩ := exact.storeInlineConfiguration stored
                  (fun created isCreated => inline.of_createTagObjects isBody (isCreated ▸ made))
                  (unclaimed.inventory 0)
                have foundKey : configured.inventoryDB.get? (key update.updated) =
                    some existing := by
                  rw [storeInlineConfiguration_eq_ok stored,
                    show key update.updated = existing.info.id from id_of_inventoryDoPutPlan planned]
                  exact Table.get?_key_of_mem member
                have moved : SameBelongings configured (moveTag
                    { configured with inventoryDB := configured.inventoryDB.update update.updated }
                    update.moves update.updated.info.id) :=
                  (SameBelongings.updateTag foundKey).trans (.moveTag _ _ _)
                exact configured'.congr (moved.trans (.of_subscriberDevices _ _))

/-- A configuration that goes with a deleted device belongs to nobody. -/
def DeletesHomeless (db : Store) (request : Request) : Prop :=
  ∀ existing config,
    getBy db.inventoryDB InventoryTag.serialNumber (request.getBinding "serialNumber") =
      some existing →
    db.configurationDB.get? existing.deviceConfiguration = some config →
      config.subscriberOnly = true →
        Belonging.configurations.Homeless db.entityDB db.venueDB config

theorem ExactOwnership.releaseConfiguration (exact : ExactOwnership db) {existing : InventoryTag}
    (homeless : ∀ config, db.configurationDB.get? existing.deviceConfiguration = some config →
      config.subscriberOnly = true →
        Belonging.configurations.Homeless db.entityDB db.venueDB config) :
    ExactOwnership { db with configurationDB := releaseConfiguration db existing } := by
  unfold Owprov.releaseConfiguration
  split
  · exact exact
  · rename_i config isConfig
    split
    · exact exact
    · split
      · rename_i subscriberOnly
        refine exact.deleteConfiguration fun config' isConfig' => ?_
        obtain rfl := Option.some.inj (isConfig.symm.trans isConfig')
        exact homeless config isConfig subscriberOnly
      · exact exact.congr (.releaseUsage db _ _)

theorem counted_removeStranger {α γ : Type} [Keyed α String] [Keyed γ String] {owner : Table α}
    {table : Table γ} {member : VectorMember α} {column : γ → String}
    (counted : Counted (owners table column) (memberships owner member)) (parentId : String)
    {id : String} (stranger : idExists table id = false) :
    Counted (owners table column) (memberships (removeMembership owner member parentId id) member) := by
  rw [memberships_removeMembership]
  apply counted.remove_of_ne
  rintro p _ named
  obtain ⟨row, found, _⟩ := owners_eq_some_iff.mp named
  rw [idExists, found] at stranger
  cases stranger

/-- The id of a tag is in no list of configurations. -/
theorem ExactOwnership.unlistTag (exact : ExactOwnership db) (tag : InventoryTag)
    (tagged : idExists db.inventoryDB tag.info.id = true) :
    ExactOwnership
      { db with
        venueDB := removeMembership db.venueDB Venue.configurationsMember tag.venue tag.info.id
        entityDB := removeMembership db.entityDB Entity.configurationsMember tag.entity
          tag.info.id } := by
  have stranger := exact.apart tag.info.id tagged
  refine exact.of_configurations ?_ ?_ ?_ (.refl _ _) rfl rfl fun _ => Or.inl
  · constructor
    case inEntity => exact counted_removeStranger exact.configurations.inEntity _ stranger
    case inVenue => exact counted_removeStranger exact.configurations.inVenue _ stranger
  · exact sameView_removeMembership (fun _ _ => rfl) _ _
  · exact sameView_removeMembership (fun _ _ => rfl) _ _

theorem ExactOwnership.inventoryDoDelete (exact : ExactOwnership db) {request : Request}
    (condition : (inventoryDoDelete db request).Succeeds → DeletesHomeless db request) :
    ExactOwnership (inventoryDoDelete db request).store := by
  cases planned : inventoryDoDeletePlan db request with
  | error failure =>
      simp only [Owprov.inventoryDoDelete, planned]
      exact exact
  | ok existing =>
      simp only [Owprov.inventoryDoDelete, planned] at condition ⊢
      have deletes : DeletesHomeless db request := condition rfl
      have bound := found_of_inventoryDoDeletePlan planned
      have released := exact.releaseConfiguration fun config isConfig =>
        deletes existing config bound isConfig
      have tagged : idExists db.inventoryDB existing.info.id = true :=
        idExists_iff.mpr ⟨existing, inventoryDoDeletePlan_eq_ok planned⟩
      have unlisted := released.unlistTag existing tagged
      exact unlisted.congr
        (((SameBelongings.moveTag _ _ _).trans (.moveTag _ _ _)).trans (.deleteTag _ _))

end Inventory

/-! ## Subscriber device requests -/

section SubDevices

variable {ctx : Context} {db db' : Store} {device : SubscriberDevice}

theorem ExactOwnership.createInventoryRecord (exact : ExactOwnership db) {newId : String}
    (free : db.configurationDB.get? newId = none)
    (entered : createInventoryRecord db device newId = some db') : ExactOwnership db' := by
  unfold Owprov.createInventoryRecord at entered
  dsimp only at entered
  split at entered
  · rename_i existing bySerial
    obtain rfl := Option.some.inj entered
    have found : db.inventoryDB.get? existing.info.id = some existing :=
      Table.get?_key_of_mem (getBy_mem bySerial)
    refine exact.congr (SameBelongings.trans (.updateTag (?_ : _ = some existing)) (.moveTag _ _ _))
    exact found
  · obtain ⟨inventoryDB, inserted, rfl⟩ := Option.map_eq_some_iff.mp entered
    exact (exact.insertTag inserted free).congr (.moveTag _ _ _)

theorem SameBelongings.of_venues {venueDB : Table Venue}
    (venues : Table.SameView Venue.belongings db.venueDB venueDB) :
    SameBelongings db { db with venueDB := venueDB } :=
  ⟨.refl _ _, venues, .refl _ _, .refl _ _, .refl _ _, fun _ tagged => tagged⟩

theorem SameBelongings.startMonitoring :
    SameBelongings db (startMonitoring ctx db device) := by
  unfold Owprov.startMonitoring
  split
  · exact .refl _
  · split
    · exact .refl _
    · split
      · exact .refl _
      · apply SameBelongings.of_venues
        apply Table.SameView.modify
        · exact fun _ => rfl
        · exact fun _ => rfl

theorem SameBelongings.stopMonitoring (stopped : stopMonitoring ctx db device = some db') :
    SameBelongings db db' := by
  unfold Owprov.stopMonitoring at stopped
  split at stopped
  · cases stopped
    exact .refl _
  · rename_i venue found
    split at stopped
    · cases stopped
      exact .refl _
    · split at stopped
      · cases stopped
        have stored : db.venueDB.get? venue.info.id = some venue :=
          Table.get?_key_of_mem (getBy_mem found)
        exact .of_venues (Table.SameView.update stored rfl)
      · cases stopped

/-- A configuration that belongs to nobody does so without the bookkeeping, too. -/
theorem SameBelongings.belongsToNobody (same : SameBelongings db db') {id : String}
    (homeless : BelongsToNobody db id) : BelongsToNobody db' id := by
  intro config found
  obtain ⟨old, isOld, place⟩ := same.configurations.found found
  obtain ⟨noEntity, noVenue⟩ := homeless old isOld
  have sameEntity : config.entity = old.entity := congrArg Prod.fst place
  have sameVenue : config.venue = old.venue := congrArg Prod.snd place
  constructor
  case entity =>
    rw [idExists_congr same.entities, show Belonging.configurations.entity config = _ from sameEntity]
    exact noEntity
  case venue =>
    rw [idExists_congr same.venues, show Belonging.configurations.venue config = _ from sameVenue]
    exact noVenue

theorem BelongsToNobody.deleteConfiguration {id : String} (homeless : BelongsToNobody db id)
    (other : String) :
    BelongsToNobody { db with configurationDB := db.configurationDB.delete other } id := by
  intro config found
  rw [Table.get?_delete] at found
  split at found
  · cases found
  · exact homeless config found

/-- A cleanup deletes a configuration, which may have lost a user before. -/
theorem cleanup_cases (db : Store) (id inventoryId : String) :
    cleanupSubscriberConfigurationRecord db id inventoryId = db ∨
      ∃ released, SameBelongings db released ∧
        cleanupSubscriberConfigurationRecord db id inventoryId =
          { released with configurationDB := released.configurationDB.delete id } := by
  unfold cleanupSubscriberConfigurationRecord
  split
  · exact Or.inl rfl
  · dsimp only
    split
    · exact Or.inr ⟨db, .refl db, rfl⟩
    · exact Or.inr ⟨_, .releaseUsage db id ("inv:" ++ inventoryId), rfl⟩

theorem ExactOwnership.cleanup (exact : ExactOwnership db) {id : String}
    (homeless : BelongsToNobody db id) (inventoryId : String) :
    ExactOwnership (cleanupSubscriberConfigurationRecord db id inventoryId) := by
  rcases cleanup_cases db id inventoryId with unchanged | ⟨released, same, deleted⟩
  · rw [unchanged]
    exact exact
  · rw [deleted]
    exact (exact.congr same).deleteConfiguration (same.belongsToNobody homeless)

theorem BelongsToNobody.cleanup {id : String} (homeless : BelongsToNobody db id)
    (other inventoryId : String) :
    BelongsToNobody (cleanupSubscriberConfigurationRecord db other inventoryId) id := by
  rcases cleanup_cases db other inventoryId with unchanged | ⟨released, same, deleted⟩
  · rw [unchanged]
    exact homeless
  · rw [deleted]
    exact (same.belongsToNobody homeless).deleteConfiguration other

theorem ExactOwnership.cleanups (exact : ExactOwnership db) {ids : List String}
    (homeless : ∀ id ∈ ids, BelongsToNobody db id) (inventoryId : String) :
    ExactOwnership (ids.foldl
      (fun db id => cleanupSubscriberConfigurationRecord db id inventoryId) db) := by
  induction ids generalizing db with
  | nil => exact exact
  | cons id ids ih =>
      rw [List.forall_mem_cons] at homeless
      obtain ⟨first, rest⟩ := homeless
      rw [List.foldl_cons]
      exact ih (exact.cleanup first inventoryId) fun other member =>
        (rest other member).cleanup id inventoryId

/-- The tag of a deleted device goes, with the configurations of both. -/
theorem ExactOwnership.deleteInventory (exact : ExactOwnership db)
    (own : BelongsToNobody db device.deviceConfiguration)
    (ofTag : ∀ tag, getBy db.inventoryDB InventoryTag.serialNumber device.serialNumber = some tag →
      BelongsToNobody db tag.deviceConfiguration) :
    ExactOwnership (deleteInventoryForSubscriberDevice db device) := by
  unfold deleteInventoryForSubscriberDevice
  split
  · exact exact.cleanup own ""
  · rename_i tag found
    have moved := SameBelongings.moveTag db
      { fromPolicy := tag.managementPolicy
        fromLocation := tag.location
        fromContact := tag.contact
        fromEntity := tag.entity
        fromVenue := tag.venue } tag.info.id
    have homeless : ∀ id ∈ ([device.deviceConfiguration, tag.deviceConfiguration].dedup.insertionSort
        (· ≤ ·)), BelongsToNobody db id := by
      intro id member
      rw [List.mem_insertionSort, List.mem_dedup, List.mem_pair] at member
      rcases member with rfl | rfl
      · exact own
      · exact ofTag tag found
    have cleaned := (exact.congr moved).cleanups
      (fun id member => moved.belongsToNobody (homeless id member)) tag.info.id
    exact cleaned.congr (.deleteTag _ _)

theorem ExactOwnership.subDeviceDoDelete (exact : ExactOwnership db) {request : Request}
    (condition : (subDeviceDoDelete ctx db request).Succeeds →
      CleanupMethod.subDeviceDelete.AbandonsHomeless db request) :
    ExactOwnership (subDeviceDoDelete ctx db request).store := by
  cases validated : validateDeleteRequest db request with
  | error failure =>
      simp only [Owprov.subDeviceDoDelete, validated]
      exact exact
  | ok existing =>
      cases isStopped : Owprov.stopMonitoring ctx db existing with
      | none =>
          simp only [Owprov.subDeviceDoDelete, validated, isStopped]
          exact exact
      | some stopped =>
          simp only [Owprov.subDeviceDoDelete, validated, isStopped] at condition ⊢
          have homeless := condition rfl
          have bound : boundSubDevice db (request.getBinding "uuid") = .ok existing := by
            simp only [validateDeleteRequest, bind_eq_ok_iff, require_eq_ok_iff] at validated
            obtain ⟨_, _, device, bound, _, _, answer⟩ := validated
            obtain rfl := Except.ok.inj answer
            exact bound
          have own : CleanupMethod.subDeviceDelete.device db request = some existing := by
            rw [CleanupMethod.device, bound]
            rfl
          have same : SameBelongings db
              { stopped with
                subscriberDeviceDB := stopped.subscriberDeviceDB.delete existing.info.id } :=
            (SameBelongings.stopMonitoring isStopped).trans (.of_subscriberDevices _ _)
          have sameTags : stopped.inventoryDB = db.inventoryDB := by
            obtain ⟨venueDB, rfl, _⟩ := tables_stopMonitoring isStopped
            rfl
          apply (exact.congr same).deleteInventory
          · exact same.belongsToNobody (homeless _ (Or.inl ⟨existing, own, rfl⟩))
          · intro tag isTag
            refine same.belongsToNobody (homeless _ (Or.inr ⟨tag, ?_, rfl⟩))
            rw [CleanupMethod.tag, own, Option.bind_some, ← sameTags]
            · exact isTag
            · rintro ⟨⟩

/-- A configuration that is written for a device belongs to nobody. -/
theorem ExactOwnership.insertNew (exact : ExactOwnership db) (unclaimed : ctx.Unclaimed db)
    {record : DeviceConfiguration} {configurationDB : Table DeviceConfiguration}
    (isNew : record.info.id = ctx.newId 0 ∧ record.entity = "" ∧ record.venue = "")
    (inserted : db.configurationDB.insert? record = some configurationDB) :
    ExactOwnership { db with configurationDB := configurationDB } ∧
      ∀ i, i ≠ 0 → configurationDB.get? (ctx.newId i) = none := by
  obtain ⟨id, noEntity, noVenue⟩ := isNew
  have untagged : db.inventoryDB.get? record.info.id = none := by
    rw [id]
    exact unclaimed.inventory 0
  refine ⟨exact.insertConfiguration inserted (exact.homeless_of_blank noEntity noVenue) untagged, ?_⟩
  intro i later
  apply get?_insert?_eq_none inserted (unclaimed.configuration i)
  rw [show key record = ctx.newId 0 from id]
  exact fun same => later (unclaimed.distinct same).symm

theorem ExactOwnership.subDeviceDoPost (exact : ExactOwnership db) (unclaimed : ctx.Unclaimed db)
    (request : Request) : ExactOwnership (subDeviceDoPost ctx db request).store := by
  unfold Owprov.subDeviceDoPost
  split
  · exact exact
  · split
    · exact exact
    · rename_i configured configuredDevice created
      obtain ⟨configured', free⟩ : ExactOwnership configured ∧
          configured.configurationDB.get? (ctx.newId 2) = none := by
        rcases createConfigurationRecord_eq_ok created with
          ⟨rfl, _⟩ | ⟨record, configurationDB, isNew, inserted, rfl, _⟩
        · exact ⟨exact, unclaimed.configuration 2⟩
        · obtain ⟨stored, later⟩ := exact.insertNew unclaimed isNew inserted
          exact ⟨stored, later 2 (by decide)⟩
      split
      · exact configured'
      · dsimp only
        split
        · exact configured'
        · rename_i subscriberDeviceDB _
          split
          · exact configured'.congr (.of_subscriberDevices _ _)
          · rename_i entered isEntered
            have stored := configured'.congr (.of_subscriberDevices _ subscriberDeviceDB)
            exact (stored.createInventoryRecord free isEntered).congr .startMonitoring

theorem ExactOwnership.updateConfigurationRecord (exact : ExactOwnership db)
    (unclaimed : ctx.Unclaimed db) {put : SubDevicePut} {configured : ConfigurationUpdate}
    (updated : updateConfigurationRecord ctx db put = .ok configured) :
    ExactOwnership configured.db ∧ configured.db.configurationDB.get? (ctx.newId 1) = none := by
  rcases updateConfigurationRecord_eq_ok updated with
    same | ⟨record, found, same⟩ | ⟨record, configurationDB, isNew, inserted, same⟩
  · rw [same]
    exact ⟨exact, unclaimed.configuration 1⟩
  · have stored : db.configurationDB.get? (key (put.rewrite record)) = some record :=
      Table.get?_key_of_mem (Table.mem_of_get? found)
    have rewritten : Table.SameView Belonging.configurations.place db.configurationDB
        (db.configurationDB.update (put.rewrite record)) := .update stored rfl
    rw [same]
    constructor
    · exact exact.congr
        ⟨.refl _ _, .refl _ _, rewritten, .refl _ _, .refl _ _, fun _ tagged => tagged⟩
    · exact rewritten.get?_eq_none (unclaimed.configuration 1)
  · rw [same]
    obtain ⟨stored, later⟩ := exact.insertNew unclaimed isNew inserted
    exact ⟨stored, later 1 (by decide)⟩

theorem ExactOwnership.syncInventory (exact : ExactOwnership db)
    (free : db.configurationDB.get? (ctx.newId 1) = none) (body : JsonObject) (updated : Bool) :
    ExactOwnership (syncInventory ctx db body device updated).store := by
  unfold Owprov.syncInventory
  split
  · split
    · exact exact
    · rename_i synced isSynced
      exact exact.createInventoryRecord free isSynced
  · exact exact

theorem syncInventory_succeeds (free : db.inventoryDB.get? (ctx.newId 1) = none)
    (body : JsonObject) (updated : Bool) :
    (syncInventory ctx db body device updated).Succeeds := by
  have enters : ∃ entered, createInventoryRecord db device (ctx.newId 1) = some entered :=
    createInventoryRecord_isSome free
  obtain ⟨entered, isEntered⟩ := enters
  unfold syncInventory
  rw [isEntered]
  split <;> rfl

theorem get?_storeSubDevice_eq_none {id : String} (free : db.configurationDB.get? id = none)
    (put : SubDevicePut) (projected : SubscriberDevice) :
    (storeSubDevice db put projected).configurationDB.get? id = none := by
  unfold storeSubDevice
  dsimp only
  split
  · rcases cleanup_cases { db with subscriberDeviceDB := db.subscriberDeviceDB.update projected }
      put.existing.deviceConfiguration "" with unchanged | ⟨released, same, deleted⟩
    · rw [unchanged]
      exact free
    · rw [deleted, Table.get?_delete, same.configurations.get?_eq_none free, ite_self]
  · exact free

theorem ExactOwnership.storeSubDevice (exact : ExactOwnership db) {put : SubDevicePut}
    {projected : SubscriberDevice}
    (homeless : put.body.has "configuration" = true → projected.deviceConfiguration = "" →
      BelongsToNobody db put.existing.deviceConfiguration) :
    ExactOwnership (storeSubDevice db put projected) := by
  have same : SameBelongings db
      { db with subscriberDeviceDB := db.subscriberDeviceDB.update projected } :=
    .of_subscriberDevices _ _
  unfold Owprov.storeSubDevice
  dsimp only
  split
  · rename_i cleared
    exact (exact.congr same).cleanup (same.belongsToNobody (homeless cleared.1 cleared.2)) ""
  · exact exact.congr same

/-- Only a configuration that the body clears is deleted. -/
theorem ExactOwnership.subDeviceDoPut (exact : ExactOwnership db) (unclaimed : ctx.Unclaimed db)
    {request : Request}
    (condition : (subDeviceDoPut ctx db request).Succeeds →
      CleanupMethod.subDevicePut.AbandonsHomeless db request) :
    ExactOwnership (subDeviceDoPut ctx db request).store := by
  unfold Owprov.subDeviceDoPut at condition ⊢
  cases parsed : parsePutRequest ctx db request with
  | error failure => exact exact
  | ok put =>
      rw [parsed] at condition
      dsimp only at condition ⊢
      cases updated : Owprov.updateConfigurationRecord ctx db put with
      | error failure => exact exact
      | ok configured =>
          rw [updated] at condition
          dsimp only at condition ⊢
          obtain ⟨configured', free⟩ := exact.updateConfigurationRecord unclaimed updated
          cases applied : applyPutRequest put.body
              { put.update with deviceConfiguration := configured.deviceConfiguration }
              put.existing with
          | error failure => exact configured'
          | ok projected =>
              rw [applied] at condition
              dsimp only at condition ⊢
              by_cases unchanged : projected = put.existing
              · rw [if_pos unchanged]
                exact configured'.syncInventory free _ _
              · rw [if_neg unchanged] at condition ⊢
                have untagged : (Owprov.storeSubDevice configured.db put
                    projected).inventoryDB.get? (ctx.newId 1) = none := by
                  rw [inventoryDB_storeSubDevice, tables_updateConfigurationRecord updated]
                  exact unclaimed.inventory 1
                have homeless := condition (syncInventory_succeeds untagged _ _)
                have stored' : ExactOwnership (Owprov.storeSubDevice configured.db put projected) := by
                  apply configured'.storeSubDevice
                  intro present noConfiguration
                  obtain ⟨_, sameConfiguration⟩ := configuration_of_applyPutRequest applied
                  have cleared : put.configuration = [] := by
                    by_contra elements
                    exact deviceConfiguration_ne_empty (unclaimed.filled 0) present elements updated
                      ((sameConfiguration present).symm.trans noConfiguration)
                  obtain ⟨isBody, _, found, _⟩ := existing_of_parsePutRequest parsed
                  rw [updateConfigurationRecord_of_cleared present cleared] at updated
                  obtain rfl := Except.ok.inj updated
                  apply homeless
                  refine ⟨⟨put.body, isBody, present, ?_⟩, put.existing, found, rfl⟩
                  rw [← cleared]
                  exact configuration_of_parsePutRequest parsed
                exact stored'.syncInventory (get?_storeSubDevice_eq_none free put projected) _ _

end SubDevices

end Owprov
