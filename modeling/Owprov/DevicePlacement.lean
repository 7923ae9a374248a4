import Owprov.Membership
import Owprov.OperatorLinks
import Owprov.SubscriberGateways
import Owprov.VenueHierarchy

/-!
# Where the devices are listed

A tag of the inventory names its venue and its entity, which list it.  Six requests write both
sides, each by its own pairs of old and new owner.  A new entity or venue starts with the list
of devices that its body carries.
-/

namespace Owprov

open RowTable ForeignKeys Runs

/-! ## Exact lists of devices -/

/-- Venues and entities list the tags that name them. -/
structure ExactDevices (db : Store) : Prop where
  venues : Exact (owners db.inventoryDB InventoryTag.venue)
    (memberships db.venueDB Venue.devicesMember)
  entities : Exact (owners db.inventoryDB InventoryTag.entity)
    (memberships db.entityDB Entity.devicesMember)
  venueNamed : db.venueDB.get? "" = none
  entityNamed : db.entityDB.get? "" = none
  /-- The word that a `removeSubscriber` passes for the id of an entity. -/
  noEntityId : db.entityDB.get? "id" = none

/-- The venue and the entity of a tag. -/
def InventoryTag.place (tag : InventoryTag) : String × String :=
  (tag.venue, tag.entity)

section Writes

variable {db db' : Store}

/-- Writes to other columns and other lists keep the lists of devices exact. -/
theorem ExactDevices.congr (exact : ExactDevices db)
    (tags : Table.SameView InventoryTag.place db.inventoryDB db'.inventoryDB)
    (venues : Table.SameView Venue.devices db.venueDB db'.venueDB)
    (entities : Table.SameView Entity.devices db.entityDB db'.entityDB) : ExactDevices db' := by
  have venueColumn : owners db'.inventoryDB InventoryTag.venue =
      owners db.inventoryDB InventoryTag.venue := owners_congr (tags.comp Prod.fst)
  have entityColumn : owners db'.inventoryDB InventoryTag.entity =
      owners db.inventoryDB InventoryTag.entity := owners_congr (tags.comp Prod.snd)
  have venueLists : memberships db'.venueDB Venue.devicesMember =
      memberships db.venueDB Venue.devicesMember := memberships_congr venues
  have entityLists : memberships db'.entityDB Entity.devicesMember =
      memberships db.entityDB Entity.devicesMember := memberships_congr entities
  constructor
  case venues =>
    rw [venueColumn, venueLists]
    exact exact.venues
  case entities =>
    rw [entityColumn, entityLists]
    exact exact.entities
  case venueNamed => exact venues.get?_eq_none exact.venueNamed
  case entityNamed => exact entities.get?_eq_none exact.entityNamed
  case noEntityId => exact entities.get?_eq_none exact.noEntityId

/-- What a write to the tags and to both lists has to establish. -/
theorem ExactDevices.of_lists (exact : ExactDevices db)
    (venues : Exact (owners db'.inventoryDB InventoryTag.venue)
      (memberships db'.venueDB Venue.devicesMember))
    (entities : Exact (owners db'.inventoryDB InventoryTag.entity)
      (memberships db'.entityDB Entity.devicesMember))
    (sameVenues : Table.SameView Venue.entity db.venueDB db'.venueDB)
    (sameEntities : Table.SameView Entity.parent db.entityDB db'.entityDB) : ExactDevices db' where
  venues := venues
  entities := entities
  venueNamed := sameVenues.get?_eq_none exact.venueNamed
  entityNamed := sameEntities.get?_eq_none exact.entityNamed
  noEntityId := sameEntities.get?_eq_none exact.noEntityId

theorem sameView_moveTag_venues (db : Store) (moves : TagMoves) (id : String) :
    Table.SameView Venue.entity db.venueDB (moveTag db moves id).venueDB :=
  sameView_manageMembership (fun _ _ => rfl) _ _ _

theorem sameView_moveTag_entities (db : Store) (moves : TagMoves) (id : String) :
    Table.SameView Entity.parent db.entityDB (moveTag db moves id).entityDB :=
  sameView_manageMembership (fun _ _ => rfl) _ _ _

/-- A new tag is listed where it says it is. -/
theorem ExactDevices.insert (exact : ExactDevices db) {tag : InventoryTag}
    {inventoryDB : Table InventoryTag} (inserted : db.inventoryDB.insert? tag = some inventoryDB)
    {moves : TagMoves} (fromVenue : moves.fromVenue = "") (toVenue : moves.toVenue = tag.venue)
    (fromEntity : moves.fromEntity = "") (toEntity : moves.toEntity = tag.entity)
    (venueFound : tag.venue = "" ∨ idExists db.venueDB tag.venue = true)
    (entityFound : tag.entity = "" ∨ idExists db.entityDB tag.entity = true) :
    ExactDevices (moveTag { db with inventoryDB := inventoryDB } moves tag.info.id) := by
  apply exact.of_lists
  · rw [moveTag, fromVenue, toVenue]
    exact exact_create exact.venues inserted venueFound
  · rw [moveTag, fromEntity, toEntity]
    exact exact_create exact.entities inserted entityFound
  · exact sameView_moveTag_venues { db with inventoryDB := inventoryDB } _ _
  · exact sameView_moveTag_entities { db with inventoryDB := inventoryDB } _ _

/-- How a reference moves when its row is updated: from the old value to the new one, or not
at all. -/
def Moves (old new fromId toId : String) : Prop :=
  (fromId = "" ∧ toId = "" ∧ new = old) ∨ (fromId = old ∧ toId = new)

theorem exact_moves {α γ : Type} [Keyed α String] [Keyed γ String] {owner : Table α}
    {member : VectorMember α} {table : Table γ} {column : γ → String}
    (exact : Exact (owners table column) (memberships owner member)) {old new : γ}
    (found : table.get? (key new) = some old) {fromId toId : String}
    (moves : Moves (column old) (column new) fromId toId)
    (ownerFound : column new = column old ∨ column new = "" ∨
      idExists owner (column new) = true) :
    Exact (owners (table.update new) column)
      (memberships (manageMembership owner member fromId toId (key new)) member) := by
  rcases moves with ⟨rfl, rfl, same⟩ | ⟨rfl, rfl⟩
  · rw [owners_congr (Table.SameView.update found same)]
    exact exact
  · apply exact_transfer exact found
    rcases ownerFound with same | present
    · by_cases blank : column new = ""
      · exact Or.inl blank
      · refine Or.inr ?_
        have named : owners table column (key new) = some (column new) :=
          owners_eq_some_iff.mpr ⟨old, found, same.symm, blank⟩
        have listed : (memberships owner member (column new)).isSome :=
          exact.grounded _ _ named
        rw [isSome_memberships] at listed
        exact listed
    · exact present

/-- A tag is updated, and its lists follow. -/
theorem ExactDevices.update (exact : ExactDevices db) {old new : InventoryTag}
    (found : db.inventoryDB.get? (key new) = some old) {moves : TagMoves}
    (venueMoves : Moves old.venue new.venue moves.fromVenue moves.toVenue)
    (entityMoves : Moves old.entity new.entity moves.fromEntity moves.toEntity)
    (venueFound : new.venue = old.venue ∨ new.venue = "" ∨ idExists db.venueDB new.venue = true)
    (entityFound : new.entity = old.entity ∨ new.entity = "" ∨
      idExists db.entityDB new.entity = true) :
    ExactDevices (moveTag { db with inventoryDB := db.inventoryDB.update new } moves
      new.info.id) := by
  apply exact.of_lists
  · exact exact_moves exact.venues found venueMoves venueFound
  · exact exact_moves exact.entities found entityMoves entityFound
  · exact sameView_moveTag_venues { db with inventoryDB := db.inventoryDB.update new } _ _
  · exact sameView_moveTag_entities { db with inventoryDB := db.inventoryDB.update new } _ _

/-- A tag is taken off its lists and deleted. -/
theorem ExactDevices.remove (exact : ExactDevices db) {tag : InventoryTag}
    (found : db.inventoryDB.get? tag.info.id = some tag) {moves : TagMoves}
    (fromVenue : moves.fromVenue = tag.venue) (toVenue : moves.toVenue = "")
    (fromEntity : moves.fromEntity = tag.entity) (toEntity : moves.toEntity = "") :
    ExactDevices { moveTag db moves tag.info.id with
      inventoryDB := db.inventoryDB.delete tag.info.id } := by
  apply exact.of_lists
  · rw [moveTag, fromVenue, toVenue]
    exact exact_remove exact.venues found
  · rw [moveTag, fromEntity, toEntity]
    exact exact_remove exact.entities found
  · exact sameView_moveTag_venues db _ _
  · exact sameView_moveTag_entities db _ _

end Writes

/-! ## Inventory requests -/

section Inventory

variable {ctx : Context} {db : Store}

theorem moves_of_createMove {β : Type} [Keyed β String] {body : JsonObject}
    {field existing : String} {table : Table β} {missing : Failure} {fromId toId value : String}
    (moved : createMove body field existing table missing = .ok (fromId, toId, value)) :
    Moves existing value fromId toId ∧
      (value = existing ∨ value = "" ∨ idExists table value = true) := by
  unfold createMove at moved
  split at moved
  · obtain ⟨moveTo, read, moved⟩ := bind_eq_ok_iff.mp moved
    split at moved
    · cases moved
    · rename_i present
      cases moved
      refine ⟨Or.inr ⟨rfl, rfl⟩, Or.inr ?_⟩
      by_cases blank : toId = ""
      · exact Or.inl blank
      · exact Or.inr (by simpa [blank] using present)
  · cases moved
    exact ⟨Or.inl ⟨rfl, rfl, rfl⟩, Or.inl rfl⟩

/-- An inline configuration is stored among the configurations. -/
theorem storeInlineConfiguration_eq_ok {configured : Store} {config : Option DeviceConfiguration}
    (stored : storeInlineConfiguration db config = .ok configured) :
    configured = { db with configurationDB := configured.configurationDB } := by
  unfold storeInlineConfiguration at stored
  split at stored
  · cases stored
    rfl
  · split at stored
    · cases stored
    · cases stored
      rfl

theorem ExactDevices.storeInlineConfiguration (exact : ExactDevices db) {configured : Store}
    {config : Option DeviceConfiguration}
    (stored : storeInlineConfiguration db config = .ok configured) : ExactDevices configured := by
  rw [storeInlineConfiguration_eq_ok stored]
  exact exact.congr (.refl _ _) (.refl _ _) (.refl _ _)

/-- A new tag names no unknown venue and no unknown entity. -/
theorem inventoryDoPostPlan_eq_ok {request : Request} {tag : InventoryTag}
    {config : Option DeviceConfiguration}
    (planned : inventoryDoPostPlan ctx db request = .ok (tag, config)) :
    (tag.venue = "" ∨ idExists db.venueDB tag.venue = true) ∧
      (tag.entity = "" ∨ idExists db.entityDB tag.entity = true) := by
  simp only [inventoryDoPostPlan, bind_eq_ok_iff, require_eq_ok_iff, Bool.and_eq_true] at planned
  obtain ⟨_, _, _, _, _, _, body, _, newObject, _, _, _, _, _, _, _, info, _, planned⟩ := planned
  obtain ⟨_, _, _, ⟨_, entityFound⟩, _, venueFound, planned⟩ := planned
  obtain ⟨_, _, _, _, _, _, _, _, _, _, _, _, inline, _, planned⟩ := planned
  obtain ⟨rfl, _⟩ := Prod.mk.inj (Except.ok.inj planned)
  constructor
  · simpa [emptyOrExists] using venueFound
  · simpa [emptyOrExists] using entityFound

theorem ExactDevices.inventoryDoPost (exact : ExactDevices db) (request : Request) :
    ExactDevices (inventoryDoPost ctx db request).store := by
  unfold Owprov.inventoryDoPost
  split
  · exact exact
  · rename_i tag config planned
    obtain ⟨venueFound, entityFound⟩ := inventoryDoPostPlan_eq_ok planned
    split
    · exact exact
    · rename_i configured stored
      have configured' := exact.storeInlineConfiguration stored
      have tables := storeInlineConfiguration_eq_ok stored
      split
      · exact configured'
      · rename_i inventoryDB inserted
        apply configured'.insert inserted rfl rfl rfl rfl
        · rw [tables]
          exact venueFound
        · rw [tables]
          exact entityFound

theorem removeMembership_of_missing {α : Type} [Keyed α String] {table : Table α}
    {parentId : String} (missing : table.get? parentId = none) (member : VectorMember α)
    (id : String) : removeMembership table member parentId id = table := by
  unfold removeMembership
  split
  · rfl
  · unfold manipulateVectorMember Table.modify
    rw [missing]

/-- A device that loses its subscriber stays where it is. -/
theorem ExactDevices.removeSubscriber (exact : ExactDevices db) {existing : InventoryTag}
    (member : existing ∈ db.inventoryDB.rows) (subscriber : String) :
    ExactDevices (removeSubscriber ctx db existing subscriber).store := by
  unfold Owprov.removeSubscriber
  split
  · dsimp only [Outcome.store_done]
    have found : db.inventoryDB.get? existing.info.id = some existing :=
      Table.get?_key_of_mem member
    apply exact.congr
    · exact Table.SameView.update found rfl
    · exact .refl _ _
    · rw [removeMembership_of_missing exact.noEntityId]
      exact .refl _ _
  · exact exact

theorem id_of_inventoryDoPutPlan {request : Request} {existing : InventoryTag} {update : TagUpdate}
    (planned : inventoryDoPutPlan ctx db request existing = .ok update) :
    update.updated.info.id = existing.info.id := by
  simp only [inventoryDoPutPlan, bind_eq_ok_iff, require_eq_ok_iff] at planned
  obtain ⟨body, read, newObject, _, _, _, _, _, _, _, info, updated, planned⟩ := planned
  obtain ⟨_, _, _, _, _, _, _, _, _, _, _, _, _, _, _, _, _, _, planned⟩ := planned
  obtain rfl := Except.ok.inj planned
  exact updateObjectInfo_eq_ok updated

theorem ExactDevices.inventoryDoPut (exact : ExactDevices db) (request : Request) :
    ExactDevices (inventoryDoPut ctx db request).store := by
  unfold Owprov.inventoryDoPut
  dsimp only
  split
  · exact exact
  · split
    · exact exact
    · rename_i existing found
      have member := getBy_mem found
      split
      · exact exact.removeSubscriber member _
      · split
        · exact exact
        · rename_i update planned
          obtain ⟨body, _, entityMove, venueMove⟩ := inventoryDoPutPlan_eq_ok planned
          obtain ⟨entityMoves, entityFound⟩ := moves_of_createMove entityMove
          obtain ⟨venueMoves, venueFound⟩ := moves_of_createMove venueMove
          have sameId := id_of_inventoryDoPutPlan planned
          unfold inventoryDoPutCommit
          split
          · exact exact
          · rename_i configured stored
            have configured' := exact.storeInlineConfiguration stored
            have tables := storeInlineConfiguration_eq_ok stored
            have foundKey : configured.inventoryDB.get? (key update.updated) = some existing := by
              rw [tables, show key update.updated = existing.info.id from sameId]
              exact Table.get?_key_of_mem member
            have moved : ExactDevices (moveTag
                { configured with inventoryDB := configured.inventoryDB.update update.updated }
                update.moves update.updated.info.id) := by
              apply configured'.update foundKey venueMoves entityMoves
              · rw [tables]
                exact venueFound
              · rw [tables]
                exact entityFound
            exact moved.congr (.refl _ _) (.refl _ _) (.refl _ _)

theorem inventoryDoDeletePlan_eq_ok {request : Request} {existing : InventoryTag}
    (planned : inventoryDoDeletePlan db request = .ok existing) :
    db.inventoryDB.get? existing.info.id = some existing := by
  unfold inventoryDoDeletePlan at planned
  dsimp only at planned
  split at planned
  · cases planned
  · rename_i found
    simp only [bind_eq_ok_iff, require_eq_ok_iff] at planned
    obtain ⟨_, _, _, _, planned⟩ := planned
    obtain rfl := Except.ok.inj planned
    exact Table.get?_key_of_mem (getBy_mem found)

theorem manageMembership_blank {α : Type} [Keyed α String] (table : Table α)
    (member : VectorMember α) (id : String) : manageMembership table member "" "" id = table := by
  simp [manageMembership, addMembership, removeMembership]

/-- Usages move without the tags and the lists of devices. -/
theorem ExactDevices.moveUsages (exact : ExactDevices db) {moves : TagMoves}
    (fromVenue : moves.fromVenue = "") (toVenue : moves.toVenue = "")
    (fromEntity : moves.fromEntity = "") (toEntity : moves.toEntity = "") (id : String) :
    ExactDevices (moveTag db moves id) := by
  have tags : Table.SameView InventoryTag.place db.inventoryDB (moveTag db moves id).inventoryDB :=
    .refl _ _
  have sameVenues : (moveTag db moves id).venueDB = db.venueDB := by
    rw [moveTag, fromVenue, toVenue]
    exact manageMembership_blank db.venueDB Venue.devicesMember id
  have sameEntities : (moveTag db moves id).entityDB = db.entityDB := by
    rw [moveTag, fromEntity, toEntity]
    exact manageMembership_blank db.entityDB Entity.devicesMember id
  apply exact.congr tags
  · rw [sameVenues]
    exact .refl _ _
  · rw [sameEntities]
    exact .refl _ _

theorem ExactDevices.inventoryDoDelete (exact : ExactDevices db) (request : Request) :
    ExactDevices (inventoryDoDelete db request).store := by
  unfold Owprov.inventoryDoDelete
  split
  · exact exact
  · rename_i existing planned
    have found := inventoryDoDeletePlan_eq_ok planned
    have unlisted : ExactDevices
        { db with
          venueDB := removeMembership db.venueDB Venue.configurationsMember existing.venue
            existing.info.id
          entityDB := removeMembership db.entityDB Entity.configurationsMember existing.entity
            existing.info.id
          configurationDB := releaseConfiguration db existing } :=
      exact.congr (.refl _ _) (sameView_removeMembership (fun _ _ => rfl) _ _)
        (sameView_removeMembership (fun _ _ => rfl) _ _)
    let usages : TagMoves :=
      { fromPolicy := existing.managementPolicy
        fromLocation := existing.location
        fromContact := existing.contact }
    have released : ExactDevices (moveTag _ usages existing.info.id) :=
      unlisted.moveUsages rfl rfl rfl rfl existing.info.id
    exact released.remove found rfl rfl rfl rfl

end Inventory

/-! ## Subscriber device requests -/

section SubDevices

variable {ctx : Context} {db db' : Store} {device : SubscriberDevice}

/-- Configurations and subscriber devices do not matter. -/
theorem ExactDevices.of_others (exact : ExactDevices db)
    (configurationDB : Table DeviceConfiguration) (subscriberDeviceDB : Table SubscriberDevice) :
    ExactDevices { db with
      configurationDB := configurationDB
      subscriberDeviceDB := subscriberDeviceDB } :=
  exact.congr (.refl _ _) (.refl _ _) (.refl _ _)

theorem resolvedVenueId_found (db : Store) (subscriberId : String) :
    resolvedVenueId db subscriberId = "" ∨
      idExists db.venueDB (resolvedVenueId db subscriberId) = true := by
  unfold resolvedVenueId
  cases found : getBy db.venueDB Venue.subscriber subscriberId with
  | none => exact Or.inl rfl
  | some venue =>
      exact Or.inr (idExists_iff.mpr ⟨venue, Table.get?_key_of_mem (getBy_mem found)⟩)

/-- The tag of a subscriber's device goes to the venue of the subscriber. -/
theorem ExactDevices.createInventoryRecord (exact : ExactDevices db) {newId : String}
    (entered : createInventoryRecord db device newId = some db') : ExactDevices db' := by
  have venueFound := resolvedVenueId_found db device.subscriberId
  unfold Owprov.createInventoryRecord at entered
  dsimp only at entered
  split at entered
  · rename_i existing bySerial
    obtain rfl := Option.some.inj entered
    let synced : InventoryTag :=
      { existing.ofDevice device with
        venue := if resolvedVenueId db device.subscriberId = "" then existing.venue
          else resolvedVenueId db device.subscriberId }
    have found : db.inventoryDB.get? (key synced) = some existing :=
      Table.get?_key_of_mem (getBy_mem bySerial)
    refine exact.update found ?_ ?_ ?_ ?_
    · exact Or.inr ⟨rfl, rfl⟩
    · exact Or.inl ⟨rfl, rfl, rfl⟩
    · by_cases homeless : resolvedVenueId db device.subscriberId = ""
      · exact Or.inl (if_pos homeless)
      · refine Or.inr ?_
        rw [show synced.venue = resolvedVenueId db device.subscriberId from if_neg homeless]
        exact venueFound
    · exact Or.inl rfl
  · obtain ⟨inventoryDB, inserted, rfl⟩ := Option.map_eq_some_iff.mp entered
    exact exact.insert inserted rfl rfl rfl rfl venueFound (Or.inl rfl)

theorem ExactDevices.startMonitoring (exact : ExactDevices db) :
    ExactDevices (startMonitoring ctx db device) := by
  unfold Owprov.startMonitoring
  split
  · exact exact
  · split
    · exact exact
    · split
      · exact exact
      · rename_i venue _ _ _ boardId _
        let watched (venue : Venue) : Venue := { venue with boards := venue.boards ++ [boardId] }
        have boards : Table.SameView Venue.devices db.venueDB
            (db.venueDB.modify venue.info.id watched) := by
          apply Table.SameView.modify
          · exact fun _ => rfl
          · exact fun _ => rfl
        exact exact.congr (.refl _ _) boards (.refl _ _)

theorem ExactDevices.stopMonitoring (exact : ExactDevices db)
    (stopped : stopMonitoring ctx db device = some db') : ExactDevices db' := by
  unfold Owprov.stopMonitoring at stopped
  split at stopped
  · cases stopped
    exact exact
  · rename_i venue found
    split at stopped
    · cases stopped
      exact exact
    · split at stopped
      · cases stopped
        have boards : Table.SameView Venue.devices db.venueDB
            (db.venueDB.update { venue with boards := [] }) := by
          have stored : db.venueDB.get? venue.info.id = some venue :=
            Table.get?_key_of_mem (getBy_mem found)
          exact Table.SameView.update stored rfl
        exact exact.congr (.refl _ _) boards (.refl _ _)
      · cases stopped

theorem ExactDevices.subDeviceDoPost (exact : ExactDevices db) (request : Request) :
    ExactDevices (subDeviceDoPost ctx db request).store := by
  unfold Owprov.subDeviceDoPost
  split
  · exact exact
  · split
    · exact exact
    · rename_i configured configuredDevice created
      have configured' : ExactDevices configured := by
        rcases createConfigurationRecord_eq_ok created with
          ⟨rfl, _⟩ | ⟨_, configurationDB, _, _, rfl, _⟩
        · exact exact
        · exact exact.of_others configurationDB db.subscriberDeviceDB
      split
      · exact configured'
      · dsimp only
        split
        · exact configured'
        · rename_i subscriberDeviceDB _
          have stored := configured'.of_others configured.configurationDB subscriberDeviceDB
          split
          · exact configured'.of_others configured.configurationDB _
          · rename_i entered isEntered
            exact (stored.createInventoryRecord isEntered).startMonitoring

theorem ExactDevices.syncInventory (exact : ExactDevices db) (body : JsonObject)
    (updated : Bool) : ExactDevices (syncInventory ctx db body device updated).store := by
  unfold Owprov.syncInventory
  split
  · split
    · exact exact
    · rename_i synced isSynced
      exact exact.createInventoryRecord isSynced
  · exact exact

theorem ExactDevices.storeSubDevice (exact : ExactDevices db) (put : SubDevicePut)
    (projected : SubscriberDevice) : ExactDevices (storeSubDevice db put projected) := by
  have stored := exact.of_others db.configurationDB (db.subscriberDeviceDB.update projected)
  unfold Owprov.storeSubDevice
  dsimp only
  split
  · rw [tables_cleanupSubscriberConfigurationRecord]
    exact stored.of_others _ _
  · exact stored

theorem ExactDevices.subDeviceDoPut (exact : ExactDevices db) (request : Request) :
    ExactDevices (subDeviceDoPut ctx db request).store := by
  unfold Owprov.subDeviceDoPut
  split
  · exact exact
  · split
    · exact exact
    · rename_i configured updated
      have configured' : ExactDevices configured.db := by
        rw [tables_updateConfigurationRecord updated]
        exact exact.of_others _ _
      dsimp only
      split
      · exact configured'
      · split
        · exact configured'.syncInventory _ _
        · exact (configured'.storeSubDevice _ _).syncInventory _ _

theorem ExactDevices.deleteInventoryForSubscriberDevice (exact : ExactDevices db) :
    ExactDevices (deleteInventoryForSubscriberDevice db device) := by
  unfold Owprov.deleteInventoryForSubscriberDevice
  split
  · rw [tables_cleanupSubscriberConfigurationRecord]
    exact exact.of_others _ db.subscriberDeviceDB
  · rename_i tag found
    dsimp only
    rw [tables_cleanups]
    let moves : TagMoves :=
      { fromPolicy := tag.managementPolicy
        fromLocation := tag.location
        fromContact := tag.contact
        fromEntity := tag.entity
        fromVenue := tag.venue }
    have stored : db.inventoryDB.get? tag.info.id = some tag :=
      Table.get?_key_of_mem (getBy_mem found)
    have removed : ExactDevices
        { moveTag db moves tag.info.id with
          inventoryDB := db.inventoryDB.delete tag.info.id } :=
      exact.remove stored rfl rfl rfl rfl
    exact removed.of_others _ _

theorem ExactDevices.subDeviceDoDelete (exact : ExactDevices db) (request : Request) :
    ExactDevices (subDeviceDoDelete ctx db request).store := by
  unfold Owprov.subDeviceDoDelete
  split
  · exact exact
  · rename_i existing _
    split
    · exact exact
    · rename_i stopped isStopped
      have deleted := (exact.stopMonitoring isStopped).of_others stopped.configurationDB
        (stopped.subscriberDeviceDB.delete existing.info.id)
      exact deleted.deleteInventoryForSubscriberDevice

end SubDevices

/-! ## New entities and venues -/

section Creations

variable {ctx : Context} {db : Store}

theorem autoCreateCreatorRole_inventoryDB (ctx : Context) (db : Store)
    (entityId venueId parentEntityId parentVenueId roleId : String) :
    (autoCreateCreatorRole ctx db entityId venueId parentEntityId parentVenueId
      roleId).1.inventoryDB = db.inventoryDB := by
  rcases autoCreateCreatorRole_cases ctx db entityId venueId parentEntityId parentVenueId roleId
    with unchanged | ⟨parent, rolesDB, _, _, linked⟩
  · rw [unchanged]
  · rw [linked]
    unfold linkCreatorRole
    split <;> rfl

theorem inventoryDB_storeInlineLocation {located : Store} {location : Option Location}
    (stored : storeInlineLocation db location = .ok located) :
    located.inventoryDB = db.inventoryDB := by
  unfold storeInlineLocation at stored
  split at stored
  · cases stored
    rfl
  · split at stored
    · cases stored
    · cases stored
      rfl

theorem devices_of_entityFromJson {obj : JsonObject} {entity : Entity}
    (read : Entity.fromJson obj = .ok entity) : obj.stringsField "devices" = .ok entity.devices := by
  unfold Entity.fromJson at read
  rw [orInvalid_eq_ok_iff] at read
  simp only [bind_eq_ok_iff] at read
  obtain ⟨_, _, _, _, _, _, _, _, _, _, devices, isDevices, read⟩ := read
  obtain ⟨_, _, _, _, _, _, _, _, _, _, _, _, read⟩ := read
  obtain rfl := Except.ok.inj read
  exact isDevices

theorem devices_of_venueFromJson {obj : JsonObject} {venue : Venue}
    (read : Venue.fromJson obj = .ok venue) : obj.stringsField "devices" = .ok venue.devices := by
  unfold Venue.fromJson at read
  rw [orInvalid_eq_ok_iff] at read
  simp only [bind_eq_ok_iff] at read
  obtain ⟨_, _, _, _, devices, isDevices, _, _, _, _, _, _, read⟩ := read
  obtain ⟨_, _, _, _, _, _, _, _, _, _, _, _, read⟩ := read
  obtain rfl := Except.ok.inj read
  exact isDevices

/-- The list of devices in a body is stored as it is. -/
theorem devices_of_entityDoPostPlan {request : Request} {entity : Entity}
    (planned : entityDoPostPlan ctx db request = .ok entity) :
    ∃ body, request.body = some body ∧ body.stringsField "devices" = .ok entity.devices := by
  simp only [entityDoPostPlan, bind_eq_ok_iff, require_eq_ok_iff] at planned
  obtain ⟨_, _, _, _, body, isBody, newEntity, read, _, _, info, _, _, _, planned⟩ := planned
  obtain ⟨_, _, _, _, _, _, planned⟩ := planned
  obtain rfl := Except.ok.inj planned
  have listed := devices_of_entityFromJson read
  exact ⟨body, body_of_jsonBody isBody, listed⟩

theorem devices_of_venueDoPostPlan {request : Request} {venue : Venue}
    {location : Option Location} (planned : venueDoPostPlan ctx db request = .ok (venue, location)) :
    ∃ body, request.body = some body ∧ body.stringsField "devices" = .ok venue.devices := by
  simp only [venueDoPostPlan, bind_eq_ok_iff, require_eq_ok_iff] at planned
  obtain ⟨_, _, body, isBody, newObject, read, _, _, info, _, _, _, planned⟩ := planned
  obtain ⟨_, _, entity, _, planned⟩ := planned
  obtain ⟨_, _, _, _, _, _, _, _, _, _, _, _, _, _, _, _, inline, _, planned⟩ := planned
  obtain ⟨rfl, _⟩ := Prod.mk.inj (Except.ok.inj planned)
  have listed := devices_of_venueFromJson read
  exact ⟨body, body_of_jsonBody isBody, listed⟩

/-- The body of a new entity or venue lists no devices. -/
def ListsNoDevices (request : Request) : Prop :=
  ∀ body, request.body = some body → body.stringsField "devices" = .ok []

/-- The context makes ids that no record has. -/
structure Context.Unused (ctx : Context) (db : Store) : Prop extends ctx.Fresh db where
  notLiteral : ∀ i, ctx.newId i ≠ "id"

theorem exact_insertOwner {α : Type} [Keyed α String] {table table' : Table α}
    {member : VectorMember α} {column : Column String String} {row : α}
    (exact : Exact column (memberships table member)) (inserted : table.insert? row = some table')
    (listed : member.get row = []) : Exact column (memberships table' member) := by
  rw [memberships_insert? inserted, listed]
  apply exact.insertOwner
  rw [memberships, Table.get?_key_of_insert? inserted, Option.map_none]

theorem get?_insert?_eq_none {α : Type} [Keyed α String] {table table' : Table α} {row : α}
    (inserted : table.insert? row = some table') {id : String} (missing : table.get? id = none)
    (apart : key row ≠ id) : table'.get? id = none := by
  rw [Table.get?_insert? inserted, if_neg (Ne.symm apart), missing]

/-- An entity without devices joins the others. -/
theorem ExactDevices.insertEntity (exact : ExactDevices db) {entity : Entity}
    {entityDB : Table Entity} (inserted : db.entityDB.insert? entity = some entityDB)
    (listed : entity.devices = []) (filled : entity.info.id ≠ "")
    (notLiteral : entity.info.id ≠ "id") : ExactDevices { db with entityDB := entityDB } where
  venues := exact.venues
  entities := exact_insertOwner exact.entities inserted listed
  venueNamed := exact.venueNamed
  entityNamed := get?_insert?_eq_none inserted exact.entityNamed filled
  noEntityId := get?_insert?_eq_none inserted exact.noEntityId notLiteral

/-- A venue without devices joins the others. -/
theorem ExactDevices.insertVenue (exact : ExactDevices db) {venue : Venue}
    {venueDB : Table Venue} (inserted : db.venueDB.insert? venue = some venueDB)
    (listed : venue.devices = []) (filled : venue.info.id ≠ "") :
    ExactDevices { db with venueDB := venueDB } where
  venues := exact_insertOwner exact.venues inserted listed
  entities := exact.entities
  venueNamed := get?_insert?_eq_none inserted exact.venueNamed filled
  entityNamed := exact.entityNamed
  noEntityId := exact.noEntityId

theorem ExactDevices.autoCreateCreatorRole (exact : ExactDevices db)
    (entityId venueId parentEntityId parentVenueId roleId : String) :
    ExactDevices (autoCreateCreatorRole ctx db entityId venueId parentEntityId parentVenueId
      roleId).1 := by
  apply exact.congr
  · rw [autoCreateCreatorRole_inventoryDB]
    exact .refl _ _
  · exact sameVenues_autoCreateCreatorRole ctx _ _ _ _ _ fun _ _ => rfl
  · exact sameEntities_autoCreateCreatorRole ctx _ _ _ _ _ fun _ _ => rfl

theorem entityDoPost_succeeds (fresh : ctx.Fresh db) {request : Request} {entity : Entity}
    {entityDB : Table Entity} (planned : entityDoPostPlan ctx db request = .ok entity)
    (inserted : db.entityDB.insert? entity = some entityDB) :
    (entityDoPost ctx db request).Succeeds := by
  have roleFresh : (linkNewEntity db entityDB entity).rolesDB.get? (ctx.newId 2) = none :=
    fresh.role 2
  unfold entityDoPost
  rw [planned]
  dsimp only
  rw [inserted]
  dsimp only
  rw [if_pos (autoCreateCreatorRole_snd roleFresh)]
  rfl

theorem ListsNoDevices.devices_eq_nil {request : Request} {devices : List String}
    (condition : ListsNoDevices request)
    (listed : ∃ body, request.body = some body ∧ body.stringsField "devices" = .ok devices) :
    devices = [] := by
  obtain ⟨body, isBody, isDevices⟩ := listed
  rw [condition body isBody] at isDevices
  exact (Except.ok.inj isDevices).symm

theorem ExactDevices.entityDoPost (exact : ExactDevices db) (unused : ctx.Unused db)
    {request : Request}
    (condition : (entityDoPost ctx db request).Succeeds → ListsNoDevices request) :
    ExactDevices (entityDoPost ctx db request).store := by
  rcases entityDoPost_cases unused.toFresh request with
    unchanged | ⟨entity, entityDB, planned, inserted, stored⟩
  · rw [unchanged]
    exact exact
  · have listed : entity.devices = [] :=
      (condition (entityDoPost_succeeds unused.toFresh planned inserted)).devices_eq_nil
        (devices_of_entityDoPostPlan planned)
    obtain ⟨id, _⟩ := entityDoPostPlan_eq_ok planned
    have opened : ExactDevices { db with entityDB := entityDB } := by
      apply exact.insertEntity inserted listed
      · rw [id]
        exact unused.filled 1
      · rw [id]
        exact unused.notLiteral 1
    have linked : ExactDevices (linkNewEntity db entityDB entity) := by
      apply opened.congr
      · exact .refl _ _
      · exact .refl _ _
      · exact sameView_manipulateVectorMember (fun _ _ => rfl) _ _ true
    rw [stored]
    exact linked.autoCreateCreatorRole _ _ _ _ _

theorem ExactDevices.venueDoPost (exact : ExactDevices db) (unused : ctx.Unused db)
    {request : Request}
    (condition : (venueDoPost ctx db request).Succeeds → ListsNoDevices request) :
    ExactDevices (venueDoPost ctx db request).store := by
  rcases venueDoPost_cases unused.toFresh request with
    unchanged | ⟨venue, location, located, venueDB, created⟩
  · rw [unchanged]
    exact exact
  · have succeeds : (Owprov.venueDoPost ctx db request).Succeeds := by
      rw [created.outcome]
      rfl
    have listed : venue.devices = [] :=
      (condition succeeds).devices_eq_nil (devices_of_venueDoPostPlan created.planned)
    obtain ⟨id, _⟩ := venueDoPostPlan_eq_ok created.planned
    have located' : ExactDevices located := by
      apply exact.congr
      · rw [inventoryDB_storeInlineLocation created.stored]
        exact .refl _ _
      · rw [(storeInlineLocation_eq_ok created.stored).1]
        exact .refl _ _
      · exact sameView_storeInlineLocation (fun _ _ => rfl) created.stored
    have opened : ExactDevices { located with venueDB := venueDB } := by
      apply located'.insertVenue created.inserted listed
      rw [id]
      exact unused.filled 0
    have moved : ExactDevices
        (moveVenue { located with venueDB := venueDB } venue.arrivals venue.info.id) := by
      apply opened.congr
      · exact .refl _ _
      · exact sameView_manageMembership (fun _ _ => rfl) _ _ _
      · exact sameView_manageMembership (fun _ _ => rfl) _ _ _
    rw [created.outcome, Outcome.store_done]
    exact moved.autoCreateCreatorRole _ _ _ _ _

end Creations

/-! ## Runs -/

/-- The requests that place devices, or that open a place for them. -/
inductive PlacingMethod where
  | inventoryPost
  | inventoryPut
  | inventoryDelete
  | subDevice (method : SubDeviceMethod)
  | entityPost
  | venuePost

/-- What the handler of a request does to the database. -/
def PlacingMethod.handle (ctx : Context) (db : Store) (request : Request) :
    PlacingMethod → Outcome
  | .inventoryPost => inventoryDoPost ctx db request
  | .inventoryPut => inventoryDoPut ctx db request
  | .inventoryDelete => inventoryDoDelete db request
  | .subDevice method => method.handle ctx db request
  | .entityPost => entityDoPost ctx db request
  | .venuePost => venueDoPost ctx db request

/-- The requests that open a place. -/
def PlacingMethod.Opens (method : PlacingMethod) : Prop :=
  method = .entityPost ∨ method = .venuePost

/-- One request, whoever sends it; an entity or a venue that is created meets a condition. -/
def PlacingStep (condition : Request → Prop) (db db' : Store) : Prop :=
  ∃ (method : PlacingMethod) (ctx : Context) (request : Request),
    ctx.Unused db ∧
      (method.Opens → (method.handle ctx db request).Succeeds → condition request) ∧
      db' = (method.handle ctx db request).store

/-- A device occurs once in the list of its venue and of its entity, and in no other list; the
lists hold devices. -/
structure DevicesPlaced (db : Store) : Prop where
  venue : ∀ venue ∈ db.venueDB.rows, ∀ tag ∈ db.inventoryDB.rows,
    venue.devices.count tag.info.id = if tag.venue = venue.info.id then 1 else 0
  entity : ∀ entity ∈ db.entityDB.rows, ∀ tag ∈ db.inventoryDB.rows,
    entity.devices.count tag.info.id = if tag.entity = entity.info.id then 1 else 0
  venueKnown : ∀ venue ∈ db.venueDB.rows, ∀ id ∈ venue.devices, idExists db.inventoryDB id = true
  entityKnown : ∀ entity ∈ db.entityDB.rows, ∀ id ∈ entity.devices,
    idExists db.inventoryDB id = true

section Lists

variable {α γ : Type} [Keyed α String] [Keyed γ String] {owner : Table α} {member : VectorMember α}
  {table : Table γ} {column : γ → String}

theorem count_of_exact (exact : Exact (owners table column) (memberships owner member))
    (named : owner.get? "" = none) {parent : α} (isParent : parent ∈ owner.rows) {row : γ}
    (isRow : row ∈ table.rows) :
    (member.get parent).count (key row) = if column row = key parent then 1 else 0 := by
  have found : owner.get? (key parent) = some parent := Table.get?_key_of_mem isParent
  have listed : memberships owner member (key parent) = some (member.get parent : Multiset String) :=
    memberships_eq_some_iff.mpr ⟨parent, found, rfl⟩
  have filled : key parent ≠ "" := by
    intro blank
    rw [blank, named] at found
    cases found
  have counted := exact.count _ _ listed (key row)
  rw [Multiset.coe_count] at counted
  rw [counted]
  have owned : owners table column (key row) = some (key parent) ↔ column row = key parent := by
    rw [owners_eq_some_iff]
    constructor
    · rintro ⟨row', found', same, _⟩
      obtain rfl := Option.some.inj ((Table.get?_key_of_mem isRow).symm.trans found')
      exact same
    · intro same
      exact ⟨row, Table.get?_key_of_mem isRow, same, filled⟩
  simp only [owned]

theorem exists_of_exact (exact : Exact (owners table column) (memberships owner member))
    {parent : α} (isParent : parent ∈ owner.rows) {id : String} (listed : id ∈ member.get parent) :
    idExists table id = true := by
  have isList : memberships owner member (key parent) = some (member.get parent : Multiset String) :=
    memberships_eq_some_iff.mpr ⟨parent, Table.get?_key_of_mem isParent, rfl⟩
  have counted := exact.count _ _ isList id
  rw [Multiset.coe_count] at counted
  have positive : 0 < (member.get parent).count id := List.count_pos_iff.mpr listed
  by_cases owned : owners table column id = some (key parent)
  · obtain ⟨row, found, _⟩ := owners_eq_some_iff.mp owned
    exact idExists_iff.mpr ⟨row, found⟩
  · rw [if_neg owned] at counted
    omega

end Lists

theorem ExactDevices.placed {db : Store} (exact : ExactDevices db) : DevicesPlaced db where
  venue _ isVenue _ isTag := count_of_exact exact.venues exact.venueNamed isVenue isTag
  entity _ isEntity _ isTag := count_of_exact exact.entities exact.entityNamed isEntity isTag
  venueKnown _ isVenue _ listed := exists_of_exact exact.venues isVenue listed
  entityKnown _ isEntity _ listed := exists_of_exact exact.entities isEntity listed

theorem ExactDevices.step {db db' : Store} (exact : ExactDevices db)
    (isStep : PlacingStep ListsNoDevices db db') : ExactDevices db' := by
  obtain ⟨method, ctx, request, unused, condition, rfl⟩ := isStep
  cases method with
  | inventoryPost => exact exact.inventoryDoPost request
  | inventoryPut => exact exact.inventoryDoPut request
  | inventoryDelete => exact exact.inventoryDoDelete request
  | subDevice method =>
      cases method with
      | post => exact exact.subDeviceDoPost request
      | put => exact exact.subDeviceDoPut request
      | delete => exact exact.subDeviceDoDelete request
  | entityPost => exact exact.entityDoPost unused (condition (Or.inl rfl))
  | venuePost => exact exact.venueDoPost unused (condition (Or.inr rfl))

/-- A request that enters a device at a venue. -/
def enterRequest (venueId : String) : Request where
  method := .post
  uri := "/api/v1/inventory/aabbccddeeff"
  bindings := [("serialnumber", "aabbccddeeff")]
  body := some [("name", .str "AP"), ("serialNumber", .str "aabbccddeeff"),
    ("deviceType", .str "cig_wf660"), ("devClass", .str "any"), ("venue", .str venueId)]

/-- A request that moves the device from its venue to an entity. -/
def carryRequest (entityId : String) : Request where
  method := .put
  uri := "/api/v1/inventory/aabbccddeeff"
  bindings := [("serialnumber", "aabbccddeeff")]
  body := some [("devClass", .str "any"), ("entity", .str entityId), ("venue", .str "")]

theorem rootContext_unused {length : ℕ} {db : Store} (fresh : (rootContext length).Fresh db)
    (long : 2 ≤ length) : (rootContext length).Unused db where
  toFresh := fresh
  notLiteral i equal := by
    have lengths := congrArg String.length equal
    rw [show (rootContext length).newId i = unaryId (length + i + 1) from rfl, length_unaryId,
      show "id".length = 2 from rfl] at lengths
    omega

/-- The database with a device at the venue. -/
def equippedVenue : Store :=
  (inventoryDoPost (rootContext 30) oneVenue (enterRequest (unaryId 21))).store

theorem equippedVenue_reached :
    Reachable ServiceStart (PlacingStep ListsNoDevices) equippedVenue := by
  have opened : PlacingStep ListsNoDevices initialStore
      (EntityMethod.entityPost.handle (rootContext 14) initialStore entityRequest).store :=
    ⟨.entityPost, rootContext 14, entityRequest,
      rootContext_unused (rootContext_fresh (by decide)) (by omega),
      by rintro _ _ body ⟨⟩; rfl, rfl⟩
  have built : PlacingStep ListsNoDevices
      (EntityMethod.entityPost.handle (rootContext 14) initialStore entityRequest).store oneVenue :=
    ⟨.venuePost, rootContext 20, venueRequest "North",
      rootContext_unused (rootContext_fresh (by decide)) (by omega),
      by rintro _ _ body ⟨⟩; rfl, rfl⟩
  have entered : PlacingStep ListsNoDevices oneVenue equippedVenue :=
    ⟨.inventoryPost, rootContext 30, enterRequest (unaryId 21),
      rootContext_unused (rootContext_fresh (by decide)) (by omega),
      by rintro (⟨⟨⟩⟩ | ⟨⟨⟩⟩), rfl⟩
  exact .step (.step (.step (.start .bare) opened) built) entered

end Owprov
