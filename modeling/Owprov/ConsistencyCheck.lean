import Owprov.Lib.PagedRepairs
import Owprov.OperatorLinks

/-!
# The consistency check

When the service starts, `Storage::ConsistencyCheck` goes through six tables.  It takes what does
not exist out of the lists of venues and entities and out of the tags of the inventory, replaces
the old rule `yes` by `inherit`, and lets operators and entities point at each other.
-/

namespace Owprov

open PagedRepairs RowTable

/-! ## The code -/

section Repaired

variable {α : Type} [Keyed α String]

/-- The ids of a list that exist. -/
def keepExisting (table : Table α) (ids : List String) : List String :=
  ids.filter (idExists table)

/-- A list has an id that does not exist. -/
def missesSome (table : Table α) (ids : List String) : Bool :=
  ids.any fun id => !idExists table id

/-- A reference to a record that does not exist. -/
def isDangling (table : Table α) (id : String) : Bool :=
  id != "" && !idExists table id

def clearDangling (table : Table α) (id : String) : String :=
  if isDangling table id then "" else id

end Repaired

/-- `yes` is no rule on radio management any more. -/
def renewRules (rules : DeviceRules) : DeviceRules :=
  if rules.rrm = "yes" then { rules with rrm := "inherit" } else rules

def repairedVenue (db : Store) (venue : Venue) : Venue :=
  { venue with
    devices := keepExisting db.inventoryDB venue.devices
    deviceRules := renewRules venue.deviceRules }

/-- `FixVenueDevices`. -/
def fixVenueDevices (db : Store) (venue : Venue) : Store :=
  if missesSome db.inventoryDB venue.devices || venue.deviceRules.rrm == "yes" then
    { db with venueDB := db.venueDB.update (repairedVenue db venue) }
  else
    db

def repairedEntity (db : Store) (entity : Entity) : Entity :=
  { entity with
    devices := keepExisting db.inventoryDB entity.devices
    contacts := keepExisting db.contactDB entity.contacts
    locations := keepExisting db.locationDB entity.locations
    venues := keepExisting db.venueDB entity.venues
    «variables» := keepExisting db.variablesDB entity.variables
    deviceRules := renewRules entity.deviceRules }

/-- `FixEntity`. -/
def fixEntity (db : Store) (entity : Entity) : Store :=
  if missesSome db.inventoryDB entity.devices || missesSome db.contactDB entity.contacts ||
      missesSome db.locationDB entity.locations || missesSome db.venueDB entity.venues ||
      missesSome db.variablesDB entity.variables || entity.deviceRules.rrm == "yes" then
    { db with entityDB := db.entityDB.update (repairedEntity db entity) }
  else
    db

def repairedTag (db : Store) (tag : InventoryTag) : InventoryTag :=
  { tag with
    venue := clearDangling db.venueDB tag.venue
    entity := clearDangling db.entityDB tag.entity
    location := clearDangling db.locationDB tag.location
    contact := clearDangling db.contactDB tag.contact
    deviceRules := renewRules tag.deviceRules }

/-- `FixInventory`. -/
def fixInventory (db : Store) (tag : InventoryTag) : Store :=
  if isDangling db.venueDB tag.venue || isDangling db.entityDB tag.entity ||
      isDangling db.locationDB tag.location || isDangling db.contactDB tag.contact ||
      tag.deviceRules.rrm == "yes" then
    { db with inventoryDB := db.inventoryDB.update (repairedTag db tag) }
  else
    db

def repairedConfiguration (config : DeviceConfiguration) : DeviceConfiguration :=
  { config with deviceRules := renewRules config.deviceRules }

/-- `FixConfiguration`. -/
def fixConfiguration (db : Store) (config : DeviceConfiguration) : Store :=
  if config.deviceRules.rrm == "yes" then
    { db with configurationDB := db.configurationDB.update (repairedConfiguration config) }
  else
    db

def repairedSubscriber (device : SubscriberDevice) : SubscriberDevice :=
  { device with deviceRules := renewRules device.deviceRules }

/-- `FixSubscriber`. -/
def fixSubscriber (db : Store) (device : SubscriberDevice) : Store :=
  if device.deviceRules.rrm == "yes" then
    { db with subscriberDeviceDB := db.subscriberDeviceDB.update (repairedSubscriber device) }
  else
    db

/-- `Iterate` over a table in batches of 50; none of the visitors stops it. -/
def iterateRows {α : Type} [Keyed α String] (table : Store → Table α) (visit : Store → α → Store)
    (fuel : ℕ) (db : Store) : Option Store :=
  PagedRepairs.iterate (fun db => (table db).rows) visit 50 fuel 0 db

/-- `Storage::ConsistencyCheck`. -/
def consistencyCheck (fuel : ℕ) (db : Store) : Option Store := do
  let db ← iterateRows Store.venueDB fixVenueDevices fuel db
  let db ← iterateRows Store.entityDB fixEntity fuel db
  let db ← iterateRows Store.inventoryDB fixInventory fuel db
  let db ← iterateRows Store.configurationDB fixConfiguration fuel db
  let db ← iterateRows Store.operatorDB fixOperator fuel db
  iterateRows Store.subscriberDeviceDB fixSubscriber fuel db

/-! ## What is repaired -/

section Lists

variable {α : Type} [Keyed α String] {table : Table α}

theorem keepExisting_eq_self_iff {ids : List String} :
    keepExisting table ids = ids ↔ missesSome table ids = false := by
  simp [keepExisting, missesSome, List.filter_eq_self]

theorem clearDangling_eq_self_iff {id : String} :
    clearDangling table id = id ↔ isDangling table id = false := by
  unfold clearDangling
  cases dangling : isDangling table id with
  | false => simp
  | true =>
      have filled : id ≠ "" := by
        rintro rfl
        simp [isDangling] at dangling
      simp [filled.symm]

theorem exists_of_mem_keepExisting {ids : List String} {id : String}
    (member : id ∈ keepExisting table ids) : idExists table id = true :=
  (List.mem_filter.mp member).2

theorem exists_of_clearDangling {id : String} (filled : clearDangling table id ≠ "") :
    idExists table (clearDangling table id) = true := by
  unfold clearDangling at filled ⊢
  split
  case isTrue dangling =>
    rw [if_pos dangling] at filled
    exact absurd rfl filled
  case isFalse sound =>
    rw [if_neg sound] at filled
    simpa [isDangling, filled] using sound

end Lists

theorem renewRules_eq_self_iff {rules : DeviceRules} :
    renewRules rules = rules ↔ (rules.rrm == "yes") = false := by
  unfold renewRules
  cases renewed : rules.rrm == "yes" with
  | false =>
      rw [beq_eq_false_iff_ne] at renewed
      simp [renewed]
  | true =>
      rw [beq_iff_eq] at renewed
      rw [if_pos renewed]
      refine iff_of_false (fun same => ?_) Bool.noConfusion
      have rule : "inherit" = rules.rrm := congrArg DeviceRules.rrm same
      rw [renewed] at rule
      exact absurd rule (by decide)

theorem renewRules_renewRules (rules : DeviceRules) :
    renewRules (renewRules rules) = renewRules rules := by
  rw [renewRules_eq_self_iff, renewRules]
  split
  case isTrue old => rfl
  case isFalse new => simpa using new

theorem repairedVenue_eq_self_iff {db : Store} {venue : Venue} :
    repairedVenue db venue = venue ↔
      (missesSome db.inventoryDB venue.devices || venue.deviceRules.rrm == "yes") = false := by
  rw [Bool.or_eq_false_iff, ← keepExisting_eq_self_iff, ← renewRules_eq_self_iff]
  constructor
  · intro same
    exact ⟨congrArg Venue.devices same, congrArg Venue.deviceRules same⟩
  · rintro ⟨devices, rules⟩
    rw [repairedVenue, devices, rules]

theorem repairedEntity_eq_self_iff {db : Store} {entity : Entity} :
    repairedEntity db entity = entity ↔
      (missesSome db.inventoryDB entity.devices || missesSome db.contactDB entity.contacts ||
        missesSome db.locationDB entity.locations || missesSome db.venueDB entity.venues ||
        missesSome db.variablesDB entity.variables || entity.deviceRules.rrm == "yes") = false := by
  simp only [Bool.or_eq_false_iff, ← keepExisting_eq_self_iff, ← renewRules_eq_self_iff]
  constructor
  · intro same
    exact ⟨⟨⟨⟨⟨congrArg Entity.devices same, congrArg Entity.contacts same⟩,
      congrArg Entity.locations same⟩, congrArg Entity.venues same⟩,
      congrArg Entity.variables same⟩, congrArg Entity.deviceRules same⟩
  · rintro ⟨⟨⟨⟨⟨devices, contacts⟩, locations⟩, venues⟩, blocks⟩, rules⟩
    rw [repairedEntity, devices, contacts, locations, venues, blocks, rules]

theorem repairedTag_eq_self_iff {db : Store} {tag : InventoryTag} :
    repairedTag db tag = tag ↔
      (isDangling db.venueDB tag.venue || isDangling db.entityDB tag.entity ||
        isDangling db.locationDB tag.location || isDangling db.contactDB tag.contact ||
        tag.deviceRules.rrm == "yes") = false := by
  simp only [Bool.or_eq_false_iff, ← clearDangling_eq_self_iff, ← renewRules_eq_self_iff]
  constructor
  · intro same
    exact ⟨⟨⟨⟨congrArg InventoryTag.venue same, congrArg InventoryTag.entity same⟩,
      congrArg InventoryTag.location same⟩, congrArg InventoryTag.contact same⟩,
      congrArg InventoryTag.deviceRules same⟩
  · rintro ⟨⟨⟨⟨venue, entity⟩, location⟩, contact⟩, rules⟩
    rw [repairedTag, venue, entity, location, contact, rules]

theorem repairedConfiguration_eq_self_iff {config : DeviceConfiguration} :
    repairedConfiguration config = config ↔ (config.deviceRules.rrm == "yes") = false := by
  rw [← renewRules_eq_self_iff]
  constructor
  · exact congrArg DeviceConfiguration.deviceRules
  · intro rules
    rw [repairedConfiguration, rules]

theorem repairedSubscriber_eq_self_iff {device : SubscriberDevice} :
    repairedSubscriber device = device ↔ (device.deviceRules.rrm == "yes") = false := by
  rw [← renewRules_eq_self_iff]
  constructor
  · exact congrArg SubscriberDevice.deviceRules
  · intro rules
    rw [repairedSubscriber, rules]

/-! ## Five of the passes -/

theorem venuePass : Repairs Store.venueDB (fun db venueDB => { db with venueDB }) repairedVenue
    fixVenueDevices :=
  .of_flag ⟨fun _ _ => rfl, fun _ _ _ => rfl, fun _ => rfl⟩ (fun _ _ => rfl) (fun _ _ => rfl)
    (fun _ _ => repairedVenue_eq_self_iff) fun _ _ => rfl

theorem entityPass : Repairs Store.entityDB (fun db entityDB => { db with entityDB })
    repairedEntity fixEntity :=
  .of_flag ⟨fun _ _ => rfl, fun _ _ _ => rfl, fun _ => rfl⟩ (fun _ _ => rfl) (fun _ _ => rfl)
    (fun _ _ => repairedEntity_eq_self_iff) fun _ _ => rfl

theorem inventoryPass : Repairs Store.inventoryDB (fun db inventoryDB => { db with inventoryDB })
    repairedTag fixInventory :=
  .of_flag ⟨fun _ _ => rfl, fun _ _ _ => rfl, fun _ => rfl⟩ (fun _ _ => rfl) (fun _ _ => rfl)
    (fun _ _ => repairedTag_eq_self_iff) fun _ _ => rfl

theorem configurationPass : Repairs Store.configurationDB
    (fun db configurationDB => { db with configurationDB }) (fun _ => repairedConfiguration)
    fixConfiguration :=
  .of_flag ⟨fun _ _ => rfl, fun _ _ _ => rfl, fun _ => rfl⟩ (fun _ _ => rfl) (fun _ _ => rfl)
    (fun _ _ => repairedConfiguration_eq_self_iff) fun _ _ => rfl

theorem subscriberPass : Repairs Store.subscriberDeviceDB
    (fun db subscriberDeviceDB => { db with subscriberDeviceDB }) (fun _ => repairedSubscriber)
    fixSubscriber :=
  .of_flag ⟨fun _ _ => rfl, fun _ _ _ => rfl, fun _ => rfl⟩ (fun _ _ => rfl) (fun _ _ => rfl)
    (fun _ _ => repairedSubscriber_eq_self_iff) fun _ _ => rfl

end Owprov
