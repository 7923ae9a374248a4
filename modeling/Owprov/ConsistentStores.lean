import Owprov.OperatorClaims

/-!
# Stores after the consistency check

All visits look up the same ids, since no repair adds or removes a row.  The repaired rows are
fixed points of the repairs, and a second check changes nothing.
-/

namespace Owprov

open PagedRepairs RowTable

/-! ## The whole check -/

theorem keepExisting_keepExisting {α : Type} [Keyed α String] (table : Table α)
    (ids : List String) : keepExisting table (keepExisting table ids) = keepExisting table ids := by
  rw [keepExisting, List.filter_eq_self]
  exact fun id member => exists_of_mem_keepExisting member

theorem clearDangling_clearDangling {α : Type} [Keyed α String] (table : Table α) (id : String) :
    clearDangling table (clearDangling table id) = clearDangling table id := by
  rw [clearDangling_eq_self_iff]
  by_cases filled : clearDangling table id = ""
  · rw [filled]
    rfl
  · rw [isDangling, exists_of_clearDangling filled]
    exact Bool.and_false _

theorem repairedVenue_repairedVenue (db : Store) (venue : Venue) :
    repairedVenue db (repairedVenue db venue) = repairedVenue db venue := by
  unfold repairedVenue
  dsimp only
  rw [keepExisting_keepExisting, renewRules_renewRules]

theorem repairedEntity_repairedEntity (db : Store) (entity : Entity) :
    repairedEntity db (repairedEntity db entity) = repairedEntity db entity := by
  unfold repairedEntity
  dsimp only
  simp only [keepExisting_keepExisting, renewRules_renewRules]

theorem repairedTag_repairedTag (db : Store) (tag : InventoryTag) :
    repairedTag db (repairedTag db tag) = repairedTag db tag := by
  unfold repairedTag
  dsimp only
  simp only [clearDangling_clearDangling, renewRules_renewRules]

theorem clearDangling_congr {α : Type} [Keyed α String] {table table' : Table α}
    (same : idExists table' = idExists table) (id : String) :
    clearDangling table' id = clearDangling table id := by
  have sameFlag : isDangling table' id = isDangling table id := by
    rw [isDangling, isDangling, same]
  rw [clearDangling, clearDangling, sameFlag]

/-- The same ids exist in the tables that lists and tags refer to. -/
structure SameIds (db db' : Store) : Prop where
  inventory : idExists db'.inventoryDB = idExists db.inventoryDB
  venue : idExists db'.venueDB = idExists db.venueDB
  entity : idExists db'.entityDB = idExists db.entityDB
  contact : idExists db'.contactDB = idExists db.contactDB
  location : idExists db'.locationDB = idExists db.locationDB
  «variables» : idExists db'.variablesDB = idExists db.variablesDB

section SameIds

variable {db db' : Store} (same : SameIds db db')
include same

theorem SameIds.repairedVenue : repairedVenue db' = repairedVenue db := by
  funext venue
  simp only [Owprov.repairedVenue, keepExisting, same.inventory]

theorem SameIds.repairedEntity : repairedEntity db' = repairedEntity db := by
  funext entity
  simp only [Owprov.repairedEntity, keepExisting, same.inventory, same.contact, same.location,
    same.venue, same.variables]

theorem SameIds.repairedTag : repairedTag db' = repairedTag db := by
  funext tag
  rw [Owprov.repairedTag, Owprov.repairedTag, clearDangling_congr same.venue,
    clearDangling_congr same.entity, clearDangling_congr same.location,
    clearDangling_congr same.contact]

end SameIds

theorem idExists_mapRows {α : Type} [Keyed α String] (table : Table α) (repair : α → α)
    (keeps : ∀ row, key (repair row) = key row) :
    idExists (mapRows table repair keeps) = idExists table := by
  funext id
  rw [idExists, idExists, get?_mapRows, Option.isSome_map]

def repairedEntities (db : Store) : Table Entity :=
  mapRows db.entityDB (repairedEntity db) fun _ => rfl

/-- The operators and their entities, once the entities are repaired. -/
def operatorLinks (db : Store) : List (Operator × Option String) :=
  linkOperators (repairedEntities db) db.operatorDB.rows

/-- What the check leaves. -/
def checkedStore (db : Store) : Store :=
  { db with
    venueDB := mapRows db.venueDB (repairedVenue db) fun _ => rfl
    entityDB := assignAll pointTo (claims (operatorLinks db)) (repairedEntities db)
    inventoryDB := mapRows db.inventoryDB (repairedTag db) fun _ => rfl
    configurationDB := mapRows db.configurationDB repairedConfiguration fun _ => rfl
    operatorDB := settledOperators (repairedEntities db) db.operatorDB
    subscriberDeviceDB := mapRows db.subscriberDeviceDB repairedSubscriber fun _ => rfl }

theorem sameIds_checkedStore (db : Store) : SameIds db (checkedStore db) where
  inventory := idExists_mapRows db.inventoryDB (repairedTag db) fun _ => rfl
  venue := idExists_mapRows db.venueDB (repairedVenue db) fun _ => rfl
  entity := by
    funext id
    have repaired := idExists_mapRows db.entityDB (repairedEntity db) fun _ => rfl
    exact (idExists_assigned id).trans (congrFun repaired id)
  contact := rfl
  location := rfl
  «variables» := rfl

theorem consistencyCheck_eq {db : Store} {fuel : ℕ}
    (venues : db.venueDB.rows.length < 50 * fuel) (entities : db.entityDB.rows.length < 50 * fuel)
    (tags : db.inventoryDB.rows.length < 50 * fuel)
    (configurations : db.configurationDB.rows.length < 50 * fuel)
    (operators : db.operatorDB.rows.length < 50 * fuel)
    (subscribers : db.subscriberDeviceDB.rows.length < 50 * fuel) :
    consistencyCheck fuel db = some (checkedStore db) := by
  let first : Store :=
    { db with venueDB := mapRows db.venueDB (repairedVenue db) fun _ => rfl }
  let second : Store := { first with entityDB := repairedEntities db }
  let third : Store :=
    { second with inventoryDB := mapRows db.inventoryDB (repairedTag db) fun _ => rfl }
  let fourth : Store :=
    { third with
      configurationDB := mapRows db.configurationDB repairedConfiguration fun _ => rfl }
  have firstIds : SameIds db first :=
    ⟨rfl, idExists_mapRows db.venueDB (repairedVenue db) fun _ => rfl, rfl, rfl, rfl, rfl⟩
  have secondIds : SameIds db second :=
    ⟨rfl, firstIds.venue, idExists_mapRows db.entityDB (repairedEntity db) fun _ => rfl, rfl, rfl,
      rfl⟩
  have venuesDone : iterateRows Store.venueDB fixVenueDevices fuel db = some first :=
    venuePass.iterate venues
  have entitiesDone : iterateRows Store.entityDB fixEntity fuel first = some second := by
    have repaired : iterateRows Store.entityDB fixEntity fuel first =
        some { first with
          entityDB := mapRows first.entityDB (repairedEntity first) fun _ => rfl } :=
      entityPass.iterate entities
    simp only [firstIds.repairedEntity] at repaired
    exact repaired
  have tagsDone : iterateRows Store.inventoryDB fixInventory fuel second = some third := by
    have repaired : iterateRows Store.inventoryDB fixInventory fuel second =
        some { second with
          inventoryDB := mapRows second.inventoryDB (repairedTag second) fun _ => rfl } :=
      inventoryPass.iterate tags
    simp only [secondIds.repairedTag] at repaired
    exact repaired
  have configurationsDone : iterateRows Store.configurationDB fixConfiguration fuel third =
      some fourth := configurationPass.iterate configurations
  have operatorsDone : iterateRows Store.operatorDB fixOperator fuel fourth = _ :=
    operatorPass operators
  unfold consistencyCheck
  simp only [Option.bind_eq_bind]
  rw [venuesDone, Option.bind_some, entitiesDone, Option.bind_some, tagsDone, Option.bind_some,
    configurationsDone, Option.bind_some, operatorsDone, Option.bind_some]
  exact subscriberPass.iterate subscribers

theorem repairedEntity_assignedEntity (db : Store) (assignments : List (String × String))
    (entity : Entity) :
    repairedEntity db (assignedEntity assignments entity) =
      assignedEntity assignments (repairedEntity db entity) := by
  unfold assignedEntity
  rw [show key (repairedEntity db entity) = key entity from rfl]
  cases lastAssigned assignments (key entity) with
  | none => rfl
  | some operatorId => rfl

theorem checkedStore_checkedStore (db : Store) :
    checkedStore (checkedStore db) = checkedStore db := by
  have same := sameIds_checkedStore db
  have venues : mapRows (checkedStore db).venueDB (repairedVenue (checkedStore db)) (fun _ => rfl) =
      (checkedStore db).venueDB := by
    apply mapRows_eq_self
    intro repaired member
    obtain ⟨venue, _, rfl⟩ := List.mem_map.mp member
    rw [same.repairedVenue, repairedVenue_repairedVenue]
  have tags : mapRows (checkedStore db).inventoryDB (repairedTag (checkedStore db)) (fun _ => rfl) =
      (checkedStore db).inventoryDB := by
    apply mapRows_eq_self
    intro repaired member
    obtain ⟨tag, _, rfl⟩ := List.mem_map.mp member
    rw [same.repairedTag, repairedTag_repairedTag]
  have configurations : mapRows (checkedStore db).configurationDB repairedConfiguration
      (fun _ => rfl) = (checkedStore db).configurationDB := by
    apply mapRows_eq_self
    intro repaired member
    obtain ⟨config, _, rfl⟩ := List.mem_map.mp member
    rw [repairedConfiguration, repairedConfiguration, renewRules_renewRules]
  have subscribers : mapRows (checkedStore db).subscriberDeviceDB repairedSubscriber
      (fun _ => rfl) = (checkedStore db).subscriberDeviceDB := by
    apply mapRows_eq_self
    intro repaired member
    obtain ⟨device, _, rfl⟩ := List.mem_map.mp member
    rw [repairedSubscriber, repairedSubscriber, renewRules_renewRules]
  have entities : repairedEntities (checkedStore db) = (checkedStore db).entityDB := by
    apply mapRows_eq_self
    intro pointed member
    rw [checkedStore, rows_assigned] at member
    obtain ⟨repaired, isRepaired, rfl⟩ := List.mem_map.mp member
    obtain ⟨entity, _, rfl⟩ := List.mem_map.mp isRepaired
    rw [same.repairedEntity, repairedEntity_assignedEntity, repairedEntity_repairedEntity]
  obtain ⟨pointed, operators⟩ := settledOperators_again (repairedEntities db) db.operatorDB
  have links : operatorLinks (checkedStore db) =
      linkOperators (checkedStore db).entityDB (checkedStore db).operatorDB.rows := by
    rw [operatorLinks, entities]
  conv_lhs => rw [checkedStore]
  rw [venues, entities, tags, configurations, subscribers, links]
  have pointedAgain : assignAll pointTo (claims (linkOperators (checkedStore db).entityDB
      (checkedStore db).operatorDB.rows)) (checkedStore db).entityDB = (checkedStore db).entityDB :=
    pointed
  have operatorsAgain : settledOperators (checkedStore db).entityDB (checkedStore db).operatorDB =
      (checkedStore db).operatorDB := operators
  rw [pointedAgain, operatorsAgain]

/-! ## What the check promises -/

/-- Lists and tags name what exists; an operator and its entity point at each other, unless the
entity is the root, or another operator names it too. -/
structure ConsistentStore (db : Store) : Prop where
  venues : ∀ venue ∈ db.venueDB.rows, ∀ id ∈ venue.devices, idExists db.inventoryDB id = true
  entities : ∀ entity ∈ db.entityDB.rows,
    (∀ id ∈ entity.devices, idExists db.inventoryDB id = true) ∧
    (∀ id ∈ entity.contacts, idExists db.contactDB id = true) ∧
    (∀ id ∈ entity.locations, idExists db.locationDB id = true) ∧
    (∀ id ∈ entity.venues, idExists db.venueDB id = true) ∧
    ∀ id ∈ entity.variables, idExists db.variablesDB id = true
  tags : ∀ tag ∈ db.inventoryDB.rows,
    (tag.venue ≠ "" → idExists db.venueDB tag.venue = true) ∧
    (tag.entity ≠ "" → idExists db.entityDB tag.entity = true) ∧
    (tag.location ≠ "" → idExists db.locationDB tag.location = true) ∧
    (tag.contact ≠ "" → idExists db.contactDB tag.contact = true)
  defaultOperators : ∀ operator ∈ db.operatorDB.rows,
    operator.defaultOperator = true → operator.entityId = rootUUID
  operators : ∀ operator ∈ db.operatorDB.rows, operator.defaultOperator = false →
    ∀ entity, linkedEntity db operator = some entity →
      operator.entityId = entity.info.id ∧
      (entity.info.id ≠ rootUUID → ∃ other ∈ db.operatorDB.rows, other.defaultOperator = false ∧
        other.entityId = entity.info.id ∧ entity.operatorId = other.info.id)

section ConsistentStore

variable {db : Store}

theorem mem_claims {linked : List (Operator × Option String)} {claim : String × String}
    (claimed : claim ∈ claims linked) :
    ∃ pair ∈ linked, pair.2 = some claim.1 ∧ claim.2 = pair.1.info.id := by
  obtain ⟨pair, member, mine⟩ := List.mem_flatMap.mp claimed
  obtain ⟨link, _, owner⟩ := mem_claimedEntities mine
  exact ⟨pair, member, link, owner⟩

theorem mem_claims_of_link {linked : List (Operator × Option String)}
    {pair : Operator × Option String} {id : String} (member : pair ∈ linked)
    (link : pair.2 = some id) (differs : id ≠ rootUUID) :
    (id, pair.1.info.id) ∈ claims linked := by
  refine List.mem_flatMap.mpr ⟨pair, member, ?_⟩
  simp [claimedEntities, link, Option.filter, differs]

/-- An entity that is claimed points at an operator that claims it. -/
theorem claimed_of_mem {assignments : List (String × String)} {entityDB : Table Entity}
    {entity : Entity} {operatorId : String}
    (member : entity ∈ (assignAll pointTo assignments entityDB).rows)
    (claimed : (entity.info.id, operatorId) ∈ assignments) :
    (entity.info.id, entity.operatorId) ∈ assignments := by
  rw [rows_assigned] at member
  obtain ⟨before, _, rfl⟩ := List.mem_map.mp member
  rw [show (assignedEntity assignments before).info.id = key before from key_assignedEntity before]
    at claimed ⊢
  obtain ⟨last, isLast⟩ := exists_lastAssigned claimed
  have points : (assignedEntity assignments before).operatorId = last := by
    rw [assignedEntity, isLast]
    rfl
  rw [points]
  exact mem_of_lastAssigned isLast

theorem defaultOperator_of_link {entityDB : Table Entity} {operator : Operator} {id : String}
    (link : operatorLink entityDB operator = some id) : operator.defaultOperator = false := by
  cases isDefault : operator.defaultOperator with
  | false => rfl
  | true =>
      rw [operatorLink_of_default isDefault] at link
      cases link

theorem consistent_checkedStore (db : Store) : ConsistentStore (checkedStore db) := by
  have same := sameIds_checkedStore db
  have settled : ∀ pair ∈ operatorLinks db,
      Settled (checkedStore db).entityDB (settlePair pair) pair.2 :=
    fun pair member => settled_of_pass db.operatorDB.distinct member
  constructor
  case venues =>
    intro repaired member id listed
    obtain ⟨venue, _, rfl⟩ := List.mem_map.mp member
    rw [same.inventory]
    exact exists_of_mem_keepExisting listed
  case entities =>
    intro pointed member
    rw [checkedStore, rows_assigned] at member
    obtain ⟨repaired, isRepaired, rfl⟩ := List.mem_map.mp member
    obtain ⟨entity, _, rfl⟩ := List.mem_map.mp isRepaired
    rw [← repairedEntity_assignedEntity, same.inventory, same.contact, same.location, same.venue,
      same.variables]
    exact ⟨fun _ => exists_of_mem_keepExisting, fun _ => exists_of_mem_keepExisting,
      fun _ => exists_of_mem_keepExisting, fun _ => exists_of_mem_keepExisting,
      fun _ => exists_of_mem_keepExisting⟩
  case tags =>
    intro repaired member
    obtain ⟨tag, _, rfl⟩ := List.mem_map.mp member
    rw [same.venue, same.entity, same.location, same.contact]
    exact ⟨exists_of_clearDangling, exists_of_clearDangling, exists_of_clearDangling,
      exists_of_clearDangling⟩
  case defaultOperators =>
    intro operator member isDefault
    obtain ⟨pair, _, rfl⟩ := List.mem_map.mp member
    exact if_pos isDefault
  case operators =>
    intro operator member ordinary entity isLinked
    obtain ⟨pair, isPair, rfl⟩ := List.mem_map.mp member
    have notDefault : ¬(settlePair pair).defaultOperator = true := by
      rw [ordinary]
      exact Bool.false_ne_true
    have link : pair.2 = some entity.info.id := by
      rw [← (settled pair isPair).linked, operatorLink, if_neg notDefault]
      exact congrArg (Option.map _) isLinked
    constructor
    · have field := congrArg Operator.entityId (settled pair isPair).settled
      rw [link] at field
      exact field.symm.trans (if_neg notDefault)
    · intro differs
      have claimed := mem_claims_of_link isPair link differs
      obtain ⟨other, isOther, otherLink, points⟩ :=
        mem_claims (claimed_of_mem (Table.mem_of_get? (linkedEntity_mem isLinked)) claimed)
      have otherSettled := settled other isOther
      have otherOrdinary : (settlePair other).defaultOperator = false :=
        defaultOperator_of_link (otherSettled.linked.trans otherLink)
      refine ⟨settlePair other, List.mem_map_of_mem isOther, otherOrdinary, ?_, points⟩
      have field := congrArg Operator.entityId otherSettled.settled
      rw [otherLink] at field
      exact field.symm.trans (if_neg (Bool.eq_false_iff.mp otherOrdinary))

end ConsistentStore

/-- The check repairs a store, and a second check changes nothing. -/
theorem consistencyCheck_repairs (db : Store) : ∃ checked,
    (∃ fuel, ∀ more ≥ fuel, consistencyCheck more db = some checked) ∧
    ConsistentStore checked ∧
    ∃ fuel, ∀ more ≥ fuel, consistencyCheck more checked = some checked := by
  have stops : ∀ db : Store, ∃ fuel, ∀ more ≥ fuel,
      consistencyCheck more db = some (checkedStore db) := by
    intro db
    refine ⟨db.venueDB.rows.length + db.entityDB.rows.length + db.inventoryDB.rows.length +
      db.configurationDB.rows.length + db.operatorDB.rows.length +
      db.subscriberDeviceDB.rows.length + 1, ?_⟩
    intro more enough
    exact consistencyCheck_eq (by omega) (by omega) (by omega) (by omega) (by omega) (by omega)
  obtain ⟨again, unchanged⟩ := stops (checkedStore db)
  rw [checkedStore_checkedStore] at unchanged
  exact ⟨checkedStore db, stops db, consistent_checkedStore db, again, unchanged⟩

/-- A venue lists a contact that does not exist, and the operator is the default operator. -/
def neglectedStore : Store :=
  { initialStore with
    venueDB := .singleton { info := { id := "venue" }, contacts := ["contact"] }
    operatorDB := .singleton
      { info := { id := "operator" }, defaultOperator := true, entityId := rootUUID } }

/-- Venues are only asked about devices, and the root points at no operator. -/
theorem neglected_by_check : ∃ checked,
    (∀ fuel ≥ 1, consistencyCheck fuel neglectedStore = some checked) ∧
    (∃ venue ∈ checked.venueDB.rows, ∃ id ∈ venue.contacts,
      idExists checked.contactDB id = false) ∧
    ∃ operator ∈ checked.operatorDB.rows, ∃ entity ∈ checked.entityDB.rows,
      operator.entityId = entity.info.id ∧ entity.operatorId ≠ operator.info.id := by
  refine ⟨checkedStore neglectedStore, ?_, by decide, by decide⟩
  intro fuel enough
  have one : 1 < 50 * fuel := by omega
  have none : 0 < 50 * fuel := by omega
  exact consistencyCheck_eq one one none none one none

end Owprov
