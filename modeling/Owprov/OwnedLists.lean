import Owprov.DevicePlacement
import Owprov.MapHandlers
import Owprov.VariableHandlers

/-!
# The lists of what entities and venues own

Configurations, blocks of variables and maps name an entity and a venue, which list them.  Their
own requests write both sides, each member in the same way.  An owner may be deleted while maps
and variables still name it, so that only the lists of existing owners are exact.
-/

namespace Owprov

open RowTable ForeignKeys

/-! ## Lists of one kind of owners -/

section Counting

variable {α γ : Type} [Keyed α String] [Keyed γ String] {owner owner' : Table α}
  {table table' : Table γ} {member : VectorMember α} {column : γ → String}

theorem memberships_eq_none_of_missing {id : String} (missing : idExists owner id = false) :
    ∀ p, optionalId id = some p → memberships owner member p = none := by
  intro p named
  obtain ⟨rfl, _⟩ := optionalId_eq_some_iff.mp named
  rw [idExists, Option.isSome_eq_false_iff, Option.isNone_iff_eq_none] at missing
  rw [memberships, missing, Option.map_none]

/-- A new record is listed at the owner that it names. -/
theorem counted_create (counted : Counted (owners table column) (memberships owner member))
    {row : γ} (inserted : table.insert? row = some table') :
    Counted (owners table' column)
      (memberships (addMembership owner member (column row) (key row)) member) := by
  have noOwner : owners table column (key row) = none := by
    rw [owners, Table.get?_key_of_insert? inserted, Option.bind_none]
  have moved := counted.move (key row) (optionalId (column row))
  rw [noOwner] at moved
  rw [owners_insert? inserted, memberships_addMembership]
  exact moved

/-- An updated record moves from the old owner to the new one, or stays. -/
theorem counted_moves (counted : Counted (owners table column) (memberships owner member))
    {old new : γ} (found : table.get? (key new) = some old) {fromId toId : String}
    (moves : Moves (column old) (column new) fromId toId) :
    Counted (owners (table.update new) column)
      (memberships (manageMembership owner member fromId toId (key new)) member) := by
  rcases moves with ⟨rfl, rfl, same⟩ | ⟨rfl, rfl⟩
  · rw [owners_congr (Table.SameView.update found same), manageMembership_blank]
    exact counted
  · have moved := counted.move (key new) (optionalId (column new))
    rw [owners_of_get? found] at moved
    rw [owners_update found, memberships_manageMembership]
    exact moved

/-- A record that is deleted is taken off its list. -/
theorem counted_remove (counted : Counted (owners table column) (memberships owner member))
    {row : γ} {id : String} (found : table.get? id = some row) :
    Counted (owners (table.delete id) column)
      (memberships (removeMembership owner member (column row) id) member) := by
  have moved := counted.move id none
  rw [owners_of_get? found] at moved
  rw [owners_delete, memberships_removeMembership]
  exact moved

/-- A new record is in no list when its owner does not exist. -/
theorem counted_insertHomeless (counted : Counted (owners table column) (memberships owner member))
    {row : γ} (inserted : table.insert? row = some table')
    (homeless : idExists owner (column row) = false) :
    Counted (owners table' column) (memberships owner member) := by
  rw [owners_insert? inserted]
  apply counted.write
  · intro p named
    rw [owners, Table.get?_key_of_insert? inserted, Option.bind_none] at named
    cases named
  · exact memberships_eq_none_of_missing homeless

/-- A record whose owner does not exist is deleted without a list. -/
theorem counted_deleteHomeless (counted : Counted (owners table column) (memberships owner member))
    {id : String} (homeless : ∀ row, table.get? id = some row → idExists owner (column row) = false) :
    Counted (owners (table.delete id) column) (memberships owner member) := by
  rw [owners_delete]
  apply counted.write
  · intro p named
    obtain ⟨row, found, equal, filled⟩ := owners_eq_some_iff.mp named
    exact memberships_eq_none_of_missing (homeless row found) p
      (optionalId_eq_some_iff.mpr ⟨equal, equal ▸ filled⟩)
  · rintro p ⟨⟩

/-- A new owner that nothing names starts with an empty list. -/
theorem counted_openOwner (counted : Counted (owners table column) (memberships owner member))
    {row : α} (inserted : owner.insert? row = some owner') (listed : member.get row = [])
    (unnamed : ∀ child ∈ table.rows, column child ≠ key row) :
    Counted (owners table column) (memberships owner' member) := by
  rw [memberships_insert? inserted, listed]
  apply counted.insertOwner
  intro id named
  obtain ⟨child, found, equal, _⟩ := owners_eq_some_iff.mp named
  exact unnamed child (Table.mem_of_get? found) equal

theorem counted_closeOwner (counted : Counted (owners table column) (memberships owner member))
    (id : String) : Counted (owners table column) (memberships (owner.delete id) member) := by
  rw [memberships_delete]
  exact counted.deleteOwner id

/-- A list holds each of its members once, and they are the records that name its owner. -/
theorem counted_list (counted : Counted (owners table column) (memberships owner member))
    {id : String} (filled : id ≠ "") {row : α} (found : owner.get? id = some row) :
    (member.get row).Nodup ∧
      ∀ c, c ∈ member.get row ↔ ∃ child, table.get? c = some child ∧ column child = id := by
  have isList : memberships owner member id = some (member.get row) :=
    memberships_eq_some_iff.mpr ⟨row, found, rfl⟩
  refine ⟨Multiset.coe_nodup.mp (counted.nodup isList), fun c => ?_⟩
  rw [← Multiset.mem_coe, counted.mem_iff isList, owners_eq_some_iff]
  constructor
  · rintro ⟨child, isChild, named, _⟩
    exact ⟨child, isChild, named⟩
  · rintro ⟨child, isChild, named⟩
    exact ⟨child, isChild, named, filled⟩

end Counting

/-! ## Lists of entities and venues -/

/-- A kind of records that entities and venues list. -/
structure Belonging (γ : Type) where
  entity : γ → String
  venue : γ → String
  inEntity : VectorMember Entity
  inVenue : VectorMember Venue

namespace Belonging

def configurations : Belonging DeviceConfiguration where
  entity := DeviceConfiguration.entity
  venue := DeviceConfiguration.venue
  inEntity := Entity.configurationsMember
  inVenue := Venue.configurationsMember

def variableBlocks : Belonging VariableBlock where
  entity := VariableBlock.entity
  venue := VariableBlock.venue
  inEntity := Entity.variablesMember
  inVenue := Venue.variablesMember

def maps : Belonging Map where
  entity := Map.entity
  venue := Map.venue
  inEntity := Entity.mapsMember
  inVenue := Venue.mapsMember

variable {γ : Type} [Keyed γ String] {kind : Belonging γ} {entityDB entityDB' : Table Entity}
  {venueDB venueDB' : Table Venue} {table table' : Table γ}

/-- The owners that a record names. -/
def place (kind : Belonging γ) (row : γ) : String × String :=
  (kind.entity row, kind.venue row)

/-- Every entity and every venue lists the records that name it, each once. -/
structure Listed (kind : Belonging γ) (entityDB : Table Entity) (venueDB : Table Venue)
    (table : Table γ) : Prop where
  inEntity : Counted (owners table kind.entity) (memberships entityDB kind.inEntity)
  inVenue : Counted (owners table kind.venue) (memberships venueDB kind.inVenue)

namespace Listed

theorem congr (listed : kind.Listed entityDB venueDB table)
    (entities : Table.SameView kind.inEntity.get entityDB entityDB')
    (venues : Table.SameView kind.inVenue.get venueDB venueDB')
    (rows : Table.SameView kind.place table table') : kind.Listed entityDB' venueDB' table' := by
  have entityColumn : owners table' kind.entity = owners table kind.entity :=
    owners_congr (rows.comp Prod.fst)
  have venueColumn : owners table' kind.venue = owners table kind.venue :=
    owners_congr (rows.comp Prod.snd)
  constructor
  case inEntity =>
    rw [entityColumn, memberships_congr entities]
    exact listed.inEntity
  case inVenue =>
    rw [venueColumn, memberships_congr venues]
    exact listed.inVenue

theorem create (listed : kind.Listed entityDB venueDB table) {row : γ}
    (inserted : table.insert? row = some table') :
    kind.Listed (addMembership entityDB kind.inEntity (kind.entity row) (key row))
      (addMembership venueDB kind.inVenue (kind.venue row) (key row)) table' where
  inEntity := counted_create listed.inEntity inserted
  inVenue := counted_create listed.inVenue inserted

theorem update (listed : kind.Listed entityDB venueDB table) {old new : γ}
    (found : table.get? (key new) = some old) {fromEntity toEntity fromVenue toVenue : String}
    (entityMoves : Moves (kind.entity old) (kind.entity new) fromEntity toEntity)
    (venueMoves : Moves (kind.venue old) (kind.venue new) fromVenue toVenue) :
    kind.Listed (manageMembership entityDB kind.inEntity fromEntity toEntity (key new))
      (manageMembership venueDB kind.inVenue fromVenue toVenue (key new)) (table.update new) where
  inEntity := counted_moves listed.inEntity found entityMoves
  inVenue := counted_moves listed.inVenue found venueMoves

theorem remove (listed : kind.Listed entityDB venueDB table) {row : γ} {id : String}
    (found : table.get? id = some row) :
    kind.Listed (removeMembership entityDB kind.inEntity (kind.entity row) id)
      (removeMembership venueDB kind.inVenue (kind.venue row) id) (table.delete id) where
  inEntity := counted_remove listed.inEntity found
  inVenue := counted_remove listed.inVenue found

theorem openEntity (listed : kind.Listed entityDB venueDB table) {entity : Entity}
    (inserted : entityDB.insert? entity = some entityDB')
    (nothing : kind.inEntity.get entity = [])
    (unnamed : ∀ row ∈ table.rows, kind.entity row ≠ entity.info.id) :
    kind.Listed entityDB' venueDB table where
  inEntity := counted_openOwner listed.inEntity inserted nothing unnamed
  inVenue := listed.inVenue

theorem openVenue (listed : kind.Listed entityDB venueDB table) {venue : Venue}
    (inserted : venueDB.insert? venue = some venueDB') (nothing : kind.inVenue.get venue = [])
    (unnamed : ∀ row ∈ table.rows, kind.venue row ≠ venue.info.id) :
    kind.Listed entityDB venueDB' table where
  inEntity := listed.inEntity
  inVenue := counted_openOwner listed.inVenue inserted nothing unnamed

theorem closeEntity (listed : kind.Listed entityDB venueDB table) (id : String) :
    kind.Listed (entityDB.delete id) venueDB table where
  inEntity := counted_closeOwner listed.inEntity id
  inVenue := listed.inVenue

theorem closeVenue (listed : kind.Listed entityDB venueDB table) (id : String) :
    kind.Listed entityDB (venueDB.delete id) table where
  inEntity := listed.inEntity
  inVenue := counted_closeOwner listed.inVenue id

end Listed

/-! ### Records without an owner -/

/-- A record names no entity and no venue that exists. -/
structure Homeless (kind : Belonging γ) (entityDB : Table Entity) (venueDB : Table Venue)
    (row : γ) : Prop where
  entity : idExists entityDB (kind.entity row) = false
  venue : idExists venueDB (kind.venue row) = false

namespace Listed

theorem insertHomeless (listed : kind.Listed entityDB venueDB table) {row : γ}
    (inserted : table.insert? row = some table') (homeless : kind.Homeless entityDB venueDB row) :
    kind.Listed entityDB venueDB table' where
  inEntity := counted_insertHomeless listed.inEntity inserted homeless.entity
  inVenue := counted_insertHomeless listed.inVenue inserted homeless.venue

theorem deleteHomeless (listed : kind.Listed entityDB venueDB table) {id : String}
    (homeless : ∀ row, table.get? id = some row → kind.Homeless entityDB venueDB row) :
    kind.Listed entityDB venueDB (table.delete id) where
  inEntity := counted_deleteHomeless listed.inEntity fun row found => (homeless row found).entity
  inVenue := counted_deleteHomeless listed.inVenue fun row found => (homeless row found).venue

end Listed

end Belonging

/-! ## Exact lists -/

/-- The lists of configurations, of blocks of variables and of maps are exact. -/
structure ExactOwnership (db : Store) : Prop where
  configurations :
    Belonging.configurations.Listed db.entityDB db.venueDB db.configurationDB
  variableBlocks : Belonging.variableBlocks.Listed db.entityDB db.venueDB db.variablesDB
  maps : Belonging.maps.Listed db.entityDB db.venueDB db.mapDB
  entityNamed : db.entityDB.get? "" = none
  venueNamed : db.venueDB.get? "" = none
  /-- The deletion of a tag takes its id off the lists of configurations. -/
  apart : ∀ id, idExists db.inventoryDB id = true → idExists db.configurationDB id = false

/-- The context makes ids that no record has and no belonging names. -/
structure Context.Unclaimed (ctx : Context) (db : Store) : Prop extends ctx.Fresh db where
  configuration : ∀ i, db.configurationDB.get? (ctx.newId i) = none
  inventory : ∀ i, db.inventoryDB.get? (ctx.newId i) = none
  configurationNames : ∀ i, ∀ config ∈ db.configurationDB.rows,
    config.entity ≠ ctx.newId i ∧ config.venue ≠ ctx.newId i
  variableNames : ∀ i, ∀ block ∈ db.variablesDB.rows,
    block.entity ≠ ctx.newId i ∧ block.venue ≠ ctx.newId i
  mapNames : ∀ i, ∀ map ∈ db.mapDB.rows, map.entity ≠ ctx.newId i ∧ map.venue ≠ ctx.newId i

def Entity.belongings (entity : Entity) : List String × List String × List String :=
  (entity.configurations, entity.variables, entity.maps)

def Venue.belongings (venue : Venue) : List String × List String × List String :=
  (venue.configurations, venue.variables, venue.maps)

/-- No belonging comes, goes or moves, and no tag comes. -/
structure SameBelongings (db db' : Store) : Prop where
  entities : Table.SameView Entity.belongings db.entityDB db'.entityDB
  venues : Table.SameView Venue.belongings db.venueDB db'.venueDB
  configurations :
    Table.SameView Belonging.configurations.place db.configurationDB db'.configurationDB
  variableBlocks : Table.SameView Belonging.variableBlocks.place db.variablesDB db'.variablesDB
  maps : Table.SameView Belonging.maps.place db.mapDB db'.mapDB
  tags : ∀ id, idExists db'.inventoryDB id = true → idExists db.inventoryDB id = true

theorem SameBelongings.refl (db : Store) : SameBelongings db db :=
  ⟨.refl _ _, .refl _ _, .refl _ _, .refl _ _, .refl _ _, fun _ known => known⟩

section Writes

variable {db db' : Store}

theorem ExactOwnership.congr (exact : ExactOwnership db) (same : SameBelongings db db') :
    ExactOwnership db' where
  configurations := exact.configurations.congr (same.entities.comp Prod.fst)
    (same.venues.comp Prod.fst) same.configurations
  variableBlocks := exact.variableBlocks.congr (same.entities.comp fun lists => lists.2.1)
    (same.venues.comp fun lists => lists.2.1) same.variableBlocks
  maps := exact.maps.congr (same.entities.comp fun lists => lists.2.2)
    (same.venues.comp fun lists => lists.2.2) same.maps
  entityNamed := same.entities.get?_eq_none exact.entityNamed
  venueNamed := same.venues.get?_eq_none exact.venueNamed
  apart id tagged := by
    rw [idExists_congr same.configurations]
    exact exact.apart id (same.tags id tagged)

/-- What a write to the configurations and their lists has to establish. -/
theorem ExactOwnership.of_configurations (exact : ExactOwnership db)
    (listed : Belonging.configurations.Listed db'.entityDB db'.venueDB db'.configurationDB)
    (entities : Table.SameView (fun entity : Entity => (entity.variables, entity.maps))
      db.entityDB db'.entityDB)
    (venues : Table.SameView (fun venue : Venue => (venue.variables, venue.maps))
      db.venueDB db'.venueDB)
    (variableBlocks : Table.SameView Belonging.variableBlocks.place db.variablesDB db'.variablesDB)
    (maps : db'.mapDB = db.mapDB) (tags : db'.inventoryDB = db.inventoryDB)
    (apart : ∀ id, idExists db'.configurationDB id = true →
      idExists db.configurationDB id = true ∨ idExists db.inventoryDB id = false) :
    ExactOwnership db' where
  configurations := listed
  variableBlocks := exact.variableBlocks.congr (entities.comp Prod.fst) (venues.comp Prod.fst)
    variableBlocks
  maps := by
    rw [maps]
    exact exact.maps.congr (entities.comp Prod.snd) (venues.comp Prod.snd) (.refl _ _)
  entityNamed := entities.get?_eq_none exact.entityNamed
  venueNamed := venues.get?_eq_none exact.venueNamed
  apart id tagged := by
    rw [tags] at tagged
    by_contra configured
    rw [Bool.not_eq_false] at configured
    rcases apart id configured with before | untagged
    · rw [exact.apart id tagged] at before
      cases before
    · rw [tagged] at untagged
      cases untagged

/-- What a write to the blocks of variables and their lists has to establish. -/
theorem ExactOwnership.of_variableBlocks (exact : ExactOwnership db)
    (listed : Belonging.variableBlocks.Listed db'.entityDB db'.venueDB db'.variablesDB)
    (entities : Table.SameView (fun entity : Entity => (entity.configurations, entity.maps))
      db.entityDB db'.entityDB)
    (venues : Table.SameView (fun venue : Venue => (venue.configurations, venue.maps))
      db.venueDB db'.venueDB)
    (configurations : db'.configurationDB = db.configurationDB) (maps : db'.mapDB = db.mapDB)
    (tags : db'.inventoryDB = db.inventoryDB) : ExactOwnership db' where
  configurations := by
    rw [configurations]
    exact exact.configurations.congr (entities.comp Prod.fst) (venues.comp Prod.fst) (.refl _ _)
  variableBlocks := listed
  maps := by
    rw [maps]
    exact exact.maps.congr (entities.comp Prod.snd) (venues.comp Prod.snd) (.refl _ _)
  entityNamed := entities.get?_eq_none exact.entityNamed
  venueNamed := venues.get?_eq_none exact.venueNamed
  apart := by
    rw [configurations, tags]
    exact exact.apart

/-- What a write to the maps and their lists has to establish. -/
theorem ExactOwnership.of_maps (exact : ExactOwnership db)
    (listed : Belonging.maps.Listed db'.entityDB db'.venueDB db'.mapDB)
    (entities : Table.SameView (fun entity : Entity => (entity.configurations, entity.variables))
      db.entityDB db'.entityDB)
    (venues : Table.SameView (fun venue : Venue => (venue.configurations, venue.variables))
      db.venueDB db'.venueDB)
    (configurations : db'.configurationDB = db.configurationDB)
    (variableBlocks : db'.variablesDB = db.variablesDB)
    (tags : db'.inventoryDB = db.inventoryDB) : ExactOwnership db' where
  configurations := by
    rw [configurations]
    exact exact.configurations.congr (entities.comp Prod.fst) (venues.comp Prod.fst) (.refl _ _)
  variableBlocks := by
    rw [variableBlocks]
    exact exact.variableBlocks.congr (entities.comp Prod.snd) (venues.comp Prod.snd) (.refl _ _)
  maps := listed
  entityNamed := entities.get?_eq_none exact.entityNamed
  venueNamed := venues.get?_eq_none exact.venueNamed
  apart := by
    rw [configurations, tags]
    exact exact.apart

end Writes

/-! ## Requests for configurations -/

section Configurations

variable {ctx : Context} {db : Store}

theorem idExists_of_insert? {γ : Type} [Keyed γ String] {table table' : Table γ} {row : γ}
    (inserted : table.insert? row = some table') {id : String} (present : idExists table' id = true) :
    idExists table id = true ∨ id = key row := by
  rw [idExists, Table.get?_insert? inserted] at present
  split at present
  · rename_i same
    exact Or.inr same
  · exact Or.inl present

theorem idExists_of_delete {γ : Type} [Keyed γ String] {table : Table γ} {id other : String}
    (present : idExists (table.delete other) id = true) : idExists table id = true := by
  rw [idExists, Table.get?_delete] at present
  split at present
  · cases present
  · exact present

theorem idExists_of_update {γ : Type} [Keyed γ String] {table : Table γ} {old new : γ}
    (found : table.get? (key new) = some old) {id : String}
    (present : idExists (table.update new) id = true) : idExists table id = true := by
  have same : Table.SameView (fun _ => ()) table (table.update new) := .update found rfl
  rwa [idExists_congr same] at present

theorem sameView_addMemberships {α β : Type} [Keyed α String] {view : α → β}
    {member : VectorMember α} (apart : ∀ ids row, view (member.set ids row) = view row)
    (parentIds : List String) (id : String) (table : Table α) :
    Table.SameView view table
      (parentIds.foldl (fun table obj => addMembership table member obj id) table) := by
  induction parentIds generalizing table with
  | nil => exact .refl _ _
  | cons parentId parentIds ih =>
      rw [List.foldl_cons]
      exact (sameView_addMembership apart parentId id).trans (ih _)

theorem sameView_manageMemberships {α β : Type} [Keyed α String] {view : α → β}
    {member : VectorMember α} (apart : ∀ ids row, view (member.set ids row) = view row)
    (fromIds toIds : List String) (id : String) (table : Table α) :
    Table.SameView view table (manageMemberships table member fromIds toIds id) := by
  have removed : ∀ (ids : List String) (table : Table α), Table.SameView view table
      (ids.foldl (fun table obj => removeMembership table member obj id) table) := by
    intro ids
    induction ids with
    | nil => exact fun table => .refl _ _
    | cons parentId ids ih =>
        intro table
        rw [List.foldl_cons]
        exact (sameView_removeMembership apart parentId id).trans (ih _)
  unfold manageMemberships
  split
  · exact .refl _ _
  · exact (removed fromIds table).trans (sameView_addMemberships apart toIds id _)

theorem ExactOwnership.configurationDoPost (exact : ExactOwnership db) (unclaimed : ctx.Unclaimed db)
    (request : Request) : ExactOwnership (configurationDoPost ctx db request).store := by
  unfold Owprov.configurationDoPost
  split
  · exact exact
  · split
    · exact exact
    · split
      · exact exact
      · rename_i config planned
        split
        · exact exact
        · rename_i configurationDB inserted
          obtain ⟨id, _⟩ := configurationDoPostPlan_eq_ok planned
          refine exact.of_configurations (exact.configurations.create inserted) ?_ ?_ ?_ rfl rfl ?_
          · exact sameView_addMembership (fun _ _ => rfl) _ _
          · exact sameView_addMembership (fun _ _ => rfl) _ _
          · exact sameView_addMemberships (fun _ _ => rfl) _ _ _
          · intro other configured
            refine (idExists_of_insert? inserted configured).imp_right ?_
            rintro rfl
            rw [show key config = ctx.newId 0 from id, idExists, unclaimed.inventory 0]
            rfl

theorem moves_of_configurationDoPutPlan {request : Request} {updated : DeviceConfiguration}
    {moves : ConfigurationMoves}
    (planned : configurationDoPutPlan ctx db request = .ok (updated, moves)) :
    ∃ existing, db.configurationDB.get? (key updated) = some existing ∧
      Moves existing.entity updated.entity moves.fromEntity moves.toEntity ∧
      Moves existing.venue updated.venue moves.fromVenue moves.toVenue := by
  simp only [configurationDoPutPlan, bind_eq_ok_iff, require_eq_ok_iff] at planned
  obtain ⟨existing, bound, body, _, newObject, _, _, _, info, updatedInfo, _, _, planned⟩ :=
    planned
  obtain ⟨_, _, _, _, _, _, entityMove, entityMoved, venueMove, venueMoved, _, _, planned⟩ :=
    planned
  obtain ⟨rfl, rfl⟩ := Prod.mk.inj (Except.ok.inj planned)
  have sameId : info.id = existing.info.id := updateObjectInfo_eq_ok updatedInfo
  refine ⟨existing, ?_, (moves_of_createMove entityMoved).1, (moves_of_createMove venueMoved).1⟩
  show db.configurationDB.get? info.id = some existing
  rw [sameId]
  exact boundRecord_eq_ok bound

theorem ExactOwnership.configurationDoPut (exact : ExactOwnership db) (request : Request) :
    ExactOwnership (configurationDoPut ctx db request).store := by
  unfold Owprov.configurationDoPut
  split
  · exact exact
  · rename_i updated moves planned
    obtain ⟨existing, found, entityMoves, venueMoves⟩ := moves_of_configurationDoPutPlan planned
    refine exact.of_configurations (exact.configurations.update found entityMoves venueMoves)
      ?_ ?_ ?_ rfl rfl ?_
    · exact sameView_manageMembership (fun _ _ => rfl) _ _ _
    · exact sameView_manageMembership (fun _ _ => rfl) _ _ _
    · exact sameView_manageMemberships (fun _ _ => rfl) _ _ _ _
    · exact fun id configured => Or.inl (idExists_of_update found configured)

theorem manageMembership_departure {α : Type} [Keyed α String] (table : Table α)
    (member : VectorMember α) (fromId id : String) :
    manageMembership table member fromId "" id = removeMembership table member fromId id := by
  simp [manageMembership, addMembership]

theorem ExactOwnership.configurationDoDelete (exact : ExactOwnership db) (request : Request) :
    ExactOwnership (configurationDoDelete db request).store := by
  unfold Owprov.configurationDoDelete
  split
  · exact exact
  · rename_i existing planned
    simp only [configurationDoDeletePlan, bind_eq_ok_iff] at planned
    obtain ⟨config, bound, _, _, planned⟩ := planned
    obtain rfl := Except.ok.inj planned
    have removed := exact.configurations.remove (boundRecord_eq_ok bound)
    rw [← manageMembership_departure, ← manageMembership_departure] at removed
    refine exact.of_configurations removed ?_ ?_ ?_ rfl rfl ?_
    · exact sameView_manageMembership (fun _ _ => rfl) _ _ _
    · exact sameView_manageMembership (fun _ _ => rfl) _ _ _
    · exact sameView_manageMemberships (fun _ _ => rfl) _ _ _ _
    · exact fun id configured => Or.inl (idExists_of_delete configured)

end Configurations

/-! ## Requests for blocks of variables -/

section VariableBlocks

variable {ctx : Context} {db : Store}

theorem ExactOwnership.variablesDoPost (exact : ExactOwnership db) (request : Request) :
    ExactOwnership (variablesDoPost ctx db request).store := by
  unfold Owprov.variablesDoPost
  split
  · exact exact
  · split
    · exact exact
    · rename_i variablesDB inserted
      refine exact.of_variableBlocks (exact.variableBlocks.create inserted) ?_ ?_ rfl rfl rfl
      · exact sameView_addMembership (fun _ _ => rfl) _ _
      · exact sameView_addMembership (fun _ _ => rfl) _ _

theorem moves_of_variablesDoPutPlan {request : Request} {updated : VariableBlock}
    {moves : ConfigurationMoves} (planned : variablesDoPutPlan db request = .ok (updated, moves)) :
    ∃ existing, db.variablesDB.get? (key updated) = some existing ∧
      Moves existing.entity updated.entity moves.fromEntity moves.toEntity ∧
      Moves existing.venue updated.venue moves.fromVenue moves.toVenue := by
  simp only [variablesDoPutPlan, bind_eq_ok_iff, require_eq_ok_iff] at planned
  obtain ⟨_, _, existing, bound, _, _, _, _, info, updatedInfo, policyMove, _,
    entityMove, entityMoved, venueMove, venueMoved, planned⟩ := planned
  obtain ⟨rfl, rfl⟩ := Prod.mk.inj (Except.ok.inj planned)
  have sameId : info.id = existing.info.id :=
    updateObjectInfo_eq_ok (orInvalidParameters_eq_ok_iff.mp updatedInfo)
  refine ⟨existing, ?_, (moves_of_createMove entityMoved).1, (moves_of_createMove venueMoved).1⟩
  show db.variablesDB.get? info.id = some existing
  rw [sameId]
  exact boundRecord_eq_ok bound

theorem ExactOwnership.variablesDoPut (exact : ExactOwnership db) (request : Request) :
    ExactOwnership (variablesDoPut db request).store := by
  unfold Owprov.variablesDoPut
  split
  · exact exact
  · rename_i updated moves planned
    obtain ⟨existing, found, entityMoves, venueMoves⟩ := moves_of_variablesDoPutPlan planned
    refine exact.of_variableBlocks (exact.variableBlocks.update found entityMoves venueMoves)
      ?_ ?_ rfl rfl rfl
    · exact sameView_manageMembership (fun _ _ => rfl) _ _ _
    · exact sameView_manageMembership (fun _ _ => rfl) _ _ _

theorem ExactOwnership.variablesDoDelete (exact : ExactOwnership db) (request : Request) :
    ExactOwnership (variablesDoDelete db request).store := by
  unfold Owprov.variablesDoDelete
  split
  · exact exact
  · rename_i existing planned
    have found : db.variablesDB.get? existing.info.id = some existing := by
      simp only [variablesDoDeletePlan, bind_eq_ok_iff, require_eq_ok_iff] at planned
      obtain ⟨_, _, planned⟩ := planned
      split at planned
      · cases planned
      · rename_i isFound
        simp only [bind_eq_ok_iff, require_eq_ok_iff] at planned
        obtain ⟨_, _, planned⟩ := planned
        obtain rfl := Except.ok.inj planned
        exact Table.get?_key_of_mem (Table.mem_of_get? isFound)
    refine exact.of_variableBlocks (exact.variableBlocks.remove found) ?_ ?_ rfl rfl rfl
    · exact sameView_removeMembership (fun _ _ => rfl) _ _
    · exact sameView_removeMembership (fun _ _ => rfl) _ _

end VariableBlocks

/-! ## Requests for maps -/

section Maps

variable {ctx : Context} {db : Store}

theorem ExactOwnership.mapDoPost (exact : ExactOwnership db) (request : Request) :
    ExactOwnership (mapDoPost ctx db request).store := by
  unfold Owprov.mapDoPost
  split
  · exact exact
  · split
    · exact exact
    · rename_i mapDB inserted
      refine exact.of_maps (exact.maps.create inserted) ?_ ?_ rfl rfl rfl
      · exact sameView_addMembership (fun _ _ => rfl) _ _
      · exact sameView_addMembership (fun _ _ => rfl) _ _

theorem moves_of_mapDoPutPlan {request : Request} {updated : Map} {moves : ConfigurationMoves}
    (planned : mapDoPutPlan ctx db request = .ok (updated, moves)) :
    ∃ existing, db.mapDB.get? (key updated) = some existing ∧
      Moves existing.entity updated.entity moves.fromEntity moves.toEntity ∧
      Moves existing.venue updated.venue moves.fromVenue moves.toVenue := by
  simp only [mapDoPutPlan, bind_eq_ok_iff] at planned
  obtain ⟨existing, bound, _, _, info, updatedInfo, _, _, policyMove, _,
    entityMove, entityMoved, venueMove, venueMoved, _, _, planned⟩ := planned
  obtain ⟨rfl, rfl⟩ := Prod.mk.inj (Except.ok.inj planned)
  have sameId : info.id = existing.info.id := updateObjectInfo_eq_ok updatedInfo
  refine ⟨existing, ?_, (moves_of_createMove entityMoved).1, (moves_of_createMove venueMoved).1⟩
  show db.mapDB.get? info.id = some existing
  rw [sameId]
  exact boundRecord_eq_ok bound

theorem ExactOwnership.mapDoPut (exact : ExactOwnership db) (request : Request) :
    ExactOwnership (mapDoPut ctx db request).store := by
  unfold Owprov.mapDoPut
  split
  · exact exact
  · rename_i updated moves planned
    obtain ⟨existing, found, entityMoves, venueMoves⟩ := moves_of_mapDoPutPlan planned
    refine exact.of_maps (exact.maps.update found entityMoves venueMoves) ?_ ?_ rfl rfl rfl
    · exact sameView_manageMembership (fun _ _ => rfl) _ _ _
    · exact sameView_manageMembership (fun _ _ => rfl) _ _ _

theorem ExactOwnership.mapDoDelete (exact : ExactOwnership db) (request : Request) :
    ExactOwnership (mapDoDelete ctx db request).store := by
  unfold Owprov.mapDoDelete
  split
  · exact exact
  · rename_i existing planned
    simp only [mapDoDeletePlan, bind_eq_ok_iff] at planned
    obtain ⟨map, bound, _, _, planned⟩ := planned
    obtain rfl := Except.ok.inj planned
    refine exact.of_maps (exact.maps.remove (boundRecord_eq_ok bound)) ?_ ?_ rfl rfl rfl
    · exact sameView_removeMembership (fun _ _ => rfl) _ _
    · exact sameView_removeMembership (fun _ _ => rfl) _ _

end Maps

end Owprov
