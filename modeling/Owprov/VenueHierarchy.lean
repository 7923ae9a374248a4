import Owprov.OperatorLinks
import Owprov.VenuePlacement

/-!
# The hierarchy of venues

An entity lists its venues, a venue lists its children, and the requests keep both lists in
step with the fields of the venues.  A child belongs to the entity of its parent when it is
created.  An update may move a venue to another entity, or below another venue, and looks at
neither its children nor the entity of the new parent.
-/

namespace Owprov

open RowTable ForeignKeys Runs

/-- The columns of a venue that the hierarchy depends on. -/
def Venue.position (venue : Venue) : (String × String) × List String :=
  (venue.place, venue.children)

/-- A venue belongs to the entity of its parent. -/
def SameEntity (table : Table Venue) : Prop :=
  ∀ id venue, table.get? id = some venue → venue.parent ≠ "" →
    ∃ parent, table.get? venue.parent = some parent ∧ parent.entity = venue.entity

/-- The entities list their venues. -/
abbrev ExactVenues (entities : Table Entity) (venues : Table Venue) : Prop :=
  Exact (owners venues Venue.entity) (memberships entities Entity.venuesMember)

/-- The lists of venues are exact. -/
structure VenueLists (db : Store) : Prop where
  venues : ExactVenues db.entityDB db.venueDB
  children : Exact (owners db.venueDB Venue.parent)
    (memberships db.venueDB Venue.childrenMember)
  venueNamed : db.venueDB.get? "" = none

theorem SameEntity.congr {table table' : Table Venue} (agree : SameEntity table)
    (same : Table.SameView Venue.place table table') : SameEntity table' := by
  intro id venue found filled
  obtain ⟨old, before, views⟩ := same.found found
  rw [Venue.place, Venue.place, Prod.mk.injEq] at views
  obtain ⟨above, isAbove, entities⟩ := agree id old before (views.2 ▸ filled)
  obtain ⟨parent, isParent, parentViews⟩ := same.symm.found isAbove
  rw [Venue.place, Venue.place, Prod.mk.injEq] at parentViews
  exact ⟨parent, by rw [views.2, isParent], by rw [← parentViews.1, entities, views.1]⟩

theorem exactVenues_congr {entities entities' : Table Entity} {venues venues' : Table Venue}
    (exact : ExactVenues entities venues)
    (sameEntities : Table.SameView Entity.venues entities entities')
    (sameVenues : Table.SameView Venue.entity venues venues') :
    ExactVenues entities' venues' := by
  have lists : memberships entities' Entity.venuesMember =
      memberships entities Entity.venuesMember := memberships_congr sameEntities
  rw [ExactVenues, owners_congr sameVenues, lists]
  exact exact

/-- Writes to other columns and other lists keep the lists exact. -/
theorem VenueLists.congr {db db' : Store} (lists : VenueLists db)
    (entities : Table.SameView Entity.venues db.entityDB db'.entityDB)
    (venues : Table.SameView Venue.position db.venueDB db'.venueDB) : VenueLists db' := by
  have sameParents := venues.comp fun position => position.1.2
  have sameChildren := venues.comp fun position => position.2
  have parentColumn : owners db'.venueDB Venue.parent = owners db.venueDB Venue.parent :=
    owners_congr sameParents
  have childLists : memberships db'.venueDB Venue.childrenMember =
      memberships db.venueDB Venue.childrenMember := memberships_congr sameChildren
  constructor
  case venues =>
    exact exactVenues_congr lists.venues entities (venues.comp fun position => position.1.1)
  case children =>
    rw [parentColumn, childLists]
    exact lists.children
  case venueNamed => exact venues.get?_eq_none lists.venueNamed

/-! ## Entities and operators -/

section Entities

variable {ctx : Context} {db : Store}

theorem ownersChange_congr {lists : Lists String String} {table table' : Table Entity}
    (change : OwnersChange lists (memberships table Entity.venuesMember))
    (same : Table.SameView Entity.venues table table') :
    OwnersChange lists (memberships table' Entity.venuesMember) := by
  have equal : memberships table' Entity.venuesMember = memberships table Entity.venuesMember :=
    memberships_congr same
  rw [equal]
  exact change

theorem ownersChange_insert {table table' : Table Entity} {entity : Entity}
    (inserted : table.insert? entity = some table') (noVenues : entity.venues = []) :
    OwnersChange (memberships table Entity.venuesMember)
      (memberships table' Entity.venuesMember) := by
  refine .opened (key entity) ?_ ?_
  · rw [memberships, Table.get?_key_of_insert? inserted, Option.map_none]
  · rw [memberships_insert? inserted]
    simp [Entity.venuesMember, noVenues]

theorem ownersChange_delete {table : Table Entity} {entity : Entity}
    (found : table.get? entity.info.id = some entity) (vacant : entity.isVacant = true) :
    OwnersChange (memberships table Entity.venuesMember)
      (memberships (table.delete entity.info.id) Entity.venuesMember) := by
  have noVenues : entity.venues = [] := by
    simp only [Entity.isVacant, Bool.and_eq_true, List.isEmpty_iff] at vacant
    exact vacant.1.1.1.2
  refine .closed entity.info.id ?_ (memberships_delete _)
  rw [memberships, found, Option.map_some]
  simp [Entity.venuesMember, noVenues]

theorem venues_of_entityDoPostPlan {request : Request} {entity : Entity}
    (planned : entityDoPostPlan ctx db request = .ok entity) : entity.venues = [] := by
  simp only [entityDoPostPlan, bind_eq_ok_iff, require_eq_ok_iff] at planned
  obtain ⟨_, _, _, _, body, _, newEntity, _, _, _, info, _, _, _, _, _, _, _, _, _, built⟩ :=
    planned
  cases built
  rfl

theorem venues_of_operatorDoPostPlan {request : Request} {operator : Operator} {entity : Entity}
    (planned : operatorDoPostPlan ctx db request = .ok (operator, entity)) :
    entity.venues = [] := by
  simp only [operatorDoPostPlan, bind_eq_ok_iff, require_eq_ok_iff] at planned
  obtain ⟨body, _, newObject, _, _, _, _, _, _, _, _, _, _, _, info, _, planned⟩ := planned
  cases planned
  rfl

theorem venues_of_entityDoPutPlan {request : Request} {updated : Entity}
    {fromPolicy toPolicy : String}
    (planned : entityDoPutPlan ctx db request = .ok (updated, fromPolicy, toPolicy)) :
    ∃ existing, db.entityDB.get? (key updated) = some existing ∧
      updated.venues = existing.venues := by
  obtain ⟨existing, info, policy, sourceIP, rules, found, rfl⟩ := writes_of_entityDoPutPlan planned
  exact ⟨existing, found, rfl⟩

/-- Entity and operator requests open and close empty lists of venues. -/
theorem EntityMethod.ownersChange (method : EntityMethod) (fresh : ctx.Fresh db)
    (request : Request) :
    OwnersChange (memberships db.entityDB Entity.venuesMember)
      (memberships (method.handle ctx db request).store.entityDB Entity.venuesMember) := by
  have children : ∀ table parentId id add,
      Table.SameView Entity.venues table
        (manipulateVectorMember table Entity.childrenMember parentId id add) :=
    fun _ parentId id add => sameView_manipulateVectorMember (fun _ _ => rfl) parentId id add
  cases method with
  | entityPost =>
      rw [show EntityMethod.handle ctx db request .entityPost = entityDoPost ctx db request
        from rfl]
      rcases entityDoPost_cases fresh request with
        unchanged | ⟨entity, entityDB, planned, inserted, stored⟩
      · rw [unchanged]
        exact .same rfl
      · rw [stored]
        apply ownersChange_congr
          (ownersChange_insert inserted (venues_of_entityDoPostPlan planned))
        refine Table.SameView.trans ?_
          (sameEntities_autoCreateCreatorRole ctx _ _ _ _ _ fun _ _ => rfl)
        exact children entityDB _ _ true
  | entityPut =>
      rw [show EntityMethod.handle ctx db request .entityPut = entityDoPut ctx db request
        from rfl]
      unfold entityDoPut
      split
      · exact .same rfl
      · rename_i updated _ _ planned
        obtain ⟨existing, found, venues⟩ := venues_of_entityDoPutPlan planned
        exact ownersChange_congr (.same rfl) (Table.SameView.update found venues)
  | entityDelete =>
      rw [show EntityMethod.handle ctx db request .entityDelete = entityDoDelete db request
        from rfl]
      unfold entityDoDelete
      split
      · exact .same rfl
      · rename_i existing planned
        obtain ⟨found, _, vacant⟩ := entityDoDeletePlan_eq_ok planned
        simp only [Outcome.store_done, manipulateChild, deleteScopeRoles_entityDB,
          movePolicyUsage_entityDB]
        exact ownersChange_congr (ownersChange_delete found vacant) (children _ _ _ false)
  | operatorPost =>
      rw [show EntityMethod.handle ctx db request .operatorPost = operatorDoPost ctx db request
        from rfl]
      rcases operatorDoPost_cases fresh request with
        unchanged | ⟨operator, entity, operatorDB, entityDB, planned, _, inserted, stored⟩
      · rw [unchanged]
        exact .same rfl
      · rw [stored]
        exact ownersChange_congr
          (ownersChange_insert inserted (venues_of_operatorDoPostPlan planned))
          (children entityDB _ _ true)
  | operatorPut =>
      rw [show EntityMethod.handle ctx db request .operatorPut = operatorDoPut ctx db request
        from rfl]
      unfold operatorDoPut
      split <;> exact .same rfl
  | operatorDelete =>
      rw [show EntityMethod.handle ctx db request .operatorDelete = operatorDoDelete db request
        from rfl]
      unfold operatorDoDelete
      split
      · exact .same rfl
      · rename_i linked planned
        cases linked with
        | none => exact .same rfl
        | some entity =>
            obtain ⟨found, _, vacant⟩ := operatorDoDeletePlan_eq_ok planned
            exact ownersChange_congr (ownersChange_delete found vacant) (children _ _ _ false)

end Entities

/-! ## Venues -/

section Venues

variable {ctx : Context} {db : Store}

theorem VenueLists.entityMethod (lists : VenueLists db) (method : EntityMethod)
    (fresh : ctx.Fresh db) (request : Request) :
    VenueLists (method.handle ctx db request).store where
  venues := by
    rw [method.venueDB_handle]
    exact lists.venues.changeOwners (method.ownersChange fresh request)
  children := by
    rw [method.venueDB_handle]
    exact lists.children
  venueNamed := by
    rw [method.venueDB_handle]
    exact lists.venueNamed

theorem sameVenues_storeInlineLocation {located : Store} {location : Option Location}
    (stored : storeInlineLocation db location = .ok located) :
    Table.SameView Entity.venues db.entityDB located.entityDB :=
  sameView_storeInlineLocation (fun _ _ => rfl) stored

theorem VenueLists.storeInlineLocation (lists : VenueLists db) {located : Store}
    {location : Option Location} (stored : storeInlineLocation db location = .ok located) :
    VenueLists located := by
  obtain ⟨venueDB, _, _⟩ := storeInlineLocation_eq_ok stored
  apply lists.congr (sameVenues_storeInlineLocation stored)
  rw [venueDB]
  exact .refl _ _

/-! ### The lists of the entities -/

section ExactVenues

theorem owners_manageChildren (table : Table Venue) {column : Venue → String}
    (apart : ∀ ids venue, column (Venue.childrenMember.set ids venue) = column venue)
    (fromId toId id : String) :
    owners (manageMembership table Venue.childrenMember fromId toId id) column =
      owners table column :=
  owners_congr (sameView_manageMembership apart fromId toId id)

variable {entities : Table Entity} {venues venues' : Table Venue}

theorem exactVenues_create (exact : ExactVenues entities venues) {venue : Venue}
    (inserted : venues.insert? venue = some venues')
    (entityFound : venue.entity = "" ∨ idExists entities venue.entity = true)
    (parentId : String) :
    ExactVenues (manageMembership entities Entity.venuesMember "" venue.entity venue.info.id)
      (manageMembership venues' Venue.childrenMember "" parentId venue.info.id) := by
  have created : ExactVenues
      (manageMembership entities Entity.venuesMember "" venue.entity venue.info.id) venues' :=
    exact_create exact inserted entityFound
  exact exactVenues_congr created (.refl _ _) (sameView_manageMembership (fun _ _ => rfl) _ _ _)

theorem exactVenues_remove (exact : ExactVenues entities venues) {venue : Venue}
    (found : venues.get? venue.info.id = some venue)
    (same : Table.SameView Venue.entity venues venues') :
    ExactVenues (manageMembership entities Entity.venuesMember venue.entity "" venue.info.id)
      (venues'.delete venue.info.id) := by
  have removed : Exact (owners (venues.delete venue.info.id) Venue.entity) _ :=
    exact_remove exact found
  rw [ExactVenues, owners_delete, owners_congr same, ← owners_delete]
  exact removed

/-- What a plan writes to a reference and to the two lists. -/
theorem exact_requiredMove {α β γ : Type} [Keyed α String] [Keyed β String] [Keyed γ String]
    {owner : Table α} {member : VectorMember α} {table : Table γ} {column : γ → String}
    (exact : Exact (owners table column) (memberships owner member)) {old new : γ}
    (found : table.get? (key new) = some old) {body : JsonObject} {field : String}
    {targets : Table β} {missing : Errors} {fromId toId : String}
    (moved : requiredMove body field (column old) targets missing = .ok (fromId, toId, column new))
    (listed : ∀ id, idExists targets id = true → idExists owner id = true) :
    Exact (owners (table.update new) column)
      (memberships (manageMembership owner member fromId toId (key new)) member) := by
  rcases requiredMove_eq_ok moved with
    ⟨_, fromBlank, toBlank, kept⟩ | ⟨_, _, fromOld, toNew, _, present⟩
  · rw [fromBlank, toBlank, owners_update found, kept, ← owners_of_get? found,
      Function.update_eq_self]
    exact exact
  · rw [fromOld, toNew]
    exact exact_transfer exact found (Or.inr (listed _ present))

theorem exactVenues_update {ctx : Context} {db : Store}
    (exact : ExactVenues db.entityDB db.venueDB) {request : Request} {existing : Venue}
    {update : VenueUpdate} {located : Store}
    (updated : VenueUpdated ctx db request existing update located) :
    ExactVenues (venueDoPut ctx db request).store.entityDB
      (venueDoPut ctx db request).store.venueDB := by
  obtain ⟨body, _, _, _, entityMove, _⟩ := venueDoPutPlan_eq_ok updated.planned
  obtain ⟨sameTable, _, _⟩ := storeInlineLocation_eq_ok updated.stored
  have sameEntities := sameVenues_storeInlineLocation updated.stored
  have located' : ExactVenues located.entityDB located.venueDB :=
    exactVenues_congr exact sameEntities (sameTable ▸ .refl _ _)
  rw [updated.outcome, Outcome.store_done, moveVenue_entityDB, moveVenue_venueDB, ExactVenues,
    owners_manageChildren _ fun _ _ => rfl]
  apply exact_requiredMove located' updated.foundLocated entityMove
  intro id present
  obtain ⟨row, isRow⟩ := idExists_iff.mp present
  obtain ⟨row', isRow', _⟩ := sameEntities.symm.found isRow
  exact idExists_iff.mpr ⟨row', isRow'⟩

end ExactVenues

/-! ### All lists -/

/-- The writes of a creation. -/
theorem VenueLists.create (lists : VenueLists db) {venue : Venue} {venueDB : Table Venue}
    (inserted : db.venueDB.insert? venue = some venueDB) (filled : venue.info.id ≠ "")
    (leaf : venue.children = [])
    (entityFound : venue.entity = "" ∨ idExists db.entityDB venue.entity = true)
    (parentFound : venue.parent = "" ∨ idExists db.venueDB venue.parent = true) :
    VenueLists (moveVenue { db with venueDB := venueDB } venue.arrivals venue.info.id) := by
  have free : db.venueDB.get? (key venue) = none := Table.get?_key_of_insert? inserted
  have present : ∀ id, idExists db.venueDB id = true → idExists venueDB id = true := by
    intro id found
    obtain ⟨row, isRow⟩ := idExists_iff.mp found
    rw [idExists, Table.get?_insert? inserted]
    split
    · rfl
    · simp [isRow]
  have opened : Exact (owners db.venueDB Venue.parent)
      (memberships venueDB Venue.childrenMember) := by
    rw [memberships_insert? inserted, show Venue.childrenMember.get venue = [] from leaf]
    apply lists.children.insertOwner
    rw [memberships, free, Option.map_none]
  constructor
  case venues => exact exactVenues_create lists.venues inserted entityFound _
  case children =>
    rw [moveVenue_venueDB, owners_manageChildren _ fun _ _ => rfl]
    exact exact_create opened inserted (parentFound.imp_right (present _))
  case venueNamed =>
    rw [moveVenue_venueDB]
    have kept : Table.SameView Venue.parent venueDB
        (manageMembership venueDB Venue.childrenMember "" venue.parent venue.info.id) :=
      sameView_manageMembership (fun _ _ => rfl) _ _ _
    have apart : "" ≠ key venue := Ne.symm filled
    apply kept.get?_eq_none
    rw [Table.get?_insert? inserted, if_neg apart]
    exact lists.venueNamed

/-- The writes of a deletion. -/
theorem VenueLists.remove (lists : VenueLists db) {venue : Venue}
    (found : db.venueDB.get? venue.info.id = some venue) (leaf : venue.children = []) :
    VenueLists { moveVenue db venue.departures venue.info.id with
      venueDB := (moveVenue db venue.departures venue.info.id).venueDB.delete venue.info.id } := by
  have kept : ∀ view : Venue → String,
      (∀ ids venue, view (Venue.childrenMember.set ids venue) = view venue) →
      Table.SameView view db.venueDB (moveVenue db venue.departures venue.info.id).venueDB :=
    fun view apart => sameView_manageMembership apart _ _ _
  have unowned : ∀ c, owners (db.venueDB.delete venue.info.id) Venue.parent c ≠
      some venue.info.id := by
    intro c
    have vacant : memberships db.venueDB Venue.childrenMember venue.info.id = some 0 := by
      rw [memberships, found, Option.map_some]
      exact congrArg (fun ids : List String => some (ids : Multiset String)) leaf
    rw [owners_delete]
    by_cases same : c = venue.info.id
    · rw [same, Function.update_self]
      rintro ⟨⟩
    · rw [Function.update_of_ne same]
      exact lists.children.unowned vacant c
  constructor
  case venues => exact exactVenues_remove lists.venues found (kept Venue.entity fun _ _ => rfl)
  case children =>
    rw [owners_delete, moveVenue_venueDB, owners_manageChildren _ fun _ _ => rfl,
      ← owners_delete, memberships_delete]
    exact (exact_remove lists.children found).deleteOwner unowned
  case venueNamed =>
    have missing : (moveVenue db venue.departures venue.info.id).venueDB.get? "" = none :=
      (kept Venue.parent fun _ _ => rfl).get?_eq_none lists.venueNamed
    rw [Table.get?_delete, missing, ite_self]

/-- The writes of an update. -/
theorem VenueLists.update (lists : VenueLists db) {request : Request} {existing : Venue}
    {update : VenueUpdate} {located : Store}
    (updated : VenueUpdated ctx db request existing update located) :
    VenueLists (moveVenue { located with venueDB := located.venueDB.update update.updated }
      update.moves update.updated.info.id) := by
  obtain ⟨body, _, _, children, _, venueMove⟩ := venueDoPutPlan_eq_ok updated.planned
  obtain ⟨sameTable, _, _⟩ := storeInlineLocation_eq_ok updated.stored
  have located' := lists.storeInlineLocation updated.stored
  have found := updated.foundLocated
  have sameLists : memberships (located.venueDB.update update.updated) Venue.childrenMember =
      memberships located.venueDB Venue.childrenMember :=
    memberships_congr (Table.SameView.update found children)
  constructor
  case venues =>
    have exact := exactVenues_update lists.venues updated
    rw [updated.outcome] at exact
    exact exact
  case children =>
    rw [moveVenue_venueDB, owners_manageChildren _ fun _ _ => rfl]
    have exact : Exact (owners located.venueDB Venue.parent)
        (memberships (located.venueDB.update update.updated) Venue.childrenMember) :=
      sameLists ▸ located'.children
    apply exact_requiredMove exact found venueMove
    intro id present
    have known : (memberships located.venueDB Venue.childrenMember id).isSome := by
      rw [isSome_memberships, sameTable]
      exact present
    rw [← sameLists, isSome_memberships] at known
    exact known
  case venueNamed =>
    have kept : Table.SameView Venue.parent (located.venueDB.update update.updated)
        (moveVenue { located with venueDB := located.venueDB.update update.updated }
          update.moves update.updated.info.id).venueDB :=
      sameView_manageMembership (fun _ _ => rfl) _ _ _
    apply kept.get?_eq_none
    rw [Table.get?_update, located'.venueNamed, Option.map_none, ite_self]

end Venues

/-! ## The entity of the parent -/

section SameEntity

variable {ctx : Context} {db : Store} {table table' : Table Venue}

theorem SameEntity.insert (agree : SameEntity table) {venue : Venue}
    (inserted : table.insert? venue = some table')
    (placed : venue.parent = "" ∨
      ∃ parent, table.get? venue.parent = some parent ∧ parent.entity = venue.entity) :
    SameEntity table' := by
  have keeps : ∀ id row, table.get? id = some row → table'.get? id = some row := by
    intro id row found
    rw [Table.get?_insert? inserted, if_neg, found]
    rintro rfl
    rw [Table.get?_key_of_insert? inserted] at found
    cases found
  intro id child found filled
  rw [Table.get?_insert? inserted] at found
  split at found
  · cases found
    obtain ⟨parent, isParent, entities⟩ := placed.resolve_left filled
    exact ⟨parent, keeps _ _ isParent, entities⟩
  · obtain ⟨parent, isParent, entities⟩ := agree id child found filled
    exact ⟨parent, keeps _ _ isParent, entities⟩

theorem SameEntity.delete (agree : SameEntity table) {id : String}
    (unowned : ∀ c, owners table Venue.parent c ≠ some id) : SameEntity (table.delete id) := by
  intro other child found filled
  rw [Table.get?_delete] at found
  split at found
  · cases found
  · obtain ⟨parent, isParent, entities⟩ := agree other child found filled
    have apart : child.parent ≠ id := by
      intro equal
      exact unowned other (owners_eq_some_iff.mpr ⟨child, found, equal, equal ▸ filled⟩)
    exact ⟨parent, by rw [Table.get?_delete, if_neg apart, isParent], entities⟩

/-- A new version of a venue belongs to the entity of its parent and of its children. -/
structure FitsHierarchy (table : Table Venue) (existing updated : Venue) : Prop where
  above : updated.parent ≠ "" → updated.parent ≠ updated.info.id →
    ∀ parent, table.get? updated.parent = some parent → parent.entity = updated.entity
  below : updated.entity ≠ existing.entity →
    ∀ id child, table.get? id = some child → child.parent = updated.info.id →
      id = updated.info.id

theorem sameEntity_update_iff (agree : SameEntity table) {existing updated : Venue}
    (found : table.get? (key updated) = some existing) (filled : updated.info.id ≠ "")
    (parentFound : updated.parent = "" ∨ idExists table updated.parent = true) :
    SameEntity (table.update updated) ↔ FitsHierarchy table existing updated := by
  have self : (table.update updated).get? updated.info.id = some updated :=
    Table.get?_update_self found
  have others : ∀ id, id ≠ updated.info.id → (table.update updated).get? id = table.get? id :=
    fun id apart => Table.get?_update_of_ne table apart
  constructor
  · intro after
    constructor
    case above =>
      intro named apart parent isParent
      obtain ⟨parent', isParent', entities⟩ := after _ updated self named
      rw [others _ apart, isParent, Option.some.injEq] at isParent'
      rw [isParent', entities]
    case below =>
      intro moved id child isChild isParent
      by_contra apart
      obtain ⟨parent, isUpdated, entities⟩ :=
        after id child (by rw [others id apart, isChild]) (isParent ▸ filled)
      obtain ⟨parent', isExisting, entities'⟩ := agree id child isChild (isParent ▸ filled)
      rw [isParent, self, Option.some.injEq] at isUpdated
      rw [isParent, show table.get? updated.info.id = some existing from found,
        Option.some.injEq] at isExisting
      rw [isUpdated, isExisting, entities, entities'] at moved
      exact moved rfl
  · intro fits id child isChild named
    by_cases isUpdated : id = updated.info.id
    · rw [isUpdated, self, Option.some.injEq] at isChild
      subst isChild
      by_cases loop : updated.parent = updated.info.id
      · exact ⟨updated, by rw [loop, self], rfl⟩
      · obtain ⟨parent, isParent⟩ := idExists_iff.mp (parentFound.resolve_left named)
        exact ⟨parent, by rw [others _ loop, isParent], fits.above named loop parent isParent⟩
    · rw [others id isUpdated] at isChild
      obtain ⟨parent, isParent, entities⟩ := agree id child isChild named
      by_cases below : child.parent = updated.info.id
      · rw [below, show table.get? updated.info.id = some existing from found,
          Option.some.injEq] at isParent
        refine ⟨updated, by rw [below, self], ?_⟩
        by_contra differ
        apply isUpdated
        apply fits.below _ id child isChild below
        rw [isParent, entities]
        exact differ
      · exact ⟨parent, by rw [others _ below, isParent], entities⟩

end SameEntity

/-! ## Requests -/

/-- The reference of a venue after an update: the one that the body names, else the existing
one. -/
def newReference (body : JsonObject) (field existing : String) : String :=
  if body.has field then body.stringField field else existing

/-- The body of an update names the entity of the new parent, and keeps the entity of a venue
that has children. -/
def KeepsHierarchy (db : Store) (request : Request) : Prop :=
  venueCommand request = none →
    ∀ existing body, db.venueDB.get? (request.getBinding "uuid") = some existing →
      request.body = some body →
      FitsHierarchy db.venueDB existing
        { existing with
          entity := newReference body "entity" existing.entity
          parent := newReference body "venue" existing.parent }

/-- Entities and venues are linked in both directions, and children belong to the entity of
their parent. -/
structure VenueHierarchy (db : Store) : Prop where
  entities : EntityTree db.entityDB
  lists : VenueLists db
  agree : SameEntity db.venueDB

theorem value_eq_newReference {β : Type} [Keyed β String] {body : JsonObject}
    {field existing : String} {table : Table β} {missing : Errors} {fromId toId value : String}
    (moved : requiredMove body field existing table missing = .ok (fromId, toId, value)) :
    value = newReference body field existing := by
  rcases requiredMove_eq_ok moved with ⟨absent, _, _, kept⟩ | ⟨present, read, _⟩
  · simp [newReference, absent, kept]
  · rw [newReference, if_pos present, stringField_of_getString read]

/-- An update that is carried out writes the references that its body names. -/
theorem VenueUpdated.fitsHierarchy_iff {ctx : Context} {db located : Store} {request : Request}
    {existing : Venue} {update : VenueUpdate}
    (updated : VenueUpdated ctx db request existing update located)
    (plain : venueCommand request = none) :
    FitsHierarchy db.venueDB existing update.updated ↔ KeepsHierarchy db request := by
  obtain ⟨body, isBody, sameId, _, entityMove, venueMove⟩ := venueDoPutPlan_eq_ok updated.planned
  have entity := value_eq_newReference entityMove
  have parent := value_eq_newReference venueMove
  have sameFit : FitsHierarchy db.venueDB existing update.updated ↔
      FitsHierarchy db.venueDB existing
        { existing with
          entity := newReference body "entity" existing.entity
          parent := newReference body "venue" existing.parent } := by
    constructor
    · rintro ⟨above, below⟩
      rw [entity, parent, sameId] at above
      rw [entity, sameId] at below
      exact ⟨above, below⟩
    · rintro ⟨above, below⟩
      constructor
      · rw [entity, parent, sameId]
        exact above
      · rw [entity, sameId]
        exact below
  rw [sameFit]
  constructor
  · intro fits _ existing' body' found isBody'
    obtain rfl := Option.some.inj (updated.found.symm.trans found)
    obtain rfl := Option.some.inj (isBody.symm.trans isBody')
    exact fits
  · intro keeps
    exact keeps plain existing body updated.found isBody

namespace VenueHierarchy

variable {ctx : Context} {db : Store}

theorem storeInlineLocation (hierarchy : VenueHierarchy db) {located : Store}
    {location : Option Location} (stored : storeInlineLocation db location = .ok located) :
    VenueHierarchy located := by
  obtain ⟨venueDB, _, entityDB⟩ := storeInlineLocation_eq_ok stored
  constructor
  case entities =>
    rcases entityDB with unchanged | ⟨entity, id, added⟩
    · rw [unchanged]
      exact hierarchy.entities
    · rw [added]
      exact hierarchy.entities.addToList offTree_locations entity id
  case lists => exact hierarchy.lists.storeInlineLocation stored
  case agree =>
    rw [venueDB]
    exact hierarchy.agree

theorem autoCreateCreatorRole (hierarchy : VenueHierarchy db)
    (entityId venueId parentEntityId parentVenueId roleId : String) :
    VenueHierarchy
      (autoCreateCreatorRole ctx db entityId venueId parentEntityId parentVenueId roleId).1 := by
  constructor
  case entities =>
    obtain ⟨unchanged | added, _⟩ := autoCreateCreatorRole_tables ctx db entityId venueId
      parentEntityId parentVenueId roleId
    · rw [unchanged]
      exact hierarchy.entities
    · rw [added]
      exact hierarchy.entities.addToList offTree_managementRoles entityId roleId
  case lists =>
    exact hierarchy.lists.congr
      (sameEntities_autoCreateCreatorRole ctx _ _ _ _ _ fun _ _ => rfl)
      (sameVenues_autoCreateCreatorRole ctx _ _ _ _ _ fun _ _ => rfl)
  case agree =>
    exact hierarchy.agree.congr (sameVenues_autoCreateCreatorRole ctx _ _ _ _ _ fun _ _ => rfl)

theorem entityMethod (hierarchy : VenueHierarchy db) (method : EntityMethod)
    (fresh : ctx.Fresh db) (request : Request) :
    VenueHierarchy (method.handle ctx db request).store where
  entities := hierarchy.entities.handle method fresh request
  lists := hierarchy.lists.entityMethod method fresh request
  agree := by
    rw [method.venueDB_handle]
    exact hierarchy.agree

theorem venueDoPost (hierarchy : VenueHierarchy db) (fresh : ctx.Fresh db) (request : Request) :
    VenueHierarchy (venueDoPost ctx db request).store := by
  rcases venueDoPost_cases fresh request with
    unchanged | ⟨venue, location, located, venueDB, created⟩
  · rw [unchanged]
    exact hierarchy
  · obtain ⟨id, leaf, parentFound⟩ := venueDoPostPlan_eq_ok created.planned
    obtain ⟨entityFound, parentEntity⟩ := entity_of_venueDoPostPlan created.planned
    obtain ⟨sameTable, _, _⟩ := storeInlineLocation_eq_ok created.stored
    have entities := sameVenues_storeInlineLocation created.stored
    have located' := hierarchy.storeInlineLocation created.stored
    have filled : venue.info.id ≠ "" := id ▸ fresh.filled 0
    rw [created.outcome, Outcome.store_done]
    apply autoCreateCreatorRole
    constructor
    case entities => exact located'.entities.manageList offTree_venues _ _ _
    case lists =>
      apply located'.lists.create created.inserted filled leaf ?_ (sameTable ▸ parentFound)
      refine entityFound.imp_right fun present => ?_
      obtain ⟨row, isRow⟩ := idExists_iff.mp present
      obtain ⟨row', isRow', _⟩ := entities.symm.found isRow
      exact idExists_iff.mpr ⟨row', isRow'⟩
    case agree =>
      have inserted : SameEntity venueDB :=
        located'.agree.insert created.inserted (sameTable ▸ parentEntity)
      exact inserted.congr (sameView_manageMembership (fun _ _ => rfl) _ _ _)

theorem venueDoDelete (hierarchy : VenueHierarchy db) (request : Request) :
    VenueHierarchy (venueDoDelete db request).store := by
  rcases venueDoDelete_cases db request with unchanged | ⟨existing, planned, deleted⟩
  · rw [unchanged]
    exact hierarchy
  · obtain ⟨found, leaf⟩ := venueDoDeletePlan_eq_ok planned
    have removed := hierarchy.lists.remove found leaf
    have vacant : memberships db.venueDB Venue.childrenMember existing.info.id = some 0 := by
      rw [memberships, found, Option.map_some]
      exact congrArg (fun ids : List String => some (ids : Multiset String)) leaf
    have kept : Table.SameView Venue.place db.venueDB
        (moveVenue db existing.departures existing.info.id).venueDB :=
      sameView_manageMembership (fun _ _ => rfl) _ _ _
    rw [deleted]
    dsimp only
    constructor
    case entities =>
      simp only [deleteScopeRoles_entityDB, moveVenue_entityDB]
      exact hierarchy.entities.manageList offTree_venues _ _ _
    case lists =>
      apply removed.congr
      · simp only [deleteScopeRoles_entityDB]
        exact .refl _ _
      · simp only [deleteScopeRoles_venueDB]
        exact .refl _ _
    case agree =>
      simp only [deleteScopeRoles_venueDB]
      apply (hierarchy.agree.congr kept).delete
      intro c
      have column : owners (moveVenue db existing.departures existing.info.id).venueDB
          Venue.parent = owners db.venueDB Venue.parent := owners_congr (kept.comp Prod.snd)
      rw [column]
      exact hierarchy.lists.children.unowned vacant c

theorem venueDoPut_of_updated (hierarchy : VenueHierarchy db) {request : Request}
    {existing : Venue} {update : VenueUpdate} {located : Store}
    (updated : VenueUpdated ctx db request existing update located) :
    SameEntity (Owprov.venueDoPut ctx db request).store.venueDB ↔
      FitsHierarchy db.venueDB existing update.updated := by
  obtain ⟨body, _, _, _, _, venueMove⟩ := venueDoPutPlan_eq_ok updated.planned
  obtain ⟨sameTable, _, _⟩ := storeInlineLocation_eq_ok updated.stored
  have found := updated.foundLocated
  rw [sameTable] at found
  have filled : update.updated.info.id ≠ "" := by
    intro blank
    rw [show key update.updated = update.updated.info.id from rfl, blank,
      hierarchy.lists.venueNamed] at found
    cases found
  have parentFound : update.updated.parent = "" ∨
      idExists db.venueDB update.updated.parent = true := by
    rcases requiredMove_eq_ok venueMove with ⟨_, _, _, kept⟩ | ⟨_, _, _, _, _, present⟩
    · rw [kept]
      by_cases named : existing.parent = ""
      · exact Or.inl named
      · obtain ⟨parent, isParent, _⟩ := hierarchy.agree _ existing found named
        exact Or.inr (idExists_iff.mpr ⟨parent, isParent⟩)
    · exact Or.inr present
  have kept : Table.SameView Venue.place (db.venueDB.update update.updated)
      (Owprov.venueDoPut ctx db request).store.venueDB := by
    rw [updated.outcome, Outcome.store_done, moveVenue_venueDB, sameTable]
    exact sameView_manageMembership (fun _ _ => rfl) _ _ _
  rw [← sameEntity_update_iff hierarchy.agree found filled parentFound]
  exact ⟨fun agree => agree.congr kept.symm, fun agree => agree.congr kept⟩

theorem venueDoPut (hierarchy : VenueHierarchy db) {request : Request}
    (condition : (venueDoPut ctx db request).Succeeds → KeepsHierarchy db request) :
    VenueHierarchy (venueDoPut ctx db request).store := by
  rcases venueDoPut_cases ctx db request with
    ⟨unchanged, _⟩ | ⟨plain, existing, update, located, updated⟩
  · rw [unchanged]
    exact hierarchy
  · have keeps : KeepsHierarchy db request := condition (by rw [updated.outcome]; rfl)
    have fits := (updated.fitsHierarchy_iff plain).mpr keeps
    constructor
    case entities =>
      rw [updated.outcome, Outcome.store_done, moveVenue_entityDB]
      exact (hierarchy.storeInlineLocation updated.stored).entities.manageList offTree_venues _ _ _
    case lists =>
      rw [updated.outcome, Outcome.store_done]
      exact hierarchy.lists.update updated
    case agree => exact (hierarchy.venueDoPut_of_updated updated).mpr fits

end VenueHierarchy

/-- The condition is exact: an update that is carried out and breaks it separates a venue from
the entity of its parent. -/
theorem sameEntity_venueDoPut_iff {ctx : Context} {db : Store} {request : Request}
    (hierarchy : VenueHierarchy db) (succeeds : (venueDoPut ctx db request).Succeeds) :
    SameEntity (venueDoPut ctx db request).store.venueDB ↔ KeepsHierarchy db request := by
  constructor
  · intro agree plain
    rcases venueDoPut_cases ctx db request with
      ⟨_, command | failed⟩ | ⟨_, existing, update, located, updated⟩
    · simp [plain] at command
    · exact absurd succeeds failed
    · have fits := (hierarchy.venueDoPut_of_updated updated).mp agree
      exact (updated.fitsHierarchy_iff plain).mp fits plain
  · intro keeps
    exact (hierarchy.venueDoPut fun _ => keeps).agree

/-! ## Runs -/

/-- One request, whoever sends it, where an accepted venue update meets a condition. -/
def FreshTreeStep (condition : Store → Request → Prop) (db db' : Store) : Prop :=
  ∃ (method : TreeMethod) (ctx : Context) (request : Request), ctx.Fresh db ∧
    (method = .venuePut → (method.handle ctx db request).Succeeds → condition db request) ∧
      db' = (method.handle ctx db request).store

/-- Children belong to the entity of their parent, and the lists hold what the fields say. -/
structure ConsistentHierarchy (db : Store) : Prop where
  sameEntity : SameEntity db.venueDB
  venues : ∀ entity ∈ db.entityDB.rows, entity.venues.Nodup ∧
    ∀ id, id ∈ entity.venues ↔
      ∃ venue, db.venueDB.get? id = some venue ∧ venue.entity = entity.info.id
  children : ∀ venue ∈ db.venueDB.rows, venue.children.Nodup ∧
    ∀ id, id ∈ venue.children ↔
      ∃ child, db.venueDB.get? id = some child ∧ child.parent = venue.info.id

theorem VenueHierarchy.consistent {db : Store} (hierarchy : VenueHierarchy db) :
    ConsistentHierarchy db := by
  constructor
  case sameEntity => exact hierarchy.agree
  case venues =>
    intro entity member
    have found : db.entityDB.get? entity.info.id = some entity := Table.get?_key_of_mem member
    exact exact_list hierarchy.lists.venues (hierarchy.entities.placement.ne_empty found) found
  case children =>
    intro venue member
    have found : db.venueDB.get? venue.info.id = some venue := Table.get?_key_of_mem member
    have filled : venue.info.id ≠ "" := by
      intro blank
      rw [blank, hierarchy.lists.venueNamed] at found
      cases found
    exact exact_list hierarchy.lists.children filled found

theorem venueHierarchy_start {db : Store} (start : ServiceStart db) : VenueHierarchy db := by
  have initial : VenueHierarchy initialStore := by
    refine ⟨entityTree_initial, ⟨?_, ?_, rfl⟩, by rintro id venue ⟨⟩⟩
    · constructor
      case count =>
        intro p list found c
        obtain ⟨entity, isEntity, rfl⟩ := memberships_eq_some_iff.mp found
        rw [initialStore, Table.get?_singleton] at isEntity
        split at isEntity
        · cases isEntity
          rfl
        · cases isEntity
      case grounded => rintro c p ⟨⟩
    · constructor
      case count => rintro p list ⟨⟩
      case grounded => rintro c p ⟨⟩
  cases start with
  | bare => exact initial
  | served operatorId serviceId _ =>
      exact ⟨initial.entities, initial.lists.congr (.refl _ _) (.refl _ _), initial.agree⟩

theorem VenueHierarchy.step {db db' : Store} (hierarchy : VenueHierarchy db)
    (isStep : FreshTreeStep KeepsHierarchy db db') : VenueHierarchy db' := by
  obtain ⟨method, ctx, request, fresh, condition, rfl⟩ := isStep
  cases method with
  | entity method => exact hierarchy.entityMethod method fresh request
  | venuePost => exact hierarchy.venueDoPost fresh request
  | venuePut => exact hierarchy.venueDoPut (condition rfl)
  | venueDelete => exact hierarchy.venueDoDelete request

/-- As long as every update keeps a venue, its parent and its children in one entity, the
hierarchy is consistent. -/
theorem consistent_hierarchy_of_run {db : Store}
    (reached : Reachable ServiceStart (FreshTreeStep KeepsHierarchy) db) :
    ConsistentHierarchy db :=
  (reached.invariant (fun _ => venueHierarchy_start)
    fun _ _ => VenueHierarchy.step).consistent

/-! ### A parent in another entity -/

/-- An update that gives a venue another entity. -/
def transferRequest (venueId entityId : String) : Request where
  method := .put
  uri := "/api/v1/venue/" ++ venueId
  bindings := [("uuid", venueId)]
  body := some [("entity", .str entityId)]

/-- The database with a venue below another one. -/
def hungVenue : Store :=
  (venueDoPut (rootContext 40) twoVenues (hangRequest (unaryId 31) (unaryId 21))).store

/-- The database with another entity. -/
def otherEntity : Store :=
  (EntityMethod.entityPost.handle (rootContext 50) hungVenue entityRequest).store

theorem oneVenue_reached {condition : Store → Request → Prop} :
    Reachable ServiceStart (FreshTreeStep condition) oneVenue := by
  have entityStored : FreshTreeStep condition initialStore
      (EntityMethod.entityPost.handle (rootContext 14) initialStore entityRequest).store :=
    ⟨.entity .entityPost, rootContext 14, entityRequest, rootContext_fresh (by decide),
      by rintro ⟨⟩, rfl⟩
  exact .step (.step (.start .bare) entityStored)
    ⟨.venuePost, rootContext 20, venueRequest "North", rootContext_fresh (by decide),
      by rintro ⟨⟩, rfl⟩

theorem twoVenues_reached {condition : Store → Request → Prop} :
    Reachable ServiceStart (FreshTreeStep condition) twoVenues :=
  .step oneVenue_reached
    ⟨.venuePost, rootContext 30, venueRequest "South", rootContext_fresh (by decide),
      by rintro ⟨⟩, rfl⟩

/-- A venue moves to another entity and leaves its child behind. -/
theorem child_left_behind :
    ¬ ∀ db, Reachable ServiceStart (FreshTreeStep fun _ _ => True) db →
      ConsistentHierarchy db := by
  intro claim
  have hung : FreshTreeStep (fun _ _ => True) twoVenues hungVenue :=
    ⟨.venuePut, rootContext 40, hangRequest (unaryId 31) (unaryId 21),
      rootContext_fresh (by decide), fun _ _ => trivial, rfl⟩
  have opened : FreshTreeStep (fun _ _ => True) hungVenue otherEntity :=
    ⟨.entity .entityPost, rootContext 50, entityRequest, rootContext_fresh (by decide),
      by rintro ⟨⟩, rfl⟩
  have moved : FreshTreeStep (fun _ _ => True) otherEntity
      (venueDoPut (rootContext 60) otherEntity
        (transferRequest (unaryId 21) (unaryId 52))).store :=
    ⟨.venuePut, rootContext 60, transferRequest (unaryId 21) (unaryId 52),
      rootContext_fresh (by decide), fun _ _ => trivial, rfl⟩
  have reached := Reachable.step (.step (.step twoVenues_reached hung) opened) moved
  have child : ((venueDoPut (rootContext 60) otherEntity
      (transferRequest (unaryId 21) (unaryId 52))).store.venueDB.get? (unaryId 31)).map
        Venue.place = some (unaryId 16, unaryId 21) := by decide
  have parent : ((venueDoPut (rootContext 60) otherEntity
      (transferRequest (unaryId 21) (unaryId 52))).store.venueDB.get? (unaryId 21)).map
        Venue.place = some (unaryId 52, "") := by decide
  obtain ⟨venue, isVenue, placed⟩ := Option.map_eq_some_iff.mp child
  rw [Venue.place, Prod.mk.injEq] at placed
  have named : venue.parent ≠ "" := by
    rw [placed.2]
    decide
  obtain ⟨above, isAbove, entities⟩ := (claim _ reached).sameEntity _ venue isVenue named
  rw [placed.2] at isAbove
  rw [isAbove, Option.map_some, Option.some.injEq, Venue.place, Prod.mk.injEq] at parent
  rw [parent.1, placed.1] at entities
  exact absurd entities (by decide)

/-- A venue of the same entity may be hung below another one. -/
theorem consistent_hierarchy_after_hang :
    ∃ db, (db.venueDB.rows.map fun venue => (venue.entity, venue.parent, venue.children)) =
        [(unaryId 16, "", [unaryId 31]), (unaryId 16, unaryId 21, [])] ∧
      ConsistentHierarchy db := by
  have south : (twoVenues.venueDB.get? (unaryId 31)).map Venue.entity = some (unaryId 16) := by
    decide
  have north : (twoVenues.venueDB.get? (unaryId 21)).map Venue.entity = some (unaryId 16) := by
    decide
  have keeps : KeepsHierarchy twoVenues (hangRequest (unaryId 31) (unaryId 21)) := by
    rintro _ existing body found ⟨⟩
    rw [show twoVenues.venueDB.get? (unaryId 31) = some existing from found, Option.map_some,
      Option.some.injEq] at south
    constructor
    case above =>
      intro _ _ parent isParent
      rw [show twoVenues.venueDB.get? (unaryId 21) = some parent from isParent, Option.map_some,
        Option.some.injEq] at north
      exact north.trans south.symm
    case below => exact fun moved => absurd rfl moved
  exact ⟨hungVenue, by decide,
    consistent_hierarchy_of_run (.step twoVenues_reached
      ⟨.venuePut, rootContext 40, hangRequest (unaryId 31) (unaryId 21),
        rootContext_fresh (by decide), fun _ _ => keeps, rfl⟩)⟩

end Owprov
