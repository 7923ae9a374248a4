import Owprov.EntityTree
import Owprov.VenueHandlers

/-!
# The venue forest

Creating a venue adds a leaf and deleting one removes a leaf.  An update may hang a venue
below any other venue, and the handler does not ask whether that one is below the venue
itself.  Where updates avoid this, the venues form a forest and the recursions over them
stop.
-/

namespace Owprov

open RowTable LinkedForest AcyclicRelation

/-- The parents form no cycle, every list of children agrees with them, and the empty id
names nothing. -/
structure VenueForest (forest : Forest String) : Prop where
  consistent : Consistent forest
  acyclic : Acyclic (ParentEdge forest)
  named : (forest "").isSome = false

namespace VenueForest

variable {forest : Forest String}

theorem insertLeaf (venues : VenueForest forest) {id : String} {parent : Option String}
    (fresh : forest id = none) (filled : id ≠ "")
    (existing : ∀ b, parent = some b → (forest b).isSome) :
    VenueForest (insertLeaf forest id parent) := by
  have notSelf : parent ≠ some id := by
    intro self
    have found := existing id self
    rw [fresh] at found
    cases found
  exact
    { consistent := venues.consistent.insertLeaf fresh existing
      acyclic := acyclic_insertLeaf venues.acyclic venues.consistent fresh notSelf
      named := (isSome_insertLeaf_of_ne (Ne.symm filled)).trans venues.named }

theorem deleteLeaf (venues : VenueForest forest) {id : String} {links : Links String}
    (found : forest id = some links) (leaf : links.children = 0) :
    VenueForest (deleteLeaf forest id links.parent) := by
  have filled : "" ≠ id := by
    rintro rfl
    have blank := venues.named
    rw [found] at blank
    cases blank
  exact
    { consistent := venues.consistent.deleteLeaf found leaf
      acyclic := acyclic_deleteLeaf venues.acyclic
      named := (isSome_deleteLeaf_of_ne filled).trans venues.named }

theorem move (venues : VenueForest forest) {id : String} {links : Links String}
    {new : Option String} (found : forest id = some links)
    (existing : ∀ b, new = some b → (forest b).isSome)
    (apart : ∀ b, new = some b → ¬ Relation.ReflTransGen (ParentEdge forest) b id) :
    VenueForest (move forest id links.parent new) where
  consistent := venues.consistent.move found existing
  acyclic := acyclic_move venues.acyclic apart
  named := isSome_move.trans venues.named

end VenueForest

/-! ## The writes of the handler -/

section Writes

variable {table table' : Table Venue}

theorem forest_addRole (venueId roleId : String) :
    venueColumns.forest (addMembership table Venue.managementRolesMember venueId roleId) =
      venueColumns.forest table :=
  LinkColumns.forest_addMembership_of_apart _ (fun _ _ => rfl) venueId roleId

theorem forest_manageChildren (fromId toId id : String) :
    venueColumns.forest (manageMembership table Venue.childrenMember fromId toId id) =
      addToParent (removeFromParent (venueColumns.forest table) (optionalId fromId) id)
        (optionalId toId) id := by
  have added : venueColumns.forest
      (addMembership (removeMembership table venueColumns.children fromId id)
        venueColumns.children toId id) = _ := LinkColumns.forest_addMembership toId id
  rw [LinkColumns.forest_removeMembership] at added
  exact added

theorem isSome_forest_of_exists {parentId : String}
    (parentFound : parentId = "" ∨ idExists table parentId = true) :
    ∀ b, optionalId parentId = some b → (venueColumns.forest table b).isSome := by
  intro b isParent
  obtain ⟨rfl, filled⟩ := optionalId_eq_some_iff.mp isParent
  obtain ⟨parent, found⟩ := idExists_iff.mp (parentFound.resolve_left filled)
  simp [LinkColumns.forest, found]

/-- The writes of a creation. -/
theorem VenueForest.create (venues : VenueForest (venueColumns.forest table)) {venue : Venue}
    (inserted : table.insert? venue = some table') (filled : venue.info.id ≠ "")
    (leaf : venue.children = [])
    (parentFound : venue.parent = "" ∨ idExists table venue.parent = true) :
    VenueForest (venueColumns.forest
      (manageMembership table' Venue.childrenMember "" venue.parent venue.info.id)) := by
  have links : venueColumns.links venue = ⟨optionalId venue.parent, 0⟩ := by
    simp [LinkColumns.links, venueColumns, Venue.childrenMember, leaf]
  rw [forest_manageChildren, LinkColumns.forest_insert? inserted, links, optionalId_empty]
  exact venues.insertLeaf
    (LinkColumns.forest_eq_none_iff.mpr (Table.get?_key_of_insert? inserted)) filled
    (isSome_forest_of_exists parentFound)

/-- The writes of a deletion. -/
theorem VenueForest.remove (venues : VenueForest (venueColumns.forest table)) {venue : Venue}
    (found : table.get? venue.info.id = some venue) (leaf : venue.children = []) :
    VenueForest (venueColumns.forest
      ((manageMembership table Venue.childrenMember venue.parent "" venue.info.id).delete
        venue.info.id)) := by
  have linked : venueColumns.forest table venue.info.id = some (venueColumns.links venue) :=
    LinkColumns.forest_eq_some_iff.mpr ⟨venue, found, rfl⟩
  rw [LinkColumns.forest_delete, forest_manageChildren, optionalId_empty, addToParent,
    Option.elim_none, update_none_removeFromParent]
  apply venues.deleteLeaf linked
  simp [LinkColumns.links, venueColumns, Venue.childrenMember, leaf]

/-- An update that hangs a venue below another one is a move. -/
theorem forest_hang {existing updated : Venue} (found : table.get? (key updated) = some existing)
    (children : updated.children = existing.children) :
    venueColumns.forest
      (manageMembership (table.update updated) Venue.childrenMember existing.parent
        updated.parent updated.info.id) =
      move (venueColumns.forest table) updated.info.id (optionalId existing.parent)
        (optionalId updated.parent) := by
  rw [forest_manageChildren, LinkColumns.forest_update_parent found children]
  rfl

/-- The writes of an update that hangs the venue below another one. -/
theorem VenueForest.hang (venues : VenueForest (venueColumns.forest table))
    {existing updated : Venue} (found : table.get? (key updated) = some existing)
    (children : updated.children = existing.children)
    (parentFound : idExists table updated.parent = true)
    (apart : ¬ Relation.ReflTransGen (ParentEdge (venueColumns.forest table)) updated.parent
      updated.info.id) :
    VenueForest (venueColumns.forest
      (manageMembership (table.update updated) Venue.childrenMember existing.parent
        updated.parent updated.info.id)) := by
  have linked : venueColumns.forest table updated.info.id = some (venueColumns.links existing) :=
    LinkColumns.forest_eq_some_iff.mpr ⟨existing, found, rfl⟩
  rw [forest_hang found children]
  refine venues.move linked (isSome_forest_of_exists (Or.inr parentFound)) ?_
  intro b isParent
  obtain ⟨rfl, _⟩ := optionalId_eq_some_iff.mp isParent
  exact apart

/-- The writes of an update that keeps the parent. -/
theorem VenueForest.keep (venues : VenueForest (venueColumns.forest table))
    {existing updated : Venue} (found : table.get? (key updated) = some existing)
    (children : updated.children = existing.children)
    (parent : updated.parent = existing.parent) :
    VenueForest (venueColumns.forest
      (manageMembership (table.update updated) Venue.childrenMember "" "" updated.info.id)) := by
  rw [forest_manageChildren, LinkColumns.forest_update found]
  · exact venues
  · simp [LinkColumns.links, venueColumns, Venue.childrenMember, parent, children]

end Writes

/-! ## Requests -/

/-- The links of entities and venues are sound. -/
structure SoundLinks (db : Store) : Prop where
  entities : EntityTree db.entityDB
  venues : VenueForest (venueColumns.forest db.venueDB)

section Requests

variable {ctx : Context} {db : Store}

theorem SoundLinks.storeInlineLocation (sound : SoundLinks db) {located : Store}
    {location : Option Location} (stored : storeInlineLocation db location = .ok located) :
    SoundLinks located := by
  obtain ⟨venueDB, _, entityDB⟩ := storeInlineLocation_eq_ok stored
  constructor
  · rcases entityDB with same | ⟨entity, id, added⟩
    · exact same ▸ sound.entities
    · exact added ▸ sound.entities.addToList offTree_locations entity id
  · exact venueDB ▸ sound.venues

theorem SoundLinks.autoCreateCreatorRole (sound : SoundLinks db)
    (entityId venueId parentEntityId parentVenueId roleId : String) :
    SoundLinks
      (autoCreateCreatorRole ctx db entityId venueId parentEntityId parentVenueId roleId).1 := by
  obtain ⟨entityDB, venueDB⟩ := autoCreateCreatorRole_tables ctx db entityId venueId
    parentEntityId parentVenueId roleId
  constructor
  · rcases entityDB with same | added
    · exact same ▸ sound.entities
    · exact added ▸ sound.entities.addToList offTree_managementRoles entityId roleId
  · rcases venueDB with same | added
    · exact same ▸ sound.venues
    · rw [added, forest_addRole]
      exact sound.venues

theorem SoundLinks.venueDoPost (sound : SoundLinks db) (fresh : ctx.Fresh db)
    (request : Request) : SoundLinks (venueDoPost ctx db request).store := by
  rcases venueDoPost_cases fresh request with
    unchanged | ⟨venue, location, located, table, created⟩
  · rw [unchanged]
    exact sound
  · obtain ⟨id, leaf, parentFound⟩ := venueDoPostPlan_eq_ok created.planned
    have soundLocated := sound.storeInlineLocation created.stored
    obtain ⟨venueDB, _, _⟩ := storeInlineLocation_eq_ok created.stored
    have filled : venue.info.id ≠ "" := id ▸ fresh.filled 0
    have moved : SoundLinks
        (moveVenue { located with venueDB := table } venue.arrivals venue.info.id) :=
      { entities := soundLocated.entities.manageList offTree_venues _ _ _
        venues := soundLocated.venues.create created.inserted filled leaf (venueDB ▸ parentFound) }
    rw [created.outcome, Outcome.store_done]
    exact moved.autoCreateCreatorRole _ _ _ _ _

theorem SoundLinks.venueDoDelete (sound : SoundLinks db) (request : Request) :
    SoundLinks (venueDoDelete db request).store := by
  unfold Owprov.venueDoDelete
  split
  · exact sound
  · rename_i existing planned
    obtain ⟨found, leaf⟩ := venueDoDeletePlan_eq_ok planned
    constructor
    · simp only [Outcome.store_done, deleteScopeRoles_entityDB, moveVenue_entityDB]
      exact sound.entities.manageList offTree_venues _ _ _
    · simp only [Outcome.store_done, deleteScopeRoles_venueDB, moveVenue_venueDB]
      exact sound.venues.remove found leaf

/-- The body does not hang the venue below itself or below a venue that is below it. -/
def KeepsVenuesApart (db : Store) (request : Request) : Prop :=
  ∀ body target, request.body = some body → body.has "venue" = true →
    body.getString "venue" = .ok target →
    ¬ Relation.ReflTransGen (ParentEdge (venueColumns.forest db.venueDB)) target
      (request.getBinding "uuid")

theorem SoundLinks.venueDoPut (sound : SoundLinks db) {request : Request}
    (apart : KeepsVenuesApart db request) :
    SoundLinks (venueDoPut ctx db request).store := by
  rcases venueDoPut_cases ctx db request with
    ⟨unchanged, _⟩ | ⟨_, existing, update, located, updated⟩
  · rw [unchanged]
    exact sound
  · obtain ⟨body, isBody, _, children, _, parentMove⟩ := venueDoPutPlan_eq_ok updated.planned
    have soundLocated := sound.storeInlineLocation updated.stored
    obtain ⟨venueDB, _, _⟩ := storeInlineLocation_eq_ok updated.stored
    rw [updated.outcome, Outcome.store_done]
    refine ⟨soundLocated.entities.manageList offTree_venues _ _ _, ?_⟩
    rw [moveVenue_venueDB]
    rcases requiredMove_eq_ok parentMove with
      ⟨_, fromVenue, toVenue, parent⟩ | ⟨present, target, fromVenue, toVenue, _, parentFound⟩
    · rw [fromVenue, toVenue]
      exact soundLocated.venues.keep updated.foundLocated children parent
    · rw [fromVenue, toVenue]
      refine soundLocated.venues.hang updated.foundLocated children (venueDB ▸ parentFound) ?_
      rw [venueDB, updated.id_eq]
      exact apart body _ isBody present target

end Requests

/-! ## Runs -/

/-- Entity and operator requests leave the venues alone. -/
theorem EntityMethod.venueDB_handle (method : EntityMethod) (ctx : Context) (db : Store)
    (request : Request) : (method.handle ctx db request).store.venueDB = db.venueDB := by
  cases method with
  | entityPost =>
      show (entityDoPost ctx db request).store.venueDB = db.venueDB
      unfold entityDoPost
      split
      · rfl
      · rename_i entity _
        split
        · rfl
        · rename_i table _
          have created : (autoCreateCreatorRole ctx (linkNewEntity db table entity)
              entity.info.id "" entity.parent "" (ctx.newId 2)).1.venueDB = db.venueDB :=
            (autoCreateCreatorRole_tables ctx (linkNewEntity db table entity) entity.info.id ""
              entity.parent "" (ctx.newId 2)).2.elim id id
          dsimp only
          split
          · exact created
          · exact created
  | entityPut =>
      show (entityDoPut ctx db request).store.venueDB = db.venueDB
      unfold entityDoPut
      split <;> rfl
  | entityDelete =>
      show (entityDoDelete db request).store.venueDB = db.venueDB
      unfold entityDoDelete
      split
      · rfl
      · exact deleteScopeRoles_venueDB _ _
  | operatorPost =>
      show (operatorDoPost ctx db request).store.venueDB = db.venueDB
      unfold operatorDoPost
      split
      · rfl
      · split
        · rfl
        · dsimp only
          split <;> rfl
  | operatorPut =>
      show (operatorDoPut ctx db request).store.venueDB = db.venueDB
      unfold operatorDoPut
      split <;> rfl
  | operatorDelete =>
      show (operatorDoDelete db request).store.venueDB = db.venueDB
      unfold operatorDoDelete
      split
      · rfl
      · rename_i linked _
        cases linked <;> rfl

/-- The databases that venue, entity and operator requests reach when every venue update
meets a condition. -/
inductive VenueRun (condition : Store → Request → Prop) : Store → Prop
  | initial : VenueRun condition initialStore
  | entity {db : Store} (method : EntityMethod) (ctx : Context) (request : Request) :
      VenueRun condition db → ctx.Fresh db →
        VenueRun condition (method.handle ctx db request).store
  | post {db : Store} (ctx : Context) (request : Request) :
      VenueRun condition db → ctx.Fresh db → VenueRun condition (venueDoPost ctx db request).store
  | put {db : Store} (ctx : Context) (request : Request) :
      VenueRun condition db → ctx.Fresh db → condition db request →
        VenueRun condition (venueDoPut ctx db request).store
  | delete {db : Store} (request : Request) :
      VenueRun condition db → VenueRun condition (venueDoDelete db request).store

theorem soundLinks_initial : SoundLinks initialStore where
  entities := entityTree_initial
  venues :=
    { consistent := by
        constructor
        · rintro a b ⟨_, ⟨⟩, _⟩
        · rintro a b ⟨_, ⟨⟩, _⟩
      acyclic := by
        intro a cycle
        obtain ⟨b, ⟨_, missing, _⟩, _⟩ := Relation.TransGen.head'_iff.mp cycle
        cases missing
      named := rfl }

theorem VenueRun.soundLinks {db : Store} (run : VenueRun KeepsVenuesApart db) :
    SoundLinks db := by
  induction run with
  | initial => exact soundLinks_initial
  | entity method ctx request _ fresh ih =>
      refine ⟨ih.entities.handle method fresh request, ?_⟩
      rw [method.venueDB_handle]
      exact ih.venues
  | post ctx request _ fresh ih => exact ih.venueDoPost fresh request
  | put ctx request _ _ apart ih => exact ih.venueDoPut apart
  | delete request _ ih => exact ih.venueDoDelete request

/-- The first id names a venue whose parent is the second. -/
def Store.VenueParent (db : Store) (id parentId : String) : Prop :=
  ∃ venue, db.venueDB.get? id = some venue ∧ venue.parent = parentId ∧ parentId ≠ ""

/-- Following the parents of a venue never leads back to it. -/
def NoVenueRevisited (db : Store) : Prop :=
  ∀ id, ¬ Relation.TransGen db.VenueParent id id

/-- The recursions over venues stop. -/
structure VenueRecursionsStop (db : Store) : Prop where
  getDescendantVenues : ∀ id, Terminates fun fuel => getDescendantVenues db fuel id
  addVenueConfig : ∀ apConfig id, Terminates fun fuel => APConfig.addVenueConfig db fuel apConfig id
  evaluateDeviceRules : ∀ config id rules,
    Terminates fun fuel => evaluateVenueRules db config fuel id rules
  findParentEntity : ∀ venue, Terminates fun fuel => findParentEntity db fuel venue
  getDevices : ∀ getChildren venue, Terminates fun fuel => getDevices db getChildren fuel venue
  getLocationsForVenue : ∀ id, Terminates fun fuel => getLocationsForVenue db fuel id

theorem parentEdge_eq_venueParent (db : Store) :
    ParentEdge (venueColumns.forest db.venueDB) = db.VenueParent := by
  funext id parentId
  exact propext LinkColumns.parentEdge_iff

theorem SoundLinks.noVenueRevisited {db : Store} (sound : SoundLinks db) :
    NoVenueRevisited db := by
  have acyclic := sound.venues.acyclic
  rw [parentEdge_eq_venueParent] at acyclic
  exact acyclic

theorem SoundLinks.venueRecursionsStop {db : Store} (sound : SoundLinks db) :
    VenueRecursionsStop db := by
  have enough : db.venueDB.rows.length < db.venueFuel := Nat.lt_succ_self _
  have acyclic := sound.venues.acyclic
  have below := sound.venues.consistent.childEdge_acyclic acyclic
  have above := sound.entities.acyclic
  constructor
  case getDescendantVenues =>
    exact fun id => ⟨db.venueFuel, getDescendantVenues_isSome below enough id⟩
  case addVenueConfig =>
    exact fun apConfig id =>
      ⟨db.venueFuel + db.entityFuel, addVenueConfig_isSome acyclic above enough apConfig id⟩
  case evaluateDeviceRules =>
    exact fun config id rules =>
      ⟨db.venueFuel + db.entityFuel, evaluateVenueRules_isSome acyclic above enough config rules id⟩
  case findParentEntity =>
    exact fun venue => ⟨db.venueFuel + 1, findParentEntity_isSome acyclic enough venue⟩
  case getDevices =>
    exact fun getChildren venue =>
      ⟨db.venueFuel + 1, getDevices_isSome below enough getChildren venue⟩
  case getLocationsForVenue =>
    exact fun id => ⟨db.venueFuel, getLocationsForVenue_isSome acyclic enough id⟩

/-- As long as no update hangs a venue below itself, the venues form a forest and the
recursions over them stop. -/
theorem venue_forest_of_run {db : Store} (run : VenueRun KeepsVenuesApart db) :
    NoVenueRevisited db ∧ VenueRecursionsStop db :=
  ⟨run.soundLinks.noVenueRevisited, run.soundLinks.venueRecursionsStop⟩

/-- The condition is exact: an update that is carried out and breaks it closes a cycle. -/
theorem noVenueRevisited_venueDoPut_iff {ctx : Context} {db : Store} {request : Request}
    (sound : SoundLinks db) (plain : venueCommand request = none)
    (succeeds : (venueDoPut ctx db request).Succeeds) :
    NoVenueRevisited (venueDoPut ctx db request).store ↔ KeepsVenuesApart db request := by
  constructor
  · intro still body target isBody present read
    rcases venueDoPut_cases ctx db request with
      ⟨_, command | failed⟩ | ⟨_, existing, update, located, updated⟩
    · simp [plain] at command
    · exact absurd succeeds failed
    · obtain ⟨_, isBody', _, children, _, parentMove⟩ := venueDoPutPlan_eq_ok updated.planned
      obtain rfl := Option.some.inj (isBody.symm.trans isBody')
      obtain ⟨venueDB, _, _⟩ := storeInlineLocation_eq_ok updated.stored
      rcases requiredMove_eq_ok parentMove with
        ⟨absent, _⟩ | ⟨_, isTarget, fromVenue, toVenue, filled, _⟩
      · rw [present] at absent
        cases absent
      · have isParent : target = update.updated.parent := by
          rw [read, Except.ok.injEq] at isTarget
          exact isTarget
        have acyclic : Acyclic (ParentEdge (venueColumns.forest
            (venueDoPut ctx db request).store.venueDB)) := by
          rw [parentEdge_eq_venueParent]
          exact still
        rw [updated.outcome, Outcome.store_done, moveVenue_venueDB, fromVenue, toVenue,
          forest_hang updated.foundLocated children, optionalId_of_ne filled, venueDB,
          updated.id_eq, ← isParent] at acyclic
        refine (acyclic_move_iff sound.venues.acyclic ?_).mp acyclic
        simp [LinkColumns.forest, updated.found]
  · intro apart
    exact (sound.venueDoPut apart).noVenueRevisited

/-! ### A cycle -/

/-- The requests of a short run: an entity, two venues of it, and an update of a venue. -/
def entityRequest : Request where
  method := .post
  uri := "/api/v1/entity/0"
  bindings := [("uuid", "0")]
  body := some [("name", .str "Campus"), ("parent", .str rootUUID)]

def venueRequest (name : String) : Request where
  method := .post
  uri := "/api/v1/venue/0"
  bindings := [("uuid", "0")]
  body := some [("name", .str name), ("entity", .str (unaryId 16))]

def hangRequest (venueId parentId : String) : Request where
  method := .put
  uri := "/api/v1/venue/" ++ venueId
  bindings := [("uuid", venueId)]
  body := some [("venue", .str parentId)]

/-- The database with an entity and one venue. -/
def oneVenue : Store :=
  (venueDoPost (rootContext 20)
    (EntityMethod.entityPost.handle (rootContext 14) initialStore entityRequest).store
    (venueRequest "North")).store

/-- The database with an entity and two venues. -/
def twoVenues : Store :=
  (venueDoPost (rootContext 30) oneVenue (venueRequest "South")).store

theorem oneVenue_run {condition : Store → Request → Prop} : VenueRun condition oneVenue :=
  .post (rootContext 20) (venueRequest "North")
    (.entity .entityPost (rootContext 14) entityRequest .initial
      (rootContext_fresh (by decide)))
    (rootContext_fresh (by decide))

theorem twoVenues_run {condition : Store → Request → Prop} : VenueRun condition twoVenues :=
  .post (rootContext 30) (venueRequest "South") oneVenue_run
    (rootContext_fresh (by decide))

/-- A venue hangs below itself after one update. -/
theorem venue_below_itself :
    ¬ ∀ db, VenueRun (fun _ _ => True) db → NoVenueRevisited db ∧ VenueRecursionsStop db := by
  intro claim
  have run : VenueRun (fun _ _ => True) (venueDoPut (rootContext 40) oneVenue
      (hangRequest (unaryId 21) (unaryId 21))).store :=
    .put (rootContext 40) _ oneVenue_run (rootContext_fresh (by decide)) trivial
  have looped : ((venueDoPut (rootContext 40) oneVenue
      (hangRequest (unaryId 21) (unaryId 21))).store.venueDB.get? (unaryId 21)).map Venue.parent =
        some (unaryId 21) := by decide
  obtain ⟨venue, found, isParent⟩ := Option.map_eq_some_iff.mp looped
  exact (claim _ run).1 (unaryId 21)
    (Relation.TransGen.single ⟨venue, found, isParent, by decide⟩)

/-- The second venue may be hung below the first. -/
theorem venue_forest_after_hang :
    ∃ db, (db.venueDB.rows.map fun venue => (venue.parent, venue.children)) =
        [("", [unaryId 31]), (unaryId 21, [])] ∧
      NoVenueRevisited db ∧ VenueRecursionsStop db := by
  have top : (twoVenues.venueDB.get? (unaryId 21)).map Venue.parent = some "" := by
    decide
  have apart : KeepsVenuesApart twoVenues (hangRequest (unaryId 31) (unaryId 21)) := by
    rintro body target ⟨⟩ _ ⟨⟩ path
    rcases path.cases_head with equal | ⟨above, edge, _⟩
    · exact absurd equal (by decide)
    · obtain ⟨venue, found, isParent, filled⟩ := LinkColumns.parentEdge_iff.mp edge
      rw [found, Option.map_some, Option.some.injEq] at top
      exact filled (isParent.symm.trans top)
  exact ⟨(venueDoPut (rootContext 40) twoVenues (hangRequest (unaryId 31) (unaryId 21))).store,
    by decide,
    venue_forest_of_run
      (.put (rootContext 40) _ twoVenues_run (rootContext_fresh (by decide)) apart)⟩

end Owprov
