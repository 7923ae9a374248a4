import Owprov.Lib.Runs
import Owprov.Membership
import Owprov.VenueForest

/-!
# The place of entities and venues

No request gives an entity another parent or another operator.  A venue keeps its entity and
its parent too, except that an update may name new ones in the fields `entity` and `venue`.
-/

namespace Owprov

open RowTable Runs

/-- The requests that create, update and delete entities, operators and venues. -/
inductive TreeMethod where
  | entity (method : EntityMethod)
  | venuePost
  | venuePut
  | venueDelete

/-- What the handler of a request does to the database. -/
def TreeMethod.handle (ctx : Context) (db : Store) (request : Request) : TreeMethod → Outcome
  | .entity method => method.handle ctx db request
  | .venuePost => venueDoPost ctx db request
  | .venuePut => venueDoPut ctx db request
  | .venueDelete => venueDoDelete db request

/-- One request, whoever sends it; a venue update that is carried out meets a condition. -/
def TreeStep (condition : Store → Request → Prop) (db db' : Store) : Prop :=
  ∃ (method : TreeMethod) (ctx : Context) (request : Request),
    (method = .venuePut → (method.handle ctx db request).Succeeds → condition db request) ∧
      db' = (method.handle ctx db request).store

/-- What places an entity. -/
def Entity.place (entity : Entity) : String × String :=
  (entity.parent, entity.operatorId)

/-- What places a venue. -/
def Venue.place (venue : Venue) : String × String :=
  (venue.entity, venue.parent)

/-! ## Bookkeeping -/

section Bookkeeping

variable {β : Type} {db : Store}

theorem sameView_storeInlineLocation {view : Entity → β}
    (apart : ∀ ids entity, view (Entity.locationsMember.set ids entity) = view entity)
    {located : Store} {location : Option Location}
    (stored : storeInlineLocation db location = .ok located) :
    Table.SameView view db.entityDB located.entityDB := by
  obtain ⟨_, _, unchanged | ⟨entity, id, added⟩⟩ := storeInlineLocation_eq_ok stored
  · rw [unchanged]
    exact Table.SameView.refl _ _
  · rw [added]
    exact sameView_addMembership apart entity id

section CreatorRole

variable (ctx : Context) (entityId venueId parentEntityId parentVenueId roleId : String)

theorem sameEntities_autoCreateCreatorRole {view : Entity → β}
    (apart : ∀ ids entity, view (Entity.managementRolesMember.set ids entity) = view entity) :
    Table.SameView view db.entityDB
      (autoCreateCreatorRole ctx db entityId venueId parentEntityId parentVenueId
        roleId).1.entityDB := by
  obtain ⟨unchanged | added, _⟩ := autoCreateCreatorRole_tables ctx db entityId venueId
    parentEntityId parentVenueId roleId
  · rw [unchanged]
    exact Table.SameView.refl _ _
  · rw [added]
    exact sameView_addMembership apart entityId roleId

theorem sameVenues_autoCreateCreatorRole {view : Venue → β}
    (apart : ∀ ids venue, view (Venue.managementRolesMember.set ids venue) = view venue) :
    Table.SameView view db.venueDB
      (autoCreateCreatorRole ctx db entityId venueId parentEntityId parentVenueId
        roleId).1.venueDB := by
  obtain ⟨_, unchanged | added⟩ := autoCreateCreatorRole_tables ctx db entityId venueId
    parentEntityId parentVenueId roleId
  · rw [unchanged]
    exact Table.SameView.refl _ _
  · rw [added]
    exact sameView_addMembership apart venueId roleId

end CreatorRole

end Bookkeeping

/-! ## Entities -/

section Entities

variable (ctx : Context) (db : Store) (request : Request)

theorem keepsView_entityDoPost :
    Table.KeepsView Entity.place db.entityDB (entityDoPost ctx db request).store.entityDB := by
  unfold entityDoPost
  split
  · exact .of_same (.refl _ _)
  · rename_i entity _
    split
    · exact .of_same (.refl _ _)
    · rename_i entityDB inserted
      have stored : Table.KeepsView Entity.place db.entityDB
          (autoCreateCreatorRole ctx (linkNewEntity db entityDB entity) entity.info.id ""
            entity.parent "" (ctx.newId 2)).1.entityDB := by
        apply Table.KeepsView.trans_same (.of_insert? inserted)
        refine Table.SameView.trans ?_ (sameEntities_autoCreateCreatorRole ctx _ _ _ _ _ fun _ _ => rfl)
        exact sameView_manipulateVectorMember (fun _ _ => rfl) _ _ true
      dsimp only
      split
      · exact stored
      · exact stored.delete _

theorem keepsView_entityDoPut :
    Table.KeepsView Entity.place db.entityDB (entityDoPut ctx db request).store.entityDB := by
  unfold entityDoPut
  split
  · exact .of_same (.refl _ _)
  · rename_i updated _ _ planned
    obtain ⟨existing, found, parent, _, operatorId⟩ := entityDoPutPlan_eq_ok planned
    apply Table.KeepsView.of_same
    apply Table.SameView.update found
    rw [Entity.place, Entity.place, parent, operatorId]

theorem keepsView_entityDoDelete :
    Table.KeepsView Entity.place db.entityDB (entityDoDelete db request).store.entityDB := by
  unfold entityDoDelete
  split
  · exact .of_same (.refl _ _)
  · rename_i existing _
    simp only [Outcome.store_done, manipulateChild, deleteScopeRoles_entityDB,
      movePolicyUsage_entityDB]
    apply Table.KeepsView.trans_same ((Table.KeepsView.of_same (.refl _ _)).delete _)
    exact sameView_manipulateVectorMember (fun _ _ => rfl) _ _ false

theorem keepsView_operatorDoPost :
    Table.KeepsView Entity.place db.entityDB (operatorDoPost ctx db request).store.entityDB := by
  unfold operatorDoPost
  split
  · exact .of_same (.refl _ _)
  · rename_i operator entity _
    split
    · exact .of_same (.refl _ _)
    · rename_i entityDB inserted
      have linked : Table.KeepsView Entity.place db.entityDB
          (manipulateChild { db with entityDB := entityDB } entity.parent entity.info.id
            true).entityDB :=
        .trans_same (.of_insert? inserted)
          (sameView_manipulateVectorMember (fun _ _ => rfl) _ _ true)
      dsimp only
      split
      · exact linked
      · apply Table.KeepsView.delete
        exact linked.trans_same (sameView_manipulateVectorMember (fun _ _ => rfl) _ _ false)

theorem keepsView_operatorDoPut :
    Table.KeepsView Entity.place db.entityDB (operatorDoPut ctx db request).store.entityDB := by
  unfold operatorDoPut
  split <;> exact .of_same (.refl _ _)

theorem keepsView_operatorDoDelete :
    Table.KeepsView Entity.place db.entityDB (operatorDoDelete db request).store.entityDB := by
  unfold operatorDoDelete
  split
  · exact .of_same (.refl _ _)
  · rename_i linked _
    cases linked with
    | none => exact .of_same (.refl _ _)
    | some entity =>
        apply Table.KeepsView.trans_same ((Table.KeepsView.of_same (.refl _ _)).delete _)
        exact sameView_manipulateVectorMember (fun _ _ => rfl) _ _ false

theorem keepsView_venueDoPost_entities :
    Table.KeepsView Entity.place db.entityDB (venueDoPost ctx db request).store.entityDB := by
  unfold venueDoPost
  split
  · exact .of_same (.refl _ _)
  · rename_i venue location _
    split
    · exact .of_same (.refl _ _)
    · rename_i located stored
      have listed : Table.SameView Entity.place db.entityDB located.entityDB :=
        sameView_storeInlineLocation (fun _ _ => rfl) stored
      split
      · exact .of_same listed
      · rename_i venueDB _
        have moved : Table.SameView Entity.place db.entityDB
            (autoCreateCreatorRole ctx
              (moveVenue { located with venueDB := venueDB } venue.arrivals venue.info.id)
              venue.entity venue.info.id venue.entity venue.parent (ctx.newId 2)).1.entityDB := by
          refine listed.trans (Table.SameView.trans ?_
            (sameEntities_autoCreateCreatorRole ctx _ _ _ _ _ fun _ _ => rfl))
          exact sameView_manageMembership (fun _ _ => rfl) _ _ _
        dsimp only
        split
        · exact .of_same moved
        · exact .of_same moved

theorem keepsView_venueDoPut_entities :
    Table.KeepsView Entity.place db.entityDB (venueDoPut ctx db request).store.entityDB := by
  rcases venueDoPut_cases ctx db request with
    ⟨unchanged, _⟩ | ⟨_, existing, update, located, updated⟩
  · rw [unchanged]
    exact .of_same (.refl _ _)
  · rw [updated.outcome, Outcome.store_done]
    apply Table.KeepsView.of_same
    apply Table.SameView.trans (sameView_storeInlineLocation (fun _ _ => rfl) updated.stored)
    exact sameView_manageMembership (fun _ _ => rfl) _ _ _

theorem keepsView_venueDoDelete_entities :
    Table.KeepsView Entity.place db.entityDB (venueDoDelete db request).store.entityDB := by
  unfold venueDoDelete
  split
  · exact .of_same (.refl _ _)
  · simp only [Outcome.store_done, deleteScopeRoles_entityDB, moveVenue_entityDB]
    exact .of_same (sameView_manageMembership (fun _ _ => rfl) _ _ _)

/-- No request moves an entity. -/
theorem TreeMethod.keepsView_entities (method : TreeMethod) :
    Table.KeepsView Entity.place db.entityDB (method.handle ctx db request).store.entityDB := by
  cases method with
  | entity method =>
      cases method with
      | entityPost => exact keepsView_entityDoPost ctx db request
      | entityPut => exact keepsView_entityDoPut ctx db request
      | entityDelete => exact keepsView_entityDoDelete db request
      | operatorPost => exact keepsView_operatorDoPost ctx db request
      | operatorPut => exact keepsView_operatorDoPut ctx db request
      | operatorDelete => exact keepsView_operatorDoDelete db request
  | venuePost => exact keepsView_venueDoPost_entities ctx db request
  | venuePut => exact keepsView_venueDoPut_entities ctx db request
  | venueDelete => exact keepsView_venueDoDelete_entities db request

end Entities

/-! ## Venues -/

section Venues

variable (ctx : Context) (db : Store) (request : Request)

theorem keepsView_venueDoPost :
    Table.KeepsView Venue.place db.venueDB (venueDoPost ctx db request).store.venueDB := by
  unfold venueDoPost
  split
  · exact .of_same (.refl _ _)
  · rename_i venue location _
    split
    · exact .of_same (.refl _ _)
    · rename_i located stored
      obtain ⟨unchanged, _⟩ := storeInlineLocation_eq_ok stored
      split
      · rw [Outcome.store_fail, unchanged]
        exact .of_same (.refl _ _)
      · rename_i venueDB inserted
        rw [unchanged] at inserted
        have moved : Table.KeepsView Venue.place db.venueDB
            (autoCreateCreatorRole ctx
              (moveVenue { located with venueDB := venueDB } venue.arrivals venue.info.id)
              venue.entity venue.info.id venue.entity venue.parent (ctx.newId 2)).1.venueDB := by
          apply Table.KeepsView.trans_same (.of_insert? inserted)
          refine Table.SameView.trans ?_ (sameVenues_autoCreateCreatorRole ctx _ _ _ _ _ fun _ _ => rfl)
          exact sameView_manageMembership (fun _ _ => rfl) _ _ _
        dsimp only
        split
        · exact moved
        · exact moved.delete _

theorem keepsView_venueDoDelete :
    Table.KeepsView Venue.place db.venueDB (venueDoDelete db request).store.venueDB := by
  unfold venueDoDelete
  split
  · exact .of_same (.refl _ _)
  · simp only [Outcome.store_done, deleteScopeRoles_venueDB, moveVenue_venueDB]
    apply Table.KeepsView.delete
    exact .of_same (sameView_manageMembership (fun _ _ => rfl) _ _ _)

/-- The body of an update names no other entity and no other parent than the venue has. -/
def KeepsPlacement (db : Store) (request : Request) : Prop :=
  venueCommand request = none →
    ∀ existing body, db.venueDB.get? (request.getBinding "uuid") = some existing →
      request.body = some body →
      (body.has "entity" = true → body.getString "entity" = .ok existing.entity) ∧
        (body.has "venue" = true → body.getString "venue" = .ok existing.parent)

/-- The reference that a plan writes is the one that the body names, or the existing one. -/
theorem value_eq_existing_iff {β : Type} [Keyed β String] {body : JsonObject}
    {field existing : String} {table : Table β} {missing : Errors} {fromId toId value : String}
    (moved : requiredMove body field existing table missing = .ok (fromId, toId, value)) :
    value = existing ↔ (body.has field = true → body.getString field = .ok existing) := by
  rcases requiredMove_eq_ok moved with ⟨absent, _, _, kept⟩ | ⟨present, read, _, _, _, _⟩
  · simp [absent, kept]
  · simp [present, read]

/-- An update that is carried out leaves its venue in place when its body names no other. -/
theorem VenueUpdated.place_eq_iff {ctx : Context} {db located : Store} {request : Request}
    {existing : Venue} {update : VenueUpdate}
    (updated : VenueUpdated ctx db request existing update located)
    (plain : venueCommand request = none) :
    update.updated.place = existing.place ↔ KeepsPlacement db request := by
  obtain ⟨body, isBody, _, _, entityMove, venueMove⟩ := venueDoPutPlan_eq_ok updated.planned
  rw [Venue.place, Venue.place, Prod.mk.injEq, value_eq_existing_iff entityMove,
    value_eq_existing_iff venueMove]
  constructor
  · intro named _ existing' body' found isBody'
    obtain rfl := Option.some.inj (updated.found.symm.trans found)
    obtain rfl := Option.some.inj (isBody.symm.trans isBody')
    exact named
  · intro keeps
    exact keeps plain existing body updated.found isBody

theorem keepsView_venueDoPut
    (condition : (venueDoPut ctx db request).Succeeds → KeepsPlacement db request) :
    Table.KeepsView Venue.place db.venueDB (venueDoPut ctx db request).store.venueDB := by
  rcases venueDoPut_cases ctx db request with
    ⟨unchanged, _⟩ | ⟨plain, existing, update, located, updated⟩
  · rw [unchanged]
    exact .of_same (.refl _ _)
  · have keeps : KeepsPlacement db request := condition (by rw [updated.outcome]; rfl)
    obtain ⟨sameTable, _⟩ := storeInlineLocation_eq_ok updated.stored
    have foundLocated := updated.foundLocated
    rw [sameTable] at foundLocated
    rw [updated.outcome, Outcome.store_done, moveVenue_venueDB, sameTable]
    apply Table.KeepsView.of_same
    apply Table.SameView.trans
      (.update foundLocated ((updated.place_eq_iff plain).mpr keeps))
    exact sameView_manageMembership (fun _ _ => rfl) _ _ _

/-- The condition is exact: an update that is carried out and breaks it moves its venue. -/
theorem keepsView_venueDoPut_iff (succeeds : (venueDoPut ctx db request).Succeeds) :
    Table.KeepsView Venue.place db.venueDB (venueDoPut ctx db request).store.venueDB ↔
      KeepsPlacement db request := by
  constructor
  · intro kept plain
    rcases venueDoPut_cases ctx db request with
      ⟨_, command | failed⟩ | ⟨_, existing, update, located, updated⟩
    · simp [plain] at command
    · exact absurd succeeds failed
    · have after : Table.SameView Venue.place (located.venueDB.update update.updated)
          (venueDoPut ctx db request).store.venueDB := by
        rw [updated.outcome, Outcome.store_done, moveVenue_venueDB]
        exact sameView_manageMembership (fun _ _ => rfl) _ _ _
      obtain ⟨row, isRow, views⟩ :=
        after.symm.found (Table.get?_update_self updated.foundLocated)
      have uuid : key update.updated = request.getBinding "uuid" := updated.id_eq
      rw [uuid] at isRow
      have placed := kept _ existing row updated.found isRow
      exact (updated.place_eq_iff plain).mp (views.trans placed) plain
  · intro keeps
    exact keepsView_venueDoPut ctx db request fun _ => keeps

/-- A request whose update names no other place leaves every venue in place. -/
theorem TreeMethod.keepsView_venues (method : TreeMethod)
    (condition : method = .venuePut → (method.handle ctx db request).Succeeds →
      KeepsPlacement db request) :
    Table.KeepsView Venue.place db.venueDB (method.handle ctx db request).store.venueDB := by
  cases method with
  | entity method =>
      rw [show TreeMethod.handle ctx db request (.entity method) = method.handle ctx db request
        from rfl, method.venueDB_handle]
      exact .of_same (.refl _ _)
  | venuePost => exact keepsView_venueDoPost ctx db request
  | venuePut => exact keepsView_venueDoPut ctx db request (condition rfl)
  | venueDelete => exact keepsView_venueDoDelete db request

end Venues

/-! ## Runs -/

/-- The place of an entity and the place of a venue are the same after a run, when the entity
and the venue exist all along. -/
structure PlacesKept (condition : Store → Request → Prop) (db db' : Store) : Prop where
  entity : ∀ id, RunWithin (TreeStep condition) (fun db => idExists db.entityDB id) db db' →
    (db'.entityDB.get? id).map Entity.place = (db.entityDB.get? id).map Entity.place
  venue : ∀ id, RunWithin (TreeStep condition) (fun db => idExists db.venueDB id) db db' →
    (db'.venueDB.get? id).map Venue.place = (db.venueDB.get? id).map Venue.place

/-- As long as no update names another place, entities and venues stay where they were
created. -/
theorem placement_kept_of_run (db db' : Store) : PlacesKept KeepsPlacement db db' := by
  constructor
  case entity =>
    intro id run
    apply run.constant
    rintro before after ⟨method, ctx, request, _, rfl⟩ present present'
    exact (method.keepsView_entities ctx before request).map_get? present present'
  case venue =>
    intro id run
    apply run.constant
    rintro before after ⟨method, ctx, request, condition, rfl⟩ present present'
    exact (method.keepsView_venues ctx before request condition).map_get? present present'

/-- An update hangs a venue below another one. -/
theorem venue_moved_by_update :
    ¬ ∀ db db', PlacesKept (fun _ _ => True) db db' := by
  intro claim
  have run : RunWithin (TreeStep fun _ _ => True) (fun db => idExists db.venueDB (unaryId 31))
      twoVenues
      (venueDoPut (rootContext 40) twoVenues (hangRequest (unaryId 31) (unaryId 21))).store :=
    .single ⟨⟨.venuePut, rootContext 40, _, fun _ _ => trivial, rfl⟩,
      by decide, by decide⟩
  exact absurd ((claim _ _).venue _ run) (by decide)

end Owprov
