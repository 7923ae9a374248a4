import Owprov.Lib.RefusedWrites
import Owprov.LiveScopes

/-!
# Failed creations of entities and venues

A new entity or venue is stored and mentioned by its parent before its creator gets a role.  When
the database refuses the role, the new record is deleted again; the records that mention it, and
the inline location of a venue, stay as they are.
-/

namespace Owprov

open RowTable Table

/-! ## The code -/

/-- The writes of a creation whose answers are looked at, and the deletion whose answer is not. -/
inductive CreationWrite where
  | location
  | record
  | role
  | undoRecord
  deriving DecidableEq

/-- `AutoCreateCreatorRole`, where the database may refuse the role. -/
def autoCreateCreatorRoleUnless (ctx : Context) (refused : Bool) (db : Store)
    (entityId venueId parentEntityId parentVenueId roleId : String) : Store × Bool :=
  if ctx.caller.user.userRole = .root then
    (db, true)
  else
    match parentRole ctx.caller parentEntityId parentVenueId with
    | none => (db, true)
    | some parent =>
        let role := creatorRole ctx.caller.user parent entityId venueId roleId
        match db.rolesDB.insertUnless refused role with
        | none => (db, false)
        | some rolesDB => (linkCreatorRole { db with rolesDB := rolesDB } entityId venueId role, true)

/-- `RESTAPI_entity_handler::DoPost` with writes that may be refused. -/
def entityDoPostUnless (ctx : Context) (refuses : CreationWrite → Bool) (db : Store)
    (request : Request) : Outcome :=
  match entityDoPostPlan ctx db request with
  | .error failure => .fail db failure
  | .ok newEntity =>
      match db.entityDB.insertUnless (refuses .record) newEntity with
      | none => .fail db (.internalError .recordNotCreated)
      | some entityDB =>
          let (stored, roleStored) :=
            autoCreateCreatorRoleUnless ctx (refuses .role) (linkNewEntity db entityDB newEntity)
              newEntity.info.id "" newEntity.parent "" (ctx.newId 2)
          if roleStored then
            .done stored
          else
            .fail { stored with
              entityDB := stored.entityDB.deleteUnless (refuses .undoRecord) newEntity.info.id }
              (.internalError .recordNotCreated)

/-- The inline location is stored and listed, where the database may refuse it. -/
def storeInlineLocationUnless (refused : Bool) (db : Store) :
    Option Location → Except Failure Store
  | none => .ok db
  | some location =>
      match db.locationDB.insertUnless refused location with
      | none => .error (createObjectsFailure "Could not create inline location")
      | some locationDB =>
          .ok { db with
            locationDB := locationDB
            entityDB := addMembership db.entityDB Entity.locationsMember location.entity
              location.info.id }

/-- `RESTAPI_venue_handler::DoPost` with writes that may be refused. -/
def venueDoPostUnless (ctx : Context) (refuses : CreationWrite → Bool) (db : Store)
    (request : Request) : Outcome :=
  match venueDoPostPlan ctx db request with
  | .error failure => .fail db failure
  | .ok (newObject, location) =>
      match storeInlineLocationUnless (refuses .location) db location with
      | .error failure => .fail db failure
      | .ok located =>
          match located.venueDB.insertUnless (refuses .record) newObject with
          | none => .fail located (.internalError .recordNotCreated)
          | some venueDB =>
              let id := newObject.info.id
              let (stored, roleStored) :=
                autoCreateCreatorRoleUnless ctx (refuses .role)
                  (moveVenue { located with venueDB := venueDB } newObject.arrivals id)
                  newObject.entity id newObject.entity newObject.parent (ctx.newId 2)
              if roleStored then
                .done stored
              else
                .fail { stored with
                  venueDB := stored.venueDB.deleteUnless (refuses .undoRecord) id }
                  (.internalError .recordNotCreated)

section NeverRefused

variable (ctx : Context) (db : Store) (request : Request)

/-- Without refusals this is the handler. -/
theorem entityDoPostUnless_never :
    entityDoPostUnless ctx (fun _ => false) db request = entityDoPost ctx db request := rfl

theorem storeInlineLocationUnless_never (location : Option Location) :
    storeInlineLocationUnless false db location = storeInlineLocation db location := by
  cases location <;> rfl

theorem venueDoPostUnless_never :
    venueDoPostUnless ctx (fun _ => false) db request = venueDoPost ctx db request := by
  unfold venueDoPostUnless venueDoPost
  simp only [storeInlineLocationUnless_never]
  rfl

end NeverRefused

/-! ## What is accepted -/

/-- The tables that a creation writes are as before. -/
structure ScopeTablesKept (db db' : Store) : Prop where
  entities : db'.entityDB = db.entityDB
  venues : db'.venueDB = db.venueDB
  locations : db'.locationDB = db.locationDB
  roles : db'.rolesDB = db.rolesDB
  policies : db'.policyDB = db.policyDB
  contacts : db'.contactDB = db.contactDB
  configurations : db'.configurationDB = db.configurationDB

theorem scopeTablesKept_self (db : Store) : ScopeTablesKept db db :=
  ⟨rfl, rfl, rfl, rfl, rfl, rfl, rfl⟩

/-- No list of an entity or a venue mentions an id that the context makes. -/
structure Context.Unlisted (ctx : Context) (db : Store) : Prop where
  child : ∀ i, ∀ parent ∈ db.entityDB.rows, ctx.newId i ∉ parent.children
  venue : ∀ i, ∀ entity ∈ db.entityDB.rows, ctx.newId i ∉ entity.venues
  subVenue : ∀ i, ∀ parent ∈ db.venueDB.rows, ctx.newId i ∉ parent.children

/-- The database takes a row. -/
def RowAccepted {α : Type} [Keyed α String] (table : Table α) (refused : Bool) (row : α) : Prop :=
  refused = false ∧ table.get? (key row) = none

/-- The creator of a scope needs no role of its own, or the database takes it. -/
def CreatorRoleAccepted (ctx : Context) (refused : Bool) (db : Store)
    (parentEntityId parentVenueId : String) : Prop :=
  ctx.caller.user.userRole = .root ∨ parentRole ctx.caller parentEntityId parentVenueId = none ∨
    (refused = false ∧ db.rolesDB.get? (ctx.newId 2) = none)

/-- A creator role that is not stored leaves no trace. -/
theorem autoCreateCreatorRoleUnless_cases (ctx : Context) (refused : Bool) (db : Store)
    (entityId venueId parentEntityId parentVenueId : String) :
    (CreatorRoleAccepted ctx refused db parentEntityId parentVenueId ∧
      (autoCreateCreatorRoleUnless ctx refused db entityId venueId parentEntityId parentVenueId
        (ctx.newId 2)).2 = true) ∨
    (¬ CreatorRoleAccepted ctx refused db parentEntityId parentVenueId ∧
      autoCreateCreatorRoleUnless ctx refused db entityId venueId parentEntityId parentVenueId
        (ctx.newId 2) = (db, false)) := by
  unfold autoCreateCreatorRoleUnless
  split
  case isTrue root => exact Or.inl ⟨Or.inl root, rfl⟩
  case isFalse notRoot =>
    split
    case h_1 noParent => exact Or.inl ⟨Or.inr (Or.inl noParent), rfl⟩
    case h_2 parent isParent =>
      dsimp only
      split
      case h_1 missing =>
        refine Or.inr ⟨?_, rfl⟩
        rintro (root | noParent | accepted)
        · exact notRoot root
        · cases isParent.symm.trans noParent
        · exact insertUnless_eq_none_iff.mp missing accepted
      case h_2 rolesDB stored =>
        obtain ⟨accepted, inserted⟩ := insertUnless_eq_some_iff.mp stored
        exact Or.inl ⟨Or.inr (Or.inr ⟨accepted, get?_key_of_insert? inserted⟩), rfl⟩

/-! ## What stays behind -/

section Mentions

variable {α : Type} [Keyed α String] {table : Table α} {member : VectorMember α}
  {parentId childId : String}

/-- A record that exists mentions what is added to its list. -/
theorem exists_mentions_of_add (present : idExists table parentId = true) :
    ∃ row, (manipulateVectorMember table member parentId childId true).get? parentId = some row ∧
      childId ∈ member.get row := by
  obtain ⟨row, found⟩ := idExists_iff.mp present
  refine ⟨member.set (manipulateVector (member.get row) childId true) row, ?_, ?_⟩
  · rw [get?_manipulateVectorMember, if_pos rfl, found, Option.map_some]
  · rw [member.get_set, mem_manipulateVector_add]
    exact Or.inr rfl

theorem exists_mentions_of_manage (filled : parentId ≠ "")
    (present : idExists table parentId = true) :
    ∃ row, (manageMembership table member "" parentId childId).get? parentId = some row ∧
      childId ∈ member.get row := by
  rw [manageMembership, addMembership, if_neg filled]
  exact exists_mentions_of_add present

end Mentions

section Failures

variable {ctx : Context} {refuses : CreationWrite → Bool} {db : Store}

/-- A table that mentions what nobody mentioned before has changed. -/
theorem ne_of_mentions {α : Type} [Keyed α String] {table table' : Table α}
    {member : VectorMember α} {parentId childId : String}
    (unlisted : ∀ row ∈ table.rows, childId ∉ member.get row)
    (mentions : ∃ row, table'.get? parentId = some row ∧ childId ∈ member.get row) :
    table' ≠ table := by
  rintro rfl
  obtain ⟨row, found, mentioned⟩ := mentions
  exact unlisted row (mem_of_get? found) mentioned

theorem get?_deleteUnless_of_ne {α : Type} [Keyed α String] {table : Table α} {refused : Bool}
    {id other : String} (apart : id ≠ other) :
    (table.deleteUnless refused other).get? id = table.get? id := by
  cases refused with
  | true => rfl
  | false => rw [deleteUnless_false, get?_delete, if_neg apart]

/-! ## Entities -/

/-- Where an entity that cannot be created leaves no trace: its creator gets a role once it is
stored. -/
def EntityPostTakesBack (ctx : Context) (refuses : CreationWrite → Bool) (db : Store)
    (request : Request) : Prop :=
  ∀ entity, entityDoPostPlan ctx db request = .ok entity →
    RowAccepted db.entityDB (refuses .record) entity →
      CreatorRoleAccepted ctx (refuses .role) db entity.parent ""

/-- The parent of an entity that is taken back lists it still. -/
theorem entity_left_at_parent (unlisted : ctx.Unlisted db) {request : Request} {entity : Entity}
    (planned : entityDoPostPlan ctx db request = .ok entity) {entityDB : Table Entity}
    (inserted : db.entityDB.insert? entity = some entityDB) (refused : Bool) :
    (linkNewEntity db entityDB entity).entityDB.deleteUnless refused entity.info.id ≠
      db.entityDB := by
  obtain ⟨id, _, _, parentExists, _⟩ := entityDoPostPlan_eq_ok planned
  have apart : entity.parent ≠ entity.info.id := by
    intro same
    have missing : db.entityDB.get? entity.info.id = none := get?_key_of_insert? inserted
    rw [same, idExists, missing] at parentExists
    cases parentExists
  have fresh : ∀ row ∈ db.entityDB.rows, entity.info.id ∉ row.children := by
    rw [id]
    exact unlisted.child 1
  apply @ne_of_mentions _ _ _ _ Entity.childrenMember entity.parent entity.info.id fresh
  rw [get?_deleteUnless_of_ne apart]
  exact exists_mentions_of_add (idExists_insert inserted parentExists)

theorem entityPost_onError_iff (unlisted : ctx.Unlisted db) (request : Request) :
    (entityDoPostUnless ctx refuses db request).OnError (ScopeTablesKept db) ↔
      EntityPostTakesBack ctx refuses db request := by
  unfold entityDoPostUnless EntityPostTakesBack
  cases planned : entityDoPostPlan ctx db request with
  | error failure =>
      refine iff_of_true (onError_fail.mpr (scopeTablesKept_self db)) ?_
      rintro _ ⟨⟩
  | ok entity =>
      dsimp only
      cases stored : db.entityDB.insertUnless (refuses .record) entity with
      | none =>
          refine iff_of_true (onError_fail.mpr (scopeTablesKept_self db)) ?_
          rintro _ ⟨⟩ accepted
          exact absurd accepted (insertUnless_eq_none_iff.mp stored)
      | some entityDB =>
          obtain ⟨unrefused, inserted⟩ := insertUnless_eq_some_iff.mp stored
          have accepted : RowAccepted db.entityDB (refuses .record) entity :=
            ⟨unrefused, get?_key_of_insert? inserted⟩
          dsimp only
          rcases autoCreateCreatorRoleUnless_cases ctx (refuses .role)
            (linkNewEntity db entityDB entity) entity.info.id "" entity.parent "" with
            ⟨isRole, roleStored⟩ | ⟨noRole, notStored⟩
          · rw [if_pos roleStored]
            refine iff_of_true onError_done ?_
            rintro _ ⟨⟩ _
            exact isRole
          · rw [notStored, if_neg Bool.false_ne_true]
            refine iff_of_false ?_ fun takesBack => noRole (takesBack entity rfl accepted)
            intro onError
            exact entity_left_at_parent unlisted planned inserted (refuses .undoRecord)
              (onError_fail.mp onError).entities

/-! ## Venues -/

/-- There is no inline location, or the database takes it. -/
def InlineLocationAccepted (refused : Bool) (db : Store) (location : Option Location) : Prop :=
  ∀ created, location = some created → RowAccepted db.locationDB refused created

/-- Where a venue that cannot be created leaves no trace: the venue is stored once its inline
location is, and its creator gets a role once the venue is stored. -/
def VenuePostTakesBack (ctx : Context) (refuses : CreationWrite → Bool) (db : Store)
    (request : Request) : Prop :=
  ∀ venue location, venueDoPostPlan ctx db request = .ok (venue, location) →
    InlineLocationAccepted (refuses .location) db location →
      (location ≠ none → RowAccepted db.venueDB (refuses .record) venue) ∧
      (RowAccepted db.venueDB (refuses .record) venue →
        CreatorRoleAccepted ctx (refuses .role) db venue.entity venue.parent)

/-- An inline location is stored with its entity's list, or nothing is. -/
theorem storeInlineLocationUnless_cases (refused : Bool) (db : Store)
    (location : Option Location) :
    (InlineLocationAccepted refused db location ∧
      ∃ located, storeInlineLocationUnless refused db location = .ok located ∧
        storeInlineLocation db location = .ok located ∧
        (located.locationDB = db.locationDB ↔ location = none) ∧
        (location = none → located = db)) ∨
    (¬ InlineLocationAccepted refused db location ∧
      ∃ failure, storeInlineLocationUnless refused db location = .error failure) := by
  cases location with
  | none => exact Or.inl ⟨(by rintro _ ⟨⟩), db, rfl, rfl, iff_of_true rfl rfl, fun _ => rfl⟩
  | some created =>
      cases stored : db.locationDB.insertUnless refused created with
      | none =>
          refine Or.inr ⟨?_, createObjectsFailure "Could not create inline location", ?_⟩
          · intro accepted
            exact insertUnless_eq_none_iff.mp stored (accepted created rfl)
          · simp only [storeInlineLocationUnless, stored]
      | some locationDB =>
          obtain ⟨unrefused, inserted⟩ := insertUnless_eq_some_iff.mp stored
          let located : Store :=
            { db with
              locationDB := locationDB
              entityDB := addMembership db.entityDB Entity.locationsMember created.entity
                created.info.id }
          refine Or.inl ⟨?_, located, ?_, ?_, ?_, ?_⟩
          · rintro _ ⟨⟩
            exact ⟨unrefused, get?_key_of_insert? inserted⟩
          · simp only [storeInlineLocationUnless, stored, located]
          · simp only [storeInlineLocation, inserted, located]
          · exact iff_of_false (ne_of_insert? inserted) (by rintro ⟨⟩)
          · rintro ⟨⟩

/-- The entity or the parent of a venue that is taken back lists it still. -/
theorem venue_left_at_parent (unlisted : ctx.Unlisted db) {request : Request} {venue : Venue}
    {location : Option Location}
    (planned : venueDoPostPlan ctx db request = .ok (venue, location)) {located : Store}
    (isLocated : storeInlineLocation db location = .ok located) {venueDB : Table Venue}
    (inserted : located.venueDB.insert? venue = some venueDB) (refused : Bool) :
    let moved := moveVenue { located with venueDB := venueDB } venue.arrivals venue.info.id
    moved.entityDB ≠ db.entityDB ∨
      moved.venueDB.deleteUnless refused venue.info.id ≠ db.venueDB := by
  obtain ⟨id, _, parentExists⟩ := venueDoPostPlan_eq_ok planned
  obtain ⟨entityExists, _⟩ := entity_of_venueDoPostPlan planned
  obtain ⟨sameVenues, _⟩ := storeInlineLocation_eq_ok isLocated
  by_cases blank : venue.entity = ""
  · right
    have filled : venue.parent ≠ "" := by
      intro noParent
      exact entity_ne_of_venueDoPostPlan planned noParent blank
    have present := parentExists.resolve_left filled
    have apart : venue.parent ≠ venue.info.id := by
      intro same
      have missing : located.venueDB.get? venue.info.id = none := get?_key_of_insert? inserted
      rw [sameVenues] at missing
      rw [same, idExists, missing] at present
      cases present
    have fresh : ∀ row ∈ db.venueDB.rows, venue.info.id ∉ row.children := by
      rw [id]
      exact unlisted.subVenue 0
    apply @ne_of_mentions _ _ _ _ Venue.childrenMember venue.parent venue.info.id fresh
    rw [get?_deleteUnless_of_ne apart]
    rw [← sameVenues] at present
    exact exists_mentions_of_manage filled (idExists_insert inserted present)
  · left
    have present : idExists located.entityDB venue.entity = true := by
      have same : Table.SameView (fun _ => ()) db.entityDB located.entityDB :=
        sameView_storeInlineLocation (fun _ _ => rfl) isLocated
      rw [idExists_congr same]
      exact entityExists.resolve_left blank
    have fresh : ∀ row ∈ db.entityDB.rows, venue.info.id ∉ row.venues := by
      rw [id]
      exact unlisted.venue 0
    apply @ne_of_mentions _ _ _ _ Entity.venuesMember venue.entity venue.info.id fresh
    exact exists_mentions_of_manage blank present

theorem venuePost_onError_iff (unlisted : ctx.Unlisted db) (request : Request) :
    (venueDoPostUnless ctx refuses db request).OnError (ScopeTablesKept db) ↔
      VenuePostTakesBack ctx refuses db request := by
  unfold venueDoPostUnless VenuePostTakesBack
  cases planned : venueDoPostPlan ctx db request with
  | error failure =>
      refine iff_of_true (onError_fail.mpr (scopeTablesKept_self db)) ?_
      rintro _ _ ⟨⟩
  | ok plan =>
      obtain ⟨venue, location⟩ := plan
      dsimp only
      rcases storeInlineLocationUnless_cases (refuses .location) db location with
        ⟨locationAccepted, located, isLocated, isStored, sameLocations, same⟩ |
          ⟨notAccepted, failure, isRefused⟩
      · rw [isLocated]
        obtain ⟨sameVenues, sameRoles, _⟩ := storeInlineLocation_eq_ok isStored
        dsimp only
        cases stored : located.venueDB.insertUnless (refuses .record) venue with
        | none =>
            have notAccepted := insertUnless_eq_none_iff.mp stored
            rw [sameVenues] at notAccepted
            dsimp only
            rw [onError_fail]
            constructor
            · rintro kept _ _ ⟨⟩ _
              have nothing := sameLocations.mp kept.locations
              exact ⟨fun inline => absurd nothing inline,
                fun accepted => absurd accepted notAccepted⟩
            · intro takesBack
              have nothing : location = none := by
                by_contra inline
                exact notAccepted ((takesBack venue location rfl locationAccepted).1 inline)
              rw [same nothing]
              exact scopeTablesKept_self db
        | some venueDB =>
            obtain ⟨unrefused, inserted⟩ := insertUnless_eq_some_iff.mp stored
            have accepted : RowAccepted db.venueDB (refuses .record) venue := by
              rw [← sameVenues]
              exact ⟨unrefused, get?_key_of_insert? inserted⟩
            dsimp only
            have sameAcceptance : CreatorRoleAccepted ctx (refuses .role)
                (moveVenue { located with venueDB := venueDB } venue.arrivals venue.info.id)
                venue.entity venue.parent ↔
                  CreatorRoleAccepted ctx (refuses .role) db venue.entity venue.parent := by
              show _ ∨ _ ∨ (_ ∧ located.rolesDB.get? _ = none) ↔ _
              rw [sameRoles]
              rfl
            rcases autoCreateCreatorRoleUnless_cases ctx (refuses .role)
              (moveVenue { located with venueDB := venueDB } venue.arrivals venue.info.id)
              venue.entity venue.info.id venue.entity venue.parent with
              ⟨isRole, roleStored⟩ | ⟨noRole, notStored⟩
            · rw [if_pos roleStored]
              refine iff_of_true onError_done ?_
              rintro _ _ ⟨⟩ _
              exact ⟨fun _ => accepted, fun _ => sameAcceptance.mp isRole⟩
            · rw [notStored, if_neg Bool.false_ne_true]
              refine iff_of_false ?_ fun takesBack => noRole (sameAcceptance.mpr
                ((takesBack venue location rfl locationAccepted).2 accepted))
              intro onError
              have kept := onError_fail.mp onError
              rcases venue_left_at_parent unlisted planned isStored inserted
                (refuses .undoRecord) with entities | venues
              · exact entities kept.entities
              · exact venues kept.venues
      · rw [isRefused]
        refine iff_of_true (onError_fail.mpr (scopeTablesKept_self db)) ?_
        rintro _ _ ⟨⟩ accepted
        exact absurd accepted notAccepted

/-- Creations of entities and venues that fail leave the tables as they were exactly when nothing
fails after the first write. -/
theorem creations_atomic_iff (ctx : Context) (refuses : CreationWrite → Bool) (db : Store)
    (unlisted : ctx.Unlisted db) (request : Request) :
    ((entityDoPostUnless ctx refuses db request).OnError (ScopeTablesKept db) ↔
      EntityPostTakesBack ctx refuses db request) ∧
    ((venueDoPostUnless ctx refuses db request).OnError (ScopeTablesKept db) ↔
      VenuePostTakesBack ctx refuses db request) :=
  ⟨entityPost_onError_iff unlisted request, venuePost_onError_iff unlisted request⟩

end Failures

/-! ## A manager of the root entity -/

def managedRoot : Store :=
  { initialStore with
    policyDB := .singleton
      { info := { id := "policy", name := "Manager" }
        entries := [{ resources := ["entity"], access := ["FULL"] }] }
    rolesDB := .singleton
      { info := { id := "role" }, managementPolicy := "policy", users := ["u-1"],
        entity := rootUUID } }

/-- The manager makes the request. -/
def managingContext (length : ℕ) (db : Store) : Context :=
  { rootContext length with
    caller :=
      { user := { id := "u-1", userRole := .admin }
        roles := db.rolesDB.rows
        policy := db.policyDB.get? } }

theorem managingContext_unlisted (length : ℕ) :
    (managingContext length managedRoot).Unlisted managedRoot := by
  have empty : ∀ entity ∈ managedRoot.entityDB.rows, entity.children = [] ∧ entity.venues = [] := by
    decide
  constructor
  case child =>
    intro i parent member
    rw [(empty parent member).1]
    exact List.not_mem_nil
  case venue =>
    intro i entity member
    rw [(empty entity member).2]
    exact List.not_mem_nil
  case subVenue =>
    rintro i parent ⟨⟩

theorem managedRoot_atomic_iff :
    ((entityDoPostUnless (managingContext 14 managedRoot) (fun write => write == .role) managedRoot
        entityRequest).OnError (ScopeTablesKept managedRoot) ↔
      EntityPostTakesBack (managingContext 14 managedRoot) (fun write => write == .role)
        managedRoot entityRequest) ∧
    ((venueDoPostUnless (managingContext 14 managedRoot) (fun write => write == .role) managedRoot
        entityRequest).OnError (ScopeTablesKept managedRoot) ↔
      VenuePostTakesBack (managingContext 14 managedRoot) (fun write => write == .role)
        managedRoot entityRequest) :=
  creations_atomic_iff (managingContext 14 managedRoot) (fun write => write == .role) managedRoot
    (managingContext_unlisted 14) entityRequest

/-- The root entity lists an entity that was taken back. -/
theorem deleted_entity_listed :
    ¬ ∀ (ctx : Context) (refuses : CreationWrite → Bool) (db : Store) (request : Request),
      ctx.Unlisted db →
        (entityDoPostUnless ctx refuses db request).OnError (ScopeTablesKept db) ∧
          (venueDoPostUnless ctx refuses db request).OnError (ScopeTablesKept db) := by
  intro claim
  have failed : (entityDoPostUnless (managingContext 14 managedRoot) (fun write => write == .role)
      managedRoot entityRequest).result = .error (.internalError .recordNotCreated) := by
    decide
  have kept := (claim (managingContext 14 managedRoot) (fun write => write == .role) managedRoot
    entityRequest (managingContext_unlisted 14)).1 _ failed
  have listed : (entityDoPostUnless (managingContext 14 managedRoot)
      (fun write => write == .role) managedRoot entityRequest).store.entityDB.rows.map
        Entity.children = [[unaryId 16]] := by
    decide
  rw [kept.entities] at listed
  exact absurd listed (by decide)

end Owprov
