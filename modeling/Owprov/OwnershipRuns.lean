import Owprov.ConfigurationMerge
import Owprov.HomelessConfigurations

/-!
# Owned lists over runs of requests

A new entity or venue starts with the lists that its body carries.  Over a run whose requests
carry no lists, and no configuration that the lists would miss, the lists are exact, and a device
inherits the configurations that name the levels above it.
-/

namespace Owprov

open RowTable ForeignKeys Runs

/-! ## Entities and venues -/

section Owners

variable {ctx : Context} {db : Store}

/-- The body of a new entity or venue lists nothing that the other requests list there. -/
def OwnsNothing (request : Request) : Prop :=
  ∀ body, request.body = some body → ∀ field ∈ ["configurations", "variables", "maps"],
    body.stringsField field = .ok []

theorem belongings_of_entityFromJson {obj : JsonObject} {entity : Entity}
    (read : Entity.fromJson obj = .ok entity) :
    obj.stringsField "configurations" = .ok entity.configurations ∧
      obj.stringsField "variables" = .ok entity.variables ∧
      obj.stringsField "maps" = .ok entity.maps := by
  unfold Entity.fromJson at read
  rw [orInvalid_eq_ok_iff] at read
  simp only [bind_eq_ok_iff] at read
  obtain ⟨_, _, _, _, _, _, _, _, _, _, _, _, _, _, blocks, isBlocks, read⟩ := read
  obtain ⟨_, _, _, _, maps, isMaps, configurations, isConfigurations, read⟩ := read
  obtain rfl := Except.ok.inj read
  exact ⟨isConfigurations, isBlocks, isMaps⟩

theorem belongings_of_venueFromJson {obj : JsonObject} {venue : Venue}
    (read : Venue.fromJson obj = .ok venue) :
    obj.stringsField "configurations" = .ok venue.configurations ∧
      obj.stringsField "variables" = .ok venue.variables ∧
      obj.stringsField "maps" = .ok venue.maps := by
  unfold Venue.fromJson at read
  rw [orInvalid_eq_ok_iff] at read
  simp only [bind_eq_ok_iff] at read
  obtain ⟨_, _, _, _, _, _, _, _, _, _, _, _, blocks, isBlocks, read⟩ := read
  obtain ⟨_, _, _, _, maps, isMaps, configurations, isConfigurations, _, _, read⟩ := read
  obtain rfl := Except.ok.inj read
  exact ⟨isConfigurations, isBlocks, isMaps⟩

/-- What is read from a body that lists nothing. -/
theorem OwnsNothing.nothing {request : Request} (owns : OwnsNothing request) {body : JsonObject}
    (isBody : request.body = some body) {configurations blocks maps : List String}
    (read : body.stringsField "configurations" = .ok configurations ∧
      body.stringsField "variables" = .ok blocks ∧ body.stringsField "maps" = .ok maps) :
    configurations = [] ∧ blocks = [] ∧ maps = [] := by
  obtain ⟨isConfigurations, isBlocks, isMaps⟩ := read
  rw [owns body isBody _ (by simp)] at isConfigurations isBlocks isMaps
  exact ⟨(Except.ok.inj isConfigurations).symm, (Except.ok.inj isBlocks).symm,
    (Except.ok.inj isMaps).symm⟩

theorem belongings_of_entityDoPostPlan {request : Request} {entity : Entity}
    (owns : OwnsNothing request) (planned : entityDoPostPlan ctx db request = .ok entity) :
    entity.configurations = [] ∧ entity.variables = [] ∧ entity.maps = [] := by
  simp only [entityDoPostPlan, bind_eq_ok_iff, require_eq_ok_iff] at planned
  obtain ⟨_, _, _, _, body, isBody, newEntity, read, _, _, info, _, _, _, planned⟩ := planned
  obtain ⟨_, _, _, _, _, _, planned⟩ := planned
  obtain rfl := Except.ok.inj planned
  have fields := belongings_of_entityFromJson read
  exact owns.nothing (body_of_jsonBody isBody) fields

theorem belongings_of_venueDoPostPlan {request : Request} {venue : Venue}
    {location : Option Location} (owns : OwnsNothing request)
    (planned : venueDoPostPlan ctx db request = .ok (venue, location)) :
    venue.configurations = [] ∧ venue.variables = [] ∧ venue.maps = [] := by
  simp only [venueDoPostPlan, bind_eq_ok_iff, require_eq_ok_iff] at planned
  obtain ⟨_, _, body, isBody, newObject, read, _, _, info, _, _, _, planned⟩ := planned
  obtain ⟨_, _, entity, _, planned⟩ := planned
  obtain ⟨_, _, _, _, _, _, _, _, _, _, _, _, _, _, _, _, inline, _, planned⟩ := planned
  obtain ⟨rfl, _⟩ := Prod.mk.inj (Except.ok.inj planned)
  have fields := belongings_of_venueFromJson read
  exact owns.nothing (body_of_jsonBody isBody) fields

/-- A new entity that owns nothing joins the others. -/
theorem ExactOwnership.openEntity (exact : ExactOwnership db) (unclaimed : ctx.Unclaimed db)
    {entity : Entity} {entityDB : Table Entity}
    (inserted : db.entityDB.insert? entity = some entityDB) {i : ℕ}
    (id : entity.info.id = ctx.newId i)
    (nothing : entity.configurations = [] ∧ entity.variables = [] ∧ entity.maps = []) :
    ExactOwnership { db with entityDB := entityDB } where
  configurations := exact.configurations.openEntity inserted nothing.1 fun config member =>
    id ▸ (unclaimed.configurationNames i config member).1
  variableBlocks := exact.variableBlocks.openEntity inserted nothing.2.1 fun block member =>
    id ▸ (unclaimed.variableNames i block member).1
  maps := exact.maps.openEntity inserted nothing.2.2 fun map member =>
    id ▸ (unclaimed.mapNames i map member).1
  entityNamed := get?_insert?_eq_none inserted exact.entityNamed
    (show entity.info.id ≠ "" from id ▸ unclaimed.filled i)
  venueNamed := exact.venueNamed
  apart := exact.apart

/-- A new venue that owns nothing joins the others. -/
theorem ExactOwnership.openVenue (exact : ExactOwnership db) (unclaimed : ctx.Unclaimed db)
    {venue : Venue} {venueDB : Table Venue} (inserted : db.venueDB.insert? venue = some venueDB)
    {i : ℕ} (id : venue.info.id = ctx.newId i)
    (nothing : venue.configurations = [] ∧ venue.variables = [] ∧ venue.maps = []) :
    ExactOwnership { db with venueDB := venueDB } where
  configurations := exact.configurations.openVenue inserted nothing.1 fun config member =>
    id ▸ (unclaimed.configurationNames i config member).2
  variableBlocks := exact.variableBlocks.openVenue inserted nothing.2.1 fun block member =>
    id ▸ (unclaimed.variableNames i block member).2
  maps := exact.maps.openVenue inserted nothing.2.2 fun map member =>
    id ▸ (unclaimed.mapNames i map member).2
  entityNamed := exact.entityNamed
  venueNamed := get?_insert?_eq_none inserted exact.venueNamed
    (show venue.info.id ≠ "" from id ▸ unclaimed.filled i)
  apart := exact.apart

theorem ExactOwnership.closeEntity (exact : ExactOwnership db) (id : String) :
    ExactOwnership { db with entityDB := db.entityDB.delete id } where
  configurations := exact.configurations.closeEntity id
  variableBlocks := exact.variableBlocks.closeEntity id
  maps := exact.maps.closeEntity id
  entityNamed := by rw [Table.get?_delete, exact.entityNamed, ite_self]
  venueNamed := exact.venueNamed
  apart := exact.apart

theorem ExactOwnership.closeVenue (exact : ExactOwnership db) (id : String) :
    ExactOwnership { db with venueDB := db.venueDB.delete id } where
  configurations := exact.configurations.closeVenue id
  variableBlocks := exact.variableBlocks.closeVenue id
  maps := exact.maps.closeVenue id
  entityNamed := exact.entityNamed
  venueNamed := by rw [Table.get?_delete, exact.venueNamed, ite_self]
  apart := exact.apart

/-! ### Bookkeeping -/

theorem SameBelongings.of_entities {entityDB : Table Entity}
    (entities : Table.SameView Entity.belongings db.entityDB entityDB) :
    SameBelongings db { db with entityDB := entityDB } :=
  ⟨entities, .refl _ _, .refl _ _, .refl _ _, .refl _ _, fun _ tagged => tagged⟩

theorem SameBelongings.movePolicyUsage (db : Store) (dbPrefix fromId toId id : String) :
    SameBelongings db (movePolicyUsage db dbPrefix fromId toId id) :=
  ⟨.refl _ _, .refl _ _, .refl _ _, .refl _ _, .refl _ _, fun _ tagged => tagged⟩

theorem SameBelongings.autoCreateCreatorRole (db : Store)
    (entityId venueId parentEntityId parentVenueId roleId : String) :
    SameBelongings db (autoCreateCreatorRole ctx db entityId venueId parentEntityId parentVenueId
      roleId).1 := by
  rcases autoCreateCreatorRole_cases ctx db entityId venueId parentEntityId parentVenueId roleId
    with unchanged | ⟨parent, rolesDB, _, _, linked⟩
  · rw [unchanged]
    exact .refl _
  · rw [linked]
    unfold linkCreatorRole
    split
    · exact ⟨.refl _ _, sameView_addMembership (fun _ _ => rfl) _ _, .refl _ _, .refl _ _,
        .refl _ _, fun _ tagged => tagged⟩
    · exact ⟨sameView_addMembership (fun _ _ => rfl) _ _, .refl _ _, .refl _ _, .refl _ _,
        .refl _ _, fun _ tagged => tagged⟩

theorem SameBelongings.storeInlineLocation {located : Store} {location : Option Location}
    (stored : storeInlineLocation db location = .ok located) : SameBelongings db located := by
  unfold Owprov.storeInlineLocation at stored
  split at stored
  · cases stored
    exact .refl _
  · split at stored
    · cases stored
    · cases stored
      exact ⟨sameView_addMembership (fun _ _ => rfl) _ _, .refl _ _, .refl _ _, .refl _ _,
        .refl _ _, fun _ tagged => tagged⟩

theorem SameBelongings.moveVenue (db : Store) (moves : VenueMoves) (id : String) :
    SameBelongings db (moveVenue db moves id) :=
  ⟨sameView_manageMembership (fun _ _ => rfl) _ _ _,
    sameView_manageMembership (fun _ _ => rfl) _ _ _,
    sameView_moveUsages (fun _ _ => rfl) _ _ _ _, .refl _ _, .refl _ _, fun _ tagged => tagged⟩

theorem SameBelongings.deleteScopeRoles (db : Store) (onScope : ManagementRole → Bool) :
    SameBelongings db (deleteScopeRoles db onScope) := by
  rw [deleteScopeRoles_eq]
  exact ⟨.refl _ _, .refl _ _, .refl _ _, .refl _ _, .refl _ _, fun _ tagged => tagged⟩

/-! ### Requests -/

theorem ExactOwnership.entityDoPost (exact : ExactOwnership db) (unclaimed : ctx.Unclaimed db)
    {request : Request}
    (condition : (entityDoPost ctx db request).Succeeds → OwnsNothing request) :
    ExactOwnership (entityDoPost ctx db request).store := by
  rcases entityDoPost_cases unclaimed.toFresh request with
    unchanged | ⟨entity, entityDB, planned, inserted, stored⟩
  · rw [unchanged]
    exact exact
  · have owns := condition (entityDoPost_succeeds unclaimed.toFresh planned inserted)
    obtain ⟨id, _⟩ := entityDoPostPlan_eq_ok planned
    have opened := exact.openEntity unclaimed inserted id
      (belongings_of_entityDoPostPlan owns planned)
    have linked : SameBelongings { db with entityDB := entityDB }
        (linkNewEntity db entityDB entity) :=
      ⟨sameView_manipulateVectorMember (fun _ _ => rfl) _ _ true, .refl _ _, .refl _ _, .refl _ _,
        .refl _ _, fun _ tagged => tagged⟩
    rw [stored]
    exact opened.congr (linked.trans (.autoCreateCreatorRole _ _ _ _ _ _))

theorem ExactOwnership.entityDoPut (exact : ExactOwnership db) (request : Request) :
    ExactOwnership (entityDoPut ctx db request).store := by
  unfold Owprov.entityDoPut
  split
  · exact exact
  · rename_i updated fromPolicy toPolicy planned
    obtain ⟨existing, info, policy, sourceIP, rules, found, rfl⟩ :=
      writes_of_entityDoPutPlan planned
    have written := exact.congr (.of_entities (Table.SameView.update found rfl))
    exact written.congr (.movePolicyUsage _ _ _ _ _)

theorem ExactOwnership.entityDoDelete (exact : ExactOwnership db) (request : Request) :
    ExactOwnership (entityDoDelete db request).store := by
  unfold Owprov.entityDoDelete
  split
  · exact exact
  · rename_i existing _
    have released := exact.congr
      (.movePolicyUsage db "ent" existing.managementPolicy "" existing.info.id)
    have cleaned := released.congr
      (.deleteScopeRoles _ fun role => role.entity == existing.info.id)
    have closed := cleaned.closeEntity existing.info.id
    exact closed.congr (.of_entities (sameView_manipulateVectorMember (fun _ _ => rfl) _ _ false))

theorem ExactOwnership.venueDoPost (exact : ExactOwnership db) (unclaimed : ctx.Unclaimed db)
    {request : Request}
    (condition : (venueDoPost ctx db request).Succeeds → OwnsNothing request) :
    ExactOwnership (venueDoPost ctx db request).store := by
  rcases venueDoPost_cases unclaimed.toFresh request with
    unchanged | ⟨venue, location, located, venueDB, created⟩
  · rw [unchanged]
    exact exact
  · have succeeds : (Owprov.venueDoPost ctx db request).Succeeds := by
      rw [created.outcome]
      rfl
    have nothing := belongings_of_venueDoPostPlan (condition succeeds) created.planned
    obtain ⟨id, _⟩ := venueDoPostPlan_eq_ok created.planned
    obtain ⟨sameVenues, _⟩ := storeInlineLocation_eq_ok created.stored
    have inserted : db.venueDB.insert? venue = some venueDB := by
      rw [← sameVenues]
      exact created.inserted
    have opened := exact.openVenue unclaimed inserted id nothing
    have located' : SameBelongings { db with venueDB := venueDB }
        { located with venueDB := venueDB } := by
      have same := SameBelongings.storeInlineLocation created.stored
      exact ⟨same.entities, .refl _ _, same.configurations, same.variableBlocks, same.maps,
        same.tags⟩
    rw [created.outcome, Outcome.store_done]
    exact opened.congr
      ((located'.trans (.moveVenue _ _ _)).trans (.autoCreateCreatorRole _ _ _ _ _ _))

theorem belongings_of_venueDoPutPlan {request : Request} {existing : Venue}
    {update : VenueUpdate} (planned : venueDoPutPlan ctx db request existing = .ok update) :
    update.updated.belongings = existing.belongings := by
  simp only [venueDoPutPlan, bind_eq_ok_iff, require_eq_ok_iff] at planned
  obtain ⟨body', read, newObject, _, _, _, info, updated, _, _, _, _, planned⟩ := planned
  obtain ⟨_, _, _, _, _, _, _, _, _, _, inline, _, planned⟩ := planned
  obtain rfl := Except.ok.inj planned
  rfl

theorem ExactOwnership.venueDoPut (exact : ExactOwnership db) (request : Request) :
    ExactOwnership (venueDoPut ctx db request).store := by
  rcases venueDoPut_cases ctx db request with
    ⟨unchanged, _⟩ | ⟨_, existing, update, located, updated⟩
  · rw [unchanged]
    exact exact
  · rw [updated.outcome, Outcome.store_done]
    have located' := exact.congr (.storeInlineLocation updated.stored)
    have written := located'.congr (.of_venues
      (Table.SameView.update updated.foundLocated (belongings_of_venueDoPutPlan updated.planned)))
    exact written.congr (.moveVenue _ _ _)

theorem ExactOwnership.venueDoDelete (exact : ExactOwnership db) (request : Request) :
    ExactOwnership (venueDoDelete db request).store := by
  rcases venueDoDelete_cases db request with unchanged | ⟨existing, _, deleted⟩
  · rw [unchanged]
    exact exact
  · rw [deleted]
    have released := exact.congr (.moveVenue db existing.departures existing.info.id)
    have cleaned := released.congr (.deleteScopeRoles _ fun role => role.venue == existing.info.id)
    exact cleaned.closeVenue existing.info.id

end Owners

/-! ## What a level contributes -/

/-- A configuration names a level. -/
def Level.isNamedBy (config : DeviceConfiguration) : Level → Bool
  | .entity id => config.entity == id
  | .venue id => config.venue == id

namespace APConfig

variable {db : Store} {apConfig : APConfig}

theorem addConfiguration_perm (db : Store) (apConfig : APConfig) (uuid : String) :
    (addConfiguration db apConfig uuid).deviceType = apConfig.deviceType ∧
      (addConfiguration db apConfig uuid).config.Perm
        (apConfig.config ++ elementsOf db apConfig.deviceType uuid) := by
  unfold addConfiguration elementsOf
  cases db.configurationDB.get? uuid with
  | none => simp
  | some found =>
      dsimp only
      split
      · rename_i nothing
        refine ⟨rfl, ?_⟩
        rcases nothing with blank | empty
        · simp [blank]
        · simp [empty]
      · rename_i something
        rw [not_or] at something
        split
        · rename_i suited
          refine ⟨rfl, ?_⟩
          rw [if_pos ⟨something.1, suited⟩]
          have inserted : ((found.configuration.map fun element => ⟨element, found.info⟩).foldl
              (WeightedInsertion.insert VerboseElement.weight) apConfig.config).Perm _ :=
            WeightedInsertion.foldl_insert_perm apConfig.config _
          rw [List.foldl_map] at inserted
          simpa only [insertElement_eq_insert] using inserted
        · rename_i unsuited
          refine ⟨rfl, ?_⟩
          rw [if_neg fun both => unsuited both.2, List.append_nil]

theorem addConfigurations_perm (apConfig : APConfig) (uuids : List String) :
    (addConfigurations db apConfig uuids).config.Perm
      (apConfig.config ++ uuids.flatMap (elementsOf db apConfig.deviceType)) := by
  unfold addConfigurations
  induction uuids generalizing apConfig with
  | nil => simp
  | cons uuid uuids ih =>
      obtain ⟨sameType, added⟩ := addConfiguration_perm db apConfig uuid
      have rest := ih (addConfiguration db apConfig uuid)
      rw [sameType] at rest
      rw [List.foldl_cons, List.flatMap_cons, ← List.append_assoc]
      exact rest.trans (added.append_right _)

end APConfig

/-! ## Exact lists -/

/-- Every entity and every venue lists the records that name it, each once, and nothing else. -/
structure Belonging.Exact {γ : Type} [Keyed γ String] (kind : Belonging γ) (db : Store)
    (table : Table γ) : Prop where
  entity : ∀ entity ∈ db.entityDB.rows, (kind.inEntity.get entity).Nodup ∧
    ∀ id, id ∈ kind.inEntity.get entity ↔
      ∃ row, table.get? id = some row ∧ kind.entity row = entity.info.id
  venue : ∀ venue ∈ db.venueDB.rows, (kind.inVenue.get venue).Nodup ∧
    ∀ id, id ∈ kind.inVenue.get venue ↔
      ∃ row, table.get? id = some row ∧ kind.venue row = venue.info.id

/-- The lists of owners are exact, and `APConfig` adds for a level what the configurations that
name it offer to a type of device. -/
structure OwnershipExact (db : Store) : Prop where
  configurations : Belonging.configurations.Exact db db.configurationDB
  variableBlocks : Belonging.variableBlocks.Exact db db.variablesDB
  maps : Belonging.maps.Exact db db.mapDB
  added : ∀ (apConfig : APConfig) (level : Level), level.Exists db →
    (apConfig.addLevel db level).config.Perm
      (apConfig.config ++ (db.configurationDB.rows.filter (level.isNamedBy ·)).flatMap fun config =>
        elementsOf db apConfig.deviceType config.info.id)

section Properties

variable {db : Store}

theorem Belonging.Listed.exact {γ : Type} [Keyed γ String] {kind : Belonging γ}
    {table : Table γ} (listed : kind.Listed db.entityDB db.venueDB table)
    (entityNamed : db.entityDB.get? "" = none) (venueNamed : db.venueDB.get? "" = none) :
    kind.Exact db table where
  entity entity member := by
    have found : db.entityDB.get? entity.info.id = some entity := Table.get?_key_of_mem member
    refine counted_list listed.inEntity (fun blank => ?_) found
    rw [blank, entityNamed] at found
    cases found
  venue venue member := by
    have found : db.venueDB.get? venue.info.id = some venue := Table.get?_key_of_mem member
    refine counted_list listed.inVenue (fun blank => ?_) found
    rw [blank, venueNamed] at found
    cases found

/-- A level lists the ids of the configurations that name it. -/
theorem configurations_perm (exact : Belonging.configurations.Exact db db.configurationDB)
    {level : Level} (present : level.Exists db) :
    (level.configurations db).Perm
      ((db.configurationDB.rows.filter (level.isNamedBy ·)).map fun config => config.info.id) := by
  have once : ((db.configurationDB.rows.filter (level.isNamedBy ·)).map
      fun config => config.info.id).Nodup :=
    db.configurationDB.distinct.sublist (List.filter_sublist.map _)
  have named : ∀ id, id ∈ ((db.configurationDB.rows.filter (level.isNamedBy ·)).map
      fun config => config.info.id) ↔
      ∃ config, db.configurationDB.get? id = some config ∧ level.isNamedBy config = true := by
    intro id
    simp only [List.mem_map, List.mem_filter]
    constructor
    · rintro ⟨config, ⟨member, names⟩, rfl⟩
      exact ⟨config, Table.get?_key_of_mem member, names⟩
    · rintro ⟨config, found, names⟩
      exact ⟨config, ⟨Table.mem_of_get? found, names⟩, Table.key_of_get? found⟩
  cases level with
  | entity owner =>
      obtain ⟨entity, found⟩ := Option.ne_none_iff_exists'.mp present
      obtain ⟨nodup, listed⟩ := exact.entity entity (Table.mem_of_get? found)
      rw [show entity.info.id = owner from Table.key_of_get? found] at listed
      rw [show Level.configurations db (.entity owner) = entity.configurations by
        simp [Level.configurations, found]]
      refine (List.perm_ext_iff_of_nodup nodup once).mpr fun id => (listed id).trans ?_
      rw [named id]
      simp [Level.isNamedBy, Belonging.configurations]
  | venue owner =>
      obtain ⟨venue, found⟩ := Option.ne_none_iff_exists'.mp present
      obtain ⟨nodup, listed⟩ := exact.venue venue (Table.mem_of_get? found)
      rw [show venue.info.id = owner from Table.key_of_get? found] at listed
      rw [show Level.configurations db (.venue owner) = venue.configurations by
        simp [Level.configurations, found]]
      refine (List.perm_ext_iff_of_nodup nodup once).mpr fun id => (listed id).trans ?_
      rw [named id]
      simp [Level.isNamedBy, Belonging.configurations]

theorem ExactOwnership.exact (exact : ExactOwnership db) : OwnershipExact db := by
  have configurations : Belonging.configurations.Exact db db.configurationDB :=
    exact.configurations.exact exact.entityNamed exact.venueNamed
  constructor
  case configurations => exact configurations
  case variableBlocks => exact exact.variableBlocks.exact exact.entityNamed exact.venueNamed
  case maps => exact exact.maps.exact exact.entityNamed exact.venueNamed
  case added =>
    intro apConfig level present
    have listed := (configurations_perm configurations present).flatMap_right
      (elementsOf db apConfig.deviceType)
    rw [List.flatMap_map] at listed
    exact (apConfig.addConfigurations_perm _).trans (listed.append_left _)

end Properties

/-! ## Runs -/

/-- The requests that place what entities and venues own, or that store configurations. -/
inductive OwnershipMethod where
  | configurationPost
  | configurationPut
  | configurationDelete
  | variablesPost
  | variablesPut
  | variablesDelete
  | mapPost
  | mapPut
  | mapDelete
  | entityPost
  | entityPut
  | entityDelete
  | venuePost
  | venuePut
  | venueDelete
  | inventoryPost
  | inventoryPut
  | inventoryDelete
  | subDevice (method : SubDeviceMethod)

namespace OwnershipMethod

/-- What the handler of a request does to the database. -/
def handle (ctx : Context) (db : Store) (request : Request) : OwnershipMethod → Outcome
  | .configurationPost => configurationDoPost ctx db request
  | .configurationPut => configurationDoPut ctx db request
  | .configurationDelete => configurationDoDelete db request
  | .variablesPost => variablesDoPost ctx db request
  | .variablesPut => variablesDoPut db request
  | .variablesDelete => variablesDoDelete db request
  | .mapPost => mapDoPost ctx db request
  | .mapPut => mapDoPut ctx db request
  | .mapDelete => mapDoDelete ctx db request
  | .entityPost => entityDoPost ctx db request
  | .entityPut => entityDoPut ctx db request
  | .entityDelete => entityDoDelete db request
  | .venuePost => venueDoPost ctx db request
  | .venuePut => venueDoPut ctx db request
  | .venueDelete => venueDoDelete db request
  | .inventoryPost => inventoryDoPost ctx db request
  | .inventoryPut => inventoryDoPut ctx db request
  | .inventoryDelete => inventoryDoDelete db request
  | .subDevice method => method.handle ctx db request

/-- New owners come without lists, and the configurations that come and go with devices name no
owner. -/
def KeepsOwnership (db : Store) (request : Request) : OwnershipMethod → Prop
  | .entityPost | .venuePost => OwnsNothing request
  | .inventoryPost => InlineHomeless db request
  | .inventoryPut =>
      (request.getParameter "removeSubscriber" = "" → InlineHomeless db request) ∧
        CleanupMethod.inventoryPut.AbandonsHomeless db request
  | .inventoryDelete => DeletesHomeless db request
  | .subDevice .put => CleanupMethod.subDevicePut.AbandonsHomeless db request
  | .subDevice .delete => CleanupMethod.subDeviceDelete.AbandonsHomeless db request
  | _ => True

end OwnershipMethod

/-- One request, whoever sends it; it meets a condition when it is carried out. -/
def OwnershipStep (condition : Store → Request → OwnershipMethod → Prop) (db db' : Store) : Prop :=
  ∃ (method : OwnershipMethod) (ctx : Context) (request : Request),
    ctx.Unclaimed db ∧
      ((method.handle ctx db request).Succeeds → condition db request method) ∧
      db' = (method.handle ctx db request).store

theorem ExactOwnership.step {db db' : Store} (exact : ExactOwnership db)
    (isStep : OwnershipStep OwnershipMethod.KeepsOwnership db db') : ExactOwnership db' := by
  obtain ⟨method, ctx, request, unclaimed, condition, rfl⟩ := isStep
  cases method with
  | configurationPost => exact exact.configurationDoPost unclaimed request
  | configurationPut => exact exact.configurationDoPut request
  | configurationDelete => exact exact.configurationDoDelete request
  | variablesPost => exact exact.variablesDoPost request
  | variablesPut => exact exact.variablesDoPut request
  | variablesDelete => exact exact.variablesDoDelete request
  | mapPost => exact exact.mapDoPost request
  | mapPut => exact exact.mapDoPut request
  | mapDelete => exact exact.mapDoDelete request
  | entityPost => exact exact.entityDoPost unclaimed condition
  | entityPut => exact exact.entityDoPut request
  | entityDelete => exact exact.entityDoDelete request
  | venuePost => exact exact.venueDoPost unclaimed condition
  | venuePut => exact exact.venueDoPut request
  | venueDelete => exact exact.venueDoDelete request
  | inventoryPost => exact exact.inventoryDoPost unclaimed condition
  | inventoryPut => exact exact.inventoryDoPut unclaimed condition
  | inventoryDelete => exact exact.inventoryDoDelete condition
  | subDevice method =>
      cases method with
      | post => exact exact.subDeviceDoPost unclaimed request
      | put => exact exact.subDeviceDoPut unclaimed condition
      | delete => exact exact.subDeviceDoDelete condition

/-- At the start there is nothing to own. -/
theorem exactOwnership_start {db : Store} (start : ServiceStart db) : ExactOwnership db := by
  have bare : ∀ {γ : Type} [Keyed γ String] (kind : Belonging γ),
      (∀ entity ∈ initialStore.entityDB.rows, kind.inEntity.get entity = []) →
        kind.Listed initialStore.entityDB initialStore.venueDB .empty := by
    intro γ _ kind nothing
    constructor
    case inEntity =>
      intro p list found c
      obtain ⟨entity, isEntity, rfl⟩ := memberships_eq_some_iff.mp found
      rw [nothing entity (Table.mem_of_get? isEntity)]
      rfl
    case inVenue => rintro p list ⟨⟩
  have initial : ExactOwnership initialStore := by
    constructor
    case configurations => exact bare _ (by decide)
    case variableBlocks => exact bare _ (by decide)
    case maps => exact bare _ (by decide)
    case entityNamed => rfl
    case venueNamed => rfl
    case apart => rintro id ⟨⟩
  cases start with
  | bare => exact initial
  | served operatorId serviceId _ =>
      exact initial.congr
        ⟨.refl _ _, .refl _ _, .refl _ _, .refl _ _, .refl _ _, fun _ tagged => tagged⟩

/-- As long as new owners come without lists, and the configurations of devices name no owner,
the lists of owners are exact. -/
theorem ownership_exact_of_run {db : Store}
    (reached : Reachable ServiceStart (OwnershipStep OwnershipMethod.KeepsOwnership) db) :
    OwnershipExact db :=
  (reached.invariant (fun _ => exactOwnership_start) fun _ _ => ExactOwnership.step).exact

/-! ### A configuration that changes hands -/

/-- The names of a table are shorter than new ids. -/
def namesBounded {γ : Type} [Keyed γ String] (kind : Belonging γ) (length : ℕ) (table : Table γ) :
    Bool :=
  table.rows.all fun row =>
    decide ((kind.entity row).length ≤ length ∧ (kind.venue row).length ≤ length)

theorem ne_unaryId_of_namesBounded {γ : Type} [Keyed γ String] {kind : Belonging γ} {length : ℕ}
    {table : Table γ} (bounded : namesBounded kind length table = true) (i : ℕ) {row : γ}
    (member : row ∈ table.rows) :
    kind.entity row ≠ (rootContext length).newId i ∧
      kind.venue row ≠ (rootContext length).newId i := by
  have short := List.all_eq_true.mp bounded row member
  rw [decide_eq_true_iff] at short
  have long : ((rootContext length).newId i).length = length + i + 1 := length_unaryId _
  constructor
  · intro named
    rw [named, long] at short
    omega
  · intro named
    rw [named, long] at short
    omega

theorem rootContext_unclaimed {length : ℕ} {db : Store} (fresh : (rootContext length).Fresh db)
    (tables : (idsBounded length db.configurationDB && idsBounded length db.inventoryDB) = true)
    (names : (namesBounded .configurations length db.configurationDB &&
      namesBounded .variableBlocks length db.variablesDB &&
      namesBounded .maps length db.mapDB) = true) : (rootContext length).Unclaimed db := by
  rw [Bool.and_eq_true] at tables
  simp only [Bool.and_eq_true] at names
  obtain ⟨⟨configurations, blocks⟩, maps⟩ := names
  constructor
  case toFresh => exact fresh
  case configuration => exact fun i => get?_unaryId tables.1 (by omega)
  case inventory => exact fun i => get?_unaryId tables.2 (by omega)
  case configurationNames => exact fun i _ member => ne_unaryId_of_namesBounded configurations i member
  case variableNames => exact fun i _ member => ne_unaryId_of_namesBounded blocks i member
  case mapNames => exact fun i _ member => ne_unaryId_of_namesBounded maps i member

/-- A request that creates an entity with a configuration. -/
def configuredEntityRequest (config : String) : Request where
  method := .post
  uri := "/api/v1/entity/0"
  bindings := [("uuid", "0")]
  body := some [("name", .str "Campus"), ("parent", .str rootUUID),
    ("configurations", .arr [.str config] ("[\"" ++ config ++ "\"]"))]

/-- A new entity lists a configuration that does not exist. -/
theorem ghost_configuration_listed :
    ¬ ∀ db, Reachable ServiceStart (OwnershipStep fun _ _ _ => True) db → OwnershipExact db := by
  intro claim
  have created : OwnershipStep (fun _ _ _ => True) initialStore
      (entityDoPost (rootContext 14) initialStore (configuredEntityRequest "ghost")).store :=
    ⟨.entityPost, rootContext 14, _,
      rootContext_unclaimed (rootContext_fresh (by decide)) (by decide)
        (by decide),
      fun _ => trivial, rfl⟩
  have exact := claim _ (.step (.start .bare) created)
  have listed : ∃ entity ∈ (entityDoPost (rootContext 14) initialStore
      (configuredEntityRequest "ghost")).store.entityDB.rows, "ghost" ∈ entity.configurations := by
    decide
  obtain ⟨entity, member, ghost⟩ := listed
  obtain ⟨config, found, _⟩ := ((exact.configurations.entity entity member).2 "ghost").mp ghost
  rw [show (entityDoPost (rootContext 14) initialStore
    (configuredEntityRequest "ghost")).store.configurationDB.get? "ghost" = none by
      decide] at found
  cases found

/-- A request that creates a configuration at a venue. -/
def configureRequest (venueId : String) : Request where
  method := .post
  uri := "/api/v1/configuration/0"
  bindings := [("uuid", "0")]
  body := some [("name", .str "Radios"), ("deviceTypes", .arr [.str "*"] "[\"*\"]"),
    ("venue", .str venueId)]

/-- A request that moves a configuration from its venue to an entity. -/
def reassignRequest (id entityId : String) : Request where
  method := .put
  uri := "/api/v1/configuration/" ++ id
  bindings := [("uuid", id)]
  body := some [("entity", .str entityId), ("venue", .str "")]

/-- The database with a configuration at the venue. -/
def configuredVenue : Store :=
  (configurationDoPost (rootContext 30) oneVenue (configureRequest (unaryId 21))).store

theorem configuredVenue_reached :
    Reachable ServiceStart (OwnershipStep OwnershipMethod.KeepsOwnership) configuredVenue := by
  have opened : OwnershipStep OwnershipMethod.KeepsOwnership initialStore
      (EntityMethod.entityPost.handle (rootContext 14) initialStore entityRequest).store :=
    ⟨.entityPost, rootContext 14, entityRequest,
      rootContext_unclaimed (rootContext_fresh (by decide)) (by decide)
        (by decide),
      by rintro _ body ⟨⟩; decide, rfl⟩
  have built : OwnershipStep OwnershipMethod.KeepsOwnership
      (EntityMethod.entityPost.handle (rootContext 14) initialStore entityRequest).store oneVenue :=
    ⟨.venuePost, rootContext 20, venueRequest "North",
      rootContext_unclaimed (rootContext_fresh (by decide)) (by decide)
        (by decide),
      by rintro _ body ⟨⟩; decide, rfl⟩
  have configured : OwnershipStep OwnershipMethod.KeepsOwnership oneVenue configuredVenue :=
    ⟨.configurationPost, rootContext 30, configureRequest (unaryId 21),
      rootContext_unclaimed (rootContext_fresh (by decide)) (by decide)
        (by decide),
      fun _ => trivial, rfl⟩
  exact .step (.step (.step (.start .bare) opened) built) configured

/-- A configuration of a venue is given to an entity. -/
theorem ownership_exact_after_move :
    ∃ db, (db.entityDB.rows.map Entity.configurations,
        db.venueDB.rows.map Venue.configurations) = ([[], [unaryId 31]], [[]]) ∧
      OwnershipExact db :=
  ⟨(configurationDoPut (rootContext 40) configuredVenue
      (reassignRequest (unaryId 31) (unaryId 16))).store,
    by decide,
    ownership_exact_of_run (configuredVenue_reached.step
      ⟨.configurationPut, rootContext 40, reassignRequest (unaryId 31) (unaryId 16),
        rootContext_unclaimed (rootContext_fresh (by decide)) (by decide)
          (by decide),
        fun _ => trivial, rfl⟩)⟩

end Owprov
