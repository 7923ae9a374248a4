import Owprov.RoleImmutability
import Owprov.SubscriberHandlers
import Owprov.OperatorLinks
import Owprov.VenuePlacement

/-!
# Roles point at live scopes

A role is created on an existing entity, or on an existing venue of it, and a user gets one
role on each scope.  The handlers that delete an entity or a venue delete its roles too, but
some only the first 10000, and the deletion of an operator or of a subscriber none.  An update
may move a venue to another entity and leaves the roles on it behind.
-/

namespace Owprov

open RowTable ForeignKeys Runs

/-! ## Unique roles -/

/-- Every role has one user, and no two roles give the same user the same scope. -/
structure UniqueRoles (table : Table ManagementRole) : Prop where
  oneUser : ∀ role ∈ table.rows, OneUser role.immutablePart
  unique : ∀ role ∈ table.rows, ∀ role' ∈ table.rows,
    role.immutablePart = role'.immutablePart → role = role'

namespace UniqueRoles

variable {table table' : Table ManagementRole}

/-- Rows that replace rows of the same key and scope, or are some of them. -/
theorem of_copies (unique : UniqueRoles table)
    (copies : ∀ role ∈ table'.rows, ∃ old ∈ table.rows,
      key role = key old ∧ role.immutablePart = old.immutablePart) : UniqueRoles table' := by
  constructor
  case oneUser =>
    intro role member
    obtain ⟨old, isOld, _, parts⟩ := copies role member
    rw [parts]
    exact unique.oneUser old isOld
  case unique =>
    intro role member role' member' equal
    obtain ⟨old, isOld, keys, parts⟩ := copies role member
    obtain ⟨old', isOld', keys', parts'⟩ := copies role' member'
    have same : old = old' :=
      unique.unique old isOld old' isOld' (by rw [← parts, ← parts', equal])
    exact List.inj_on_of_nodup_map table'.distinct member member' (by rw [keys, keys', same])

theorem insert (unique : UniqueRoles table) {role : ManagementRole}
    (inserted : table.insert? role = some table') (oneUser : OneUser role.immutablePart)
    (absent : ∀ other ∈ table.rows, other.immutablePart ≠ role.immutablePart) :
    UniqueRoles table' := by
  constructor
  case oneUser =>
    intro other member
    rcases (Table.mem_rows_insert? inserted).mp member with old | rfl
    · exact unique.oneUser other old
    · exact oneUser
  case unique =>
    intro first member second member' equal
    rcases (Table.mem_rows_insert? inserted).mp member with old | rfl
    · rcases (Table.mem_rows_insert? inserted).mp member' with old' | rfl
      · exact unique.unique first old second old' equal
      · exact absurd equal (absent first old)
    · rcases (Table.mem_rows_insert? inserted).mp member' with old' | rfl
      · exact absurd equal.symm (absent second old')
      · rfl

end UniqueRoles

/-! ## Live scopes -/

/-- The entity of a role exists, and its venue is a venue of the entity. -/
structure ManagementRole.Live (entities : Table Entity) (venues : Table Venue)
    (role : ManagementRole) : Prop where
  entity : idExists entities role.entity = true
  venue : role.venue ≠ "" →
    ∃ venue, venues.get? role.venue = some venue ∧ venue.entity = role.entity

/-- Liveness depends on the scope. -/
theorem ManagementRole.Live.of_part {entities : Table Entity} {venues : Table Venue}
    {role role' : ManagementRole} (live : role.Live entities venues)
    (parts : role'.immutablePart = role.immutablePart) : role'.Live entities venues := by
  simp only [ManagementRole.immutablePart, Prod.mk.injEq] at parts
  constructor
  · rw [parts.1]
    exact live.entity
  · rw [parts.1, parts.2.1]
    exact live.venue

/-- Roles are unique and live, and every venue names an entity. -/
structure LiveScopes (db : Store) : Prop where
  roles : UniqueRoles db.rolesDB
  live : ∀ role ∈ db.rolesDB.rows, role.Live db.entityDB db.venueDB
  placed : ∀ id venue, db.venueDB.get? id = some venue → venue.entity ≠ ""

/-! ## The roles of a request -/

section SaveRole

variable {ctx : Context} {db saved : Store} {userId : String} {role : ManagementRole}

/-- The lookup of the role of a user on a scope finds it, and what it finds has the scope of a
stored role. -/
structure Finds (ctx : Context) (db : Store) (userId entityId venueId : String) : Prop where
  complete : ∀ role ∈ db.rolesDB.rows, role.immutablePart = (entityId, venueId, [userId]) →
    (findExactExistingRole ctx db userId entityId venueId).isSome
  sound : ∀ existing, findExactExistingRole ctx db userId entityId venueId = some existing →
    ∃ row ∈ db.rolesDB.rows, key row = key existing ∧
      row.immutablePart = existing.immutablePart

theorem saveRole_cases (stored : saveRole ctx db userId role = some saved) :
    (∃ existing, findExactExistingRole ctx db userId role.entity role.venue = some existing ∧
      saved = { db with
        rolesDB := db.rolesDB.update { existing with managementPolicy := role.managementPolicy } }) ∨
      (findExactExistingRole ctx db userId role.entity role.venue = none ∧
        ∃ rolesDB, db.rolesDB.insert? role = some rolesDB ∧
          saved = { db with rolesDB := rolesDB }) := by
  unfold saveRole at stored
  split at stored
  · rename_i existing found
    cases stored
    exact Or.inl ⟨existing, found, rfl⟩
  · rename_i missing
    obtain ⟨rolesDB, inserted, rfl⟩ := Option.map_eq_some_iff.mp stored
    exact Or.inr ⟨missing, rolesDB, inserted, rfl⟩

/-- The role that a lookup finds has the scope that was looked for. -/
theorem scope_of_findExactExistingRole {entityId venueId : String} {existing : ManagementRole}
    (found : findExactExistingRole ctx db userId entityId venueId = some existing) :
    existing.entity = entityId ∧ existing.venue = venueId := by
  unfold findExactExistingRole at found
  split at found
  · simpa using List.find?_some found
  · have selected := List.mem_of_mem_take (List.mem_of_find?_eq_some found)
    have scope := (List.mem_filter.mp selected).2
    simp only [Bool.and_eq_true, beq_iff_eq] at scope
    exact ⟨scope.1.1, scope.1.2⟩

/-- A role that is saved keeps the roles unique and live. -/
theorem LiveScopes.saveRole (scopes : LiveScopes db) (users : role.users = [userId])
    (live : role.Live db.entityDB db.venueDB)
    (finds : Finds ctx db userId role.entity role.venue)
    (stored : saveRole ctx db userId role = some saved) : LiveScopes saved := by
  rcases saveRole_cases stored with ⟨existing, found, rfl⟩ | ⟨missing, rolesDB, inserted, rfl⟩
  · obtain ⟨row, isRow, keys, parts⟩ := finds.sound existing found
    have copies : ∀ other ∈ (db.rolesDB.update
        { existing with managementPolicy := role.managementPolicy }).rows,
        ∃ old ∈ db.rolesDB.rows, key other = key old ∧
          other.immutablePart = old.immutablePart := by
      intro other member
      rcases Table.mem_rows_update member with rfl | old
      · exact ⟨row, isRow, keys.symm, parts.symm⟩
      · exact ⟨other, old, rfl, rfl⟩
    refine ⟨scopes.roles.of_copies copies, ?_, scopes.placed⟩
    intro other member
    obtain ⟨old, isOld, _, same⟩ := copies other member
    exact (scopes.live old isOld).of_part same
  · have part : role.immutablePart = (role.entity, role.venue, [userId]) := by
      rw [ManagementRole.immutablePart, users]
    have absent : ∀ other ∈ db.rolesDB.rows, other.immutablePart ≠ role.immutablePart := by
      intro other member equal
      have found := finds.complete other member (equal.trans part)
      rw [missing] at found
      cases found
    refine ⟨scopes.roles.insert inserted ⟨userId, by rw [part]⟩ absent, ?_,
      scopes.placed⟩
    intro other member
    rcases (Table.mem_rows_insert? inserted).mp member with old | rfl
    · exact scopes.live other old
    · exact live

/-- Rows that a filter drops before and after may be replaced. -/
theorem filter_map_of_dropped {α : Type} (keep : α → Bool) (change : α → α) (rows : List α)
    (dropped : ∀ row ∈ rows, change row = row ∨ (keep row = false ∧ keep (change row) = false)) :
    (rows.map change).filter keep = rows.filter keep := by
  induction rows with
  | nil => rfl
  | cons row rows ih =>
      rw [List.forall_mem_cons] at dropped
      rw [List.map_cons, List.filter_cons, List.filter_cons, ih dropped.2]
      rcases dropped.1 with same | ⟨before, after⟩
      · rw [same]
      · rw [before, after]
        rfl

/-- A role that is saved is not among the roles of another venue. -/
theorem filter_saveRole (sound : ∀ existing,
      findExactExistingRole ctx db userId role.entity role.venue = some existing →
        ∃ row ∈ db.rolesDB.rows, key row = key existing ∧
          row.immutablePart = existing.immutablePart)
    (stored : saveRole ctx db userId role = some saved) {keep : ManagementRole → Bool}
    (elsewhere : ∀ other, other.venue = role.venue → keep other = false) :
    saved.rolesDB.rows.filter keep = db.rolesDB.rows.filter keep := by
  rcases saveRole_cases stored with ⟨existing, found, rfl⟩ | ⟨_, rolesDB, inserted, rfl⟩
  · obtain ⟨row, isRow, keys, parts⟩ := sound existing found
    obtain ⟨_, venue⟩ := scope_of_findExactExistingRole found
    apply filter_map_of_dropped
    intro other member
    split
    · rename_i sameKey
      have isSame : other = row :=
        List.inj_on_of_nodup_map db.rolesDB.distinct member isRow (sameKey.trans keys.symm)
      simp only [ManagementRole.immutablePart, Prod.mk.injEq] at parts
      refine Or.inr ⟨elsewhere other ?_, elsewhere _ venue⟩
      rw [isSame, parts.2.1, venue]
    · exact Or.inl rfl
  · unfold Table.insert? at inserted
    split at inserted
    · cases inserted
    · cases inserted
      rw [List.filter_append, List.filter_singleton, elsewhere role rfl]
      exact List.append_nil _

/-- Saving a role does not disturb the lookups for other venues. -/
theorem Finds.saveRole {venueId : String} (finds : Finds ctx db userId role.entity venueId)
    (here : Finds ctx db userId role.entity role.venue) (apart : venueId ≠ role.venue)
    (stored : saveRole ctx db userId role = some saved) :
    Finds ctx saved userId role.entity venueId := by
  have sameFilter : ∀ keep : ManagementRole → Bool,
      (∀ other, other.venue = role.venue → keep other = false) →
      saved.rolesDB.rows.filter keep = db.rolesDB.rows.filter keep :=
    fun keep elsewhere => filter_saveRole here.sound stored elsewhere
  have sameRows : ∀ other : ManagementRole, other.venue = venueId →
      (other ∈ saved.rolesDB.rows ↔ other ∈ db.rolesDB.rows) := by
    intro other venue
    have filtered := sameFilter (fun row => row.venue == venueId) (by
      intro row isHere
      rw [isHere]
      simpa using Ne.symm apart)
    have members : ∀ rows : List ManagementRole,
        other ∈ rows ↔ other ∈ rows.filter fun row => row.venue == venueId := by
      intro rows
      simp [venue]
    rw [members, filtered, ← members]
  have sameFind : findExactExistingRole ctx saved userId role.entity venueId =
      findExactExistingRole ctx db userId role.entity venueId := by
    unfold findExactExistingRole
    split
    · rfl
    · rw [sameFilter]
      intro other isHere
      rw [isHere]
      simp [Ne.symm apart]
  constructor
  case complete =>
    intro other member part
    have venue : other.venue = venueId := congrArg (fun part => part.2.1) part
    rw [sameFind]
    exact finds.complete other ((sameRows other venue).mp member) part
  case sound =>
    intro existing found
    rw [sameFind] at found
    obtain ⟨row, isRow, keys, parts⟩ := finds.sound existing found
    obtain ⟨_, venue⟩ := scope_of_findExactExistingRole found
    have rowVenue : row.venue = venueId := (congrArg (fun part => part.2.1) parts).trans venue
    exact ⟨row, (sameRows row rowVenue).mpr isRow, keys, parts⟩

theorem saveRole_tables (stored : saveRole ctx db userId role = some saved) :
    saved.entityDB = db.entityDB ∧ saved.venueDB = db.venueDB := by
  rcases saveRole_cases stored with ⟨_, _, rfl⟩ | ⟨_, _, _, rfl⟩
  · exact ⟨rfl, rfl⟩
  · exact ⟨rfl, rfl⟩

theorem LiveScopes.deleteRoles (scopes : LiveScopes db) (ids : List String) :
    LiveScopes { db with rolesDB := ids.foldl Table.delete db.rolesDB } := by
  have fewer : ∀ (ids : List String) (table : Table ManagementRole),
      ∀ role ∈ (ids.foldl Table.delete table).rows, role ∈ table.rows := by
    intro ids
    induction ids with
    | nil => exact fun _ _ member => member
    | cons id ids ih =>
        intro table role member
        exact (Table.mem_rows_delete.mp (ih _ role member)).1
  refine ⟨scopes.roles.of_copies ?_, ?_, scopes.placed⟩
  · exact fun role member => ⟨role, fewer ids _ role member, rfl, rfl⟩
  · exact fun role member => scopes.live role (fewer ids _ role member)

/-- The loop over the scopes of a request. -/
theorem LiveScopes.saveRoles (scopes : LiveScopes db) (users : role.users = [userId])
    {venueIds : List String} (distinct : venueIds.Nodup)
    (live : ∀ venueId ∈ venueIds,
      ({ role with venue := venueId } : ManagementRole).Live db.entityDB db.venueDB)
    (finds : ∀ venueId ∈ venueIds, Finds ctx db userId role.entity venueId)
    (index : ℕ) (created : List String) :
    LiveScopes (saveRoles ctx userId role index created venueIds db).store := by
  induction venueIds generalizing index created db with
  | nil => exact scopes
  | cons venueId venueIds ih =>
      rw [List.nodup_cons] at distinct
      rw [List.forall_mem_cons] at live finds
      unfold Owprov.saveRoles
      dsimp only
      split
      · exact scopes.deleteRoles created
      · rename_i saved stored
        obtain ⟨entityDB, venueDB⟩ := saveRole_tables stored
        let scopedRole : ManagementRole := { role with
          venue := venueId
          info := if index = 0 then role.info
            else { role.info with id := ctx.newId index } }
        have scopedUsers : scopedRole.users = [userId] := users
        have scopedLive : scopedRole.Live db.entityDB db.venueDB := live.1.of_part rfl
        have scopedFinds : Finds ctx db userId scopedRole.entity scopedRole.venue := finds.1
        have savedScopes : LiveScopes saved :=
          LiveScopes.saveRole scopes scopedUsers scopedLive scopedFinds stored
        refine ih savedScopes distinct.2 ?_ ?_ _ _
        · intro other member
          rw [entityDB, venueDB]
          exact live.2 other member
        · intro other member
          have apart : other ≠ scopedRole.venue := by
            rintro rfl
            exact distinct.1 member
          have otherFinds : Finds ctx db userId scopedRole.entity other := finds.2 other member
          exact otherFinds.saveRole scopedFinds apart stored

end SaveRole

/-! ## Scopes that come and go -/

section Scopes

variable {ctx : Context} {db db' : Store}

/-- Some roles go, and the scopes of the roles that stay are there. -/
theorem LiveScopes.of_kept (scopes : LiveScopes db)
    (fewer : ∀ role ∈ db'.rolesDB.rows, role ∈ db.rolesDB.rows)
    (entities : ∀ role ∈ db'.rolesDB.rows, idExists db.entityDB role.entity = true →
      idExists db'.entityDB role.entity = true)
    (venues : ∀ role ∈ db'.rolesDB.rows, ∀ venue, db.venueDB.get? role.venue = some venue →
      ∃ venue', db'.venueDB.get? role.venue = some venue' ∧ venue'.entity = venue.entity)
    (placed : ∀ id venue, db'.venueDB.get? id = some venue → venue.entity ≠ "") :
    LiveScopes db' := by
  refine ⟨scopes.roles.of_copies fun role member => ⟨role, fewer role member, rfl, rfl⟩, ?_,
    placed⟩
  intro role member
  have live := scopes.live role (fewer role member)
  constructor
  case entity => exact entities role member live.entity
  case venue =>
    intro filled
    obtain ⟨venue, found, belongs⟩ := live.venue filled
    obtain ⟨venue', found', same⟩ := venues role member venue found
    exact ⟨venue', found', same.trans belongs⟩

/-- The venues are the same. -/
theorem LiveScopes.of_entities (scopes : LiveScopes db) (venueDB : db'.venueDB = db.venueDB)
    (fewer : ∀ role ∈ db'.rolesDB.rows, role ∈ db.rolesDB.rows)
    (entities : ∀ role ∈ db'.rolesDB.rows, idExists db.entityDB role.entity = true →
      idExists db'.entityDB role.entity = true) : LiveScopes db' := by
  apply scopes.of_kept fewer entities
  · intro role _ venue found
    exact ⟨venue, venueDB ▸ found, rfl⟩
  · rw [venueDB]
    exact scopes.placed

/-- The roles and the entities are the same, up to lists. -/
theorem LiveScopes.congr (scopes : LiveScopes db) (rolesDB : db'.rolesDB = db.rolesDB)
    (entities : Table.SameView Entity.parent db.entityDB db'.entityDB)
    (venues : Table.SameView Venue.entity db.venueDB db'.venueDB) : LiveScopes db' := by
  apply scopes.of_kept
  · rw [rolesDB]
    exact fun _ member => member
  · intro role _ present
    rw [idExists_congr entities]
    exact present
  · intro role _ venue found
    obtain ⟨venue', found', same⟩ := venues.symm.found found
    exact ⟨venue', found', same.symm⟩
  · intro id venue found
    obtain ⟨old, before, same⟩ := venues.found found
    rw [same]
    exact scopes.placed id old before

/-- The creator of a scope that no role has gets a role on it. -/
theorem LiveScopes.autoCreateCreatorRole (scopes : LiveScopes db)
    {entityId venueId parentEntityId parentVenueId roleId : String}
    (entity : idExists db.entityDB entityId = true)
    (venue : venueId ≠ "" →
      ∃ venue, db.venueDB.get? venueId = some venue ∧ venue.entity = entityId)
    (unused : ∀ role ∈ db.rolesDB.rows, ¬ (role.entity = entityId ∧ role.venue = venueId)) :
    LiveScopes
      (autoCreateCreatorRole ctx db entityId venueId parentEntityId parentVenueId roleId).1 := by
  rcases autoCreateCreatorRole_cases ctx db entityId venueId parentEntityId parentVenueId
    roleId with unchanged | ⟨parent, rolesDB, _, inserted, stored⟩
  · rw [unchanged]
    exact scopes
  · have absent : ∀ other ∈ db.rolesDB.rows, other.immutablePart ≠
        (creatorRole ctx.caller.user parent entityId venueId roleId).immutablePart := by
      intro other member equal
      simp only [ManagementRole.immutablePart, Prod.mk.injEq] at equal
      exact unused other member ⟨equal.1, equal.2.1⟩
    have created : LiveScopes { db with rolesDB := rolesDB } := by
      refine ⟨scopes.roles.insert inserted ⟨ctx.caller.user.id, rfl⟩ absent, ?_, scopes.placed⟩
      intro role member
      rcases (Table.mem_rows_insert? inserted).mp member with old | rfl
      · exact scopes.live role old
      · exact ⟨entity, venue⟩
    rw [stored]
    unfold linkCreatorRole
    split
    · exact created.congr rfl (.refl _ _) (sameView_addMembership (fun _ _ => rfl) _ _)
    · exact created.congr rfl (sameView_addMembership (fun _ _ => rfl) _ _) (.refl _ _)

theorem mem_rows_foldl_delete {roles : List ManagementRole} {table : Table ManagementRole}
    {role : ManagementRole} :
    role ∈ (roles.foldl (fun table role => table.delete role.info.id) table).rows ↔
      role ∈ table.rows ∧ ∀ deleted ∈ roles, role.info.id ≠ deleted.info.id := by
  induction roles generalizing table with
  | nil => simp
  | cons deleted roles ih =>
      rw [List.foldl_cons, ih, Table.mem_rows_delete, List.forall_mem_cons, and_assoc]
      exact Iff.rfl

theorem mem_rows_deleteScopeRoles (db : Store) {onScope : ManagementRole → Bool}
    {role : ManagementRole}
    (member : role ∈ (deleteScopeRoles db onScope).rolesDB.rows) : role ∈ db.rolesDB.rows := by
  rw [deleteScopeRoles_rolesDB, mem_rows_foldl_delete] at member
  exact member.1

/-- No role on a deleted scope is left, if there were few. -/
theorem offScope_of_deleteScopeRoles (db : Store) {onScope : ManagementRole → Bool}
    {role : ManagementRole}
    (few : (db.rolesDB.rows.filter onScope).length ≤ 10000)
    (member : role ∈ (deleteScopeRoles db onScope).rolesDB.rows) : onScope role = false := by
  rw [deleteScopeRoles_rolesDB, mem_rows_foldl_delete, List.take_of_length_le few] at member
  by_contra isOnScope
  have selected : role ∈ db.rolesDB.rows.filter onScope :=
    List.mem_filter.mpr ⟨member.1, by simpa using isOnScope⟩
  exact member.2 role selected rfl

/-! ### Entities and operators -/

/-- A new entity brings no roles. -/
theorem LiveScopes.insertEntity (scopes : LiveScopes db) {entity : Entity}
    {entityDB : Table Entity} (inserted : db.entityDB.insert? entity = some entityDB)
    (entities : Table.SameView Entity.parent entityDB db'.entityDB)
    (rolesDB : db'.rolesDB = db.rolesDB) (venueDB : db'.venueDB = db.venueDB) :
    LiveScopes db' := by
  apply scopes.of_entities venueDB
  · rw [rolesDB]
    exact fun _ member => member
  · intro role _ present
    rw [idExists_congr entities]
    exact idExists_insert inserted present

theorem LiveScopes.entityDoPost (scopes : LiveScopes db) (fresh : ctx.Fresh db)
    (request : Request) : LiveScopes (entityDoPost ctx db request).store := by
  rcases entityDoPost_cases fresh request with
    unchanged | ⟨entity, entityDB, planned, inserted, stored⟩
  · rw [unchanged]
    exact scopes
  · obtain ⟨id, _⟩ := entityDoPostPlan_eq_ok planned
    have children : Table.SameView Entity.parent entityDB
        (linkNewEntity db entityDB entity).entityDB :=
      sameView_manipulateVectorMember (fun _ _ => rfl) _ _ true
    rw [stored]
    apply (scopes.insertEntity inserted children rfl rfl).autoCreateCreatorRole
    · have self : entityDB.get? entity.info.id = some entity :=
        (Table.get?_insert? inserted _).trans (if_pos rfl)
      rw [idExists_congr children, idExists, self]
      rfl
    · exact fun filled => absurd rfl filled
    · rintro role member ⟨onEntity, _⟩
      have live := (scopes.live role member).entity
      rw [onEntity, id, idExists, fresh.entity 1] at live
      cases live

theorem LiveScopes.entityDoPut (scopes : LiveScopes db) (request : Request) :
    LiveScopes (entityDoPut ctx db request).store := by
  unfold Owprov.entityDoPut
  split
  · exact scopes
  · rename_i updated _ _ planned
    obtain ⟨existing, found, parent, _⟩ := entityDoPutPlan_eq_ok planned
    exact scopes.congr rfl (Table.SameView.update found parent) (.refl _ _)

/-- The roles of an entity that is deleted go with it, if there are few. -/
theorem LiveScopes.entityDoDelete (scopes : LiveScopes db) {request : Request}
    (few : ∀ existing, entityDoDeletePlan db request = .ok existing →
      (db.rolesDB.rows.filter fun role => role.entity == existing.info.id).length ≤ 10000) :
    LiveScopes (entityDoDelete db request).store := by
  unfold Owprov.entityDoDelete
  split
  · exact scopes
  · rename_i existing planned
    apply scopes.of_entities
    · simp only [Outcome.store_done, manipulateChild, deleteScopeRoles_venueDB,
        movePolicyUsage_venueDB]
    · exact fun role member => mem_rows_deleteScopeRoles
        (movePolicyUsage db "ent" existing.managementPolicy "" existing.info.id) member
    · intro role member present
      have apart : role.entity ≠ existing.info.id := by
        have offScope := offScope_of_deleteScopeRoles
          (movePolicyUsage db "ent" existing.managementPolicy "" existing.info.id)
          (few existing planned) member
        simpa using offScope
      simp only [Outcome.store_done, manipulateChild, deleteScopeRoles_entityDB,
        movePolicyUsage_entityDB]
      rw [idExists_manipulateVectorMember]
      exact idExists_delete apart present

theorem LiveScopes.operatorDoPost (scopes : LiveScopes db) (fresh : ctx.Fresh db)
    (request : Request) : LiveScopes (operatorDoPost ctx db request).store := by
  rcases operatorDoPost_cases fresh request with
    unchanged | ⟨operator, entity, operatorDB, entityDB, planned, _, inserted, stored⟩
  · rw [unchanged]
    exact scopes
  · rw [stored]
    exact scopes.insertEntity inserted
      (sameView_manipulateVectorMember (fun _ _ => rfl) _ _ true) rfl rfl

theorem LiveScopes.operatorDoPut (scopes : LiveScopes db) (request : Request) :
    LiveScopes (operatorDoPut ctx db request).store := by
  unfold Owprov.operatorDoPut
  split
  · exact scopes
  · exact scopes.congr rfl (.refl _ _) (.refl _ _)

/-- The entity of an operator is deleted, and no role with it. -/
theorem LiveScopes.operatorDoDelete (scopes : LiveScopes db) {request : Request}
    (unused : ∀ operator entity, operatorDoDeletePlan db request = .ok (operator, some entity) →
      ∀ role ∈ db.rolesDB.rows, role.entity ≠ entity.info.id) :
    LiveScopes (operatorDoDelete db request).store := by
  unfold Owprov.operatorDoDelete
  split
  · exact scopes
  · rename_i operator linked planned
    cases linked with
    | none => exact scopes.congr rfl (.refl _ _) (.refl _ _)
    | some entity =>
        apply scopes.of_entities
        · rfl
        · exact fun role member => member
        · intro role member present
          have isRole : role ∈ db.rolesDB.rows := member
          simp only [Outcome.store_done, Option.elim_some, deleteLinkedEntity, manipulateChild,
            movePolicyUsage_entityDB]
          rw [idExists_manipulateVectorMember]
          exact idExists_delete (unused operator entity planned role isRole) present

/-! ### Venues -/

/-- A venue that is created without a parent names its entity. -/
theorem entity_ne_of_venueDoPostPlan {request : Request} {venue : Venue}
    {location : Option Location}
    (planned : venueDoPostPlan ctx db request = .ok (venue, location)) (noParent : venue.parent = "") :
    venue.entity ≠ "" := by
  simp only [venueDoPostPlan, bind_eq_ok_iff, require_eq_ok_iff] at planned
  obtain ⟨_, _, body, _, newObject, _, _, _, info, _, _, named, _, _, entity, placed, planned⟩ :=
    planned
  obtain ⟨_, _, _, _, _, _, _, _, _, _, _, _, _, _, _, _, inline, _, planned⟩ := planned
  cases planned
  have blank : newObject.parent = "" := noParent
  rw [newVenueEntity, if_pos blank, Except.ok.injEq] at placed
  show entity ≠ ""
  rw [← placed]
  simpa [blank] using named

theorem LiveScopes.storeInlineLocation (scopes : LiveScopes db) {located : Store}
    {location : Option Location} (stored : storeInlineLocation db location = .ok located) :
    LiveScopes located := by
  obtain ⟨venueDB, rolesDB, _⟩ := storeInlineLocation_eq_ok stored
  apply scopes.congr rolesDB (sameView_storeInlineLocation (fun _ _ => rfl) stored)
  rw [venueDB]
  exact .refl _ _

/-- A new venue brings no roles. -/
theorem LiveScopes.insertVenue (scopes : LiveScopes db) {venue : Venue} {venueDB : Table Venue}
    (inserted : db.venueDB.insert? venue = some venueDB) (named : venue.entity ≠ "")
    (rolesDB : db'.rolesDB = db.rolesDB)
    (entities : Table.SameView Entity.parent db.entityDB db'.entityDB)
    (venues : Table.SameView Venue.entity venueDB db'.venueDB) : LiveScopes db' := by
  have created : LiveScopes { db with venueDB := venueDB } := by
    refine scopes.of_kept (fun _ member => member) (fun _ _ present => present) ?_ ?_
    · intro role _ old found
      have apart : role.venue ≠ key venue := by
        intro same
        rw [same, Table.get?_key_of_insert? inserted] at found
        cases found
      exact ⟨old, (Table.get?_insert? inserted _).trans ((if_neg apart).trans found), rfl⟩
    · intro id row found
      rw [Table.get?_insert? inserted] at found
      split at found
      · cases found
        exact named
      · exact scopes.placed id row found
  exact created.congr rolesDB entities venues

theorem LiveScopes.venueDoPost (scopes : LiveScopes db) (fresh : ctx.Fresh db)
    (request : Request) : LiveScopes (venueDoPost ctx db request).store := by
  rcases venueDoPost_cases fresh request with
    unchanged | ⟨venue, location, located, venueDB, created⟩
  · rw [unchanged]
    exact scopes
  · obtain ⟨id, _⟩ := venueDoPostPlan_eq_ok created.planned
    obtain ⟨entityFound, parentEntity⟩ := entity_of_venueDoPostPlan created.planned
    obtain ⟨sameVenues, sameRoles, _⟩ := storeInlineLocation_eq_ok created.stored
    have located' := scopes.storeInlineLocation created.stored
    have named : venue.entity ≠ "" := by
      rcases parentEntity with noParent | ⟨parent, isParent, entity⟩
      · exact entity_ne_of_venueDoPostPlan created.planned noParent
      · rw [← entity]
        exact scopes.placed _ parent isParent
    have entities : Table.SameView Entity.parent db.entityDB
        (moveVenue { located with venueDB := venueDB } venue.arrivals venue.info.id).entityDB :=
      (sameView_storeInlineLocation (fun _ _ => rfl) created.stored).trans
        (sameView_manageMembership (fun _ _ => rfl) _ _ _)
    have venues : Table.SameView Venue.entity venueDB
        (moveVenue { located with venueDB := venueDB } venue.arrivals venue.info.id).venueDB :=
      sameView_manageMembership (fun _ _ => rfl) _ _ _
    have linked : LiveScopes
        (moveVenue { located with venueDB := venueDB } venue.arrivals venue.info.id) :=
      located'.insertVenue created.inserted named rfl
        (sameView_manageMembership (fun _ _ => rfl) _ _ _) venues
    rw [created.outcome, Outcome.store_done]
    apply linked.autoCreateCreatorRole
    · rw [idExists_congr entities]
      exact entityFound.resolve_left named
    · intro _
      have self : venueDB.get? venue.info.id = some venue :=
        (Table.get?_insert? created.inserted _).trans (if_pos rfl)
      obtain ⟨venue', found, same⟩ := venues.symm.found self
      exact ⟨venue', found, same.symm⟩
    · rintro role member ⟨_, onVenue⟩
      have isRole : role ∈ db.rolesDB.rows := by
        rw [← sameRoles]
        exact member
      have filled : role.venue ≠ "" := by
        rw [onVenue, id]
        exact fresh.filled 0
      obtain ⟨other, found, _⟩ := (scopes.live role isRole).venue filled
      rw [onVenue, id, fresh.venue 0] at found
      cases found

/-- The body of a venue update keeps the entity, or the venue has no roles. -/
def KeepsRoleScopes (db : Store) (request : Request) : Prop :=
  venueCommand request = none →
    ∀ existing body, db.venueDB.get? (request.getBinding "uuid") = some existing →
      request.body = some body →
      (body.has "entity" = true → body.getString "entity" = .ok existing.entity) ∨
        ∀ role ∈ db.rolesDB.rows, role.venue ≠ existing.info.id

theorem LiveScopes.venueDoPut (scopes : LiveScopes db) {request : Request}
    (condition : (venueDoPut ctx db request).Succeeds → KeepsRoleScopes db request) :
    LiveScopes (venueDoPut ctx db request).store := by
  rcases venueDoPut_cases ctx db request with
    ⟨unchanged, _⟩ | ⟨plain, existing, update, located, updated⟩
  · rw [unchanged]
    exact scopes
  · have keeps : KeepsRoleScopes db request := condition (by rw [updated.outcome]; rfl)
    obtain ⟨body, isBody, sameId, _, entityMove, _⟩ := venueDoPutPlan_eq_ok updated.planned
    obtain ⟨sameVenues, sameRoles, _⟩ := storeInlineLocation_eq_ok updated.stored
    have located' := scopes.storeInlineLocation updated.stored
    have named : update.updated.entity ≠ "" := by
      rcases requiredMove_eq_ok entityMove with ⟨_, _, _, kept⟩ | ⟨_, _, _, _, filled, _⟩
      · rw [kept]
        exact scopes.placed _ existing updated.found
      · exact filled
    have replaced : LiveScopes
        { located with venueDB := located.venueDB.update update.updated } := by
      rcases keeps plain existing body updated.found isBody with same | unused
      · have kept : Table.SameView Venue.entity located.venueDB
            (located.venueDB.update update.updated) :=
          .update updated.foundLocated ((value_eq_existing_iff entityMove).mpr same)
        exact located'.congr rfl (.refl _ _) kept
      · refine located'.of_kept (fun _ member => member) (fun _ _ present => present) ?_ ?_
        · intro role member venue found
          have isRole : role ∈ db.rolesDB.rows := by
            rw [← sameRoles]
            exact member
          have apart : role.venue ≠ key update.updated := by
            rw [show key update.updated = existing.info.id from sameId]
            exact unused role isRole
          exact ⟨venue, (Table.get?_update_of_ne _ apart).trans found, rfl⟩
        · intro id venue found
          rw [Table.get?_update] at found
          split at found
          · obtain ⟨_, _, rfl⟩ := Option.map_eq_some_iff.mp found
            exact named
          · exact located'.placed id venue found
    rw [updated.outcome, Outcome.store_done]
    exact replaced.congr rfl (sameView_manageMembership (fun _ _ => rfl) _ _ _)
      (sameView_manageMembership (fun _ _ => rfl) _ _ _)

/-- The roles of a venue that is deleted go with it, if there are few. -/
theorem LiveScopes.venueDoDelete (scopes : LiveScopes db) {request : Request}
    (few : ∀ existing, venueDoDeletePlan db request = .ok existing →
      (db.rolesDB.rows.filter fun role => role.venue == existing.info.id).length ≤ 10000) :
    LiveScopes (venueDoDelete db request).store := by
  rcases venueDoDelete_cases db request with unchanged | ⟨existing, planned, deleted⟩
  · rw [unchanged]
    exact scopes
  · have released : LiveScopes (moveVenue db existing.departures existing.info.id) :=
      scopes.congr rfl (sameView_manageMembership (fun _ _ => rfl) _ _ _)
        (sameView_manageMembership (fun _ _ => rfl) _ _ _)
    rw [deleted]
    dsimp only
    apply released.of_kept
    · exact fun role member => mem_rows_deleteScopeRoles
        (moveVenue db existing.departures existing.info.id) member
    · intro role _ present
      rw [deleteScopeRoles_entityDB]
      exact present
    · intro role member venue found
      have apart : role.venue ≠ existing.info.id := by
        have offScope := offScope_of_deleteScopeRoles
          (moveVenue db existing.departures existing.info.id) (few existing planned) member
        simpa using offScope
      refine ⟨venue, ?_, rfl⟩
      rw [deleteScopeRoles_venueDB, Table.get?_delete, if_neg apart]
      exact found
    · intro id venue found
      rw [deleteScopeRoles_venueDB, Table.get?_delete] at found
      split at found
      · cases found
      · exact released.placed id venue found

/-! ### Subscribers -/

theorem operator_of_subscriberDoPostPlan {request : Request} {operator : Operator}
    {userName : String} {plan : SignupPlan}
    (planned : subscriberDoPostPlan ctx db request = .ok (operator, userName, plan)) :
    operator.entityId ≠ "" := by
  obtain ⟨_, named, _⟩ := signupOperator_eq_ok (signupOperator_of_plan planned)
  exact named

theorem LiveScopes.createSubscriberVenue (scopes : LiveScopes db) {operator : Operator}
    (named : operator.entityId ≠ "") (userName userId : String) :
    LiveScopes (createSubscriberVenue ctx db operator userName userId).store := by
  unfold Owprov.createSubscriberVenue
  split
  · exact scopes
  · dsimp only
    split
    · exact scopes
    · rename_i venueDB inserted
      exact scopes.insertVenue inserted named rfl
        (sameView_manipulateVectorMember (fun _ _ => rfl) _ _ true) (.refl _ _)

theorem LiveScopes.subscriberDoPost (scopes : LiveScopes db) (request : Request) :
    LiveScopes (subscriberDoPost ctx db request).store := by
  unfold Owprov.subscriberDoPost
  split
  · exact scopes
  · exact scopes
  · rename_i operator userName existing planned
    apply LiveScopes.createSubscriberVenue _ (operator_of_subscriberDoPostPlan planned)
    exact scopes.congr rfl (.refl _ _) (.refl _ _)
  · rename_i operator userName entry planned
    apply LiveScopes.createSubscriberVenue _ (operator_of_subscriberDoPostPlan planned)
    exact scopes.congr rfl (.refl _ _) (.refl _ _)

theorem LiveScopes.subscriberDoPut (scopes : LiveScopes db) (request : Request) :
    LiveScopes (subscriberDoPut db request).store := by
  unfold Owprov.subscriberDoPut
  split
  · exact scopes
  · exact scopes.congr rfl (.refl _ _) (.refl _ _)

/-- Venues without devices and without roles are deleted, until one has devices. -/
theorem LiveScopes.deleteSubscriberVenues (scopes : LiveScopes db) {venues : List Venue}
    (unused : ∀ venue ∈ venues.takeWhile fun venue => venue.devices.isEmpty,
      ∀ role ∈ db.rolesDB.rows, role.venue ≠ venue.info.id) :
    LiveScopes (deleteSubscriberVenues venues db).store := by
  induction venues generalizing db with
  | nil => exact scopes
  | cons venue venues ih =>
      unfold Owprov.deleteSubscriberVenues
      split
      · rename_i vacant
        have first : (venue :: venues).takeWhile (fun venue => venue.devices.isEmpty) =
            venue :: venues.takeWhile fun venue => venue.devices.isEmpty :=
          List.takeWhile_cons_of_pos vacant
        rw [first, List.forall_mem_cons] at unused
        refine ih ?_ unused.2
        refine scopes.of_kept (fun _ member => member) ?_ ?_ ?_
        · intro role _ present
          rw [idExists_removeMembership]
          exact present
        · intro role member row found
          refine ⟨row, ?_, rfl⟩
          rw [Table.get?_delete, if_neg (unused.1 role member)]
          exact found
        · intro id row found
          rw [Table.get?_delete] at found
          split at found
          · cases found
          · exact scopes.placed id row found
      · exact scopes

theorem LiveScopes.subscriberDoDelete (scopes : LiveScopes db) {request : Request}
    (unused : ∀ subscriberId signup,
      subscriberDoDeletePlan db request = .ok (subscriberId, signup) →
        ∀ venue ∈ (subscriberVenues db subscriberId).takeWhile fun venue => venue.devices.isEmpty,
          ∀ role ∈ db.rolesDB.rows, role.venue ≠ venue.info.id) :
    LiveScopes (subscriberDoDelete ctx db request).store := by
  unfold Owprov.subscriberDoDelete
  split
  · exact scopes
  · rename_i subscriberId signup planned
    have cleared : LiveScopes
        (Owprov.deleteSubscriberVenues (subscriberVenues db subscriberId) db).store :=
      scopes.deleteSubscriberVenues (unused subscriberId signup planned)
    dsimp only
    split
    · exact cleared
    · split
      · exact cleared.congr rfl (.refl _ _) (.refl _ _)
      · exact cleared

end Scopes

/-! ## Role requests -/

section Roles

variable {ctx : Context} {db : Store} {userId entityId venueId : String}

theorem nodup_distinctVenueIds (seen ids : List String) :
    (distinctVenueIds seen ids).Nodup ∧ ∀ id ∈ distinctVenueIds seen ids, id ∉ seen := by
  induction ids generalizing seen with
  | nil => exact ⟨List.nodup_nil, by rintro id ⟨⟩⟩
  | cons id ids ih =>
      unfold distinctVenueIds
      split
      · exact ih seen
      · rename_i fresh
        obtain ⟨nodup, apart⟩ := ih (id :: seen)
        constructor
        · rw [List.nodup_cons]
          exact ⟨fun member => apart id member List.mem_cons_self, nodup⟩
        · rw [List.forall_mem_cons]
          exact ⟨fun member => fresh (Or.inr member),
            fun other member isSeen => apart other member (List.mem_cons_of_mem _ isSeen)⟩

theorem nodup_parseVenueIds {body : JsonObject} {fallbackVenue : String} {scopes : List String}
    (parsed : parseVenueIds body fallbackVenue = .ok scopes) : scopes.Nodup := by
  simp only [parseVenueIds, bind_eq_ok_iff] at parsed
  obtain ⟨listed, _, parsed⟩ := parsed
  split at parsed
  · cases parsed
    exact List.nodup_singleton _
  · cases parsed
    exact (nodup_distinctVenueIds [] listed).1

/-- The scopes of a creation are different, and live. -/
theorem live_of_roleDoPostPlan {request : Request} {role : ManagementRole} {scopes : List String}
    {target : Option ManagementPolicy}
    (planned : roleDoPostPlan ctx db request = .ok (role, scopes, target)) :
    scopes.Nodup ∧ ∀ venueId ∈ scopes,
      ({ role with venue := venueId } : ManagementRole).Live db.entityDB db.venueDB := by
  simp only [roleDoPostPlan, bind_eq_ok_iff, require_eq_ok_iff, Bool.and_eq_true,
    List.all_eq_true] at planned
  obtain ⟨_, _, body, _, newObject, _, info, _, _, entityFound, venueIds, parsed, planned⟩ :=
    planned
  obtain ⟨_, _, _, validated, planned⟩ := planned
  cases planned
  refine ⟨nodup_parseVenueIds parsed, fun venueId member => ⟨entityFound.2, ?_⟩⟩
  intro filled
  have valid := validated venueId member
  simp only [validateVenueScope, Bool.or_eq_true, beq_iff_eq, Option.any_eq_true] at valid
  exact valid.resolve_left filled

/-- The rows that `FindExactExistingRole` reads when the cache does not answer. -/
def selectedRoles (ctx : Context) (db : Store) (userId entityId venueId : String) :
    List ManagementRole :=
  (db.rolesDB.rows.filter fun role =>
    role.entity == entityId && role.venue == venueId && ctx.env.usersLike role.users userId).take 100

/-- The role of a user on a scope is among the rows that are read. -/
def SelectsRole (ctx : Context) (db : Store) (userId entityId venueId : String) : Prop :=
  ctx.cachedRoles userId = none → ∀ role ∈ db.rolesDB.rows,
    role.immutablePart = (entityId, venueId, [userId]) →
      role ∈ selectedRoles ctx db userId entityId venueId

/-- The cache answers roles as the table has them. -/
def AnswersCurrent (ctx : Context) (db : Store) : Prop :=
  ∀ userId roles, ctx.cachedRoles userId = some roles → roles ≠ [] ∧ roles = rolesOf db userId

theorem finds_of_answersCurrent (current : AnswersCurrent ctx db)
    (selects : SelectsRole ctx db userId entityId venueId) : Finds ctx db userId entityId venueId := by
  have answer : ∃ roles : List ManagementRole,
      (∀ role ∈ roles, role ∈ db.rolesDB.rows) ∧
      (∀ role ∈ db.rolesDB.rows, role.immutablePart = (entityId, venueId, [userId]) →
        role ∈ roles) ∧
      ∃ test : ManagementRole → Bool,
        (∀ role, role.immutablePart = (entityId, venueId, [userId]) → test role = true) ∧
        findExactExistingRole ctx db userId entityId venueId = roles.find? test := by
    cases cached : ctx.cachedRoles userId with
    | some roles =>
        obtain ⟨filled, isCurrent⟩ := current userId roles cached
        refine ⟨roles, ?_, ?_, fun role => role.entity == entityId && role.venue == venueId,
          ?_, ?_⟩
        · intro role member
          rw [isCurrent] at member
          exact (List.mem_filter.mp member).1
        · intro role member part
          have users : role.users = [userId] := congrArg (fun part => part.2.2) part
          rw [isCurrent]
          exact List.mem_filter.mpr ⟨member, by simp [users]⟩
        · intro role part
          simp only [ManagementRole.immutablePart, Prod.mk.injEq] at part
          simp [part]
        · have answered : (ctx.cachedRoles userId).filter (fun roles => !roles.isEmpty) =
              some roles := by
            rw [cached]
            simp [filled]
          rw [findExactExistingRole, answered]
    | none =>
        refine ⟨selectedRoles ctx db userId entityId venueId, ?_, selects cached,
          fun role => role.users.contains userId, ?_, ?_⟩
        · intro role member
          exact (List.mem_filter.mp (List.mem_of_mem_take member)).1
        · intro role part
          have users : role.users = [userId] := congrArg (fun part => part.2.2) part
          simp [users]
        · rw [findExactExistingRole, cached]
          rfl
  obtain ⟨roles, sound, complete, test, passes, found⟩ := answer
  constructor
  case complete =>
    intro role member part
    rw [found, List.find?_isSome]
    exact ⟨role, complete role member part, passes role part⟩
  case sound =>
    intro existing isFound
    rw [found] at isFound
    exact ⟨existing, sound existing (List.mem_of_find?_eq_some isFound), rfl, rfl⟩

theorem LiveScopes.roleDoPost (scopes : LiveScopes db) (current : AnswersCurrent ctx db)
    {request : Request}
    (selects : ∀ role venueIds target, roleDoPostPlan ctx db request = .ok (role, venueIds, target) →
      ∀ userId, role.users = [userId] → ∀ venueId ∈ venueIds,
        SelectsRole ctx db userId role.entity venueId) :
    LiveScopes (roleDoPost ctx db request).store := by
  rcases roleDoPost_cases ctx db request with
    unchanged | ⟨role, venueIds, target, userId, planned, users, saved⟩
  · rw [unchanged]
    exact scopes
  · obtain ⟨distinct, live⟩ := live_of_roleDoPostPlan planned
    rw [saved]
    apply scopes.saveRoles users distinct live
    intro venueId member
    exact finds_of_answersCurrent current
      (selects role venueIds target planned userId users venueId member)

theorem LiveScopes.roleDoPut (scopes : LiveScopes db) (request : Request) :
    LiveScopes (roleDoPut ctx db request).store := by
  unfold Owprov.roleDoPut
  split
  · exact scopes
  · rename_i updated planned
    obtain ⟨existing, found, entity, venue, users⟩ := roleDoPutPlan_eq_ok planned
    have copies : ∀ other ∈ (db.rolesDB.update updated).rows, ∃ old ∈ db.rolesDB.rows,
        key other = key old ∧ other.immutablePart = old.immutablePart := by
      intro other member
      rcases Table.mem_rows_update member with rfl | old
      · refine ⟨existing, Table.mem_of_get? found, (Table.key_of_get? found).symm, ?_⟩
        rw [ManagementRole.immutablePart, ManagementRole.immutablePart, entity, venue, users]
      · exact ⟨other, old, rfl, rfl⟩
    refine ⟨scopes.roles.of_copies copies, ?_, scopes.placed⟩
    intro other member
    obtain ⟨old, isOld, _, same⟩ := copies other member
    exact (scopes.live old isOld).of_part same

theorem LiveScopes.roleDoDelete (scopes : LiveScopes db) (request : Request) :
    LiveScopes (roleDoDelete ctx db request).store := by
  unfold Owprov.roleDoDelete
  split
  · exact scopes
  · rename_i existing _
    exact scopes.deleteRoles [existing.info.id]

end Roles

/-! ## Runs -/

/-- The requests that write roles or scopes. -/
inductive ScopeMethod where
  | role (method : RoleMethod)
  | subscriberPost
  | subscriberPut
  | subscriberDelete

/-- What the handler of a request does to the database. -/
def ScopeMethod.handle (ctx : Context) (db : Store) (request : Request) : ScopeMethod → Outcome
  | .role method => method.handle ctx db request
  | .subscriberPost => subscriberDoPost ctx db request
  | .subscriberPut => subscriberDoPut db request
  | .subscriberDelete => subscriberDoDelete ctx db request

/-- A creation reads the roles of its user, an update leaves no role behind, and a deletion
leaves none either: the handlers that delete roles read them all, and the others find none. -/
def KeepsScopes (ctx : Context) (db : Store) (request : Request) : ScopeMethod → Prop
  | .role .post =>
      ∀ role venueIds target, roleDoPostPlan ctx db request = .ok (role, venueIds, target) →
        ∀ userId, role.users = [userId] → ∀ venueId ∈ venueIds,
          SelectsRole ctx db userId role.entity venueId
  | .role (.tree .venuePut) => (venueDoPut ctx db request).Succeeds → KeepsRoleScopes db request
  | .role (.tree .venueDelete) =>
      ∀ existing, venueDoDeletePlan db request = .ok existing →
        (db.rolesDB.rows.filter fun role => role.venue == existing.info.id).length ≤ 10000
  | .role (.tree (.entity .entityDelete)) =>
      ∀ existing, entityDoDeletePlan db request = .ok existing →
        (db.rolesDB.rows.filter fun role => role.entity == existing.info.id).length ≤ 10000
  | .role (.tree (.entity .operatorDelete)) =>
      ∀ operator entity, operatorDoDeletePlan db request = .ok (operator, some entity) →
        ∀ role ∈ db.rolesDB.rows, role.entity ≠ entity.info.id
  | .subscriberDelete =>
      ∀ subscriberId signup, subscriberDoDeletePlan db request = .ok (subscriberId, signup) →
        ∀ venue ∈ (subscriberVenues db subscriberId).takeWhile fun venue => venue.devices.isEmpty,
          ∀ role ∈ db.rolesDB.rows, role.venue ≠ venue.info.id
  | _ => True

theorem LiveScopes.handle {ctx : Context} {db : Store} (scopes : LiveScopes db)
    (fresh : ctx.Fresh db) (current : AnswersCurrent ctx db) (request : Request)
    (method : ScopeMethod) (condition : KeepsScopes ctx db request method) :
    LiveScopes (method.handle ctx db request).store := by
  unfold KeepsScopes at condition
  cases method with
  | role method =>
      cases method with
      | post => exact scopes.roleDoPost current condition
      | put => exact scopes.roleDoPut request
      | delete => exact scopes.roleDoDelete request
      | tree method =>
          cases method with
          | entity method =>
              cases method with
              | entityPost => exact scopes.entityDoPost fresh request
              | entityPut => exact scopes.entityDoPut request
              | entityDelete => exact scopes.entityDoDelete condition
              | operatorPost => exact scopes.operatorDoPost fresh request
              | operatorPut => exact scopes.operatorDoPut request
              | operatorDelete => exact scopes.operatorDoDelete condition
          | venuePost => exact scopes.venueDoPost fresh request
          | venuePut => exact scopes.venueDoPut condition
          | venueDelete => exact scopes.venueDoDelete condition
  | subscriberPost =>
      dsimp only [ScopeMethod.handle]
      exact scopes.subscriberDoPost request
  | subscriberPut => exact scopes.subscriberDoPut request
  | subscriberDelete =>
      dsimp only [ScopeMethod.handle]
      exact scopes.subscriberDoDelete condition

/-- The database and the authorization cache. -/
structure ScopeState where
  db : Store
  cache : AuthCache := {}

/-- One step: the roles of a user are cached, the cache is cleared, or a request is carried
out, which clears the cache when it changes the table of roles. -/
inductive ScopeStep (condition : Context → Store → Request → ScopeMethod → Prop) :
    ScopeState → ScopeState → Prop
  | lookup {s : ScopeState} (userId : String) :
      ScopeStep condition s { s with cache := s.cache.setUserRoles userId (rolesOf s.db userId) }
  | clear {s : ScopeState} : ScopeStep condition s { s with cache := s.cache.clear }
  | request {s : ScopeState} (method : ScopeMethod) (ctx : Context) (request : Request)
      (cache : AuthCache) :
      ctx.Fresh s.db → ctx.cachedRoles = s.cache.getUserRoles →
      condition ctx s.db request method →
      cache = s.cache.clear ∨
        cache = s.cache ∧ (method.handle ctx s.db request).store.rolesDB = s.db.rolesDB →
      ScopeStep condition s ⟨(method.handle ctx s.db request).store, cache⟩

/-- The service has just started. -/
structure ScopeStart (s : ScopeState) : Prop where
  service : ServiceStart s.db
  cache : s.cache = {}

/-- The scopes are live, and the cache agrees with the table of roles. -/
structure ScopeState.Coherent (s : ScopeState) : Prop where
  scopes : LiveScopes s.db
  cached : ∀ userId roles, s.cache.users userId = some roles → roles = rolesOf s.db userId

theorem ScopeStart.coherent {s : ScopeState} (start : ScopeStart s) : s.Coherent := by
  have bare : LiveScopes initialStore :=
    ⟨⟨by rintro role ⟨⟩, by rintro role ⟨⟩⟩, by rintro role ⟨⟩, by rintro id venue ⟨⟩⟩
  obtain ⟨db, cache⟩ := s
  obtain ⟨service, rfl⟩ := start
  refine ⟨?_, by rintro userId roles ⟨⟩⟩
  cases service with
  | bare => exact bare
  | served operatorId serviceId _ => exact bare.congr rfl (.refl _ _) (.refl _ _)

theorem answersCurrent_of_cache {s : ScopeState} (coherent : s.Coherent) {ctx : Context}
    (cached : ctx.cachedRoles = s.cache.getUserRoles) : AnswersCurrent ctx s.db := by
  intro userId roles answered
  rw [cached] at answered
  obtain ⟨isCached, filled⟩ := Option.filter_eq_some_iff.mp answered
  exact ⟨by simpa using filled, coherent.cached userId roles isCached⟩

theorem ScopeState.Coherent.step {s t : ScopeState} (coherent : s.Coherent)
    (isStep : ScopeStep KeepsScopes s t) : t.Coherent := by
  cases isStep with
  | lookup userId =>
      refine ⟨coherent.scopes, fun other roles cached => ?_⟩
      simp only [AuthCache.setUserRoles] at cached
      by_cases same : other = userId
      · rw [same, Function.update_self, Option.some.injEq] at cached
        rw [same, ← cached]
      · rw [Function.update_of_ne same] at cached
        exact coherent.cached other roles cached
  | clear => exact ⟨coherent.scopes, by rintro userId roles ⟨⟩⟩
  | request method ctx request cache fresh cached condition kept =>
      constructor
      case scopes =>
        exact coherent.scopes.handle fresh (answersCurrent_of_cache coherent cached) request
          method condition
      case cached =>
        intro userId roles isCached
        rcases kept with cleared | ⟨same, sameRoles⟩
        · rw [cleared] at isCached
          cases isCached
        · rw [same] at isCached
          rw [coherent.cached userId roles isCached, rolesOf, rolesOf, sameRoles]

/-- Every role has a live scope, and a user has at most one role on it. -/
structure LiveRoles (db : Store) : Prop where
  entity : ∀ role ∈ db.rolesDB.rows, idExists db.entityDB role.entity = true
  venue : ∀ role ∈ db.rolesDB.rows, role.venue ≠ "" →
    ∃ venue, db.venueDB.get? role.venue = some venue ∧ venue.entity = role.entity
  unique : ∀ userId entityId venueId, ∀ role ∈ db.rolesDB.rows, ∀ role' ∈ db.rolesDB.rows,
    (userId ∈ role.users ∧ role.entity = entityId ∧ role.venue = venueId) →
    (userId ∈ role'.users ∧ role'.entity = entityId ∧ role'.venue = venueId) → role = role'

theorem LiveScopes.liveRoles {db : Store} (scopes : LiveScopes db) : LiveRoles db := by
  constructor
  case entity => exact fun role member => (scopes.live role member).entity
  case venue => exact fun role member => (scopes.live role member).venue
  case unique =>
    rintro userId entityId venueId role member role' member' ⟨isUser, entity, venue⟩
      ⟨isUser', entity', venue'⟩
    obtain ⟨user, users⟩ := scopes.roles.oneUser role member
    obtain ⟨user', users'⟩ := scopes.roles.oneUser role' member'
    apply scopes.roles.unique role member role' member'
    have same : role.users = role'.users := by
      rw [show role.users = [user] from users] at isUser ⊢
      rw [show role'.users = [user'] from users'] at isUser' ⊢
      rw [← List.mem_singleton.mp isUser, ← List.mem_singleton.mp isUser']
    rw [ManagementRole.immutablePart, ManagementRole.immutablePart, entity, venue, entity', venue',
      same]

/-- As long as the requests meet the condition, roles point at live scopes. -/
theorem live_roles_of_run {s : ScopeState}
    (reached : Reachable ScopeStart (ScopeStep KeepsScopes) s) : LiveRoles s.db :=
  (reached.invariant (fun _ => ScopeStart.coherent)
    fun _ _ => ScopeState.Coherent.step).scopes.liveRoles

/-! ### The entity of a deleted operator -/

/-- A request that gives a user a role on an entity. -/
def assignRequest (entityId : String) : Request :=
  { roleRequest with
    body := some [("name", .str "Keeper"), ("entity", .str entityId),
      ("users", .arr [.str "u-1"] "[\"u-1\"]")] }

/-- A request that deletes an operator. -/
def removeOperatorRequest (operatorId : String) : Request where
  method := .delete
  uri := "/api/v1/operator/" ++ operatorId
  bindings := [("uuid", operatorId)]

/-- The database with an operator and its entity. -/
def oneOperator : Store :=
  (EntityMethod.operatorPost.handle (rootContext 14) initialStore operatorRequest).store

/-- The database with a role on the entity of the operator. -/
def operatorRole : Store :=
  (roleDoPost (assigningContext 20) oneOperator (assignRequest (unaryId 16))).store

theorem oneOperator_reached {condition : Context → Store → Request → ScopeMethod → Prop}
    (meets : condition (rootContext 14) initialStore operatorRequest
      (.role (.tree (.entity .operatorPost)))) :
    Reachable ScopeStart (ScopeStep condition) ⟨oneOperator, {}⟩ :=
  .step (.start (⟨.bare, rfl⟩ : ScopeStart ⟨initialStore, {}⟩))
    (.request (.role (.tree (.entity .operatorPost))) (rootContext 14) operatorRequest {}
      (rootContext_fresh (by decide)) rfl meets (Or.inl rfl))

theorem operatorRole_reached {condition : Context → Store → Request → ScopeMethod → Prop}
    (operatorMeets : condition (rootContext 14) initialStore operatorRequest
      (.role (.tree (.entity .operatorPost))))
    (roleMeets : condition (assigningContext 20) oneOperator (assignRequest (unaryId 16))
      (.role .post)) :
    Reachable ScopeStart (ScopeStep condition) ⟨operatorRole, {}⟩ :=
  .step (oneOperator_reached operatorMeets)
    (.request (.role .post) (assigningContext 20) (assignRequest (unaryId 16)) {}
      (assigningContext_fresh (rootContext_fresh (by decide))) rfl roleMeets (Or.inl rfl))

/-- The operator and its entity are deleted, and the role stays. -/
theorem role_of_deleted_operator :
    ¬ ∀ s, Reachable ScopeStart (ScopeStep fun _ _ _ _ => True) s → LiveRoles s.db := by
  intro claim
  have assigned : Reachable ScopeStart (ScopeStep fun _ _ _ _ => True) ⟨operatorRole, {}⟩ :=
    operatorRole_reached trivial trivial
  have reached := assigned.step
    (.request (.role (.tree (.entity .operatorDelete))) (rootContext 30)
      (removeOperatorRequest (unaryId 15)) {} (rootContext_fresh (by decide)) rfl trivial
      (Or.inl rfl))
  have dangling : ∃ role ∈ (operatorDoDelete operatorRole
      (removeOperatorRequest (unaryId 15))).store.rolesDB.rows,
      idExists (operatorDoDelete operatorRole
        (removeOperatorRequest (unaryId 15))).store.entityDB role.entity = false := by
    decide
  obtain ⟨role, member, missing⟩ := dangling
  have live := (claim _ reached).entity role member
  exact Bool.noConfusion (missing.symm.trans live)

/-- A role on the entity of an operator that stays. -/
theorem live_roles_after_assignment :
    ∃ s : ScopeState, (s.db.rolesDB.rows.map fun role => (role.entity, role.venue, role.users)) =
        [(unaryId 16, "", ["u-1"])] ∧ LiveRoles s.db := by
  have selects : KeepsScopes (assigningContext 20) oneOperator (assignRequest (unaryId 16))
      (.role .post) := by
    intro role venueIds target _ userId _ venueId _ _ row member
    have noRoles : oneOperator.rolesDB.rows = [] := by decide
    rw [noRoles] at member
    cases member
  exact ⟨⟨operatorRole, {}⟩, by decide,
    live_roles_of_run (operatorRole_reached trivial selects)⟩

end Owprov
