import Owprov.Lib.WriteBack
import Owprov.RoleHandlers
import Owprov.VenuePlacement

/-!
# The scope of a role

A role keeps its entity, its venue and its one user.  A creation that finds a role for its
scope writes that role back with another policy, and finds it in the authorization cache,
whose copies may be outdated.  The copies were all read from the table, so they carry the
scopes that the table still has.
-/

namespace Owprov

open RowTable Runs

/-- What never changes in a role: its entity, its venue and its users. -/
def ManagementRole.immutablePart (role : ManagementRole) : String × String × List String :=
  (role.entity, role.venue, role.users)

/-- A role has exactly one user. -/
def OneUser (part : String × String × List String) : Prop :=
  ∃ user, part.2.2 = [user]

/-- The writes of a request to the table of roles, where some copies of roles are held. -/
abbrev RoleWrites (ctx : Context) (held : ManagementRole → Prop) :
    Table ManagementRole → Table ManagementRole → Prop :=
  Relation.ReflTransGen
    (Table.Write ManagementRole.immutablePart OneUser held fun id => ∃ i, id = ctx.newId i)

/-! ## The writes of the handlers -/

section Writes

variable {ctx : Context} {held : ManagementRole → Prop} {db : Store}

theorem roleWrites_autoCreateCreatorRole (db : Store)
    (entityId venueId parentEntityId parentVenueId : String) (i : ℕ) :
    RoleWrites ctx held db.rolesDB
      (autoCreateCreatorRole ctx db entityId venueId parentEntityId parentVenueId
        (ctx.newId i)).1.rolesDB := by
  rcases autoCreateCreatorRole_cases ctx db entityId venueId parentEntityId parentVenueId
    (ctx.newId i) with unchanged | ⟨parent, rolesDB, _, inserted, stored⟩
  · rw [unchanged]
  · have linked : (linkCreatorRole { db with rolesDB := rolesDB } entityId venueId
        (creatorRole ctx.caller.user parent entityId venueId (ctx.newId i))).rolesDB =
          rolesDB := by
      unfold linkCreatorRole
      split <;> rfl
    rw [stored, linked]
    exact .single (.insert ⟨i, rfl⟩ ⟨ctx.caller.user.id, rfl⟩ inserted)

theorem roleWrites_delete (roles : List ManagementRole) (table : Table ManagementRole) :
    RoleWrites ctx held table (roles.foldl (fun table role => table.delete role.info.id) table) := by
  induction roles generalizing table with
  | nil => exact .refl
  | cons role roles ih => exact .head (.delete role.info.id) (ih _)

theorem deleteScopeRoles_rolesDB (db : Store) (onScope : ManagementRole → Bool) :
    (deleteScopeRoles db onScope).rolesDB =
      ((db.rolesDB.rows.filter onScope).take 10000).foldl
        (fun table role => table.delete role.info.id) db.rolesDB := by
  unfold deleteScopeRoles
  generalize (db.rolesDB.rows.filter onScope).take 10000 = roles
  induction roles generalizing db with
  | nil => rfl
  | cons role roles ih => exact ih _

theorem roleWrites_deleteScopeRoles (db : Store) (onScope : ManagementRole → Bool) :
    RoleWrites ctx held db.rolesDB (deleteScopeRoles db onScope).rolesDB := by
  rw [deleteScopeRoles_rolesDB]
  exact roleWrites_delete _ _

/-- The roles that the cache answers are held. -/
def AnswersHeld (ctx : Context) (held : ManagementRole → Prop) : Prop :=
  ∀ userId roles, ctx.cachedRoles userId = some roles → ∀ role ∈ roles, held role

/-- The role that is found for a scope is a row, or a copy in the cache. -/
theorem findExactExistingRole_known (answers : AnswersHeld ctx held) {userId entityId venueId : String}
    {existing : ManagementRole}
    (found : findExactExistingRole ctx db userId entityId venueId = some existing) :
    existing ∈ db.rolesDB.rows ∨ held existing := by
  unfold findExactExistingRole at found
  split at found
  · rename_i roles cached
    obtain ⟨isCached, _⟩ := Option.filter_eq_some_iff.mp cached
    exact Or.inr (answers userId roles isCached existing (List.mem_of_find?_eq_some found))
  · have selected := List.mem_of_mem_take (List.mem_of_find?_eq_some found)
    exact Or.inl (List.mem_filter.mp selected).1

theorem roleWrites_saveRole (answers : AnswersHeld ctx held) {userId : String}
    {role : ManagementRole} {i : ℕ} (id : role.info.id = ctx.newId i)
    (users : role.users = [userId]) {saved : Store}
    (stored : saveRole ctx db userId role = some saved) :
    RoleWrites ctx held db.rolesDB saved.rolesDB := by
  unfold saveRole at stored
  split at stored
  · rename_i existing found
    cases stored
    exact .single (.update (findExactExistingRole_known answers found) rfl rfl)
  · obtain ⟨rolesDB, inserted, rfl⟩ := Option.map_eq_some_iff.mp stored
    exact .single (.insert ⟨i, id⟩ ⟨userId, users⟩ inserted)

theorem roleWrites_saveRoles (answers : AnswersHeld ctx held) {userId : String}
    {role : ManagementRole} (id : role.info.id = ctx.newId 0) (users : role.users = [userId])
    (scopes created : List String) (index : ℕ) (db : Store) :
    RoleWrites ctx held db.rolesDB
      (saveRoles ctx userId role index created scopes db).store.rolesDB := by
  induction scopes generalizing index created db with
  | nil => exact .refl
  | cons venueId scopes ih =>
      unfold saveRoles
      dsimp only
      split
      · have deleted : ∀ (ids : List String) (table : Table ManagementRole),
            RoleWrites ctx held table (ids.foldl Table.delete table) := by
          intro ids
          induction ids with
          | nil => exact fun table => .refl
          | cons id ids ihIds => exact fun table => .head (.delete id) (ihIds _)
        exact deleted created db.rolesDB
      · rename_i saved stored
        have newId : (if index = 0 then role.info
            else { role.info with id := ctx.newId index }).id = ctx.newId index := by
          split
          · rename_i first
            rw [id, first]
          · rfl
        have roleUsers : ({ role with
            venue := venueId
            info := if index = 0 then role.info
              else { role.info with id := ctx.newId index } } : ManagementRole).users =
                [userId] := users
        exact (roleWrites_saveRole answers newId roleUsers stored).trans (ih _ _ _)

theorem id_of_roleDoPostPlan {request : Request} {role : ManagementRole}
    {scopes : List String} {target : Option ManagementPolicy}
    (planned : roleDoPostPlan ctx db request = .ok (role, scopes, target)) :
    role.info.id = ctx.newId 0 := by
  simp only [roleDoPostPlan, bind_eq_ok_iff, require_eq_ok_iff] at planned
  obtain ⟨_, _, body, _, newObject, _, info, created, _, _, _, _, _, _, _, _, planned⟩ := planned
  cases planned
  exact createObjectInfo_eq_ok created

end Writes

/-- The requests that write roles. -/
inductive RoleMethod where
  | post
  | put
  | delete
  | tree (method : TreeMethod)

/-- What the handler of a request does to the database. -/
def RoleMethod.handle (ctx : Context) (db : Store) (request : Request) : RoleMethod → Outcome
  | .post => roleDoPost ctx db request
  | .put => roleDoPut ctx db request
  | .delete => roleDoDelete ctx db request
  | .tree method => method.handle ctx db request

section Requests

variable {ctx : Context} {held : ManagementRole → Prop} {db : Store}

theorem roleWrites_entityMethod (fresh : ctx.Fresh db) (method : EntityMethod)
    (request : Request) :
    RoleWrites ctx held db.rolesDB (method.handle ctx db request).store.rolesDB := by
  cases method with
  | entityPost =>
      rw [show EntityMethod.handle ctx db request .entityPost = entityDoPost ctx db request
        from rfl]
      rcases entityDoPost_cases fresh request with
        unchanged | ⟨entity, entityDB, planned, inserted, stored⟩
      · rw [unchanged]
      · rw [stored]
        exact roleWrites_autoCreateCreatorRole (linkNewEntity db entityDB entity) entity.info.id ""
          entity.parent "" 2
  | entityPut =>
      rw [show EntityMethod.handle ctx db request .entityPut = entityDoPut ctx db request
        from rfl]
      unfold entityDoPut
      split <;> exact .refl
  | entityDelete =>
      rw [show EntityMethod.handle ctx db request .entityDelete = entityDoDelete db request
        from rfl]
      unfold entityDoDelete
      split
      · exact .refl
      · rename_i existing _
        exact roleWrites_deleteScopeRoles
          (movePolicyUsage db "ent" existing.managementPolicy "" existing.info.id) _
  | operatorPost =>
      rw [show EntityMethod.handle ctx db request .operatorPost = operatorDoPost ctx db request
        from rfl]
      rcases operatorDoPost_cases fresh request with unchanged | ⟨_, _, _, _, _, _, _, stored⟩
      · rw [unchanged]
      · rw [stored]
        exact .refl
  | operatorPut =>
      rw [show EntityMethod.handle ctx db request .operatorPut = operatorDoPut ctx db request
        from rfl]
      unfold operatorDoPut
      split <;> exact .refl
  | operatorDelete =>
      rw [show EntityMethod.handle ctx db request .operatorDelete = operatorDoDelete db request
        from rfl]
      unfold operatorDoDelete
      split
      · exact .refl
      · rename_i linked _
        cases linked <;> exact .refl

theorem roleWrites_treeMethod (fresh : ctx.Fresh db) (method : TreeMethod) (request : Request) :
    RoleWrites ctx held db.rolesDB (method.handle ctx db request).store.rolesDB := by
  cases method with
  | entity method => exact roleWrites_entityMethod fresh method request
  | venuePost =>
      rw [show TreeMethod.handle ctx db request .venuePost = venueDoPost ctx db request from rfl]
      rcases venueDoPost_cases fresh request with
        unchanged | ⟨venue, location, located, venueDB, created⟩
      · rw [unchanged]
      · obtain ⟨_, sameRoles, _⟩ := storeInlineLocation_eq_ok created.stored
        rw [created.outcome, Outcome.store_done, ← sameRoles]
        exact roleWrites_autoCreateCreatorRole
          (moveVenue { located with venueDB := venueDB } venue.arrivals venue.info.id)
          venue.entity venue.info.id venue.entity venue.parent 2
  | venuePut =>
      rw [show TreeMethod.handle ctx db request .venuePut = venueDoPut ctx db request from rfl]
      rcases venueDoPut_cases ctx db request with
        ⟨unchanged, _⟩ | ⟨_, existing, update, located, updated⟩
      · rw [unchanged]
      · obtain ⟨_, sameRoles, _⟩ := storeInlineLocation_eq_ok updated.stored
        rw [updated.outcome, Outcome.store_done, ← sameRoles]
        exact .refl
  | venueDelete =>
      rw [show TreeMethod.handle ctx db request .venueDelete = venueDoDelete db request from rfl]
      rcases venueDoDelete_cases db request with unchanged | ⟨existing, _, deleted⟩
      · rw [unchanged]
      · rw [deleted]
        exact roleWrites_deleteScopeRoles
          (moveVenue db existing.departures existing.info.id) _

/-- Every request inserts new roles, writes back roles with their scopes, or deletes roles. -/
theorem roleWrites_handle (fresh : ctx.Fresh db) (answers : AnswersHeld ctx held)
    (method : RoleMethod) (request : Request) :
    RoleWrites ctx held db.rolesDB (method.handle ctx db request).store.rolesDB := by
  cases method with
  | post =>
      rw [show RoleMethod.handle ctx db request .post = roleDoPost ctx db request from rfl]
      rcases roleDoPost_cases ctx db request with
        unchanged | ⟨role, scopes, target, userId, planned, users, saved⟩
      · rw [unchanged]
      · rw [saved]
        exact roleWrites_saveRoles answers (id_of_roleDoPostPlan planned) users _ _ _ _
  | put =>
      rw [show RoleMethod.handle ctx db request .put = roleDoPut ctx db request from rfl]
      unfold roleDoPut
      split
      · exact .refl
      · rename_i updated planned
        obtain ⟨existing, found, entity, venue, users⟩ := roleDoPutPlan_eq_ok planned
        have sameKey : key updated = key existing := (Table.key_of_get? found).symm
        refine .single (.update (Or.inl (Table.mem_of_get? found)) sameKey ?_)
        rw [ManagementRole.immutablePart, ManagementRole.immutablePart, entity, venue, users]
  | delete =>
      rw [show RoleMethod.handle ctx db request .delete = roleDoDelete ctx db request from rfl]
      unfold roleDoDelete
      split
      · exact .refl
      · exact .single (.delete _)
  | tree method => exact roleWrites_treeMethod fresh method request

end Requests

/-! ## Runs -/

/-- The database, the authorization cache, and what iterations over `RolesDB` have found for
a user that `SetUserRoles` is still to store. -/
structure RoleState where
  db : Store
  cache : AuthCache := {}
  reads : List (String × List ManagementRole) := []

/-- A copy of a role that the cache has or is about to get. -/
def RoleState.Held (s : RoleState) (role : ManagementRole) : Prop :=
  (∃ userId roles, s.cache.users userId = some roles ∧ role ∈ roles) ∨
    ∃ read ∈ s.reads, role ∈ read.2

/-- One step: some request reads the roles of a user, puts what it read into the cache, or
clears the cache; or a request is carried out with what the cache answers. -/
inductive RoleStep : RoleState → RoleState → Prop
  | read {s : RoleState} (userId : String) :
      RoleStep s { s with reads := (userId, rolesOf s.db userId) :: s.reads }
  | fill {s : RoleState} {userId : String} {roles : List ManagementRole} :
      (userId, roles) ∈ s.reads →
      RoleStep s { s with cache := s.cache.setUserRoles userId roles }
  | clear {s : RoleState} : RoleStep s { s with cache := s.cache.clear }
  | request {s : RoleState} (method : RoleMethod) (ctx : Context) (request : Request) :
      ctx.Fresh s.db → (∀ role, s.Held role → ∀ i, role.info.id ≠ ctx.newId i) →
      ctx.cachedRoles = s.cache.getUserRoles →
      RoleStep s { s with db := (method.handle ctx s.db request).store }

/-- Nothing is cached, and the roles that are stored have one user each. -/
structure RoleStart (s : RoleState) : Prop where
  cache : s.cache = {}
  reads : s.reads = []
  oneUser : ∀ role ∈ s.db.rolesDB.rows, OneUser role.immutablePart

/-- The rows and the copies of a role agree on its scope. -/
def RoleState.Agreed (s : RoleState) : Prop :=
  Table.Agreed ManagementRole.immutablePart OneUser s.Held s.db.rolesDB

theorem RoleStart.agreed {s : RoleState} (start : RoleStart s) : s.Agreed := by
  have noCopies : ∀ role, ¬ s.Held role := by
    intro role isHeld
    rcases isHeld with ⟨userId, roles, cached, _⟩ | ⟨read, isRead, _⟩
    · rw [start.cache] at cached
      cases cached
    · rw [start.reads] at isRead
      cases isRead
  constructor
  case valid =>
    intro role known
    exact start.oneUser role (known.resolve_right (noCopies role))
  case equal =>
    intro role role' known known' sameKey
    rw [List.inj_on_of_nodup_map s.db.rolesDB.distinct (known.resolve_right (noCopies role))
      (known'.resolve_right (noCopies role')) sameKey]

theorem RoleState.held_setUserRoles {s : RoleState} {userId : String}
    {roles : List ManagementRole} (isRead : (userId, roles) ∈ s.reads) {role : ManagementRole}
    (isHeld : { s with cache := s.cache.setUserRoles userId roles }.Held role) :
    s.Held role := by
  rcases isHeld with ⟨other, cached, isCached, member⟩ | pending
  · simp only [AuthCache.setUserRoles] at isCached
    by_cases same : other = userId
    · rw [same, Function.update_self, Option.some.injEq] at isCached
      exact Or.inr ⟨_, isRead, isCached ▸ member⟩
    · rw [Function.update_of_ne same] at isCached
      exact Or.inl ⟨other, cached, isCached, member⟩
  · exact Or.inr pending

theorem answersHeld_of_cache {s : RoleState} {ctx : Context}
    (cached : ctx.cachedRoles = s.cache.getUserRoles) : AnswersHeld ctx s.Held := by
  intro userId roles answered role member
  rw [cached] at answered
  obtain ⟨isCached, _⟩ := Option.filter_eq_some_iff.mp answered
  exact Or.inl ⟨userId, roles, isCached, member⟩

theorem RoleState.Agreed.step {s t : RoleState} (agreed : s.Agreed) (isStep : RoleStep s t) :
    t.Agreed := by
  cases isStep with
  | read userId =>
      refine agreed.mono fun role isHeld => ?_
      rcases isHeld with cached | ⟨read, isRead, member⟩
      · exact Or.inr (Or.inl cached)
      · rcases List.mem_cons.mp isRead with rfl | isRead
        · exact Or.inl (List.mem_filter.mp member).1
        · exact Or.inr (Or.inr ⟨read, isRead, member⟩)
  | fill isRead =>
      exact agreed.mono fun role isHeld => Or.inr (RoleState.held_setUserRoles isRead isHeld)
  | clear =>
      refine agreed.mono fun role isHeld => ?_
      rcases isHeld with ⟨userId, roles, ⟨⟩, _⟩ | pending
      exact Or.inr (Or.inr pending)
  | request method ctx request fresh apart cached =>
      have held : ∀ role, s.Held role → ¬ ∃ i, key role = ctx.newId i := by
        rintro role isHeld ⟨i, isNew⟩
        exact apart role isHeld i isNew
      have after : Table.Agreed ManagementRole.immutablePart OneUser s.Held
          (method.handle ctx s.db request).store.rolesDB :=
        Table.Agreed.writes agreed held
          (roleWrites_handle fresh (answersHeld_of_cache cached) method request)
      exact after

/-- A step keeps the scope of every role that stays. -/
theorem RoleState.Agreed.keepsView {s t : RoleState} (agreed : s.Agreed)
    (isStep : RoleStep s t) :
    Table.KeepsView ManagementRole.immutablePart s.db.rolesDB t.db.rolesDB := by
  cases isStep with
  | read userId => exact .of_same (.refl _ _)
  | fill isRead => exact .of_same (.refl _ _)
  | clear => exact .of_same (.refl _ _)
  | request method ctx request fresh apart cached =>
      have unused : ∀ role ∈ s.db.rolesDB.rows, ¬ ∃ i, key role = ctx.newId i := by
        rintro role member ⟨i, isNew⟩
        have free := fresh.role i
        rw [← isNew, Table.get?_key_of_mem member] at free
        cases free
      exact Table.Agreed.keepsView agreed unused
        (roleWrites_handle fresh (answersHeld_of_cache cached) method request)

/-- Every role has one user, and while it exists it keeps its entity, its venue and its
user. -/
structure RoleScopesKept (s : RoleState) : Prop where
  oneUser : ∀ role ∈ s.db.rolesDB.rows, ∃ user, role.users = [user]
  kept : ∀ t id, RunWithin RoleStep (fun s => idExists s.db.rolesDB id) s t →
    (t.db.rolesDB.get? id).map ManagementRole.immutablePart =
      (s.db.rolesDB.get? id).map ManagementRole.immutablePart

/-- In every run, whatever the cache holds, the roles keep their scopes. -/
theorem role_scopes_kept_of_run {s : RoleState} (reached : Reachable RoleStart RoleStep s) :
    RoleScopesKept s := by
  have agreed : s.Agreed :=
    reached.invariant (fun _ => RoleStart.agreed) fun _ _ => RoleState.Agreed.step
  constructor
  case oneUser => exact fun role member => agreed.valid role (Or.inl member)
  case kept =>
    intro t id run
    apply run.constant_of_invariant agreed fun _ _ => RoleState.Agreed.step
    intro before after agreedBefore isStep present present'
    exact (agreedBefore.keepsView isStep).map_get? present present'

/-! ### A role that is written back from the cache -/

/-- A root user whose requests may assign any user. -/
def assigningContext (length : ℕ) : Context :=
  { rootContext length with
    env := { (rootContext length).env with secUser := fun id => some { id := id, userRole := .admin } } }

theorem assigningContext_fresh {length : ℕ} {db : Store} (fresh : (rootContext length).Fresh db) :
    (assigningContext length).Fresh db :=
  ⟨fresh.filled, fresh.distinct, fresh.entity, fresh.venue, fresh.role, fresh.operator,
    fresh.location⟩

/-- A request that gives a user a role on the root entity. -/
def roleRequest : Request where
  method := .post
  uri := "/api/v1/managementRole/0"
  bindings := [("id", "0")]
  body := some [("name", .str "Keeper"), ("entity", .str rootUUID),
    ("users", .arr [.str "u-1"] "[\"u-1\"]")]

/-- The state after the role was created and cached. -/
def cachedRole : RoleState :=
  let db := (roleDoPost (assigningContext 14) initialStore roleRequest).store
  { db := db
    cache := ({} : AuthCache).setUserRoles "u-1" (rolesOf db "u-1")
    reads := [("u-1", rolesOf db "u-1")] }

theorem cachedRole_reached : Reachable RoleStart RoleStep cachedRole := by
  have start : RoleStart { db := initialStore } := ⟨rfl, rfl, by rintro role ⟨⟩⟩
  have created : RoleStep { db := initialStore }
      { db := (roleDoPost (assigningContext 14) initialStore roleRequest).store } :=
    .request .post (assigningContext 14) roleRequest
      (assigningContext_fresh (rootContext_fresh (by decide)))
      (by rintro role (⟨_, _, ⟨⟩, _⟩ | ⟨_, ⟨⟩, _⟩)) rfl
  exact .step (.step (.step (.start start) created) (.read "u-1"))
    (.fill (List.mem_singleton.mpr rfl))

/-- The same request finds the role in the cache and writes it back. -/
theorem role_scopes_kept_after_write_back :
    ∃ s, (s.db.rolesDB.rows.map fun role => (role.info.id, role.entity, role.users)) =
        [(unaryId 15, rootUUID, ["u-1"])] ∧ RoleScopesKept s := by
  have fresh : (assigningContext 20).Fresh cachedRole.db :=
    assigningContext_fresh (rootContext_fresh (by decide))
  have apart : ∀ role, cachedRole.Held role → ∀ i, role.info.id ≠ (assigningContext 20).newId i := by
    intro role isHeld i isNew
    have isRow : role ∈ cachedRole.db.rolesDB.rows := by
      rcases isHeld with ⟨userId, roles, cached, member⟩ | ⟨read, isRead, member⟩
      · by_cases same : userId = "u-1"
        · rw [same] at cached
          cases cached
          exact (List.mem_filter.mp member).1
        · simp only [cachedRole, AuthCache.setUserRoles, Function.update_of_ne same] at cached
          cases cached
      · rw [List.mem_singleton.mp isRead] at member
        exact (List.mem_filter.mp member).1
    have free : cachedRole.db.rolesDB.get? (key role) = none := by
      rw [show key role = (assigningContext 20).newId i from isNew]
      exact fresh.role i
    rw [Table.get?_key_of_mem isRow] at free
    cases free
  exact ⟨_, by decide, role_scopes_kept_of_run (.step cachedRole_reached
    (.request .post
      { assigningContext 20 with cachedRoles := cachedRole.cache.getUserRoles } roleRequest
      ⟨fresh.filled, fresh.distinct, fresh.entity, fresh.venue, fresh.role, fresh.operator,
        fresh.location⟩ apart rfl))⟩

end Owprov
