import Owprov.AuthCache
import Owprov.Lib.RefusedWrites
import Owprov.RoleImmutability

/-!
# Batches of roles

One request stores a role for each of its venues.  A role of the same user in the same place gets the
new policy, otherwise a role is created.  When the database refuses a write the created roles
are deleted again, and the rewritten ones stay as they are.
-/

namespace Owprov

open RowTable Table

/-- The writes of a batch that the database may refuse. -/
inductive RoleWrite where
  | save (index : ℕ)
  | undo (id : String)
  deriving DecidableEq

/-! ## The code -/

/-- `saveRole`, unless the database refuses the write. -/
def saveRoleUnless (ctx : Context) (refused : Bool) (db : Store) (userId : String)
    (role : ManagementRole) : Option Store :=
  match findExactExistingRole ctx db userId role.entity role.venue with
  | some existing =>
      (db.rolesDB.updateUnless refused
        { existing with managementPolicy := role.managementPolicy }).map fun rolesDB =>
          { db with rolesDB := rolesDB }
  | none => (db.rolesDB.insertUnless refused role).map fun rolesDB => { db with rolesDB := rolesDB }

/-- `saveRoles` with writes that may be refused. -/
def saveRolesUnless (ctx : Context) (refuses : RoleWrite → Bool) (userId : String)
    (role : ManagementRole) : ℕ → List String → List String → Store → Outcome
  | _, _, [], db => .done db
  | index, created, venueId :: scopes, db =>
      let roleForScope := roleForScope ctx role index venueId
      match saveRoleUnless ctx (refuses (.save index)) db userId roleForScope with
      | none =>
          .fail { db with rolesDB := undoInserts (fun id => refuses (.undo id)) created db.rolesDB }
            (.internalError .recordNotCreated)
      | some saved =>
          let fresh := (findExactExistingRole ctx db userId roleForScope.entity venueId).isNone
          saveRolesUnless ctx refuses userId role (index + 1)
            (if fresh then created ++ [roleForScope.info.id] else created) scopes saved

/-- `RESTAPI_managementRole_handler::DoPost` with writes that may be refused. -/
def roleDoPostUnless (ctx : Context) (refuses : RoleWrite → Bool) (db : Store) (request : Request) :
    Outcome :=
  match roleDoPostPlan ctx db request with
  | .error failure => .fail db failure
  | .ok (newObject, scopes, target) =>
      match checkRequester db ctx.caller newObject.entity scopes target with
      | .error failure => .fail db failure
      | .ok () =>
          match assignedUser ctx newObject with
          | .error failure => .fail db failure
          | .ok userId => saveRolesUnless ctx refuses userId newObject 0 [] scopes db

section NeverRefused

variable {ctx : Context} {db : Store}

theorem saveRoleUnless_false (userId : String) (role : ManagementRole) :
    saveRoleUnless ctx false db userId role = saveRole ctx db userId role := by
  unfold saveRoleUnless saveRole
  cases findExactExistingRole ctx db userId role.entity role.venue <;> rfl

theorem saveRolesUnless_never (userId : String) (role : ManagementRole) (index : ℕ)
    (created scopes : List String) :
    saveRolesUnless ctx (fun _ => false) userId role index created scopes db =
      saveRoles ctx userId role index created scopes db := by
  induction scopes generalizing index created db with
  | nil => rfl
  | cons venueId scopes ih =>
      unfold saveRolesUnless saveRoles
      dsimp only
      rw [saveRoleUnless_false]
      change (match saveRole ctx db userId (roleForScope ctx role index venueId) with
        | none => _
        | some saved => _) = (match saveRole ctx db userId (roleForScope ctx role index venueId) with
        | none => _
        | some saved => _)
      cases saveRole ctx db userId (roleForScope ctx role index venueId) with
      | none => rfl
      | some saved => exact ih _ _

/-- Without refusals this is the handler. -/
theorem roleDoPostUnless_never (request : Request) :
    roleDoPostUnless ctx (fun _ => false) db request = roleDoPost ctx db request := by
  unfold roleDoPostUnless roleDoPost
  cases roleDoPostPlan ctx db request with
  | error failure => rfl
  | ok planned =>
      obtain ⟨newObject, scopes, target⟩ := planned
      dsimp only
      cases checkRequester db ctx.caller newObject.entity scopes target with
      | error failure => rfl
      | ok _ =>
          dsimp only
          cases assignedUser ctx newObject with
          | error failure => rfl
          | ok userId => exact saveRolesUnless_never userId newObject 0 [] scopes

end NeverRefused

/-! ## The writes of a batch -/

/-- The write that saves a role. -/
def roleWrite (ctx : Context) (db : Store) (userId : String) (role : ManagementRole) :
    BatchWrite ManagementRole :=
  match findExactExistingRole ctx db userId role.entity role.venue with
  | some existing => .update { existing with managementPolicy := role.managementPolicy }
  | none => .insert role

section Batch

variable {ctx : Context} {db : Store} {userId entityId venueId : String} {role : ManagementRole}
  {roles roles' : Table ManagementRole}

/-- The rows that `FindExactExistingRole` selects. -/
def selectsRole (env : Env) (userId entityId venueId : String) (role : ManagementRole) : Bool :=
  role.entity == entityId && role.venue == venueId && env.usersLike role.users userId

theorem findExactExistingRole_congr
    (same : roles.rows.filter (selectsRole ctx.env userId entityId venueId) =
      db.rolesDB.rows.filter (selectsRole ctx.env userId entityId venueId)) :
    findExactExistingRole ctx { db with rolesDB := roles } userId entityId venueId =
      findExactExistingRole ctx db userId entityId venueId := by
  unfold findExactExistingRole
  cases (ctx.cachedRoles userId).filter fun roles => !roles.isEmpty with
  | some cached => rfl
  | none =>
      dsimp only
      change ((roles.rows.filter (selectsRole ctx.env userId entityId venueId)).take 100).find? _ =
        ((db.rolesDB.rows.filter (selectsRole ctx.env userId entityId venueId)).take 100).find? _
      rw [same]

/-- Without cached roles an existing role is a row of the table. -/
theorem mem_of_findExactExistingRole {existing : ManagementRole}
    (uncached : (ctx.cachedRoles userId).filter (fun roles => !roles.isEmpty) = none)
    (found : findExactExistingRole ctx db userId entityId venueId = some existing) :
    existing ∈ db.rolesDB.rows ∧ existing.venue = venueId := by
  unfold findExactExistingRole at found
  rw [uncached] at found
  have member := List.mem_of_mem_take (List.mem_of_find?_eq_some found)
  obtain ⟨isRow, selected⟩ := List.mem_filter.mp member
  rw [Bool.and_eq_true, Bool.and_eq_true, beq_iff_eq, beq_iff_eq] at selected
  exact ⟨isRow, selected.1.2⟩

/-- Saving a role does not change what is found in other venues. -/
theorem findExactExistingRole_of_apply
    (applied : (roleWrite ctx db userId role).apply db.rolesDB = some roles)
    (other : role.venue ≠ venueId) :
    findExactExistingRole ctx { db with rolesDB := roles } userId entityId venueId =
      findExactExistingRole ctx db userId entityId venueId := by
  cases cached : (ctx.cachedRoles userId).filter fun roles => !roles.isEmpty with
  | some answer =>
      unfold findExactExistingRole
      rw [cached]
  | none =>
      apply findExactExistingRole_congr
      have unselected : ∀ saved : ManagementRole, saved.venue = role.venue →
          selectsRole ctx.env userId entityId venueId saved = false := by
        intro saved sameVenue
        simp [selectsRole, sameVenue, other]
      unfold roleWrite at applied
      cases found : findExactExistingRole ctx db userId role.entity role.venue with
      | none =>
          rw [found] at applied
          have rows : roles.rows = db.rolesDB.rows ++ [role] := by
            simpa using map_rows_insert? applied id
          rw [rows, List.filter_append, List.filter_cons_of_neg (by simp [unselected role rfl])]
          simp
      | some existing =>
          rw [found] at applied
          obtain rfl := Option.some.inj applied
          obtain ⟨isRow, sameVenue⟩ := mem_of_findExactExistingRole cached found
          refine filter_rows_update (unselected
            { existing with managementPolicy := role.managementPolicy } sameVenue) ?_
          intro old isOld
          have same : old = existing :=
            Option.some.inj (isOld.symm.trans (get?_key_of_mem isRow))
          exact unselected old (same ▸ sameVenue)

/-! ## The loop -/

/-- The roles that have been saved: what the writes, as the store at the start determines them, have
made of the table, which answers about other venues as before. -/
structure SavedRoles (ctx : Context) (db : Store) (userId : String) (saved : List ManagementRole)
    (roles : Table ManagementRole) : Prop where
  applied : applyBatch (saved.map (roleWrite ctx db userId)) db.rolesDB = some roles
  sameChoice : ∀ entityId venueId, venueId ∉ saved.map ManagementRole.venue →
    findExactExistingRole ctx { db with rolesDB := roles } userId entityId venueId =
      findExactExistingRole ctx db userId entityId venueId

/-- The id of an inserted row is that of a saved role. -/
theorem mem_insertedKeys_roleWrite {saved : List ManagementRole} {id : String}
    (member : id ∈ insertedKeys (saved.map (roleWrite ctx db userId))) :
    id ∈ saved.map key := by
  induction saved with
  | nil => cases member
  | cons role saved ih =>
      rw [List.map_cons, roleWrite] at member
      cases found : findExactExistingRole ctx db userId role.entity role.venue with
      | none =>
          rw [found] at member
          rcases List.mem_cons.mp member with rfl | later
          · exact List.mem_cons_self
          · exact List.mem_cons_of_mem _ (ih later)
      | some existing =>
          rw [found] at member
          exact List.mem_cons_of_mem _ (ih member)

theorem SavedRoles.roleWrite_eq {saved : List ManagementRole}
    (before : SavedRoles ctx db userId saved roles)
    (otherVenue : role.venue ∉ saved.map ManagementRole.venue) :
    roleWrite ctx { db with rolesDB := roles } userId role = roleWrite ctx db userId role := by
  rw [roleWrite, roleWrite, before.sameChoice role.entity role.venue otherVenue]

/-- A role whose id is new can be saved. -/
theorem SavedRoles.save {saved : List ManagementRole} (before : SavedRoles ctx db userId saved roles)
    (otherVenue : role.venue ∉ saved.map ManagementRole.venue)
    (newId : db.rolesDB.get? (key role) = none) (otherId : key role ∉ saved.map key) :
    ∃ roles', (roleWrite ctx { db with rolesDB := roles } userId role).apply roles = some roles' ∧
      SavedRoles ctx db userId (saved ++ [role]) roles' := by
  have absent : roles.get? (key role) = none := by
    rw [get?_eq_none_iff, List.mem_map]
    rintro ⟨row, member, same⟩
    rcases (applied_of_applyBatch before.applied).key_cases member with ⟨old, isOld, sameKey⟩ | inserted
    · rw [← same, ← sameKey, get?_key_of_mem isOld] at newId
      cases newId
    · exact otherId (same ▸ mem_insertedKeys_roleWrite inserted)
  obtain ⟨roles', written⟩ : ∃ roles',
      (roleWrite ctx { db with rolesDB := roles } userId role).apply roles = some roles' := by
    unfold roleWrite
    cases findExactExistingRole ctx { db with rolesDB := roles } userId role.entity role.venue with
    | none => exact insert?_isSome absent
    | some existing => exact ⟨_, rfl⟩
  refine ⟨roles', written, ?_, fun entityId venueId notSaved => ?_⟩
  · rw [List.map_append, List.map_singleton, applyBatch_append_singleton, before.applied,
      Option.bind_some, ← before.roleWrite_eq otherVenue, written]
  · rw [List.map_append, List.mem_append, not_or, List.map_singleton, List.mem_singleton] at notSaved
    rw [← before.sameChoice entityId venueId notSaved.1]
    exact findExactExistingRole_of_apply written (Ne.symm notSaved.2)

/-- Roles of different venues under different and new ids. -/
structure NewRoles (db : Store) (batch : List ManagementRole) : Prop where
  venues : (batch.map ManagementRole.venue).Nodup
  ids : (batch.map key).Nodup
  new : ∀ role ∈ batch, db.rolesDB.get? (key role) = none

/-- The first role after some saved ones. -/
theorem NewRoles.next {saved later : List ManagementRole}
    (batch : NewRoles db (saved ++ role :: later)) :
    role.venue ∉ saved.map ManagementRole.venue ∧ key role ∉ saved.map key ∧
      db.rolesDB.get? (key role) = none := by
  have venues := batch.venues
  have ids := batch.ids
  rw [List.map_append, List.map_cons, List.nodup_middle, List.nodup_cons] at venues ids
  exact ⟨fun member => venues.1 (List.mem_append_left _ member),
    fun member => ids.1 (List.mem_append_left _ member),
    batch.new role (List.mem_append_right _ List.mem_cons_self)⟩

section Loop

variable {refuses : RoleWrite → Bool} {index : ℕ} {saved : List ManagementRole}
  {scopes : List String}

end Loop

end Batch

/-! ## The batch of a request -/

section Planned

variable {ctx : Context} {db : Store} {request : Request} {role : ManagementRole}
  {scopes : List String} {target : Option ManagementPolicy}

end Planned

end Owprov
