import Owprov.Scope

/-!
# What a decision on a scope says

A decision accepts because a role of the caller lies on the resolved scope and its policy
allows the method.  When no scope is resolved, the guard `hasScopeConstraint` keeps the
request from being accepted for any role whatever, as long as it knows the selector that
the request carries.
-/

namespace Owprov

open RowTable

/-- The caller is subject to the role check. -/
def Caller.NonRoot (caller : Caller) : Prop :=
  caller.user.userRole ≠ .root

/-- The venues walked from an entity end and include a venue. -/
def ReachesVenue (db : Store) (entity venue : String) : Prop :=
  ∃ allowed, allowedVenues db entity = some allowed ∧ venue ∈ allowed

/-- A role of the caller on a resolved scope, as `RoleIsAuthorized` looks for it: on the
venue, or on the entity above it when no role is on the venue. -/
def RoleCovers (db : Store) (roles : List ManagementRole) (entity venue : String)
    (role : ManagementRole) : Prop :=
  if venue = "" then
    role.entity = entity ∧ role.venue = ""
  else
    role.venue = venue ∨
      (∀ other ∈ roles, other.venue ≠ venue) ∧ role.entity = entity ∧ role.venue = "" ∧
        ReachesVenue db entity venue

/-! ## The loop over the entity-level roles -/

section Loop

variable {db : Store} {allows : ManagementRole → Bool} {entity venue : String}

theorem entityRoleLoop_eq_true {roles : List ManagementRole}
    (accepted : entityRoleLoop db allows entity venue roles = some true) :
    ReachesVenue db entity venue ∧
      ∃ role ∈ roles, role.entity = entity ∧ role.venue = "" ∧ allows role = true := by
  induction roles with
  | nil => cases accepted
  | cons role roles ih =>
      rw [entityRoleLoop] at accepted
      split at accepted
      · rename_i onEntity
        split at accepted
        · cases accepted
        · rename_i allowed visited
          split at accepted
          · rename_i granted
            exact ⟨⟨allowed, onEntity.1 ▸ visited, granted.1⟩, role, List.mem_cons_self,
              onEntity.1, onEntity.2, granted.2⟩
          · obtain ⟨reached, other, member, facts⟩ := ih accepted
            exact ⟨reached, other, List.mem_cons_of_mem _ member, facts⟩
      · obtain ⟨reached, other, member, facts⟩ := ih accepted
        exact ⟨reached, other, List.mem_cons_of_mem _ member, facts⟩

theorem entityRoleLoop_of_reaches (reached : ReachesVenue db entity venue)
    {roles : List ManagementRole}
    (granted : ∃ role ∈ roles, role.entity = entity ∧ role.venue = "" ∧ allows role = true) :
    entityRoleLoop db allows entity venue roles = some true := by
  obtain ⟨allowed, visited, inside⟩ := reached
  obtain ⟨role, member, onEntity, entityLevel, allowing⟩ := granted
  induction roles with
  | nil => cases member
  | cons other roles ih =>
      rw [entityRoleLoop]
      split
      · rename_i otherOn
        rw [otherOn.1, visited]
        dsimp only
        split
        · rfl
        · rename_i refused
          rcases List.mem_cons.mp member with rfl | later
          · exact absurd ⟨inside, allowing⟩ refused
          · exact ih later
      · rename_i otherOff
        rcases List.mem_cons.mp member with rfl | later
        · exact absurd ⟨onEntity, entityLevel⟩ otherOff
        · exact ih later

end Loop

/-! ## The decision on a resolved scope -/

theorem scopeIsAuthorized_iff {db : Store} {allows : ManagementRole → Bool}
    {roles : List ManagementRole} {entity venue : String} :
    scopeIsAuthorized db allows roles entity venue = some true ↔
      ∃ role ∈ roles, allows role = true ∧ RoleCovers db roles entity venue role := by
  unfold scopeIsAuthorized RoleCovers
  by_cases blank : venue = ""
  · simp only [blank, ne_eq, not_true_eq_false, if_false, if_true, Option.some.injEq,
      List.any_eq_true, Bool.and_eq_true, beq_iff_eq]
    constructor
    · rintro ⟨role, member, onScope, allowing⟩
      exact ⟨role, member, allowing, onScope⟩
    · rintro ⟨role, member, allowing, onScope⟩
      exact ⟨role, member, onScope, allowing⟩
  · simp only [blank, ne_eq, not_false_eq_true, if_true, if_false]
    split
    · rename_i specific
      simp only [List.any_eq_true, beq_iff_eq] at specific
      simp only [Option.some.injEq, List.any_eq_true, Bool.and_eq_true, beq_iff_eq]
      constructor
      · rintro ⟨role, member, onVenue, allowing⟩
        exact ⟨role, member, allowing, Or.inl onVenue⟩
      · rintro ⟨role, member, allowing, onVenue | ⟨noneSpecific, _⟩⟩
        · exact ⟨role, member, onVenue, allowing⟩
        · obtain ⟨other, otherMem, onVenue⟩ := specific
          exact absurd onVenue (noneSpecific other otherMem)
    · rename_i noneSpecific
      have noOther : ∀ other ∈ roles, other.venue ≠ venue := by
        simpa using noneSpecific
      constructor
      · intro accepted
        obtain ⟨reached, role, member, onEntity, entityLevel, allowing⟩ :=
          entityRoleLoop_eq_true accepted
        exact ⟨role, member, allowing, Or.inr ⟨noOther, onEntity, entityLevel, reached⟩⟩
      · rintro ⟨role, member, allowing, onVenue | ⟨_, onEntity, entityLevel, reached⟩⟩
        · exact absurd onVenue (noOther role member)
        · exact entityRoleLoop_of_reaches reached
            ⟨role, member, onEntity, entityLevel, allowing⟩

/-! ## The decision on a request -/

/-- No path maps to the resource `user`, on which root alone gives the root role. -/
theorem assignsRootRole_getResourceName (request : Request) :
    assignsRootRole (getResourceName request.uri) request = .ok false := by
  have differ : getResourceName request.uri ≠ "user" := by
    intro isUser
    have known := getResourceName_mem request.uri
    rw [isUser] at known
    revert known
    decide
  simp only [assignsRootRole, differ, false_and, if_false]
  rfl

/-- When a request is accepted, apart from the open reads. -/
theorem roleIsAuthorized_iff {db : Store} {caller : Caller} {request : Request}
    (nonRoot : caller.NonRoot)
    (notOpen : isOpenRead (getResourceName request.uri) request.method = false) :
    roleIsAuthorized db caller request = some true ↔
      getResourceName request.uri ≠ "" ∧
        match resolveTargetContext db request with
        | .thrown => False
        | .unresolved =>
            hasScopeConstraint (getResourceName request.uri) request = false ∧
              ∃ role ∈ caller.roles,
                caller.checkRolePolicy (getResourceName request.uri) request.method role = true
        | .resolved entity venue =>
            ∃ role ∈ caller.roles,
              caller.checkRolePolicy (getResourceName request.uri) request.method role = true ∧
                RoleCovers db caller.roles entity venue role := by
  unfold roleIsAuthorized
  rw [if_neg nonRoot]
  dsimp only
  by_cases unnamed : getResourceName request.uri = ""
  · simp [unnamed]
  · rw [if_neg unnamed, assignsRootRole_getResourceName]
    simp only [notOpen, Bool.false_eq_true, if_false, ne_eq, unnamed, not_false_eq_true, true_and]
    cases resolveTargetContext db request with
    | thrown => simp
    | unresolved =>
        cases constrained : hasScopeConstraint (getResourceName request.uri) request with
        | false => simp
        | true => simp
    | resolved entity venue => exact scopeIsAuthorized_iff

/-- The request resolves a scope, and a role of the caller on it allows the request. -/
def CoveredRequest (db : Store) (caller : Caller) (request : Request) : Prop :=
  ∃ entity venue, resolveTargetContext db request = .resolved entity venue ∧
    ∃ role ∈ caller.roles,
      caller.checkRolePolicy (getResourceName request.uri) request.method role = true ∧
        RoleCovers db caller.roles entity venue role

/-- On a scoped resource the policies are the only open reads. -/
theorem isOpenRead_eq_false {resource : String} {method : HttpMethod}
    (isScoped : resource ∈ scopedResources)
    (notPolicyRead : ¬ (resource = "managementPolicy" ∧ method = .get)) :
    isOpenRead resource method = false := by
  have both : ∀ name ∈ scopedResources, name ∈ ["managementPolicy", "systemConfiguration",
      "radiusEndpoint", "openroaming", "iptocountry"] → name = "managementPolicy" := by
    decide
  rw [Bool.eq_false_iff]
  intro openRead
  simp only [isOpenRead, Bool.and_eq_true, List.contains_eq_mem, decide_eq_true_eq,
    beq_iff_eq] at openRead
  exact notPolicyRead ⟨both _ isScoped openRead.1, openRead.2⟩

/-- Apart from reading policies, a request on a scoped resource is accepted because a role
of the caller covers its resolved scope and allows it; or else its scope is not resolved, it
carries none of the selectors that the scope guard knows, and some role allows it. -/
theorem covered_or_unselected {db : Store} {caller : Caller} {request : Request}
    (nonRoot : caller.NonRoot) (isScoped : getResourceName request.uri ∈ scopedResources)
    (notPolicyRead :
      ¬ (getResourceName request.uri = "managementPolicy" ∧ request.method = .get))
    (accepted : roleIsAuthorized db caller request = some true) :
    CoveredRequest db caller request ∨
      (resolveTargetContext db request = .unresolved ∧ request.hasScopeSelector = false ∧
        ∃ role ∈ caller.roles,
          caller.checkRolePolicy (getResourceName request.uri) request.method role = true) := by
  obtain ⟨_, decision⟩ :=
    (roleIsAuthorized_iff nonRoot (isOpenRead_eq_false isScoped notPolicyRead)).mp accepted
  cases resolution : resolveTargetContext db request with
  | thrown =>
      rw [resolution] at decision
      exact decision.elim
  | unresolved =>
      rw [resolution] at decision
      obtain ⟨unconstrained, anyRole⟩ := decision
      have known : scopedResources.contains (getResourceName request.uri) = true := by
        simpa using isScoped
      rw [hasScopeConstraint, known, Bool.true_and] at unconstrained
      exact Or.inr ⟨rfl, unconstrained, anyRole⟩
  | resolved entity venue =>
      rw [resolution] at decision
      exact Or.inl ⟨entity, venue, resolution, decision⟩

/-! ### Instances -/

/-- A database with the root entity, one entity and one policy, which allows everything. -/
def sharedStore : Store where
  entityDB :=
    ⟨[{ info := { id := rootUUID }, children := ["e-1"] },
      { info := { id := "e-1" }, parent := rootUUID }], by decide⟩
  policyDB := .singleton
    { info := { id := "p-1" }, entries := [{ resources := ["*"], access := ["FULL"] }] }

/-- A user with some roles, whose policies are those of the database. -/
def sharedCaller (roles : List ManagementRole) : Caller where
  user := { id := "u-1", userRole := .admin }
  roles := roles
  policy := sharedStore.policyDB.get?

theorem sharedCaller_nonRoot (roles : List ManagementRole) : (sharedCaller roles).NonRoot := by
  intro isRoot
  cases isRoot

def policyRead : Request where
  method := .get
  uri := "/api/v1/managementPolicy/p-1"
  bindings := [("id", "p-1")]

/-- Anybody reads a policy, without a role at all. -/
theorem policy_read_without_role :
    ∃ db caller request, Caller.NonRoot caller ∧
      getResourceName request.uri ∈ scopedResources ∧
      idExists db.policyDB request.boundId = true ∧
      roleIsAuthorized db caller request = some true ∧ ¬ CoveredRequest db caller request := by
  refine ⟨sharedStore, sharedCaller [], policyRead, sharedCaller_nonRoot [],
    by decide, by decide, by decide, ?_⟩
  rintro ⟨_, _, _, role, member, _⟩
  cases member

def entityRole : ManagementRole where
  info := { id := "r-1" }
  entity := "e-1"
  managementPolicy := "p-1"

def entityUpdate : Request where
  method := .put
  uri := "/api/v1/entity/e-1"
  bindings := [("uuid", "e-1")]

/-- A role on the entity is what lets its holder update it. -/
theorem entity_update_covered :
    CoveredRequest sharedStore (sharedCaller [entityRole]) entityUpdate ∨
      (resolveTargetContext sharedStore entityUpdate = .unresolved ∧
        entityUpdate.hasScopeSelector = false ∧
        ∃ role ∈ (sharedCaller [entityRole]).roles,
          (sharedCaller [entityRole]).checkRolePolicy (getResourceName entityUpdate.uri)
            entityUpdate.method role = true) :=
  covered_or_unselected (sharedCaller_nonRoot _) (by decide) (by decide)
    (by decide)

end Owprov
