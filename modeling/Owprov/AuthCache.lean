import Mathlib.Logic.Function.Basic
import Owprov.Lib.FillCache
import Owprov.Scope

/-!
# The authorization cache

`AuthCache` holds the roles of users and the policy records that requests have looked up.
Requests fill it, and the handlers that change roles or policies clear it.  The steps of
concurrent requests interleave; the model below is a run of the cache of
`Owprov.Lib.FillCache` whose keys are user ids and policy ids.
-/

namespace Owprov

open RowTable

/-- `AuthCache`: the maps `Cache_` and `Policies_`. -/
structure AuthCache where
  users : String → Option (List ManagementRole) := fun _ => none
  policies : String → Option ManagementPolicy := fun _ => none

namespace AuthCache

/-- `GetUserRoles`, for which an empty list is a miss. -/
def getUserRoles (cache : AuthCache) (userId : String) : Option (List ManagementRole) :=
  (cache.users userId).filter fun roles => !roles.isEmpty

def setUserRoles (cache : AuthCache) (userId : String) (roles : List ManagementRole) : AuthCache :=
  { cache with users := Function.update cache.users userId (some roles) }

def getPolicy (cache : AuthCache) (policyId : String) : Option ManagementPolicy :=
  cache.policies policyId

def setPolicy (cache : AuthCache) (policyId : String) (policy : ManagementPolicy) : AuthCache :=
  { cache with policies := Function.update cache.policies policyId (some policy) }

def clear (_ : AuthCache) : AuthCache := {}

end AuthCache

/-- The roles of a user, as an iteration over `RolesDB` finds them. -/
def rolesOf (db : Store) (userId : String) : List ManagementRole :=
  db.rolesDB.rows.filter fun role => role.users.contains userId

/-- `FindAllUserRoles`. -/
def findAllUserRoles (db : Store) (cache : AuthCache) (userId : String) : List ManagementRole :=
  (cache.getUserRoles userId).getD (rolesOf db userId)

/-- The policy record that a policy check finds. -/
def findPolicy (db : Store) (cache : AuthCache) (policyId : String) : Option ManagementPolicy :=
  (cache.getPolicy policyId).or (db.policyDB.get? policyId)

/-- A user as the authorization of its requests sees it. -/
def callerOf (db : Store) (cache : AuthCache) (user : UserInfo) : Caller where
  user := user
  roles := findAllUserRoles db cache user.id
  policy := findPolicy db cache

/-! ## Atomic steps -/

/-- What a request is doing. -/
inductive RequestPhase where
  | idle
  /-- `GetUserRoles` has failed. -/
  | rolesMissed (userId : String)
  /-- The iteration over `RolesDB` has found some roles. -/
  | rolesRead (userId : String) (roles : List ManagementRole) (found : roles ≠ [])
  /-- `GetPolicy` has failed. -/
  | policyMissed (policyId : String)
  /-- `PolicyDB` has the record. -/
  | policyRead (policyId : String) (policy : ManagementPolicy)
  /-- A role or a policy was changed and `Clear` is still to come. -/
  | changed

/-- The database changes of the role and policy handlers. -/
inductive AuthChange where
  | createRole (role : ManagementRole)
  | updateRole (role : ManagementRole)
  | deleteRole (id : String)
  | createPolicy (policy : ManagementPolicy)
  | updatePolicy (policy : ManagementPolicy)
  | deletePolicy (id : String)

/-- The database after a change; a creation under a taken id changes nothing. -/
def AuthChange.apply (db : Store) : AuthChange → Store
  | .createRole role => { db with rolesDB := (db.rolesDB.insert? role).getD db.rolesDB }
  | .updateRole role => { db with rolesDB := db.rolesDB.update role }
  | .deleteRole id => { db with rolesDB := db.rolesDB.delete id }
  | .createPolicy policy => { db with policyDB := (db.policyDB.insert? policy).getD db.policyDB }
  | .updatePolicy policy => { db with policyDB := db.policyDB.update policy }
  | .deletePolicy id => { db with policyDB := db.policyDB.delete id }

/-- `MoveUsage` on `PolicyDB`, which keeps the `inUse` lists and clears nothing. -/
def movePolicyUsage (db : Store) (dbPrefix fromId toId id : String) : Store :=
  { db with
    policyDB := moveUsage db.policyDB ManagementPolicy.inUseMember dbPrefix fromId toId id }

/-- The database, the cache and what every request is doing. -/
structure AuthState (ι : Type) where
  db : Store
  cache : AuthCache
  phase : ι → RequestPhase

/-- The atomic steps of requests. -/
inductive AuthAction (ι : Type) where
  | getUserRoles (p : ι) (userId : String)
  | iterateRoles (p : ι)
  | setUserRoles (p : ι)
  | getPolicy (p : ι) (policyId : String)
  | readPolicy (p : ι)
  | setPolicy (p : ι)
  | change (p : ι) (made : AuthChange)
  | clear (p : ι)
  | moveUsage (dbPrefix fromId toId id : String)

variable {ι : Type} [DecidableEq ι]

/-- The state after one request has gone on to a phase. -/
def AuthState.goto (s : AuthState ι) (p : ι) (now : RequestPhase) : AuthState ι :=
  { s with phase := Function.update s.phase p now }

/-- What one atomic step does. -/
inductive AuthStep : AuthState ι → AuthAction ι → AuthState ι → Prop where
  | rolesHit {s : AuthState ι} {p : ι} {userId : String} {roles : List ManagementRole} :
      s.phase p = .idle → s.cache.getUserRoles userId = some roles →
      AuthStep s (.getUserRoles p userId) s
  | rolesMiss {s : AuthState ι} {p : ι} {userId : String} :
      s.phase p = .idle → s.cache.getUserRoles userId = none →
      AuthStep s (.getUserRoles p userId) (s.goto p (.rolesMissed userId))
  | iterateNone {s : AuthState ι} {p : ι} {userId : String} :
      s.phase p = .rolesMissed userId → rolesOf s.db userId = [] →
      AuthStep s (.iterateRoles p) (s.goto p .idle)
  | iterateSome {s : AuthState ι} {p : ι} {userId : String}
      (found : rolesOf s.db userId ≠ []) :
      s.phase p = .rolesMissed userId →
      AuthStep s (.iterateRoles p) (s.goto p (.rolesRead userId (rolesOf s.db userId) found))
  | setUserRoles {s : AuthState ι} {p : ι} {userId : String} {roles : List ManagementRole}
      {found : roles ≠ []} :
      s.phase p = .rolesRead userId roles found →
      AuthStep s (.setUserRoles p)
        ({ s with cache := s.cache.setUserRoles userId roles }.goto p .idle)
  | policyHit {s : AuthState ι} {p : ι} {policyId : String} {policy : ManagementPolicy} :
      s.phase p = .idle → s.cache.getPolicy policyId = some policy →
      AuthStep s (.getPolicy p policyId) s
  | policyMiss {s : AuthState ι} {p : ι} {policyId : String} :
      s.phase p = .idle → s.cache.getPolicy policyId = none →
      AuthStep s (.getPolicy p policyId) (s.goto p (.policyMissed policyId))
  | readNone {s : AuthState ι} {p : ι} {policyId : String} :
      s.phase p = .policyMissed policyId → s.db.policyDB.get? policyId = none →
      AuthStep s (.readPolicy p) (s.goto p .idle)
  | readSome {s : AuthState ι} {p : ι} {policyId : String} {policy : ManagementPolicy} :
      s.phase p = .policyMissed policyId → s.db.policyDB.get? policyId = some policy →
      AuthStep s (.readPolicy p) (s.goto p (.policyRead policyId policy))
  | setPolicy {s : AuthState ι} {p : ι} {policyId : String} {policy : ManagementPolicy} :
      s.phase p = .policyRead policyId policy →
      AuthStep s (.setPolicy p)
        ({ s with cache := s.cache.setPolicy policyId policy }.goto p .idle)
  | change {s : AuthState ι} {p : ι} {made : AuthChange} :
      s.phase p = .idle ∨ s.phase p = .changed →
      AuthStep s (.change p made) ({ s with db := made.apply s.db }.goto p .changed)
  | clear {s : AuthState ι} {p : ι} :
      s.phase p = .changed →
      AuthStep s (.clear p) ({ s with cache := s.cache.clear }.goto p .idle)
  | moveUsage {s : AuthState ι} {dbPrefix fromId toId id : String} :
      AuthStep s (.moveUsage dbPrefix fromId toId id)
        { s with db := movePolicyUsage s.db dbPrefix fromId toId id }

/-! ## The condition on a step -/

/-- Some request has changed a role or a policy and not yet cleared the cache. -/
def AuthState.ClearPending (s : AuthState ι) : Prop :=
  ∃ p, s.phase p = .changed

/-- A policy record that is in the cache or that a request is about to put there. -/
def AuthState.HoldsPolicy (s : AuthState ι) (policyId : String) (policy : ManagementPolicy) :
    Prop :=
  s.cache.getPolicy policyId = some policy ∨ ∃ p, s.phase p = .policyRead policyId policy

/-- The condition on the state before a step: a `Clear` leaves no request behind that holds
roles or a policy the database no longer has, and a `MoveUsage` changes no policy that is
cached or about to be, unless another `Clear` is still to come. -/
def AuthOrderly (s : AuthState ι) : AuthAction ι → Prop
  | .clear p =>
      (∃ q, q ≠ p ∧ s.phase q = .changed) ∨
        (∀ q userId roles found, s.phase q = .rolesRead userId roles found →
          rolesOf s.db userId = roles) ∧
        ∀ q policyId policy, s.phase q = .policyRead policyId policy →
          s.db.policyDB.get? policyId = some policy
  | .moveUsage dbPrefix fromId toId id =>
      s.ClearPending ∨ ∀ policyId policy, s.HoldsPolicy policyId policy →
        s.db.policyDB.get? policyId = some policy →
        (movePolicyUsage s.db dbPrefix fromId toId id).policyDB.get? policyId = some policy
  | _ => True

/-- A run all of whose steps meet the condition. -/
inductive AuthOrderlyRun : AuthState ι → AuthState ι → Prop where
  | nil {s : AuthState ι} : AuthOrderlyRun s s
  | snoc {s t t' : AuthState ι} {action : AuthAction ι} :
      AuthOrderlyRun s t → AuthOrderly t action → AuthStep t action t' → AuthOrderlyRun s t'

/-- A run of steps in any order. -/
inductive AuthRun : AuthState ι → AuthState ι → Prop where
  | nil {s : AuthState ι} : AuthRun s s
  | snoc {s t t' : AuthState ι} {action : AuthAction ι} :
      AuthRun s t → AuthStep t action t' → AuthRun s t'

/-! ## The run as a run of the generic cache -/

/-- What a lookup finds in the database: the roles of a user, when there are some, or a
policy record. -/
def authQuery (db : Store) : String ⊕ String → Option (List ManagementRole ⊕ ManagementPolicy)
  | .inl userId => if rolesOf db userId = [] then none else some (.inl (rolesOf db userId))
  | .inr policyId => (db.policyDB.get? policyId).map .inr

theorem eq_rolesOf_of_authQuery {db : Store} {userId : String} {roles : List ManagementRole}
    (found : authQuery db (.inl userId) = some (.inl roles)) : roles = rolesOf db userId := by
  simp only [authQuery] at found
  by_cases none : rolesOf db userId = []
  · rw [if_pos none] at found
    cases found
  · rw [if_neg none] at found
    cases found
    rfl

def RequestPhase.toGeneric :
    RequestPhase → FillCache.Phase (String ⊕ String) (List ManagementRole ⊕ ManagementPolicy)
  | .idle => .idle
  | .rolesMissed userId => .missed (.inl userId)
  | .rolesRead userId roles _ => .fetched (.inl userId) (.inl roles)
  | .policyMissed policyId => .missed (.inr policyId)
  | .policyRead policyId policy => .fetched (.inr policyId) (.inr policy)
  | .changed => .wrote

def AuthCache.toGeneric (cache : AuthCache) :
    String ⊕ String → Option (List ManagementRole ⊕ ManagementPolicy)
  | .inl userId => (cache.getUserRoles userId).map .inl
  | .inr policyId => (cache.getPolicy policyId).map .inr

def AuthState.toGeneric (s : AuthState ι) :
    FillCache.State Store (String ⊕ String) (List ManagementRole ⊕ ManagementPolicy) ι where
  db := s.db
  cache := s.cache.toGeneric
  phase p := (s.phase p).toGeneric

/-- The step of the generic cache that an atomic step is. -/
def AuthAction.toGeneric (s : AuthState ι) : AuthAction ι →
    FillCache.Action Store (String ⊕ String) ι
  | .getUserRoles p userId => .lookup p (.inl userId)
  | .iterateRoles p => .fetch p
  | .setUserRoles p => .fill p
  | .getPolicy p policyId => .lookup p (.inr policyId)
  | .readPolicy p => .fetch p
  | .setPolicy p => .fill p
  | .change p made => .write p (made.apply s.db)
  | .clear p => .clear p
  | .moveUsage dbPrefix fromId toId id => .quietWrite (movePolicyUsage s.db dbPrefix fromId toId id)

theorem RequestPhase.toGeneric_eq_wrote {phase : RequestPhase} :
    phase.toGeneric = .wrote ↔ phase = .changed := by
  cases phase <;> simp [RequestPhase.toGeneric]

theorem AuthState.goto_toGeneric (s : AuthState ι) (p : ι) (now : RequestPhase) :
    (s.goto p now).toGeneric =
      { s.toGeneric with phase := Function.update s.toGeneric.phase p now.toGeneric } := by
  unfold AuthState.goto AuthState.toGeneric
  congr 1
  funext q
  by_cases same : q = p
  · subst same
    simp
  · simp [Function.update_of_ne same]

theorem AuthCache.setUserRoles_toGeneric (cache : AuthCache) (userId : String)
    {roles : List ManagementRole} (found : roles ≠ []) :
    (cache.setUserRoles userId roles).toGeneric =
      Function.update cache.toGeneric (.inl userId) (some (.inl roles)) := by
  funext k
  cases k with
  | inl other =>
      by_cases same : other = userId
      · subst same
        simp [AuthCache.toGeneric, AuthCache.getUserRoles, AuthCache.setUserRoles, found]
      · simp [AuthCache.toGeneric, AuthCache.getUserRoles, AuthCache.setUserRoles, same]
  | inr policyId => simp [AuthCache.toGeneric, AuthCache.getPolicy, AuthCache.setUserRoles]

theorem AuthCache.setPolicy_toGeneric (cache : AuthCache) (policyId : String)
    (policy : ManagementPolicy) :
    (cache.setPolicy policyId policy).toGeneric =
      Function.update cache.toGeneric (.inr policyId) (some (.inr policy)) := by
  funext k
  cases k with
  | inl userId => simp [AuthCache.toGeneric, AuthCache.getUserRoles, AuthCache.setPolicy]
  | inr other =>
      by_cases same : other = policyId
      · subst same
        simp [AuthCache.toGeneric, AuthCache.getPolicy, AuthCache.setPolicy]
      · simp [AuthCache.toGeneric, AuthCache.getPolicy, AuthCache.setPolicy, same]

/-- Every atomic step is a step of the generic cache. -/
theorem AuthStep.toGeneric {s s' : AuthState ι} {action : AuthAction ι}
    (step : AuthStep s action s') :
    FillCache.Step authQuery s.toGeneric (action.toGeneric s) s'.toGeneric := by
  cases step with
  | rolesHit isIdle cached =>
      exact .hit (by simp [AuthState.toGeneric, isIdle, RequestPhase.toGeneric])
        (by simp only [AuthState.toGeneric, AuthCache.toGeneric, cached]; rfl)
  | rolesMiss isIdle missing =>
      rw [AuthState.goto_toGeneric]
      exact .miss (by simp [AuthState.toGeneric, isIdle, RequestPhase.toGeneric])
        (by simp [AuthState.toGeneric, AuthCache.toGeneric, missing])
  | iterateNone missed none =>
      rw [AuthState.goto_toGeneric]
      exact .fetchNone (by simp only [AuthState.toGeneric, missed]; rfl)
        (by simp [AuthState.toGeneric, authQuery, none])
  | iterateSome found missed =>
      rw [AuthState.goto_toGeneric]
      exact .fetchSome (by simp only [AuthState.toGeneric, missed]; rfl)
        (by simp [AuthState.toGeneric, authQuery, found])
  | @setUserRoles p userId roles found read =>
      rw [AuthState.goto_toGeneric]
      have fetched : s.toGeneric.phase p = .fetched (.inl userId) (.inl roles) := by
        simp only [AuthState.toGeneric, read]
        rfl
      simp only [AuthState.toGeneric, AuthCache.setUserRoles_toGeneric _ _ found]
      exact .fill fetched
  | policyHit isIdle cached =>
      exact .hit (by simp [AuthState.toGeneric, isIdle, RequestPhase.toGeneric])
        (by simp only [AuthState.toGeneric, AuthCache.toGeneric, cached]; rfl)
  | policyMiss isIdle missing =>
      rw [AuthState.goto_toGeneric]
      exact .miss (by simp [AuthState.toGeneric, isIdle, RequestPhase.toGeneric])
        (by simp [AuthState.toGeneric, AuthCache.toGeneric, missing])
  | readNone missed none =>
      rw [AuthState.goto_toGeneric]
      exact .fetchNone (by simp only [AuthState.toGeneric, missed]; rfl)
        (by simp [AuthState.toGeneric, authQuery, none])
  | readSome missed found =>
      rw [AuthState.goto_toGeneric]
      exact .fetchSome (by simp only [AuthState.toGeneric, missed]; rfl)
        (by simp [AuthState.toGeneric, authQuery, found])
  | @setPolicy p policyId policy read =>
      rw [AuthState.goto_toGeneric]
      have fetched : s.toGeneric.phase p = .fetched (.inr policyId) (.inr policy) := by
        simp only [AuthState.toGeneric, read]
        rfl
      simp only [AuthState.toGeneric, AuthCache.setPolicy_toGeneric]
      exact .fill fetched
  | @change p made ready =>
      rw [AuthState.goto_toGeneric]
      have able : s.toGeneric.phase p = .idle ∨ s.toGeneric.phase p = .wrote := by
        rcases ready with ready | ready
        · exact Or.inl (by simp [AuthState.toGeneric, ready, RequestPhase.toGeneric])
        · exact Or.inr (by simp [AuthState.toGeneric, ready, RequestPhase.toGeneric])
      exact .write able
  | @clear p changed =>
      rw [AuthState.goto_toGeneric]
      have wrote : s.toGeneric.phase p = .wrote := by
        simp [AuthState.toGeneric, changed, RequestPhase.toGeneric]
      have empty : s.cache.clear.toGeneric = fun _ => none := by
        funext k
        cases k <;> rfl
      simp only [AuthState.toGeneric, empty]
      exact .clear wrote
  | moveUsage => exact .quietWrite

omit [DecidableEq ι] in
/-- The condition on a step is the condition on the step of the generic cache. -/
theorem AuthOrderly.toGeneric {s : AuthState ι} {action : AuthAction ι}
    (orderly : AuthOrderly s action) :
    FillCache.Orderly authQuery s.toGeneric (action.toGeneric s) := by
  cases action with
  | clear p =>
      rcases orderly with ⟨q, differ, pending⟩ | ⟨roles, policies⟩
      · exact Or.inl ⟨q, differ, RequestPhase.toGeneric_eq_wrote.mpr pending⟩
      · refine Or.inr fun q k value fetched => ?_
        change (s.phase q).toGeneric = .fetched k value at fetched
        cases phase : s.phase q with
        | rolesRead userId read found =>
            rw [phase] at fetched
            cases fetched
            have current := roles q userId read found phase
            simp [AuthState.toGeneric, authQuery, current, found]
        | policyRead policyId policy =>
            rw [phase] at fetched
            cases fetched
            simp [AuthState.toGeneric, authQuery, policies q policyId policy phase]
        | idle | rolesMissed | policyMissed | changed =>
            rw [phase] at fetched
            cases fetched
  | moveUsage dbPrefix fromId toId id =>
      rcases orderly with ⟨p, pending⟩ | spared
      · exact Or.inl ⟨p, RequestPhase.toGeneric_eq_wrote.mpr pending⟩
      · refine Or.inr fun k value held current => ?_
        cases k with
        | inl userId => exact current
        | inr policyId =>
            obtain ⟨policy, now, rfl⟩ := Option.map_eq_some_iff.mp current
            have holds : s.HoldsPolicy policyId policy := by
              rcases held with cached | ⟨q, fetched⟩
              · obtain ⟨same, cachedPolicy, equal⟩ := Option.map_eq_some_iff.mp cached
                cases equal
                exact Or.inl cachedPolicy
              · change (s.phase q).toGeneric = _ at fetched
                cases phase : s.phase q with
                | policyRead policyId' policy' =>
                    rw [phase] at fetched
                    cases fetched
                    exact Or.inr ⟨q, phase⟩
                | idle | rolesMissed | policyMissed | changed | rolesRead =>
                    rw [phase] at fetched
                    cases fetched
            exact Option.map_eq_some_iff.mpr ⟨policy, spared policyId policy holds now, rfl⟩
  | getUserRoles | iterateRoles | setUserRoles | getPolicy | readPolicy | setPolicy | change =>
      exact trivial

theorem AuthOrderlyRun.toGeneric {s s' : AuthState ι} (run : AuthOrderlyRun s s') :
    FillCache.OrderlyRun authQuery s.toGeneric s'.toGeneric := by
  induction run with
  | nil => exact .nil
  | snoc _ orderly step ih => exact .snoc ih orderly.toGeneric step.toGeneric

/-! ## Coherence -/

/-- An empty cache and no request in progress. -/
def AuthState.initial (db : Store) : AuthState ι where
  db := db
  cache := {}
  phase _ := .idle

/-- No request is in progress. -/
def AuthState.Quiescent (s : AuthState ι) : Prop :=
  ∀ p, s.phase p = .idle

/-- Every roles list and every policy record in the cache is what the database holds. -/
def AuthState.Coherent (s : AuthState ι) : Prop :=
  (∀ userId roles, s.cache.users userId = some roles → roles = rolesOf s.db userId) ∧
    ∀ policyId policy, s.cache.policies policyId = some policy →
      s.db.policyDB.get? policyId = some policy

/-- `SetUserRoles` is never called with an empty list. -/
def AuthState.NoEmptyRoles (s : AuthState ι) : Prop :=
  ∀ userId, s.cache.users userId ≠ some []

theorem AuthState.NoEmptyRoles.step {s s' : AuthState ι} {action : AuthAction ι}
    (noEmpty : s.NoEmptyRoles) (step : AuthStep s action s') : s'.NoEmptyRoles := by
  cases step with
  | @setUserRoles p userId roles found _ =>
      intro other
      by_cases same : other = userId
      · subst same
        simpa [AuthState.goto, AuthCache.setUserRoles] using found
      · simpa [AuthState.goto, AuthCache.setUserRoles, same] using noEmpty other
  | clear => exact fun userId empty => by cases empty
  | rolesHit | rolesMiss | iterateNone | iterateSome | policyHit | policyMiss | readNone
    | readSome | setPolicy | change | moveUsage => exact noEmpty

theorem AuthOrderlyRun.noEmptyRoles {s s' : AuthState ι} (run : AuthOrderlyRun s s')
    (noEmpty : s.NoEmptyRoles) : s'.NoEmptyRoles := by
  induction run with
  | nil => exact noEmpty
  | snoc _ _ step ih => exact ih.step step

/-- In a state of an orderly run in which no request is in progress the cache agrees with
the database. -/
theorem coherent_of_orderlyRun {db : Store} {s : AuthState ι}
    (run : AuthOrderlyRun (AuthState.initial db) s) (quiescent : s.Quiescent) : s.Coherent := by
  have start : FillCache.Current authQuery (AuthState.initial db : AuthState ι).toGeneric := by
    refine Or.inr fun k value held => ?_
    rcases held with cached | ⟨p, fetched⟩
    · cases k <;> cases cached
    · cases fetched
  have generic : FillCache.Coherent authQuery s.toGeneric :=
    (run.toGeneric.current start).coherent fun p => by
      simp [AuthState.toGeneric, quiescent p, RequestPhase.toGeneric]
  have noEmpty := run.noEmptyRoles fun userId empty => by cases empty
  constructor
  · intro userId roles cached
    have found : roles ≠ [] := fun empty => noEmpty userId (empty ▸ cached)
    have current := generic (.inl userId) (.inl roles)
      (by simp [AuthState.toGeneric, AuthCache.toGeneric, AuthCache.getUserRoles, cached, found])
    exact eq_rolesOf_of_authQuery current
  · intro policyId policy cached
    have current := generic (.inr policyId) (.inr policy)
      (by simp [AuthState.toGeneric, AuthCache.toGeneric, AuthCache.getPolicy, cached])
    obtain ⟨same, found, equal⟩ := Option.map_eq_some_iff.mp current
    cases equal
    exact found

/-! ## The window between a read and the cache -/

/-- A role of the user `u-1`. -/
def sampleRole : ManagementRole where
  info := { id := "role-1" }
  managementPolicy := "policy-1"
  users := ["u-1"]
  entity := "e-1"

/-- A database whose only role is `sampleRole`. -/
def sampleRoleStore : Store where
  entityDB := initialStore.entityDB
  rolesDB := .singleton sampleRole

/-- The reader (`true`) reads the roles before the writer (`false`) deletes them, and stores
what it read after the writer has cleared the cache. -/
theorem stale_roles_after_clear :
    ∃ s : AuthState Bool, AuthRun (AuthState.initial sampleRoleStore) s ∧ s.Quiescent ∧
      s.cache.users "u-1" = some [sampleRole] ∧ rolesOf s.db "u-1" = [] := by
  let read : AuthState Bool := AuthState.initial sampleRoleStore
  have found : rolesOf sampleRoleStore "u-1" ≠ [] := by decide
  let missed := read.goto true (.rolesMissed "u-1")
  let fetched := missed.goto true (.rolesRead "u-1" (rolesOf sampleRoleStore "u-1") found)
  let deletion : AuthChange := .deleteRole "role-1"
  let deleted := { fetched with db := deletion.apply sampleRoleStore }.goto false .changed
  let cleared := { deleted with cache := deleted.cache.clear }.goto false .idle
  let filled :=
    { cleared with
      cache := cleared.cache.setUserRoles "u-1" (rolesOf sampleRoleStore "u-1") }.goto true .idle
  have miss : AuthStep read (.getUserRoles true "u-1") missed := .rolesMiss rfl rfl
  have iterate : AuthStep missed (.iterateRoles true) fetched := .iterateSome found rfl
  have change : AuthStep fetched (.change false deletion) deleted := .change (Or.inl rfl)
  have clear : AuthStep deleted (.clear false) cleared := .clear rfl
  have fill : AuthStep cleared (.setUserRoles true) filled := .setUserRoles rfl
  have run := ((((AuthRun.nil.snoc miss).snoc iterate).snoc change).snoc clear).snoc fill
  refine ⟨filled, run, ?_, ?_, ?_⟩
  · intro p
    cases p <;> rfl
  · have roles : rolesOf sampleRoleStore "u-1" = [sampleRole] := by decide
    simp [filled, AuthState.goto, AuthCache.setUserRoles, roles]
  · have none : rolesOf (deletion.apply sampleRoleStore) "u-1" = [] := by decide
    exact none

/-- A reader that is alone fills the cache with what the database holds. -/
theorem coherent_of_orderlyRun_reader :
    ∃ s : AuthState Unit, s.cache.users "u-1" = some [sampleRole] ∧ s.Coherent := by
  let start : AuthState Unit := AuthState.initial sampleRoleStore
  have found : rolesOf sampleRoleStore "u-1" ≠ [] := by decide
  let missed := start.goto () (.rolesMissed "u-1")
  let fetched := missed.goto () (.rolesRead "u-1" (rolesOf sampleRoleStore "u-1") found)
  let filled :=
    { fetched with
      cache := fetched.cache.setUserRoles "u-1" (rolesOf sampleRoleStore "u-1") }.goto () .idle
  have miss : AuthStep start (.getUserRoles () "u-1") missed := .rolesMiss rfl rfl
  have iterate : AuthStep missed (.iterateRoles ()) fetched := .iterateSome found rfl
  have fill : AuthStep fetched (.setUserRoles ()) filled := .setUserRoles rfl
  have run : AuthOrderlyRun start filled :=
    ((AuthOrderlyRun.nil.snoc (by trivial) miss).snoc (by trivial) iterate).snoc (by trivial) fill
  refine ⟨filled, ?_, coherent_of_orderlyRun run fun p => by cases p; rfl⟩
  have roles : rolesOf sampleRoleStore "u-1" = [sampleRole] := by decide
  simp [filled, AuthState.goto, AuthCache.setUserRoles, roles]

end Owprov
