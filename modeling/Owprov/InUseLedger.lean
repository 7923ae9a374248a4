import Owprov.InUse
import Owprov.LiveScopes

/-!
# Runs keep the ledgers exact

Every handler that creates, updates or deletes a record moves the usages of the record.  The
module follows the ledgers through runs of role, policy, entity, venue, inventory, location,
contact and configuration requests, and says which requests leave them wrong.
-/

namespace Owprov

open RowTable ForeignKeys UsageLedger Runs

/-- The new ids name no record of the tables below either, and nothing refers to them. -/
structure Context.Unseen (ctx : Context) (db : Store) : Prop extends ctx.Fresh db where
  policy : ∀ i, db.policyDB.get? (ctx.newId i) = none
  contact : ∀ i, db.contactDB.get? (ctx.newId i) = none
  configuration : ∀ i, db.configurationDB.get? (ctx.newId i) = none
  inventory : ∀ i, db.inventoryDB.get? (ctx.newId i) = none
  unreferenced : ∀ i user kind, ctx.newId i ∉ uses db user kind

/-! ## Records that come, change and go -/

section Transitions

variable {ctx : Context} {db db' : Store}

theorem ExactLedgers.congr (exact : ExactLedgers db) (usesEq : uses db' = uses db)
    (ledgersEq : ledgers db' = ledgers db) : ExactLedgers db' := by
  unfold ExactLedgers
  rw [usesEq, ledgersEq]
  exact exact

/-- Bookkeeping on other lists changes neither references nor ledgers. -/
theorem ExactLedgers.of_sameReferences (exact : ExactLedgers db) (same : SameReferences db db')
    (ledgersEq : ledgers db' = ledgers db) : ExactLedgers db' :=
  exact.congr same.uses_eq ledgersEq

/-- A user changes its references to records that exist in no way. -/
theorem LedgersAgree.rename {before : Uses User Referable String}
    (agree : LedgersAgree before (ledgers db)) {user : User} {new : Referable → List String}
    (kept : ∀ kind id, (ledgers db kind id).isSome → (id ∈ new kind ↔ id ∈ before user kind))
    (noEntity : user.table ≠ .entity) (usesEq : uses db' = Function.update before user new)
    (ledgersEq : ledgers db' = ledgers db) : ExactLedgers db' := by
  unfold ExactLedgers
  rw [usesEq, ledgersEq]
  refine ⟨agree.exact.rename user new kept, fun id => ?_⟩
  have apart : (⟨.entity, id⟩ : User) ≠ user := by
    rintro rfl
    exact noEntity rfl
  rw [Function.update_of_ne apart]
  exact agree.bare id

/-- The ledger of a record that nothing refers to is opened without users. -/
theorem LedgersAgree.openLedger {before : Uses User Referable String}
    (agree : LedgersAgree before (ledgers db)) (kind : Referable) (id : String)
    {list : Multiset String}
    (unreferenced : ∀ user, id ∉ before user kind) (vacant : ∀ user : User, user.entry ∉ list)
    (opened : ledgers db' = Function.update (ledgers db) kind
      (Function.update (ledgers db kind) id (some list))) :
    LedgersAgree before (ledgers db') := by
  rw [opened]
  exact ⟨agree.exact.openLedger unreferenced vacant, agree.bare⟩

/-- The ledger of a record that is deleted is closed. -/
theorem LedgersAgree.closeLedger {before : Uses User Referable String}
    (agree : LedgersAgree before (ledgers db)) (kind : Referable) (id : String)
    (closed : ledgers db' = Function.update (ledgers db) kind
      (Function.update (ledgers db kind) id none)) :
    LedgersAgree before (ledgers db') := by
  rw [closed]
  exact ⟨agree.exact.closeLedger kind id, agree.bare⟩

/-- A record is struck off ledgers, and refers to the other records from then on. -/
theorem LedgersAgree.strike {before : Uses User Referable String}
    (agree : LedgersAgree before (ledgers db)) (user : User) (objects : Referable → List String)
    (struck : ∀ kind, ledgers db' kind =
      UsageLedger.follow (ledgers db kind) (objects kind) [] user.entry) :
    LedgersAgree (Function.update before user fun kind =>
      (before user kind).filter fun id => id ∉ objects kind) (ledgers db') := by
  have ledgersEq : ledgers db' = fun kind =>
      strikeAll (ledgers db kind) (objects kind) user.entry := by
    funext kind
    rw [struck, UsageLedger.follow]
    split
    · rename_i none
      rw [none]
      rfl
    · rfl
  rw [ledgersEq]
  refine ⟨agree.exact.strike User.entry_injective user objects, fun id => ?_⟩
  by_cases same : (⟨.entity, id⟩ : User) = user
  · subst same
    rw [Function.update_self, agree.bare id]
    rfl
  · rw [Function.update_of_ne same]
    exact agree.bare id

/-- The policy of a record that refers to nothing else moves. -/
theorem LedgersAgree.followPolicy {before : Uses User Referable String}
    (agree : LedgersAgree before (ledgers db)) (table : UserTable) (id : String)
    {old new fromId toId : String} (wasOld : before ⟨table, id⟩ = policyReference old)
    (moves : Moves old new fromId toId)
    (usesEq : uses db' = Function.update before ⟨table, id⟩ (policyReference new))
    (followed : ∀ kind, ledgers db' kind = UsageLedger.follow (ledgers db kind)
      (policyReference fromId kind) (policyReference toId kind) (User.entry ⟨table, id⟩)) :
    ExactLedgers db' := by
  refine agree.follow ⟨table, id⟩ (policyReference new) (policyReference fromId)
    (policyReference toId) ?_ (fun _ => rfl) usesEq followed
  intro kind
  rw [wasOld]
  cases kind with
  | policy => exact follows_of_moves moves
  | location => exact Or.inl ⟨rfl, rfl⟩
  | contact => exact Or.inl ⟨rfl, rfl⟩
  | configuration => exact Or.inl ⟨rfl, rfl⟩

theorem policyReference_empty : policyReference "" = fun _ => [] := by
  funext kind
  cases kind <;> rfl

theorem moves_arrival (new : String) : Moves "" new "" new := Or.inr ⟨rfl, rfl⟩

theorem moves_departure (old : String) : Moves old "" old "" := Or.inr ⟨rfl, rfl⟩

/-- The record a request names by its id. -/
theorem boundRecord_uuid {α : Type} [Keyed α String] {table : Table α} {request : Request}
    {existing : α} (bound : boundRecord table request = .ok existing) :
    table.get? (request.getBinding "uuid") = some existing := by
  simp only [boundRecord, bind_eq_ok_iff, require_eq_ok_iff] at bound
  obtain ⟨_, _, bound⟩ := bound
  split at bound
  · cases bound
  · rename_i found
    obtain rfl := Except.ok.inj bound
    exact found

theorem boundRecord_eq_ok {α : Type} [Keyed α String] {table : Table α} {request : Request}
    {existing : α} (bound : boundRecord table request = .ok existing) :
    table.get? (key existing) = some existing :=
  Table.get?_key_of_mem (Table.mem_of_get? (boundRecord_uuid bound))

end Transitions

/-! ## Policies -/

section Policies

variable {ctx : Context} {db : Store}

theorem policyDoPostPlan_eq_ok {request : Request} {policy : ManagementPolicy}
    (planned : policyDoPostPlan ctx db request = .ok policy) :
    policy.info.id = ctx.newId 0 ∧ policy.inUse = [] := by
  simp only [policyDoPostPlan, bind_eq_ok_iff, require_eq_ok_iff] at planned
  obtain ⟨_, _, _, _, body, _, newObject, _, info, created, _, _, _, _, planned⟩ := planned
  obtain rfl := Except.ok.inj planned
  exact ⟨createObjectInfo_eq_ok created, rfl⟩

theorem ExactLedgers.policyDoPost (exact : ExactLedgers db) (unseen : ctx.Unseen db)
    (request : Request) : ExactLedgers (policyDoPost ctx db request).store := by
  unfold Owprov.policyDoPost
  split
  · exact exact
  · rename_i policy planned
    obtain ⟨id, unused⟩ := policyDoPostPlan_eq_ok planned
    split
    · exact exact
    · rename_i policyDB inserted
      rw [Outcome.store_done]
      have opened : LedgersAgree (uses db) (ledgers { db with policyDB := policyDB }) := by
        refine LedgersAgree.openLedger exact .policy policy.info.id ?_
          (fun _ => Multiset.notMem_zero _) ?_
        · intro user
          rw [id]
          exact unseen.unreferenced 0 user .policy
        · rw [ledgers_policyDB, memberships_insert? inserted,
            show ManagementPolicy.inUseMember.get policy = [] from unused]
          rfl
      exact opened

theorem policyDoPutPlan_eq_ok {request : Request} {updated : ManagementPolicy}
    (planned : policyDoPutPlan ctx db request = .ok updated) :
    ∃ existing, db.policyDB.get? (key updated) = some existing ∧
      updated.inUse = existing.inUse := by
  simp only [policyDoPutPlan, bind_eq_ok_iff] at planned
  obtain ⟨_, _, existing, bound, body, _, newPolicy, _, info, updatedInfo, planned⟩ := planned
  obtain ⟨entity, _, venue, _, planned⟩ := planned
  obtain rfl := Except.ok.inj planned
  have sameId : info.id = existing.info.id := updateObjectInfo_eq_ok updatedInfo
  refine ⟨existing, ?_, rfl⟩
  show db.policyDB.get? info.id = some existing
  rw [sameId]
  exact boundRecord_eq_ok bound

theorem ExactLedgers.policyDoPut (exact : ExactLedgers db) (request : Request) :
    ExactLedgers (policyDoPut ctx db request).store := by
  unfold Owprov.policyDoPut
  split
  · exact exact
  · rename_i updated planned
    obtain ⟨existing, found, sameUsers⟩ := policyDoPutPlan_eq_ok planned
    have kept : Table.SameView ManagementPolicy.inUseMember.get db.policyDB
        (db.policyDB.update updated) := .update found sameUsers
    refine exact.congr rfl ?_
    rw [Outcome.store_done, ledgers_policyDB, memberships_congr kept]
    exact Function.update_eq_self _ _

theorem ExactLedgers.policyDoDelete (exact : ExactLedgers db) (request : Request) :
    ExactLedgers (policyDoDelete ctx db request).store := by
  unfold Owprov.policyDoDelete
  split
  · exact exact
  · rename_i existing _
    rw [Outcome.store_done]
    have closed : LedgersAgree (uses db)
        (ledgers { db with policyDB := db.policyDB.delete existing.info.id }) := by
      refine LedgersAgree.closeLedger exact .policy existing.info.id ?_
      rw [ledgers_policyDB, memberships_delete]
      rfl
    exact closed

end Policies

/-! ## Locations, contacts and configurations -/

section Referables

variable {ctx : Context} {db db' : Store}

/-- A policy that does not exist has no ledger. -/
theorem notMem_policyReference {managementPolicy : String}
    (missing : idExists db.policyDB managementPolicy = false) {kind : Referable} {id : String}
    (there : (ledgers db kind id).isSome) : id ∉ policyReference managementPolicy kind := by
  cases kind with
  | policy =>
      intro member
      obtain ⟨rfl, _⟩ := mem_singleReference.mp member
      have found : idExists db.policyDB managementPolicy = true := by
        have same : (memberships db.policyDB ManagementPolicy.inUseMember managementPolicy).isSome =
            idExists db.policyDB managementPolicy := isSome_memberships
        rw [← same]
        exact there
      rw [missing] at found
      cases found
  | location => exact List.not_mem_nil
  | contact => exact List.not_mem_nil
  | configuration => exact List.not_mem_nil

/-- A record that others may refer to is stored with a policy. -/
theorem ExactLedgers.create (exact : ExactLedgers db) {stored : Store} (table : UserTable)
    (id : String) (kind : Referable) {managementPolicy : String}
    (missing : uses db ⟨table, id⟩ = fun _ => []) (unreferenced : ∀ user, id ∉ uses db user kind)
    (opened : ledgers stored = Function.update (ledgers db) kind
      (Function.update (ledgers db kind) id (some 0)))
    (usesEq : uses db' = Function.update (uses db) ⟨table, id⟩ (policyReference managementPolicy))
    (followed : ∀ kind, ledgers db' kind = UsageLedger.follow (ledgers stored kind)
      (policyReference "" kind) (policyReference managementPolicy kind)
      (User.entry ⟨table, id⟩)) : ExactLedgers db' :=
  (LedgersAgree.openLedger exact kind id unreferenced (fun _ => Multiset.notMem_zero _)
    opened).followPolicy table id (missing.trans policyReference_empty.symm)
      (moves_arrival managementPolicy) usesEq followed

/-- The users of a record that is updated stay. -/
theorem ExactLedgers.updatePolicy (exact : ExactLedgers db) {stored : Store} (table : UserTable)
    (id : String) {old new fromId toId : String} (kept : ledgers stored = ledgers db)
    (wasOld : uses db ⟨table, id⟩ = policyReference old) (moves : Moves old new fromId toId)
    (usesEq : uses db' = Function.update (uses db) ⟨table, id⟩ (policyReference new))
    (followed : ∀ kind, ledgers db' kind = UsageLedger.follow (ledgers stored kind)
      (policyReference fromId kind) (policyReference toId kind) (User.entry ⟨table, id⟩)) :
    ExactLedgers db' := by
  have agree : LedgersAgree (uses db) (ledgers stored) := by
    rw [kept]
    exact exact
  exact agree.followPolicy table id wasOld moves usesEq followed

/-- A record is deleted, and its policy does not exist, whatever policy is told. -/
theorem ExactLedgers.deleteMisdirected (exact : ExactLedgers db) (table : UserTable) (id : String)
    (kind : Referable) {managementPolicy : String} (fromId : String) (noEntity : table ≠ .entity)
    (refers : uses db ⟨table, id⟩ = policyReference managementPolicy)
    (missing : idExists db'.policyDB managementPolicy = false)
    (usesEq : uses db' = Function.update (uses db) ⟨table, id⟩ fun _ => [])
    (closed : ledgers db' = Function.update (ledgers db) kind
      (Function.update (ledgers db kind) id none)) :
    ExactLedgers (movePolicyUsage db' table.dbPrefix fromId "" id) := by
  have removed : ExactLedgers db' := by
    refine (LedgersAgree.closeLedger exact kind id closed).rename ?_ noEntity usesEq rfl
    intro other ref there
    rw [refers]
    exact iff_of_false List.not_mem_nil (notMem_policyReference missing there)
  have gone : uses db' ⟨table, id⟩ = fun _ => [] := by
    rw [usesEq, Function.update_self]
  have struck := LedgersAgree.strike removed ⟨table, id⟩ (policyReference fromId) (fun other => by
    rw [ledgers_movePolicyUsage db' table fromId "" id, policyReference_empty])
  unfold ExactLedgers
  rw [uses_movePolicyUsage]
  rw [gone] at struck
  have unchanged : Function.update (uses db') ⟨table, id⟩ (fun _ => []) = uses db' := by
    rw [← gone]
    exact Function.update_eq_self _ _
  exact unchanged ▸ struck

/-! ### Locations -/

/-- A record is stored with no users and with a policy that does not exist. -/
theorem ExactLedgers.storeUnused (exact : ExactLedgers db) (table : UserTable) (id : String)
    (kind : Referable) {managementPolicy : String} {inUse : List String}
    (noEntity : table ≠ .entity) (missing : uses db ⟨table, id⟩ = fun _ => [])
    (unreferenced : ∀ user, id ∉ uses db user kind)
    (unused : idExists db'.policyDB managementPolicy = false ∧ ∀ user : User, user.entry ∉ inUse)
    (usesEq : uses db' = Function.update (uses db) ⟨table, id⟩ (policyReference managementPolicy))
    (opened : ledgers db' = Function.update (ledgers db) kind
      (Function.update (ledgers db kind) id (some inUse))) : ExactLedgers db' := by
  have agree : LedgersAgree (uses db) (ledgers db') :=
    LedgersAgree.openLedger exact kind id unreferenced
      (fun user => Multiset.mem_coe.not.mpr (unused.2 user)) opened
  refine agree.rename (fun other ref there => ?_) noEntity usesEq rfl
  rw [missing]
  exact iff_of_false (notMem_policyReference unused.1 there) List.not_mem_nil

/-- A location is written, and lists of locations are. -/
theorem uses_writeLocation {locationDB : Table Location} {entityDB : Table Entity} {id : String}
    {references : Referable → List String}
    (written : usesOf locationDB Location.references =
      Function.update (usesOf db.locationDB Location.references) id references)
    (listed : Table.SameView Entity.references db.entityDB entityDB) :
    uses { db with locationDB := locationDB, entityDB := entityDB } =
      Function.update (uses db) ⟨.location, id⟩ references := by
  have lists : SameReferences { db with locationDB := locationDB }
      { db with locationDB := locationDB, entityDB := entityDB } := { entities := listed }
  exact lists.uses_eq.trans (uses_locationDB written)

theorem locationDoPostPlan_eq_ok {request : Request} {location : Location}
    (planned : locationDoPostPlan ctx db request = .ok location) :
    location.info.id = ctx.newId 0 ∧ location.inUse = [] := by
  simp only [locationDoPostPlan, bind_eq_ok_iff, require_eq_ok_iff] at planned
  obtain ⟨_, _, body, _, timezone, _, newObject, _, info, created, _, _, _, _, planned⟩ := planned
  obtain rfl := Except.ok.inj planned
  exact ⟨createObjectInfo_eq_ok created, rfl⟩

theorem ExactLedgers.locationDoPost (exact : ExactLedgers db) (unseen : ctx.Unseen db)
    (request : Request) : ExactLedgers (locationDoPost ctx db request).store := by
  unfold Owprov.locationDoPost
  split
  · exact exact
  · rename_i location planned
    obtain ⟨id, unused⟩ := locationDoPostPlan_eq_ok planned
    split
    · exact exact
    · rename_i locationDB inserted
      have fresh : db.locationDB.get? location.info.id = none := Table.get?_key_of_insert? inserted
      rw [Outcome.store_done]
      refine exact.create .location location.info.id .location (usesOf_of_missing fresh) ?_ ?_
        ((uses_movePolicyUsage _ _ _ _ _).trans (uses_writeLocation (usesOf_insert? inserted)
          (sameView_addMembership (fun _ _ => rfl) _ _)))
        (ledgers_movePolicyUsage _ .location _ _ _)
      · intro user
        rw [id]
        exact unseen.unreferenced 0 user .location
      · refine (ledgers_locationDB db locationDB).trans ?_
        rw [memberships_insert? inserted, show Location.inUseMember.get location = [] from unused]
        rfl

theorem locationDoPutPlan_eq_ok {request : Request} {updated : Location} {moves : ReferenceMoves}
    (planned : locationDoPutPlan ctx db request = .ok (updated, moves)) :
    ∃ existing, db.locationDB.get? (key updated) = some existing ∧
      updated.inUse = existing.inUse ∧
      Moves existing.managementPolicy updated.managementPolicy moves.fromPolicy moves.toPolicy := by
  simp only [locationDoPutPlan, bind_eq_ok_iff] at planned
  obtain ⟨existing, bound, body, _, timezone, _, newObject, _, info, updatedInfo, planned⟩ :=
    planned
  obtain ⟨policyMove, moved, entityMove, _, _, _, planned⟩ := planned
  obtain ⟨rfl, rfl⟩ := Prod.mk.inj (Except.ok.inj planned)
  have sameId : info.id = existing.info.id := updateObjectInfo_eq_ok updatedInfo
  refine ⟨existing, ?_, rfl, (moves_of_createMove moved).1⟩
  show db.locationDB.get? info.id = some existing
  rw [sameId]
  exact boundRecord_eq_ok bound

theorem ExactLedgers.locationDoPut (exact : ExactLedgers db) (request : Request) :
    ExactLedgers (locationDoPut ctx db request).store := by
  unfold Owprov.locationDoPut
  split
  · exact exact
  · rename_i updated moves planned
    obtain ⟨existing, found, sameUsers, moved⟩ := locationDoPutPlan_eq_ok planned
    have kept : Table.SameView Location.inUseMember.get db.locationDB
        (db.locationDB.update updated) := .update found sameUsers
    have sameLedgers : ledgers { db with locationDB := db.locationDB.update updated } =
        ledgers db := by
      rw [ledgers_locationDB, memberships_congr kept]
      exact Function.update_eq_self _ _
    exact exact.updatePolicy .location updated.info.id sameLedgers (usesOf_of_get? found) moved
      ((uses_movePolicyUsage _ _ _ _ _).trans (uses_writeLocation (usesOf_update found)
        (sameView_manageMembership (fun _ _ => rfl) _ _ _)))
      (ledgers_movePolicyUsage _ .location _ _ _)

theorem ExactLedgers.locationDoDelete (exact : ExactLedgers db) {request : Request}
    (condition : (locationDoDelete db request).Succeeds →
      ∀ existing, db.locationDB.get? (request.getBinding "uuid") = some existing →
        idExists db.policyDB existing.managementPolicy = false) :
    ExactLedgers (locationDoDelete db request).store := by
  cases planned : locationDoDeletePlan db request with
  | error failure =>
      simp only [Owprov.locationDoDelete, planned]
      exact exact
  | ok existing =>
      simp only [Owprov.locationDoDelete, planned] at condition ⊢
      simp only [locationDoDeletePlan, bind_eq_ok_iff] at planned
      obtain ⟨bound, isBound, _, _, planned⟩ := planned
      obtain rfl := Except.ok.inj planned
      have found : db.locationDB.get? bound.info.id = some bound := boundRecord_eq_ok isBound
      refine exact.deleteMisdirected .location _ .location bound.info.id (by rintro ⟨⟩)
        (usesOf_of_get? found) ?_
        (uses_writeLocation (usesOf_delete bound.info.id)
          (sameView_removeMembership (fun _ _ => rfl) _ _)) ?_
      · exact condition rfl bound (boundRecord_uuid isBound)
      · refine (ledgers_locationDB db _).trans ?_
        rw [memberships_delete]
        rfl

/-! ### Contacts -/

/-- A contact is written, and lists of contacts are. -/
theorem uses_writeContact {contactDB : Table Contact} {entityDB : Table Entity} {id : String}
    {references : Referable → List String}
    (written : usesOf contactDB Contact.references =
      Function.update (usesOf db.contactDB Contact.references) id references)
    (listed : Table.SameView Entity.references db.entityDB entityDB) :
    uses { db with contactDB := contactDB, entityDB := entityDB } =
      Function.update (uses db) ⟨.contact, id⟩ references := by
  have lists : SameReferences { db with contactDB := contactDB }
      { db with contactDB := contactDB, entityDB := entityDB } := { entities := listed }
  exact lists.uses_eq.trans (uses_contactDB written)

theorem contactDoPostPlan_eq_ok {request : Request} {contact : Contact}
    (planned : contactDoPostPlan ctx db request = .ok contact) :
    contact.info.id = ctx.newId 0 ∧ contact.inUse = [] := by
  simp only [contactDoPostPlan, bind_eq_ok_iff, require_eq_ok_iff] at planned
  obtain ⟨_, _, body, _, newObject, _, info, created, _, _, _, _, planned⟩ := planned
  obtain rfl := Except.ok.inj planned
  exact ⟨createObjectInfo_eq_ok created, rfl⟩

theorem ExactLedgers.contactDoPost (exact : ExactLedgers db) (unseen : ctx.Unseen db)
    (request : Request) : ExactLedgers (contactDoPost ctx db request).store := by
  unfold Owprov.contactDoPost
  split
  · exact exact
  · rename_i contact planned
    obtain ⟨id, unused⟩ := contactDoPostPlan_eq_ok planned
    split
    · exact exact
    · rename_i contactDB inserted
      have fresh : db.contactDB.get? contact.info.id = none := Table.get?_key_of_insert? inserted
      rw [Outcome.store_done]
      refine exact.create .contact contact.info.id .contact (usesOf_of_missing fresh) ?_ ?_
        ((uses_movePolicyUsage _ _ _ _ _).trans (uses_writeContact (usesOf_insert? inserted)
          (sameView_addMembership (fun _ _ => rfl) _ _)))
        (ledgers_movePolicyUsage _ .contact _ _ _)
      · intro user
        rw [id]
        exact unseen.unreferenced 0 user .contact
      · refine (ledgers_contactDB db contactDB).trans ?_
        rw [memberships_insert? inserted, show Contact.inUseMember.get contact = [] from unused]
        rfl

theorem contactDoPutPlan_eq_ok {request : Request} {updated : Contact} {moves : ReferenceMoves}
    (planned : contactDoPutPlan db request = .ok (updated, moves)) :
    ∃ existing, db.contactDB.get? (key updated) = some existing ∧
      updated.inUse = existing.inUse ∧
      Moves existing.managementPolicy updated.managementPolicy moves.fromPolicy moves.toPolicy := by
  simp only [contactDoPutPlan, bind_eq_ok_iff] at planned
  obtain ⟨existing, bound, body, _, newObject, _, info, updatedInfo, planned⟩ :=
    planned
  obtain ⟨policyMove, moved, entityMove, _, _, _, planned⟩ := planned
  obtain ⟨rfl, rfl⟩ := Prod.mk.inj (Except.ok.inj planned)
  have sameId : info.id = existing.info.id := updateObjectInfo_eq_ok updatedInfo
  refine ⟨existing, ?_, rfl, (moves_of_createMove moved).1⟩
  show db.contactDB.get? info.id = some existing
  rw [sameId]
  exact boundRecord_eq_ok bound

theorem ExactLedgers.contactDoPut (exact : ExactLedgers db) (request : Request) :
    ExactLedgers (contactDoPut db request).store := by
  unfold Owprov.contactDoPut
  split
  · exact exact
  · rename_i updated moves planned
    obtain ⟨existing, found, sameUsers, moved⟩ := contactDoPutPlan_eq_ok planned
    have kept : Table.SameView Contact.inUseMember.get db.contactDB
        (db.contactDB.update updated) := .update found sameUsers
    have sameLedgers : ledgers { db with contactDB := db.contactDB.update updated } =
        ledgers db := by
      rw [ledgers_contactDB, memberships_congr kept]
      exact Function.update_eq_self _ _
    exact exact.updatePolicy .contact updated.info.id sameLedgers (usesOf_of_get? found) moved
      ((uses_movePolicyUsage _ _ _ _ _).trans (uses_writeContact (usesOf_update found)
        (sameView_manageMembership (fun _ _ => rfl) _ _ _)))
      (ledgers_movePolicyUsage _ .contact _ _ _)

theorem ExactLedgers.contactDoDelete (exact : ExactLedgers db) {request : Request}
    (condition : (contactDoDelete db request).Succeeds →
      ∀ existing, db.contactDB.get? (request.getBinding "uuid") = some existing →
        idExists db.policyDB existing.managementPolicy = false) :
    ExactLedgers (contactDoDelete db request).store := by
  cases planned : contactDoDeletePlan db request with
  | error failure =>
      simp only [Owprov.contactDoDelete, planned]
      exact exact
  | ok existing =>
      simp only [Owprov.contactDoDelete, planned] at condition ⊢
      simp only [contactDoDeletePlan, bind_eq_ok_iff] at planned
      obtain ⟨bound, isBound, _, _, planned⟩ := planned
      obtain rfl := Except.ok.inj planned
      have found : db.contactDB.get? bound.info.id = some bound := boundRecord_eq_ok isBound
      refine exact.deleteMisdirected .contact _ .contact bound.info.id (by rintro ⟨⟩)
        (usesOf_of_get? found) ?_
        (uses_writeContact (usesOf_delete bound.info.id)
          (sameView_removeMembership (fun _ _ => rfl) _ _)) ?_
      · exact condition rfl bound (boundRecord_uuid isBound)
      · refine (ledgers_contactDB db _).trans ?_
        rw [memberships_delete]
        rfl

/-! ### Configurations -/

theorem configurationDoPostPlan_eq_ok {request : Request} {config : DeviceConfiguration}
    (planned : configurationDoPostPlan ctx db request = .ok config) :
    config.info.id = ctx.newId 0 ∧ config.inUse = [] := by
  simp only [configurationDoPostPlan, bind_eq_ok_iff, require_eq_ok_iff] at planned
  obtain ⟨body, _, newObject, _, _, _, info, created, _, _, _, _, _, _, _, _, planned⟩ := planned
  obtain ⟨validationType, _, _, _, _, _, planned⟩ := planned
  obtain rfl := Except.ok.inj planned
  exact ⟨createObjectInfo_eq_ok created, rfl⟩

theorem ExactLedgers.configurationDoPost (exact : ExactLedgers db) (unseen : ctx.Unseen db)
    (request : Request) : ExactLedgers (configurationDoPost ctx db request).store := by
  unfold Owprov.configurationDoPost
  split
  · exact exact
  · split
    · exact exact
    · split
      · exact exact
      · rename_i config planned
        obtain ⟨id, unused⟩ := configurationDoPostPlan_eq_ok planned
        split
        · exact exact
        · rename_i configurationDB inserted
          have fresh : db.configurationDB.get? config.info.id = none :=
            Table.get?_key_of_insert? inserted
          rw [Outcome.store_done]
          refine exact.create .configuration config.info.id .configuration
            (usesOf_of_missing fresh) ?_ ?_
            ((uses_linkConfiguration _ _ _).trans (uses_configurationDB (usesOf_insert? inserted)))
            (ledgers_linkConfiguration _ _ _)
          · intro user
            rw [id]
            exact unseen.unreferenced 0 user .configuration
          · rw [ledgers_configurationDB, memberships_insert? inserted,
              show DeviceConfiguration.inUseMember.get config = [] from unused]
            rfl

theorem configurationDoPutPlan_eq_ok {request : Request} {updated : DeviceConfiguration}
    {moves : ConfigurationMoves}
    (planned : configurationDoPutPlan ctx db request = .ok (updated, moves)) :
    ∃ existing, db.configurationDB.get? (key updated) = some existing ∧
      updated.inUse = existing.inUse ∧
      Moves existing.managementPolicy updated.managementPolicy moves.fromPolicy moves.toPolicy := by
  simp only [configurationDoPutPlan, bind_eq_ok_iff, require_eq_ok_iff] at planned
  obtain ⟨existing, bound, body, _, newObject, _, _, _, info, updatedInfo, _, _, planned⟩ :=
    planned
  obtain ⟨_, _, _, _, policyMove, moved, entityMove, _, venueMove, _, _, _, planned⟩ := planned
  obtain ⟨rfl, rfl⟩ := Prod.mk.inj (Except.ok.inj planned)
  have sameId : info.id = existing.info.id := updateObjectInfo_eq_ok updatedInfo
  refine ⟨existing, ?_, rfl, (moves_of_createMove moved).1⟩
  show db.configurationDB.get? info.id = some existing
  rw [sameId]
  exact boundRecord_eq_ok bound

theorem ExactLedgers.configurationDoPut (exact : ExactLedgers db) (request : Request) :
    ExactLedgers (configurationDoPut ctx db request).store := by
  unfold Owprov.configurationDoPut
  split
  · exact exact
  · rename_i updated moves planned
    obtain ⟨existing, found, sameUsers, moved⟩ := configurationDoPutPlan_eq_ok planned
    have kept : Table.SameView DeviceConfiguration.inUseMember.get db.configurationDB
        (db.configurationDB.update updated) := .update found sameUsers
    have sameLedgers : ledgers { db with configurationDB := db.configurationDB.update updated } =
        ledgers db := by
      rw [ledgers_configurationDB, memberships_congr kept]
      exact Function.update_eq_self _ _
    exact exact.updatePolicy .configuration updated.info.id sameLedgers (usesOf_of_get? found)
      moved ((uses_moveConfiguration _ _ _).trans (uses_configurationDB (usesOf_update found)))
      (ledgers_moveConfiguration _ _ _)

theorem ExactLedgers.configurationDoDelete (exact : ExactLedgers db) (request : Request) :
    ExactLedgers (configurationDoDelete db request).store := by
  unfold Owprov.configurationDoDelete
  split
  · exact exact
  · rename_i existing planned
    simp only [configurationDoDeletePlan, bind_eq_ok_iff] at planned
    obtain ⟨bound, isBound, _, _, planned⟩ := planned
    obtain rfl := Except.ok.inj planned
    have found : db.configurationDB.get? bound.info.id = some bound := boundRecord_eq_ok isBound
    have closed : LedgersAgree (uses db)
        (ledgers { db with configurationDB := db.configurationDB.delete bound.info.id }) := by
      refine LedgersAgree.closeLedger exact .configuration bound.info.id ?_
      rw [ledgers_configurationDB, memberships_delete]
      rfl
    refine closed.followPolicy .configuration bound.info.id (usesOf_of_get? found)
      (moves_departure bound.managementPolicy) ?_ (ledgers_moveConfiguration _ _ _)
    rw [policyReference_empty]
    exact (uses_moveConfiguration _ _ _).trans (uses_configurationDB (usesOf_delete _))

end Referables

/-! ## Roles -/

/-- Two references to a policy name the same existing policy, or none. -/
def SamePolicy (db : Store) (old new : String) : Prop :=
  ∀ id, idExists db.policyDB id = true → (old = id ↔ new = id)

/-- The role of a user on a scope has the policy already that it is to get; a new one gets
none. -/
def RoleKeepsPolicy (ctx : Context) (db : Store) (userId entityId venueId : String)
    (managementPolicy : String) : Prop :=
  match findExactExistingRole ctx db userId entityId venueId with
  | some existing =>
      ∀ row, db.rolesDB.get? existing.info.id = some row →
        SamePolicy db row.managementPolicy managementPolicy
  | none => SamePolicy db "" managementPolicy

section Roles

variable {ctx : Context} {db saved : Store} {userId : String} {role : ManagementRole}

theorem SamePolicy.mem_iff {old new : String} (same : SamePolicy db old new) {kind : Referable}
    {id : String} (there : (ledgers db kind id).isSome) :
    id ∈ policyReference new kind ↔ id ∈ policyReference old kind := by
  cases kind with
  | policy =>
      have found : idExists db.policyDB id = true := by
        rw [← there]
        exact isSome_memberships.symm
      exact (mem_singleReference.trans (and_congr_left' (same id found).symm)).trans
        mem_singleReference.symm
  | location => exact Iff.rfl
  | contact => exact Iff.rfl
  | configuration => exact Iff.rfl

theorem ExactLedgers.insertRole (exact : ExactLedgers db) {rolesDB : Table ManagementRole}
    (inserted : db.rolesDB.insert? role = some rolesDB)
    (same : SamePolicy db "" role.managementPolicy) :
    ExactLedgers { db with rolesDB := rolesDB } := by
  have missing : uses db ⟨.role, role.info.id⟩ = policyReference "" :=
    (usesOf_of_missing (Table.get?_key_of_insert? inserted)).trans policyReference_empty.symm
  refine LedgersAgree.rename exact (fun kind id there => ?_) (by rintro ⟨⟩)
    (uses_rolesDB (usesOf_insert? inserted)) rfl
  rw [show (⟨.role, key role⟩ : User) = ⟨.role, role.info.id⟩ from rfl, missing]
  exact same.mem_iff there

theorem ExactLedgers.updateRole (exact : ExactLedgers db) {updated : ManagementRole}
    (same : ∀ row, db.rolesDB.get? updated.info.id = some row →
      SamePolicy db row.managementPolicy updated.managementPolicy) :
    ExactLedgers { db with rolesDB := db.rolesDB.update updated } := by
  cases found : db.rolesDB.get? updated.info.id with
  | none =>
      have kept : Table.SameView ManagementRole.references db.rolesDB
          (db.rolesDB.update updated) := by
        intro id
        rw [Table.get?_update]
        split
        · rename_i isId
          rw [isId, show key updated = updated.info.id from rfl, found]
          rfl
        · rfl
      exact exact.of_sameReferences { roles := kept } rfl
  | some row =>
      refine LedgersAgree.rename exact (fun kind id there => ?_) (by rintro ⟨⟩)
        (uses_rolesDB (usesOf_update found)) rfl
      rw [show uses db ⟨.role, key updated⟩ = policyReference row.managementPolicy from
        usesOf_of_get? found]
      exact (same row found).mem_iff there

theorem ExactLedgers.deleteRole (exact : ExactLedgers db)
    (found : db.rolesDB.get? role.info.id = some role)
    (missing : idExists db.policyDB role.managementPolicy = false) :
    ExactLedgers { db with rolesDB := db.rolesDB.delete role.info.id } := by
  refine LedgersAgree.rename exact (fun kind id there => ?_) (by rintro ⟨⟩)
    (uses_rolesDB (usesOf_delete role.info.id)) rfl
  rw [show uses db ⟨.role, role.info.id⟩ = policyReference role.managementPolicy from
    usesOf_of_get? found]
  exact iff_of_false List.not_mem_nil (notMem_policyReference missing there)

theorem ExactLedgers.saveRole (exact : ExactLedgers db)
    (keeps : RoleKeepsPolicy ctx db userId role.entity role.venue role.managementPolicy)
    (stored : saveRole ctx db userId role = some saved) : ExactLedgers saved := by
  unfold RoleKeepsPolicy at keeps
  rcases saveRole_cases stored with ⟨existing, found, rfl⟩ | ⟨missing, rolesDB, inserted, rfl⟩
  · rw [found] at keeps
    exact exact.updateRole keeps
  · rw [missing] at keeps
    exact exact.insertRole inserted keeps

/-- A lookup in the database finds a stored role. -/
theorem findExactExistingRole_saveRole {venueId : String} (apart : venueId ≠ role.venue)
    (stored : saveRole ctx db userId role = some saved) :
    findExactExistingRole ctx saved userId role.entity venueId =
      findExactExistingRole ctx db userId role.entity venueId := by
  cases cached : (ctx.cachedRoles userId).filter fun roles => !roles.isEmpty with
  | some roles => simp only [findExactExistingRole, cached]
  | none =>
      have sound : ∀ existing,
          findExactExistingRole ctx db userId role.entity role.venue = some existing →
            ∃ row ∈ db.rolesDB.rows, key row = key existing ∧
              row.immutablePart = existing.immutablePart := by
        intro existing found
        simp only [findExactExistingRole, cached] at found
        have selected := List.mem_of_mem_take (List.mem_of_find?_eq_some found)
        exact ⟨existing, (List.mem_filter.mp selected).1, rfl, rfl⟩
      simp only [findExactExistingRole, cached]
      rw [filter_saveRole sound stored]
      intro other isHere
      rw [isHere]
      simp [Ne.symm apart]

/-- Saving a role leaves the other scopes of a request as they were. -/
theorem RoleKeepsPolicy.saveRole {venueId : String}
    (keeps : RoleKeepsPolicy ctx db userId role.entity venueId role.managementPolicy)
    (apart : venueId ≠ role.venue) (stored : saveRole ctx db userId role = some saved) :
    RoleKeepsPolicy ctx saved userId role.entity venueId role.managementPolicy := by
  have samePolicies : saved.policyDB = db.policyDB := by
    rcases saveRole_cases stored with ⟨_, _, rfl⟩ | ⟨_, _, _, rfl⟩
    · rfl
    · rfl
  have rows : ∀ id row, saved.rolesDB.get? id = some row →
      row.managementPolicy = role.managementPolicy ∨ db.rolesDB.get? id = some row := by
    intro id row found
    rcases saveRole_cases stored with ⟨existing, _, rfl⟩ | ⟨_, rolesDB, inserted, rfl⟩
    · rw [Table.get?_update] at found
      split at found
      · obtain ⟨_, _, rfl⟩ := Option.map_eq_some_iff.mp found
        exact Or.inl rfl
      · exact Or.inr found
    · rw [Table.get?_insert? inserted] at found
      split at found
      · obtain rfl := Option.some.inj found
        exact Or.inl rfl
      · exact Or.inr found
  unfold RoleKeepsPolicy at keeps ⊢
  rw [findExactExistingRole_saveRole apart stored]
  split at keeps
  · intro row found id there
    rw [samePolicies] at there
    rcases rows _ row found with same | old
    · rw [same]
    · exact keeps row old id there
  · intro id there
    rw [samePolicies] at there
    exact keeps id there

/-- A role with a new id can be stored, and takes none of the later ids. -/
theorem saveRole_of_free (userId : String) {role : ManagementRole} {index : ℕ}
    (distinct : Function.Injective ctx.newId) (isId : role.info.id = ctx.newId index)
    (free : ∀ later, index ≤ later → db.rolesDB.get? (ctx.newId later) = none) :
    ∃ saved, Owprov.saveRole ctx db userId role = some saved ∧
      ∀ later, index + 1 ≤ later → saved.rolesDB.get? (ctx.newId later) = none := by
  unfold Owprov.saveRole
  split
  · refine ⟨_, rfl, fun later after => ?_⟩
    rw [Table.get?_update]
    split
    · rw [free later (by omega)]
      rfl
    · exact free later (by omega)
  · have missing : db.rolesDB.get? (key role) = none := by
      rw [show key role = role.info.id from rfl, isId]
      exact free index (by omega)
    obtain ⟨rolesDB, inserted⟩ := Table.insert?_isSome missing
    refine ⟨{ db with rolesDB := rolesDB }, by rw [inserted]; rfl, fun later after => ?_⟩
    have apart : ctx.newId later ≠ key role := by
      rw [show key role = role.info.id from rfl, isId]
      exact distinct.ne (by omega)
    rw [Table.get?_insert? inserted, if_neg apart]
    exact free later (by omega)

/-- The loop goes on after a role that is stored. -/
theorem saveRoles_cons {index : ℕ} {venueId : String} (created venueIds : List String)
    (stored : Owprov.saveRole ctx db userId (roleForScope ctx role index venueId) = some saved) :
    ∃ created', saveRoles ctx userId role index created (venueId :: venueIds) db =
      saveRoles ctx userId role (index + 1) created' venueIds saved := by
  rw [saveRoles]
  dsimp only
  split
  · rename_i refused
    cases refused.symm.trans stored
  · rename_i saved' stored'
    obtain rfl := Option.some.inj (stored'.symm.trans stored)
    exact ⟨_, rfl⟩

theorem saveRoles_succeeds (distinct : Function.Injective ctx.newId)
    (isId : role.info.id = ctx.newId 0) (index : ℕ) (created venueIds : List String)
    (free : ∀ later, index ≤ later → db.rolesDB.get? (ctx.newId later) = none) :
    (saveRoles ctx userId role index created venueIds db).Succeeds := by
  induction venueIds generalizing index created db with
  | nil => rfl
  | cons venueId venueIds ih =>
      obtain ⟨saved, stored, stillFree⟩ :=
        saveRole_of_free userId distinct (id_roleForScope isId index venueId) free
      obtain ⟨created', loop⟩ := saveRoles_cons created venueIds stored
      rw [loop]
      exact ih _ _ stillFree

/-- The loop over the scopes of a request, none of which gets another policy. -/
theorem ExactLedgers.saveRoles (exact : ExactLedgers db) (distinct : Function.Injective ctx.newId)
    (isId : role.info.id = ctx.newId 0) (index : ℕ) (created : List String)
    {venueIds : List String} (apart : venueIds.Nodup)
    (keeps : ∀ venueId ∈ venueIds,
      RoleKeepsPolicy ctx db userId role.entity venueId role.managementPolicy)
    (free : ∀ later, index ≤ later → db.rolesDB.get? (ctx.newId later) = none) :
    ExactLedgers (saveRoles ctx userId role index created venueIds db).store := by
  induction venueIds generalizing index created db with
  | nil => exact exact
  | cons venueId venueIds ih =>
      rw [List.nodup_cons] at apart
      rw [List.forall_mem_cons] at keeps
      obtain ⟨saved, stored, stillFree⟩ :=
        saveRole_of_free userId distinct (id_roleForScope isId index venueId) free
      obtain ⟨created', loop⟩ := saveRoles_cons created venueIds stored
      rw [loop]
      have here : RoleKeepsPolicy ctx db userId (roleForScope ctx role index venueId).entity
          (roleForScope ctx role index venueId).venue
          (roleForScope ctx role index venueId).managementPolicy := keeps.1
      refine ih (ExactLedgers.saveRole exact here stored) _ _ apart.2 ?_ stillFree
      intro other member
      have elsewhere : other ≠ (roleForScope ctx role index venueId).venue := by
        rintro rfl
        exact apart.1 member
      have there : RoleKeepsPolicy ctx db userId (roleForScope ctx role index venueId).entity other
          (roleForScope ctx role index venueId).managementPolicy := keeps.2 other member
      exact there.saveRole elsewhere stored

/-- No role of a request gets another policy than it has. -/
def RolesKeepPolicies (ctx : Context) (db : Store) (request : Request) : Prop :=
  ∀ body role venueIds userId, request.body = some body →
    ManagementRole.fromJson body = .ok role → parseVenueIds body role.venue = .ok venueIds →
    role.users = [userId] →
    ∀ venueId ∈ venueIds,
      RoleKeepsPolicy ctx db userId role.entity venueId role.managementPolicy

theorem ExactLedgers.roleDoPost (exact : ExactLedgers db) (unseen : ctx.Unseen db)
    {request : Request}
    (condition : (roleDoPost ctx db request).Succeeds → RolesKeepPolicies ctx db request) :
    ExactLedgers (roleDoPost ctx db request).store := by
  rcases roleDoPost_cases ctx db request with
    unchanged | ⟨role, venueIds, target, userId, planned, users, saved⟩
  · rw [unchanged]
    exact exact
  · obtain ⟨distinct, _⟩ := live_of_roleDoPostPlan planned
    have free : ∀ later, 0 ≤ later → db.rolesDB.get? (ctx.newId later) = none :=
      fun later _ => unseen.role later
    simp only [roleDoPostPlan, bind_eq_ok_iff, require_eq_ok_iff] at planned
    obtain ⟨_, _, body, read, newObject, isRole, info, created, _, _, scopes, parsed, planned⟩ :=
      planned
    obtain ⟨_, _, _, _, planned⟩ := planned
    obtain ⟨rfl, rest⟩ := Prod.mk.inj (Except.ok.inj planned)
    obtain ⟨rfl, rfl⟩ := Prod.mk.inj rest
    have isId : info.id = ctx.newId 0 := createObjectInfo_eq_ok created
    rw [saved] at condition ⊢
    have keeps := condition (saveRoles_succeeds unseen.distinct isId 0 [] scopes free)
    exact exact.saveRoles unseen.distinct isId 0 [] distinct
      (keeps body newObject scopes userId (body_of_jsonBody read) isRole parsed users) free

/-- A role that is updated keeps its policy. -/
def RoleUpdateKeepsPolicy (db : Store) (request : Request) : Prop :=
  ∀ existing body managementPolicy,
    db.rolesDB.get? (request.getBinding "id") = some existing → request.body = some body →
    body.assignIfPresent "managementPolicy" existing.managementPolicy = .ok managementPolicy →
    SamePolicy db existing.managementPolicy managementPolicy

theorem ExactLedgers.roleDoPut (exact : ExactLedgers db) {request : Request}
    (condition : (roleDoPut ctx db request).Succeeds → RoleUpdateKeepsPolicy db request) :
    ExactLedgers (roleDoPut ctx db request).store := by
  cases planned : roleDoPutPlan ctx db request with
  | error failure =>
      simp only [Owprov.roleDoPut, planned]
      exact exact
  | ok updated =>
      simp only [Owprov.roleDoPut, planned] at condition ⊢
      have keeps : RoleUpdateKeepsPolicy db request := condition rfl
      obtain ⟨existing, found, _⟩ := roleDoPutPlan_eq_ok planned
      unfold roleDoPutPlan at planned
      dsimp only at planned
      split at planned
      · cases planned
      · rename_i bound isBound
        simp only [bind_eq_ok_iff, require_eq_ok_iff] at planned
        obtain ⟨_, _, body, read, newObject, _, info, updatedInfo, planned⟩ := planned
        obtain ⟨_, _, _, _, _, _, _, _, policy, assigned, target, _, _, _, _, _, planned⟩ := planned
        obtain rfl := Except.ok.inj planned
        have sameId : info.id = bound.info.id := updateObjectInfo_eq_ok updatedInfo
        apply exact.updateRole
        intro row isRow
        rw [show info.id = request.getBinding "id" from sameId.trans (Table.key_of_get? isBound),
          isBound] at isRow
        obtain rfl := Option.some.inj isRow
        exact keeps bound body policy isBound (body_of_jsonBody read) assigned

theorem ExactLedgers.roleDoDelete (exact : ExactLedgers db) {request : Request}
    (condition : (roleDoDelete ctx db request).Succeeds →
      ∀ existing, db.rolesDB.get? (request.getBinding "id") = some existing →
        idExists db.policyDB existing.managementPolicy = false) :
    ExactLedgers (roleDoDelete ctx db request).store := by
  cases planned : roleDoDeletePlan ctx db request with
  | error failure =>
      simp only [Owprov.roleDoDelete, planned]
      exact exact
  | ok existing =>
      simp only [Owprov.roleDoDelete, planned] at condition ⊢
      unfold roleDoDeletePlan at planned
      dsimp only at planned
      split at planned
      · cases planned
      · rename_i bound isBound
        simp only [bind_eq_ok_iff, require_eq_ok_iff] at planned
        obtain ⟨_, _, _, _, planned⟩ := planned
        obtain rfl := Except.ok.inj planned
        exact exact.deleteRole (Table.get?_key_of_mem (Table.mem_of_get? isBound))
          (condition rfl bound isBound)

end Roles

/-! ## Scopes and their roles -/

section Scopes

variable {ctx : Context} {db db' : Store}

/-- The role of a creator takes its policy. -/
theorem ExactLedgers.autoCreateCreatorRole (exact : ExactLedgers db)
    (entityId venueId parentEntityId parentVenueId roleId : String) :
    ExactLedgers
      (autoCreateCreatorRole ctx db entityId venueId parentEntityId parentVenueId roleId).1 := by
  rcases autoCreateCreatorRole_cases ctx db entityId venueId parentEntityId parentVenueId roleId with
    unchanged | ⟨parent, rolesDB, _, inserted, stored⟩
  · rw [unchanged]
    exact exact
  · have missing : uses db ⟨.role, roleId⟩ = policyReference "" :=
      (usesOf_of_missing (Table.get?_key_of_insert? inserted)).trans policyReference_empty.symm
    rw [stored, linkCreatorRole]
    refine exact.updatePolicy .role roleId ?_ missing (moves_arrival _)
      ((uses_movePolicyUsage _ _ _ _ _).trans (Eq.trans ?_ (uses_rolesDB (usesOf_insert? inserted))))
      (ledgers_movePolicyUsage _ .role _ _ _)
    · split <;> rfl
    · split
      · exact SameReferences.uses_eq { venues := sameView_addMembership (fun _ _ => rfl) _ _ }
      · exact SameReferences.uses_eq { entities := sameView_addMembership (fun _ _ => rfl) _ _ }

/-- Stored roles are deleted, and their policies are released. -/
theorem ExactLedgers.deleteRoles {roles : List ManagementRole} (exact : ExactLedgers db)
    (distinct : (roles.map (key : ManagementRole → String)).Nodup)
    (stored : ∀ role ∈ roles, db.rolesDB.get? role.info.id = some role) :
    ExactLedgers (roles.foldl (fun db role =>
      movePolicyUsage { db with rolesDB := db.rolesDB.delete role.info.id } "rol"
        role.managementPolicy "" role.info.id) db) := by
  induction roles generalizing db with
  | nil => exact exact
  | cons role roles ih =>
      rw [List.map_cons, List.nodup_cons] at distinct
      rw [List.forall_mem_cons] at stored
      rw [List.foldl_cons]
      apply ih _ distinct.2
      · intro other member
        have apart : other.info.id ≠ role.info.id := by
          intro same
          exact distinct.1 (List.mem_map.mpr ⟨other, member, same⟩)
        show (db.rolesDB.delete role.info.id).get? other.info.id = some other
        rw [Table.get?_delete, if_neg apart]
        exact stored.2 other member
      · refine exact.updatePolicy .role role.info.id ?_ (usesOf_of_get? stored.1)
          (moves_departure role.managementPolicy) ?_ (ledgers_movePolicyUsage _ .role _ _ _)
        · rfl
        · rw [policyReference_empty]
          exact (uses_movePolicyUsage _ _ _ _ _).trans (uses_rolesDB (usesOf_delete _))

theorem ExactLedgers.deleteScopeRoles (exact : ExactLedgers db)
    (onScope : ManagementRole → Bool) : ExactLedgers (deleteScopeRoles db onScope) := by
  have part : ((db.rolesDB.rows.filter onScope).take 10000).Sublist db.rolesDB.rows :=
    (List.take_sublist _ _).trans List.filter_sublist
  exact exact.deleteRoles (db.rolesDB.distinct.sublist (part.map key))
    fun role member => Table.get?_key_of_mem (part.subset member)

/-- The deletion of roles leaves the other tables, which may be written before or after it. -/
theorem deleteScopeRoles_entityDB_comm (db : Store) (table : Table Entity)
    (onScope : ManagementRole → Bool) :
    { deleteScopeRoles db onScope with entityDB := table } =
      deleteScopeRoles { db with entityDB := table } onScope := by
  unfold deleteScopeRoles
  generalize (db.rolesDB.rows.filter onScope).take 10000 = roles
  induction roles generalizing db with
  | nil => rfl
  | cons role roles ih => exact ih _

theorem deleteScopeRoles_venueDB_comm (db : Store) (table : Table Venue)
    (onScope : ManagementRole → Bool) :
    { deleteScopeRoles db onScope with venueDB := table } =
      deleteScopeRoles { db with venueDB := table } onScope := by
  unfold deleteScopeRoles
  generalize (db.rolesDB.rows.filter onScope).take 10000 = roles
  induction roles generalizing db with
  | nil => rfl
  | cons role roles ih => exact ih _

/-! ### Entities -/

theorem Entity.references_of_bare {entity : Entity} (bare : entity.deviceConfiguration = []) :
    entity.references = policyReference entity.managementPolicy := by
  funext kind
  cases kind with
  | policy => rfl
  | location => rfl
  | contact => rfl
  | configuration => exact bare

theorem ExactLedgers.bare_entity (exact : ExactLedgers db) {entity : Entity}
    (found : db.entityDB.get? entity.info.id = some entity) : entity.deviceConfiguration = [] := by
  have bare := LedgersAgree.bare exact entity.info.id
  rw [show uses db ⟨.entity, entity.info.id⟩ = entity.references from usesOf_of_get? found] at bare
  exact bare

theorem uses_manipulateChild (db : Store) (parentId childId : String) (add : Bool) :
    uses (manipulateChild db parentId childId add) = uses db :=
  SameReferences.uses_eq { entities := sameView_manipulateVectorMember (fun _ _ => rfl) _ _ _ }

theorem bare_of_entityDoPostPlan {request : Request} {entity : Entity}
    (planned : entityDoPostPlan ctx db request = .ok entity) : entity.deviceConfiguration = [] := by
  simp only [entityDoPostPlan, bind_eq_ok_iff, require_eq_ok_iff] at planned
  obtain ⟨_, _, _, _, body, _, newEntity, _, _, _, info, _, _, _, _, _, _, _, _, _, planned⟩ :=
    planned
  obtain rfl := Except.ok.inj planned
  rfl

theorem ExactLedgers.entityDoPost (exact : ExactLedgers db) (fresh : ctx.Fresh db)
    (request : Request) : ExactLedgers (entityDoPost ctx db request).store := by
  rcases entityDoPost_cases fresh request with unchanged | ⟨entity, entityDB, planned, inserted, stored⟩
  · rw [unchanged]
    exact exact
  · have missing : uses db ⟨.entity, entity.info.id⟩ = policyReference "" :=
      (usesOf_of_missing (Table.get?_key_of_insert? inserted)).trans policyReference_empty.symm
    rw [stored]
    apply ExactLedgers.autoCreateCreatorRole
    refine exact.updatePolicy .entity entity.info.id ?_ missing (moves_arrival _)
      ((uses_manipulateChild _ _ _ _).trans ((uses_movePolicyUsage _ _ _ _ _).trans ?_))
      (ledgers_movePolicyUsage _ .entity _ _ _)
    · rfl
    · rw [← Entity.references_of_bare (bare_of_entityDoPostPlan planned)]
      exact uses_entityDB (usesOf_insert? inserted)

theorem moves_of_entityDoPutPlan {request : Request} {updated : Entity}
    {fromPolicy toPolicy : String}
    (planned : entityDoPutPlan ctx db request = .ok (updated, fromPolicy, toPolicy)) :
    ∃ existing, db.entityDB.get? updated.info.id = some existing ∧
      existing.info.id = updated.info.id ∧
      updated.deviceConfiguration = existing.deviceConfiguration ∧
      Moves existing.managementPolicy updated.managementPolicy fromPolicy toPolicy := by
  unfold entityDoPutPlan at planned
  dsimp only at planned
  split at planned
  · cases planned
  · rename_i existing found
    simp only [bind_eq_ok_iff, require_eq_ok_iff] at planned
    obtain ⟨_, _, body, _, newEntity, _, _, _, info, updatedInfo, move, moved, planned⟩ := planned
    obtain ⟨_, _, _, _, planned⟩ := planned
    obtain ⟨rfl, rest⟩ := Prod.mk.inj (Except.ok.inj planned)
    obtain ⟨rfl, rfl⟩ := Prod.mk.inj rest
    have sameId : info.id = existing.info.id := updateObjectInfo_eq_ok updatedInfo
    refine ⟨existing, ?_, sameId.symm, rfl, (moves_of_createMove moved).1⟩
    show db.entityDB.get? info.id = some existing
    rw [sameId]
    exact Table.get?_key_of_mem (Table.mem_of_get? found)

theorem ExactLedgers.entityDoPut (exact : ExactLedgers db) (request : Request) :
    ExactLedgers (entityDoPut ctx db request).store := by
  unfold Owprov.entityDoPut
  split
  · exact exact
  · rename_i updated fromPolicy toPolicy planned
    obtain ⟨existing, found, sameId, sameConfiguration, moved⟩ := moves_of_entityDoPutPlan planned
    have bare : existing.deviceConfiguration = [] := exact.bare_entity (sameId ▸ found)
    refine exact.updatePolicy .entity updated.info.id ?_
      ((usesOf_of_get? found).trans (Entity.references_of_bare bare)) moved
      ((uses_movePolicyUsage _ _ _ _ _).trans ?_) (ledgers_movePolicyUsage _ .entity _ _ _)
    · rfl
    · rw [← Entity.references_of_bare (sameConfiguration.trans bare)]
      exact uses_entityDB (usesOf_update found)

theorem ExactLedgers.entityDoDelete (exact : ExactLedgers db) (request : Request) :
    ExactLedgers (entityDoDelete db request).store := by
  unfold Owprov.entityDoDelete
  split
  · exact exact
  · rename_i existing planned
    obtain ⟨found, _⟩ := entityDoDeletePlan_eq_ok planned
    have released : ExactLedgers
        { movePolicyUsage db "ent" existing.managementPolicy "" existing.info.id with
          entityDB := db.entityDB.delete existing.info.id } := by
      refine exact.updatePolicy .entity existing.info.id ?_
        ((usesOf_of_get? found).trans (Entity.references_of_bare (exact.bare_entity found)))
        (moves_departure existing.managementPolicy) ?_ (ledgers_movePolicyUsage db .entity _ _ _)
      · rfl
      · rw [policyReference_empty]
        exact uses_entityDB (usesOf_delete existing.info.id)
    dsimp only [Outcome.store_done]
    rw [deleteScopeRoles_entityDB_comm, deleteScopeRoles_entityDB, movePolicyUsage_entityDB]
    exact (released.deleteScopeRoles fun role => role.entity == existing.info.id).congr
      (uses_manipulateChild _ _ _ _) rfl

end Scopes

end Owprov
