import Owprov.EntityListHandler
import Owprov.Hierarchy
import Owprov.Lib.MarkedTraversal
import Owprov.Lib.Walks

/-!
# What a user sees in the entity list

A role on a venue marks the venue and the way up from it; a role on an entity expands the
entity.  The loop over the roles is therefore a sequence of marks and expansions over shared
sets, and the sets depend on the order of the roles as far as the library says.
-/

namespace Owprov

open AcyclicRelation MarkedTraversal RowTable StateTransition

/-! ## Roles that grant something -/

/-- A role that shows a venue and the way up from it. -/
def Caller.SeesVenue (caller : Caller) (role : ManagementRole) : Prop :=
  role.venue ≠ "" ∧ caller.checkRolePolicy "venue" .get role = true

/-- A role that shows an entity and the venues below it. -/
def Caller.SeesEntity (caller : Caller) (role : ManagementRole) : Prop :=
  role.venue = "" ∧ role.entity ≠ "" ∧ caller.checkRolePolicy "entity" .get role = true

/-- A role that hides a venue. -/
def Caller.HidesVenue (db : Store) (caller : Caller) (role : ManagementRole) : Prop :=
  role.venue ≠ "" ∧ caller.checkRolePolicy "venue" .get role = false ∧
    (db.venueDB.get? role.venue).isSome

instance (caller : Caller) (role : ManagementRole) : Decidable (caller.SeesVenue role) :=
  inferInstanceAs (Decidable (_ ∧ _))

instance (caller : Caller) (role : ManagementRole) : Decidable (caller.SeesEntity role) :=
  inferInstanceAs (Decidable (_ ∧ _ ∧ _))

instance (db : Store) (caller : Caller) (role : ManagementRole) :
    Decidable (caller.HidesVenue db role) :=
  inferInstanceAs (Decidable (_ ∧ _ ∧ _))

/-! ## The way up from a venue -/

/-- The venue that `addVenueAncestors` goes on with. -/
def venueAbove (db : Store) (venueId : String) : Option String :=
  match db.venueDB.get? venueId with
  | none => none
  | some ven => if ven.parent ≠ "" ∧ ven.parent ≠ venueId then some ven.parent else none

/-- The entity that `addVenueAncestors` shows at a venue. -/
def entityAt (db : Store) (venueId : String) : Option String :=
  match db.venueDB.get? venueId with
  | none => none
  | some ven => if ven.entity ≠ "" then some ven.entity else none

/-- A step of the way up. -/
def Ascends (db : Store) (below above : String) : Prop :=
  venueAbove db below = some above

/-- The way up from a venue has an end. -/
def AscentEnds (db : Store) (venueId : String) : Prop :=
  Acc (Function.swap (Ascends db)) venueId

/-- The marks that the way up from a venue adds. -/
def ascentMarks (db : Store) : ℕ → String → Option (Finset String × Finset String)
  | 0, _ => none
  | fuel + 1, venueId =>
      match venueAbove db venueId with
      | none => some ((entityAt db venueId).toFinset, {venueId})
      | some above =>
          (ascentMarks db fuel above).map fun marks =>
            ((entityAt db venueId).toFinset ∪ marks.1, insert venueId marks.2)

section Ascent

variable {db : Store}

theorem self_mem_ascentMarks {fuel : ℕ} {venueId : String} {marks : Finset String × Finset String}
    (ends : ascentMarks db fuel venueId = some marks) : venueId ∈ marks.2 := by
  cases fuel with
  | zero => cases ends
  | succ fuel =>
      rw [ascentMarks] at ends
      split at ends
      · obtain rfl := Option.some.inj ends
        exact Finset.mem_singleton_self venueId
      · obtain ⟨above, _, rfl⟩ := Option.map_eq_some_iff.mp ends
        exact Finset.mem_insert_self venueId above.2

theorem addVenueAncestors_eq (fuel : ℕ) (venueId : String) (visible : Visible)
    (marked : venueId ∈ visible.venues) :
    addVenueAncestors db fuel venueId visible =
      (ascentMarks db fuel venueId).map fun marks =>
        { visible with
          entities := visible.entities ∪ marks.1
          venues := visible.venues ∪ marks.2 } := by
  induction fuel generalizing venueId visible with
  | zero => rfl
  | succ fuel ih =>
      have kept : visible.venues ∪ {venueId} = visible.venues :=
        Finset.union_eq_left.mpr (Finset.singleton_subset_iff.mpr marked)
      unfold addVenueAncestors ascentMarks venueAbove entityAt
      cases db.venueDB.get? venueId with
      | none => simp [kept]
      | some ven =>
          dsimp only
          have shown : (if ven.entity ≠ "" then
                { visible with entities := insert ven.entity visible.entities }
              else visible) =
              { visible with
                entities := visible.entities ∪
                  (if ven.entity ≠ "" then some ven.entity else none).toFinset } := by
            split
            · rw [Option.toFinset_some, Finset.union_comm, Finset.singleton_union]
            · rw [Option.toFinset_none, Finset.union_empty]
          rw [shown]
          split
          · rw [ih _ _ (Finset.mem_insert_self _ _), Option.map_map]
            apply Option.map_congr
            intro marks ends
            have above : ven.parent ∈ marks.2 := self_mem_ascentMarks ends
            have sameVenues : insert ven.parent visible.venues ∪ marks.2 =
                visible.venues ∪ insert venueId marks.2 := by
              rw [Finset.insert_union, Finset.union_insert,
                Finset.insert_eq_of_mem (Finset.mem_union_right _ above),
                Finset.insert_eq_of_mem (Finset.mem_union_left _ marked)]
            simp only [Function.comp, sameVenues, Finset.union_assoc]
          · simp [kept]

/-- The way up marks the venues that it passes and their entities. -/
theorem mem_ascentMarks {fuel : ℕ} {venueId : String} {marks : Finset String × Finset String}
    (ends : ascentMarks db fuel venueId = some marks) :
    (∀ e, e ∈ marks.1 ↔ ∃ v, Reaches (venueAbove db) venueId v ∧ entityAt db v = some e) ∧
      ∀ v, v ∈ marks.2 ↔ Reaches (venueAbove db) venueId v := by
  induction fuel generalizing venueId marks with
  | zero => cases ends
  | succ fuel ih =>
      rw [ascentMarks] at ends
      cases next : venueAbove db venueId with
      | none =>
          rw [next] at ends
          obtain rfl := Option.some.inj ends
          have stays : ∀ v, Reaches (venueAbove db) venueId v ↔ v = venueId := by
            intro v
            rw [Reaches, Relation.ReflTransGen.cases_head_iff]
            simp [next, eq_comm]
          simp [stays]
      | some above =>
          rw [next] at ends
          obtain ⟨further, deeper, rfl⟩ := Option.map_eq_some_iff.mp ends
          have goes : ∀ v, Reaches (venueAbove db) venueId v ↔
              v = venueId ∨ Reaches (venueAbove db) above v := by
            intro v
            rw [Reaches, Relation.ReflTransGen.cases_head_iff]
            simp [next, eq_comm]
          obtain ⟨entities, venues⟩ := ih deeper
          simp [goes, entities, venues, or_and_right, exists_or]

/-- The fuel suffices for the way up. -/
def AscentStops (db : Store) (fuel : ℕ) (venueId : String) : Prop :=
  (ascentMarks db fuel venueId).isSome

theorem ascentStops_zero (venueId : String) : ¬ AscentStops db 0 venueId := by
  simp [AscentStops, ascentMarks]

theorem ascentStops_succ (fuel : ℕ) (venueId : String) :
    AscentStops db (fuel + 1) venueId ↔
      ∀ above, Ascends db venueId above → AscentStops db fuel above := by
  unfold AscentStops Ascends
  rw [ascentMarks]
  cases venueAbove db venueId <;> simp

theorem exists_ascentStops_iff {venueId : String} :
    (∃ fuel, AscentStops db fuel venueId) ↔ AscentEnds db venueId := by
  refine exists_stops_iff_acc (Ascends db) (AscentStops db) ascentStops_zero ascentStops_succ ?_
  exact fun venueId => ⟨(venueAbove db venueId).toList, by simp [Ascends]⟩

end Ascent

/-! ## The loop over the roles -/

/-- The venues that `addVenueAndDescendants` goes on with. -/
def venueChildren (db : Store) (venueId : String) : List String :=
  ((db.venueDB.get? venueId).map Venue.children).getD []

/-- The venues that `addEntityAndDescendants` goes on with. -/
def entityVenues (db : Store) (entityId : String) : List String :=
  ((db.entityDB.get? entityId).map Entity.venues).getD []

/-- What a role adds to the visible entities and venues. -/
def roleGrant (db : Store) (caller : Caller) (fuel : ℕ) (role : ManagementRole) :
    Option (Grant String String) :=
  if caller.SeesVenue role then
    (ascentMarks db fuel role.venue).map fun marks => .mark marks.1 marks.2
  else if caller.SeesEntity role then
    some (.expand role.entity)
  else
    some (.mark ∅ ∅)

/-- The grants of the roles, where all of them end. -/
def roleGrants (db : Store) (caller : Caller) (fuel : ℕ) : List (Grant String String) :=
  caller.roles.map fun role => (roleGrant db caller fuel role).getD (.mark ∅ ∅)

def hiddenVenues (db : Store) (caller : Caller) (roles : List ManagementRole) : Finset String :=
  ((roles.filter fun role => caller.HidesVenue db role).map ManagementRole.venue).toFinset

/-- The sets after some grants. -/
def visibleOf (marks : Marks String String) (denied : Finset String) : Visible :=
  ⟨marks.outer, marks.inner, denied⟩

def Store.grant (db : Store) (marks : Marks String String) (grant : Grant String String) :
    Marks String String :=
  marks.grant (venueChildren db) (entityVenues db) db.venueFuel grant

section Loop

variable {db : Store} {caller : Caller} {fuel : ℕ}

theorem addVenueAndDescendants_eq_visit (db : Store) (fuel : ℕ) :
    addVenueAndDescendants db fuel = visit (venueChildren db) fuel := by
  induction fuel with
  | zero => rfl
  | succ fuel ih =>
      funext visibleVenues venueId
      rw [addVenueAndDescendants, visit, venueChildren, ih]
      cases db.venueDB.get? venueId <;> rfl

theorem mem_ids_of_venueChildren (db : Store) (venueId : String)
    (filled : venueChildren db venueId ≠ []) : venueId ∈ LinkColumns.ids db.venueDB := by
  unfold venueChildren at filled
  cases found : db.venueDB.get? venueId with
  | none => simp [found] at filled
  | some ven => exact LinkColumns.mem_ids_of_get? found

theorem card_ids_lt_venueFuel (db : Store) :
    (LinkColumns.ids db.venueDB).card < db.venueFuel :=
  Nat.lt_succ_of_le (LinkColumns.card_ids_le db.venueDB)

theorem addEntityAndDescendants_eq (entityId : String) (marks : Marks String String)
    (denied : Finset String) :
    addEntityAndDescendants db entityId (visibleOf marks denied) =
      visibleOf (db.grant marks (.expand entityId)) denied := by
  unfold addEntityAndDescendants Store.grant Marks.grant entityVenues visibleOf
  dsimp only
  split
  · rfl
  · cases db.entityDB.get? entityId with
    | none => rfl
    | some ent => simp only [addVenueAndDescendants_eq_visit, Option.map_some, Option.getD_some]

theorem grant_nothing (marks : Marks String String) : db.grant marks (.mark ∅ ∅) = marks := by
  simp [Store.grant, Marks.grant]

/-- One turn of the loop is a grant, and a venue hidden or not. -/
theorem addRole_eq (marks : Marks String String) (denied : Finset String)
    (role : ManagementRole) :
    addRole db caller fuel (visibleOf marks denied) role =
      (roleGrant db caller fuel role).map fun grant =>
        visibleOf (db.grant marks grant) (denied ∪ hiddenVenues db caller [role]) := by
  unfold addRole roleGrant hiddenVenues
  by_cases onVenue : role.venue ≠ ""
  · by_cases allowed : caller.checkRolePolicy "venue" .get role = true
    · have sees : caller.SeesVenue role := ⟨onVenue, allowed⟩
      have shows : ¬ caller.HidesVenue db role := by
        simp [Caller.HidesVenue, allowed]
      rw [if_pos onVenue, if_pos allowed, if_pos sees,
        addVenueAncestors_eq _ _ _ (Finset.mem_insert_self _ _), Option.map_map]
      apply Option.map_congr
      intro passed ends
      have start : role.venue ∈ passed.2 := self_mem_ascentMarks ends
      have sameVenues : insert role.venue marks.inner ∪ passed.2 = marks.inner ∪ passed.2 := by
        rw [Finset.insert_union, Finset.insert_eq_of_mem (Finset.mem_union_right _ start)]
      simp [Store.grant, Marks.grant, visibleOf, sameVenues, shows]
    · have sees : ¬ caller.SeesVenue role := fun sees => allowed sees.2
      have onEntity : ¬ caller.SeesEntity role := fun sees => onVenue sees.1
      rw [if_pos onVenue, if_neg allowed, if_neg sees, if_neg onEntity]
      by_cases stored : (db.venueDB.get? role.venue).isSome = true
      · have hides : caller.HidesVenue db role := ⟨onVenue, by simpa using allowed, stored⟩
        simp [stored, grant_nothing, hides, visibleOf]
      · have shows : ¬ caller.HidesVenue db role := fun hides => stored hides.2.2
        simp [stored, grant_nothing, shows]
  · have sees : ¬ caller.SeesVenue role := fun sees => onVenue sees.1
    have shows : ¬ caller.HidesVenue db role := fun hides => onVenue hides.1
    rw [if_neg onVenue, if_neg sees]
    by_cases onEntity : role.entity ≠ "" ∧ caller.checkRolePolicy "entity" .get role = true
    · have seesEntity : caller.SeesEntity role := ⟨not_not.mp onVenue, onEntity⟩
      simp [onEntity, seesEntity, shows, addEntityAndDescendants_eq]
    · have blind : ¬ caller.SeesEntity role := fun seesEntity => onEntity seesEntity.2
      rw [if_neg onEntity, if_neg blind]
      simp [grant_nothing, shows]

theorem hiddenVenues_cons (role : ManagementRole) (roles : List ManagementRole) :
    hiddenVenues db caller (role :: roles) =
      hiddenVenues db caller [role] ∪ hiddenVenues db caller roles := by
  unfold hiddenVenues
  by_cases hides : caller.HidesVenue db role <;> simp [hides]

theorem foldlM_addRole {roles : List ManagementRole}
    (ends : ∀ role ∈ roles, (roleGrant db caller fuel role).isSome)
    (marks : Marks String String) (denied : Finset String) :
    roles.foldlM (addRole db caller fuel) (visibleOf marks denied) =
      some (visibleOf
        ((roles.map fun role => (roleGrant db caller fuel role).getD (.mark ∅ ∅)).foldl
          db.grant marks)
        (denied ∪ hiddenVenues db caller roles)) := by
  induction roles generalizing marks denied with
  | nil => simp [hiddenVenues]
  | cons role roles ih =>
      obtain ⟨grant, isGrant⟩ :=
        Option.isSome_iff_exists.mp (ends role List.mem_cons_self)
      rw [List.foldlM_cons, addRole_eq, isGrant]
      dsimp only [Option.map_some, Option.bind_eq_bind, Option.bind_some]
      rw [ih (fun other member => ends other (List.mem_cons_of_mem _ member)),
        hiddenVenues_cons role roles, Finset.union_assoc, List.map_cons, isGrant]
      rfl

theorem foldlM_addRole_eq_none {roles : List ManagementRole}
    (endless : ∃ role ∈ roles, roleGrant db caller fuel role = none)
    (marks : Marks String String) (denied : Finset String) :
    roles.foldlM (addRole db caller fuel) (visibleOf marks denied) = none := by
  induction roles generalizing marks denied with
  | nil => simp at endless
  | cons role roles ih =>
      rw [List.foldlM_cons, addRole_eq]
      cases isGrant : roleGrant db caller fuel role with
      | none => rfl
      | some grant =>
          obtain ⟨other, member, isNone⟩ := endless
          rcases List.mem_cons.mp member with rfl | later
          · rw [isGrant] at isNone
            cases isNone
          · exact ih ⟨other, later, isNone⟩ _ _

end Loop

/-! ## The visible sets -/

def Caller.withRoles (caller : Caller) (roles : List ManagementRole) : Caller :=
  { caller with roles := roles }

/-- A venue on the way up from the venue of a role. -/
def Caller.MarksVenue (db : Store) (caller : Caller) (venueId : String) : Prop :=
  ∃ role ∈ caller.roles, caller.SeesVenue role ∧ Reaches (venueAbove db) role.venue venueId

/-- An entity of a venue on the way up from the venue of a role. -/
def Caller.MarksEntity (db : Store) (caller : Caller) (entityId : String) : Prop :=
  ∃ role ∈ caller.roles, caller.SeesVenue role ∧
    ∃ v, Reaches (venueAbove db) role.venue v ∧ entityAt db v = some entityId

/-- A venue below the entity of a role. -/
def Caller.ExpandsTo (db : Store) (caller : Caller) (venueId : String) : Prop :=
  ∃ role ∈ caller.roles, caller.SeesEntity role ∧
    EnteredFrom (venueChildren db) ∅ (entityVenues db role.entity) venueId

/-- A venue below the entity of a role, where that entity is not on the way up from the venue
of another role, and neither is any venue down to this one. -/
def Caller.ExpandsUnmarkedTo (db : Store) (caller : Caller) (venueId : String) : Prop :=
  ∃ role ∈ caller.roles, caller.SeesEntity role ∧ ¬ caller.MarksEntity db role.entity ∧
    EnteredFrom (venueChildren db) {v | caller.MarksVenue db v} (entityVenues db role.entity)
      venueId

def Caller.Hides (db : Store) (caller : Caller) (venueId : String) : Prop :=
  ∃ role ∈ caller.roles, caller.HidesVenue db role ∧ role.venue = venueId

/-- The ways up from the venues of the caller's roles end. -/
def Caller.AscentsEnd (db : Store) (caller : Caller) : Prop :=
  ∀ role ∈ caller.roles, caller.SeesVenue role → AscentEnds db role.venue

/-- What a caller sees, when the order of the roles does not matter. -/
structure Caller.Sees (db : Store) (caller : Caller) (visible : Visible) : Prop where
  entities : ∀ e, e ∈ visible.entities ↔
    caller.MarksEntity db e ∨ ∃ role ∈ caller.roles, caller.SeesEntity role ∧ role.entity = e
  venues : ∀ v, v ∈ visible.venues ↔
    ¬ caller.Hides db v ∧ (caller.MarksVenue db v ∨ caller.ExpandsTo db v)
  denied : ∀ v, v ∈ visible.denied ↔ caller.Hides db v

/-- The roles settle which venues are visible: each venue below the entity of a role is
hidden, or on the way up from the venue of a role, or below an entity that no such way
passes without another venue on such a way in between. -/
def Caller.VenuesSettled (db : Store) (caller : Caller) : Prop :=
  ∀ v, ¬ caller.Hides db v → caller.ExpandsTo db v →
    caller.MarksVenue db v ∨ caller.ExpandsUnmarkedTo db v

section Sets

variable {db : Store} {caller : Caller} {fuel : ℕ} {roles : List ManagementRole}

theorem mem_hiddenVenues {v : String} :
    v ∈ hiddenVenues db caller caller.roles ↔ caller.Hides db v := by
  simp [hiddenVenues, Caller.Hides, and_assoc]

theorem roleGrants_withRoles :
    roleGrants db (caller.withRoles roles) fuel =
      roles.map fun role => (roleGrant db caller fuel role).getD (.mark ∅ ∅) := rfl

theorem visibleScopes_eq
    (ends : ∀ role ∈ caller.roles, (roleGrant db caller fuel role).isSome) :
    visibleScopes db caller fuel =
      some ⟨(marksAfter (venueChildren db) (entityVenues db) db.venueFuel
          (roleGrants db caller fuel)).outer,
        (marksAfter (venueChildren db) (entityVenues db) db.venueFuel
          (roleGrants db caller fuel)).inner \ hiddenVenues db caller caller.roles,
        hiddenVenues db caller caller.roles⟩ := by
  have looped := foldlM_addRole ends ⟨∅, ∅⟩ ∅
  rw [Finset.empty_union] at looped
  unfold visibleScopes
  rw [show ({} : Visible) = visibleOf ⟨∅, ∅⟩ ∅ from rfl, looped]
  rfl

theorem visibleScopes_eq_none
    (endless : ∃ role ∈ caller.roles, roleGrant db caller fuel role = none) :
    visibleScopes db caller fuel = none := by
  unfold visibleScopes
  rw [show ({} : Visible) = visibleOf ⟨∅, ∅⟩ ∅ from rfl, foldlM_addRole_eq_none endless]
  rfl

theorem roleGrant_of_seesVenue {role : ManagementRole} (sees : caller.SeesVenue role) :
    roleGrant db caller fuel role =
      (ascentMarks db fuel role.venue).map fun marks => .mark marks.1 marks.2 :=
  if_pos sees

theorem roleGrant_of_seesEntity {role : ManagementRole} (sees : caller.SeesEntity role) :
    roleGrant db caller fuel role = some (.expand role.entity) := by
  rw [roleGrant, if_neg fun seesVenue => seesVenue.1 sees.1, if_pos sees]

theorem expand_mem_roleGrants {e : String} :
    Grant.expand e ∈ roleGrants db caller fuel ↔
      ∃ role ∈ caller.roles, caller.SeesEntity role ∧ role.entity = e := by
  rw [roleGrants, List.mem_map]
  refine exists_congr fun role => and_congr_right fun _ => ?_
  by_cases seesEntity : caller.SeesEntity role
  · simp [roleGrant_of_seesEntity seesEntity, seesEntity]
  · unfold roleGrant
    rw [if_neg seesEntity]
    split
    · cases ascentMarks db fuel role.venue <;> simp [seesEntity]
    · simp [seesEntity]

theorem mark_mem_roleGrants
    (ends : ∀ role ∈ caller.roles, (roleGrant db caller fuel role).isSome)
    {outer inner : Finset String} (filled : outer ≠ ∅ ∨ inner ≠ ∅) :
    Grant.mark outer inner ∈ roleGrants db caller fuel ↔
      ∃ role ∈ caller.roles, caller.SeesVenue role ∧
        ascentMarks db fuel role.venue = some (outer, inner) := by
  rw [roleGrants, List.mem_map]
  refine exists_congr fun role => and_congr_right fun member => ?_
  by_cases sees : caller.SeesVenue role
  · have ends := ends role member
    rw [roleGrant_of_seesVenue sees] at ends ⊢
    cases ascent : ascentMarks db fuel role.venue with
    | none => simp [ascent] at ends
    | some marks => simp [sees, Prod.ext_iff]
  · unfold roleGrant
    rw [if_neg sees]
    split
    · simp [sees]
    · simp only [Option.getD_some, Grant.mark.injEq, sees, false_and, iff_false]
      rintro ⟨rfl, rfl⟩
      simp at filled

section Ended

variable (ends : ∀ role ∈ caller.roles, (roleGrant db caller fuel role).isSome)
include ends

theorem mem_innerMarks_roleGrants {v : String} :
    v ∈ innerMarks (roleGrants db caller fuel) ↔ caller.MarksVenue db v := by
  constructor
  · rintro ⟨outer, inner, isStep, member⟩
    obtain ⟨role, isRole, sees, ascent⟩ :=
      (mark_mem_roleGrants ends (.inr (Finset.ne_empty_of_mem member))).mp isStep
    exact ⟨role, isRole, sees, ((mem_ascentMarks ascent).2 v).mp member⟩
  · rintro ⟨role, isRole, sees, reached⟩
    have ended := ends role isRole
    rw [roleGrant_of_seesVenue sees, Option.isSome_map] at ended
    obtain ⟨⟨outer, inner⟩, ascent⟩ := Option.isSome_iff_exists.mp ended
    have member : v ∈ inner := ((mem_ascentMarks ascent).2 v).mpr reached
    refine ⟨outer, inner, ?_, member⟩
    exact (mark_mem_roleGrants ends (.inr (Finset.ne_empty_of_mem member))).mpr
      ⟨role, isRole, sees, ascent⟩

theorem mem_outerMarks_roleGrants {e : String} :
    e ∈ outerMarks (roleGrants db caller fuel) ↔ caller.MarksEntity db e := by
  constructor
  · rintro ⟨outer, inner, isStep, member⟩
    obtain ⟨role, isRole, sees, ascent⟩ :=
      (mark_mem_roleGrants ends (.inl (Finset.ne_empty_of_mem member))).mp isStep
    exact ⟨role, isRole, sees, ((mem_ascentMarks ascent).1 e).mp member⟩
  · rintro ⟨role, isRole, sees, passed⟩
    have ended := ends role isRole
    rw [roleGrant_of_seesVenue sees, Option.isSome_map] at ended
    obtain ⟨⟨outer, inner⟩, ascent⟩ := Option.isSome_iff_exists.mp ended
    have member : e ∈ outer := ((mem_ascentMarks ascent).1 e).mpr passed
    refine ⟨outer, inner, ?_, member⟩
    exact (mark_mem_roleGrants ends (.inl (Finset.ne_empty_of_mem member))).mpr
      ⟨role, isRole, sees, ascent⟩

omit ends in
variable (fuel) in
theorem belowExpanded_roleGrants {v : String} :
    BelowExpanded (venueChildren db) (entityVenues db) (roleGrants db caller fuel) v ↔
      caller.ExpandsTo db v := by
  unfold BelowExpanded Caller.ExpandsTo
  simp only [expand_mem_roleGrants]
  constructor
  · rintro ⟨_, ⟨role, isRole, sees, rfl⟩, entered⟩
    exact ⟨role, isRole, sees, entered⟩
  · rintro ⟨role, isRole, sees, entered⟩
    exact ⟨_, ⟨role, isRole, sees, rfl⟩, entered⟩

theorem belowUnmarked_roleGrants {v : String} :
    BelowUnmarked (venueChildren db) (entityVenues db) (roleGrants db caller fuel) v ↔
      caller.ExpandsUnmarkedTo db v := by
  have sameMarks : innerMarks (roleGrants db caller fuel) = {v | caller.MarksVenue db v} :=
    Set.ext fun _ => mem_innerMarks_roleGrants ends
  unfold BelowUnmarked Caller.ExpandsUnmarkedTo
  simp only [expand_mem_roleGrants, sameMarks, mem_outerMarks_roleGrants ends]
  constructor
  · rintro ⟨_, ⟨role, isRole, sees, rfl⟩, unmarked, entered⟩
    exact ⟨role, isRole, sees, unmarked, entered⟩
  · rintro ⟨role, isRole, sees, unmarked, entered⟩
    exact ⟨_, ⟨role, isRole, sees, rfl⟩, unmarked, entered⟩

omit ends in
/-- A permutation of the roles is one of their grants, and the other way round. -/
theorem forall_roleGrants_perm {p : List (Grant String String) → Prop} :
    (∀ roles, roles.Perm caller.roles → p (roleGrants db (caller.withRoles roles) fuel)) ↔
      ∀ other, other.Perm (roleGrants db caller fuel) → p other := by
  constructor
  · intro each other perm
    obtain ⟨roles, related, permRoles⟩ := List.perm_comp_forall₂
      (r := fun grant role => grant = (roleGrant db caller fuel role).getD (.mark ∅ ∅)) perm
      (List.forall₂_map_left_iff.mpr (List.forall₂_same.mpr fun _ _ => rfl))
    have isMap : other = roleGrants db (caller.withRoles roles) fuel := by
      rw [roleGrants_withRoles, ← List.forall₂_eq_eq_eq, List.forall₂_map_right_iff]
      exact related
    rw [isMap]
    exact each roles permRoles
  · intro each roles perm
    exact each _ (perm.map _)

theorem sees_of_visibleScopes (settled : caller.VenuesSettled db) {visible : Visible}
    (computed : visibleScopes db caller fuel = some visible) : caller.Sees db visible := by
  rw [visibleScopes_eq ends] at computed
  obtain rfl := Option.some.inj computed
  have isSource := mem_ids_of_venueChildren db
  have enough := card_ids_lt_venueFuel db
  constructor
  case entities =>
    intro e
    rw [mem_outer_marksAfter isSource enough, mem_outerMarks_roleGrants ends,
      expand_mem_roleGrants]
  case venues =>
    intro v
    rw [Finset.mem_sdiff, mem_hiddenVenues, and_comm]
    refine and_congr_right fun shown => ?_
    rw [← mem_innerMarks_roleGrants ends, ← belowExpanded_roleGrants fuel]
    constructor
    · exact belowExpanded_of_mem isSource enough
    · rintro (marked | below)
      · exact mem_of_belowUnmarked isSource enough (.inl marked)
      · apply mem_of_belowUnmarked isSource enough
        rw [mem_innerMarks_roleGrants ends, belowUnmarked_roleGrants ends]
        exact settled v shown ((belowExpanded_roleGrants fuel).mp below)
  case denied => exact fun v => mem_hiddenVenues

omit ends in
theorem hiddenVenues_perm (perm : roles.Perm caller.roles) :
    hiddenVenues db (caller.withRoles roles) roles = hiddenVenues db caller caller.roles := by
  change hiddenVenues db caller roles = _
  ext v
  simp [hiddenVenues, perm.mem_iff]

theorem visibleScopes_withRoles_eq_iff (perm : roles.Perm caller.roles) :
    visibleScopes db (caller.withRoles roles) fuel = visibleScopes db caller fuel ↔
      ∀ v ∉ {v | caller.Hides db v},
        (v ∈ (marksAfter (venueChildren db) (entityVenues db) db.venueFuel
            (roleGrants db (caller.withRoles roles) fuel)).inner ↔
          v ∈ (marksAfter (venueChildren db) (entityVenues db) db.venueFuel
            (roleGrants db caller fuel)).inner) := by
  have endsToo : ∀ role ∈ (caller.withRoles roles).roles,
      (roleGrant db (caller.withRoles roles) fuel role).isSome :=
    fun role member => ends role (perm.mem_iff.mp member)
  have permGrants : (roleGrants db (caller.withRoles roles) fuel).Perm
      (roleGrants db caller fuel) := perm.map _
  rw [visibleScopes_eq ends, visibleScopes_eq endsToo, Option.some.injEq, Visible.mk.injEq,
    outer_marksAfter_perm (mem_ids_of_venueChildren db) (card_ids_lt_venueFuel db) permGrants,
    show hiddenVenues db (caller.withRoles roles) (caller.withRoles roles).roles =
      hiddenVenues db caller caller.roles from hiddenVenues_perm perm]
  simp only [true_and, and_true, Finset.ext_iff, Finset.mem_sdiff, mem_hiddenVenues]
  constructor
  · intro same v shown
    simpa [show ¬ caller.Hides db v from shown] using same v
  · intro same v
    exact and_congr_left fun shown => same v shown

/-- The visible sets do not depend on the order of the roles exactly when the roles settle
them. -/
theorem visibleScopes_perm_iff :
    (∀ roles, roles.Perm caller.roles →
      visibleScopes db (caller.withRoles roles) fuel = visibleScopes db caller fuel) ↔
    caller.VenuesSettled db := by
  have byGrants := inner_marksAfter_perm_iff (entityVenues db) (roleGrants db caller fuel)
    (mem_ids_of_venueChildren db) (card_ids_lt_venueFuel db) {v | caller.Hides db v}
  rw [← forall_roleGrants_perm] at byGrants
  refine Iff.trans (forall_congr' fun roles => forall_congr' fun perm => ?_) (byGrants.trans ?_)
  · exact visibleScopes_withRoles_eq_iff ends perm
  unfold Caller.VenuesSettled
  refine forall_congr' fun v => imp_congr Iff.rfl ?_
  rw [belowExpanded_roleGrants, mem_innerMarks_roleGrants ends, belowUnmarked_roleGrants ends]

end Ended

theorem Caller.Sees.eq {first second : Visible} (sees : caller.Sees db first)
    (too : caller.Sees db second) : first = second := by
  obtain ⟨firstEntities, firstVenues, firstDenied⟩ := first
  obtain ⟨secondEntities, secondVenues, secondDenied⟩ := second
  rw [Visible.mk.injEq]
  refine ⟨?_, ?_, ?_⟩
  · ext e
    exact (sees.entities e).trans (too.entities e).symm
  · ext v
    exact (sees.venues v).trans (too.venues v).symm
  · ext v
    exact (sees.denied v).trans (too.denied v).symm

theorem roleGrant_isSome_mono {more : ℕ} (enough : fuel ≤ more) {role : ManagementRole}
    (ends : (roleGrant db caller fuel role).isSome) : (roleGrant db caller more role).isSome := by
  unfold roleGrant at ends ⊢
  split at ends
  · rename_i sees
    rw [if_pos sees, Option.isSome_map]
    rw [Option.isSome_map] at ends
    exact stops_mono (Ascends db) (AscentStops db) ascentStops_zero ascentStops_succ enough ends
  · rename_i blind
    rw [if_neg blind]
    split <;> rfl

/-- The sets are computed with some fuel exactly when the ways up end. -/
theorem exists_roleGrants_end :
    (∃ fuel, ∀ role ∈ caller.roles, (roleGrant db caller fuel role).isSome) ↔
      caller.AscentsEnd db := by
  constructor
  · rintro ⟨fuel, ends⟩ role member sees
    have ended := ends role member
    rw [roleGrant_of_seesVenue sees, Option.isSome_map] at ended
    exact exists_ascentStops_iff.mp ⟨fuel, ended⟩
  · intro ascents
    let seen := (caller.roles.filter fun role => caller.SeesVenue role).map ManagementRole.venue
    have each : ∀ v ∈ seen, ∃ fuel, AscentStops db fuel v := by
      intro v member
      obtain ⟨role, isSeen, rfl⟩ := List.mem_map.mp member
      obtain ⟨isRole, sees⟩ := List.mem_filter.mp isSeen
      exact exists_ascentStops_iff.mpr (ascents role isRole (of_decide_eq_true sees))
    obtain ⟨fuel, ends⟩ := exists_stops_of_forall (Ascends db) (AscentStops db)
      ascentStops_zero ascentStops_succ each
    refine ⟨fuel, fun role isRole => ?_⟩
    by_cases sees : caller.SeesVenue role
    · rw [roleGrant_of_seesVenue sees, Option.isSome_map]
      exact ends _ (List.mem_map_of_mem (List.mem_filter.mpr ⟨isRole, decide_eq_true sees⟩))
    · rw [roleGrant, if_neg sees]
      split <;> rfl

end Sets

end Owprov
