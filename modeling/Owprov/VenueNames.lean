import Owprov.VenueCards

/-!
# The names of the venues of an entity

The name of a new venue is looked for among the venues of its entity by a statement into which
the texts are pasted, and an update does not look at all.  As long as no name is taken behind
the back of that check, no two venues of an entity share a name.
-/

namespace Owprov

open RowTable PartialMap Runs

/-- What is to be unique: the entity and the name, whatever the case of its letters. -/
def VenueCard.sign (card : VenueCard) : String × String :=
  (card.entity, toUpper card.name)

/-- The venues of an entity that have a name. -/
def venuesNamed (db : Store) (entity name : String) : Set String :=
  holders (fun card => card.sign = (entity, toUpper name)) (cards db)

/-- No two venues of an entity have the same name, whatever the case of its letters. -/
def UniqueVenueNames (db : Store) : Prop :=
  ∀ venue ∈ db.venueDB.rows, ∀ other ∈ db.venueDB.rows, venue.entity = other.entity →
    toUpper venue.info.name = toUpper other.info.name → venue.info.id = other.info.id

/-- Names are unique, and every venue has an entity. -/
structure VenueNames (map : String → Option VenueCard) : Prop where
  unique : UniqueBy VenueCard.sign map
  owned : ∀ id card, map id = some card → card.entity ≠ ""

section Maps

variable {map : String → Option VenueCard} {id : String}

theorem VenueNames.write (names : VenueNames map) {card : VenueCard} (owned : card.entity ≠ "")
    (free : holders (fun other => other.sign = card.sign) map ⊆ {id}) :
    VenueNames (Function.update map id (some card)) := by
  constructor
  · exact names.unique.update_some_iff.mpr free
  · intro other card' found
    by_cases same : other = id
    · rw [same, Function.update_self, Option.some.injEq] at found
      exact found ▸ owned
    · rw [Function.update_of_ne same] at found
      exact names.owned other card' found

theorem VenueNames.remove (names : VenueNames map) (id : String) :
    VenueNames (Function.update map id none) := by
  constructor
  · exact names.unique.update_none id
  · intro other card found
    by_cases same : other = id
    · rw [same, Function.update_self] at found
      cases found
    · rw [Function.update_of_ne same] at found
      exact names.owned other card found

end Maps

section Names

variable {db : Store}

theorem uniqueVenueNames_iff : UniqueVenueNames db ↔ UniqueBy VenueCard.sign (cards db) := by
  constructor
  · rintro unique value i ⟨card, isCard, sign⟩ j ⟨other, isOther, otherSign⟩
    obtain ⟨venue, found, rfl⟩ := exists_of_cards isCard
    obtain ⟨venue', found', rfl⟩ := exists_of_cards isOther
    obtain ⟨entity, name⟩ := Prod.mk.inj (sign.trans otherSign.symm)
    have same := unique venue (Table.mem_of_get? found) venue' (Table.mem_of_get? found')
      entity name
    rw [← Table.key_of_get? found, ← Table.key_of_get? found']
    exact same
  · intro unique venue member other otherMember entity name
    apply unique venue.card.sign
    · exact ⟨_, cards_of_mem member, rfl⟩
    · exact ⟨_, cards_of_mem otherMember, Prod.ext entity.symm name.symm⟩

/-- In an intact statement the check finds every venue of the entity that has the name. -/
theorem venuesNamed_of_unseen {env : Env} {name entity parent : String} (owned : entity ≠ "")
    (intact : breaksStatement (entity ++ parent ++ name) = false)
    (unseen : doesVenueNameAlreadyExist env db name entity parent = false) :
    venuesNamed db entity name = ∅ := by
  rw [Set.eq_empty_iff_forall_notMem]
  rintro id ⟨card, isCard, sign⟩
  obtain ⟨venue, found, rfl⟩ := exists_of_cards isCard
  obtain ⟨sameEntity, sameName⟩ := Prod.mk.inj sign
  unfold doesVenueNameAlreadyExist at unseen
  rw [intact] at unseen
  have missed := List.any_eq_false.mp unseen venue (Table.mem_of_get? found)
  rw [if_pos owned] at missed
  have both : (venue.entity == entity && toUpper venue.info.name == toUpper name) = true := by
    rw [Bool.and_eq_true]
    exact ⟨beq_iff_eq.mpr sameEntity, beq_iff_eq.mpr sameName⟩
  exact missed both

end Names

/-! ## Steps -/

/-- A venue that is created with texts that break the check has a name of its own. -/
def OpensApart (db : Store) (request : Request) : Prop :=
  ∀ body, request.body = some body →
    breaksStatement (namedEntity db body ++ body.stringField "parent" ++
      body.stringField "name") = true →
    venuesNamed db (namedEntity db body) (body.stringField "name") = ∅

/-- The name and the entity that an update gives a venue are those of no other venue. -/
def RenamesApart (db : Store) (request : Request) : Prop :=
  venueCommand request = none →
    ∀ existing body, db.venueDB.get? (request.getBinding "uuid") = some existing →
      request.body = some body →
      venuesNamed db (newReference body "entity" existing.entity)
        (newReference body "name" existing.info.name) ⊆ {request.getBinding "uuid"}

/-- The entry of a signup that is answered without further ado. -/
def SignupPlan.isAnswer : SignupPlan → Bool
  | .answered _ => true
  | .resent _ | .created _ => false

/-- A signup whose email breaks the check finds no venue of that name. -/
def SignsUpApart (ctx : Context) (db : Store) (request : Request) : Prop :=
  ∀ operator userName plan, subscriberDoPostPlan ctx db request = .ok (operator, userName, plan) →
    plan.isAnswer = false → breaksStatement (operator.entityId ++ userName) = true →
    venuesNamed db operator.entityId userName = ∅

/-- The names that the check does not see are not taken. -/
def NamesApart (ctx : Context) (db : Store) (request : Request) : VenueMethod → Prop
  | .venuePost => OpensApart db request
  | .venuePut => RenamesApart db request
  | .subscriberPost => SignsUpApart ctx db request
  | .venueDelete | .subscriberDelete => True

/-- One request that meets a condition if it succeeds, or another one that leaves alone what
the venues say of themselves. -/
inductive VenueNamesStep (condition : Context → Store → Request → VenueMethod → Prop)
    (db : Store) : Store → Prop
  | request (method : VenueMethod) (ctx : Context) (request : Request) :
      ctx.Fresh db →
      ((method.handle ctx db request).Succeeds → condition ctx db request method) →
      VenueNamesStep condition db (method.handle ctx db request).store
  | other {db' : Store} :
      Table.SameView Venue.card db.venueDB db'.venueDB → VenueNamesStep condition db db'

namespace VenueNames

variable {ctx : Context} {db : Store} {request : Request}

theorem venueDoPost (names : VenueNames (cards db)) (fresh : ctx.Fresh db)
    (condition : (venueDoPost ctx db request).Succeeds → OpensApart db request) :
    VenueNames (cards (venueDoPost ctx db request).store) := by
  rcases venueDoPost_cases fresh request with
    unchanged | ⟨venue, location, located, venueDB, created⟩
  · rw [unchanged]
    exact names
  · have apart : OpensApart db request := condition (by rw [created.outcome]; rfl)
    obtain ⟨body, isBody, told⟩ := saysBody_of_venueDoPostPlan created.planned
    obtain ⟨_, parentEntity⟩ := entity_of_venueDoPostPlan created.planned
    have owned : venue.entity ≠ "" := by
      rcases parentEntity with noParent | ⟨parent, isParent, entity⟩
      · exact entity_ne_of_venueDoPostPlan created.planned noParent
      · rw [← entity]
        exact names.owned _ _ (cards_of_get? isParent)
    have free : venuesNamed db venue.entity venue.info.name = ∅ := by
      cases broken : breaksStatement (venue.entity ++ venue.parent ++ venue.info.name) with
      | false => exact venuesNamed_of_unseen owned broken told.unseen
      | true =>
          rw [told.entity, told.parent, told.name] at broken
          rw [told.entity, told.name]
          exact apart body isBody broken
    rw [created.cards_eq]
    apply names.write owned
    exact free.subset.trans (Set.empty_subset _)

theorem venueDoPut (names : VenueNames (cards db))
    (condition : (venueDoPut ctx db request).Succeeds → RenamesApart db request) :
    VenueNames (cards (venueDoPut ctx db request).store) := by
  rcases venueDoPut_cases ctx db request with
    ⟨unchanged, _⟩ | ⟨plain, existing, update, located, updated⟩
  · rw [unchanged]
    exact names
  · have apart : RenamesApart db request := condition (by rw [updated.outcome]; rfl)
    obtain ⟨body, isBody, told⟩ := card_of_venueDoPutPlan updated.planned
    obtain ⟨_, _, _, _, entityMove, _⟩ := venueDoPutPlan_eq_ok updated.planned
    have owned : update.updated.entity ≠ "" := by
      rcases requiredMove_eq_ok entityMove with ⟨_, _, _, kept⟩ | ⟨_, _, _, _, filled, _⟩
      · rw [kept]
        exact names.owned _ _ (cards_of_get? updated.found)
      · exact filled
    rw [updated.cards_eq]
    apply names.write owned
    rw [told]
    exact apart plain existing body updated.found isBody

theorem venueDoDelete (names : VenueNames (cards db)) (request : Request) :
    VenueNames (cards (venueDoDelete db request).store) := by
  rcases cards_venueDoDelete db request with unchanged | ⟨existing, _, _, removed⟩
  · rw [unchanged]
    exact names
  · rw [removed]
    exact names.remove _

theorem createSubscriberVenue (names : VenueNames (cards db))
    (unused : db.venueDB.get? (ctx.newId 1) = none) {operator : Operator}
    (owned : operator.entityId ≠ "") {userName userId : String}
    (apart : breaksStatement (operator.entityId ++ userName) = true →
      venuesNamed db operator.entityId userName = ∅) :
    VenueNames (cards (createSubscriberVenue ctx db operator userName userId).store) := by
  rcases createSubscriberVenue_cases unused with
    ⟨_, kept⟩ | ⟨unseen, db', made, _, _, written⟩
  · rw [kept]
    exact names
  · have free : venuesNamed db operator.entityId userName = ∅ := by
      cases broken : breaksStatement (operator.entityId ++ userName) with
      | false =>
          apply venuesNamed_of_unseen owned _ unseen
          rw [String.append_empty]
          exact broken
      | true => exact apart broken
    rw [made, Outcome.store_done, written]
    apply names.write owned
    exact free.subset.trans (Set.empty_subset _)

theorem subscriberDoPost (names : VenueNames (cards db)) (fresh : ctx.Fresh db)
    (condition : (subscriberDoPost ctx db request).Succeeds → SignsUpApart ctx db request) :
    VenueNames (cards (subscriberDoPost ctx db request).store) := by
  have opened : ∀ {signupDB : Table SignupEntry} {operator : Operator} {userName : String}
      {plan : SignupPlan} (userId : String),
      subscriberDoPostPlan ctx db request = .ok (operator, userName, plan) →
      plan.isAnswer = false → SignsUpApart ctx db request →
      VenueNames (cards (Owprov.createSubscriberVenue ctx { db with signupDB := signupDB }
        operator userName userId).store) := by
    intro signupDB operator userName plan userId planned unanswered apart
    have same : VenueNames (cards { db with signupDB := signupDB }) := names
    exact same.createSubscriberVenue (fresh.venue 1) (operator_of_subscriberDoPostPlan planned)
      (apart operator userName plan planned unanswered)
  unfold Owprov.subscriberDoPost at condition ⊢
  split
  · exact names
  · exact names
  · rename_i planned
    rw [planned] at condition
    exact opened _ planned rfl (condition (createSubscriberVenue_succeeds (fresh.venue 1)))
  · rename_i planned
    rw [planned] at condition
    exact opened _ planned rfl (condition (createSubscriberVenue_succeeds (fresh.venue 1)))

theorem subscriberDoDelete (names : VenueNames (cards db)) (request : Request) :
    VenueNames (cards (subscriberDoDelete ctx db request).store) := by
  unfold Owprov.subscriberDoDelete
  split
  · exact names
  · rename_i subscriberId signup _
    have cleared : VenueNames
        (cards (deleteSubscriberVenues (subscriberVenues db subscriberId) db).store) :=
      deleteSubscriberVenues_induction (fun _ id names => names.remove id) _ names
    dsimp only
    split
    · exact cleared
    · split
      · exact cleared
      · exact cleared

theorem step {db' : Store} (names : VenueNames (cards db))
    (isStep : VenueNamesStep NamesApart db db') : VenueNames (cards db') := by
  cases isStep with
  | request method ctx request fresh condition =>
      cases method <;> dsimp only [VenueMethod.handle, NamesApart] at condition ⊢
      case venuePost => exact names.venueDoPost fresh condition
      case venuePut => exact names.venueDoPut condition
      case venueDelete => exact names.venueDoDelete request
      case subscriberPost => exact names.subscriberDoPost fresh condition
      case subscriberDelete => exact names.subscriberDoDelete request
  | other same =>
      rw [cards_congr same]
      exact names

end VenueNames

theorem venueNames_start {db : Store} (start : ServiceStart db) : VenueNames (cards db) := by
  have noCards : cards db = fun _ => none := by
    cases start with
    | bare => rfl
    | served operatorId serviceId _ => rfl
  rw [noCards]
  constructor
  · rintro value i ⟨card, ⟨⟩, _⟩
  · rintro id card ⟨⟩

/-- As long as every name is free that the check does not look for, or does not see, no two
venues of an entity share their name. -/
theorem unique_venue_names_of_run {db : Store}
    (reached : Reachable ServiceStart (VenueNamesStep NamesApart) db) : UniqueVenueNames db := by
  rw [uniqueVenueNames_iff]
  have names : VenueNames (cards db) :=
    @Reachable.invariant _ _ _ (fun db => VenueNames (cards db)) db reached
      (fun _ => venueNames_start) fun _ _ => VenueNames.step
  exact names.unique

/-- The condition on updates is exact. -/
theorem uniqueVenueNames_venueDoPut_iff {ctx : Context} {db : Store} {request : Request}
    (names : VenueNames (cards db)) (succeeds : (venueDoPut ctx db request).Succeeds) :
    UniqueVenueNames (venueDoPut ctx db request).store ↔ RenamesApart db request := by
  constructor
  · intro unique plain existing body isExisting isBody
    rcases venueDoPut_cases ctx db request with
      ⟨_, command | failed⟩ | ⟨_, existing', update, located, updated⟩
    · simp [plain] at command
    · exact absurd succeeds failed
    · obtain ⟨body', isBody', told⟩ := card_of_venueDoPutPlan updated.planned
      obtain rfl := Option.some.inj (updated.found.symm.trans isExisting)
      obtain rfl := Option.some.inj (isBody'.symm.trans isBody)
      rw [uniqueVenueNames_iff, updated.cards_eq, names.unique.update_some_iff, told] at unique
      exact unique
  · intro apart
    rw [uniqueVenueNames_iff]
    exact (names.venueDoPut fun _ => apart).unique

/-! ### A name that is given twice -/

def renameRequest (venueId name : String) : Request where
  method := .put
  uri := "/api/v1/venue/" ++ venueId
  bindings := [("uuid", venueId)]
  body := some [("name", .str name)]

section Runs

variable {condition : Context → Store → Request → VenueMethod → Prop}

/-- The database with an entity. -/
def oneCampus : Store :=
  (EntityMethod.entityPost.handle (rootContext 14) initialStore entityRequest).store

theorem twoVenues_named
    (north : condition (rootContext 20) oneCampus (venueRequest "North") .venuePost)
    (south : condition (rootContext 30) oneVenue (venueRequest "South") .venuePost) :
    Reachable ServiceStart (VenueNamesStep condition) twoVenues := by
  have campusStored : VenueNamesStep condition initialStore oneCampus := by
    apply VenueNamesStep.other
    rw [oneCampus, EntityMethod.venueDB_handle]
    exact .refl _ _
  have northStored : VenueNamesStep condition oneCampus oneVenue :=
    .request .venuePost (rootContext 20) (venueRequest "North")
      (rootContext_fresh (by decide)) fun _ => north
  exact .step (.step (.step (.start .bare) campusStored) northStored)
    (.request .venuePost (rootContext 30) (venueRequest "South")
      (rootContext_fresh (by decide)) fun _ => south)

end Runs

/-- An update gives a venue the name of another one. -/
theorem sibling_renamed_alike :
    ¬ ∀ db, Reachable ServiceStart (VenueNamesStep fun _ _ _ _ => True) db →
      UniqueVenueNames db := by
  intro claim
  have renamed : VenueNamesStep (fun _ _ _ _ => True) twoVenues
      (venueDoPut (rootContext 40) twoVenues (renameRequest (unaryId 31) "north")).store :=
    .request .venuePut (rootContext 40) (renameRequest (unaryId 31) "north")
      (rootContext_fresh (by decide)) fun _ => trivial
  have unique := claim _ (.step (twoVenues_named trivial trivial) renamed)
  have alike : ∃ venue ∈ (venueDoPut (rootContext 40) twoVenues
        (renameRequest (unaryId 31) "north")).store.venueDB.rows,
      ∃ other ∈ (venueDoPut (rootContext 40) twoVenues
        (renameRequest (unaryId 31) "north")).store.venueDB.rows,
      venue.entity = other.entity ∧ toUpper venue.info.name = toUpper other.info.name ∧
        venue.info.id ≠ other.info.id := by
    decide
  obtain ⟨venue, member, other, otherMember, entity, name, apart⟩ := alike
  exact apart (unique venue member other otherMember entity name)

theorem unique_venue_names_after_rename :
    ∃ db, (db.venueDB.rows.map fun venue => (venue.entity, venue.info.name)) =
        [(unaryId 16, "North"), (unaryId 16, "East")] ∧
      UniqueVenueNames db := by
  have north : NamesApart (rootContext 20) oneCampus (venueRequest "North") .venuePost := by
    rintro body ⟨⟩ broken
    exact absurd broken (by decide)
  have south : NamesApart (rootContext 30) oneVenue (venueRequest "South") .venuePost := by
    rintro body ⟨⟩ broken
    exact absurd broken (by decide)
  have free : ∀ venue ∈ twoVenues.venueDB.rows, venue.card.sign ≠ (unaryId 16, "EAST") := by
    decide
  have placed : (twoVenues.venueDB.get? (unaryId 31)).map Venue.entity = some (unaryId 16) := by
    decide
  have apart : RenamesApart twoVenues (renameRequest (unaryId 31) "East") := by
    have upper : toUpper "East" = "EAST" := by decide
    rintro _ existing body found ⟨⟩ id ⟨card, isCard, sign⟩
    rw [show twoVenues.venueDB.get? (unaryId 31) = some existing from found, Option.map_some,
      Option.some.injEq] at placed
    obtain ⟨venue, isVenue, rfl⟩ := exists_of_cards isCard
    refine absurd (sign.trans ?_) (free venue (Table.mem_of_get? isVenue))
    exact Prod.ext placed upper
  exact ⟨(venueDoPut (rootContext 40) twoVenues (renameRequest (unaryId 31) "East")).store,
    by decide,
    unique_venue_names_of_run (.step (twoVenues_named north south)
      (.request .venuePut (rootContext 40) _ (rootContext_fresh (by decide))
        fun _ => apart))⟩

end Owprov
