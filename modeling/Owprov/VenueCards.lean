import Owprov.Lib.PartialMaps
import Owprov.LiveScopes
import Owprov.SubscriberHandlers
import Owprov.VenueHierarchy

/-!
# The cards of the venues

What a venue says of itself: its name, its entity and its subscriber.  A request on venues or
subscribers writes the card of one venue at most, apart from the deletion of a subscriber.
-/

namespace Owprov

open RowTable PartialMap

/-- What a venue says of itself. -/
structure VenueCard where
  name : String
  entity : String
  subscriber : String
  deriving DecidableEq, Repr

def Venue.card (venue : Venue) : VenueCard where
  name := venue.info.name
  entity := venue.entity
  subscriber := venue.subscriber

/-- The cards of the stored venues by the ids of these. -/
def cards (db : Store) (id : String) : Option VenueCard :=
  (db.venueDB.get? id).map Venue.card

section Tables

variable {db db' : Store}

theorem cards_of_get? {id : String} {venue : Venue} (found : db.venueDB.get? id = some venue) :
    cards db id = some venue.card := by
  rw [cards, found, Option.map_some]

theorem cards_of_mem {venue : Venue} (member : venue ∈ db.venueDB.rows) :
    cards db venue.info.id = some venue.card :=
  cards_of_get? (Table.get?_key_of_mem member)

theorem exists_of_cards {id : String} {card : VenueCard} (found : cards db id = some card) :
    ∃ venue, db.venueDB.get? id = some venue ∧ venue.card = card :=
  Option.map_eq_some_iff.mp found

theorem cards_congr (same : Table.SameView Venue.card db.venueDB db'.venueDB) :
    cards db' = cards db :=
  funext same

theorem cards_insert {venue : Venue} {venueDB : Table Venue}
    (inserted : db.venueDB.insert? venue = some venueDB)
    (same : Table.SameView Venue.card venueDB db'.venueDB) :
    cards db' = Function.update (cards db) venue.info.id (some venue.card) := by
  funext id
  refine (same id).trans ?_
  rw [Table.get?_insert? inserted, show key venue = venue.info.id from rfl]
  by_cases equal : id = venue.info.id
  · rw [if_pos equal, equal, Function.update_self, Option.map_some]
  · rw [if_neg equal, Function.update_of_ne equal, cards]

theorem cards_update {old new : Venue} (found : db.venueDB.get? new.info.id = some old)
    (same : Table.SameView Venue.card (db.venueDB.update new) db'.venueDB) :
    cards db' = Function.update (cards db) new.info.id (some new.card) := by
  funext id
  refine (same id).trans ?_
  rw [Table.get?_update, show key new = new.info.id from rfl]
  by_cases equal : id = new.info.id
  · rw [if_pos equal, equal, Function.update_self, found, Option.map_some, Option.map_some]
  · rw [if_neg equal, Function.update_of_ne equal, cards]

theorem cards_delete {middle : Table Venue} {id : String}
    (same : Table.SameView Venue.card db.venueDB middle)
    (deleted : db'.venueDB = middle.delete id) :
    cards db' = Function.update (cards db) id none := by
  funext other
  rw [cards, deleted, Table.get?_delete]
  by_cases equal : other = id
  · rw [if_pos equal, equal, Function.update_self, Option.map_none]
  · rw [if_neg equal, Function.update_of_ne equal]
    exact same other

end Tables

/-! ## What the requests say -/

section Texts

variable {ctx : Context} {db : Store} {request : Request}

theorem name_of_createObjectInfo {body : JsonObject} {info : ObjectInfo} {newId : String}
    (created : createObjectInfo body (ObjectInfo.fromJson body) newId = .ok info) :
    info.name = body.stringField "name" := by
  unfold createObjectInfo at created
  obtain ⟨name, named, created⟩ := bind_eq_ok_iff.mp created
  split at created
  · cases created
  · obtain ⟨description, _, created⟩ := bind_eq_ok_iff.mp created
    cases created
    unfold JsonObject.assignIfPresent at named
    split at named
    · exact (stringField_of_getString named).symm
    · exact (Except.ok.inj named).symm

theorem name_of_updateObjectInfo {body : JsonObject} {info info' : ObjectInfo}
    (updated : updateObjectInfo body info = .ok info') :
    info'.name = newReference body "name" info.name := by
  unfold updateObjectInfo at updated
  obtain ⟨name, named, updated⟩ := bind_eq_ok_iff.mp updated
  split at updated
  · cases updated
  · obtain ⟨description, _, updated⟩ := bind_eq_ok_iff.mp updated
    cases updated
    unfold JsonObject.assignIfPresent at named
    unfold newReference
    split at named
    · rename_i present
      rw [if_pos present, stringField_of_getString named]
    · rename_i absent
      rw [if_neg absent]
      exact (Except.ok.inj named).symm

/-- The entity that the body of a new venue names, by itself or by its parent. -/
def namedEntity (db : Store) (body : JsonObject) : String :=
  if body.stringField "parent" = "" then
    body.stringField "entity"
  else
    ((db.venueDB.get? (body.stringField "parent")).map Venue.entity).getD ""

theorem newVenueEntity_eq_namedEntity {newObject : Venue} {body : JsonObject} {entity : String}
    (parent : newObject.parent = body.stringField "parent")
    (own : newObject.entity = body.stringField "entity")
    (found : newVenueEntity db newObject = .ok entity) : entity = namedEntity db body := by
  unfold newVenueEntity at found
  unfold namedEntity
  rw [parent] at found
  split at found
  · rename_i noParent
    rw [if_pos noParent, ← own]
    exact (Except.ok.inj found).symm
  · rename_i hasParent
    rw [if_neg hasParent]
    split at found
    · cases found
    · rename_i parentVenue isParent
      rw [isParent, Option.map_some, Option.getD_some]
      exact (Except.ok.inj found).symm

/-- A new venue says what the body says, and its name was looked for in its entity. -/
structure SaysBody (ctx : Context) (db : Store) (body : JsonObject) (venue : Venue) : Prop where
  name : venue.info.name = body.stringField "name"
  parent : venue.parent = body.stringField "parent"
  entity : venue.entity = namedEntity db body
  subscriber : venue.subscriber = body.stringField "subscriber"
  unseen : doesVenueNameAlreadyExist ctx.env db venue.info.name venue.entity venue.parent = false

theorem texts_of_venueFromJson {body : JsonObject} {venue : Venue}
    (read : Venue.fromJson body = .ok venue) :
    venue.info = ObjectInfo.fromJson body ∧ venue.parent = body.stringField "parent" ∧
      venue.entity = body.stringField "entity" ∧
      venue.subscriber = body.stringField "subscriber" := by
  unfold Venue.fromJson at read
  rw [orInvalid_eq_ok_iff] at read
  simp only [bind_eq_ok_iff] at read
  obtain ⟨_, _, _, _, _, _, _, _, _, _, _, _, read⟩ := read
  obtain ⟨_, _, _, _, _, _, _, _, _, _, _, _, read⟩ := read
  obtain rfl := Except.ok.inj read
  exact ⟨rfl, rfl, rfl, rfl⟩

theorem saysBody_of_venueDoPostPlan {venue : Venue} {location : Option Location}
    (planned : venueDoPostPlan ctx db request = .ok (venue, location)) :
    ∃ body, request.body = some body ∧ SaysBody ctx db body venue := by
  simp only [venueDoPostPlan, bind_eq_ok_iff, require_eq_ok_iff] at planned
  obtain ⟨_, _, body, isBody, newObject, read, _, _, info, created, _, _, planned⟩ := planned
  obtain ⟨_, _, entity, placed, _, _, _, _, _, unseen, planned⟩ := planned
  obtain ⟨_, _, _, _, _, _, _, _, _, _, inline, _, planned⟩ := planned
  obtain ⟨sameInfo, parent, own, subscriber⟩ := texts_of_venueFromJson read
  rw [sameInfo] at created
  obtain ⟨rfl, _⟩ := Prod.mk.inj (Except.ok.inj planned)
  refine ⟨body, body_of_jsonBody isBody, ?_⟩
  constructor
  case name => exact name_of_createObjectInfo created
  case parent => exact parent
  case entity => exact newVenueEntity_eq_namedEntity parent own placed
  case subscriber => exact subscriber
  case unseen => simpa using unseen

/-- What an update says of a venue is read from its body, and nobody else gets the venue. -/
theorem card_of_venueDoPutPlan {existing : Venue} {update : VenueUpdate}
    (planned : venueDoPutPlan ctx db request existing = .ok update) :
    ∃ body, request.body = some body ∧
      update.updated.card =
        { name := newReference body "name" existing.info.name
          entity := newReference body "entity" existing.entity
          subscriber := existing.subscriber } := by
  obtain ⟨body, isBody, _, _, entityMove, _⟩ := venueDoPutPlan_eq_ok planned
  have entity := value_eq_newReference entityMove
  simp only [venueDoPutPlan, bind_eq_ok_iff, require_eq_ok_iff] at planned
  obtain ⟨body', read, newObject, _, _, _, info, updated, _, _, _, _, planned⟩ := planned
  obtain ⟨_, _, _, _, _, _, _, _, _, _, inline, _, planned⟩ := planned
  obtain rfl := Except.ok.inj planned
  obtain rfl := Option.some.inj (isBody.symm.trans (body_of_jsonBody read))
  refine ⟨body, isBody, ?_⟩
  rw [← entity, ← name_of_updateObjectInfo updated]
  rfl

end Texts

/-! ## What the requests write -/

section Requests

variable {ctx : Context} {db : Store} {request : Request}

theorem VenueCreated.cards_eq {venue : Venue} {location : Option Location} {located : Store}
    {venueDB : Table Venue}
    (created : VenueCreated ctx db request venue location located venueDB) :
    cards (venueDoPost ctx db request).store =
      Function.update (cards db) venue.info.id (some venue.card) := by
  obtain ⟨sameVenues, _⟩ := storeInlineLocation_eq_ok created.stored
  have inserted : db.venueDB.insert? venue = some venueDB := by
    rw [← sameVenues]
    exact created.inserted
  apply cards_insert inserted
  rw [created.outcome, Outcome.store_done]
  have moved : Table.SameView Venue.card venueDB
      (moveVenue { located with venueDB := venueDB } venue.arrivals venue.info.id).venueDB :=
    sameView_manageMembership (fun _ _ => rfl) _ _ _
  exact moved.trans (sameVenues_autoCreateCreatorRole ctx _ _ _ _ _ fun _ _ => rfl)

theorem VenueUpdated.cards_eq {existing : Venue} {update : VenueUpdate} {located : Store}
    (updated : VenueUpdated ctx db request existing update located) :
    cards (venueDoPut ctx db request).store =
      Function.update (cards db) (request.getBinding "uuid") (some update.updated.card) := by
  obtain ⟨sameVenues, _⟩ := storeInlineLocation_eq_ok updated.stored
  have found : db.venueDB.get? update.updated.info.id = some existing := by
    rw [updated.id_eq]
    exact updated.found
  rw [← updated.id_eq]
  apply cards_update found
  rw [updated.outcome, Outcome.store_done, moveVenue_venueDB, sameVenues]
  exact sameView_manageMembership (fun _ _ => rfl) _ _ _

theorem subscriber_of_venueDoDeletePlan {existing : Venue}
    (planned : venueDoDeletePlan db request = .ok existing) : existing.subscriber = "" := by
  unfold venueDoDeletePlan at planned
  dsimp only at planned
  split at planned
  · cases planned
  · simp only [bind_eq_ok_iff, require_eq_ok_iff] at planned
    obtain ⟨_, _, _, _, _, nobody, planned⟩ := planned
    cases planned
    exact eq_of_beq nobody

/-- A venue of a subscriber is not deleted. -/
theorem cards_venueDoDelete (db : Store) (request : Request) :
    (venueDoDelete db request).store = db ∨
      ∃ existing, db.venueDB.get? existing.info.id = some existing ∧ existing.subscriber = "" ∧
        cards (venueDoDelete db request).store =
          Function.update (cards db) existing.info.id none := by
  rcases venueDoDelete_cases db request with unchanged | ⟨existing, planned, deleted⟩
  · exact Or.inl unchanged
  · obtain ⟨found, _⟩ := venueDoDeletePlan_eq_ok planned
    have moved : Table.SameView Venue.card db.venueDB
        (moveVenue db existing.departures existing.info.id).venueDB :=
      sameView_manageMembership (fun _ _ => rfl) _ _ _
    refine Or.inr ⟨existing, found, subscriber_of_venueDoDeletePlan planned, ?_⟩
    apply cards_delete moved
    rw [deleted]
    dsimp only
    rw [deleteScopeRoles_venueDB]

/-! ### Subscribers -/

/-- The venue of a subscriber, unless there is one of that name. -/
theorem createSubscriberVenue_cases {operator : Operator} {userName userId : String}
    (free : db.venueDB.get? (ctx.newId 1) = none) :
    (doesVenueNameAlreadyExist ctx.env db userName operator.entityId "" = true ∧
      createSubscriberVenue ctx db operator userName userId = .done db) ∨
    (doesVenueNameAlreadyExist ctx.env db userName operator.entityId "" = false ∧
      ∃ db', createSubscriberVenue ctx db operator userName userId = .done db' ∧
        db'.signupDB = db.signupDB ∧ db'.operatorDB = db.operatorDB ∧
        cards db' = Function.update (cards db) (ctx.newId 1)
          (some { name := userName, entity := operator.entityId, subscriber := userId })) := by
  unfold createSubscriberVenue
  by_cases taken : doesVenueNameAlreadyExist ctx.env db userName operator.entityId "" = true
  · rw [if_pos taken]
    exact Or.inl ⟨taken, rfl⟩
  · rw [if_neg taken]
    let subscriberVenue : Venue :=
      { info := { id := ctx.newId 1, name := userName }
        entity := operator.entityId
        subscriber := userId }
    have unused : db.venueDB.get? (key subscriberVenue) = none := free
    obtain ⟨venueDB, inserted⟩ := Table.insert?_isSome unused
    refine Or.inr ⟨by simpa using taken, ?_⟩
    dsimp only
    rw [inserted]
    exact ⟨_, rfl, rfl, rfl, cards_insert inserted (.refl _ _)⟩

theorem createSubscriberVenue_succeeds {operator : Operator} {userName userId : String}
    (free : db.venueDB.get? (ctx.newId 1) = none) :
    (createSubscriberVenue ctx db operator userName userId).Succeeds := by
  rcases createSubscriberVenue_cases free with ⟨_, kept⟩ | ⟨_, db', made, _⟩
  · rw [kept]
    rfl
  · rw [made]
    rfl

/-- When the deletion of the venues of a subscriber comes to its end, they are gone. -/
theorem cards_deleteSubscriberVenues {venues : List Venue}
    (succeeds : (deleteSubscriberVenues venues db).Succeeds) (id : String) :
    cards (deleteSubscriberVenues venues db).store id =
      if id ∈ venues.map fun venue => venue.info.id then none else cards db id := by
  induction venues generalizing db with
  | nil => rfl
  | cons venue venues ih =>
      unfold deleteSubscriberVenues at succeeds ⊢
      split at succeeds
      · rename_i empty
        have deleted : cards
            { db with
              entityDB := removeMembership db.entityDB Entity.venuesMember venue.entity
                venue.info.id
              venueDB := db.venueDB.delete venue.info.id } =
            Function.update (cards db) venue.info.id none := cards_delete (.refl _ _) rfl
        rw [if_pos empty, ih succeeds, deleted]
        simp only [List.map_cons, List.mem_cons]
        by_cases first : id = venue.info.id
        · rw [if_pos (Or.inl first), first, Function.update_self, ite_self]
        · simp only [Function.update_of_ne first, first, false_or]
      · exact absurd succeeds (by rintro ⟨⟩)

/-- Also a deletion that stops on its way only removes cards. -/
theorem deleteSubscriberVenues_induction {property : (String → Option VenueCard) → Prop}
    (removed : ∀ map id, property map → property (Function.update map id none))
    (venues : List Venue) (initially : property (cards db)) :
    property (cards (deleteSubscriberVenues venues db).store) := by
  induction venues generalizing db with
  | nil => exact initially
  | cons venue venues ih =>
      unfold deleteSubscriberVenues
      split
      · apply ih
        rw [cards_delete (.refl _ _) rfl]
        exact removed _ _ initially
      · exact initially

end Requests

/-! ## Requests on venues and subscribers -/

/-- The requests that create, update and delete venues, those of subscribers included. -/
inductive VenueMethod where
  | venuePost
  | venuePut
  | venueDelete
  | subscriberPost
  | subscriberDelete

/-- What the handler of a request does to the database. -/
def VenueMethod.handle (ctx : Context) (db : Store) (request : Request) : VenueMethod → Outcome
  | .venuePost => venueDoPost ctx db request
  | .venuePut => venueDoPut ctx db request
  | .venueDelete => venueDoDelete db request
  | .subscriberPost => subscriberDoPost ctx db request
  | .subscriberDelete => subscriberDoDelete ctx db request

end Owprov
