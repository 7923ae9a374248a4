import Owprov.SignupLifecycle
import Owprov.SubscriberGateways
import Owprov.VenueCards

/-!
# The venue of a subscriber

A signup ensures that there is a venue for the subscriber, in the entity of the operator, and
looks for it by its name only.  As long as nobody takes that name, moves the venue away or gives
another venue to the subscriber, every signup entry has exactly one venue.
-/

namespace Owprov

open RowTable PartialMap Runs

/-! ## Own venues -/

/-- The venues of a subscriber. -/
def venuesOf (map : String → Option VenueCard) (userId : String) : Set String :=
  holders (fun card => card.subscriber = userId) map

section VenuesOf

variable {map : String → Option VenueCard} {userId id : String} {card : VenueCard}

theorem venuesOf_write_own (owner : card.subscriber = userId) :
    venuesOf (Function.update map id (some card)) userId = insert id (venuesOf map userId) :=
  holders_update_of_holds (fun card : VenueCard => card.subscriber = userId) owner

theorem venuesOf_write_other (other : card.subscriber ≠ userId) :
    venuesOf (Function.update map id (some card)) userId = venuesOf map userId \ {id} :=
  holders_update_of_fails (fun card : VenueCard => card.subscriber = userId) other

end VenuesOf

/-- The subscriber has exactly one venue, and it is in the entity. -/
def OwnVenue (map : String → Option VenueCard) (userId entity : String) : Prop :=
  ∃ id name, venuesOf map userId = {id} ∧
    map id = some { name, entity, subscriber := userId }

namespace OwnVenue

variable {map map' : String → Option VenueCard} {userId entity id : String} {card : VenueCard}

theorem create (nothing : venuesOf map userId = ∅) (name : String) :
    OwnVenue (Function.update map id (some { name, entity, subscriber := userId })) userId
      entity := by
  refine ⟨id, name, ?_, Function.update_self _ _ _⟩
  rw [venuesOf_write_own rfl, nothing]
  exact insert_empty_eq id

/-- The venue of somebody else is written. -/
theorem write_other (own : OwnVenue map userId entity) (other : card.subscriber ≠ userId)
    (apart : id ∉ venuesOf map userId) :
    OwnVenue (Function.update map id (some card)) userId entity := by
  obtain ⟨own, name, only, found⟩ := own
  have differ : own ≠ id := by
    rintro rfl
    exact apart (only ▸ Set.mem_singleton own)
  refine ⟨own, name, ?_, ?_⟩
  · rw [venuesOf_write_other other, Set.sdiff_singleton_eq_self apart, only]
  · rw [Function.update_of_ne differ, found]

/-- The venue of the subscriber is written, and stays in its entity. -/
theorem write_same (own : OwnVenue map userId entity) (owner : card.subscriber = userId)
    (stays : card.entity = entity) (there : id ∈ venuesOf map userId) :
    OwnVenue (Function.update map id (some card)) userId entity := by
  obtain ⟨own, name, only, found⟩ := own
  rw [only, Set.mem_singleton_iff] at there
  subst there
  refine ⟨id, card.name, ?_, ?_⟩
  · rw [venuesOf_write_own owner, only]
    exact Set.insert_eq_of_mem (Set.mem_singleton id)
  · rw [Function.update_self, ← stays, ← owner]

/-- Venues go away, but not that of the subscriber. -/
theorem restrict (own : OwnVenue map userId entity)
    (part : ∀ id card, map' id = some card → map id = some card)
    (kept : ∀ id ∈ venuesOf map userId, map' id = map id) :
    OwnVenue map' userId entity := by
  obtain ⟨own, name, only, found⟩ := own
  have member : own ∈ venuesOf map userId :=
    only ▸ Set.mem_singleton own
  refine ⟨own, name, ?_, (kept own member).trans found⟩
  rw [← only]
  ext id
  constructor
  · rintro ⟨card, isCard, holds⟩
    exact ⟨card, part id card isCard, holds⟩
  · intro holds
    obtain ⟨card, isCard, owner⟩ := holds
    exact ⟨card, (kept id ⟨card, isCard, owner⟩).trans isCard, owner⟩

theorem remove (own : OwnVenue map userId entity)
    (apart : id ∉ venuesOf map userId) :
    OwnVenue (Function.update map id none) userId entity := by
  apply own.restrict
  · intro other card found
    by_cases same : other = id
    · rw [same, Function.update_self] at found
      cases found
    · rwa [Function.update_of_ne same] at found
  · intro other holds
    have differ : other ≠ id := by
      rintro rfl
      exact apart holds
    exact Function.update_of_ne differ _ _

end OwnVenue

/-! ## Bonds -/

/-- What a signup entry binds together: its user and its operator. -/
def SignupEntry.bond (entry : SignupEntry) : String × String :=
  (entry.userId, entry.operatorId)

/-- The bonds of the signup entries by the ids of these. -/
def bonds (db : Store) (id : String) : Option (String × String) :=
  (db.signupDB.get? id).map SignupEntry.bond

/-- The entity of an operator. -/
def operatorEntity (db : Store) (id : String) : Option String :=
  (db.operatorDB.get? id).map Operator.entityId

/-- The venues, the signup entries and the entities of the operators are left alone; other
operators may be new. -/
structure SameBonds (db db' : Store) : Prop where
  cards : cards db' = cards db
  bonds : bonds db' = bonds db
  operators : ∀ id entity, operatorEntity db id = some entity → operatorEntity db' id = some entity

namespace SameBonds

variable {ctx : Context} {db db' db'' : Store} {device : SubscriberDevice}

theorem refl (db : Store) : SameBonds db db :=
  ⟨rfl, rfl, fun _ _ found => found⟩

theorem trans (same : SameBonds db db') (same' : SameBonds db' db'') : SameBonds db db'' where
  cards := same'.cards.trans same.cards
  bonds := same'.bonds.trans same.bonds
  operators id entity found := same'.operators id entity (same.operators id entity found)

theorem of_tables (venues : Table.SameView Venue.card db.venueDB db'.venueDB)
    (signupDB : db'.signupDB = db.signupDB) (operatorDB : db'.operatorDB = db.operatorDB) :
    SameBonds db db' := by
  constructor
  case cards => exact cards_congr venues
  case bonds =>
    funext id
    rw [Owprov.bonds, Owprov.bonds, signupDB]
  case operators =>
    intro id entity found
    rwa [operatorEntity, operatorDB]

theorem createInventoryRecord {newId : String}
    (entered : createInventoryRecord db device newId = some db') : SameBonds db db' := by
  unfold Owprov.createInventoryRecord at entered
  dsimp only at entered
  split at entered
  · obtain rfl := Option.some.inj entered
    exact .of_tables (sameView_manageMembership (fun _ _ => rfl) _ _ _) rfl rfl
  · obtain ⟨inventoryDB, _, rfl⟩ := Option.map_eq_some_iff.mp entered
    exact .of_tables (sameView_manageMembership (fun _ _ => rfl) _ _ _) rfl rfl

theorem startMonitoring (db : Store) (device : SubscriberDevice) :
    SameBonds db (startMonitoring ctx db device) := by
  unfold Owprov.startMonitoring
  split
  · exact .refl _
  · split
    · exact .refl _
    · split
      · exact .refl _
      · refine of_tables ?_ rfl rfl
        apply Table.SameView.modify
        · exact fun _ => rfl
        · exact fun _ => rfl

theorem stopMonitoring (stopped : stopMonitoring ctx db device = some db') : SameBonds db db' := by
  unfold Owprov.stopMonitoring at stopped
  split at stopped
  · obtain rfl := Option.some.inj stopped
    exact .refl _
  · rename_i venue isVenue
    split at stopped
    · obtain rfl := Option.some.inj stopped
      exact .refl _
    · split at stopped
      · obtain rfl := Option.some.inj stopped
        have found : db.venueDB.get? venue.info.id = some venue :=
          Table.get?_key_of_mem (getBy_mem isVenue)
        exact .of_tables (.update found rfl) rfl rfl
      · cases stopped

theorem cleanup (db : Store) (id inventoryId : String) :
    SameBonds db (cleanupSubscriberConfigurationRecord db id inventoryId) := by
  rw [tables_cleanupSubscriberConfigurationRecord]
  exact .of_tables (.refl _ _) rfl rfl

theorem deleteInventory (db : Store) (device : SubscriberDevice) :
    SameBonds db (deleteInventoryForSubscriberDevice db device) := by
  unfold deleteInventoryForSubscriberDevice
  split
  · exact .cleanup _ _ _
  · dsimp only
    rw [tables_cleanups]
    exact .of_tables (sameView_manageMembership (fun _ _ => rfl) _ _ _) rfl rfl

theorem storeSubDevice (db : Store) (put : SubDevicePut) (projected : SubscriberDevice) :
    SameBonds db (storeSubDevice db put projected) := by
  have stored : SameBonds db
      { db with subscriberDeviceDB := db.subscriberDeviceDB.update projected } :=
    .of_tables (.refl _ _) rfl rfl
  unfold Owprov.storeSubDevice
  dsimp only
  split
  · exact stored.trans (.cleanup _ _ _)
  · exact stored

theorem syncInventory (db : Store) (body : JsonObject) (device : SubscriberDevice)
    (updated : Bool) : SameBonds db (syncInventory ctx db body device updated).store := by
  unfold Owprov.syncInventory
  split
  · split
    · exact .refl _
    · rename_i synced isSynced
      exact .createInventoryRecord isSynced
  · exact .refl _

theorem subDeviceDoPost (ctx : Context) (db : Store) (request : Request) :
    SameBonds db (subDeviceDoPost ctx db request).store := by
  unfold Owprov.subDeviceDoPost
  split
  · exact .refl _
  · split
    · exact .refl _
    · rename_i configured device created
      have configured' : SameBonds db configured := by
        rcases createConfigurationRecord_eq_ok created with
          ⟨same, _⟩ | ⟨record, configurationDB, _, _, same, _⟩
        · rw [same]
          exact .refl _
        · rw [same]
          exact .of_tables (.refl _ _) rfl rfl
      split
      · exact configured'
      · dsimp only
        split
        · exact configured'
        · rename_i subscriberDeviceDB _
          have stored : SameBonds db { configured with subscriberDeviceDB := subscriberDeviceDB } :=
            configured'.trans (.of_tables (.refl _ _) rfl rfl)
          split
          · exact configured'.trans (.of_tables (.refl _ _) rfl rfl)
          · rename_i entered isEntered
            exact (stored.trans (.createInventoryRecord isEntered)).trans (.startMonitoring _ _)

theorem subDeviceDoPut (ctx : Context) (db : Store) (request : Request) :
    SameBonds db (subDeviceDoPut ctx db request).store := by
  unfold Owprov.subDeviceDoPut
  split
  · exact .refl _
  · split
    · exact .refl _
    · rename_i configured updated
      have configured' : SameBonds db configured.db := by
        rw [tables_updateConfigurationRecord updated]
        exact .of_tables (.refl _ _) rfl rfl
      dsimp only
      split
      · exact configured'
      · split
        · exact configured'.trans (.syncInventory _ _ _ _)
        · exact (configured'.trans (.storeSubDevice _ _ _)).trans (.syncInventory _ _ _ _)

theorem subDeviceDoDelete (ctx : Context) (db : Store) (request : Request) :
    SameBonds db (subDeviceDoDelete ctx db request).store := by
  unfold Owprov.subDeviceDoDelete
  split
  · exact .refl _
  · rename_i existing _
    split
    · exact .refl _
    · rename_i stopped isStopped
      have deleted : SameBonds db
          { stopped with
            subscriberDeviceDB := stopped.subscriberDeviceDB.delete existing.info.id } :=
        (stopMonitoring isStopped).trans (.of_tables (.refl _ _) rfl rfl)
      exact deleted.trans (.deleteInventory _ _)

/-- Requests on the devices of subscribers leave the bonds alone. -/
theorem subDevice (method : SubDeviceMethod) (ctx : Context) (db : Store) (request : Request) :
    SameBonds db (method.handle ctx db request).store := by
  cases method with
  | post => exact .subDeviceDoPost ctx db request
  | put => exact .subDeviceDoPut ctx db request
  | delete => exact .subDeviceDoDelete ctx db request

end SameBonds

/-! ## Signups -/

/-- Every signup entry has a user of its own, and that user one venue. -/
structure SignedUp (db : Store) : Prop where
  venue : ∀ id userId operatorId, bonds db id = some (userId, operatorId) →
    ∃ entity, operatorEntity db operatorId = some entity ∧ OwnVenue (cards db) userId entity
  unique : UniqueBy Prod.fst (bonds db)
  filled : ∀ id userId operatorId, bonds db id = some (userId, operatorId) → userId ≠ ""

/-- The tables of the signup entries and of the operators are left alone. -/
def KeepsSignups (db db' : Store) : Prop :=
  db'.signupDB = db.signupDB ∧ db'.operatorDB = db.operatorDB

namespace KeepsSignups

variable {ctx : Context} {db db' : Store} {request : Request}

theorem bonds_eq (keeps : KeepsSignups db db') : bonds db' = bonds db := by
  funext id
  rw [bonds, bonds, keeps.1]

theorem operatorEntity_eq (keeps : KeepsSignups db db') :
    operatorEntity db' = operatorEntity db := by
  funext id
  rw [operatorEntity, operatorEntity, keeps.2]

theorem storeInlineLocation {located : Store} {location : Option Location}
    (stored : storeInlineLocation db location = .ok located) : KeepsSignups db located := by
  unfold Owprov.storeInlineLocation at stored
  split at stored
  · cases stored
    exact ⟨rfl, rfl⟩
  · split at stored
    · cases stored
    · cases stored
      exact ⟨rfl, rfl⟩

theorem autoCreateCreatorRole (ctx : Context) (db : Store)
    (entityId venueId parentEntityId parentVenueId roleId : String) :
    KeepsSignups db (autoCreateCreatorRole ctx db entityId venueId parentEntityId parentVenueId
      roleId).1 := by
  rcases autoCreateCreatorRole_cases ctx db entityId venueId parentEntityId parentVenueId roleId
    with unchanged | ⟨parent, rolesDB, _, _, linked⟩
  · rw [unchanged]
    exact ⟨rfl, rfl⟩
  · rw [linked]
    unfold linkCreatorRole
    split <;> exact ⟨rfl, rfl⟩

theorem deleteScopeRoles (db : Store) (onScope : ManagementRole → Bool) :
    KeepsSignups db (deleteScopeRoles db onScope) := by
  unfold Owprov.deleteScopeRoles
  generalize (db.rolesDB.rows.filter onScope).take 10000 = roles
  induction roles generalizing db with
  | nil => exact ⟨rfl, rfl⟩
  | cons role roles ih => exact ih _

theorem deleteSubscriberVenues (venues : List Venue) (db : Store) :
    KeepsSignups db (deleteSubscriberVenues venues db).store := by
  induction venues generalizing db with
  | nil => exact ⟨rfl, rfl⟩
  | cons venue venues ih =>
      rw [Owprov.deleteSubscriberVenues]
      split
      · exact ih _
      · exact ⟨rfl, rfl⟩

theorem of_created {venue : Venue} {location : Option Location} {located : Store}
    {venueDB : Table Venue}
    (created : VenueCreated ctx db request venue location located venueDB) :
    KeepsSignups db (venueDoPost ctx db request).store := by
  obtain ⟨signups, operators⟩ := storeInlineLocation created.stored
  obtain ⟨signups', operators'⟩ := autoCreateCreatorRole ctx
    (moveVenue { located with venueDB := venueDB } venue.arrivals venue.info.id)
    venue.entity venue.info.id venue.entity venue.parent (ctx.newId 2)
  rw [created.outcome, Outcome.store_done]
  exact ⟨signups'.trans signups, operators'.trans operators⟩

theorem of_updated {existing : Venue} {update : VenueUpdate} {located : Store}
    (updated : VenueUpdated ctx db request existing update located) :
    KeepsSignups db (venueDoPut ctx db request).store := by
  obtain ⟨signups, operators⟩ := storeInlineLocation updated.stored
  rw [updated.outcome, Outcome.store_done]
  exact ⟨signups, operators⟩

theorem venueDoDelete (db : Store) (request : Request) :
    KeepsSignups db (venueDoDelete db request).store := by
  rcases venueDoDelete_cases db request with unchanged | ⟨existing, _, deleted⟩
  · rw [unchanged]
    exact ⟨rfl, rfl⟩
  · rw [deleted]
    exact deleteScopeRoles (moveVenue db existing.departures existing.info.id) _

end KeepsSignups

/-! ## Steps -/

/-- The body of a new venue names no subscriber that has signed up. -/
def NamesNoSubscriber (db : Store) (request : Request) : Prop :=
  ∀ body, request.body = some body →
    ∀ entry ∈ db.signupDB.rows, entry.userId ≠ body.stringField "subscriber"

/-- An update keeps the venue of a subscriber that has signed up in its entity. -/
def KeepsSubscriberEntity (db : Store) (request : Request) : Prop :=
  venueCommand request = none →
    ∀ existing body, db.venueDB.get? (request.getBinding "uuid") = some existing →
      request.body = some body →
      (∃ entry ∈ db.signupDB.rows, entry.userId = existing.subscriber) →
      newReference body "entity" existing.entity = existing.entity

/-- The database with the entry of a signup. -/
def SignupPlan.enter (db : Store) : SignupPlan → Store
  | .answered _ => db
  | .resent existing => { db with signupDB := db.signupDB.update existing }
  | .created entry => { db with signupDB := (db.signupDB.insert? entry).getD db.signupDB }

/-- The name of the email is taken when there is a venue for the subscriber, and only then. -/
def SignupPlan.FindsVenue (ctx : Context) (db : Store) (operator : Operator) (userName : String)
    (plan : SignupPlan) : Prop :=
  let taken := doesVenueNameAlreadyExist ctx.env (plan.enter db) userName operator.entityId ""
  match plan with
  | .answered _ => True
  | .resent _ => taken = true
  | .created entry =>
      entry.userId ≠ "" ∧
        if taken then OwnVenue (cards db) entry.userId operator.entityId
        else venuesOf (cards db) entry.userId = ∅

/-- A signup finds the venue of its subscriber, or there is none and the name is free. -/
def SignsUpAlone (ctx : Context) (db : Store) (request : Request) : Prop :=
  ∀ operator userName plan, subscriberDoPostPlan ctx db request = .ok (operator, userName, plan) →
    plan.FindsVenue ctx db operator userName

/-- Nobody takes the name of a subscriber, moves its venue away or gives it another one. -/
def SubscribersAlone (ctx : Context) (db : Store) (request : Request) : VenueMethod → Prop
  | .venuePost => NamesNoSubscriber db request
  | .venuePut => KeepsSubscriberEntity db request
  | .subscriberPost => SignsUpAlone ctx db request
  | .venueDelete | .subscriberDelete => True

/-- One accepted request that meets a condition, any request on the devices of subscribers, or
another one that leaves the bonds alone. -/
inductive SignupsStep (condition : Context → Store → Request → VenueMethod → Prop)
    (db : Store) : Store → Prop
  | request (method : VenueMethod) (ctx : Context) (request : Request) :
      ctx.Fresh db → (method.handle ctx db request).Succeeds →
      condition ctx db request method →
      SignupsStep condition db (method.handle ctx db request).store
  | subDevice (method : SubDeviceMethod) (ctx : Context) (request : Request) :
      SignupsStep condition db (method.handle ctx db request).store
  | other {db' : Store} : SameBonds db db' → SignupsStep condition db db'

namespace SignedUp

variable {ctx : Context} {db db' : Store} {request : Request}

theorem congr (signed : SignedUp db) (same : SameBonds db db') : SignedUp db' := by
  constructor
  case venue =>
    intro id userId operatorId found
    rw [same.bonds] at found
    obtain ⟨entity, isEntity, own⟩ := signed.venue id userId operatorId found
    exact ⟨entity, same.operators _ _ isEntity, same.cards ▸ own⟩
  case unique => exact same.bonds ▸ signed.unique
  case filled => exact same.bonds ▸ signed.filled

/-- The venues are written, and every subscriber keeps its own. -/
theorem of_cards (signed : SignedUp db) (keeps : KeepsSignups db db')
    (own : ∀ entry ∈ db.signupDB.rows, ∀ entity, OwnVenue (cards db) entry.userId entity →
      OwnVenue (cards db') entry.userId entity) : SignedUp db' := by
  constructor
  case venue =>
    intro id userId operatorId found
    rw [keeps.bonds_eq] at found
    rw [keeps.operatorEntity_eq]
    obtain ⟨entity, isEntity, before⟩ := signed.venue id userId operatorId found
    obtain ⟨entry, isEntry, bond⟩ := Option.map_eq_some_iff.mp found
    obtain ⟨rfl, _⟩ := Prod.mk.inj bond
    exact ⟨entity, isEntity, own entry (Table.mem_of_get? isEntry) entity before⟩
  case unique => exact keeps.bonds_eq ▸ signed.unique
  case filled => exact keeps.bonds_eq ▸ signed.filled

theorem userId_ne (signed : SignedUp db) {entry : SignupEntry} (member : entry ∈ db.signupDB.rows) :
    entry.userId ≠ "" := by
  apply signed.filled entry.info.id entry.userId entry.operatorId
  have found : db.signupDB.get? entry.info.id = some entry := Table.get?_key_of_mem member
  rw [bonds, found]
  rfl

theorem venueDoPost (signed : SignedUp db) (fresh : ctx.Fresh db)
    (condition : NamesNoSubscriber db request) :
    SignedUp (venueDoPost ctx db request).store := by
  rcases venueDoPost_cases fresh request with
    unchanged | ⟨venue, location, located, venueDB, created⟩
  · rw [unchanged]
    exact signed
  · obtain ⟨body, isBody, told⟩ := saysBody_of_venueDoPostPlan created.planned
    obtain ⟨id, _⟩ := venueDoPostPlan_eq_ok created.planned
    have unused : cards db venue.info.id = none := by
      rw [cards, id, fresh.venue 0, Option.map_none]
    apply signed.of_cards (.of_created created)
    intro entry member entity own
    rw [created.cards_eq]
    apply own.write_other
    · rw [show venue.card.subscriber = venue.subscriber from rfl, told.subscriber]
      exact (condition body isBody entry member).symm
    · rintro ⟨card, isCard, _⟩
      rw [unused] at isCard
      cases isCard

theorem venueDoPut (signed : SignedUp db) (condition : KeepsSubscriberEntity db request) :
    SignedUp (venueDoPut ctx db request).store := by
  rcases venueDoPut_cases ctx db request with
    ⟨unchanged, _⟩ | ⟨plain, existing, update, located, updated⟩
  · rw [unchanged]
    exact signed
  · obtain ⟨body, isBody, told⟩ := card_of_venueDoPutPlan updated.planned
    have before : cards db (request.getBinding "uuid") = some existing.card :=
      cards_of_get? updated.found
    apply signed.of_cards (.of_updated updated)
    intro entry member entity own
    rw [updated.cards_eq, told]
    by_cases owner : existing.subscriber = entry.userId
    · have stays := condition plain existing body updated.found isBody ⟨entry, member, owner.symm⟩
      have there : request.getBinding "uuid" ∈ venuesOf (cards db) entry.userId :=
        ⟨existing.card, before, owner⟩
      apply own.write_same owner _ there
      obtain ⟨own, name, only, found⟩ := own
      rw [only, Set.mem_singleton_iff] at there
      rw [there, found, Option.some.injEq] at before
      rw [stays, show existing.entity = existing.card.entity from rfl, ← before]
    · apply own.write_other owner
      rintro ⟨card, isCard, holds⟩
      obtain rfl := Option.some.inj (before.symm.trans isCard)
      exact owner holds

theorem venueDoDelete (signed : SignedUp db) (request : Request) :
    SignedUp (venueDoDelete db request).store := by
  apply signed.of_cards (.venueDoDelete db request)
  intro entry member entity own
  rcases cards_venueDoDelete db request with unchanged | ⟨existing, found, nobody, removed⟩
  · rw [unchanged]
    exact own
  · rw [removed]
    apply own.remove
    rintro ⟨card, isCard, holds⟩
    rw [cards_of_get? found, Option.some.injEq] at isCard
    apply signed.userId_ne member
    rw [← holds, ← isCard]
    exact nobody

theorem bonds_insert {entry : SignupEntry} {signupDB : Table SignupEntry}
    (inserted : db.signupDB.insert? entry = some signupDB) (signups : db'.signupDB = signupDB) :
    bonds db' = Function.update (bonds db) entry.info.id (some entry.bond) := by
  funext id
  rw [bonds, signups, Table.get?_insert? inserted, show key entry = entry.info.id from rfl]
  by_cases same : id = entry.info.id
  · rw [if_pos same, same, Function.update_self, Option.map_some]
  · rw [if_neg same, Function.update_of_ne same, bonds]

/-- An entry joins the others, with a venue for its subscriber. -/
theorem insert (signed : SignedUp db) {entry : SignupEntry} {signupDB : Table SignupEntry}
    (inserted : db.signupDB.insert? entry = some signupDB) (filled : entry.userId ≠ "")
    (unknown : getBy db.signupDB SignupEntry.userId entry.userId = none)
    (signups : db'.signupDB = signupDB) (operators : db'.operatorDB = db.operatorDB)
    (kept : ∀ other ∈ db.signupDB.rows, ∀ entity, OwnVenue (cards db) other.userId entity →
      OwnVenue (cards db') other.userId entity)
    {entity : String} (isEntity : operatorEntity db entry.operatorId = some entity)
    (own : OwnVenue (cards db') entry.userId entity) : SignedUp db' := by
  have written := bonds_insert inserted signups
  have sameEntity : ∀ id, operatorEntity db' id = operatorEntity db id := by
    intro id
    rw [operatorEntity, operatorEntity, operators]
  constructor
  case venue =>
    intro id userId operatorId found
    rw [written] at found
    rw [sameEntity]
    by_cases same : id = entry.info.id
    · rw [same, Function.update_self, Option.some.injEq] at found
      obtain ⟨rfl, rfl⟩ := Prod.mk.inj found
      exact ⟨entity, isEntity, own⟩
    · rw [Function.update_of_ne same] at found
      obtain ⟨entity, isEntity, before⟩ := signed.venue id userId operatorId found
      obtain ⟨other, isOther, bond⟩ := Option.map_eq_some_iff.mp found
      obtain ⟨rfl, _⟩ := Prod.mk.inj bond
      exact ⟨entity, isEntity, kept other (Table.mem_of_get? isOther) entity before⟩
  case unique =>
    rw [written, signed.unique.update_some_iff]
    rintro id ⟨bond, isBond, same⟩
    obtain ⟨other, isOther, rfl⟩ := Option.map_eq_some_iff.mp isBond
    exact absurd same (getBy_eq_none unknown (Table.mem_of_get? isOther))
  case filled =>
    intro id userId operatorId found
    rw [written] at found
    by_cases same : id = entry.info.id
    · rw [same, Function.update_self, Option.some.injEq] at found
      obtain ⟨rfl, _⟩ := Prod.mk.inj found
      exact filled
    · rw [Function.update_of_ne same] at found
      exact signed.filled id userId operatorId found

/-- Nobody looks whether the entry was stored. -/
theorem enter (signed : SignedUp db) {entry : SignupEntry} (filled : entry.userId ≠ "")
    (unknown : getBy db.signupDB SignupEntry.userId entry.userId = none)
    (signups : db'.signupDB = (db.signupDB.insert? entry).getD db.signupDB)
    (operators : db'.operatorDB = db.operatorDB)
    (kept : ∀ other ∈ db.signupDB.rows, ∀ entity, OwnVenue (cards db) other.userId entity →
      OwnVenue (cards db') other.userId entity)
    {entity : String} (isEntity : operatorEntity db entry.operatorId = some entity)
    (own : OwnVenue (cards db') entry.userId entity) : SignedUp db' := by
  cases inserted : db.signupDB.insert? entry with
  | none =>
      rw [inserted, Option.getD_none] at signups
      exact signed.of_cards ⟨signups, operators⟩ kept
  | some signupDB =>
      rw [inserted, Option.getD_some] at signups
      exact signed.insert inserted filled unknown signups operators kept isEntity own

theorem operatorEntity_of_plan {operator : Operator} {userName : String} {plan : SignupPlan}
    (planned : subscriberDoPostPlan ctx db request = .ok (operator, userName, plan)) :
    operatorEntity db operator.info.id = some operator.entityId := by
  obtain ⟨found, _⟩ := signupOperator_eq_ok (signupOperator_of_plan planned)
  have isOperator : db.operatorDB.get? operator.info.id = some operator :=
    Table.get?_key_of_mem (getBy_mem found)
  rw [operatorEntity, isOperator, Option.map_some]

/-- Another signup for an entry finds the venue, and changes nothing. -/
theorem resent (signed : SignedUp db) {operator : Operator} {userName : String}
    {existing : SignupEntry} (unused : db.venueDB.get? (ctx.newId 1) = none)
    (found : getBy db.signupDB SignupEntry.email userName = some existing)
    (finds : (SignupPlan.resent existing).FindsVenue ctx db operator userName) :
    SignedUp (createSubscriberVenue ctx ((SignupPlan.resent existing).enter db) operator userName
      existing.userId).store := by
  have same : SameBonds db ((SignupPlan.resent existing).enter db) := by
    have stored : db.signupDB.get? (key existing) = some existing :=
      Table.get?_key_of_mem (getBy_mem found)
    constructor
    case cards => rfl
    case bonds => exact funext (Table.SameView.update stored rfl)
    case operators => exact fun _ _ isEntity => isEntity
  have taken : doesVenueNameAlreadyExist ctx.env ((SignupPlan.resent existing).enter db) userName
      operator.entityId "" = true := finds
  rcases @createSubscriberVenue_cases ctx ((SignupPlan.resent existing).enter db) operator
    userName existing.userId unused with ⟨_, kept⟩ | ⟨free, _⟩
  · rw [kept]
    exact signed.congr same
  · rw [taken] at free
    cases free

/-- A new venue of somebody else leaves the subscribers that have signed up alone. -/
theorem kept_of_new_venue {other : SignupEntry} {card : VenueCard} {id : String}
    (unused : db.venueDB.get? id = none) (others : card.subscriber ≠ other.userId)
    {entity : String} (own : OwnVenue (cards db) other.userId entity) :
    OwnVenue (Function.update (cards db) id (some card)) other.userId entity := by
  apply own.write_other others
  rintro ⟨old, isOld, _⟩
  rw [cards, unused, Option.map_none] at isOld
  cases isOld

/-- A new entry gets its venue, or finds it. -/
theorem created (signed : SignedUp db) {operator : Operator} {userName : String}
    {entry : SignupEntry} (unused : db.venueDB.get? (ctx.newId 1) = none)
    (planned : subscriberDoPostPlan ctx db request = .ok (operator, userName, .created entry))
    (finds : (SignupPlan.created entry).FindsVenue ctx db operator userName) :
    SignedUp (createSubscriberVenue ctx ((SignupPlan.created entry).enter db) operator userName
      entry.userId).store := by
  obtain ⟨_, unknown, _, _, sameOperator, _⟩ := subscriberDoPostPlan_eq_ok planned
  obtain ⟨filled, there⟩ := finds
  have isEntity : operatorEntity db entry.operatorId = some operator.entityId := by
    rw [sameOperator]
    exact operatorEntity_of_plan planned
  have others : ∀ other ∈ db.signupDB.rows, entry.userId ≠ other.userId := by
    intro other member same
    exact getBy_eq_none unknown member same.symm
  rcases @createSubscriberVenue_cases ctx ((SignupPlan.created entry).enter db) operator
    userName entry.userId unused with ⟨taken, kept⟩ | ⟨free, db', made, signups, operators, written⟩
  · rw [if_pos taken] at there
    rw [kept, Outcome.store_done]
    exact signed.enter filled unknown rfl rfl (fun _ _ _ own => own) isEntity there
  · rw [free, if_neg Bool.false_ne_true] at there
    rw [made, Outcome.store_done]
    apply signed.enter filled unknown signups operators _ isEntity
    · rw [written]
      exact .create there userName
    · intro other member entity own
      rw [written]
      exact kept_of_new_venue unused (others other member) own

theorem subscriberDoPost (signed : SignedUp db) (fresh : ctx.Fresh db)
    (condition : SignsUpAlone ctx db request) :
    SignedUp (subscriberDoPost ctx db request).store := by
  unfold Owprov.subscriberDoPost
  split
  · exact signed
  · exact signed
  · rename_i operator userName existing planned
    obtain ⟨found, _⟩ := subscriberDoPostPlan_eq_ok planned
    exact signed.resent (fresh.venue 1) found (condition operator userName _ planned)
  · rename_i operator userName entry planned
    exact signed.created (fresh.venue 1) planned (condition operator userName _ planned)

end SignedUp

/-! ### Deletion of a subscriber -/

/-- The subscriber that a deletion names. -/
def deletedSubscriber (request : Request) : String :=
  if request.getBinding "id" = "" then request.getParameter "subscriberId"
  else request.getBinding "id"

section Deletion

variable {ctx : Context} {db : Store} {request : Request}

theorem subscriberDoDeletePlan_eq_ok {subscriberId : String} {signup : SignupEntry}
    (planned : subscriberDoDeletePlan db request = .ok (subscriberId, signup)) :
    subscriberId = deletedSubscriber request ∧
      getBy db.signupDB SignupEntry.userId subscriberId = some signup := by
  simp only [subscriberDoDeletePlan, bind_eq_ok_iff, require_eq_ok_iff] at planned
  obtain ⟨_, _, planned⟩ := planned
  split at planned
  · cases planned
  · rename_i found
    simp only [bind_eq_ok_iff, require_eq_ok_iff] at planned
    obtain ⟨_, _, planned⟩ := planned
    obtain ⟨rfl, rfl⟩ := Prod.mk.inj (Except.ok.inj planned)
    exact ⟨rfl, found⟩

theorem mem_venuesOf_iff {userId id : String} :
    id ∈ venuesOf (cards db) userId ↔
      ∃ venue ∈ db.venueDB.rows, venue.subscriber = userId ∧ venue.info.id = id := by
  constructor
  · rintro ⟨card, isCard, holds⟩
    obtain ⟨venue, found, rfl⟩ := exists_of_cards isCard
    exact ⟨venue, Table.mem_of_get? found, holds, Table.key_of_get? found⟩
  · rintro ⟨venue, member, holds, rfl⟩
    exact ⟨venue.card, cards_of_mem member, holds⟩

/-- A subscriber with one venue has less venues than the deletion reads. -/
theorem subscriberVenues_of_own {userId entity : String}
    (own : OwnVenue (cards db) userId entity) :
    subscriberVenues db userId =
      db.venueDB.rows.filter fun venue => venue.subscriber == userId := by
  obtain ⟨id, _, only, _⟩ := own
  let venues := db.venueDB.rows.filter fun venue => venue.subscriber == userId
  have alike : ∀ other ∈ venues.map (fun venue => venue.info.id), other = id := by
    intro other listed
    obtain ⟨venue, member, rfl⟩ := List.mem_map.mp listed
    obtain ⟨isRow, holds⟩ := List.mem_filter.mp member
    have its : venue.info.id ∈ venuesOf (cards db) userId :=
      mem_venuesOf_iff.mpr ⟨venue, isRow, eq_of_beq holds, rfl⟩
    rwa [only, Set.mem_singleton_iff] at its
  have distinct : (venues.map fun venue => venue.info.id).Nodup :=
    db.venueDB.distinct.sublist (List.filter_sublist.map _)
  have few : venues.length ≤ 1 := by
    rw [List.eq_replicate_of_mem alike, List.nodup_replicate, List.length_map] at distinct
    exact distinct
  exact List.take_of_length_le (few.trans (by omega))

theorem mem_ids_subscriberVenues {userId entity id : String}
    (own : OwnVenue (cards db) userId entity) :
    id ∈ (subscriberVenues db userId).map (fun venue => venue.info.id) ↔
      id ∈ venuesOf (cards db) userId := by
  rw [subscriberVenues_of_own own, mem_venuesOf_iff, List.mem_map]
  constructor
  · rintro ⟨venue, member, same⟩
    obtain ⟨isRow, holds⟩ := List.mem_filter.mp member
    exact ⟨venue, isRow, eq_of_beq holds, same⟩
  · rintro ⟨venue, isRow, holds, same⟩
    exact ⟨venue, List.mem_filter.mpr ⟨isRow, beq_iff_eq.mpr holds⟩, same⟩

/-- What an accepted deletion leaves: neither the venue nor the entry of the subscriber. -/
structure SubscriberGone (db db' : Store) (userId : String) (signup : SignupEntry) : Prop where
  found : getBy db.signupDB SignupEntry.userId userId = some signup
  gone : ∀ id ∈ venuesOf (cards db) userId, cards db' id = none
  kept : ∀ id ∉ venuesOf (cards db) userId, cards db' id = cards db id
  signups : db'.signupDB = db.signupDB.delete signup.info.id
  operators : db'.operatorDB = db.operatorDB

theorem SignedUp.exists_own (signed : SignedUp db) {entry : SignupEntry}
    (member : entry ∈ db.signupDB.rows) : ∃ entity, OwnVenue (cards db) entry.userId entity := by
  have found : bonds db entry.info.id = some (entry.userId, entry.operatorId) := by
    rw [bonds, show db.signupDB.get? entry.info.id = some entry from Table.get?_key_of_mem member]
    rfl
  obtain ⟨entity, _, own⟩ := signed.venue _ _ _ found
  exact ⟨entity, own⟩

/-- A deletion that succeeds has come to the end of the venues. -/
theorem subscriberDoDelete_succeeds (succeeds : (subscriberDoDelete ctx db request).Succeeds) :
    ∃ signup, getBy db.signupDB SignupEntry.userId (deletedSubscriber request) = some signup ∧
      let cleared :=
        deleteSubscriberVenues (subscriberVenues db (deletedSubscriber request)) db
      cleared.Succeeds ∧
        subscriberDoDelete ctx db request =
          .done { cleared.store with
            signupDB := cleared.store.signupDB.delete signup.info.id } := by
  unfold subscriberDoDelete at succeeds ⊢
  cases planned : subscriberDoDeletePlan db request with
  | error failure =>
      rw [planned] at succeeds
      cases succeeds
  | ok plan =>
      obtain ⟨subscriberId, signup⟩ := plan
      obtain ⟨rfl, found⟩ := subscriberDoDeletePlan_eq_ok planned
      refine ⟨signup, found, ?_⟩
      rw [planned] at succeeds
      dsimp only at succeeds ⊢
      cases cleared : (deleteSubscriberVenues
          (subscriberVenues db (deletedSubscriber request)) db).result with
      | error failure =>
          rw [cleared] at succeeds
          cases succeeds
      | ok done =>
          rw [cleared] at succeeds
          by_cases accepted : ctx.env.secDeleteSubscriber (deletedSubscriber request) = true
          · exact ⟨cleared, if_pos accepted⟩
          · dsimp only at succeeds
            rw [if_neg accepted] at succeeds
            cases succeeds

theorem SignedUp.subscriberGone (signed : SignedUp db)
    (succeeds : (subscriberDoDelete ctx db request).Succeeds) :
    ∃ signup, SubscriberGone db (subscriberDoDelete ctx db request).store
      (deletedSubscriber request) signup := by
  obtain ⟨signup, found, cleared, outcome⟩ := subscriberDoDelete_succeeds succeeds
  obtain ⟨signups, operators⟩ := KeepsSignups.deleteSubscriberVenues
    (subscriberVenues db (deletedSubscriber request)) db
  obtain ⟨entity, own⟩ := signed.exists_own (getBy_mem found)
  rw [getBy_column found] at own
  rw [outcome, Outcome.store_done]
  refine ⟨signup, ?_⟩
  constructor
  case found => exact found
  case gone =>
    intro id its
    exact (cards_deleteSubscriberVenues cleared id).trans
      (if_pos ((mem_ids_subscriberVenues own).mpr its))
  case kept =>
    intro id other
    exact (cards_deleteSubscriberVenues cleared id).trans
      (if_neg fun listed => other ((mem_ids_subscriberVenues own).mp listed))
  case signups =>
    dsimp only
    rw [signups]
  case operators => exact operators

theorem SignedUp.subscriberDoDelete (signed : SignedUp db)
    (succeeds : (subscriberDoDelete ctx db request).Succeeds) :
    SignedUp (subscriberDoDelete ctx db request).store := by
  obtain ⟨signup, gone⟩ := signed.subscriberGone succeeds
  have isSignup : bonds db signup.info.id = some signup.bond := by
    rw [bonds, show db.signupDB.get? signup.info.id = some signup from
      Table.get?_key_of_mem (getBy_mem gone.found), Option.map_some]
  have written : bonds (Owprov.subscriberDoDelete ctx db request).store =
      Function.update (bonds db) signup.info.id none := by
    funext id
    rw [bonds, gone.signups, Table.get?_delete]
    by_cases same : id = signup.info.id
    · rw [if_pos same, same, Function.update_self, Option.map_none]
    · rw [if_neg same, Function.update_of_ne same, bonds]
  have others : ∀ id userId operatorId,
      bonds (Owprov.subscriberDoDelete ctx db request).store id = some (userId, operatorId) →
      bonds db id = some (userId, operatorId) ∧ userId ≠ deletedSubscriber request := by
    intro id userId operatorId found
    rw [written] at found
    by_cases same : id = signup.info.id
    · rw [same, Function.update_self] at found
      cases found
    · rw [Function.update_of_ne same] at found
      refine ⟨found, ?_⟩
      rintro rfl
      apply same
      have its : signup.userId = deletedSubscriber request := getBy_column gone.found
      exact signed.unique (deletedSubscriber request) ⟨_, found, rfl⟩ ⟨_, isSignup, its⟩
  constructor
  case venue =>
    intro id userId operatorId found
    obtain ⟨before, differ⟩ := others id userId operatorId found
    obtain ⟨entity, isEntity, own⟩ := signed.venue id userId operatorId before
    refine ⟨entity, ?_, own.restrict ?_ ?_⟩
    · rw [operatorEntity, gone.operators]
      exact isEntity
    · intro id card isCard
      by_cases its : id ∈ venuesOf (cards db) (deletedSubscriber request)
      · rw [gone.gone id its] at isCard
        cases isCard
      · rwa [gone.kept id its] at isCard
    · rintro id ⟨card, isCard, holds⟩
      apply gone.kept id
      rintro ⟨card', isCard', holds'⟩
      obtain rfl := Option.some.inj (isCard.symm.trans isCard')
      exact differ (holds.symm.trans holds')
  case unique =>
    rw [written]
    exact signed.unique.update_none _
  case filled =>
    intro id userId operatorId found
    exact signed.filled id userId operatorId (others id userId operatorId found).1

end Deletion

/-! ## Runs -/

theorem SignedUp.step {db db' : Store} (signed : SignedUp db)
    (isStep : SignupsStep SubscribersAlone db db') : SignedUp db' := by
  cases isStep with
  | request method ctx request fresh succeeds condition =>
      cases method <;> dsimp only [VenueMethod.handle, SubscribersAlone] at condition succeeds ⊢
      case venuePost => exact signed.venueDoPost fresh condition
      case venuePut => exact signed.venueDoPut condition
      case venueDelete => exact signed.venueDoDelete request
      case subscriberPost => exact signed.subscriberDoPost fresh condition
      case subscriberDelete => exact signed.subscriberDoDelete succeeds
  | subDevice method ctx request => exact signed.congr (.subDevice method ctx db request)
  | other same => exact signed.congr same

/-- Every signup entry has exactly one venue, in the entity of its operator, and a deletion of a
subscriber that succeeds leaves none. -/
structure OneVenueEach (db : Store) : Prop where
  venue : ∀ entry ∈ db.signupDB.rows,
    ∃ operator, db.operatorDB.get? entry.operatorId = some operator ∧
      ∃ venue ∈ db.venueDB.rows, venue.subscriber = entry.userId ∧
        venue.entity = operator.entityId ∧
        ∀ other ∈ db.venueDB.rows, other.subscriber = entry.userId → other = venue
  cleared : ∀ ctx request, (subscriberDoDelete ctx db request).Succeeds →
    ∀ venue ∈ (subscriberDoDelete ctx db request).store.venueDB.rows,
      venue.subscriber ≠ deletedSubscriber request

theorem SignedUp.oneVenueEach {db : Store} (signed : SignedUp db) : OneVenueEach db := by
  constructor
  case venue =>
    intro entry member
    have found : bonds db entry.info.id = some (entry.userId, entry.operatorId) := by
      rw [bonds,
        show db.signupDB.get? entry.info.id = some entry from Table.get?_key_of_mem member]
      rfl
    obtain ⟨entity, isEntity, id, name, only, isCard⟩ := signed.venue _ _ _ found
    obtain ⟨operator, isOperator, rfl⟩ := Option.map_eq_some_iff.mp isEntity
    obtain ⟨venue, isVenue, card⟩ := exists_of_cards isCard
    refine ⟨operator, isOperator, venue, Table.mem_of_get? isVenue, ?_, ?_, ?_⟩
    · exact congrArg VenueCard.subscriber card
    · exact congrArg VenueCard.entity card
    · intro other otherMember holds
      have its : other.info.id ∈ venuesOf (cards db) entry.userId :=
        mem_venuesOf_iff.mpr ⟨other, otherMember, holds, rfl⟩
      rw [only, Set.mem_singleton_iff] at its
      have isOther : db.venueDB.get? other.info.id = some other :=
        Table.get?_key_of_mem otherMember
      rw [its, isVenue] at isOther
      exact (Option.some.inj isOther).symm
  case cleared =>
    intro ctx request succeeds venue member holds
    obtain ⟨signup, gone⟩ := signed.subscriberGone succeeds
    have isCard := cards_of_mem member
    by_cases its : venue.info.id ∈ venuesOf (cards db) (deletedSubscriber request)
    · rw [gone.gone _ its] at isCard
      cases isCard
    · rw [gone.kept _ its] at isCard
      exact its ⟨venue.card, isCard, holds⟩

theorem signedUp_start {db : Store} (start : ServiceStart db) : SignedUp db := by
  have noBonds : bonds db = fun _ => none := by
    cases start with
    | bare => rfl
    | served operatorId serviceId _ => rfl
  constructor
  case venue =>
    rw [noBonds]
    rintro id userId operatorId ⟨⟩
  case unique =>
    rw [noBonds]
    rintro value id ⟨bond, ⟨⟩, _⟩
  case filled =>
    rw [noBonds]
    rintro id userId operatorId ⟨⟩

/-- As long as nobody takes the name of a subscriber, moves its venue away or gives it another
one, every subscriber that has signed up has one venue. -/
theorem one_venue_each_of_run {db : Store}
    (reached : Reachable ServiceStart (SignupsStep SubscribersAlone) db) : OneVenueEach db :=
  (reached.invariant (fun _ => signedUp_start) fun _ _ => SignedUp.step).oneVenueEach

/-! ### A taken name -/

theorem oneOperator_signups {condition : Context → Store → Request → VenueMethod → Prop} :
    Reachable ServiceStart (SignupsStep condition) oneOperator := by
  refine .step (.start .bare) (.other ?_)
  constructor
  case cards =>
    apply cards_congr
    rw [oneOperator, EntityMethod.venueDB_handle]
    exact .refl _ _
  case bonds => rfl
  case operators => rintro id entity ⟨⟩

/-- The database with an operator and a venue that has the name of an email. -/
def takenName : Store :=
  (venueDoPost (rootContext 30) oneOperator (venueRequest "joe@acme.com")).store

/-- Somebody else's venue has the name of the email, and the subscriber gets none. -/
theorem signed_up_without_venue :
    ¬ ∀ db, Reachable ServiceStart (SignupsStep fun _ _ _ _ => True) db → OneVenueEach db := by
  intro claim
  have taken : SignupsStep (fun _ _ _ _ => True) oneOperator takenName :=
    .request .venuePost (rootContext 30) (venueRequest "joe@acme.com")
      (rootContext_fresh (by decide)) (by decide) trivial
  have signed : SignupsStep (fun _ _ _ _ => True) takenName
      (subscriberDoPost (rootContext 40) takenName signupRequest).store :=
    .request .subscriberPost (rootContext 40) signupRequest
      (rootContext_fresh (by decide)) (by decide) trivial
  have each := claim _ (.step (.step oneOperator_signups taken) signed)
  have entered : ∃ entry ∈ (subscriberDoPost (rootContext 40) takenName
        signupRequest).store.signupDB.rows,
      ∀ venue ∈ (subscriberDoPost (rootContext 40) takenName
        signupRequest).store.venueDB.rows, venue.subscriber ≠ entry.userId := by
    decide
  obtain ⟨entry, member, nobody⟩ := entered
  obtain ⟨_, _, venue, isVenue, owner, _⟩ := each.venue entry member
  exact nobody venue isVenue owner

theorem signupRequest_enters :
    (match subscriberDoPostPlan (rootContext 40) oneOperator signupRequest with
      | .ok (operator, userName, .created entry) =>
          entry.userId != "" && !doesVenueNameAlreadyExist (rootContext 40).env
            ((SignupPlan.created entry).enter oneOperator) userName operator.entityId ""
      | _ => false) = true := by
  decide

theorem one_venue_after_signup :
    ∃ db, (db.venueDB.rows.map fun venue => (venue.info.name, venue.entity, venue.subscriber)) =
        [("joe@acme.com", unaryId 16, "joe@acme.com")] ∧ OneVenueEach db := by
  have checked := signupRequest_enters
  have alone : SignsUpAlone (rootContext 40) oneOperator signupRequest := by
    intro operator userName plan planned
    rw [planned] at checked
    cases plan with
    | answered existing => trivial
    | resent existing => cases checked
    | created entry =>
        obtain ⟨filled, free⟩ := Bool.and_eq_true_iff.mp checked
        rw [Bool.not_eq_true'] at free
        refine ⟨bne_iff_ne.mp filled, ?_⟩
        rw [free, if_neg Bool.false_ne_true, Set.eq_empty_iff_forall_notMem]
        intro id its
        obtain ⟨venue, member, _⟩ := mem_venuesOf_iff.mp its
        have noVenues : oneOperator.venueDB.rows = [] := by decide
        rw [noVenues] at member
        cases member
  exact ⟨(subscriberDoPost (rootContext 40) oneOperator signupRequest).store, by decide,
    one_venue_each_of_run (.step oneOperator_signups
      (.request .subscriberPost (rootContext 40) signupRequest
        (rootContext_fresh (by decide)) (by decide) alone))⟩

end Owprov
