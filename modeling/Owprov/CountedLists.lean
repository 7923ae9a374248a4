import Owprov.EntityListHandler
import Owprov.FilteredLists
import Owprov.ListAccess
import Owprov.RRMDevices

/-!
# Lists and counts

A list request with `countOnly` asks for the number of records instead of the records.  The
handlers for the inventory, the venues, the entities and the operators go through their filters
one by one, for root and for other users, and each branch counts, lists or does either.
-/

namespace Owprov

open RowTable

/-! ## Answers -/

/-- What a list handler answers. -/
inductive ListReply where
  | count (number : ℕ)
  | taglist (rows : List InventoryTag)
  | serialNumbers (numbers : List String)
  | fieldNames (names : List String)
  | venues (rows : List Venue)
  | locations (triplets : List (String × String × String))
  | entities (rows : List Entity)
  | tree (tree : EntityListing)
  | operators (rows : List Operator)

/-- The number of elements of an answer that is a list. -/
def ListReply.size : ListReply → Option ℕ
  | .count _ => none
  | .taglist rows => some rows.length
  | .serialNumbers numbers => some numbers.length
  | .fieldNames names => some names.length
  | .venues rows => some rows.length
  | .locations triplets => some triplets.length
  | .entities rows => some rows.length
  | .tree _ => none
  | .operators rows => some rows.length

/-- The service that the handlers run in.  Ordering keeps the rows that it orders. -/
structure ListEnv where
  base : Env
  config : DeviceRules
  /-- `ORDER BY` on the inventory. -/
  ordered : String → List InventoryTag → List InventoryTag
  ordered_perm : ∀ orderBy tags, (ordered orderBy tags).Perm tags
  /-- The condition `deviceRules LIKE` with an escaped vendor. -/
  rulesLike : String → Venue → Bool
  /-- A select on the venues with a text from the request in its condition as it is. -/
  quotedVenues : Store → String → QueryBlock → List Venue

namespace QueryBlock

/-- The block of the request with `countOnly`. -/
def counting (block : QueryBlock) : QueryBlock :=
  { block with countOnly := true }

/-- The block of the request without `countOnly`, for everything from the first record on. -/
def unlimited (block : QueryBlock) : QueryBlock :=
  { block with countOnly := false, offset := 0, limit := 2 ^ 63 - 1 }

variable (block : QueryBlock)

@[simp]
theorem counting_countOnly : block.counting.countOnly = true := rfl

@[simp]
theorem counting_select : block.counting.select = block.select := rfl

@[simp]
theorem unlimited_countOnly : block.unlimited.countOnly = false := rfl

@[simp]
theorem unlimited_select : block.unlimited.select = block.select := rfl

end QueryBlock

/-! ## The inventory -/

/-- The fields of the inventory in the order of their names. -/
def inventoryFields : List String :=
  ["connected", "contact", "created", "description", "devclass", "deviceconfiguration",
    "devicerules", "devicetype", "donotallowoverrides", "entity", "geocode", "id", "imported",
    "locale", "location", "managementpolicy", "modified", "name", "notes", "platform", "qrcode",
    "realmacaddress", "serialnumber", "state", "subscriber", "tags", "venue"]

def orderItem (item : String) : Option String :=
  match tokenize item ':' with
  | [field, direction] =>
      if (direction = "a" ∨ direction = "d") ∧ toLower field ∈ inventoryFields then
        some (field ++ if direction = "a" then " ASC" else " DESC")
      else
        none
  | _ => none

/-- `PrepareOrderBy`. -/
def prepareOrderBy (orderByList orderByString : String) : Option String :=
  ((tokenize orderByList ',').mapM orderItem).map fun items =>
    if items = [] then orderByString else " ORDER BY " ++ " , ".intercalate items

/-- The order that a request asks for. -/
def inventoryOrderBy (request : Request) : Option String :=
  if request.hasParameter "orderBy" then
    prepareOrderBy (request.getParameter "orderBy") " ORDER BY serialNumber ASC "
  else
    some " ORDER BY serialNumber ASC "

/-- `SendList`. -/
def sendList (serialOnly : Bool) (tags : List InventoryTag) : ListReply :=
  if serialOnly then .serialNumbers (tags.map InventoryTag.serialNumber) else .taglist tags

/-- `Count` or `GetRecords` and `SendList`, with one condition for both. -/
def sendWhere (env : ListEnv) (db : Store) (block : QueryBlock) (serialOnly : Bool)
    (orderBy : String) (holds : InventoryTag → Bool) : ListReply :=
  if block.countOnly then
    .count (db.inventoryDB.rows.countP holds)
  else
    sendList serialOnly (block.window (env.ordered orderBy (db.inventoryDB.rows.filter holds)))

/-- A selected device: a text with a hyphen is an id. -/
def selectedTag (db : Store) (text : String) : Option InventoryTag :=
  if text.toList.contains '-' then db.inventoryDB.get? text
  else getBy db.inventoryDB InventoryTag.serialNumber text

/-- `ReturnRecordList` for the inventory. -/
def returnTagList (db : Store) : List String → Except Failure (List InventoryTag)
  | [] => .ok []
  | text :: select =>
      match selectedTag db text with
      | none => .error (.badRequest .unknownId)
      | some tag => (returnTagList db select).map fun tags => tag :: tags

def unclaimed (tag : InventoryTag) : Bool :=
  tag.devClass == "subscriber" && tag.subscriber == ""

def claimed (tag : InventoryTag) : Bool :=
  tag.devClass == "subscriber" && tag.subscriber != ""

def unassigned (tag : InventoryTag) : Bool :=
  tag.venue == "" && tag.entity == ""

/-- The branches of `RESTAPI_inventory_list_handler::DoGet` for root. -/
def rootInventoryDoGet (env : ListEnv) (server : DeviceServer) (fuel : ℕ) (request : Request)
    (block : QueryBlock) : Except Failure ListReply :=
  let db := server.db
  let serialOnly := request.getBoolParameter "serialOnly"
  match inventoryOrderBy request with
  | none => .error (.badRequest .invalidLOrderBy)
  | some orderBy =>
      if block.select ≠ [] then
        (returnTagList db block.select).map .taglist
      else if request.hasParameter "entity" then
        .ok (sendWhere env db block serialOnly orderBy
          fun tag => tag.entity == request.getParameter "entity")
      else if request.hasParameter "venue" then
        .ok (sendWhere env db block serialOnly orderBy
          fun tag => tag.venue == request.getParameter "venue")
      else if request.getBoolParameter "subscribersOnly" &&
          request.getBoolParameter "unassigned" then
        .ok (sendWhere env db block serialOnly orderBy unclaimed)
      else if request.getBoolParameter "subscribersOnly" then
        .ok (sendWhere env db block serialOnly orderBy claimed)
      else if request.getBoolParameter "unassigned" then
        .ok (sendWhere env db block serialOnly orderBy unassigned)
      else if request.getParameter "subscriber" ≠ "" then
        .ok (sendList serialOnly ((db.inventoryDB.rows.filter fun tag =>
          tag.subscriber == request.getParameter "subscriber").take 100))
      else if block.countOnly then
        .ok (.count db.inventoryDB.rows.length)
      else if request.getBoolParameter "rrmOnly" then
        match getRRMDeviceList db env.config fuel server.cache.sns with
        | none => .error .noAnswer
        | some deviceList => .ok (.serialNumbers deviceList)
      else
        .ok (sendList serialOnly (block.window (env.ordered orderBy db.inventoryDB.rows)))

/-- The entity that the `operator` parameters stand for. -/
def targetEntity (db : Store) (param : String) : String :=
  match getBy db.entityDB Entity.operatorId param with
  | some entity => entity.info.id
  | none =>
      match db.entityDB.get? param with
      | some entity => entity.info.id
      | none =>
          match db.operatorDB.get? param with
          | some operator => if operator.entityId ≠ "" then operator.entityId else param
          | none => param

/-- The condition that the parameters of a user's request come to; there is none for a place that
the roles do not allow. -/
def inventoryWhere (env : ListEnv) (server : DeviceServer) (caller : Caller) (fuel : ℕ)
    (request : Request) : Except Failure (Option (InventoryTag → Bool)) :=
  let db := server.db
  let onEntity (id : String) : Except Failure (Option (InventoryTag → Bool)) :=
    if id ∈ allowedEntities caller "inventory" then .ok (some fun tag => tag.entity == id)
    else .ok none
  if request.getBoolParameter "subscribersOnly" && request.getBoolParameter "unassigned" then
    .ok (some unclaimed)
  else if request.getBoolParameter "subscribersOnly" then .ok (some claimed)
  else if request.getBoolParameter "unassigned" then .ok (some unassigned)
  else if request.getParameter "subscriber" ≠ "" then
    .ok (some fun tag => tag.subscriber == request.getParameter "subscriber")
  else if request.hasParameter "entity" then onEntity (request.getParameter "entity")
  else if request.hasParameter "operatorId" then
    onEntity (targetEntity db (request.getParameter "operatorId"))
  else if request.hasParameter "operator" then
    onEntity (targetEntity db (request.getParameter "operator"))
  else if request.hasParameter "venue" then
    if request.getParameter "venue" ∈ listedVenues db caller then
      .ok (some fun tag => tag.venue == request.getParameter "venue")
    else
      .ok none
  else if request.getBoolParameter "rrmOnly" then
    match getRRMDeviceList db env.config fuel server.cache.sns with
    | none => .error .noAnswer
    | some _ => .ok (some fun _ => true)
  else
    .ok (some fun _ => true)

/-- The devices that the roles allow. -/
def inScope (db : Store) (caller : Caller) (tag : InventoryTag) : Bool :=
  tag.entity ∈ allowedEntities caller "inventory" || tag.venue ∈ listedVenues db caller

/-- The device of an id, or else of a serial number. -/
def tagOf (db : Store) (id : String) : Option InventoryTag :=
  (db.inventoryDB.get? id).or (getBy db.inventoryDB InventoryTag.serialNumber id)

/-- The branches for other users. -/
def userInventoryDoGet (env : ListEnv) (server : DeviceServer) (caller : Caller) (fuel : ℕ)
    (request : Request) (block : QueryBlock) : Except Failure ListReply :=
  let db := server.db
  let serialOnly := request.getBoolParameter "serialOnly"
  let countOrSend (tags : List InventoryTag) : ListReply :=
    if block.countOnly then .count tags.length else sendList serialOnly tags
  if allowedEntities caller "inventory" = [] ∧ listedVenues db caller = [] then
    .ok (sendList serialOnly [])
  else
    match inventoryOrderBy request with
    | none => .error (.badRequest .invalidLOrderBy)
    | some orderBy =>
        match inventoryWhere env server caller fuel request with
        | .error failure => .error failure
        | .ok none => .ok (sendList serialOnly [])
        | .ok (some holds) =>
            if block.select ≠ [] then
              .ok (countOrSend (block.select.filterMap fun id =>
                (db.inventoryDB.get? id).filter (inScope db caller)))
            else if request.getBoolParameter "rrmOnly" then
              match getRRMDeviceList db env.config fuel server.cache.sns with
              | none => .error .noAnswer
              | some deviceList =>
                  .ok (countOrSend (deviceList.filterMap fun id =>
                    (tagOf db id).filter (inScope db caller)))
            else
              .ok (sendWhere env db block serialOnly orderBy
                fun tag => holds tag && inScope db caller tag)

/-- `RESTAPI_inventory_list_handler::DoGet`. -/
def inventoryDoGet (env : ListEnv) (server : DeviceServer) (caller : Caller) (fuel : ℕ)
    (request : Request) (block : QueryBlock) : Except Failure ListReply :=
  if request.getBoolParameter "orderSpec" then
    .ok (.fieldNames inventoryFields)
  else if caller.user.userRole = .root then
    rootInventoryDoGet env server fuel request block
  else
    userInventoryDoGet env server caller fuel request block

/-! ## The venues -/

def venueSource (env : ListEnv) : ListSource Venue where
  table := Store.venueDB
  entity := Venue.entity
  venue := none
  quoted _ := env.quotedVenues

/-- A list of venues that was read already, or its length. -/
def venuesOrCount (block : QueryBlock) (venues : List Venue) : ListReply :=
  if block.countOnly then .count venues.length else .venues venues

/-- `ListHandler` for the venues. -/
def venueListHandler (env : ListEnv) (db : Store) (fuel : ℕ) (request : Request)
    (block : QueryBlock) : Except Failure ListReply :=
  let entity := request.getParameter "entity"
  let venue := request.getParameter "venue"
  if request.getParameter "locationsForVenue" ≠ "" then
    match getLocationsForVenue db fuel (request.getParameter "locationsForVenue") with
    | none => .error .noAnswer
    | some locations => .ok (.locations locations)
  else if block.select ≠ [] then
    (returnRecordList db.venueDB block.select).map .venues
  else if entity ≠ "" then
    .ok (venuesOrCount block ((venueSource env).getRecords env.base db block "entity"
      (some Venue.entity) entity))
  else if venue ≠ "" then
    .ok (venuesOrCount block ((venueSource env).getRecords env.base db block "venue" none venue))
  else if block.countOnly then
    .ok (.count db.venueDB.rows.length)
  else
    .ok (.venues (block.window db.venueDB.rows))

/-- `RESTAPI_venue_list_handler::DoGet`. -/
def venueDoGet (env : ListEnv) (db : Store) (caller : Caller) (fuel : ℕ) (request : Request)
    (block : QueryBlock) : Except Failure ListReply :=
  let vendor := request.getParameter "RRMvendor"
  if caller.user.userRole = .root then
    if vendor = "" then
      venueListHandler env db fuel request block
    else
      .ok (.venues (env.quotedVenues db (" deviceRules LIKE " ++ sqlQuote.toString ++ "%" ++ vendor
        ++ "%" ++ sqlQuote.toString ++ " ") block))
  else
    match listedVenueIds db caller with
    | none => .error .noAnswer
    | some visible =>
        if visible = [] then
          .ok (.venues [])
        else if block.countOnly then
          .ok (.count (db.venueDB.rows.countP fun venue => venue.info.id ∈ visible))
        else
          let shown := db.venueDB.rows.filter fun venue =>
            venue.info.id ∈ visible && (vendor == "" || env.rulesLike vendor venue)
          .ok (.venues (block.window
            (shown.mergeSort fun first second => first.info.name ≤ second.info.name)))

/-! ## The entities -/

/-- The entities that a user sees; the condition on no ids is left out. -/
def visibleEntities (db : Store) (visible : Visible) : List Entity :=
  db.entityDB.rows.filter fun entity =>
    visible.entities = ∅ || entity.info.id ∈ visible.entities

/-- `RESTAPI_entity_list_handler::DoGet`. -/
def entityDoGet (db : Store) (caller : Caller) (fuel : ℕ) (request : Request)
    (block : QueryBlock) : Except Failure ListReply :=
  let tree : Except Failure ListReply := match entityListDoGet db caller true fuel with
    | none => .error .noAnswer
    | some listing => .ok (.tree listing)
  if caller.user.userRole = .root then
    if block.select = [] then
      if request.getBoolParameter "getTree" then tree
      else if block.countOnly then .ok (.count db.entityDB.rows.length)
      else .ok (.entities (block.window db.entityDB.rows))
    else
      (returnRecordList db.entityDB block.select).map .entities
  else
    match visibleScopes db caller fuel with
    | none => .error .noAnswer
    | some visible =>
        if visible.entities = ∅ ∧ visible.venues = ∅ then
          if block.countOnly then .ok (.count 0)
          else if request.getBoolParameter "getTree" then tree
          else .ok (.entities [])
        else if block.select ≠ [] then
          let selected := block.select.filterMap fun id =>
            (db.entityDB.get? id).filter fun entity => entity.info.id ∈ visible.entities
          .ok (if block.countOnly then .count selected.length else .entities selected)
        else if block.countOnly then
          .ok (.count (visibleEntities db visible).length)
        else if request.getBoolParameter "getTree" then
          tree
        else
          .ok (.entities (block.window (visibleEntities db visible)))

/-! ## The operators -/

/-- `AllowedOperatorIds`: the operators of the entities on which a role allows reading them. -/
def allowedOperatorIds (db : Store) (caller : Caller) : List String :=
  (caller.roles.filter fun role =>
    role.entity != "" && (role.venue == "" && (role.managementPolicy != "" &&
      caller.checkRolePolicy "operator" .get role))).filterMap fun role =>
        match db.entityDB.get? role.entity with
        | none => none
        | some entity => if entity.operatorId = "" then none else some entity.operatorId

/-- The operators of a user, among the first 100000. -/
def allowedOperators (db : Store) (caller : Caller) : List Operator :=
  (db.operatorDB.rows.take 100000).filter fun operator =>
    operator.info.id ∈ allowedOperatorIds db caller

/-- `RESTAPI_operators_list_handler::DoGet`. -/
def operatorDoGet (db : Store) (caller : Caller) (block : QueryBlock) :
    Except Failure ListReply :=
  let all : Bool := caller.user.userRole = .root
  if block.countOnly then
    .ok (.count (if all then db.operatorDB.rows.length else (allowedOperators db caller).length))
  else if block.select ≠ [] then
    (returnRecordList db.operatorDB block.select).map fun operators =>
      .operators (if all then operators
        else operators.filter fun operator => operator.info.id ∈ allowedOperatorIds db caller)
  else if all then
    .ok (.operators (block.window db.operatorDB.rows))
  else
    .ok (.operators (((allowedOperators db caller).drop block.offset).take block.limit))

/-! ## Counts and lists -/

inductive CountedList where
  | inventory
  | venues
  | entities
  | operators
  deriving DecidableEq, Repr

def CountedList.doGet (list : CountedList) (env : ListEnv) (server : DeviceServer)
    (caller : Caller) (fuel : ℕ) (request : Request) (block : QueryBlock) :
    Except Failure ListReply :=
  match list with
  | .inventory => inventoryDoGet env server caller fuel request block
  | .venues => venueDoGet env server.db caller fuel request block
  | .entities => entityDoGet server.db caller fuel request block
  | .operators => operatorDoGet server.db caller block

/-- An answer to a request with `countOnly` is the number of elements of the list, where there is
a list. -/
def Counts (counting unlimited : Except Failure ListReply) : Prop :=
  ∀ reply number, unlimited = .ok reply → reply.size = some number →
    counting = .ok (.count number)

/-! ## Where they agree -/

/-- An id of the selection is unknown, so that no list is answered. -/
def UnknownIn {α : Type} [Keyed α String] (table : Table α) (select : List String) : Prop :=
  ∃ id ∈ select, table.get? id = none

def RootInventoryCounts (env : ListEnv) (server : DeviceServer) (fuel : ℕ) (request : Request)
    (block : QueryBlock) : Prop :=
  inventoryOrderBy request = none ∨
    if block.select ≠ [] then
      ∃ text ∈ block.select, selectedTag server.db text = none
    else
      request.hasParameter "entity" ∨ request.hasParameter "venue" ∨
        request.getBoolParameter "subscribersOnly" ∨ request.getBoolParameter "unassigned" ∨
        request.getParameter "subscriber" = "" ∧
          (request.getBoolParameter "rrmOnly" → ∀ deviceList,
            getRRMDeviceList server.db env.config fuel server.cache.sns = some deviceList →
              deviceList.length = server.db.inventoryDB.rows.length)

section Agreement

variable {counting : Except Failure ListReply} {reply other : ListReply} {number : ℕ}

theorem counts_of_error (failure : Failure) : Counts counting (.error failure) :=
  fun _ _ listed => nomatch listed

theorem counts_of_noList (noList : reply.size = none) : Counts counting (.ok reply) := by
  intro _ number listed sized
  obtain rfl := Except.ok.inj listed
  rw [noList] at sized
  cases sized

theorem counts_iff (sized : reply.size = some number) :
    Counts counting (.ok reply) ↔ counting = .ok (.count number) := by
  constructor
  · exact fun counts => counts reply number rfl sized
  · intro counted _ _ listed same
    obtain rfl := Except.ok.inj listed
    obtain rfl := Option.some.inj (sized.symm.trans same)
    exact counted

theorem counts_count_iff (sized : reply.size = some number) {counted : ℕ} :
    Counts (.ok (.count counted)) (.ok reply) ↔ counted = number := by
  rw [counts_iff sized, Except.ok.injEq, ListReply.count.injEq]

/-- A branch that lists whatever is asked for does not count. -/
theorem not_counts_of_list (sized : reply.size = some number) {listed : ℕ}
    (ignores : other.size = some listed) : ¬ Counts (.ok other) (.ok reply) := by
  rw [counts_iff sized]
  rintro ⟨⟩
  cases ignores

end Agreement

section Pages

variable {α : Type} {rows : List α} (block : QueryBlock)

theorem QueryBlock.window_unlimited (few : rows.length < 2 ^ 63) :
    block.unlimited.window rows = rows := by
  have inRange : block.unlimited.offset < 2 ^ 63 ∧ block.unlimited.limit < 2 ^ 63 := by
    change 0 < 2 ^ 63 ∧ 2 ^ 63 - 1 < 2 ^ 63
    decide
  rw [QueryBlock.window, if_pos inRange]
  refine List.take_of_length_le ?_
  change (rows.drop 0).length ≤ 2 ^ 63 - 1
  rw [List.drop_zero]
  omega

end Pages

theorem sendList_size (serialOnly : Bool) (tags : List InventoryTag) :
    (sendList serialOnly tags).size = some tags.length := by
  cases serialOnly with
  | false => rfl
  | true => exact congrArg some (List.length_map _)

theorem sendWhere_counts (env : ListEnv) {db : Store} (few : db.inventoryDB.rows.length < 2 ^ 63)
    (block : QueryBlock) (serialOnly : Bool) (orderBy : String) (holds : InventoryTag → Bool) :
    Counts (.ok (sendWhere env db block.counting serialOnly orderBy holds))
      (.ok (sendWhere env db block.unlimited serialOnly orderBy holds)) := by
  have shown : (env.ordered orderBy (db.inventoryDB.rows.filter holds)).length =
      db.inventoryDB.rows.countP holds :=
    (env.ordered_perm _ _).length_eq.trans List.countP_eq_length_filter.symm
  have fewer : (env.ordered orderBy (db.inventoryDB.rows.filter holds)).length < 2 ^ 63 :=
    shown ▸ Nat.lt_of_le_of_lt List.countP_le_length few
  unfold sendWhere
  rw [if_pos block.counting_countOnly, if_neg (by simp), block.window_unlimited fewer,
    counts_count_iff (sendList_size _ _)]
  exact shown.symm

theorem returnTagList_fails_iff (db : Store) (select : List String) :
    (∃ failure, returnTagList db select = .error failure) ↔
      ∃ text ∈ select, selectedTag db text = none := by
  induction select with
  | nil => exact iff_of_false nofun nofun
  | cons text select ih =>
      rw [List.exists_mem_cons_iff, ← ih, returnTagList]
      cases selectedTag db text with
      | none => exact iff_of_true ⟨_, rfl⟩ (.inl rfl)
      | some tag =>
          rw [or_iff_right nofun]
          cases returnTagList db select with
          | error failure => exact iff_of_true ⟨failure, rfl⟩ ⟨failure, rfl⟩
          | ok tags => exact iff_of_false nofun nofun

/-! ## The inventory -/

section Inventory

variable (env : ListEnv) {server : DeviceServer} (fuel : ℕ) (request : Request)
    (block : QueryBlock) (few : server.db.inventoryDB.rows.length < 2 ^ 63)

include few

theorem rootInventoryDoGet_counts_iff :
    Counts (rootInventoryDoGet env server fuel request block.counting)
        (rootInventoryDoGet env server fuel request block.unlimited) ↔
      RootInventoryCounts env server fuel request block := by
  unfold rootInventoryDoGet RootInventoryCounts
  cases ordered : inventoryOrderBy request with
  | none => exact iff_of_true (counts_of_error _) (.inl rfl)
  | some orderBy =>
      have isOrdered : ¬ some orderBy = none := Option.some_ne_none orderBy
      have sent := sendWhere_counts env few block (request.getBoolParameter "serialOnly") orderBy
      dsimp only
      rw [or_iff_right isOrdered]
      by_cases ids : block.select ≠ []
      · rw [if_pos ids, block.counting_select, block.unlimited_select, if_pos ids, if_pos ids]
        rw [← returnTagList_fails_iff]
        cases returnTagList server.db block.select with
        | error failure => exact iff_of_true (counts_of_error failure) ⟨failure, rfl⟩
        | ok tags => exact iff_of_false (not_counts_of_list rfl rfl) nofun
      · rw [if_neg ids, block.counting_select, block.unlimited_select, if_neg ids, if_neg ids]
        by_cases onEntity : request.hasParameter "entity"
        · rw [if_pos onEntity, if_pos onEntity]
          exact iff_of_true (sent _) (.inl onEntity)
        · rw [if_neg onEntity, if_neg onEntity, or_iff_right onEntity]
          by_cases onVenue : request.hasParameter "venue"
          · rw [if_pos onVenue, if_pos onVenue]
            exact iff_of_true (sent _) (.inl onVenue)
          · rw [if_neg onVenue, if_neg onVenue, or_iff_right onVenue]
            cases subscribers : request.getBoolParameter "subscribersOnly" with
            | true =>
                refine iff_of_true ?_ (.inl rfl)
                cases request.getBoolParameter "unassigned" with
                | true => exact sent unclaimed
                | false => exact sent claimed
            | false =>
                cases isFree : request.getBoolParameter "unassigned" with
                | true => exact iff_of_true (sent unassigned) (.inr (.inl rfl))
                | false =>
                    simp only [Bool.false_and, Bool.false_eq_true, if_false, false_or]
                    by_cases named : request.getParameter "subscriber" ≠ ""
                    · rw [if_pos named, if_pos named]
                      refine iff_of_false ?_ fun counts => named counts.1
                      exact not_counts_of_list (sendList_size _ _) (sendList_size _ _)
                    · rw [if_neg named, if_neg named, and_iff_right (not_not.mp named),
                        if_pos block.counting_countOnly, if_neg (by simp)]
                      cases rrm : request.getBoolParameter "rrmOnly" with
                      | false =>
                          have shown := (env.ordered_perm orderBy
                            server.db.inventoryDB.rows).length_eq
                          rw [if_neg Bool.false_ne_true, block.window_unlimited (shown ▸ few),
                            counts_count_iff (sendList_size _ _)]
                          exact iff_of_true shown.symm nofun
                      | true =>
                          rw [if_pos rfl, forall_prop_of_true rfl]
                          cases getRRMDeviceList server.db env.config fuel server.cache.sns with
                          | none => exact iff_of_true (counts_of_error _) nofun
                          | some deviceList =>
                              dsimp only
                              rw [counts_count_iff rfl]
                              simp only [Option.some.injEq, forall_eq', eq_comm]

def UserInventoryCounts (env : ListEnv) (server : DeviceServer) (caller : Caller) (fuel : ℕ)
    (request : Request) : Prop :=
  ¬ (allowedEntities caller "inventory" = [] ∧ listedVenues server.db caller = []) ∧
    (inventoryOrderBy request = none ∨
      inventoryWhere env server caller fuel request ≠ .ok none)

theorem userInventoryDoGet_counts_iff (caller : Caller) :
    Counts (userInventoryDoGet env server caller fuel request block.counting)
        (userInventoryDoGet env server caller fuel request block.unlimited) ↔
      UserInventoryCounts env server caller fuel request := by
  have noTags := sendList_size (request.getBoolParameter "serialOnly") []
  unfold userInventoryDoGet UserInventoryCounts
  by_cases nothing : allowedEntities caller "inventory" = [] ∧ listedVenues server.db caller = []
  · simp only [if_pos nothing]
    exact iff_of_false (not_counts_of_list noTags noTags) fun counts => counts.1 nothing
  · simp only [if_neg nothing]
    rw [and_iff_right nothing]
    cases ordered : inventoryOrderBy request with
    | none => exact iff_of_true (counts_of_error _) (.inl rfl)
    | some orderBy =>
        have isOrdered : ¬ some orderBy = none := Option.some_ne_none orderBy
        rw [or_iff_right isOrdered]
        dsimp only
        cases inventoryWhere env server caller fuel request with
        | error failure => exact iff_of_true (counts_of_error failure) (by rintro ⟨⟩)
        | ok filter =>
            cases filter with
            | none => exact iff_of_false (not_counts_of_list noTags noTags) fun other => other rfl
            | some holds =>
                refine iff_of_true ?_ (by rintro ⟨⟩)
                dsimp only
                by_cases ids : block.select ≠ []
                · rw [block.counting_select, block.unlimited_select, if_pos ids, if_pos ids,
                    if_pos block.counting_countOnly, if_neg (by simp)]
                  exact (counts_count_iff (sendList_size _ _)).mpr rfl
                · rw [block.counting_select, block.unlimited_select, if_neg ids, if_neg ids]
                  cases request.getBoolParameter "rrmOnly" with
                  | false => exact sendWhere_counts env few block _ orderBy _
                  | true =>
                      cases getRRMDeviceList server.db env.config fuel server.cache.sns with
                      | none => exact counts_of_error _
                      | some deviceList =>
                          dsimp only
                          rw [if_pos rfl, if_pos rfl, if_pos block.counting_countOnly,
                            if_neg (by simp)]
                          exact (counts_count_iff (sendList_size _ _)).mpr rfl

end Inventory

/-! ## Selected records -/

section Selected

variable {α : Type} [Keyed α String] {table : Table α} {select : List String}

/-- A selection that names records only is answered with those, in its order. -/
theorem exists_returnRecordList (known : ¬ UnknownIn table select) :
    ∃ rows, returnRecordList table select = .ok rows ∧ rows.map key = select := by
  induction select with
  | nil => exact ⟨[], rfl, rfl⟩
  | cons id select ih =>
      unfold UnknownIn at known ih
      rw [List.exists_mem_cons_iff, not_or] at known
      obtain ⟨rows, listed, keys⟩ := ih known.2
      obtain ⟨row, found⟩ := Option.ne_none_iff_exists'.mp known.1
      refine ⟨row :: rows, ?_, ?_⟩
      · rw [returnRecordList, found, listed]
        rfl
      · rw [List.map_cons, keys, Table.key_of_get? found]

theorem returnRecordList_of_unknown (unknown : UnknownIn table select) :
    returnRecordList table select = .error (.badRequest .unknownId) := by
  obtain ⟨id, selected, missing⟩ := unknown
  rw [returnRecordList_eq, if_neg]
  intro all
  have present := List.all_eq_true.mp all id selected
  rw [idExists, missing] at present
  cases present

/-- A list of selected records is answered to a request with `countOnly` as well. -/
theorem selected_counts_iff {reply : List α → ListReply}
    (sized : ∀ rows, (reply rows).size = some rows.length) :
    Counts ((returnRecordList table select).map reply) ((returnRecordList table select).map reply) ↔
      UnknownIn table select := by
  by_cases unknown : UnknownIn table select
  · rw [returnRecordList_of_unknown unknown]
    exact iff_of_true (counts_of_error _) unknown
  · obtain ⟨rows, listed, _⟩ := exists_returnRecordList unknown
    rw [listed]
    exact iff_of_false (not_counts_of_list (sized rows) (sized rows)) unknown

end Selected

/-! ## The venues -/

/-- A further condition takes nothing away just when every row meets it. -/
theorem length_filter_and_iff {α : Type} {rows : List α} {p q : α → Bool} :
    (rows.filter p).length = (rows.filter fun row => p row && q row).length ↔
      ∀ row ∈ rows, p row = true → q row = true := by
  have narrowed : (rows.filter fun row => p row && q row) = (rows.filter p).filter q := by
    rw [List.filter_filter]
    exact List.filter_congr fun row _ => Bool.and_comm _ _
  rw [narrowed, eq_comm, List.length_filter_eq_length_iff]
  simp only [List.mem_filter, and_imp]

section Venues

variable (env : ListEnv) {db : Store} (fuel : ℕ) (request : Request) (block : QueryBlock)
    (few : db.venueDB.rows.length < 2 ^ 63)

/-- `ListHandler` counts the page that the request asks for, so that everything has to be on it.
The text is the one with a blank, and a quote in it breaks the statement. -/
def VenuePageCounts (db : Store) (column : ListColumn) (value : String) : Prop :=
  if value.toList.contains sqlQuote then
    ((venueSource env).brokenRows env.base db block.counting column value).length =
      ((venueSource env).brokenRows env.base db block.unlimited column value).length
  else
    (venueSource env).rowsWith db column (" " ++ value) = [] ∨
      block.offset = 0 ∧ block.limit < 2 ^ 63 ∧
        ((venueSource env).rowsWith db column (" " ++ value)).length ≤ block.limit

def RootVenueCounts (db : Store) : Prop :=
  request.getParameter "RRMvendor" = "" ∧
    if request.getParameter "locationsForVenue" ≠ "" then
      getLocationsForVenue db fuel (request.getParameter "locationsForVenue") = none
    else if block.select ≠ [] then
      UnknownIn db.venueDB block.select
    else if request.getParameter "entity" ≠ "" then
      VenuePageCounts env block db .entity (request.getParameter "entity")
    else
      request.getParameter "venue" ≠ "" →
        VenuePageCounts env block db .venue (request.getParameter "venue")

def UserVenueCounts (db : Store) (caller : Caller) : Prop :=
  ∀ visible, listedVenueIds db caller = some visible →
    visible ≠ [] ∧
      (request.getParameter "RRMvendor" = "" ∨
        ∀ venue ∈ db.venueDB.rows, venue.info.id ∈ visible →
          env.rulesLike (request.getParameter "RRMvendor") venue = true)

theorem counting_window_length (rows : List Venue) :
    (block.counting.window rows).length = rows.length ↔
      rows = [] ∨ block.offset = 0 ∧ block.limit < 2 ^ 63 ∧ rows.length ≤ block.limit := by
  rw [QueryBlock.length_window, ← List.length_eq_zero_iff]
  change (if block.offset < 2 ^ 63 ∧ block.limit < 2 ^ 63 then
    min block.limit (rows.length - block.offset) else 0) = rows.length ↔ _
  split <;> omega

include few

theorem venuePage_counts_iff (column : ListColumn) (value : String) :
    Counts
        (.ok (venuesOrCount block.counting ((venueSource env).getRecords env.base db block.counting
          column.name ((venueSource env).read column) value)))
        (.ok (venuesOrCount block.unlimited ((venueSource env).getRecords env.base db
          block.unlimited column.name ((venueSource env).read column) value))) ↔
      VenuePageCounts env block db column value := by
  unfold venuesOrCount VenuePageCounts
  rw [if_pos block.counting_countOnly, if_neg (by simp), counts_count_iff rfl]
  by_cases quoted : value.toList.contains sqlQuote = true
  · unfold ListSource.getRecords
    rw [if_pos quoted, if_pos quoted, if_pos quoted]
    rfl
  · have fewRows : ((venueSource env).rowsWith db column (" " ++ value)).length < 2 ^ 63 := by
      cases column with
      | entity => exact Nat.lt_of_le_of_lt (List.length_filter_le _ _) few
      | venue => exact Nat.two_pow_pos 63
    rw [if_neg quoted, ListSource.getRecords_eq _ _ _ _ _ quoted,
      ListSource.getRecords_eq _ _ _ _ _ quoted, block.window_unlimited fewRows]
    exact counting_window_length block _

theorem rootVenueDoGet_counts_iff {caller : Caller} (isRoot : caller.user.userRole = .root) :
    Counts (venueDoGet env db caller fuel request block.counting)
        (venueDoGet env db caller fuel request block.unlimited) ↔
      RootVenueCounts env fuel request block db := by
  unfold venueDoGet RootVenueCounts
  simp only [if_pos isRoot]
  by_cases anyVendor : request.getParameter "RRMvendor" = ""
  · rw [if_pos anyVendor, if_pos anyVendor, and_iff_right anyVendor]
    unfold venueListHandler
    dsimp only
    by_cases located : request.getParameter "locationsForVenue" ≠ ""
    · rw [if_pos located, if_pos located, if_pos located]
      cases getLocationsForVenue db fuel (request.getParameter "locationsForVenue") with
      | none => exact iff_of_true (counts_of_error _) rfl
      | some locations => exact iff_of_false (not_counts_of_list rfl rfl) nofun
    · rw [if_neg located, if_neg located, if_neg located]
      by_cases ids : block.select ≠ []
      · rw [block.counting_select, block.unlimited_select, if_pos ids, if_pos ids, if_pos ids]
        exact selected_counts_iff fun _ => rfl
      · rw [block.counting_select, block.unlimited_select, if_neg ids, if_neg ids, if_neg ids]
        by_cases onEntity : request.getParameter "entity" ≠ ""
        · rw [if_pos onEntity, if_pos onEntity, if_pos onEntity]
          exact venuePage_counts_iff env block few .entity _
        · rw [if_neg onEntity, if_neg onEntity, if_neg onEntity]
          by_cases onVenue : request.getParameter "venue" ≠ ""
          · rw [if_pos onVenue, if_pos onVenue, forall_prop_of_true onVenue]
            exact venuePage_counts_iff env block few .venue _
          · rw [if_neg onVenue, if_neg onVenue, if_pos block.counting_countOnly, if_neg (by simp),
              block.window_unlimited few]
            exact iff_of_true ((counts_count_iff rfl).mpr rfl) fun named => absurd named onVenue
  · rw [if_neg anyVendor, if_neg anyVendor]
    exact iff_of_false (not_counts_of_list rfl rfl) fun counts => anyVendor counts.1

theorem userVenueDoGet_counts_iff {caller : Caller} (other : caller.user.userRole ≠ .root) :
    Counts (venueDoGet env db caller fuel request block.counting)
        (venueDoGet env db caller fuel request block.unlimited) ↔
      UserVenueCounts env request db caller := by
  unfold venueDoGet UserVenueCounts
  simp only [if_neg other]
  cases listedVenueIds db caller with
  | none => exact iff_of_true (counts_of_error _) nofun
  | some visible =>
      simp only [Option.some.injEq, forall_eq']
      by_cases nothing : visible = []
      · rw [if_pos nothing, if_pos nothing]
        exact iff_of_false (not_counts_of_list rfl rfl) fun counts => counts.1 nothing
      · rw [if_neg nothing, if_neg nothing, if_pos block.counting_countOnly, if_neg (by simp),
          and_iff_right nothing, counts_count_iff rfl]
        let seen (venue : Venue) : Bool := venue.info.id ∈ visible
        let wanted (venue : Venue) : Bool := request.getParameter "RRMvendor" == "" ||
          env.rulesLike (request.getParameter "RRMvendor") venue
        have fewShown : ((db.venueDB.rows.filter fun venue => seen venue && wanted venue).mergeSort
            fun first second => first.info.name ≤ second.info.name).length < 2 ^ 63 := by
          rw [List.length_mergeSort]
          exact Nat.lt_of_le_of_lt (List.length_filter_le _ _) few
        rw [block.window_unlimited fewShown, List.length_mergeSort, List.countP_eq_length_filter]
        change (db.venueDB.rows.filter seen).length =
          (db.venueDB.rows.filter fun venue => seen venue && wanted venue).length ↔ _
        rw [length_filter_and_iff]
        by_cases anyVendor : request.getParameter "RRMvendor" = ""
        · exact iff_of_true (fun venue _ _ => by simp [wanted, anyVendor]) (.inl anyVendor)
        · rw [or_iff_right anyVendor]
          simp only [seen, wanted, decide_eq_true_eq, beq_eq_false_iff_ne.mpr anyVendor,
            Bool.false_or]

end Venues

/-! ## The entities -/

section Entities

variable {db : Store} {caller : Caller} (fuel : ℕ) (request : Request) (block : QueryBlock)
    (few : db.entityDB.rows.length < 2 ^ 63)

theorem counts_tree (counting : Except Failure ListReply) (listing : Option EntityListing) :
    Counts counting (match listing with
      | none => .error .noAnswer
      | some listing => .ok (.tree listing)) := by
  cases listing with
  | none => exact counts_of_error _
  | some listing => exact counts_of_noList rfl

include few

theorem rootEntityDoGet_counts_iff (isRoot : caller.user.userRole = .root) :
    Counts (entityDoGet db caller fuel request block.counting)
        (entityDoGet db caller fuel request block.unlimited) ↔
      block.select = [] ∨ UnknownIn db.entityDB block.select := by
  unfold entityDoGet
  simp only [if_pos isRoot]
  by_cases ids : block.select = []
  · rw [block.counting_select, block.unlimited_select, if_pos ids, if_pos ids]
    refine iff_of_true ?_ (.inl ids)
    cases request.getBoolParameter "getTree" with
    | true => exact counts_tree _ (entityListDoGet db caller true fuel)
    | false =>
        rw [if_neg Bool.false_ne_true, if_neg Bool.false_ne_true, if_pos block.counting_countOnly,
          if_neg (by simp), block.window_unlimited few]
        exact (counts_count_iff rfl).mpr rfl
  · rw [block.counting_select, block.unlimited_select, if_neg ids, if_neg ids, or_iff_right ids]
    exact selected_counts_iff fun _ => rfl

/-- For other users the counts are those of the lists in every branch. -/
theorem userEntityDoGet_counts (other : caller.user.userRole ≠ .root) :
    Counts (entityDoGet db caller fuel request block.counting)
      (entityDoGet db caller fuel request block.unlimited) := by
  have tree := fun counting => counts_tree counting (entityListDoGet db caller true fuel)
  unfold entityDoGet
  simp only [if_neg other]
  cases visibleScopes db caller fuel with
  | none => exact counts_of_error _
  | some visible =>
      dsimp only
      by_cases nothing : visible.entities = ∅ ∧ visible.venues = ∅
      · rw [if_pos nothing, if_pos nothing, if_pos block.counting_countOnly, if_neg (by simp)]
        cases request.getBoolParameter "getTree" with
        | true => exact tree _
        | false => exact (counts_count_iff rfl).mpr rfl
      · rw [if_neg nothing, if_neg nothing]
        by_cases ids : block.select ≠ []
        · rw [block.counting_select, block.unlimited_select, if_pos ids, if_pos ids,
            if_pos block.counting_countOnly, if_neg (by simp)]
          exact (counts_count_iff rfl).mpr rfl
        · rw [block.counting_select, block.unlimited_select, if_neg ids, if_neg ids,
            if_pos block.counting_countOnly, if_neg (by simp)]
          cases request.getBoolParameter "getTree" with
          | true => exact tree _
          | false =>
              have fewShown : (visibleEntities db visible).length < 2 ^ 63 :=
                Nat.lt_of_le_of_lt (List.length_filter_le _ _) few
              rw [if_neg Bool.false_ne_true, block.window_unlimited fewShown]
              exact (counts_count_iff rfl).mpr rfl

end Entities

/-! ## The operators -/

section Operators

variable {db : Store} {caller : Caller} (block : QueryBlock)
    (few : db.operatorDB.rows.length < 2 ^ 63)

/-- All operators, or those that the roles allow, are counted before the selection is looked
at. -/
def OperatorCounts (db : Store) (caller : Caller) : Prop :=
  block.select = [] ∨ UnknownIn db.operatorDB block.select ∨
    if caller.user.userRole = .root then
      db.operatorDB.rows.length = block.select.length
    else
      (allowedOperators db caller).length =
        (block.select.filter fun id => id ∈ allowedOperatorIds db caller).length

include few

theorem operatorDoGet_counts_iff :
    Counts (operatorDoGet db caller block.counting) (operatorDoGet db caller block.unlimited) ↔
      OperatorCounts block db caller := by
  unfold operatorDoGet OperatorCounts
  dsimp only
  rw [if_pos block.counting_countOnly, block.unlimited_countOnly, if_neg Bool.false_ne_true,
    block.unlimited_select]
  by_cases ids : block.select ≠ []
  · rw [if_pos ids, or_iff_right ids]
    by_cases unknown : UnknownIn db.operatorDB block.select
    · rw [returnRecordList_of_unknown unknown]
      exact iff_of_true (counts_of_error _) (.inl unknown)
    · obtain ⟨rows, listed, keys⟩ := exists_returnRecordList unknown
      rw [listed, or_iff_right unknown, ← keys]
      by_cases isRoot : caller.user.userRole = .root
      · simp only [isRoot, decide_true, if_true]
        rw [List.length_map]
        exact counts_count_iff rfl
      · simp only [isRoot, decide_false, Bool.false_eq_true, if_false]
        rw [List.filter_map, List.length_map]
        exact counts_count_iff rfl
  · rw [if_neg ids]
    refine iff_of_true ?_ (.inl (not_not.mp ids))
    by_cases isRoot : caller.user.userRole = .root
    · simp only [isRoot, decide_true, if_true]
      rw [block.window_unlimited few]
      exact (counts_count_iff rfl).mpr rfl
    · simp only [isRoot, decide_false, Bool.false_eq_true, if_false]
      have all : ((allowedOperators db caller).drop 0).take (2 ^ 63 - 1) =
          allowedOperators db caller := by
        have fewAllowed : (allowedOperators db caller).length ≤ 100000 :=
          (List.length_filter_le _ _).trans (List.length_take_le _ _)
        rw [List.drop_zero, List.take_of_length_le (by omega)]
      refine (counts_count_iff rfl).mpr ?_
      exact congrArg List.length all.symm

end Operators

/-! ## All lists -/

/-- A table has fewer rows than a database can number. -/
structure FewRows (db : Store) : Prop where
  inventory : db.inventoryDB.rows.length < 2 ^ 63
  venues : db.venueDB.rows.length < 2 ^ 63
  entities : db.entityDB.rows.length < 2 ^ 63
  operators : db.operatorDB.rows.length < 2 ^ 63

def CountedList.CountsExactly (list : CountedList) (env : ListEnv) (server : DeviceServer)
    (caller : Caller) (fuel : ℕ) (request : Request) (block : QueryBlock) : Prop :=
  match list with
  | .inventory =>
      request.getBoolParameter "orderSpec" = false ∧
        if caller.user.userRole = .root then RootInventoryCounts env server fuel request block
        else UserInventoryCounts env server caller fuel request
  | .venues =>
      if caller.user.userRole = .root then RootVenueCounts env fuel request block server.db
      else UserVenueCounts env request server.db caller
  | .entities =>
      caller.user.userRole = .root →
        block.select = [] ∨ UnknownIn server.db.entityDB block.select
  | .operators => OperatorCounts block server.db caller

/-- The number that a request with `countOnly` is answered is the length of the whole list exactly
where the branch that the request falls into counts what it lists. -/
theorem countsLists_iff (list : CountedList) (env : ListEnv) (server : DeviceServer)
    (caller : Caller) (fuel : ℕ) (request : Request) (block : QueryBlock)
    (few : FewRows server.db) :
    Counts (list.doGet env server caller fuel request block.counting)
        (list.doGet env server caller fuel request block.unlimited) ↔
      list.CountsExactly env server caller fuel request block := by
  cases list with
  | inventory =>
      unfold CountedList.doGet CountedList.CountsExactly inventoryDoGet
      dsimp only
      cases request.getBoolParameter "orderSpec" with
      | true => exact iff_of_false (not_counts_of_list rfl rfl) nofun
      | false =>
          rw [if_neg Bool.false_ne_true, if_neg Bool.false_ne_true, and_iff_right rfl]
          by_cases isRoot : caller.user.userRole = .root
          · rw [if_pos isRoot, if_pos isRoot, if_pos isRoot]
            exact rootInventoryDoGet_counts_iff env fuel request block few.inventory
          · rw [if_neg isRoot, if_neg isRoot, if_neg isRoot]
            exact userInventoryDoGet_counts_iff env fuel request block few.inventory caller
  | venues =>
      unfold CountedList.doGet CountedList.CountsExactly
      dsimp only
      by_cases isRoot : caller.user.userRole = .root
      · rw [if_pos isRoot]
        exact rootVenueDoGet_counts_iff env fuel request block few.venues isRoot
      · rw [if_neg isRoot]
        exact userVenueDoGet_counts_iff env fuel request block few.venues isRoot
  | entities =>
      unfold CountedList.doGet CountedList.CountsExactly
      dsimp only
      by_cases isRoot : caller.user.userRole = .root
      · rw [forall_prop_of_true isRoot]
        exact rootEntityDoGet_counts_iff fuel request block few.entities isRoot
      · exact iff_of_true (userEntityDoGet_counts fuel request block few.entities isRoot)
          fun root => absurd root isRoot
  | operators => exact operatorDoGet_counts_iff block few.operators

/-! ## A subscriber with one device -/

def plainLists : ListEnv where
  base := (rootContext 1).env
  config := serviceRules
  ordered _ tags := tags
  ordered_perm _ tags := .refl tags
  rulesLike _ _ := false
  quotedVenues _ _ _ := []

def soldDevice : InventoryTag where
  info := { id := "device", name := "AP" }
  serialNumber := "aabbccddeeff"
  subscriber := "s1"
  devClass := "subscriber"

def soldServer : DeviceServer where
  db :=
    { managedEntity with
      inventoryDB := { rows := [soldDevice], distinct := by decide } }
  cache := .empty

theorem soldServer_fewRows : FewRows soldServer.db :=
  ⟨by decide, by decide, by decide, by decide⟩

def listRequest (parameters : List (String × String)) : Request where
  method := .get
  uri := "/api/v1/inventory"
  parameters

theorem claimed_devices_counted :
    Counts
      (inventoryDoGet plainLists soldServer (rootContext 1).caller 0
        (listRequest [("subscribersOnly", "true")]) (QueryBlock.counting {}))
      (inventoryDoGet plainLists soldServer (rootContext 1).caller 0
        (listRequest [("subscribersOnly", "true")]) (QueryBlock.unlimited {})) :=
  (countsLists_iff .inventory plainLists soldServer (rootContext 1).caller 0
    (listRequest [("subscribersOnly", "true")]) {} soldServer_fewRows).mpr
      ⟨by decide, .inr (.inr (.inr (.inl (by decide))))⟩

/-- The devices of a subscriber are listed, whether or not their number is asked for. -/
theorem subscriber_devices_not_counted :
    ¬ ∀ (list : CountedList) (env : ListEnv) (server : DeviceServer) (caller : Caller) (fuel : ℕ)
        (request : Request) (block : QueryBlock), FewRows server.db →
      Counts (list.doGet env server caller fuel request block.counting)
        (list.doGet env server caller fuel request block.unlimited) := by
  intro claim
  have counts := claim .inventory plainLists soldServer (rootContext 1).caller 0
    (listRequest [("subscriber", "s1")]) {} soldServer_fewRows
  exact not_counts_of_list (sendList_size false [soldDevice]) (sendList_size false [soldDevice])
    counts

end Owprov
