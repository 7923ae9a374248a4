import Owprov.DevicePlacement
import Owprov.Lib.OptionLists
import Owprov.ScopeAgreement

/-!
# Lists and single reads

A user's lists of devices and of venues come from sets that the list handlers collect from
the user's roles.  Whether a single read is accepted comes from the roles on the resolved
scope of the record.  The two agree for a record except in the gaps named here.
-/

namespace Owprov

open OptionLists RowTable

/-! ## Paths with one record -/

/-- The path of one record. -/
def recordPath (resource id : String) : String :=
  "/api/v1/" ++ resource ++ "/" ++ id

theorem recordPath_toList (resource id : String) :
    (recordPath resource id).toList =
      "/api/v1/".toList ++ (resource.toList ++ '/' :: id.toList) := by
  simp [recordPath]

/-- A marker can only stand at the front of the path of one record, since the id of a routed
path has no slash. -/
theorem prefix_of_infix_recordPath {name resource id : List Char} (routed : '/' ∉ id)
    (plain : '/' ∉ resource)
    (found : "/api/v1/".toList ++ name <:+: "/api/v1/".toList ++ (resource ++ '/' :: id)) :
    name <+: resource ++ '/' :: id := by
  obtain ⟨before, after, whole⟩ := found
  cases before with
  | nil =>
      rw [List.nil_append, List.append_assoc] at whole
      exact ⟨after, List.append_cancel_left whole⟩
  | cons c before =>
      exfalso
      have apart : "/api/v1/".toList = '/' :: ("api".toList ++ '/' :: "v1/".toList) := rfl
      rw [show "/api/v1/".toList ++ (resource ++ '/' :: id) =
        '/' :: ("api".toList ++ '/' :: ("v1/".toList ++ (resource ++ '/' :: id))) from rfl,
        List.cons_append, List.cons_append, List.cons.injEq] at whole
      obtain ⟨_, whole⟩ := whole
      -- three slashes are left on the right, which the marker takes
      have slashes := congrArg (List.count '/') whole
      have ofPrefix : List.count '/' "/api/v1/".toList = 3 := by decide
      have ofRest : List.count '/' ("api".toList ++ '/' :: ("v1/".toList ++
          (resource ++ '/' :: id))) = 3 := by
        simp [List.count_eq_zero_of_not_mem routed, List.count_eq_zero_of_not_mem plain]
      rw [ofRest] at slashes
      simp only [List.count_append, ofPrefix] at slashes
      have noneBefore : '/' ∉ before := List.count_eq_zero.mp (by omega)
      have plainBefore : ∀ a ∈ before, decide (a ≠ '/') = true :=
        fun a member => decide_eq_true fun isSlash => noneBefore (isSlash ▸ member)
      have isApi : before = "api".toList := by
        have heads := congrArg (List.takeWhile fun a => decide (a ≠ '/')) whole
        rw [List.append_assoc, apart, List.takeWhile_append_of_pos plainBefore] at heads
        simpa using heads
      rw [isApi] at whole
      simp at whole

/-- The text of a marker for a resource. -/
def marker (resource : String) : String :=
  "/api/v1/" ++ resource

theorem pathHas_recordPath_self (resource id : String) :
    pathHas (recordPath resource id) (marker resource) = true := by
  simp only [pathHas, decide_eq_true_eq]
  exact ⟨[], '/' :: id.toList, by simp [marker, recordPath]⟩

theorem pathHas_recordPath_of_not_prefix (name : String) {resource id : String} (routed : '/' ∉ id.toList)
    (plain : '/' ∉ resource.toList)
    (differ : ¬ name.toList <+: resource.toList ++ '/' :: id.toList) :
    pathHas (recordPath resource id) (marker name) = false := by
  simp only [pathHas, decide_eq_false_iff_not]
  intro found
  rw [recordPath_toList] at found
  exact differ (prefix_of_infix_recordPath routed plain (by simpa [marker] using found))

theorem inventoryPath_named {id : String} (routed : '/' ∉ id.toList) :
    getResourceName (recordPath "inventory" id) = "inventory" ∧
      boundBranch (recordPath "inventory" id) = some .inventory := by
  have notEntity : pathHas (recordPath "inventory" id) "/api/v1/entity" = false :=
    pathHas_recordPath_of_not_prefix "entity" routed (by decide) (by simp)
  have notVenue : pathHas (recordPath "inventory" id) "/api/v1/venue" = false :=
    pathHas_recordPath_of_not_prefix "venue" routed (by decide) (by simp)
  have here : pathHas (recordPath "inventory" id) "/api/v1/inventory" = true :=
    pathHas_recordPath_self "inventory" id
  constructor
  · simp [getResourceName, notEntity, notVenue, here]
  · simp [boundBranch, notEntity, notVenue, here]

theorem venuePath_named {id : String} (routed : '/' ∉ id.toList) :
    getResourceName (recordPath "venue" id) = "venue" ∧
      boundBranch (recordPath "venue" id) = some .venue := by
  have notEntity : pathHas (recordPath "venue" id) "/api/v1/entity" = false :=
    pathHas_recordPath_of_not_prefix "entity" routed (by decide) (by simp)
  have here : pathHas (recordPath "venue" id) "/api/v1/venue" = true :=
    pathHas_recordPath_self "venue" id
  constructor
  · simp [getResourceName, notEntity, here]
  · simp [boundBranch, notEntity, here]

/-- The request for one device, by its serial number. -/
def inventoryGet (serialNumber : String) : Request where
  method := .get
  uri := recordPath "inventory" serialNumber
  bindings := [(toLower "serialNumber", serialNumber)]

/-- The request for one venue. -/
def venueGet (uuid : String) : Request where
  method := .get
  uri := recordPath "venue" uuid
  bindings := [("uuid", uuid)]

theorem inventoryGet_named {serialNumber : String} (routed : '/' ∉ serialNumber.toList) :
    getResourceName (inventoryGet serialNumber).uri = "inventory" ∧
      boundBranch (inventoryGet serialNumber).uri = some .inventory := by
  rw [inventoryGet]
  exact inventoryPath_named routed

theorem venueGet_named {uuid : String} (routed : '/' ∉ uuid.toList) :
    getResourceName (venueGet uuid).uri = "venue" ∧
      boundBranch (venueGet uuid).uri = some .venue := by
  rw [venueGet]
  exact venuePath_named routed

/-! ## The lists -/

/-- The venues that the roles naming a venue allow or deny. -/
def exactVenues (caller : Caller) (resource : String) (allows : Bool) : List String :=
  (caller.roles.filter fun role =>
    role.venue != "" && caller.checkRolePolicy resource .get role == allows).map
      ManagementRole.venue

/-- The entities of the roles without a venue that allow reading. -/
def allowedEntities (caller : Caller) (resource : String) : List String :=
  (caller.roles.filter fun role =>
    role.venue == "" && (role.entity != "" && caller.checkRolePolicy resource .get role)).map
      ManagementRole.entity

/-- `AllowedVenues` of the inventory list: the venues of the roles and those owned by an
allowed entity, without the denied ones. -/
def listedVenues (db : Store) (caller : Caller) : List String :=
  (exactVenues caller "inventory" true ++
    (allowedEntities caller "inventory").flatMap fun entityId =>
      match db.entityDB.get? entityId with
      | none => []
      | some entity => entity.venues).filter
    fun vId => vId ∉ exactVenues caller "inventory" false

/-- The rows of the inventory list of a user, before they are cut into pages. -/
def inventoryList (db : Store) (caller : Caller) : List InventoryTag :=
  let shown := db.inventoryDB.rows.filter fun tag =>
    tag.entity ∈ allowedEntities caller "inventory" || tag.venue ∈ listedVenues db caller
  shown.mergeSort fun first second => first.serialNumber ≤ second.serialNumber

/-- `RESTAPI_inventory_list_handler::DoGet` for a user without any filter. -/
def inventoryListDoGet (db : Store) (caller : Caller) (block : QueryBlock) :
    List InventoryTag :=
  block.window (inventoryList db caller)

/-- `VisibleVenues` of the venue list, where `none` stands for a recursion that does not
end. -/
def listedVenueIds (db : Store) (caller : Caller) : Option (List String) := do
  let below ← (allowedEntities caller "venue").mapM (allowedVenues db)
  return (exactVenues caller "venue" true ++ below.flatten).filter
    fun vId => vId ∉ exactVenues caller "venue" false

/-- The rows of the venue list of a user, before they are cut into pages. -/
def venueList (db : Store) (caller : Caller) : Option (List Venue) := do
  let visible ← listedVenueIds db caller
  let shown := db.venueDB.rows.filter fun venue => venue.info.id ∈ visible
  return shown.mergeSort fun first second => first.info.name ≤ second.info.name

/-- `RESTAPI_venue_list_handler::DoGet` for a user without any filter. -/
def venueListDoGet (db : Store) (caller : Caller) (block : QueryBlock) : Option (List Venue) :=
  (venueList db caller).map block.window

/-- The rows are those of the pages. -/
theorem exists_page {α : Type} {rows : List α} (few : rows.length < 2 ^ 63) (row : α) :
    (∃ block : QueryBlock, row ∈ block.window rows) ↔ row ∈ rows := by
  constructor
  · rintro ⟨block, member⟩
    exact QueryBlock.mem_of_mem_window member
  · intro member
    refine ⟨{ offset := 0, limit := rows.length }, ?_⟩
    have inRange : 0 < 2 ^ 63 ∧ rows.length < 2 ^ 63 := ⟨by decide, few⟩
    rw [QueryBlock.window, if_pos inRange, List.drop_zero, List.take_length]
    exact member

/-- A device is on some page of the list just when it is among the rows. -/
theorem exists_inventory_page {db : Store} {caller : Caller}
    (few : (inventoryList db caller).length < 2 ^ 63) (tag : InventoryTag) :
    (∃ block, tag ∈ inventoryListDoGet db caller block) ↔ tag ∈ inventoryList db caller :=
  exists_page few tag

/-- A venue is on some page of a list that is answered just when it is among the rows. -/
theorem exists_venue_page {db : Store} {caller : Caller} {rows : List Venue}
    (answered : venueList db caller = some rows) (few : rows.length < 2 ^ 63) (venue : Venue) :
    (∃ block page, venueListDoGet db caller block = some page ∧ venue ∈ page) ↔
      venue ∈ rows := by
  rw [← exists_page few venue]
  simp [venueListDoGet, answered]

/-! ## What the roles say -/

/-- A role on the whole entity allows reading. -/
def Caller.GrantsEntity (caller : Caller) (resource entityId : String) : Prop :=
  ∃ role ∈ caller.roles, role.venue = "" ∧ role.entity = entityId ∧
    caller.checkRolePolicy resource .get role = true

/-- A role on the venue allows reading. -/
def Caller.GrantsVenue (caller : Caller) (resource venueId : String) : Prop :=
  ∃ role ∈ caller.roles, role.venue = venueId ∧ caller.checkRolePolicy resource .get role = true

/-- A role on the venue does not allow reading. -/
def Caller.RefusesVenue (caller : Caller) (resource venueId : String) : Prop :=
  ∃ role ∈ caller.roles, role.venue = venueId ∧
    caller.checkRolePolicy resource .get role = false

/-- No role is on the venue. -/
def Caller.NotOnVenue (caller : Caller) (venueId : String) : Prop :=
  ∀ role ∈ caller.roles, role.venue ≠ venueId

/-- A venue of a granted entity. -/
def Caller.GrantsOwner (db : Store) (caller : Caller) (venueId : String) : Prop :=
  ∃ entityId entity, entityId ≠ "" ∧ caller.GrantsEntity "inventory" entityId ∧
    db.entityDB.get? entityId = some entity ∧ venueId ∈ entity.venues

/-- The inventory list shows a device with this place. -/
def Caller.ListsTag (db : Store) (caller : Caller) (tag : InventoryTag) : Prop :=
  (tag.entity ≠ "" ∧ caller.GrantsEntity "inventory" tag.entity) ∨
    ((tag.venue ≠ "" ∧ caller.GrantsVenue "inventory" tag.venue) ∨
      caller.GrantsOwner db tag.venue) ∧
    ¬ (tag.venue ≠ "" ∧ caller.RefusesVenue "inventory" tag.venue)

/-- A single read is accepted on a resolved scope. -/
def Caller.Reads (db : Store) (caller : Caller) (resource entity venue : String) : Prop :=
  if venue = "" then
    caller.GrantsEntity resource entity
  else
    caller.GrantsVenue resource venue ∨
      caller.NotOnVenue venue ∧ caller.GrantsEntity resource entity ∧
        ReachesVenue db entity venue

section Sets

variable {db : Store} {caller : Caller} {resource : String}

theorem mem_exactVenues {allows : Bool} {venueId : String} :
    venueId ∈ exactVenues caller resource allows ↔ venueId ≠ "" ∧
      ∃ role ∈ caller.roles, role.venue = venueId ∧
        caller.checkRolePolicy resource .get role = allows := by
  simp only [exactVenues, List.mem_map, List.mem_filter, Bool.and_eq_true, bne_iff_ne, ne_eq,
    beq_iff_eq]
  constructor
  · rintro ⟨role, ⟨member, filled, allowed⟩, rfl⟩
    exact ⟨filled, role, member, rfl, allowed⟩
  · rintro ⟨filled, role, member, rfl, allowed⟩
    exact ⟨role, ⟨member, filled, allowed⟩, rfl⟩

theorem mem_grantedEntities {entityId : String} :
    entityId ∈ allowedEntities caller resource ↔
      entityId ≠ "" ∧ caller.GrantsEntity resource entityId := by
  simp only [allowedEntities, List.mem_map, List.mem_filter, Bool.and_eq_true, bne_iff_ne,
    ne_eq, beq_iff_eq]
  constructor
  · rintro ⟨role, ⟨member, entityLevel, filled, allowed⟩, rfl⟩
    exact ⟨filled, role, member, entityLevel, rfl, allowed⟩
  · rintro ⟨filled, role, member, entityLevel, rfl, allowed⟩
    exact ⟨role, ⟨member, entityLevel, filled, allowed⟩, rfl⟩

theorem mem_listedVenues {venueId : String} :
    venueId ∈ listedVenues db caller ↔
      ((venueId ≠ "" ∧ caller.GrantsVenue "inventory" venueId) ∨ caller.GrantsOwner db venueId) ∧
        ¬ (venueId ≠ "" ∧ caller.RefusesVenue "inventory" venueId) := by
  simp only [listedVenues, List.mem_filter, List.mem_append, List.mem_flatMap,
    mem_grantedEntities, decide_not, Bool.not_eq_true', decide_eq_false_iff_not,
    mem_exactVenues]
  refine and_congr (or_congr Iff.rfl ?_) Iff.rfl
  constructor
  · rintro ⟨entityId, ⟨filled, granted⟩, owned⟩
    cases found : db.entityDB.get? entityId with
    | none => simp [found] at owned
    | some entity => exact ⟨entityId, entity, filled, granted, found, by simpa [found] using owned⟩
  · rintro ⟨entityId, entity, filled, granted, found, owned⟩
    exact ⟨entityId, ⟨filled, granted⟩, by simpa [found] using owned⟩

theorem mem_inventoryList {tag : InventoryTag} :
    tag ∈ inventoryList db caller ↔ tag ∈ db.inventoryDB.rows ∧ caller.ListsTag db tag := by
  simp only [inventoryList, List.mem_mergeSort, List.mem_filter, Bool.or_eq_true,
    decide_eq_true_eq, mem_grantedEntities, mem_listedVenues]
  rfl

theorem covers_iff_reads {entity venue : String} :
    (∃ role ∈ caller.roles, caller.checkRolePolicy resource .get role = true ∧
      RoleCovers db caller.roles entity venue role) ↔
      caller.Reads db resource entity venue := by
  unfold RoleCovers Caller.Reads
  split
  · constructor
    · rintro ⟨role, member, allowed, onEntity, entityLevel⟩
      exact ⟨role, member, entityLevel, onEntity, allowed⟩
    · rintro ⟨role, member, entityLevel, onEntity, allowed⟩
      exact ⟨role, member, allowed, onEntity, entityLevel⟩
  · constructor
    · rintro ⟨role, member, allowed, onVenue | ⟨notOn, onEntity, entityLevel, reached⟩⟩
      · exact .inl ⟨role, member, onVenue, allowed⟩
      · exact .inr ⟨notOn, ⟨role, member, entityLevel, onEntity, allowed⟩, reached⟩
    · rintro (⟨role, member, onVenue, allowed⟩ |
        ⟨notOn, ⟨role, member, entityLevel, onEntity, allowed⟩, reached⟩)
      · exact ⟨role, member, allowed, .inl onVenue⟩
      · exact ⟨role, member, allowed, .inr ⟨notOn, onEntity, entityLevel, reached⟩⟩

end Sets

/-! ## The single read -/

section Single

variable {db : Store} {caller : Caller}

theorem namesObject_get (id : String) :
    namesObject .get id = true ↔ ¬ (id = "" ∨ id = "0") := by
  simp [namesObject]

theorem inventoryGet_boundId (serialNumber : String) :
    (inventoryGet serialNumber).boundId = serialNumber ∧
      (inventoryGet serialNumber).constraintId = serialNumber := by
  have key : toLower "serialNumber" = "serialnumber" := by decide
  simp [Request.boundId, Request.constraintId, inventoryGet, key]

theorem venueGet_boundId (uuid : String) :
    (venueGet uuid).boundId = uuid ∧ (venueGet uuid).constraintId = uuid := by
  simp [Request.boundId, Request.constraintId, venueGet]

/-- Without a bound object a request that carries nothing else resolves nothing. -/
theorem resolveTargetContext_bare {request : Request}
    (unbound : namesObject request.method request.boundId = false)
    (noQuery : request.parameters = []) (noBody : request.body = none) :
    resolveTargetContext db request = .unresolved := by
  unfold resolveTargetContext resolveUnbound
  rw [unbound, noQuery, noBody]
  rfl

/-- The decision on a read of one record. -/
theorem accepts_get_iff (nonRoot : caller.NonRoot) {request : Request} {resource id : String}
    {branch : BoundBranch} (isGet : request.method = .get)
    (named : getResourceName request.uri = resource)
    (branched : boundBranch request.uri = some branch)
    (bound : request.boundId = id ∧ request.constraintId = id)
    (noQuery : request.parameters = []) (noBody : request.body = none)
    (isScoped : resource ∈ scopedResources) (notPolicy : resource ≠ "managementPolicy")
    {scope : Resolution} (onScope : resolveBound db .get id (some branch) = some scope)
    (noThrow : scope ≠ .thrown) :
    roleIsAuthorized db caller request = some true ↔
      if id = "" ∨ id = "0" then
        ∃ role ∈ caller.roles, caller.checkRolePolicy resource .get role = true
      else
        ∃ entity venue, scope = .resolved entity venue ∧ caller.Reads db resource entity venue := by
  have notOpen : isOpenRead (getResourceName request.uri) request.method = false :=
    isOpenRead_eq_false (named ▸ isScoped) fun policyRead => notPolicy (named ▸ policyRead.1)
  have hasName : resource ≠ "" := by
    rintro rfl
    revert isScoped
    decide
  rw [roleIsAuthorized_iff nonRoot notOpen, named, isGet]
  have known : scopedResources.contains resource = true := by simpa using isScoped
  by_cases bare : id = "" ∨ id = "0"
  · rw [if_pos bare]
    have unbound : namesObject request.method request.boundId = false := by
      rw [isGet, bound.1, Bool.eq_false_iff]
      exact fun isName => (namesObject_get id).mp isName bare
    have unselected : hasScopeConstraint resource request = false := by
      rw [hasScopeConstraint, known, Bool.true_and, Request.hasScopeSelector, noQuery, noBody,
        bound.2, ← bound.1, unbound]
      rfl
    rw [resolveTargetContext_bare unbound noQuery noBody]
    simp [hasName, unselected]
  · rw [if_neg bare]
    have isBound : namesObject request.method request.boundId = true := by
      rw [isGet, bound.1]
      exact (namesObject_get id).mpr bare
    have resolution : resolveTargetContext db request = scope := by
      unfold resolveTargetContext
      rw [isBound, isGet, bound.1, branched, onScope]
      rfl
    rw [resolution]
    cases scope with
    | thrown => exact absurd rfl noThrow
    | unresolved =>
        have selected : hasScopeConstraint resource request = true := by
          rw [hasScopeConstraint, known, Request.hasScopeSelector, bound.2, ← bound.1, isBound]
          rfl
        simp [selected]
    | resolved entity venue =>
        simp only [ne_eq, hasName, not_false_eq_true, true_and, Resolution.resolved.injEq]
        rw [covers_iff_reads]
        constructor
        · intro reads
          exact ⟨entity, venue, ⟨rfl, rfl⟩, reads⟩
        · rintro ⟨_, _, ⟨rfl, rfl⟩, reads⟩
          exact reads

theorem inventoryScope_ne_thrown (id : String) : inventoryScope db id ≠ .thrown := by
  have fallback : subscriberDeviceFallback db id ≠ .thrown := by
    unfold subscriberDeviceFallback
    repeat' split
    all_goals simp
  unfold inventoryScope
  repeat' split
  all_goals first | exact fallback | simp

theorem accepts_inventoryGet_iff (nonRoot : caller.NonRoot) {serialNumber : String}
    (routed : '/' ∉ serialNumber.toList) :
    roleIsAuthorized db caller (inventoryGet serialNumber) = some true ↔
      if serialNumber = "" ∨ serialNumber = "0" then
        ∃ role ∈ caller.roles, caller.checkRolePolicy "inventory" .get role = true
      else
        ∃ entity venue, inventoryScope db serialNumber = .resolved entity venue ∧
          caller.Reads db "inventory" entity venue := by
  obtain ⟨named, branched⟩ := inventoryGet_named routed
  exact accepts_get_iff nonRoot rfl named branched (inventoryGet_boundId serialNumber) rfl rfl
    (by decide) (by decide) rfl (inventoryScope_ne_thrown serialNumber)

theorem accepts_venueGet_iff (nonRoot : caller.NonRoot) {uuid : String} {venue : Venue}
    (routed : '/' ∉ uuid.toList) (found : db.venueDB.get? uuid = some venue) :
    roleIsAuthorized db caller (venueGet uuid) = some true ↔
      if uuid = "" ∨ uuid = "0" then
        ∃ role ∈ caller.roles, caller.checkRolePolicy "venue" .get role = true
      else
        caller.Reads db "venue" venue.entity uuid := by
  obtain ⟨named, branched⟩ := venueGet_named routed
  have onScope : resolveBound db .get uuid (some .venue) = some (.resolved venue.entity uuid) := by
    simp [resolveBound, found, scopeOf]
  rw [accepts_get_iff nonRoot rfl named branched (venueGet_boundId uuid) rfl rfl (by decide)
    (by decide) onScope (by simp)]
  simp

end Single

/-! ## Where the list of devices and the single read differ -/

/-- The list of devices goes by the entity column of the device. -/
def Caller.GrantsColumn (caller : Caller) (tag : InventoryTag) : Prop :=
  tag.entity ≠ "" ∧ caller.GrantsEntity "inventory" tag.entity

/-- The gaps between the list of devices and the read of one device. -/
inductive InventoryGap (db : Store) (caller : Caller) (tag : InventoryTag) : Prop
  /-- No scope is looked up for the serial number `0`. -/
  | zero (isZero : tag.serialNumber = "0")
      (allowed : ∃ role ∈ caller.roles, caller.checkRolePolicy "inventory" .get role = true)
      (unlisted : ¬ caller.ListsTag db tag)
  /-- One role on the venue suffices for a read, and each of them counts for the list. -/
  | venueRolesDiffer (usable : tag.serialNumber ≠ "0") (filled : tag.venue ≠ "")
      (granted : caller.GrantsVenue "inventory" tag.venue)
      (refused : caller.RefusesVenue "inventory" tag.venue)
      (noColumn : ¬ caller.GrantsColumn tag)
  /-- Roles on the venue decide for a read, and the entity column passes them by. -/
  | venueRolesRefuse (usable : tag.serialNumber ≠ "0") (filled : tag.venue ≠ "")
      (noGrant : ¬ caller.GrantsVenue "inventory" tag.venue)
      (refused : caller.RefusesVenue "inventory" tag.venue)
      (column : caller.GrantsColumn tag)
  /-- A role on the entity reads the devices of the venues below its venues, and lists those
  of its own venues. -/
  | deeperVenue (usable : tag.serialNumber ≠ "0") (filled : tag.venue ≠ "")
      (notOn : caller.NotOnVenue tag.venue)
      (granted : caller.GrantsEntity "inventory" (tagEntityOrSubscriber db tag))
      (reached : ReachesVenue db (tagEntityOrSubscriber db tag) tag.venue)
      (noColumn : ¬ caller.GrantsColumn tag) (noOwner : ¬ caller.GrantsOwner db tag.venue)
  /-- The entity that lists the device is not the one that a read looks at, or does not lead
  to the venue. -/
  | otherEntity (usable : tag.serialNumber ≠ "0") (filled : tag.venue ≠ "")
      (notOn : caller.NotOnVenue tag.venue)
      (listed : caller.GrantsColumn tag ∨ caller.GrantsOwner db tag.venue)
      (refused : ¬ (caller.GrantsEntity "inventory" (tagEntityOrSubscriber db tag) ∧
        ReachesVenue db (tagEntityOrSubscriber db tag) tag.venue))
  /-- A device without a place is read through the operator of its subscriber. -/
  | throughSubscriber (usable : tag.serialNumber ≠ "0") (noVenue : tag.venue = "")
      (noEntity : tag.entity = "") (entity : String)
      (onScope : inventoryScope db tag.serialNumber = .resolved entity "")
      (granted : caller.GrantsEntity "inventory" entity)
      (noOwner : ¬ caller.GrantsOwner db "")
  /-- The venues of a granted entity contain the empty id. -/
  | emptyVenue (usable : tag.serialNumber ≠ "0") (noVenue : tag.venue = "")
      (owner : caller.GrantsOwner db "")
      (refused : ∀ entity, inventoryScope db tag.serialNumber = .resolved entity "" →
        ¬ caller.GrantsEntity "inventory" entity)

section Inventory

variable {db : Store} {caller : Caller} {tag : InventoryTag}

theorem inventoryScope_of_venue (found : findTag db tag.serialNumber = some tag)
    (filled : tag.venue ≠ "") :
    inventoryScope db tag.serialNumber =
      .resolved (tagEntityOrSubscriber db tag) tag.venue := by
  unfold inventoryScope
  rw [found]
  exact if_pos (.inr filled)

theorem inventoryScope_of_entity (found : findTag db tag.serialNumber = some tag)
    (noVenue : tag.venue = "") (filled : tag.entity ≠ "") :
    inventoryScope db tag.serialNumber = .resolved tag.entity "" := by
  have column : tagEntityOrSubscriber db tag = tag.entity := by
    simp [tagEntityOrSubscriber, tagEntity, filled]
  unfold inventoryScope
  rw [found]
  dsimp only
  rw [column, noVenue, if_pos (.inl filled)]

/-- A device without a venue is read on an entity alone. -/
theorem venue_of_inventoryScope (found : findTag db tag.serialNumber = some tag)
    (noVenue : tag.venue = "") {entity venue : String}
    (onScope : inventoryScope db tag.serialNumber = .resolved entity venue) : venue = "" := by
  unfold inventoryScope subscriberDeviceFallback at onScope
  rw [found] at onScope
  dsimp only at onScope
  rw [noVenue] at onScope
  repeat' split at onScope
  all_goals first | (cases onScope; rfl) | cases onScope

theorem notOnVenue_iff (caller : Caller) (resource venue : String) :
    caller.NotOnVenue venue ↔
      ¬ caller.GrantsVenue resource venue ∧ ¬ caller.RefusesVenue resource venue := by
  constructor
  · intro notOn
    constructor
    · rintro ⟨role, member, onVenue, _⟩
      exact notOn role member onVenue
    · rintro ⟨role, member, onVenue, _⟩
      exact notOn role member onVenue
  · rintro ⟨noGrant, noRefusal⟩ role member onVenue
    cases allowed : caller.checkRolePolicy resource .get role with
    | false => exact noRefusal ⟨role, member, onVenue, allowed⟩
    | true => exact noGrant ⟨role, member, onVenue, allowed⟩

theorem listsTag_of_venue (filled : tag.venue ≠ "") :
    caller.ListsTag db tag ↔ caller.GrantsColumn tag ∨
      (caller.GrantsVenue "inventory" tag.venue ∨ caller.GrantsOwner db tag.venue) ∧
        ¬ caller.RefusesVenue "inventory" tag.venue := by
  simp [Caller.ListsTag, Caller.GrantsColumn, filled]

theorem listsTag_of_noVenue (noVenue : tag.venue = "") :
    caller.ListsTag db tag ↔ caller.GrantsColumn tag ∨ caller.GrantsOwner db "" := by
  simp [Caller.ListsTag, Caller.GrantsColumn, noVenue]

/-- A device at a venue. -/
theorem inventoryGap_of_venue (usable : tag.serialNumber ≠ "0") (filled : tag.venue ≠ "") :
    (caller.ListsTag db tag ↔
      caller.Reads db "inventory" (tagEntityOrSubscriber db tag) tag.venue) ↔
      ¬ InventoryGap db caller tag := by
  rw [listsTag_of_venue filled, Caller.Reads, if_neg filled]
  have onVenue := notOnVenue_iff caller "inventory" tag.venue
  constructor
  · intro agree gap
    cases gap with
    | zero isZero => exact usable isZero
    | venueRolesDiffer _ _ granted refused noColumn => tauto
    | venueRolesRefuse _ _ noGrant refused column => tauto
    | deeperVenue _ _ notOn granted reached noColumn noOwner => tauto
    | otherEntity _ _ notOn listed refused => tauto
    | throughSubscriber _ noVenue => exact filled noVenue
    | emptyVenue _ noVenue => exact filled noVenue
  · intro noGap
    by_cases granted : caller.GrantsVenue "inventory" tag.venue
    · by_cases refused : caller.RefusesVenue "inventory" tag.venue
      · have column : caller.GrantsColumn tag := by
          by_contra noColumn
          exact noGap (.venueRolesDiffer usable filled granted refused noColumn)
        tauto
      · tauto
    · by_cases refused : caller.RefusesVenue "inventory" tag.venue
      · have noColumn : ¬ caller.GrantsColumn tag := fun column =>
          noGap (.venueRolesRefuse usable filled granted refused column)
        tauto
      · have notOn : caller.NotOnVenue tag.venue := onVenue.mpr ⟨granted, refused⟩
        constructor
        · intro listed
          by_contra unread
          exact noGap (.otherEntity usable filled notOn (by tauto) (by tauto))
        · intro reads
          by_contra unlisted
          exact noGap (.deeperVenue usable filled notOn (by tauto) (by tauto) (by tauto) (by tauto))

/-- A device without a venue. -/
theorem inventoryGap_of_noVenue (usable : tag.serialNumber ≠ "0") (noVenue : tag.venue = "")
    (found : findTag db tag.serialNumber = some tag) :
    (caller.ListsTag db tag ↔
      ∃ entity venue, inventoryScope db tag.serialNumber = .resolved entity venue ∧
        caller.Reads db "inventory" entity venue) ↔
      ¬ InventoryGap db caller tag := by
  have readsEntity : (∃ entity venue,
        inventoryScope db tag.serialNumber = .resolved entity venue ∧
          caller.Reads db "inventory" entity venue) ↔
      ∃ entity, inventoryScope db tag.serialNumber = .resolved entity "" ∧
        caller.GrantsEntity "inventory" entity := by
    constructor
    · rintro ⟨entity, venue, onScope, reads⟩
      obtain rfl := venue_of_inventoryScope found noVenue onScope
      exact ⟨entity, onScope, by simpa [Caller.Reads] using reads⟩
    · rintro ⟨entity, onScope, granted⟩
      exact ⟨entity, "", onScope, by simpa [Caller.Reads] using granted⟩
  rw [listsTag_of_noVenue noVenue, readsEntity]
  constructor
  · intro agree gap
    cases gap with
    | zero isZero => exact usable isZero
    | venueRolesDiffer _ filled => exact filled noVenue
    | venueRolesRefuse _ filled => exact filled noVenue
    | deeperVenue _ filled => exact filled noVenue
    | otherEntity _ filled => exact filled noVenue
    | throughSubscriber _ _ noEntity entity onScope granted noOwner =>
        rcases agree.mpr ⟨entity, onScope, granted⟩ with column | owner
        · exact column.1 noEntity
        · exact noOwner owner
    | emptyVenue _ _ owner refused =>
        obtain ⟨entity, onScope, granted⟩ := agree.mp (.inr owner)
        exact refused entity onScope granted
  · intro noGap
    constructor
    · rintro (⟨filled, granted⟩ | owner)
      · exact ⟨tag.entity, inventoryScope_of_entity found noVenue filled, granted⟩
      · by_contra refused
        push Not at refused
        exact noGap (.emptyVenue usable noVenue owner refused)
    · rintro ⟨entity, onScope, granted⟩
      by_cases filled : tag.entity = ""
      · by_contra unlisted
        exact noGap (.throughSubscriber usable noVenue filled entity onScope granted
          fun owner => unlisted (.inr owner))
      · rw [inventoryScope_of_entity found noVenue filled] at onScope
        injection onScope with isEntity
        exact .inl ⟨filled, isEntity ▸ granted⟩

theorem inventoryGap_iff (nonRoot : caller.NonRoot) (member : tag ∈ db.inventoryDB.rows)
    (found : findTag db tag.serialNumber = some tag) (filled : tag.serialNumber ≠ "")
    (routed : '/' ∉ tag.serialNumber.toList) :
    (tag ∈ inventoryList db caller ↔
      roleIsAuthorized db caller (inventoryGet tag.serialNumber) = some true) ↔
      ¬ InventoryGap db caller tag := by
  rw [mem_inventoryList, accepts_inventoryGet_iff nonRoot routed]
  simp only [member, true_and]
  by_cases isZero : tag.serialNumber = "0"
  · rw [if_pos (.inr isZero)]
    constructor
    · intro agree gap
      cases gap with
      | zero _ allowed unlisted => exact unlisted (agree.mpr allowed)
      | _ usable => exact usable isZero
    · intro noGap
      constructor
      · rintro (⟨_, role, isRole, _, _, allowed⟩ |
          ⟨⟨_, role, isRole, _, allowed⟩ | ⟨_, _, _, ⟨role, isRole, _, _, allowed⟩, _⟩, _⟩)
        all_goals exact ⟨role, isRole, allowed⟩
      · intro allowed
        by_contra unlisted
        exact noGap (.zero isZero allowed unlisted)
  · have usable : ¬ (tag.serialNumber = "" ∨ tag.serialNumber = "0") := by tauto
    rw [if_neg usable]
    by_cases noVenue : tag.venue = ""
    · exact inventoryGap_of_noVenue isZero noVenue found
    · rw [inventoryScope_of_venue found noVenue]
      simpa using inventoryGap_of_venue isZero noVenue

end Inventory

/-! ## Where the list of venues and the single read differ -/

/-- The recursion below the granted entities ends. -/
def Caller.VenueListEnds (db : Store) (caller : Caller) : Prop :=
  ∀ entityId, entityId ≠ "" → caller.GrantsEntity "venue" entityId →
    (Owprov.allowedVenues db entityId).isSome

/-- The list of venues shows a venue with this id. -/
def Caller.ListsVenue (db : Store) (caller : Caller) (venueId : String) : Prop :=
  caller.VenueListEnds db ∧
    (caller.GrantsVenue "venue" venueId ∨
      ∃ entityId, entityId ≠ "" ∧ caller.GrantsEntity "venue" entityId ∧
        ReachesVenue db entityId venueId) ∧
    ¬ caller.RefusesVenue "venue" venueId

/-- The gaps between the list of venues and the read of one venue. -/
inductive VenueGap (db : Store) (caller : Caller) (venue : Venue) : Prop
  /-- No scope is looked up for the id `0`. -/
  | zero (isZero : venue.info.id = "0")
      (allowed : ∃ role ∈ caller.roles, caller.checkRolePolicy "venue" .get role = true)
      (unlisted : ¬ caller.ListsVenue db venue.info.id)
  /-- One role on the venue suffices for a read, and each of them counts for the list. -/
  | rolesDiffer (usable : venue.info.id ≠ "0")
      (granted : caller.GrantsVenue "venue" venue.info.id)
      (refused : caller.RefusesVenue "venue" venue.info.id)
  /-- The venue is below a granted entity that is not the one of its entity column. -/
  | otherEntity (usable : venue.info.id ≠ "0") (ends : caller.VenueListEnds db)
      (notOn : caller.NotOnVenue venue.info.id) (entityId : String) (filled : entityId ≠ "")
      (granted : caller.GrantsEntity "venue" entityId)
      (reached : ReachesVenue db entityId venue.info.id)
      (refused : ¬ (caller.GrantsEntity "venue" venue.entity ∧
        ReachesVenue db venue.entity venue.info.id))
  /-- The venue is below an entity with the empty id. -/
  | emptyEntity (usable : venue.info.id ≠ "0") (ends : caller.VenueListEnds db)
      (notOn : caller.NotOnVenue venue.info.id) (noEntity : venue.entity = "")
      (granted : caller.GrantsEntity "venue" "") (reached : ReachesVenue db "" venue.info.id)
      (unlisted : ∀ entityId, entityId ≠ "" → caller.GrantsEntity "venue" entityId →
        ¬ ReachesVenue db entityId venue.info.id)
  /-- The list is never answered. -/
  | endless (usable : venue.info.id ≠ "0") (endless : ¬ caller.VenueListEnds db)
      (reads : caller.Reads db "venue" venue.entity venue.info.id)

section Venues

variable {db : Store} {caller : Caller} {venue : Venue}

theorem mapM_allowedVenues_isSome_iff (db : Store) (caller : Caller) :
    ((allowedEntities caller "venue").mapM (allowedVenues db)).isSome ↔
      caller.VenueListEnds db := by
  rw [mapM_isSome_iff]
  simp only [mem_grantedEntities, and_imp]
  rfl

theorem mem_venueList (filled : venue.info.id ≠ "") :
    (∃ rows, venueList db caller = some rows ∧ venue ∈ rows) ↔
      venue ∈ db.venueDB.rows ∧ caller.ListsVenue db venue.info.id := by
  have ends := mapM_allowedVenues_isSome_iff db caller
  unfold venueList listedVenueIds Caller.ListsVenue
  cases visited : (allowedEntities caller "venue").mapM (allowedVenues db) with
  | none =>
      rw [visited] at ends
      have endless : ¬ caller.VenueListEnds db := fun ended => by
        have impossible := ends.mpr ended
        cases impossible
      simp [endless]
  | some below =>
      have ended : caller.VenueListEnds db := ends.mp (by rw [visited]; rfl)
      have isBelow : venue.info.id ∈ below.flatten ↔
          ∃ entityId, entityId ≠ "" ∧ caller.GrantsEntity "venue" entityId ∧
            ReachesVenue db entityId venue.info.id := by
        simp only [List.mem_flatten, mem_of_mapM_eq_some visited, mem_grantedEntities]
        constructor
        · rintro ⟨venues, ⟨entityId, ⟨filled, granted⟩, walked⟩, member⟩
          exact ⟨entityId, filled, granted, venues, walked, member⟩
        · rintro ⟨entityId, filled, granted, venues, walked, member⟩
          exact ⟨venues, ⟨entityId, ⟨filled, granted⟩, walked⟩, member⟩
      simp only [Option.bind_eq_bind, Option.bind_some, pure, Option.some.injEq,
        exists_eq_left', List.mem_mergeSort, List.mem_filter, List.mem_append, mem_exactVenues,
        isBelow, decide_eq_true_eq, decide_not, Bool.not_eq_true', decide_eq_false_iff_not, ended,
        true_and, filled, ne_eq, not_false_eq_true]
      rfl

theorem venueGap_iff (nonRoot : caller.NonRoot) (member : venue ∈ db.venueDB.rows)
    (filled : venue.info.id ≠ "") (routed : '/' ∉ venue.info.id.toList) :
    ((∃ rows, venueList db caller = some rows ∧ venue ∈ rows) ↔
      roleIsAuthorized db caller (venueGet venue.info.id) = some true) ↔
      ¬ VenueGap db caller venue := by
  have found : db.venueDB.get? venue.info.id = some venue := Table.get?_key_of_mem member
  rw [mem_venueList filled, accepts_venueGet_iff nonRoot routed found]
  simp only [member, true_and]
  by_cases isZero : venue.info.id = "0"
  · rw [if_pos (.inr isZero)]
    constructor
    · intro agree gap
      cases gap with
      | zero _ allowed unlisted => exact unlisted (agree.mpr allowed)
      | _ usable => exact usable isZero
    · intro noGap
      constructor
      · rintro ⟨_, ⟨role, isRole, _, allowed⟩ | ⟨_, _, ⟨role, isRole, _, _, allowed⟩, _⟩, _⟩
        all_goals exact ⟨role, isRole, allowed⟩
      · intro allowed
        by_contra unlisted
        exact noGap (.zero isZero allowed unlisted)
  · have usable : ¬ (venue.info.id = "" ∨ venue.info.id = "0") := by tauto
    rw [if_neg usable]
    have reads : caller.Reads db "venue" venue.entity venue.info.id ↔
        caller.GrantsVenue "venue" venue.info.id ∨ caller.NotOnVenue venue.info.id ∧
          caller.GrantsEntity "venue" venue.entity ∧
            ReachesVenue db venue.entity venue.info.id := by
      rw [Caller.Reads, if_neg filled]
    have onVenue := notOnVenue_iff caller "venue" venue.info.id
    constructor
    · intro agree gap
      cases gap with
      | zero zero => exact isZero zero
      | rolesDiffer _ granted refused => exact (agree.mpr (reads.mpr (.inl granted))).2.2 refused
      | otherEntity _ ends notOn entityId filled granted reached refused =>
          have listed : caller.ListsVenue db venue.info.id :=
            ⟨ends, .inr ⟨entityId, filled, granted, reached⟩, (onVenue.mp notOn).2⟩
          rcases reads.mp (agree.mp listed) with onIt | ⟨_, below⟩
          · exact (onVenue.mp notOn).1 onIt
          · exact refused below
      | emptyEntity _ ends notOn noEntity granted reached unlisted =>
          have accepted := reads.mpr (.inr ⟨notOn, noEntity ▸ granted, noEntity ▸ reached⟩)
          obtain ⟨_, onIt | ⟨entityId, filled, other, reached⟩, _⟩ := agree.mpr accepted
          · exact (onVenue.mp notOn).1 onIt
          · exact unlisted entityId filled other reached
      | endless _ endless accepted => exact endless (agree.mpr accepted).1
    · intro noGap
      constructor
      · rintro ⟨ends, granted | ⟨entityId, filled, granted, reached⟩, noRefusal⟩
        · exact reads.mpr (.inl granted)
        · by_cases onIt : caller.GrantsVenue "venue" venue.info.id
          · exact reads.mpr (.inl onIt)
          · have notOn := onVenue.mpr ⟨onIt, noRefusal⟩
            by_contra unread
            refine noGap (.otherEntity isZero ends notOn entityId filled granted reached ?_)
            exact fun below => unread (reads.mpr (.inr ⟨notOn, below⟩))
      · intro accepted
        have ends : caller.VenueListEnds db := by
          by_contra endless
          exact noGap (.endless isZero endless accepted)
        rcases reads.mp accepted with granted | ⟨notOn, granted, reached⟩
        · refine ⟨ends, .inl granted, fun refused => ?_⟩
          exact noGap (.rolesDiffer isZero granted refused)
        · refine ⟨ends, .inr ?_, (onVenue.mp notOn).2⟩
          by_cases noEntity : venue.entity = ""
          · by_contra unlisted
            push Not at unlisted
            exact noGap (.emptyEntity isZero ends notOn noEntity (noEntity ▸ granted)
              (noEntity ▸ reached) unlisted)
          · exact ⟨venue.entity, noEntity, granted, reached⟩

end Venues

/-! ## Both lists -/

/-- A device that can be asked for: the authorization finds it by its serial number, and the
number is one segment of a path. -/
structure Store.HasDevice (db : Store) (tag : InventoryTag) : Prop where
  stored : tag ∈ db.inventoryDB.rows
  found : findTag db tag.serialNumber = some tag
  filled : tag.serialNumber ≠ ""
  routed : '/' ∉ tag.serialNumber.toList

/-- A venue that can be asked for. -/
structure Store.HasVenue (db : Store) (venue : Venue) : Prop where
  stored : venue ∈ db.venueDB.rows
  filled : venue.info.id ≠ ""
  routed : '/' ∉ venue.info.id.toList

/-- A user's lists show just what the user may read one by one, except in the gaps. -/
theorem lists_agree_iff (db : Store) {caller : Caller} (nonRoot : caller.NonRoot) :
    (∀ tag, db.HasDevice tag →
      ((tag ∈ inventoryList db caller ↔
        roleIsAuthorized db caller (inventoryGet tag.serialNumber) = some true) ↔
        ¬ InventoryGap db caller tag)) ∧
    ∀ venue, db.HasVenue venue →
      (((∃ rows, venueList db caller = some rows ∧ venue ∈ rows) ↔
        roleIsAuthorized db caller (venueGet venue.info.id) = some true) ↔
        ¬ VenueGap db caller venue) :=
  ⟨fun _ device =>
      inventoryGap_iff nonRoot device.stored device.found device.filled device.routed,
    fun _ venue => venueGap_iff nonRoot venue.stored venue.filled venue.routed⟩

/-- A user with two roles on a venue, one of which allows everything and one nothing. -/
def dividedCaller (venueId : String) : Caller where
  user := { id := "divided", userRole := .admin }
  roles := [roleOn "" venueId "full", roleOn "" venueId "empty"]
  policy := fun id => if id = "full" then some fullPolicy else some emptyPolicy

theorem dividedCaller_nonRoot (venueId : String) : (dividedCaller venueId).NonRoot := by
  intro isRoot
  cases isRoot

/-- The device that one request enters into a venue. -/
theorem equippedVenue_hasDevice :
    ∃ tag, equippedVenue.HasDevice tag ∧ tag.serialNumber = "aabbccddeeff" := by
  have entered : ((findTag equippedVenue "aabbccddeeff").map InventoryTag.serialNumber) =
      some "aabbccddeeff" := by decide
  obtain ⟨tag, found, serial⟩ := Option.map_eq_some_iff.mp entered
  have notAnId : equippedVenue.inventoryDB.get? "aabbccddeeff" = none := by decide
  have bySerial : getBy equippedVenue.inventoryDB InventoryTag.serialNumber "aabbccddeeff" =
      some tag := by
    rw [findTag, notAnId] at found
    exact found
  refine ⟨tag, ⟨getBy_mem bySerial, serial ▸ found, ?_, ?_⟩, serial⟩
  · rw [serial]
    decide
  · rw [serial]
    decide

/-- A device that the user may read is not in the user's list. -/
theorem readable_device_not_listed :
    ¬ ∀ tag, equippedVenue.HasDevice tag →
      (tag ∈ inventoryList equippedVenue (dividedCaller (unaryId 21)) ↔
        roleIsAuthorized equippedVenue (dividedCaller (unaryId 21))
          (inventoryGet tag.serialNumber) = some true) := by
  intro claim
  obtain ⟨tag, device, serial⟩ := equippedVenue_hasDevice
  have agree := claim tag device
  rw [serial] at agree
  have unlisted : inventoryList equippedVenue (dividedCaller (unaryId 21)) = [] := by
    decide +kernel
  have accepted : roleIsAuthorized equippedVenue (dividedCaller (unaryId 21))
      (inventoryGet "aabbccddeeff") = some true := by decide
  have impossible := agree.mpr accepted
  rw [unlisted] at impossible
  cases impossible

/-- The gaps of the device in a venue. -/
theorem lists_agree_for_divided :
    ∃ tag, equippedVenue.HasDevice tag ∧
      ((tag ∈ inventoryList equippedVenue (dividedCaller (unaryId 21)) ↔
        roleIsAuthorized equippedVenue (dividedCaller (unaryId 21))
          (inventoryGet tag.serialNumber) = some true) ↔
        ¬ InventoryGap equippedVenue (dividedCaller (unaryId 21)) tag) := by
  obtain ⟨tag, device, _⟩ := equippedVenue_hasDevice
  exact ⟨tag, device,
    (lists_agree_iff equippedVenue (dividedCaller_nonRoot (unaryId 21))).1 tag device⟩

end Owprov
