import Owprov.AuthCache

/-!
# What the handlers share

A handler maps the database and a request to a new database and an answer.  It first
validates the request, which reads the database and changes nothing, and then writes.
Checks that need code outside the repository's own, or tables outside the model, are
members of the environment.
-/

namespace Owprov

open RowTable

/-- `ConfigurationValidator::ConfigurationType`. -/
inductive ConfigurationType where
  | ap
  | switch
  | olg
  deriving DecidableEq, Repr

/-- `ConfigurationValidator::GetType`. -/
def ConfigurationType.ofText (type : String) : ConfigurationType :=
  match toUpper type with
  | "SWITCH" => .switch
  | "OLG" => .olg
  | _ => .ap

/-- The quote of a text in a statement. -/
def sqlQuote : Char := Char.ofNat 39

/-- A quote ends a text in a statement, and a zero byte ends the statement. -/
def breaksStatement (text : String) : Bool :=
  text.toList.any fun c => c == sqlQuote || c == Char.ofNat 0

/-- The rows that the database answers to a condition whose text holds a quote from the
request, and so need not be the condition that the handler meant. -/
structure QuotedSelects where
  contacts : Store → String → QueryBlock → List Contact
  locations : Store → String → QueryBlock → List Location
  configurations : Store → String → QueryBlock → List DeviceConfiguration
  «variables» : Store → String → QueryBlock → List VariableBlock
  maps : Store → String → QueryBlock → List Map
  roles : Store → String → QueryBlock → List ManagementRole

/-- What a signup tells the security service. -/
structure SignupCall where
  email : String
  signupUUID : String
  owner : String
  operatorName : String
  resend : Bool
  deriving DecidableEq, Repr

/-- The checks and calls that the handlers leave to other code. -/
structure Env where
  /-- `ValidRRM` for a value other than `no` and `inherit`: RRM details with a schedule. -/
  validRRMDetails : String → Bool
  /-- `CIDR::ValidateIpRanges`. -/
  validateIpRanges : List String → Bool
  /-- `Utils::ValidTimeZone`. -/
  validTimeZone : String → Bool
  /-- A device type is known to the device type cache. -/
  isAcceptedDeviceType : String → Bool
  /-- `ValidateConfigBlock`: the error that it reports, if any. -/
  configBlockError : ConfigurationType → DeviceConfiguration → Option String
  /-- The `ExistFunc_` entries of tables that the model leaves out. -/
  existFunc : String → Option (String → Bool)
  /-- Whether a `select count(*)` that a text from the request breaks counts any row; it does
  not when it fails. -/
  countsQuoted : Store → String → Bool
  quotedSelects : QuotedSelects
  /-- `SDK::Sec::Subscriber::Get` finds the user. -/
  secSubscriber : String → Bool
  /-- The users LIKE condition in a statement, on the users of a row. -/
  usersLike : List String → String → Bool
  /-- `Utils::Now` as text. -/
  now : String
  /-- `Utils::Now`. -/
  clock : ℕ := 0
  /-- `SDK::Sec::User::Get`. -/
  secUser : String → Option UserInfo
  /-- `Utils::ValidEMailAddress`. -/
  validEMailAddress : String → Bool
  /-- The security service on a signup: the id of the user, or the status of its refusal. -/
  secSignup : SignupCall → Except ℕ String
  /-- `SDK::Sec::Subscriber::Delete`. -/
  secDeleteSubscriber : String → Bool
  /-- `SDK::Analytics::StartMonitoring` for a venue: the id of the new board, if any. -/
  startMonitoring : Venue → Option String
  /-- `SDK::Analytics::StopMonitoring` for a board. -/
  stopMonitoring : String → Bool

/-- What a request runs with: the environment, the caller, the ids that
`MicroServiceCreateUUID` answers, in their order, and what `GetUserRoles` answers. -/
structure Context where
  env : Env
  caller : Caller
  newId : ℕ → String
  cachedRoles : String → Option (List ManagementRole) := fun _ => none

/-- The same context for another caller. -/
def Context.withCaller (ctx : Context) (caller : Caller) : Context :=
  { ctx with caller := caller }

/-- The same context for a root user. -/
def Context.asRoot (ctx : Context) : Context :=
  ctx.withCaller { user := { id := "root", userRole := .root } }

/-- The new ids are pairwise different and name no record yet. -/
structure Context.Fresh (ctx : Context) (db : Store) : Prop where
  filled : ∀ i, ctx.newId i ≠ ""
  distinct : Function.Injective ctx.newId
  entity : ∀ i, db.entityDB.get? (ctx.newId i) = none
  venue : ∀ i, db.venueDB.get? (ctx.newId i) = none
  role : ∀ i, db.rolesDB.get? (ctx.newId i) = none
  operator : ∀ i, db.operatorDB.get? (ctx.newId i) = none
  location : ∀ i, db.locationDB.get? (ctx.newId i) = none

/-- The database after a request and how the request ended. -/
structure Outcome where
  store : Store
  result : Except Failure Unit

def Outcome.fail (db : Store) (failure : Failure) : Outcome where
  store := db
  result := .error failure

def Outcome.done (db : Store) : Outcome where
  store := db
  result := .ok ()

@[simp]
theorem Outcome.store_fail (db : Store) (failure : Failure) : (fail db failure).store = db := rfl

@[simp]
theorem Outcome.store_done (db : Store) : (done db).store = db := rfl

/-- The request was carried out. -/
def Outcome.Succeeds (outcome : Outcome) : Prop :=
  outcome.result = .ok ()

instance (outcome : Outcome) : Decidable outcome.Succeeds :=
  match ended : outcome.result with
  | .ok () => isTrue ended
  | .error failure => isFalse (by simp [Outcome.Succeeds, ended])

/-- A request that is answered with an error leaves a database of a kind. -/
def Outcome.OnError (outcome : Outcome) (asBefore : Store → Prop) : Prop :=
  ∀ failure, outcome.result = .error failure → asBefore outcome.store

@[simp]
theorem onError_fail {db : Store} {failure : Failure} {asBefore : Store → Prop} :
    (Outcome.fail db failure).OnError asBefore ↔ asBefore db :=
  ⟨fun onError => onError failure rfl, fun same _ _ => same⟩

@[simp]
theorem onError_done {db : Store} {asBefore : Store → Prop} :
    (Outcome.done db).OnError asBefore := by
  rintro failure ⟨⟩

/-- A validation step. -/
def require (holds : Bool) (failure : Failure) : Except Failure Unit :=
  if holds then .ok () else .error failure

@[simp]
theorem require_eq_ok_iff {holds : Bool} {failure : Failure} {u : Unit} :
    require holds failure = .ok u ↔ holds = true := by
  cases holds <;> simp [require]

/-- A sequence of validation steps succeeds when each one does. -/
theorem bind_eq_ok_iff {α β : Type} {first : Except Failure α} {next : α → Except Failure β}
    {result : β} : (first >>= next) = .ok result ↔ ∃ a, first = .ok a ∧ next a = .ok result := by
  cases first with
  | error failure => simp [bind, Except.bind]
  | ok a => simp [bind, Except.bind]

theorem orInvalid_eq_ok_iff {α : Type} {read : Except Failure α} {value : α} :
    orInvalid read = .ok value ↔ read = .ok value := by
  cases read <;> simp [orInvalid]

/-! ### Reading a body -/

/-- A field that is read as text reads the same in a record. -/
theorem stringField_of_getString {body : JsonObject} {field value : String}
    (read : body.getString field = .ok value) : body.stringField field = value := by
  unfold JsonObject.getString at read
  unfold JsonObject.stringField
  cases found : body.lookup field with
  | none =>
      rw [found] at read
      cases read
  | some json =>
      rw [found] at read
      cases json <;> cases read <;> rfl

theorem stringField_of_has {body : JsonObject} {field : String}
    (absent : body.has field = false) : body.stringField field = "" := by
  unfold JsonObject.has at absent
  unfold JsonObject.stringField
  rw [Option.isSome_eq_false_iff, Option.isNone_iff_eq_none] at absent
  rw [absent]

theorem body_of_jsonBody {request : Request} {body : JsonObject}
    (read : request.jsonBody = .ok body) : request.body = some body := by
  rw [Request.jsonBody, orInvalid_eq_ok_iff, Request.getBody] at read
  split at read
  · cases read
    assumption
  · cases read

theorem Venue.fromJson_eq_ok {obj : JsonObject} {venue : Venue}
    (read : Venue.fromJson obj = .ok venue) :
    venue.parent = obj.stringField "parent" ∧ venue.entity = obj.stringField "entity" := by
  unfold Venue.fromJson at read
  rw [orInvalid_eq_ok_iff] at read
  simp only [bind_eq_ok_iff] at read
  obtain ⟨_, _, _, _, _, _, _, _, _, _, _, _, read⟩ := read
  obtain ⟨_, _, _, _, _, _, _, _, _, _, _, _, read⟩ := read
  cases read
  exact ⟨rfl, rfl⟩

theorem ManagementRole.fromJson_eq_ok {obj : JsonObject} {role : ManagementRole}
    (read : ManagementRole.fromJson obj = .ok role) :
    role.entity = obj.stringField "entity" ∧ role.venue = obj.stringField "venue" ∧
      role.managementPolicy = obj.stringField "managementPolicy" := by
  unfold ManagementRole.fromJson at read
  rw [orInvalid_eq_ok_iff] at read
  simp only [bind_eq_ok_iff] at read
  obtain ⟨_, _, read⟩ := read
  cases read
  exact ⟨rfl, rfl, rfl⟩

theorem Entity.fromJson_eq_ok {obj : JsonObject} {entity : Entity}
    (read : Entity.fromJson obj = .ok entity) : entity.parent = obj.stringField "parent" := by
  unfold Entity.fromJson at read
  rw [orInvalid_eq_ok_iff] at read
  simp only [bind_eq_ok_iff] at read
  obtain ⟨_, _, _, _, _, _, _, _, _, _, _, _, read⟩ := read
  obtain ⟨_, _, _, _, _, _, _, _, _, _, _, _, read⟩ := read
  cases read
  rfl

theorem createMove_eq_ok {β : Type} [Keyed β String] {body : JsonObject}
    {field existing : String} {table : Table β} {missing : Failure} {fromId toId value : String}
    (moved : createMove body field existing table missing = .ok (fromId, toId, value)) :
    toId = body.stringField field := by
  unfold createMove at moved
  split at moved
  · obtain ⟨moveTo, read, moved⟩ := bind_eq_ok_iff.mp moved
    split at moved
    · cases moved
    · cases moved
      exact (stringField_of_getString read).symm
  · rename_i absent
    cases moved
    exact (stringField_of_has (by simpa using absent)).symm

theorem createObjectInfo_eq_ok {body : JsonObject} {info info' : ObjectInfo} {newId : String}
    (created : createObjectInfo body info newId = .ok info') : info'.id = newId := by
  unfold createObjectInfo at created
  obtain ⟨name, _, created⟩ := bind_eq_ok_iff.mp created
  split at created
  · cases created
  · obtain ⟨description, _, created⟩ := bind_eq_ok_iff.mp created
    cases created
    rfl

theorem updateObjectInfo_eq_ok {body : JsonObject} {info info' : ObjectInfo}
    (updated : updateObjectInfo body info = .ok info') : info'.id = info.id := by
  unfold updateObjectInfo at updated
  obtain ⟨name, _, updated⟩ := bind_eq_ok_iff.mp updated
  split at updated
  · cases updated
  · obtain ⟨description, _, updated⟩ := bind_eq_ok_iff.mp updated
    cases updated
    rfl

/-- A reference to a record that may be left empty. -/
def emptyOrExists {α : Type} [Keyed α String] (table : Table α) (id : String) : Bool :=
  id == "" || idExists table id

/-! ## Device rules -/

def validRRM (env : Env) (v : String) : Bool :=
  v == "no" || v == "inherit" || env.validRRMDetails v

def validDeviceRules (env : Env) (rules : DeviceRules) : Bool :=
  validRRM env rules.rrm &&
    ["yes", "no", "inherit"].contains rules.firmwareUpgrade &&
    ["yes", "no", "inherit"].contains rules.rcOnly

/-- `RawObject->has("deviceRules") && !ValidDeviceRules(...)` as a validation step. -/
def checkDeviceRules (env : Env) (body : JsonObject) (rules : DeviceRules) :
    Except Failure Unit :=
  require (!body.has "deviceRules" || validDeviceRules env rules) (.badRequest .invalidRRM)

/-! ## Inline objects -/

/-- The answer for the errors that `CreateObjects` reports. -/
def createObjectsFailure (error : String) : Failure :=
  if pathHas error "timezone" || pathHas error "Timezone" then
    .badRequest .invalidTimezone
  else
    .badRequestWith .invalidCreateObjectsRequest error

/-- The item of `createObjects` in a body, when there is one. -/
def createObjectsItem (request : Request) (body : JsonObject) :
    Except String (Option JsonObject) :=
  if request.hasParameter "createObjects" then
    .error "createObjects must be provided in the request body, not as a URL query parameter"
  else if body.has "createObjects" = false then
    .ok none
  else
    match body.getObject? "createObjects" with
    | none => .error "Invalid JSON document: createObjects must be a JSON object"
    | some objects =>
        match objects.getArray? "objects" with
        | none => .error "Invalid JSON document: createObjects must contain an objects array"
        | some [.obj item _] =>
            if (["location", "configuration", "contact"].countP (JsonObject.has item)) = 1 then
              .ok (some item)
            else
              .error ("Invalid JSON document: item in createObjects.objects must contain " ++
                "exactly one of location, configuration, or contact")
        | some [_] =>
            .error "Invalid JSON document: items in createObjects.objects must be JSON objects"
        | some _ =>
            .error ("Invalid JSON document: createObjects.objects array must contain " ++
              "exactly one item")

/-! ## Parameters that name records -/

/-- The `ExistFunc_` of a table prefix. -/
def existFunc (env : Env) (db : Store) (dbPrefix : String) : Option (String → Bool) :=
  match dbPrefix with
  | "ent" => some (idExists db.entityDB)
  | "pol" => some (idExists db.policyDB)
  | "ven" => some (idExists db.venueDB)
  | "con" => some (idExists db.contactDB)
  | "inv" => some (idExists db.inventoryDB)
  | "cfg" => some (idExists db.configurationDB)
  | "loc" => some (idExists db.locationDB)
  | "rol" => some (idExists db.rolesDB)
  | "map" => some (idExists db.mapDB)
  | "sig" => some (idExists db.signupDB)
  | "var" => some (idExists db.variablesDB)
  | "opr" => some (idExists db.operatorDB)
  | "scl" => some (idExists db.serviceClassDB)
  | "sdv" => some (idExists db.subscriberDeviceDB)
  | "olc" => some (idExists db.opLocationDB)
  | "ocn" => some (idExists db.opContactDB)
  | _ => env.existFunc dbPrefix

/-- `Utils::Split`, with the part read so far in reverse; nothing follows a delimiter at the
end of the text. -/
def splitChars (delimiter : Char) : List Char → List Char → List String
  | [], [] => []
  | [], current => [String.ofList current.reverse]
  | c :: rest, current =>
      if c = delimiter then
        String.ofList current.reverse :: splitChars delimiter rest []
      else
        splitChars delimiter rest (c :: current)

def split (text : String) (delimiter : Char) : List String :=
  splitChars delimiter text.toList []

/-- `Storage::Validate`: a parameter value `prefix:id` names an existing record, when the
prefix is that of a table. -/
def validateParameters (env : Env) (db : Store) (parameters : List (String × String)) : Bool :=
  parameters.all fun parameter =>
    match split parameter.2 ':' with
    | [dbPrefix, id] =>
        match existFunc env db dbPrefix with
        | some found => found id
        | none => true
    | _ => true

/-! ## Roles -/

/-- `FindExistingRole`. -/
def findExistingRole (caller : Caller) (entityId venueId : String) : Option ManagementRole :=
  caller.roles.find? fun role => role.entity == entityId && role.venue == venueId

/-- The role whose policy `AutoCreateCreatorRole` copies. -/
def parentRole (caller : Caller) (parentEntityId parentVenueId : String) :
    Option ManagementRole :=
  let onVenue :=
    if parentVenueId = "" then none else findExistingRole caller parentEntityId parentVenueId
  if parentEntityId = "" then
    onVenue
  else
    onVenue.or (findExistingRole caller parentEntityId "")

/-- The lists and usages that follow an auto-created role. -/
def linkCreatorRole (db : Store) (entityId venueId : String) (role : ManagementRole) : Store :=
  let linked : Store :=
    if venueId ≠ "" then
      { db with
        venueDB := addMembership db.venueDB Venue.managementRolesMember venueId role.info.id }
    else
      { db with
        entityDB := addMembership db.entityDB Entity.managementRolesMember entityId role.info.id }
  movePolicyUsage linked "rol" "" role.managementPolicy role.info.id

/-- The role that the creator of a scope gets. -/
def creatorRole (user : UserInfo) (parent : ManagementRole)
    (entityId venueId roleId : String) : ManagementRole where
  info :=
    { id := roleId
      name := "Auto-created role for creator of " ++
        (if venueId = "" then "Entity" else "Venue")
      description := "Grants same access policy as parent role: " ++ parent.info.name }
  entity := entityId
  venue := venueId
  managementPolicy := parent.managementPolicy
  users := [user.id]

/-- `AutoCreateCreatorRole`: the database afterwards and whether the role could be stored. -/
def autoCreateCreatorRole (ctx : Context) (db : Store)
    (entityId venueId parentEntityId parentVenueId roleId : String) : Store × Bool :=
  if ctx.caller.user.userRole = .root then
    (db, true)
  else
    match parentRole ctx.caller parentEntityId parentVenueId with
    | none => (db, true)
    | some parent =>
        let role := creatorRole ctx.caller.user parent entityId venueId roleId
        match db.rolesDB.insert? role with
        | none => (db, false)
        | some rolesDB => (linkCreatorRole { db with rolesDB := rolesDB } entityId venueId role, true)

/-- The deletion of the roles of a deleted scope, of which the handlers read 10000. -/
def deleteScopeRoles (db : Store) (onScope : ManagementRole → Bool) : Store :=
  ((db.rolesDB.rows.filter onScope).take 10000).foldl
    (fun db role =>
      movePolicyUsage { db with rolesDB := db.rolesDB.delete role.info.id } "rol"
        role.managementPolicy "" role.info.id)
    db

/-- A fresh role id is stored. -/
theorem autoCreateCreatorRole_snd {ctx : Context} {db : Store}
    {entityId venueId parentEntityId parentVenueId roleId : String}
    (fresh : db.rolesDB.get? roleId = none) :
    (autoCreateCreatorRole ctx db entityId venueId parentEntityId parentVenueId roleId).2 =
      true := by
  unfold autoCreateCreatorRole
  split
  · rfl
  · split
    · rfl
    · rename_i parent _
      have free : db.rolesDB.get?
          (key (creatorRole ctx.caller.user parent entityId venueId roleId)) = none := fresh
      obtain ⟨table, inserted⟩ := Table.insert?_isSome free
      simp [inserted]

/-- An auto-created role is stored and listed, or nothing changes. -/
theorem autoCreateCreatorRole_cases (ctx : Context) (db : Store)
    (entityId venueId parentEntityId parentVenueId roleId : String) :
    (autoCreateCreatorRole ctx db entityId venueId parentEntityId parentVenueId roleId).1 = db ∨
      ∃ parent rolesDB,
        let role := creatorRole ctx.caller.user parent entityId venueId roleId
        parentRole ctx.caller parentEntityId parentVenueId = some parent ∧
          db.rolesDB.insert? role = some rolesDB ∧
          (autoCreateCreatorRole ctx db entityId venueId parentEntityId parentVenueId roleId).1 =
            linkCreatorRole { db with rolesDB := rolesDB } entityId venueId role := by
  unfold autoCreateCreatorRole
  split
  · exact Or.inl rfl
  · split
    · exact Or.inl rfl
    · rename_i parent isParent
      dsimp only
      split
      · exact Or.inl rfl
      · rename_i rolesDB inserted
        exact Or.inr ⟨parent, rolesDB, isParent, inserted, rfl⟩

/-! ## Tables that bookkeeping leaves alone -/

/-- A creator role is listed at its venue, or else at its entity. -/
theorem autoCreateCreatorRole_tables (ctx : Context) (db : Store)
    (entityId venueId parentEntityId parentVenueId roleId : String) :
    let stored :=
      (autoCreateCreatorRole ctx db entityId venueId parentEntityId parentVenueId roleId).1
    (stored.entityDB = db.entityDB ∨
      stored.entityDB =
        addMembership db.entityDB Entity.managementRolesMember entityId roleId) ∧
    (stored.venueDB = db.venueDB ∨
      stored.venueDB = addMembership db.venueDB Venue.managementRolesMember venueId roleId) := by
  unfold autoCreateCreatorRole
  split
  · exact ⟨Or.inl rfl, Or.inl rfl⟩
  · split
    · exact ⟨Or.inl rfl, Or.inl rfl⟩
    · dsimp only
      split
      · exact ⟨Or.inl rfl, Or.inl rfl⟩
      · unfold linkCreatorRole
        split
        · exact ⟨Or.inl rfl, Or.inr rfl⟩
        · exact ⟨Or.inr rfl, Or.inl rfl⟩

@[simp]
theorem movePolicyUsage_entityDB (db : Store) (dbPrefix fromId toId id : String) :
    (movePolicyUsage db dbPrefix fromId toId id).entityDB = db.entityDB := rfl

@[simp]
theorem movePolicyUsage_venueDB (db : Store) (dbPrefix fromId toId id : String) :
    (movePolicyUsage db dbPrefix fromId toId id).venueDB = db.venueDB := rfl

theorem deleteScopeRoles_tables (db : Store) (onScope : ManagementRole → Bool) :
    (deleteScopeRoles db onScope).entityDB = db.entityDB ∧
      (deleteScopeRoles db onScope).venueDB = db.venueDB := by
  unfold deleteScopeRoles
  generalize (db.rolesDB.rows.filter onScope).take 10000 = roles
  induction roles generalizing db with
  | nil => exact ⟨rfl, rfl⟩
  | cons role roles ih => exact ih _

@[simp]
theorem deleteScopeRoles_entityDB (db : Store) (onScope : ManagementRole → Bool) :
    (deleteScopeRoles db onScope).entityDB = db.entityDB :=
  (deleteScopeRoles_tables db onScope).1

@[simp]
theorem deleteScopeRoles_venueDB (db : Store) (onScope : ManagementRole → Bool) :
    (deleteScopeRoles db onScope).venueDB = db.venueDB :=
  (deleteScopeRoles_tables db onScope).2

end Owprov
