import Owprov.VenueHandlers

/-!
# The subscriber handler

A subscriber signs up with an operator and gets a venue under the operator's entity.  The
venues of a subscriber go away with the signup entry.
-/

namespace Owprov

open RowTable

/-! ## Signing up -/

/-- The `norm` of the handler. -/
def norm (text : String) : String :=
  trim (toLower text)

/-- The operator of a registration id, which needs an existing entity. -/
def signupOperator (db : Store) (registrationId : String) : Except Failure Operator :=
  match getBy db.operatorDB Operator.registrationId registrationId with
  | none => .error (.badRequest .invalidRegistrationOperatorName)
  | some operator =>
      if operator.entityId = "" ∨ idExists db.entityDB operator.entityId = false then
        .error (.badRequest .entityMustExist)
      else
        .ok operator

/-- An existing entry admits another signup: it is the operator's and still waits. -/
def checkExistingSignup (operator : Operator) (existing : SignupEntry) : Except Failure Unit :=
  require (existing.operatorId == operator.info.id &&
    existing.statusCode == .signupWaitingForEmail) (.badRequest .userAlreadyExists)

/-- The call of the security service. -/
def callSignup (env : Env) (operator : Operator) (email signupUUID : String) (resend : Bool) :
    Except Failure String :=
  match env.secSignup
    { email, signupUUID, owner := operator.info.id, operatorName := operator.registrationId,
      resend } with
  | .error status => .error (.passedThrough status)
  | .ok userId => .ok userId

/-- What a signup does with the entries. -/
inductive SignupPlan where
  /-- An existing entry is the answer. -/
  | answered (existing : SignupEntry)
  /-- The message for an existing entry is sent again. -/
  | resent (existing : SignupEntry)
  | created (entry : SignupEntry)

/-- The checks of `RESTAPI_subscriber_handler::DoPost`: the operator, the email and the plan. -/
def subscriberDoPostPlan (ctx : Context) (db : Store) (request : Request) :
    Except Failure (Operator × String × SignupPlan) := do
  let userName := norm (request.getParameter "email")
  let registrationId := norm (request.getParameter "registrationId")
  let resend := request.getBoolParameter "resend"
  require (userName != "" && registrationId != "") (.badRequest .missingOrInvalidParameters)
  require (ctx.env.validEMailAddress userName) (.badRequest .invalidEmailAddress)
  let operator ← signupOperator db registrationId
  match getBy db.signupDB SignupEntry.email userName with
  | some existing =>
      checkExistingSignup operator existing
      if resend then
        let _userId ← callSignup ctx.env operator userName existing.info.id resend
        return (operator, userName, .resent existing)
      else
        return (operator, userName, .answered existing)
  | none =>
      let userId ← callSignup ctx.env operator userName (ctx.newId 0) resend
      match getBy db.signupDB SignupEntry.userId userId with
      | some byUserId =>
          checkExistingSignup operator byUserId
          return (operator, userName, .answered byUserId)
      | none =>
          return (operator, userName, .created
            { info := { id := ctx.newId 0 }
              submitted := ctx.env.clock
              userId := userId
              email := userName
              registrationId := registrationId
              status := "waiting-for-email-verification"
              statusCode := .signupWaitingForEmail
              operatorId := operator.info.id })

/-- What a plan of a signup is made from. -/
def SignupPlan.Made (ctx : Context) (db : Store) (operator : Operator) (userName : String) :
    SignupPlan → Prop
  | .answered _ => True
  | .resent existing =>
      getBy db.signupDB SignupEntry.email userName = some existing ∧
        existing.statusCode = .signupWaitingForEmail
  | .created entry =>
      getBy db.signupDB SignupEntry.email userName = none ∧
        getBy db.signupDB SignupEntry.userId entry.userId = none ∧ entry.email = userName ∧
        entry.info.id = ctx.newId 0 ∧ entry.operatorId = operator.info.id ∧
        entry.statusCode = .signupWaitingForEmail

theorem subscriberDoPostPlan_eq_ok {ctx : Context} {db : Store} {request : Request}
    {operator : Operator} {userName : String} {plan : SignupPlan}
    (planned : subscriberDoPostPlan ctx db request = .ok (operator, userName, plan)) :
    plan.Made ctx db operator userName := by
  simp only [subscriberDoPostPlan, bind_eq_ok_iff, require_eq_ok_iff] at planned
  obtain ⟨_, _, _, _, signedUp, _, planned⟩ := planned
  split at planned
  · rename_i existing found
    simp only [bind_eq_ok_iff, checkExistingSignup, require_eq_ok_iff] at planned
    obtain ⟨_, checked, planned⟩ := planned
    split at planned
    · simp only [bind_eq_ok_iff] at planned
      obtain ⟨_, _, planned⟩ := planned
      obtain ⟨rfl, answer⟩ := Prod.mk.inj (Except.ok.inj planned)
      obtain ⟨rfl, rfl⟩ := Prod.mk.inj answer
      rw [Bool.and_eq_true] at checked
      exact ⟨found, eq_of_beq checked.2⟩
    · obtain ⟨rfl, answer⟩ := Prod.mk.inj (Except.ok.inj planned)
      obtain ⟨rfl, rfl⟩ := Prod.mk.inj answer
      trivial
  · rename_i missing
    simp only [bind_eq_ok_iff] at planned
    obtain ⟨userId, _, planned⟩ := planned
    split at planned
    · simp only [bind_eq_ok_iff] at planned
      obtain ⟨_, _, planned⟩ := planned
      obtain ⟨rfl, answer⟩ := Prod.mk.inj (Except.ok.inj planned)
      obtain ⟨rfl, rfl⟩ := Prod.mk.inj answer
      trivial
    · rename_i unknown
      obtain ⟨rfl, answer⟩ := Prod.mk.inj (Except.ok.inj planned)
      obtain ⟨rfl, rfl⟩ := Prod.mk.inj answer
      exact ⟨missing, unknown, rfl, rfl, rfl, rfl⟩

theorem signupOperator_of_plan {ctx : Context} {db : Store} {request : Request}
    {operator : Operator} {userName : String} {plan : SignupPlan}
    (planned : subscriberDoPostPlan ctx db request = .ok (operator, userName, plan)) :
    signupOperator db (norm (request.getParameter "registrationId")) = .ok operator := by
  simp only [subscriberDoPostPlan, bind_eq_ok_iff, require_eq_ok_iff] at planned
  obtain ⟨_, _, _, _, signedUp, found, planned⟩ := planned
  have same : signedUp = operator := by
    split at planned
    · simp only [bind_eq_ok_iff] at planned
      obtain ⟨_, _, planned⟩ := planned
      split at planned
      · simp only [bind_eq_ok_iff] at planned
        obtain ⟨_, _, planned⟩ := planned
        exact (Prod.mk.inj (Except.ok.inj planned)).1
      · exact (Prod.mk.inj (Except.ok.inj planned)).1
    · simp only [bind_eq_ok_iff] at planned
      obtain ⟨_, _, planned⟩ := planned
      split at planned
      · simp only [bind_eq_ok_iff] at planned
        obtain ⟨_, _, planned⟩ := planned
        exact (Prod.mk.inj (Except.ok.inj planned)).1
      · exact (Prod.mk.inj (Except.ok.inj planned)).1
  exact same ▸ found

theorem signupOperator_eq_ok {db : Store} {registrationId : String} {operator : Operator}
    (found : signupOperator db registrationId = .ok operator) :
    getBy db.operatorDB Operator.registrationId registrationId = some operator ∧
      operator.entityId ≠ "" ∧ idExists db.entityDB operator.entityId = true := by
  unfold signupOperator at found
  split at found
  · cases found
  · rename_i isOperator
    split at found
    · cases found
    · rename_i linked
      obtain rfl := Except.ok.inj found
      push Not at linked
      exact ⟨isOperator, linked.1, by simpa using linked.2⟩

/-- The venue of a subscriber, unless the operator's entity has one of that name. -/
def createSubscriberVenue (ctx : Context) (db : Store) (operator : Operator)
    (userName userId : String) : Outcome :=
  if doesVenueNameAlreadyExist ctx.env db userName operator.entityId "" then
    .done db
  else
    let subscriberVenue : Venue :=
      { info := { id := ctx.newId 1, name := userName }
        entity := operator.entityId
        subscriber := userId }
    match db.venueDB.insert? subscriberVenue with
    | none => .fail db (.internalError .recordNotCreated)
    | some venueDB =>
        .done { db with
          venueDB := venueDB
          entityDB := manipulateVectorMember db.entityDB Entity.venuesMember operator.entityId
            subscriberVenue.info.id true }

def subscriberDoPost (ctx : Context) (db : Store) (request : Request) : Outcome :=
  match subscriberDoPostPlan ctx db request with
  | .error failure => .fail db failure
  | .ok (_, _, .answered _) => .done db
  | .ok (operator, userName, .resent existing) =>
      createSubscriberVenue ctx { db with signupDB := db.signupDB.update existing } operator
        userName existing.userId
  | .ok (operator, userName, .created entry) =>
      -- the handler does not look at the result of `CreateRecord`
      createSubscriberVenue ctx
        { db with signupDB := (db.signupDB.insert? entry).getD db.signupDB } operator userName
        entry.userId

/-! ## Progress -/

/-- The entry that `RESTAPI_subscriber_handler::DoPut` changes, and its new version. -/
def subscriberDoPutPlan (db : Store) (request : Request) : Except Failure SignupEntry := do
  let signupUUID := request.getParameter "signupUUID"
  let operation := request.getParameter "operation"
  let userId := request.getParameter "userId"
  require ((signupUUID != "" || userId != "") && operation != "")
    (.badRequest .missingOrInvalidParameters)
  match (db.signupDB.get? signupUUID).or (getBy db.signupDB SignupEntry.userId userId) with
  | none => throw .notFound
  | some entry =>
      if operation = "emailVerified" ∧ entry.statusCode = .signupWaitingForEmail then
        return { entry with status := "emailVerified", statusCode := .signupWaitingForDevice }
      else if operation = "updateMac" then
        require (request.hasParameter "mac") (.badRequest .missingOrInvalidParameters)
        let macAddress := request.getParameter "mac"
        return { entry with macAddress := macAddress, serialNumber := macAddress }
      else
        throw (.badRequest .unknownId)

def subscriberDoPut (db : Store) (request : Request) : Outcome :=
  match subscriberDoPutPlan db request with
  | .error failure => .fail db failure
  | .ok entry => .done { db with signupDB := db.signupDB.update entry }

/-! ## Deletion -/

/-- The loop over the venues of a subscriber; a venue with devices ends it, and the venues
before stay deleted. -/
def deleteSubscriberVenues : List Venue → Store → Outcome
  | [], db => .done db
  | venue :: venues, db =>
      if venue.devices.isEmpty then
        deleteSubscriberVenues venues
          { db with
            entityDB := removeMembership db.entityDB Entity.venuesMember venue.entity venue.info.id
            venueDB := db.venueDB.delete venue.info.id }
      else
        .fail db (.badRequest .stillInUse)

/-- The venues of a subscriber, of which the handler reads 100. -/
def subscriberVenues (db : Store) (subscriberId : String) : List Venue :=
  (db.venueDB.rows.filter fun venue => venue.subscriber == subscriberId).take 100

/-- The checks of `RESTAPI_subscriber_handler::DoDelete`: the subscriber and the entry. -/
def subscriberDoDeletePlan (db : Store) (request : Request) :
    Except Failure (String × SignupEntry) := do
  let bound := request.getBinding "id"
  let subscriberId := if bound = "" then request.getParameter "subscriberId" else bound
  require (subscriberId != "") (.badRequest .missingOrInvalidParameters)
  match getBy db.signupDB SignupEntry.userId subscriberId with
  | none => throw .notFound
  | some signup =>
      require ((db.inventoryDB.rows.all fun tag => tag.subscriber != subscriberId) &&
        db.subscriberDeviceDB.rows.all fun device => device.subscriberId != subscriberId)
        (.badRequest .stillInUse)
      return (subscriberId, signup)

def subscriberDoDelete (ctx : Context) (db : Store) (request : Request) : Outcome :=
  match subscriberDoDeletePlan db request with
  | .error failure => .fail db failure
  | .ok (subscriberId, signup) =>
      let cleared := deleteSubscriberVenues (subscriberVenues db subscriberId) db
      match cleared.result with
      | .error failure => .fail cleared.store failure
      | .ok () =>
          if ctx.env.secDeleteSubscriber subscriberId then
            .done { cleared.store with
              signupDB := cleared.store.signupDB.delete signup.info.id }
          else
            .fail cleared.store (.badRequest .couldNotBeDeleted)

end Owprov
