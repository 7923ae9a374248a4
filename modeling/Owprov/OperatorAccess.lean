import Owprov.Lib.AccessLog
import Owprov.OperatorHandlers
import Owprov.SubscriberGateways
import Owprov.SubscriberHandlers

/-!
# Records of operators that a request accesses

The handlers for subscribers, service classes, contacts, locations and subscriber devices, each
with the records that it reads, creates and answers.  What a request changes in the database is
among those, or is a version of one of them.
-/

namespace Owprov

open RowTable AccessLog

/-- A record that belongs to an operator. -/
inductive OperatorRecord where
  | signup (row : SignupEntry)
  | serviceClass (row : ServiceClass)
  | contact (row : OperatorContact)
  | location (row : OperatorLocation)
  | device (row : SubscriberDevice)
  deriving DecidableEq, Repr

def OperatorRecord.operatorId : OperatorRecord → String
  | signup row => row.operatorId
  | serviceClass row => row.operatorId
  | contact row => row.operatorId
  | location row => row.operatorId
  | device row => row.operatorId

/-- A handler that notes the records of operators which it reads from the database, creates or
answers.  What it writes back it has read before. -/
abbrev Accessing := Logged Failure OperatorRecord

/-! ## Lookups -/

section Lookups

variable {α : Type} [Keyed α String]

/-- `ValidDbId` for a reference that may be empty: `Exists` reads the record. -/
def emptyOrRead (record : α → OperatorRecord) (table : Table α) (id : String) : Accessing Bool :=
  if id = "" then
    return true
  else do
    let found ← look record (table.get? id)
    return found.isSome

/-- The record that the request is bound to is read, before the rest of the handler. -/
def boundAccess (record : α → OperatorRecord) (table : Table α) (request : Request)
    (missing : Failure) (rest : Accessing Unit) : Accessing Unit := do
  let uuid := request.getBinding "uuid"
  require (uuid != "") (.badRequest .missingUUID)
  match ← look record (table.get? uuid) with
  | none => throw missing
  | some _ => rest

/-- A record is created. -/
def createAccess (record : α → OperatorRecord) (table : Table α) (newObject : α) :
    Accessing Unit :=
  match table.insert? newObject with
  | none => throw (.internalError .recordNotCreated)
  | some _ => touch [record newObject]

/-- `ReturnRecordList`. -/
def selectedAccess (record : α → OperatorRecord) (table : Table α) : List String → Accessing Unit
  | [] => return ()
  | id :: ids => do
      match ← look record (table.get? id) with
      | none => throw (.badRequest .unknownId)
      | some _ => selectedAccess record table ids

/-- `ListHandlerForOperator`. -/
def listAccess (record : α → OperatorRecord) (table : Table α) (condition : ConditionRows α)
    (block : QueryBlock) : Accessing Unit :=
  if block.countOnly then
    return ()
  else if block.select ≠ [] then
    selectedAccess record table block.select
  else
    touch ((condition.page block).map record)

def opListAccess (record : α → OperatorRecord) (quoted : Store → String → ConditionRows α)
    (db : Store) (table : Table α) (operatorId : α → String) (request : Request)
    (block : QueryBlock) : Accessing Unit := do
  let id := request.getParameter "operatorId"
  require (id != "" && idExists db.operatorDB id) (.badRequest .operatorIdMustExist)
  listAccess record table (rowsOfOperator quoted db table operatorId id) block

end Lookups

/-! ## Subscribers -/

/-- `subscriberDoPostPlan` with what it reads. -/
def subscriberPostPlanAccess (ctx : Context) (db : Store) (request : Request) :
    Accessing (Operator × String × SignupPlan) := do
  let userName := norm (request.getParameter "email")
  let registrationId := norm (request.getParameter "registrationId")
  let resend := request.getBoolParameter "resend"
  require (userName != "" && registrationId != "") (.badRequest .missingOrInvalidParameters)
  require (ctx.env.validEMailAddress userName) (.badRequest .invalidEmailAddress)
  let operator ← signupOperator db registrationId
  match ← look .signup (getBy db.signupDB SignupEntry.email userName) with
  | some existing =>
      checkExistingSignup operator existing
      if resend then
        let _userId ← callSignup ctx.env operator userName existing.info.id resend
        return (operator, userName, .resent existing)
      else
        return (operator, userName, .answered existing)
  | none =>
      let userId ← callSignup ctx.env operator userName (ctx.newId 0) resend
      match ← look .signup (getBy db.signupDB SignupEntry.userId userId) with
      | some byUserId =>
          checkExistingSignup operator byUserId
          return (operator, userName, .answered byUserId)
      | none =>
          return (operator, userName, .created
            { info := { id := ctx.newId 0 }
              submitted := ctx.env.clock
              userId := userId
              email := userName
              registrationId := registrationId
              status := "waiting-for-email-verification"
              statusCode := .signupWaitingForEmail
              operatorId := operator.info.id })

def subscriberPostAccess (ctx : Context) (db : Store) (request : Request) : Accessing Unit := do
  let (operator, userName, plan) ← subscriberPostPlanAccess ctx db request
  match plan with
  | .answered _ => return ()
  | .resent existing =>
      (createSubscriberVenue ctx { db with signupDB := db.signupDB.update existing } operator
        userName existing.userId).result
  | .created entry =>
      let stored := db.signupDB.insert? entry
      touch (if stored.isSome then [.signup entry] else [])
      (createSubscriberVenue ctx { db with signupDB := stored.getD db.signupDB } operator userName
        entry.userId).result
      -- the answer
      touch [.signup entry]

def subscriberPutAccess (db : Store) (request : Request) : Accessing Unit := do
  let signupUUID := request.getParameter "signupUUID"
  let operation := request.getParameter "operation"
  let userId := request.getParameter "userId"
  require ((signupUUID != "" || userId != "") && operation != "")
    (.badRequest .missingOrInvalidParameters)
  match ← look .signup (db.signupDB.get? signupUUID) with
  | some _ => (subscriberDoPut db request).result
  | none =>
      match ← look .signup (getBy db.signupDB SignupEntry.userId userId) with
      | some _ => (subscriberDoPut db request).result
      | none => throw .notFound

def subscriberDeleteAccess (ctx : Context) (db : Store) (request : Request) : Accessing Unit := do
  let bound := request.getBinding "id"
  let subscriberId := if bound = "" then request.getParameter "subscriberId" else bound
  require (subscriberId != "") (.badRequest .missingOrInvalidParameters)
  match ← look .signup (getBy db.signupDB SignupEntry.userId subscriberId) with
  | none => throw .notFound
  | some _ => (subscriberDoDelete ctx db request).result

/-! ## Service classes, contacts and locations -/

def serviceClassPostAccess (ctx : Context) (db : Store) (request : Request) : Accessing Unit := do
  let newObject ← serviceClassDoPostPlan ctx db request
  createAccess .serviceClass db.serviceClassDB newObject

section OpSource

variable {α : Type} [Keyed α String]

def opPostAccess (record : α → OperatorRecord) (source : OpSource α) (ctx : Context) (db : Store)
    (request : Request) : Accessing Unit := do
  let body ← request.jsonBody
  let newObject ← source.fromJson body
  require (source.operatorId newObject != "" &&
    idExists db.operatorDB (source.operatorId newObject)) (.badRequest .invalidOperatorId)
  require (emptyOrExists db.policyDB (source.managementPolicy newObject))
    (.badRequest .unknownManagementPolicyUUID)
  let known ← emptyOrRead .device db.subscriberDeviceDB (source.subscriberDeviceId newObject)
  require known (.badRequest .invalidSubscriberDeviceId)
  let created ← opDoPostPlan source ctx db request
  createAccess record (source.table db) created

def opPutAccess (record : α → OperatorRecord) (source : OpSource α) (db : Store)
    (request : Request) : Accessing Unit :=
  boundAccess record (source.table db) request (.badRequest .missingUUID) do
    let body ← request.jsonBody
    let updateObj ← source.fromJson body
    require (source.validType (body.stringField "type")) (.badRequest source.invalidType)
    require (emptyOrExists db.policyDB (source.managementPolicy updateObj))
      (.badRequest .unknownManagementPolicyUUID)
    let known ← emptyOrRead .device db.subscriberDeviceDB (source.subscriberDeviceId updateObj)
    require known (.badRequest .invalidSubscriberDeviceId)
    (opDoPut source db request).result

end OpSource

/-! ## Subscriber devices -/

/-- `ValidateRequestFields`, which reads the service class. -/
def requestFieldsAccess (ctx : Context) (db : Store) (device : SubscriberDevice) :
    Accessing Unit := do
  require (emptyOrExists db.policyDB device.managementPolicy)
    (.badRequest .unknownManagementPolicyUUID)
  require (device.operatorId != "" && idExists db.operatorDB device.operatorId)
    (.badRequest .invalidOperatorId)
  let known ← emptyOrRead .serviceClass db.serviceClassDB device.serviceClass
  require known (.badRequest .invalidServiceClassId)
  require (emptyOrExists db.configurationDB device.deviceConfiguration)
    (.badRequest .configurationMustExist)
  require (device.subscriberId == "" || ctx.env.secSubscriber device.subscriberId)
    (.badRequest .invalidSubscriberId)
  require (validDeviceRules ctx.env device.deviceRules) (.badRequest .invalidRRM)
  require (device.serialNumber != "" && validSerialNumber device.serialNumber)
    (.badRequest .invalidSerialNumber)

def subDeviceGetAccess (db : Store) (request : Request) : Accessing Unit := do
  let uuid := request.getBinding "uuid"
  require (uuid != "") (.badRequest .missingUUID)
  let found ←
    if validUUID uuid then
      look .device (db.subscriberDeviceDB.get? uuid)
    else if validSerialNumber uuid then
      look .device (getBy db.subscriberDeviceDB SubscriberDevice.serialNumber uuid)
    else
      throw (.badRequest .missingOrInvalidParameters)
  match found with
  | none => throw .notFound
  | some _ => return ()

def subDevicePostAccess (ctx : Context) (db : Store) (request : Request) : Accessing Unit := do
  let body ← request.jsonBody
  let newObject ← SubscriberDevice.fromJson body
  let _configuration ← configurationElements body
  let known ← look .device
    (getBy db.subscriberDeviceDB SubscriberDevice.serialNumber newObject.serialNumber)
  require known.isNone (.badRequest .serialNumberExists)
  requestFieldsAccess ctx db newObject
  let (body, device, configuration) ← subDeviceDoPostPlan ctx db request
  let (configured, device) ← createConfigurationRecord ctx db device configuration (ctx.newId 0)
  let info ← createObjectInfoUnchecked body device.info (ctx.newId 1)
  createAccess .device configured.subscriberDeviceDB { device with info := info }
  (subDeviceDoPost ctx db request).result

def subDevicePutAccess (ctx : Context) (db : Store) (request : Request) : Accessing Unit := do
  let uuid := request.getBinding "uuid"
  require (uuid != "") (.badRequest .missingUUID)
  let body ← request.jsonBody
  let update ← SubscriberDevice.fromJson body
  let _configuration ← configurationElements body
  match ← look .device (db.subscriberDeviceDB.get? uuid) with
  | none => throw .notFound
  | some _ =>
      requestFieldsAccess ctx db update
      let other ← look .device
        (getBy db.subscriberDeviceDB SubscriberDevice.serialNumber update.serialNumber)
      require (other.all fun other => other.info.id == uuid) (.badRequest .serialNumberExists)
      (subDeviceDoPut ctx db request).result

def subDeviceDeleteAccess (ctx : Context) (db : Store) (request : Request) : Accessing Unit := do
  let deviceIdOrSerial := request.getBinding "uuid"
  require (deviceIdOrSerial != "") (.badRequest .missingOrInvalidParameters)
  let found ←
    if validSerialNumber deviceIdOrSerial then
      look .device (getBy db.subscriberDeviceDB SubscriberDevice.serialNumber deviceIdOrSerial)
    else if validUUID deviceIdOrSerial then
      look .device (db.subscriberDeviceDB.get? deviceIdOrSerial)
    else
      throw (.badRequest .missingOrInvalidParameters)
  match found with
  | none => throw .notFound
  | some _ => (subDeviceDoDelete ctx db request).result

def subDeviceListAccess (db : Store) (request : Request) (block : QueryBlock) :
    Accessing Unit := do
  let operatorId := request.getParameter "operatorId"
  require (operatorId == "" || idExists db.operatorDB (escape operatorId))
    (.badRequest .operatorIdMustExist)
  listAccess .device db.subscriberDeviceDB
    (matchingRows (listedDevices db operatorId (request.getParameter "subscriberId"))) block

/-! ## The requests -/

inductive RecordAction where
  | get
  | post
  | put
  | delete
  | list
  deriving DecidableEq, Repr

def RecordAction.method : RecordAction → HttpMethod
  | get => .get
  | post => .post
  | put => .put
  | delete => .delete
  | list => .get

inductive OperatorRoute where
  | subscriberPost
  | subscriberPut
  | subscriberDelete
  | serviceClass (action : RecordAction)
  | opContact (action : RecordAction)
  | opLocation (action : RecordAction)
  | subscriberDevice (action : RecordAction)
  deriving DecidableEq, Repr

namespace OperatorRoute

def method : OperatorRoute → HttpMethod
  | subscriberPost => .post
  | subscriberPut => .put
  | subscriberDelete => .delete
  | serviceClass action => action.method
  | opContact action => action.method
  | opLocation action => action.method
  | subscriberDevice action => action.method

/-- What the handler of a contact or a location reads, creates and answers. -/
def opAccess {α : Type} [Keyed α String] (action : RecordAction) (record : α → OperatorRecord)
    (source : OpSource α) (quoted : Store → String → ConditionRows α) (ctx : Context) (db : Store)
    (request : Request) (block : QueryBlock) : Accessing Unit :=
  match action with
  | .get => boundAccess record (source.table db) request .notFound (return ())
  | .post => opPostAccess record source ctx db request
  | .put => opPutAccess record source db request
  | .delete =>
      boundAccess record (source.table db) request .notFound (opDoDelete source db request).result
  | .list => opListAccess record quoted db (source.table db) source.operatorId request block

/-- What the handler of a request reads, creates and answers. -/
def handlerAccess (selects : QuotedOperatorSelects) (ctx : Context) (db : Store)
    (request : Request) (block : QueryBlock) : OperatorRoute → Accessing Unit
  | subscriberPost => subscriberPostAccess ctx db request
  | subscriberPut => subscriberPutAccess db request
  | subscriberDelete => subscriberDeleteAccess ctx db request
  | serviceClass .get =>
      boundAccess .serviceClass db.serviceClassDB request .notFound (return ())
  | serviceClass .post => serviceClassPostAccess ctx db request
  | serviceClass .put =>
      boundAccess .serviceClass db.serviceClassDB request (.badRequest .missingUUID)
        (serviceClassDoPut db request).result
  | serviceClass .delete =>
      boundAccess .serviceClass db.serviceClassDB request .notFound
        (serviceClassDoDelete db request).result
  | serviceClass .list =>
      opListAccess .serviceClass selects.serviceClasses db db.serviceClassDB
        ServiceClass.operatorId request block
  | opContact action =>
      opAccess action .contact opContactSource selects.contacts ctx db request block
  | opLocation action =>
      opAccess action .location opLocationSource selects.locations ctx db request block
  | subscriberDevice .get => subDeviceGetAccess db request
  | subscriberDevice .post => subDevicePostAccess ctx db request
  | subscriberDevice .put => subDevicePutAccess ctx db request
  | subscriberDevice .delete => subDeviceDeleteAccess ctx db request
  | subscriberDevice .list => subDeviceListAccess db request block

/-- The numbers of a request are read first. -/
def access (selects : QuotedOperatorSelects) (ctx : Context) (db : Store) (request : Request)
    (route : OperatorRoute) : Accessing Unit := do
  let block ← request.queryBlock
  route.handlerAccess selects ctx db request block

/-- A reading handler leaves the database alone. -/
def reads {α : Type} (db : Store) (answer : Except Failure α) : Outcome where
  store := db
  result := answer.map fun _ => ()

def opOutcome {α : Type} [Keyed α String] (action : RecordAction)
    (source : OpSource α) (quoted : Store → String → ConditionRows α) (ctx : Context) (db : Store)
    (request : Request) : Outcome :=
  match action with
  | .get => reads db (opDoGet (source.table db) request)
  | .post => opDoPost source ctx db request
  | .put => opDoPut source db request
  | .delete => opDoDelete source db request
  | .list => reads db (opListDoGet quoted db (source.table db) source.operatorId request)

/-- The handler of a request. -/
def handler (selects : QuotedOperatorSelects) (ctx : Context) (db : Store) (request : Request) :
    OperatorRoute → Outcome
  | subscriberPost => subscriberDoPost ctx db request
  | subscriberPut => subscriberDoPut db request
  | subscriberDelete => subscriberDoDelete ctx db request
  | serviceClass .get => reads db (opDoGet db.serviceClassDB request)
  | serviceClass .post => serviceClassDoPost ctx db request
  | serviceClass .put => serviceClassDoPut db request
  | serviceClass .delete => serviceClassDoDelete db request
  | serviceClass .list =>
      reads db (opListDoGet selects.serviceClasses db db.serviceClassDB ServiceClass.operatorId
        request)
  | opContact action => opOutcome action opContactSource selects.contacts ctx db request
  | opLocation action => opOutcome action opLocationSource selects.locations ctx db request
  | subscriberDevice .get => reads db (subDeviceDoGet db request)
  | subscriberDevice .post => subDeviceDoPost ctx db request
  | subscriberDevice .put => subDeviceDoPut ctx db request
  | subscriberDevice .delete => subDeviceDoDelete ctx db request
  | subscriberDevice .list => reads db (subDeviceListDoGet db request)

def outcome (selects : QuotedOperatorSelects) (ctx : Context) (db : Store) (request : Request)
    (route : OperatorRoute) : Outcome :=
  match request.queryBlock with
  | .error failure => .fail db failure
  | .ok _ => route.handler selects ctx db request

/-- The records in the answer of a reading handler; the others answer what they have read or
created. -/
def handlerAnswer (selects : QuotedOperatorSelects) (db : Store) (request : Request) :
    OperatorRoute → List OperatorRecord
  | serviceClass .get => (opDoGet db.serviceClassDB request).toOption.toList.map .serviceClass
  | opContact .get => (opDoGet db.opContactDB request).toOption.toList.map .contact
  | opLocation .get => (opDoGet db.opLocationDB request).toOption.toList.map .location
  | subscriberDevice .get => (subDeviceDoGet db request).toOption.toList.map .device
  | serviceClass .list =>
      (answeredRows (opListDoGet selects.serviceClasses db db.serviceClassDB
        ServiceClass.operatorId request)).map .serviceClass
  | opContact .list =>
      (answeredRows (opListDoGet selects.contacts db db.opContactDB
        OperatorContact.operatorId request)).map .contact
  | opLocation .list =>
      (answeredRows (opListDoGet selects.locations db db.opLocationDB
        OperatorLocation.operatorId request)).map .location
  | subscriberDevice .list => (answeredRows (subDeviceListDoGet db request)).map .device
  | _ => []

def answered (selects : QuotedOperatorSelects) (db : Store) (request : Request)
    (route : OperatorRoute) : List OperatorRecord :=
  match request.queryBlock with
  | .error _ => []
  | .ok _ => route.handlerAnswer selects db request

end OperatorRoute

/-! ## What changes -/

/-- The tables whose records belong to operators. -/
structure OperatorTables where
  signups : Table SignupEntry
  serviceClasses : Table ServiceClass
  contacts : Table OperatorContact
  locations : Table OperatorLocation
  devices : Table SubscriberDevice

def OperatorTables.Has (tables : OperatorTables) : OperatorRecord → Prop
  | .signup row => row ∈ tables.signups.rows
  | .serviceClass row => row ∈ tables.serviceClasses.rows
  | .contact row => row ∈ tables.contacts.rows
  | .location row => row ∈ tables.locations.rows
  | .device row => row ∈ tables.devices.rows

/-- Whatever a step changes has the operator of an accessed record. -/
def ChangesWithin (accessed : List OperatorRecord) (before after : OperatorTables) : Prop :=
  ∀ changed : OperatorRecord, ¬(before.Has changed ↔ after.Has changed) →
    ∃ record ∈ accessed, record.operatorId = changed.operatorId

section Tables

variable {α : Type} [Keyed α String] {accessed : List OperatorRecord}
  {before after : OperatorTables}

/-- Only the rows of one table differ. -/
def OnlyRows (record : α → OperatorRecord) (before after : OperatorTables)
    (rows rows' : Table α) : Prop :=
  ∀ changed : OperatorRecord, ¬(before.Has changed ↔ after.Has changed) →
    ∃ row, record row = changed ∧ ¬(row ∈ rows.rows ↔ row ∈ rows'.rows)

variable {record : α → OperatorRecord} {table table' : Table α}

theorem OnlyRows.insert (only : OnlyRows record before after table table') {new : α}
    (inserted : table.insert? new = some table')
    (member : ∃ other ∈ accessed, other.operatorId = (record new).operatorId) :
    ChangesWithin accessed before after := by
  intro changed changes
  obtain ⟨row, rfl, differs⟩ := only changed changes
  by_cases isNew : row = new
  · rw [isNew]
    exact member
  · rw [Table.mem_rows_insert? inserted, or_iff_left isNew] at differs
    exact absurd Iff.rfl differs

theorem OnlyRows.update {new old : α} (only : OnlyRows record before after table (table.update new))
    (found : table.get? (key new) = some old)
    (same : (record new).operatorId = (record old).operatorId)
    (member : ∃ other ∈ accessed, other.operatorId = (record old).operatorId) :
    ChangesWithin accessed before after := by
  intro changed changes
  obtain ⟨row, rfl, differs⟩ := only changed changes
  suffices (record row).operatorId = (record old).operatorId by
    rw [this]
    exact member
  have stored : ∀ rows : Table α, row ∈ rows.rows ↔ rows.get? (key row) = some row := fun rows => by
    rw [Table.get?_eq_some_iff, and_iff_left rfl]
  rw [stored, stored, Table.get?_update] at differs
  by_cases isKey : key row = key new
  · rw [if_pos isKey, isKey, found, Option.map_some, Option.some.injEq, Option.some.injEq] at differs
    by_cases isNew : new = row
    · rw [← isNew, same]
    · have isOld : old = row := by
        by_contra other
        exact differs (iff_of_false other isNew)
      rw [isOld]
  · rw [if_neg isKey] at differs
    exact absurd Iff.rfl differs

theorem OnlyRows.delete {id : String} (only : OnlyRows record before after table (table.delete id))
    (member : ∀ old, table.get? id = some old →
      ∃ other ∈ accessed, other.operatorId = (record old).operatorId) :
    ChangesWithin accessed before after := by
  intro changed changes
  obtain ⟨row, rfl, differs⟩ := only changed changes
  rw [Table.mem_rows_delete] at differs
  by_cases isId : key row = id
  · by_cases isRow : row ∈ table.rows
    · exact member row (isId ▸ Table.get?_key_of_mem isRow)
    · exact absurd (iff_of_false isRow fun both => isRow both.1) differs
  · rw [and_iff_left isId] at differs
    exact absurd Iff.rfl differs

end Tables

/-! ### Bound records -/

section Bound

variable {α : Type} [Keyed α String] {record : α → OperatorRecord} {table : Table α}
  {request : Request} {db : Store}

end Bound

/-! ### Service classes -/

section ServiceClasses

variable {ctx : Context} {db : Store} {request : Request}

end ServiceClasses

/-! ### Contacts and locations -/

section OpSource

variable {α : Type} [Keyed α String] {record : α → OperatorRecord} {source : OpSource α}
  {ctx : Context} {db : Store} {request : Request}

end OpSource

/-! ### Subscribers -/

section Subscribers

variable {ctx : Context} {db : Store} {request : Request}

end Subscribers

/-! ### Subscriber devices -/

section SubscriberDevices

variable {ctx : Context} {db db' : Store} {device : SubscriberDevice} {request : Request}

end SubscriberDevices

/-! ### Answers -/

section Answers

variable {α : Type} [Keyed α String] {record : α → OperatorRecord} {table : Table α}
  {db : Store} {request : Request}

end Answers

/-! ### All requests -/

namespace OperatorRoute

variable {selects : QuotedOperatorSelects} {ctx : Context} {db : Store} {request : Request}

end OperatorRoute

end Owprov
