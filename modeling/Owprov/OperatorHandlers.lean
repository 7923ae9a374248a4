import Owprov.ListHandlers
import Owprov.ServiceClasses
import Owprov.SubDeviceHandlers
import Owprov.WhereClauses

/-!
# Records of an operator

Service classes, contacts, locations and subscriber devices belong to an operator.  They are read
one by one, by their id, or in lists that name the operator.
-/

namespace Owprov

open RowTable

/-! ## Contacts and locations -/

def validContactType (type : String) : Bool :=
  ["subscriber", "user", "installer", "csr", "manager", "businessowner", "technician",
    "corporate"].contains (toLower type)

def validLocationType (type : String) : Bool :=
  ["service", "equipment", "auto", "manual", "special", "unknown", "corporate"].contains
    (toLower type)

/-- A contact or a location of an operator, as its handler reads it. -/
structure OpSource (α : Type) [Keyed α String] where
  table : Store → Table α
  withTable : Store → Table α → Store
  fromJson : JsonObject → Except Failure α
  info : α → ObjectInfo
  withInfo : α → ObjectInfo → α
  operatorId : α → String
  subscriberDeviceId : α → String
  managementPolicy : α → String
  withReferences : α → String → String → α
  validType : String → Bool
  invalidType : Errors
  /-- The texts that an update assigns. -/
  texts : List String

def opContactSource : OpSource OperatorContact where
  table := Store.opContactDB
  withTable db table := { db with opContactDB := table }
  fromJson := OperatorContact.fromJson
  info := OperatorContact.info
  withInfo contact info := { contact with info := info }
  operatorId := OperatorContact.operatorId
  subscriberDeviceId := OperatorContact.subscriberDeviceId
  managementPolicy := OperatorContact.managementPolicy
  withReferences contact subscriberDeviceId managementPolicy :=
    { contact with subscriberDeviceId := subscriberDeviceId, managementPolicy := managementPolicy }
  validType := validContactType
  invalidType := .invalidContactType
  texts := ["type", "title", "salutation", "firstname", "lastname", "initials", "visual",
    "accessPIN", "secondaryEmail", "primaryEmail"]

def opLocationSource : OpSource OperatorLocation where
  table := Store.opLocationDB
  withTable db table := { db with opLocationDB := table }
  fromJson := OperatorLocation.fromJson
  info := OperatorLocation.info
  withInfo location info := { location with info := info }
  operatorId := OperatorLocation.operatorId
  subscriberDeviceId := OperatorLocation.subscriberDeviceId
  managementPolicy := OperatorLocation.managementPolicy
  withReferences location subscriberDeviceId managementPolicy :=
    { location with subscriberDeviceId := subscriberDeviceId, managementPolicy := managementPolicy }
  validType := validLocationType
  invalidType := .invalidLocationType
  texts := ["type", "buildingName", "city", "state", "postal", "country", "geoCode"]

section OpSource

variable {α : Type} [Keyed α String] (source : OpSource α)

/-- The checks of `DoPost` and the record it creates, which keeps the id of the body when it has
no name. -/
def opDoPostPlan (ctx : Context) (db : Store) (request : Request) : Except Failure α := do
  let body ← request.jsonBody
  let newObject ← source.fromJson body
  require (source.operatorId newObject != "" &&
    idExists db.operatorDB (source.operatorId newObject)) (.badRequest .invalidOperatorId)
  require (emptyOrExists db.policyDB (source.managementPolicy newObject))
    (.badRequest .unknownManagementPolicyUUID)
  require (emptyOrExists db.subscriberDeviceDB (source.subscriberDeviceId newObject))
    (.badRequest .invalidSubscriberDeviceId)
  require (source.validType (body.stringField "type")) (.badRequest source.invalidType)
  let info ← createObjectInfoUnchecked body (source.info newObject) (ctx.newId 0)
  return source.withInfo newObject info

def opDoPost (ctx : Context) (db : Store) (request : Request) : Outcome :=
  match opDoPostPlan source ctx db request with
  | .error failure => .fail db failure
  | .ok newObject =>
      match (source.table db).insert? newObject with
      | none => .fail db (.internalError .recordNotCreated)
      | some table => .done (source.withTable db table)

/-- The checks of `DoPut` and the updated record. -/
def opDoPutPlan (db : Store) (request : Request) : Except Failure α := do
  let uuid := request.getBinding "uuid"
  require (uuid != "") (.badRequest .missingUUID)
  match (source.table db).get? uuid with
  | none => throw (.badRequest .missingUUID)
  | some existing =>
      let body ← request.jsonBody
      let updateObj ← source.fromJson body
      require (source.validType (body.stringField "type")) (.badRequest source.invalidType)
      require (emptyOrExists db.policyDB (source.managementPolicy updateObj))
        (.badRequest .unknownManagementPolicyUUID)
      require (emptyOrExists db.subscriberDeviceDB (source.subscriberDeviceId updateObj))
        (.badRequest .invalidSubscriberDeviceId)
      let info ← updateObjectInfoUnchecked body (source.info existing)
      checkTexts body source.texts
      let subscriberDeviceId ←
        body.assignIfPresent "subscriberDeviceId" (source.subscriberDeviceId existing)
      let managementPolicy ←
        body.assignIfPresent "managementPolicy" (source.managementPolicy existing)
      return source.withReferences (source.withInfo existing info) subscriberDeviceId
        managementPolicy

def opDoPut (db : Store) (request : Request) : Outcome :=
  match opDoPutPlan source db request with
  | .error failure => .fail db failure
  | .ok updated => .done (source.withTable db ((source.table db).update updated))

/-- The checks of `DoDelete`. -/
def opDoDeletePlan (db : Store) (request : Request) : Except Failure α := do
  let uuid := request.getBinding "uuid"
  require (uuid != "") (.badRequest .missingUUID)
  match (source.table db).get? uuid with
  | none => throw .notFound
  | some existing =>
      require (source.subscriberDeviceId existing == "") (.badRequest .stillInUse)
      return existing

def opDoDelete (db : Store) (request : Request) : Outcome :=
  match opDoDeletePlan source db request with
  | .error failure => .fail db failure
  | .ok existing => .done (source.withTable db ((source.table db).delete (key existing)))

end OpSource

/-! ## Reading one record -/

/-- `DoGet` of a service class, a contact or a location. -/
def opDoGet {α : Type} [Keyed α String] (table : Table α) (request : Request) :
    Except Failure α := do
  let uuid := request.getBinding "uuid"
  require (uuid != "") (.badRequest .missingUUID)
  match table.get? uuid with
  | none => throw .notFound
  | some existing => return existing

/-- `RESTAPI_sub_devices_handler::DoGet`. -/
def subDeviceDoGet (db : Store) (request : Request) : Except Failure SubscriberDevice := do
  let uuid := request.getBinding "uuid"
  require (uuid != "") (.badRequest .missingUUID)
  let found ←
    if validUUID uuid then
      pure (db.subscriberDeviceDB.get? uuid)
    else if validSerialNumber uuid then
      pure (getBy db.subscriberDeviceDB SubscriberDevice.serialNumber uuid)
    else
      throw (.badRequest .missingOrInvalidParameters)
  match found with
  | none => throw .notFound
  | some device => return device

/-! ## Lists -/

/-- What the database answers to a condition. -/
structure ConditionRows (α : Type) where
  count : ℕ
  page : QueryBlock → List α

/-- The answers to a condition with an operator id that holds a quote. -/
structure QuotedOperatorSelects where
  serviceClasses : Store → String → ConditionRows ServiceClass
  contacts : Store → String → ConditionRows OperatorContact
  locations : Store → String → ConditionRows OperatorLocation

def matchingRows {α : Type} (rows : List α) : ConditionRows α where
  count := rows.length
  page block := block.window rows

/-- The records of an operator, whose id stands in the condition as it is. -/
def rowsOfOperator {α : Type} [Keyed α String] (quoted : Store → String → ConditionRows α)
    (db : Store) (table : Table α) (operatorId : α → String) (id : String) : ConditionRows α :=
  if id.toList.contains sqlQuote then
    quoted db (" operatorId=" ++ sqlQuote.toString ++ id ++ sqlQuote.toString)
  else
    matchingRows (table.rows.filter fun row => operatorId row == id)

/-- `ListHandlerForOperator`. -/
def listHandlerForOperator {α : Type} [Keyed α String] (table : Table α)
    (condition : ConditionRows α) (block : QueryBlock) : Except Failure (ListAnswer α) :=
  if block.countOnly then
    .ok (.count condition.count)
  else if block.select ≠ [] then
    (returnRecordList table block.select).map .records
  else
    .ok (.records (condition.page block))

/-- `DoGet` of the lists of service classes, contacts and locations. -/
def opListDoGet {α : Type} [Keyed α String] (quoted : Store → String → ConditionRows α)
    (db : Store) (table : Table α) (operatorId : α → String) (request : Request) :
    Except Failure (ListAnswer α) := do
  let block ← request.queryBlock
  let id := request.getParameter "operatorId"
  require (id != "" && idExists db.operatorDB id) (.badRequest .operatorIdMustExist)
  listHandlerForOperator table (rowsOfOperator quoted db table operatorId id) block

/-- The devices of an operator, or those of one of its subscribers. -/
def listedDevices (db : Store) (operatorId subscriberId : String) : List SubscriberDevice :=
  db.subscriberDeviceDB.rows.filter fun device =>
    device.operatorId == operatorId && (subscriberId == "" || device.subscriberId == subscriberId)

/-- `RESTAPI_sub_devices_list_handler::DoGet`; the operator is looked up by the escaped id. -/
def subDeviceListDoGet (db : Store) (request : Request) :
    Except Failure (ListAnswer SubscriberDevice) := do
  let block ← request.queryBlock
  let operatorId := request.getParameter "operatorId"
  require (operatorId == "" || idExists db.operatorDB (escape operatorId))
    (.badRequest .operatorIdMustExist)
  listHandlerForOperator db.subscriberDeviceDB
    (matchingRows (listedDevices db operatorId (request.getParameter "subscriberId"))) block

end Owprov
