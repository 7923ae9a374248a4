import Mathlib.Algebra.Group.Nat.Defs
import Mathlib.Data.List.Infix

/-!
# Requests

A request as a handler sees it: method, URI with its query text, path bindings, query
parameters and the parsed body.  Reading a body field can throw; a thrown exception
ends the request, so every reader of a field returns an `Except`.
-/

namespace Owprov

/-- The members of `RESTAPI::Errors` that the modelled code answers with. -/
inductive Errors where
  | accessDenied
  | cannotCreateDefaultOperator
  | cannotDeleteDefaultOperator
  | cannotDeleteRoot
  | configBlockInvalid
  | configurationMustExist
  | contactMustExist
  | couldNotBeDeleted
  | endpointMustHaveOneTypeOfServers
  | entityMustExist
  | firstSubscriberDeviceMustBeOLG
  | globalReachCertMustExist
  | internalError
  | invalidBillingCode
  | invalidBillingPeriod
  | invalidContactType
  | invalidCreateObjectsRequest
  | invalidDeviceClass
  | invalidDeviceTypes
  | invalidEmailAddress
  | invalidEntityType
  | invalidIPAddresses
  | invalidIPRanges
  | invalidJSONDocument
  | invalidLOrderBy
  | invalidLocationType
  | invalidOperatorId
  | invalidRadiusEndpointPoolStrategy
  | invalidRadiusServer
  | invalidRadiusTypeEndpoint
  | invalidRadsecCaCertificate
  | invalidRadsecIPAddress
  | invalidRadsecMainCertificate
  | invalidRadsecPort
  | invalidRadsecPrivteKey
  | invalidRadsecSecret
  | invalidRegistrationOperatorName
  | invalidRRM
  | invalidSerialNumber
  | invalidServiceClassId
  | invalidSubscriberDeviceGroup
  | invalidSubscriberDeviceId
  | invalidSubscriberId
  | invalidTimezone
  | invalidVisibilityAttribute
  | locationMustExist
  | missingAuthenticationInformation
  | missingOrInvalidParameters
  | missingSerialNumber
  | missingUUID
  | mustDeleteAPDevicesBeforeOLG
  | mustHaveConfigElement
  | nameMustBeSet
  | noRecordsDeleted
  | notImplemented
  | notBoth
  | onlyFirstSubscriberDeviceCanBeOLG
  | operatorIdMustExist
  | orionAccountMustExist
  | parentOrEntityMustBeSet
  | parentUUIDMustExist
  | radiusEndpointIndexInvalid
  | recordNotCreated
  | recordNotUpdated
  | serialNumberExists
  | serialNumberMismatch
  | stillInUse
  | subscriberDeviceDeleteRequiresSubscriberApi
  | subscriberMustExist
  | unknownId
  | unknownManagementPolicyUUID
  | userAlreadyExists
  | validNonRootUUID
  | variableMustExist
  | venueAddDeviceRequiresSubscriberApi
  | venueDeleteRequiresSubscriberApi
  | venueMustExist
  | venuesNameAlreadyExists
  deriving DecidableEq, Repr

/-- How a handler ends when it does not carry the request out. -/
inductive Failure where
  | notFound
  | badRequest (error : Errors)
  | badRequestWith (error : Errors) (text : String)
  | internalError (error : Errors)
  | unAuthorized (error : Errors)
  /-- The answer of another service is passed on. -/
  | passedThrough (status : ℕ)
  /-- A recursion does not end, or an exception other than one of Poco ends the request. -/
  | noAnswer
  deriving DecidableEq, Repr

/-- A Poco exception anywhere in a request is answered by `handleRequest`. -/
def Failure.thrown : Failure := .badRequest .internalError

/-! ## JSON values -/

/-- A parsed JSON value.  Numbers, booleans and the containers keep the text that
`toString` gives for them. -/
inductive Json where
  | null
  | str (value : String)
  | scalar (text : String)
  | arr (items : List Json) (text : String)
  | obj (fields : List (String × Json)) (text : String)

/-- `Var::toString`, which throws on null. -/
def Json.toString : Json → Except Failure String
  | .null => .error .thrown
  | .str value => .ok value
  | .scalar text => .ok text
  | .arr _ text => .ok text
  | .obj _ text => .ok text

def Json.isNull : Json → Bool
  | .null => true
  | _ => false

/-- A parsed JSON object. -/
abbrev JsonObject := List (String × Json)

namespace JsonObject

def has (obj : JsonObject) (field : String) : Bool :=
  (obj.lookup field).isSome

/-- `get(field).toString()`; a missing field reads as null. -/
def getString (obj : JsonObject) (field : String) : Except Failure String :=
  ((obj.lookup field).getD .null).toString

/-- The items of an array field, when the field is an array. -/
def getArray? (obj : JsonObject) (field : String) : Option (List Json) :=
  match obj.lookup field with
  | some (.arr items _) => some items
  | _ => none

/-- The members of an object field, when the field is an object. -/
def getObject? (obj : JsonObject) (field : String) : Option JsonObject :=
  match obj.lookup field with
  | some (.obj fields _) => some fields
  | _ => none

/-- `AssignIfPresent` for a string. -/
def assignIfPresent (obj : JsonObject) (field : String) (value : String) :
    Except Failure String :=
  if obj.has field then obj.getString field else .ok value

/-- `field_from_json` for a string. -/
def stringField (obj : JsonObject) (field : String) (value : String := "") : String :=
  match obj.lookup field with
  | none | some .null => value
  | some (.str text) => text
  | some (.scalar text) => text
  | some (.arr _ text) => text
  | some (.obj _ text) => text

/-- `field_from_json` for a vector of strings; a null item throws. -/
def stringsField (obj : JsonObject) (field : String) : Except Failure (List String) :=
  match obj.getArray? field with
  | none => .ok []
  | some items => items.mapM Json.toString

/-- `AssignIfPresent` for a boolean. -/
def assignBoolIfPresent (obj : JsonObject) (field : String) (value : Bool) :
    Except Failure Bool := do
  if obj.has field then
    let text ← obj.getString field
    return text == "true"
  else
    return value

/-- `field_from_json` for a boolean. -/
def boolField (obj : JsonObject) (field : String) : Bool :=
  obj.stringField field == "true"

/-- `field_from_json` for a vector of objects; an item that is no object throws. -/
def objectsField (obj : JsonObject) (field : String) : Except Failure (List JsonObject) :=
  match obj.getArray? field with
  | none => .ok []
  | some items =>
      items.mapM fun
        | .obj fields _ => .ok fields
        | _ => .error .thrown

end JsonObject

/-! ## Text -/

/-- `Poco::toLower` on ASCII text. -/
def toLower (text : String) : String :=
  String.ofList (text.toList.map Char.toLower)

/-- `Poco::toUpper` on ASCII text. -/
def toUpper (text : String) : String :=
  String.ofList (text.toList.map Char.toUpper)

def isSpace (c : Char) : Bool :=
  c == ' ' || (9 ≤ c.toNat && c.toNat ≤ 13)

/-- `Poco::trim`. -/
def trim (text : String) : String :=
  String.ofList ((text.toList.dropWhile isSpace).reverse.dropWhile isSpace).reverse

/-- `Poco::icompare` answering zero. -/
def icompare (left right : String) : Bool :=
  toLower left == toLower right

theorem icompare_self (text : String) : icompare text text = true := by
  simp [icompare]

theorem icompare_trans {first second third : String} (left : icompare first second = true)
    (right : icompare second third = true) : icompare first third = true := by
  simp only [icompare, beq_iff_eq] at left right ⊢
  exact left.trans right

theorem icompare_symm {left right : String} (equal : icompare left right = true) :
    icompare right left = true := by
  simp only [icompare, beq_iff_eq] at equal ⊢
  exact equal.symm

/-- `path.find(marker) != std::string::npos`. -/
def pathHas (path marker : String) : Bool :=
  marker.toList <:+: path.toList

/-- The number that a text of digits stands for. -/
def decimalValue (text : String) : ℕ :=
  text.toList.foldl (fun value digit => value * 10 + (digit.toNat - 48)) 0

/-! ## Users and requests -/

/-- `SecurityObjects::USER_ROLE`. -/
inductive UserRole where
  | unknown
  | root
  | admin
  | subscriber
  | csr
  | system
  | installer
  | noc
  | accounting
  | partner
  deriving DecidableEq, Repr

/-- The fields of `SecurityObjects::UserInfo` that the handlers read. -/
structure UserInfo where
  id : String
  userRole : UserRole
  createdBy : String := ""
  deriving DecidableEq, Repr

/-- The HTTP methods that `handleRequest` tells apart. -/
inductive HttpMethod where
  | get
  | post
  | put
  | delete
  | other
  deriving DecidableEq, Repr

/-- A request after `ParseBindings` and `ParseParameters`.  `uri` is the request URI as
`getURI()` gives it, with the query text. -/
structure Request where
  method : HttpMethod
  uri : String
  bindings : List (String × String) := []
  parameters : List (String × String) := []
  body : Option JsonObject := none

namespace Request

/-- `GetBinding`, whose keys are stored in lower case. -/
def getBinding (request : Request) (name : String) : String :=
  (request.bindings.lookup (toLower name)).getD ""

/-- `GetParameter`: the first parameter of that name. -/
def getParameter (request : Request) (name : String) (default : String := "") : String :=
  (request.parameters.lookup name).getD default

def hasParameter (request : Request) (name : String) : Bool :=
  (request.parameters.lookup name).isSome

/-- `GetBoolParameter` with the default `false`. -/
def getBoolParameter (request : Request) (name : String) : Bool :=
  request.getParameter name == "true"

/-- `GetParameter` for a number; `std::stoull` throws beyond 64 bits. -/
def getNumber (request : Request) (name : String) (default : ℕ) : Except Failure ℕ :=
  match request.parameters.lookup name with
  | none => .ok default
  | some text =>
      if text = "" ∨ text.toList.all Char.isDigit = false then
        .ok default
      else if decimalValue text < 2 ^ 64 then
        .ok (decimalValue text)
      else
        .error .noAnswer

/-- The body, whose absence throws where a field of it is read. -/
def getBody (request : Request) : Except Failure JsonObject :=
  match request.body with
  | some body => .ok body
  | none => .error .thrown

end Request

/-! ## Lists -/

/-- The members of `QueryBlock` that the list handlers read. -/
structure QueryBlock where
  offset : ℕ := 0
  limit : ℕ := 100
  countOnly : Bool := false
  select : List String := []
  deriving DecidableEq, Repr

/-- `Poco::StringTokenizer` with one separator. -/
def tokenize (text : String) (separator : Char) : List String :=
  if text = "" then [] else (text.toList.splitOn separator).map String.ofList

/-- `InitQueryBlock`, which also reads numbers that no list handler uses. -/
def Request.queryBlock (request : Request) : Except Failure QueryBlock := do
  let _startDate ← request.getNumber "startDate" 0
  let _endDate ← request.getNumber "endDate" 0
  let offset ← request.getNumber "offset" 0
  let limit ← request.getNumber "limit" 100
  let _logType ← request.getNumber "logType" 0
  return {
    offset := offset
    limit := limit
    countOnly := request.getBoolParameter "countOnly"
    select := tokenize (request.getParameter "select") ',' }

/-- The part of the rows that a statement with this range answers; a range beyond what a
database takes for a number fails, which reads as no rows. -/
def QueryBlock.window {α : Type} (block : QueryBlock) (rows : List α) : List α :=
  if block.offset < 2 ^ 63 ∧ block.limit < 2 ^ 63 then
    (rows.drop block.offset).take block.limit
  else
    []

theorem QueryBlock.mem_of_mem_window {α : Type} {block : QueryBlock} {rows : List α} {row : α}
    (member : row ∈ block.window rows) : row ∈ rows := by
  unfold QueryBlock.window at member
  split at member
  · exact List.mem_of_mem_drop (List.mem_of_mem_take member)
  · cases member

end Owprov
