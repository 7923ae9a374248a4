import Owprov.Lib.Table
import Owprov.Request

/-!
# Provisioning records

The records of the provisioning database, with the fields that the modelled code reads
or writes.  Every record is keyed by the `id` of its `ObjectInfo`.
-/

namespace Owprov

open RowTable

structure ObjectInfo where
  id : String := ""
  name : String := ""
  description : String := ""
  deriving DecidableEq, Repr

structure ManagementPolicyEntry where
  users : List String := []
  resources : List String := []
  access : List String := []
  policy : String := ""
  deriving DecidableEq, Repr

structure ManagementPolicy where
  info : ObjectInfo
  entries : List ManagementPolicyEntry := []
  inUse : List String := []
  entity : String := ""
  venue : String := ""
  deriving DecidableEq, Repr

structure ManagementRole where
  info : ObjectInfo
  managementPolicy : String := ""
  users : List String := []
  entity : String := ""
  venue : String := ""
  deriving DecidableEq, Repr

structure DeviceRules where
  rcOnly : String := "inherit"
  rrm : String := "inherit"
  firmwareUpgrade : String := "inherit"
  deriving DecidableEq, Repr

structure Entity where
  info : ObjectInfo
  parent : String := ""
  operatorId : String := ""
  children : List String := []
  venues : List String := []
  contacts : List String := []
  locations : List String := []
  managementPolicy : String := ""
  deviceConfiguration : List String := []
  devices : List String := []
  deviceRules : DeviceRules := {}
  sourceIP : List String := []
  «variables» : List String := []
  managementPolicies : List String := []
  managementRoles : List String := []
  maps : List String := []
  configurations : List String := []
  deriving DecidableEq, Repr

structure Venue where
  info : ObjectInfo
  entity : String := ""
  parent : String := ""
  subscriber : String := ""
  children : List String := []
  managementPolicy : String := ""
  devices : List String := []
  design : String := ""
  deviceConfiguration : List String := []
  contacts : List String := []
  location : String := ""
  deviceRules : DeviceRules := {}
  sourceIP : List String := []
  «variables» : List String := []
  configurations : List String := []
  maps : List String := []
  managementPolicies : List String := []
  managementRoles : List String := []
  boards : List String := []
  deriving DecidableEq, Repr

structure Contact where
  info : ObjectInfo
  inUse : List String := []
  entity : String := ""
  managementPolicy : String := ""
  deriving DecidableEq, Repr

structure Location where
  info : ObjectInfo
  inUse : List String := []
  entity : String := ""
  managementPolicy : String := ""
  timezone : String := ""
  deriving DecidableEq, Repr

structure DeviceConfigurationElement where
  name : String := ""
  description : String := ""
  weight : ℕ := 0
  configuration : String := ""
  deriving DecidableEq, Repr

structure DeviceConfiguration where
  info : ObjectInfo
  managementPolicy : String := ""
  deviceTypes : List String := []
  configuration : List DeviceConfigurationElement := []
  inUse : List String := []
  «variables» : List String := []
  deviceRules : DeviceRules := {}
  subscriberOnly : Bool := false
  venue : String := ""
  entity : String := ""
  subscriber : String := ""
  deriving DecidableEq, Repr

structure InventoryTag where
  info : ObjectInfo
  serialNumber : String := ""
  venue : String := ""
  entity : String := ""
  subscriber : String := ""
  deviceType : String := ""
  location : String := ""
  contact : String := ""
  deviceConfiguration : String := ""
  deviceRules : DeviceRules := {}
  managementPolicy : String := ""
  state : String := ""
  devClass : String := ""
  locale : String := ""
  realMacAddress : String := ""
  doNotAllowOverrides : Bool := false
  platform : String := "AP"
  deriving DecidableEq, Repr

structure Map where
  info : ObjectInfo
  data : String := ""
  entity : String := ""
  creator : String := ""
  visibility : String := "private"
  managementPolicy : String := ""
  venue : String := ""
  deriving DecidableEq, Repr

structure Variable where
  type : String := ""
  weight : ℕ := 0
  variablePrefix : String := ""
  value : String := ""
  deriving DecidableEq, Repr

structure VariableBlock where
  info : ObjectInfo
  «variables» : List Variable := []
  entity : String := ""
  venue : String := ""
  subscriber : String := ""
  inventory : String := ""
  configurations : List String := []
  managementPolicy : String := ""
  deriving DecidableEq, Repr

inductive SignupStatusCodes where
  | signupCreated
  | signupWaitingForEmail
  | signupWaitingForDevice
  | signupSuccess
  | signupFailure
  | signupCanceled
  | signupTimedOut
  deriving DecidableEq, Repr

structure SignupEntry where
  info : ObjectInfo
  email : String := ""
  userId : String := ""
  macAddress : String := ""
  serialNumber : String := ""
  submitted : ℕ := 0
  completed : ℕ := 0
  status : String := ""
  error : ℕ := 0
  statusCode : SignupStatusCodes := .signupCreated
  deviceID : String := ""
  registrationId : String := ""
  operatorId : String := ""
  deriving DecidableEq, Repr

structure Operator where
  info : ObjectInfo
  managementPolicy : String := ""
  managementRoles : List String := []
  deviceRules : DeviceRules := {}
  defaultOperator : Bool := false
  sourceIP : List String := []
  registrationId : String := ""
  entityId : String := ""
  deriving DecidableEq, Repr

structure ServiceClass where
  info : ObjectInfo
  operatorId : String := ""
  managementPolicy : String := ""
  currency : String := ""
  period : String := ""
  billingCode : String := ""
  defaultService : Bool := false
  deriving DecidableEq, Repr

structure SubscriberDevice where
  info : ObjectInfo
  serialNumber : String := ""
  deviceType : String := ""
  deviceGroup : String := ""
  operatorId : String := ""
  subscriberId : String := ""
  managementPolicy : String := ""
  serviceClass : String := ""
  qrCode : String := ""
  geoCode : String := ""
  deviceRules : DeviceRules := {}
  state : String := ""
  locale : String := ""
  billingCode : String := ""
  deviceConfiguration : String := ""
  suspended : Bool := false
  realMacAddress : String := ""
  deriving DecidableEq, Repr

structure OperatorContact where
  info : ObjectInfo
  operatorId : String := ""
  subscriberDeviceId : String := ""
  managementPolicy : String := ""
  deriving DecidableEq, Repr

structure OperatorLocation where
  info : ObjectInfo
  operatorId : String := ""
  subscriberDeviceId : String := ""
  managementPolicy : String := ""
  deriving DecidableEq, Repr

instance : Keyed ManagementPolicy String where key policy := policy.info.id
instance : Keyed ManagementRole String where key role := role.info.id
instance : Keyed Entity String where key entity := entity.info.id
instance : Keyed Venue String where key venue := venue.info.id
instance : Keyed Contact String where key contact := contact.info.id
instance : Keyed Location String where key location := location.info.id
instance : Keyed DeviceConfiguration String where key config := config.info.id
instance : Keyed InventoryTag String where key tag := tag.info.id
instance : Keyed Map String where key map := map.info.id
instance : Keyed VariableBlock String where key block := block.info.id
instance : Keyed SignupEntry String where key signup := signup.info.id
instance : Keyed Operator String where key op := op.info.id
instance : Keyed ServiceClass String where key service := service.info.id
instance : Keyed SubscriberDevice String where key device := device.info.id
instance : Keyed OperatorContact String where key contact := contact.info.id
instance : Keyed OperatorLocation String where key location := location.info.id

/-! ## Reading records from a body -/

/-- `ObjectInfo::from_json`, which swallows its own exceptions. -/
def ObjectInfo.fromJson (obj : JsonObject) : ObjectInfo where
  id := obj.stringField "id"
  name := obj.stringField "name"
  description := obj.stringField "description"

/-- `CreateObjectInfo` with the id that `MicroServiceCreateUUID` answers. -/
def createObjectInfo (body : JsonObject) (info : ObjectInfo) (newId : String) :
    Except Failure ObjectInfo := do
  let name ← body.assignIfPresent "name" info.name
  if name = "" then
    throw (.badRequest .nameMustBeSet)
  let description ← body.assignIfPresent "description" info.description
  return { id := newId, name := name, description := description }

/-- `UpdateObjectInfo`. -/
def updateObjectInfo (body : JsonObject) (info : ObjectInfo) : Except Failure ObjectInfo := do
  let name ← body.assignIfPresent "name" info.name
  if name = "" then
    throw (.badRequest .nameMustBeSet)
  let description ← body.assignIfPresent "description" info.description
  return { info with name := name, description := description }

/-- `field_from_json` for the device rules. -/
def DeviceRules.fromField (obj : JsonObject) (rules : DeviceRules := {}) : DeviceRules :=
  match obj.getObject? "deviceRules" with
  | none => rules
  | some fields =>
      { rcOnly := fields.stringField "rcOnly" rules.rcOnly
        rrm := fields.stringField "rrm" rules.rrm
        firmwareUpgrade := fields.stringField "firmwareUpgrade" rules.firmwareUpgrade }

/-- `from_json` answers false on an exception, and the handlers call that an invalid
document. -/
def orInvalid {α : Type} (read : Except Failure α) : Except Failure α :=
  match read with
  | .ok value => .ok value
  | .error _ => .error (.badRequest .invalidJSONDocument)

/-- The body for a `from_json`, where a missing one is an invalid document. -/
def Request.jsonBody (request : Request) : Except Failure JsonObject :=
  orInvalid request.getBody

def Entity.fromJson (obj : JsonObject) : Except Failure Entity :=
  orInvalid do
    return {
      info := ObjectInfo.fromJson obj
      parent := obj.stringField "parent"
      operatorId := obj.stringField "operatorId"
      venues := ← obj.stringsField "venues"
      children := ← obj.stringsField "children"
      contacts := ← obj.stringsField "contacts"
      locations := ← obj.stringsField "locations"
      managementPolicy := obj.stringField "managementPolicy"
      deviceConfiguration := ← obj.stringsField "deviceConfiguration"
      devices := ← obj.stringsField "devices"
      deviceRules := DeviceRules.fromField obj
      sourceIP := ← obj.stringsField "sourceIP"
      «variables» := ← obj.stringsField "variables"
      managementPolicies := ← obj.stringsField "managementPolicies"
      managementRoles := ← obj.stringsField "managementRoles"
      maps := ← obj.stringsField "maps"
      configurations := ← obj.stringsField "configurations" }

def Venue.fromJson (obj : JsonObject) : Except Failure Venue :=
  orInvalid do
    let _topology ← obj.objectsField "topology"
    return {
      info := ObjectInfo.fromJson obj
      parent := obj.stringField "parent"
      entity := obj.stringField "entity"
      subscriber := obj.stringField "subscriber"
      children := ← obj.stringsField "children"
      devices := ← obj.stringsField "devices"
      design := obj.stringField "design"
      managementPolicy := obj.stringField "managementPolicy"
      deviceConfiguration := ← obj.stringsField "deviceConfiguration"
      contacts := ← obj.stringsField "contacts"
      location := obj.stringField "location"
      deviceRules := DeviceRules.fromField obj
      sourceIP := ← obj.stringsField "sourceIP"
      «variables» := ← obj.stringsField "variables"
      managementPolicies := ← obj.stringsField "managementPolicies"
      managementRoles := ← obj.stringsField "managementRoles"
      maps := ← obj.stringsField "maps"
      configurations := ← obj.stringsField "configurations"
      boards := ← obj.stringsField "boards" }

def ManagementRole.fromJson (obj : JsonObject) : Except Failure ManagementRole :=
  orInvalid do
    return {
      info := ObjectInfo.fromJson obj
      managementPolicy := obj.stringField "managementPolicy"
      users := ← obj.stringsField "users"
      entity := obj.stringField "entity"
      venue := obj.stringField "venue" }

/-- `Operator::from_json`; the objects of `variables` are only checked to be objects. -/
def Operator.fromJson (obj : JsonObject) : Except Failure Operator :=
  orInvalid do
    let managementRoles ← obj.stringsField "managementRoles"
    let _variables ← obj.objectsField "variables"
    return {
      info := ObjectInfo.fromJson obj
      managementPolicy := obj.stringField "managementPolicy"
      managementRoles := managementRoles
      deviceRules := DeviceRules.fromField obj
      defaultOperator := obj.boolField "defaultOperator"
      sourceIP := ← obj.stringsField "sourceIP"
      registrationId := obj.stringField "registrationId"
      entityId := obj.stringField "entityId" }

/-- `DeviceConfigurationElement::from_json`, which stops where a weight is not a number. -/
def DeviceConfigurationElement.fromJson (obj : JsonObject) : DeviceConfigurationElement :=
  let name := obj.stringField "name"
  let description := obj.stringField "description"
  match (obj.stringField "weight" "0").toNat? with
  | none => { name, description }
  | some weight =>
      { name, description, weight, configuration := obj.stringField "configuration" }

def DeviceConfiguration.fromJson (obj : JsonObject) : Except Failure DeviceConfiguration :=
  orInvalid do
    return {
      info := ObjectInfo.fromJson obj
      managementPolicy := obj.stringField "managementPolicy"
      deviceTypes := ← obj.stringsField "deviceTypes"
      inUse := ← obj.stringsField "inUse"
      «variables» := ← obj.stringsField "variables"
      subscriberOnly := obj.boolField "subscriberOnly"
      entity := obj.stringField "entity"
      venue := obj.stringField "venue"
      subscriber := obj.stringField "subscriber"
      configuration :=
        (← obj.objectsField "configuration").map DeviceConfigurationElement.fromJson
      deviceRules := DeviceRules.fromField obj }

/-- `field_from_json` for a number, unless it throws. -/
def JsonObject.numberField? (obj : JsonObject) (field : String) : Option ℕ :=
  match obj.lookup field with
  | none | some .null => some 0
  | _ => (obj.stringField field).toNat?

/-- `Variable::from_json`, which stops where a weight is not a number. -/
def Variable.fromJson (obj : JsonObject) : Variable :=
  let type := obj.stringField "type"
  match obj.numberField? "weight" with
  | none => { type }
  | some weight =>
      { type, weight, variablePrefix := obj.stringField "prefix", value := obj.stringField "value" }

def VariableBlock.fromJson (obj : JsonObject) : Except Failure VariableBlock :=
  orInvalid do
    return {
      info := ObjectInfo.fromJson obj
      «variables» := (← obj.objectsField "variables").map Variable.fromJson
      entity := obj.stringField "entity"
      venue := obj.stringField "venue"
      subscriber := obj.stringField "subscriber"
      inventory := obj.stringField "inventory"
      configurations := ← obj.stringsField "configurations"
      managementPolicy := obj.stringField "managementPolicy" }

/-- The platform of an inventory tag; a device group takes precedence over it. -/
def InventoryTag.platformFromJson (obj : JsonObject) : String :=
  let deviceGroup := obj.stringField "deviceGroup"
  if deviceGroup = "" then
    obj.stringField "platform" "AP"
  else
    toUpper deviceGroup

def InventoryTag.fromJson (obj : JsonObject) : Except Failure InventoryTag :=
  .ok
    { info := ObjectInfo.fromJson obj
      serialNumber := obj.stringField "serialNumber"
      venue := obj.stringField "venue"
      entity := obj.stringField "entity"
      subscriber := obj.stringField "subscriber"
      deviceType := obj.stringField "deviceType"
      location := obj.stringField "location"
      contact := obj.stringField "contact"
      deviceConfiguration := obj.stringField "deviceConfiguration"
      deviceRules := DeviceRules.fromField obj
      managementPolicy := obj.stringField "managementPolicy"
      state := obj.stringField "state"
      devClass := obj.stringField "devClass"
      locale := obj.stringField "locale"
      realMacAddress := obj.stringField "realMacAddress"
      doNotAllowOverrides := obj.boolField "doNotAllowOverrides"
      platform := InventoryTag.platformFromJson obj }

def ServiceClass.fromJson (obj : JsonObject) : Except Failure ServiceClass :=
  orInvalid do
    let _variables ← obj.objectsField "variables"
    return {
      info := ObjectInfo.fromJson obj
      operatorId := obj.stringField "operatorId"
      managementPolicy := obj.stringField "managementPolicy"
      currency := obj.stringField "currency"
      period := obj.stringField "period"
      billingCode := obj.stringField "billingCode"
      defaultService := obj.boolField "defaultService" }

def SubscriberDevice.fromJson (obj : JsonObject) : Except Failure SubscriberDevice :=
  orInvalid do
    let _configuration ← obj.objectsField "configuration"
    return {
      info := ObjectInfo.fromJson obj
      serialNumber := obj.stringField "serialNumber"
      deviceType := obj.stringField "deviceType"
      deviceGroup := obj.stringField "deviceGroup"
      operatorId := obj.stringField "operatorId"
      subscriberId := obj.stringField "subscriberId"
      managementPolicy := obj.stringField "managementPolicy"
      serviceClass := obj.stringField "serviceClass"
      qrCode := obj.stringField "qrCode"
      geoCode := obj.stringField "geoCode"
      deviceRules := DeviceRules.fromField obj
      state := obj.stringField "state"
      locale := obj.stringField "locale"
      billingCode := obj.stringField "billingCode"
      deviceConfiguration := obj.stringField "deviceConfiguration"
      suspended := obj.boolField "suspended"
      realMacAddress := obj.stringField "realMacAddress" }

/-- The string vectors of a contact or location, whose null items make it invalid. -/
def checkPhoneFields (obj : JsonObject) (fields : List String) : Except Failure Unit := do
  let _vectors ← fields.mapM obj.stringsField
  return ()

def OperatorContact.fromJson (obj : JsonObject) : Except Failure OperatorContact :=
  orInvalid do
    checkPhoneFields obj ["mobiles", "phones"]
    return {
      info := ObjectInfo.fromJson obj
      operatorId := obj.stringField "operatorId"
      subscriberDeviceId := obj.stringField "subscriberDeviceId"
      managementPolicy := obj.stringField "managementPolicy" }

def OperatorLocation.fromJson (obj : JsonObject) : Except Failure OperatorLocation :=
  orInvalid do
    checkPhoneFields obj ["addressLines", "phones", "mobiles"]
    return {
      info := ObjectInfo.fromJson obj
      operatorId := obj.stringField "operatorId"
      subscriberDeviceId := obj.stringField "subscriberDeviceId"
      managementPolicy := obj.stringField "managementPolicy" }

def Location.fromJson (obj : JsonObject) : Except Failure Location :=
  orInvalid do
    checkPhoneFields obj ["addressLines", "phones", "mobiles"]
    return {
      info := ObjectInfo.fromJson obj
      inUse := ← obj.stringsField "inUse"
      entity := obj.stringField "entity"
      managementPolicy := obj.stringField "managementPolicy"
      timezone := obj.stringField "timezone" }

def Contact.fromJson (obj : JsonObject) : Except Failure Contact :=
  orInvalid do
    checkPhoneFields obj ["mobiles", "phones"]
    return {
      info := ObjectInfo.fromJson obj
      inUse := ← obj.stringsField "inUse"
      entity := obj.stringField "entity"
      managementPolicy := obj.stringField "managementPolicy" }

/-- The items that `field_from_json` has read of a vector of strings when it returns or throws,
and whether it read them all. -/
def JsonObject.stringsRead (obj : JsonObject) (field : String) : List String × Bool :=
  match obj.getArray? field with
  | none => ([], true)
  | some items =>
      ((items.takeWhile fun item => !item.isNull).filterMap fun item => item.toString.toOption,
        items.all fun item => !item.isNull)

/-- `ManagementPolicyEntry::from_json`, which stops at a null item. -/
def ManagementPolicyEntry.fromJson (obj : JsonObject) : ManagementPolicyEntry :=
  let (users, usersRead) := obj.stringsRead "users"
  if !usersRead then
    { users }
  else
    let (resources, resourcesRead) := obj.stringsRead "resources"
    if !resourcesRead then
      { users, resources }
    else
      let (access, accessRead) := obj.stringsRead "access"
      if !accessRead then
        { users, resources, access }
      else
        { users, resources, access, policy := obj.stringField "policy" }

/-- `ManagementPolicy::from_json`, which does not read the venue. -/
def ManagementPolicy.fromJson (obj : JsonObject) : Except Failure ManagementPolicy :=
  orInvalid do
    return {
      info := ObjectInfo.fromJson obj
      entries := (← obj.objectsField "entries").map ManagementPolicyEntry.fromJson
      inUse := ← obj.stringsField "inUse"
      entity := obj.stringField "entity" }

end Owprov
