import Owprov.Handler
import Owprov.RecordFields
import Owprov.Lib.Runs
import Owprov.Lib.Table

/-!
# RADIUS endpoints

The records that `RESTAPI_radius_endpoint_handler` accepts, and what its requests do to their
table.  A list of servers of an endpoint passes the check of its servers when it is empty.
-/

namespace Owprov.Radius

open JsonValues RowTable Stored

/-! ## Records -/

structure RADIUSServer where
  hostname : String := ""
  ip : String := ""
  port : UInt64 := 0
  secret : String := ""
  deriving DecidableEq, Repr

structure RADIUSEndPointRadiusType where
  authentication : List RADIUSServer := []
  accounting : List RADIUSServer := []
  coA : List RADIUSServer := []
  accountingInterval : UInt64 := 60
  deriving DecidableEq, Repr

structure RADIUSEndPointRadsecType where
  hostname : String := ""
  ip : String := ""
  port : UInt64 := 2083
  secret : String := "radsec"
  openRoamingType : String := ""
  useOpenRoamingAccount : String := ""
  weight : UInt64 := 0
  certificate : String := ""
  privateKey : String := ""
  caCerts : List String := []
  allowSelfSigned : Bool := false
  deriving DecidableEq, Repr

structure RADIUSEndPoint where
  info : Owprov.ObjectInfo := {}
  type : String := "radius"
  poolStrategy : String := "none"
  useGWProxy : Bool := true
  index : String := ""
  usedBy : List String := []
  radiusServers : List RADIUSEndPointRadiusType := []
  radsecServers : List RADIUSEndPointRadsecType := []
  nasIdentifier : String := ""
  accountingInterval : UInt64 := 600
  deriving DecidableEq, Repr

instance : Keyed RADIUSEndPoint String where key endpoint := endpoint.info.id

/-! ## Records of a body -/

section FromJson

variable {α : Type} (poco : Poco) (obj : Members) (name : String)

def readBool (set : Bool → α → α) (record : α) : Except α α :=
  readField obj name (fun value => (poco.toString value).map (· == "true")) set record

/-- `field_from_json` of a list of records; an exception of a record ends that record only. -/
def readObjects {β : Type} (fromJson : Members → β) (set : List β → α → α) (record : α) :
    Except α α :=
  match obj.lookup name with
  | some (.arr items) =>
      match collect (ofItem fromJson) items with
      | (records, true) => .ok (set records record)
      | (records, false) => .error (set records record)
  | _ => .ok record

def RADIUSServer.fromJson : RADIUSServer :=
  readFields [
    readString poco obj "Hostname" fun value r => { r with hostname := value },
    readString poco obj "IP" fun value r => { r with ip := value },
    readUInt64 poco obj "Port" fun value r => { r with port := value },
    readString poco obj "Secret" fun value r => { r with secret := value }] {}

def RADIUSEndPointRadiusType.fromJson : RADIUSEndPointRadiusType :=
  readFields [
    readObjects obj "Authentication" (RADIUSServer.fromJson poco)
      fun value r => { r with authentication := value },
    readObjects obj "Accounting" (RADIUSServer.fromJson poco)
      fun value r => { r with accounting := value },
    readObjects obj "CoA" (RADIUSServer.fromJson poco) fun value r => { r with coA := value },
    readUInt64 poco obj "AccountingInterval"
      fun value r => { r with accountingInterval := value }] {}

def RADIUSEndPointRadsecType.fromJson : RADIUSEndPointRadsecType :=
  readFields [
    readString poco obj "Hostname" fun value r => { r with hostname := value },
    readString poco obj "IP" fun value r => { r with ip := value },
    readUInt64 poco obj "Port" fun value r => { r with port := value },
    readString poco obj "Secret" fun value r => { r with secret := value },
    readString poco obj "OpenRoamingType" fun value r => { r with openRoamingType := value },
    readString poco obj "UseOpenRoamingAccount"
      fun value r => { r with useOpenRoamingAccount := value },
    readUInt64 poco obj "Weight" fun value r => { r with weight := value },
    readString poco obj "Certificate" fun value r => { r with certificate := value },
    readString poco obj "PrivateKey" fun value r => { r with privateKey := value },
    readStrings poco obj "CaCerts" fun value r => { r with caCerts := value },
    readBool poco obj "AllowSelfSigned" fun value r => { r with allowSelfSigned := value }] {}

/-- The information of the object, whose exceptions end it alone. -/
def readInfo : Owprov.ObjectInfo :=
  readFields [
    readString poco obj "id" fun value r => { r with id := value },
    readString poco obj "name" fun value r => { r with name := value },
    readString poco obj "description" fun value r => { r with description := value }] {}

/-- The fields of a record, unless one of them throws. -/
def readAll : List (α → Except α α) → α → Option α
  | [], record => some record
  | field :: fields, record =>
      match field record with
      | .ok next => readAll fields next
      | .error _ => none

/-- `RADIUSEndPoint::from_json`, which an exception in one of its own fields fails. -/
def RADIUSEndPoint.fromJson : Option RADIUSEndPoint :=
  readAll [
    readString poco obj "Type" fun value r => { r with type := value },
    readObjects obj "RadsecServers" (RADIUSEndPointRadsecType.fromJson poco)
      fun value r => { r with radsecServers := value },
    readObjects obj "RadiusServers" (RADIUSEndPointRadiusType.fromJson poco)
      fun value r => { r with radiusServers := value },
    readString poco obj "PoolStrategy" fun value r => { r with poolStrategy := value },
    readString poco obj "Index" fun value r => { r with index := value },
    readStrings poco obj "UsedBy" fun value r => { r with usedBy := value },
    readBool poco obj "UseGWProxy" fun value r => { r with useGWProxy := value },
    readString poco obj "NasIdentifier" fun value r => { r with nasIdentifier := value },
    readUInt64 poco obj "AccountingInterval"
      fun value r => { r with accountingInterval := value }] { info := readInfo poco obj }

end FromJson

/-! ## Checks -/

/-- What the checks ask of the libraries and of the account tables. -/
structure RadiusEnv where
  poco : Poco
  /-- `Poco::Net::IPAddress::tryParse` and `toBytes`. -/
  parseIP : String → Option (List UInt8)
  validX509Certificate : String → Bool
  verifyPrivateKey : String → Bool
  orionAccountExists : String → Bool
  certExists : String → Bool
  /-- The id that is drawn for a new record. -/
  createUUID : String

/-- `GWObjects::RadiusEndpointType`. -/
inductive RadiusEndpointType where
  | generic
  | radsec
  | globalreach
  | orion
  | unknown
  deriving DecidableEq, Repr

def radiusEndpointType (text : String) : RadiusEndpointType :=
  if text = "generic" then .generic
  else if text = "radsec" then .radsec
  else if text = "globalreach" then .globalreach
  else if text = "orion" then .orion
  else .unknown

/-- Whether `GWObjects::RadiusPoolStrategy` knows a text. -/
def knownPoolStrategy (text : String) : Bool :=
  ["round_robin", "random", "weighted"].contains text

section Checks

variable (env : RadiusEnv)

def validIP (text : String) : Bool :=
  (env.parseIP text).isSome

/-- `Utils::IPtoInt`. -/
def ipToInt (text : String) : UInt32 :=
  ((env.parseIP text).getD []).foldl (fun result byte => (result <<< 8) + byte.toUInt32) 0

/-- Between 0.0.1.1 and 0.0.2.254. -/
def validIndex (text : String) : Bool :=
  0x101 ≤ ipToInt env text && ipToInt env text ≤ 0x2fe

/-- The port is cut to 32 bits on the way. -/
def validPort (port : UInt64) : Bool :=
  0 < port.toUInt32 && port.toUInt32 < 65535

def validServer (server : RADIUSServer) : Bool :=
  !(server.hostname == "" || !validPort server.port || !validIP env server.ip ||
    server.secret == "")

/-- `ValidRadiusServer` of a list. -/
def validServers (servers : List RADIUSServer) : Bool :=
  servers.all (validServer env)

/-- The servers of a `radsec` endpoint. -/
def checkRadsecServer (server : RADIUSEndPointRadsecType) : Except Failure Unit := do
  require (server.certificate != "" && env.validX509Certificate server.certificate)
    (.badRequest .invalidRadsecMainCertificate)
  require (!server.caCerts.isEmpty && server.caCerts.all env.validX509Certificate)
    (.badRequest .invalidRadsecCaCertificate)
  require (server.privateKey != "" && env.verifyPrivateKey server.privateKey)
    (.badRequest .invalidRadsecPrivteKey)
  require (validIP env server.ip) (.badRequest .invalidRadsecIPAddress)
  require (0 < server.port && server.port < 65535) (.badRequest .invalidRadsecPort)
  require (server.secret != "") (.badRequest .invalidRadsecSecret)

/-- The lists of servers that the type of an endpoint needs. -/
def checkServerLists (record : RADIUSEndPoint) : Except Failure Unit :=
  match radiusEndpointType record.type with
  | .radsec | .orion | .globalreach =>
      require (!record.radsecServers.isEmpty) (.badRequest .endpointMustHaveOneTypeOfServers)
  | .generic =>
      require (!record.radiusServers.isEmpty) (.badRequest .endpointMustHaveOneTypeOfServers)
  | .unknown => .error (.badRequest .endpointMustHaveOneTypeOfServers)

def checkServers (record : RADIUSEndPoint) : Except Failure Unit :=
  match radiusEndpointType record.type with
  | .generic =>
      record.radiusServers.forM fun server =>
        require (validServers env server.authentication && validServers env server.accounting &&
          validServers env server.coA) (.badRequest .invalidRadiusServer)
  | .orion =>
      record.radsecServers.forM fun server =>
        require (env.orionAccountExists server.useOpenRoamingAccount)
          (.badRequest .orionAccountMustExist)
  | .globalreach =>
      record.radsecServers.forM fun server =>
        require (env.certExists server.useOpenRoamingAccount)
          (.badRequest .globalReachCertMustExist)
  | .radsec => record.radsecServers.forM (checkRadsecServer env)
  | .unknown => .ok ()

end Checks

/-! ## Requests -/

/-- A member of the body that is assigned when it is there. -/
def assign {β : Type} (convert : Value → Option β) (body : Members) (field : String)
    (value : β) : Except Failure β :=
  match body.lookup field with
  | none => .ok value
  | some member =>
      match convert member with
      | some converted => .ok converted
      | none => .error .thrown

/-- What `CreateObjectInfo` and `UpdateObjectInfo` have in common: they end at an empty name. -/
def assignInfo (poco : Poco) (body : Members) (info : Owprov.ObjectInfo) :
    Except Failure (Owprov.ObjectInfo × Bool) := do
  let name ← assign poco.toString body "name" info.name
  if name = "" then
    return ({ info with name }, false)
  let description ← assign poco.toString body "description" info.description
  return ({ info with name, description }, true)

/-- `CreateObjectInfo`, whose result the handler does not look at: without a name the id stays
that of the body. -/
def createInfo (env : RadiusEnv) (body : Members) (info : Owprov.ObjectInfo) :
    Except Failure Owprov.ObjectInfo := do
  let (assigned, created) ← assignInfo env.poco body info
  return if created then { assigned with id := env.createUUID } else assigned

/-- The record of a body as `DoPost` reads it. -/
def parsedRecord (env : RadiusEnv) (body : Option Members) :
    Except Failure (Members × RADIUSEndPoint) :=
  match body with
  | none => .error (.badRequest .invalidJSONDocument)
  | some members =>
      match RADIUSEndPoint.fromJson env.poco members with
      | none => .error (.badRequest .invalidJSONDocument)
      | some record => .ok (members, record)

def checkRecord (env : RadiusEnv) (endpoints : Table RADIUSEndPoint) (record : RADIUSEndPoint) :
    Except Failure Unit := do
  require (radiusEndpointType record.type != .unknown) (.badRequest .invalidRadiusTypeEndpoint)
  require (knownPoolStrategy record.poolStrategy)
    (.badRequest .invalidRadiusEndpointPoolStrategy)
  require (record.radiusServers.isEmpty || record.radsecServers.isEmpty)
    (.badRequest .endpointMustHaveOneTypeOfServers)
  checkServerLists record
  require (record.index != "" && validIndex env record.index)
    (.badRequest .radiusEndpointIndexInvalid)
  require (endpoints.rows.all fun endpoint => endpoint.index != record.index)
    (.badRequest .radiusEndpointIndexInvalid)
  checkServers env record

/-- `DoPost`: the table after it and the record that is answered. -/
def doPost (env : RadiusEnv) (endpoints : Table RADIUSEndPoint) (id : String)
    (body : Option Members) : Except Failure (Table RADIUSEndPoint × RADIUSEndPoint) := do
  require (id != "") (.badRequest .missingAuthenticationInformation)
  let (members, newRecord) ← parsedRecord env body
  checkRecord env endpoints newRecord
  let info ← createInfo env members newRecord.info
  match endpoints.insert? { newRecord with info } with
  | some created => .ok (created, { newRecord with info })
  | none => .error (.badRequest .recordNotCreated)

/-- `DoPut`: only the NAS identifier, the interval, the name and the description change. -/
def doPut (env : RadiusEnv) (endpoints : Table RADIUSEndPoint) (id : String)
    (body : Option Members) : Except Failure (Table RADIUSEndPoint × RADIUSEndPoint) := do
  require (id != "") (.badRequest .missingAuthenticationInformation)
  let (members, _) ← parsedRecord env body
  match endpoints.get? id with
  | none => .error .notFound
  | some existing => do
      let nasIdentifier ←
        assign env.poco.toString members "NasIdentifier" existing.nasIdentifier
      let accountingInterval ←
        assign env.poco.toUInt64 members "AccountingInterval" existing.accountingInterval
      let (info, _) ← assignInfo env.poco members existing.info
      let modified := { existing with nasIdentifier, accountingInterval, info }
      .ok (endpoints.update modified, modified)

def doDelete (endpoints : Table RADIUSEndPoint) (id : String) :
    Except Failure (Table RADIUSEndPoint) := do
  require (id != "") (.badRequest .missingAuthenticationInformation)
  match endpoints.get? id with
  | none => .error .notFound
  | some _ => .ok (endpoints.delete id)

/-- A request that changes the table; the libraries and the other tables may answer differently
each time. -/
inductive EndpointStep : Table RADIUSEndPoint → Table RADIUSEndPoint → Prop
  | post {endpoints created env id body record} :
      doPost env endpoints id body = .ok (created, record) → EndpointStep endpoints created
  | put {endpoints modified env id body record} :
      doPut env endpoints id body = .ok (modified, record) → EndpointStep endpoints modified
  | delete {endpoints left id} :
      doDelete endpoints id = .ok left → EndpointStep endpoints left

/-- The tables that requests lead to. -/
def Reached : Table RADIUSEndPoint → Prop :=
  Runs.Reachable (· = .empty) EndpointStep

/-! ## What is accepted -/

/-- The lists that the type of an endpoint needs are there; the lists in them may be empty. -/
structure Accepted (endpoint : RADIUSEndPoint) : Prop where
  generic : endpoint.type = "generic" → endpoint.radiusServers ≠ []
  radsec : endpoint.type = "radsec" → endpoint.radsecServers ≠ []
  globalreach : endpoint.type = "globalreach" → endpoint.radsecServers ≠ []
  orion : endpoint.type = "orion" → endpoint.radsecServers ≠ []

theorem accepted_of_checkServerLists {record : RADIUSEndPoint}
    (checked : checkServerLists record = .ok ()) : Accepted record := by
  refine ⟨?_, ?_, ?_, ?_⟩ <;> intro type empty <;>
    simp [checkServerLists, radiusEndpointType, type, empty, require] at checked

theorem accepted_of_checkRecord {env : RadiusEnv} {endpoints : Table RADIUSEndPoint}
    {record : RADIUSEndPoint} (checked : checkRecord env endpoints record = .ok ()) :
    Accepted record := by
  simp only [checkRecord, bind_eq_ok_iff, require_eq_ok_iff] at checked
  obtain ⟨_, _, _, _, _, _, _, lists, _⟩ := checked
  exact accepted_of_checkServerLists lists

/-- A `POST` adds an accepted record. -/
theorem doPost_cases {env : RadiusEnv} {endpoints created : Table RADIUSEndPoint} {id : String}
    {body : Option Members} {record : RADIUSEndPoint}
    (done : doPost env endpoints id body = .ok (created, record)) :
    Accepted record ∧ endpoints.insert? record = some created := by
  simp only [doPost, bind_eq_ok_iff, require_eq_ok_iff] at done
  obtain ⟨_, _, ⟨members, newRecord⟩, _, _, checked, info, _, inserted⟩ := done
  have accepted := accepted_of_checkRecord checked
  cases attempt : endpoints.insert? { newRecord with info } with
  | none =>
      simp only [attempt] at inserted
      cases inserted
  | some table =>
      simp only [attempt] at inserted
      cases inserted
      exact ⟨⟨accepted.generic, accepted.radsec, accepted.globalreach, accepted.orion⟩, attempt⟩

/-- A `PUT` leaves the type, the use of the proxy and the servers as they are. -/
theorem doPut_cases {env : RadiusEnv} {endpoints modified : Table RADIUSEndPoint} {id : String}
    {body : Option Members} {record : RADIUSEndPoint}
    (done : doPut env endpoints id body = .ok (modified, record)) :
    ∃ existing ∈ endpoints.rows, record.type = existing.type ∧
      record.useGWProxy = existing.useGWProxy ∧
      record.radiusServers = existing.radiusServers ∧
      record.radsecServers = existing.radsecServers ∧ modified = endpoints.update record := by
  simp only [doPut, bind_eq_ok_iff, require_eq_ok_iff] at done
  obtain ⟨_, _, ⟨members, _⟩, _, found⟩ := done
  cases isThere : endpoints.get? id with
  | none =>
      simp only [isThere] at found
      cases found
  | some existing =>
      simp only [isThere, bind_eq_ok_iff] at found
      obtain ⟨nasIdentifier, _, interval, _, ⟨info, _⟩, _, written⟩ := found
      cases written
      exact ⟨existing, Table.mem_of_get? isThere, rfl, rfl, rfl, rfl, rfl⟩

theorem doDelete_cases {endpoints left : Table RADIUSEndPoint} {id : String}
    (done : doDelete endpoints id = .ok left) : left = endpoints.delete id := by
  simp only [doDelete, bind_eq_ok_iff, require_eq_ok_iff] at done
  obtain ⟨_, _, found⟩ := done
  cases isThere : endpoints.get? id with
  | none =>
      simp only [isThere] at found
      cases found
  | some existing =>
      simp only [isThere] at found
      cases found
      rfl

theorem EndpointStep.accepted {endpoints next : Table RADIUSEndPoint}
    (isStep : EndpointStep endpoints next) (before : ∀ row ∈ endpoints.rows, Accepted row) :
    ∀ row ∈ next.rows, Accepted row := by
  intro row member
  cases isStep with
  | post done =>
      obtain ⟨accepted, inserted⟩ := doPost_cases done
      rcases (Table.mem_rows_insert? inserted).mp member with old | rfl
      · exact before row old
      · exact accepted
  | put done =>
      obtain ⟨existing, isThere, type, _, radius, radsec, rfl⟩ := doPut_cases done
      have accepted := before existing isThere
      rcases Table.mem_rows_update member with rfl | old
      · exact ⟨by rw [type, radius]; exact accepted.generic,
          by rw [type, radsec]; exact accepted.radsec,
          by rw [type, radsec]; exact accepted.globalreach,
          by rw [type, radsec]; exact accepted.orion⟩
      · exact before row old
  | delete done =>
      rw [doDelete_cases done] at member
      exact before row (Table.mem_rows_delete.mp member).1

theorem Reached.accepted {endpoints : Table RADIUSEndPoint} (reached : Reached endpoints) :
    ∀ row ∈ endpoints.rows, Accepted row := by
  apply Runs.Reachable.invariant reached
  · rintro _ rfl row member
    cases member
  · intro before after holds isStep
    exact isStep.accepted holds

end Owprov.Radius
