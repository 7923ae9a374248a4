import Owprov.Base64
import Owprov.CertChains
import Owprov.RadiusEndpoints

/-!
# RADIUS endpoints in configurations and in the proxy of the gateway

`APConfig::InsertRadiusEndPoint` renders an endpoint by its type, and
`RadiusEndpointUpdater::UpdateEndpoints` converts all of them to pools of the proxy.  An element
of a vector is read without a check of its size: reading one that does not exist has no result.
-/

namespace Owprov.Radius

open JsonValues RowTable Stored

/-! ## Rendering -/

/-- The members that a proxied endpoint adds, with the port and the secret of each server. -/
def setServers (endpoint : RADIUSEndPoint) (serialNumber : String)
    (auth acct coA : ℤ × String) (result : Members) : Members :=
  let server (port : ℤ × String) : Members :=
    Members.set (Members.set (Members.set [] "host" (.str endpoint.index)) "port" (.num port.1))
      "secret" (.str port.2)
  result
    |>.set "nas-identifier"
      (.str (if endpoint.nasIdentifier = "" then serialNumber else endpoint.nasIdentifier))
    |>.set "authentication" (.obj (server auth))
    |>.set "accounting"
      (.obj ((server acct).set "interval" (.num endpoint.accountingInterval.toNat)))
    |>.set "dynamic-authorization" (.obj (server coA))

/-- `GenericRadius::OpenRoaming::Render`, which returns false. -/
def GenericRadius.render (endpoint : RADIUSEndPoint) (serialNumber : String)
    (result : Members) : Option (Bool × Members) :=
  if endpoint.useGWProxy then do
    let servers ← endpoint.radiusServers[0]?
    let auth ← servers.authentication[0]?
    let acct ← servers.accounting[0]?
    let coA ← servers.coA[0]?
    return (false, setServers endpoint serialNumber (auth.port.toNat, auth.secret)
      (acct.port.toNat, acct.secret) (coA.port.toNat, coA.secret) result)
  else
    some (false, result)

/-- What the `Render` of the three kinds of RADSEC endpoints does. -/
def renderRadsec (endpoint : RADIUSEndPoint) (serialNumber : String) (result : Members) :
    Option (Bool × Members) :=
  if endpoint.useGWProxy then do
    let server ← endpoint.radsecServers[0]?
    return (false, setServers endpoint serialNumber (1812, server.secret) (1813, server.secret)
      (3799, server.secret) result)
  else
    some (false, result)

def Orion.render := renderRadsec

def GlobalReach.render := renderRadsec

def Radsec.render := renderRadsec

/-- `APConfig::InsertRadiusEndPoint`. -/
def insertRadiusEndPoint (endpoint : RADIUSEndPoint) (serialNumber : String)
    (result : Members) : Option (Bool × Members) :=
  if endpoint.useGWProxy then
    if endpoint.type = "orion" then Orion.render endpoint serialNumber result
    else if endpoint.type = "globalreach" then GlobalReach.render endpoint serialNumber result
    else if endpoint.type = "radsec" then Radsec.render endpoint serialNumber result
    else if endpoint.type = "generic" then GenericRadius.render endpoint serialNumber result
    else some (false, result.set "radius" (.obj []))
  else
    some (false, result)

/-! ## Pools of the proxy -/

structure RadiusProxyServerEntry where
  name : String
  ip : String
  port : UInt16
  weight : UInt64 := 10
  secret : String := "radsec"
  radsec : Bool
  allowSelfSigned : Bool := false
  radsecPort : UInt16
  radsecSecret : String := "radsec"
  radsecKey : String := ""
  radsecCert : String := ""
  radsecCacerts : List String := []
  ignore : Bool := false
  deriving DecidableEq, Repr

structure RadiusProxyServerConfig where
  strategy : String := "random"
  monitor : Bool := false
  monitorMethod : String := "none"
  servers : List RadiusProxyServerEntry
  deriving DecidableEq, Repr

structure RadiusProxyPool where
  name : String
  description : String
  authConfig : RadiusProxyServerConfig
  acctConfig : RadiusProxyServerConfig
  coaConfig : RadiusProxyServerConfig
  useByDefault : Bool := false
  radsecPoolType : String
  poolProxyIp : String
  radsecKeepAlive : UInt64 := 25
  enabled : Bool := true
  deriving DecidableEq, Repr

structure GooglOrionAccountInfo where
  privateKey : String := ""
  certificate : String := ""
  cacerts : List String := []

structure GLBLRCertificateInfo where
  accountId : String := ""
  certificate : String := ""
  certificateChain : String := ""

structure HostNameServerResult where
  hostname : String
  port : UInt32

/-- The account tables, and the servers that are found for Global Reach. -/
structure ProxyEnv where
  orionAccount : String → Option GooglOrionAccountInfo
  glblrCert : String → Option GLBLRCertificateInfo
  /-- The private key of the certificate request of an account. -/
  glblrAccount : String → Option String
  globalReachServers : List HostNameServerResult

def orionWifiServerAddresses : List HostNameServerResult :=
  [⟨"216.239.32.91", 2083⟩, ⟨"216.239.34.91", 2083⟩]

def encodeText (text : String) : String :=
  base64encode text.toUTF8.data.toList

/-- `UpdateRadiusServerEntry`; the strategy of the endpoint is overwritten. -/
def updateRadiusServerEntry (servers : List RADIUSServer) : RadiusProxyServerConfig where
  servers := servers.map fun server =>
    { radsec := false, name := server.hostname, ip := server.ip, port := server.port.toUInt16,
      radsecPort := server.port.toUInt16 }

/-- The entries of servers that share their certificate, numbered from 1. -/
def openRoamingConfig (radsecCert radsecKey : String) (radsecCacerts : List String)
    (servers : List HostNameServerResult) : RadiusProxyServerConfig where
  servers := servers.mapIdx fun i server =>
    { radsecCert, radsecKey, radsecCacerts, radsec := true, name := s!"Server {i + 1}",
      ip := server.hostname, port := server.port.toUInt16, radsecPort := server.port.toUInt16 }

def radsecConfig (servers : List RADIUSEndPointRadsecType) : RadiusProxyServerConfig where
  servers := servers.map fun server =>
    { radsecCert := encodeText server.certificate, radsecKey := encodeText server.privateKey,
      radsecCacerts := server.caCerts.map encodeText, radsec := true, name := server.hostname,
      ip := server.ip, port := server.port.toUInt16, radsecPort := server.port.toUInt16 }

def poolOf (endpoint : RADIUSEndPoint) (radsecPoolType : String)
    (authConfig acctConfig coaConfig : RadiusProxyServerConfig) : RadiusProxyPool where
  name := endpoint.info.name
  description := endpoint.info.description
  poolProxyIp := endpoint.index
  radsecPoolType := radsecPoolType
  authConfig := authConfig
  acctConfig := acctConfig
  coaConfig := coaConfig

/-- The pool of an endpoint; one whose account is not found has none. -/
def convertEndpoint (env : ProxyEnv) (endpoint : RADIUSEndPoint) :
    Option (Option RadiusProxyPool) :=
  if endpoint.type = "orion" ∧ endpoint.radsecServers ≠ [] then do
    let server ← endpoint.radsecServers[0]?
    return (env.orionAccount server.useOpenRoamingAccount).map fun account =>
      let config := openRoamingConfig (encodeText account.certificate)
        (encodeText account.privateKey) (account.cacerts.map encodeText)
        orionWifiServerAddresses
      poolOf endpoint "orion" config config config
  else if endpoint.type = "globalreach" ∧ endpoint.radsecServers ≠ [] then do
    let server ← endpoint.radsecServers[0]?
    return do
      let certificate ← env.glblrCert server.useOpenRoamingAccount
      let csrPrivateKey ← env.glblrAccount certificate.accountId
      let config := openRoamingConfig (encodeText certificate.certificate)
        (encodeText csrPrivateKey)
        ((parseCertChain certificate.certificateChain).map encodeText) env.globalReachServers
      return poolOf endpoint "globalreach" config config config
  else if endpoint.type = "radsec" ∧ endpoint.radsecServers ≠ [] then
    let config := radsecConfig endpoint.radsecServers
    some (some (poolOf endpoint "radsec" config config config))
  else if endpoint.type = "generic" ∧ endpoint.radiusServers ≠ [] then do
    let servers ← endpoint.radiusServers[0]?
    return some (poolOf endpoint "generic" (updateRadiusServerEntry servers.authentication)
      (updateRadiusServerEntry servers.accounting) (updateRadiusServerEntry servers.coA))
  else
    some none

/-- The pools that `UpdateEndpoints` sends, of the first 500 endpoints. -/
def updateEndpoints (env : ProxyEnv) (endpoints : Table RADIUSEndPoint) :
    Option (List RadiusProxyPool) := do
  let pools ← (endpoints.rows.take 500).mapM (convertEndpoint env)
  return pools.filterMap id

/-! ## Elements that exist -/

/-- Rendering and converting an endpoint reads only elements that exist. -/
def InBounds (endpoint : RADIUSEndPoint) : Prop :=
  (∀ serialNumber result, (insertRadiusEndPoint endpoint serialNumber result).isSome = true) ∧
    ∀ env, (convertEndpoint env endpoint).isSome = true

/-- The first servers of a proxied generic endpoint have a server in each of their lists. -/
def NestedServers (endpoint : RADIUSEndPoint) : Prop :=
  endpoint.type = "generic" → endpoint.useGWProxy = true →
    ∀ servers, endpoint.radiusServers.head? = some servers →
      servers.authentication ≠ [] ∧ servers.accounting ≠ [] ∧ servers.coA ≠ []

theorem exists_first {α : Type} {items : List α} (some : items ≠ []) :
    ∃ first, items[0]? = Option.some first := by
  cases items with
  | nil => exact absurd rfl some
  | cons first rest => exact ⟨first, rfl⟩

/-- Each conversion reads a first element only after it has seen that there is one. -/
theorem convertEndpoint_isSome (env : ProxyEnv) (endpoint : RADIUSEndPoint) :
    (convertEndpoint env endpoint).isSome = true := by
  unfold convertEndpoint
  split
  case isTrue orion =>
    obtain ⟨server, first⟩ := exists_first orion.2
    rw [first]
    rfl
  case isFalse =>
    split
    case isTrue globalreach =>
      obtain ⟨server, first⟩ := exists_first globalreach.2
      rw [first]
      rfl
    case isFalse =>
      split
      case isTrue => rfl
      case isFalse =>
        split
        case isTrue generic =>
          obtain ⟨servers, first⟩ := exists_first generic.2
          rw [first]
          rfl
        case isFalse => rfl

theorem mapM_isSome {α β : Type} {convert : α → Option β}
    (some : ∀ item, (convert item).isSome = true) (items : List α) :
    (items.mapM convert).isSome = true := by
  induction items with
  | nil => rfl
  | cons item items ih =>
      obtain ⟨converted, isConverted⟩ := Option.isSome_iff_exists.mp (some item)
      obtain ⟨rest, isRest⟩ := Option.isSome_iff_exists.mp ih
      rw [List.mapM_cons, isConverted, isRest]
      rfl

theorem updateEndpoints_isSome (env : ProxyEnv) (endpoints : Table RADIUSEndPoint) :
    (updateEndpoints env endpoints).isSome = true := by
  obtain ⟨pools, converted⟩ := Option.isSome_iff_exists.mp
    (mapM_isSome (convertEndpoint_isSome env) (endpoints.rows.take 500))
  unfold updateEndpoints
  rw [converted]
  rfl

section Rendering

variable {endpoint : RADIUSEndPoint} (serialNumber : String) (result : Members)

theorem renderRadsec_isSome (servers : endpoint.radsecServers ≠ []) :
    (renderRadsec endpoint serialNumber result).isSome = true := by
  obtain ⟨server, first⟩ := exists_first servers
  unfold renderRadsec
  rw [first]
  split <;> rfl

theorem nestedServers_of_type_ne (other : endpoint.type ≠ "generic") : NestedServers endpoint :=
  fun generic => absurd generic other

theorem genericRender_isSome_iff (proxied : endpoint.useGWProxy = true)
    {servers : RADIUSEndPointRadiusType} (first : endpoint.radiusServers.head? = some servers) :
    (GenericRadius.render endpoint serialNumber result).isSome = true ↔
      servers.authentication ≠ [] ∧ servers.accounting ≠ [] ∧ servers.coA ≠ [] := by
  unfold GenericRadius.render
  rw [if_pos proxied, ← List.head?_eq_getElem?, first]
  obtain ⟨authentication, accounting, coA, interval⟩ := servers
  cases authentication <;> cases accounting <;> cases coA <;> simp

/-- An accepted endpoint is rendered unless it is a proxied generic one whose first servers lack
a list. -/
theorem insertRadiusEndPoint_isSome_iff (accepted : Accepted endpoint) :
    (insertRadiusEndPoint endpoint serialNumber result).isSome = true ↔
      NestedServers endpoint := by
  unfold insertRadiusEndPoint
  by_cases proxied : endpoint.useGWProxy = true
  · rw [if_pos proxied]
    split
    case isTrue orion =>
      exact iff_of_true (renderRadsec_isSome _ _ (accepted.orion orion))
        (nestedServers_of_type_ne (by rw [orion]; decide))
    case isFalse =>
      split
      case isTrue globalreach =>
        exact iff_of_true (renderRadsec_isSome _ _ (accepted.globalreach globalreach))
          (nestedServers_of_type_ne (by rw [globalreach]; decide))
      case isFalse =>
        split
        case isTrue radsec =>
          exact iff_of_true (renderRadsec_isSome _ _ (accepted.radsec radsec))
            (nestedServers_of_type_ne (by rw [radsec]; decide))
        case isFalse =>
          split
          case isTrue generic =>
            obtain ⟨servers, first⟩ := exists_first (accepted.generic generic)
            rw [← List.head?_eq_getElem?] at first
            rw [genericRender_isSome_iff _ _ proxied first]
            constructor
            · intro filled _ _ other isFirst
              rw [first] at isFirst
              rwa [← Option.some.inj isFirst]
            · intro nested
              exact nested generic proxied servers first
          case isFalse other =>
            exact iff_of_true rfl (nestedServers_of_type_ne other)
  · rw [if_neg proxied]
    exact iff_of_true rfl fun _ isProxied => absurd isProxied proxied

end Rendering

/-- An endpoint that was accepted and may have been changed reads only elements that exist in
its renderings and conversions when its nested lists have servers. -/
theorem inBounds_iff (endpoints : Table RADIUSEndPoint) (reached : Reached endpoints)
    (endpoint : RADIUSEndPoint) (isStored : endpoint ∈ endpoints.rows) :
    InBounds endpoint ↔ NestedServers endpoint := by
  have accepted := reached.accepted endpoint isStored
  constructor
  · intro inBounds
    exact (insertRadiusEndPoint_isSome_iff "" [] accepted).mp (inBounds.1 "" [])
  · intro nested
    exact ⟨fun serialNumber result =>
      (insertRadiusEndPoint_isSome_iff serialNumber result accepted).mpr nested,
        fun env => convertEndpoint_isSome env endpoint⟩

/-! ## Two endpoints -/

/-- Poco as far as it is needed for texts and numbers. -/
def textsAndNumbers : Poco where
  parse _ := none
  condense _ := ""
  stringify _ := ""
  text _ := ""
  unsigned _ := none

def officeEnv : RadiusEnv where
  poco := textsAndNumbers
  parseIP text := [("0.0.1.1", [0, 0, 1, 1]), ("10.0.0.5", [10, 0, 0, 5])].lookup text
  validX509Certificate _ := false
  verifyPrivateKey _ := false
  orionAccountExists _ := false
  certExists _ := false
  createUUID := "office"

/-- A generic endpoint with one entry of servers. -/
def genericBody (servers : Members) : Members :=
  [("Type", .str "generic"), ("PoolStrategy", .str "random"), ("Index", .str "0.0.1.1"),
    ("RadiusServers", .arr [.obj servers]), ("name", .str "office")]

def oneServer : List Value :=
  [.obj [("Hostname", .str "radius"), ("IP", .str "10.0.0.5"), ("Port", .num 1812),
    ("Secret", .str "secret")]]

def genericEndpoint (servers : RADIUSEndPointRadiusType) : RADIUSEndPoint where
  info := { id := "office", name := "office" }
  type := "generic"
  poolStrategy := "random"
  index := "0.0.1.1"
  radiusServers := [servers]

/-- The record of the first request is in the table after it. -/
theorem reached_of_post {body : Members} {endpoint : RADIUSEndPoint}
    (posted : (doPost officeEnv .empty "new" (some body)).toOption.map (·.2) = some endpoint) :
    ∃ endpoints, Reached endpoints ∧ endpoint ∈ endpoints.rows := by
  cases done : doPost officeEnv .empty "new" (some body) with
  | error failure =>
      rw [done] at posted
      cases posted
  | ok created =>
      obtain ⟨endpoints, record⟩ := created
      rw [done] at posted
      obtain rfl : record = endpoint := Option.some.inj posted
      refine ⟨endpoints, .step (.start rfl) (.post done), ?_⟩
      exact (Table.mem_rows_insert? (doPost_cases done).2).mpr (.inr rfl)

theorem filledEndpoint_inBounds : ∃ endpoint, InBounds endpoint ∧ endpoint.type = "generic" := by
  have posted : (doPost officeEnv .empty "new" (some (genericBody [("Authentication",
      .arr oneServer), ("Accounting", .arr oneServer), ("CoA", .arr oneServer)]))).toOption.map
        (·.2) = some (genericEndpoint
          { authentication := [⟨"radius", "10.0.0.5", 1812, "secret"⟩]
            accounting := [⟨"radius", "10.0.0.5", 1812, "secret"⟩]
            coA := [⟨"radius", "10.0.0.5", 1812, "secret"⟩] }) := by
    decide
  obtain ⟨endpoints, reached, isStored⟩ := reached_of_post posted
  refine ⟨_, (inBounds_iff endpoints reached _ isStored).mpr ?_, rfl⟩
  rintro _ _ servers first
  cases first
  exact ⟨nofun, nofun, nofun⟩

/-- An entry without servers is accepted, and cannot be rendered. -/
theorem emptyEntry_not_inBounds :
    ¬∀ endpoints, Reached endpoints → ∀ endpoint ∈ endpoints.rows, InBounds endpoint := by
  intro all
  have posted : (doPost officeEnv .empty "new" (some (genericBody []))).toOption.map (·.2) =
      some (genericEndpoint {}) := by decide
  obtain ⟨endpoints, reached, isStored⟩ := reached_of_post posted
  have rendered := (all endpoints reached _ isStored).1 "" []
  exact absurd rendered (by decide)

end Owprov.Radius
