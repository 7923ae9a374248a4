import Owprov.RadiusRendering

/-!
# OpenRoaming accounts

An `orion` endpoint uses an Orion account, a `globalreach` endpoint a certificate that Global Reach
issued for one of its accounts.  The accounts, the certificates and the endpoints are deleted by
requests of their own, and the pools of the proxy are made from what is there.
-/

namespace Owprov.Radius

open JsonValues RowTable Runs Stored

/-! ## Records -/

structure StoredOrionAccount extends GooglOrionAccountInfo where
  info : Owprov.ObjectInfo := {}

structure GLBLRAccountInfo where
  info : Owprov.ObjectInfo := {}
  privateKey : String := ""
  country : String := ""
  province : String := ""
  city : String := ""
  organization : String := ""
  commonName : String := ""
  csr : String := ""
  csrPrivateKey : String := ""
  csrPublicKey : String := ""
  globalReachAcctId : String := ""

structure StoredCertificate extends GLBLRCertificateInfo where
  id : String := ""
  name : String := ""
  csr : String := ""
  certificateId : String := ""
  expiresAt : UInt64 := 0

instance : Keyed StoredOrionAccount String where key account := account.info.id
instance : Keyed GLBLRAccountInfo String where key account := account.info.id
instance : Keyed StoredCertificate String where key certificate := certificate.id

section FromJson

variable (poco : Poco) (obj : Members)

def StoredOrionAccount.fromJson : Option StoredOrionAccount :=
  readAll [
    readString poco obj "privateKey" fun value r => { r with privateKey := value },
    readString poco obj "certificate" fun value r => { r with certificate := value },
    readStrings poco obj "cacerts" fun value r => { r with cacerts := value }]
    { info := readInfo poco obj }

def GLBLRAccountInfo.fromJson : Option GLBLRAccountInfo :=
  readAll [
    readString poco obj "privateKey" fun value r => { r with privateKey := value },
    readString poco obj "country" fun value r => { r with country := value },
    readString poco obj "province" fun value r => { r with province := value },
    readString poco obj "city" fun value r => { r with city := value },
    readString poco obj "organization" fun value r => { r with organization := value },
    readString poco obj "commonName" fun value r => { r with commonName := value },
    readString poco obj "CSR" fun value r => { r with csr := value },
    readString poco obj "CSRPrivateKey" fun value r => { r with csrPrivateKey := value },
    readString poco obj "CSRPublicKey" fun value r => { r with csrPublicKey := value },
    readString poco obj "GlobalReachAcctId" fun value r => { r with globalReachAcctId := value }]
    { info := readInfo poco obj }

def StoredCertificate.fromJson : Option StoredCertificate :=
  readAll [
    readString poco obj "id" fun value r => { r with id := value },
    readString poco obj "name" fun value r => { r with name := value },
    readString poco obj "accountId" fun value r => { r with accountId := value },
    readString poco obj "csr" fun value r => { r with csr := value },
    readString poco obj "certificate" fun value r => { r with certificate := value },
    readString poco obj "certificateChain" fun value r => { r with certificateChain := value },
    readString poco obj "certificateId" fun value r => { r with certificateId := value },
    readUInt64 poco obj "expiresAt" fun value r => { r with expiresAt := value }] {}

end FromJson

/-! ## Requests -/

/-- How a request ends that is not carried out. -/
inductive RoamingFailure where
  | failure (failure : Failure)
  | notAValidECKey
  | invalidGlobalReachAccount
  | cannotCreateCSR
  deriving DecidableEq, Repr

/-- `Utils::CSRCreationResults`. -/
structure CSRCreationResults where
  csr : String
  publicKey : String
  privateKey : String

/-- What Global Reach answers for a certificate. -/
structure IssuedCertificate where
  certificate : Option String := none
  certificateChain : Option String := none
  certificateId : Option String := none
  expiresAt : Option UInt64 := none

/-- The libraries, Global Reach, and what the database makes of a deletion by a clause. -/
structure RoamingEnv where
  radius : RadiusEnv
  verifyECKey : String → Bool
  verifyAccount : String → String → Bool
  /-- For a country, a common name, a province, a city and an organization. -/
  createX509CSR : String → String → String → String → String → Option CSRCreationResults
  createRADSECCertificate : String → String → String → Option IssuedCertificate
  deleteRecords : String → Table StoredCertificate → Table StoredCertificate

/-- The certificates of an account. -/
def accountClause (account : String) : String :=
  s!" accountId=\x27{account}\x27 "

def certificateClause (account id : String) : String :=
  s!" accountId=\x27{account}\x27 and id=\x27{id}\x27 "

structure RoamingStore where
  orionAccounts : Table StoredOrionAccount := .empty
  glblrAccounts : Table GLBLRAccountInfo := .empty
  glblrCerts : Table StoredCertificate := .empty
  endpoints : Table RADIUSEndPoint := .empty

def check (holds : Bool) (failure : RoamingFailure) : Except RoamingFailure Unit :=
  if holds then .ok () else .error failure

def badRequest (error : Errors) : RoamingFailure :=
  .failure (.badRequest error)

/-- What a step shared with the other handlers gives. -/
def lift {α : Type} (result : Except Failure α) : Except RoamingFailure α :=
  result.mapError .failure

def orFail {α : Type} (result : Option α) (failure : RoamingFailure) : Except RoamingFailure α :=
  match result with
  | some value => .ok value
  | none => .error failure

section Handlers

variable (env : RoamingEnv) (s : RoamingStore)

/-- The members of a body and its record. -/
def parsedBody {α : Type} (fromJson : Poco → Members → Option α) (body : Option Members) :
    Except RoamingFailure (Members × α) := do
  let members ← orFail body (badRequest .invalidJSONDocument)
  let record ← orFail (fromJson env.radius.poco members) (badRequest .invalidJSONDocument)
  return (members, record)

def orionDoPost (id : String) (body : Option Members) : Except RoamingFailure RoamingStore := do
  check (id != "") (badRequest .missingOrInvalidParameters)
  let (members, newObject) ← parsedBody env StoredOrionAccount.fromJson body
  check (newObject.privateKey != "" && newObject.certificate != "" && newObject.cacerts != [])
    (badRequest .missingOrInvalidParameters)
  check (env.verifyECKey newObject.privateKey &&
    env.radius.validX509Certificate newObject.certificate &&
    newObject.cacerts.all env.radius.validX509Certificate) .notAValidECKey
  let info ← lift (createInfo env.radius members newObject.info)
  let created ← orFail (s.orionAccounts.insert? { newObject with info })
    (badRequest .recordNotCreated)
  return { s with orionAccounts := created }

/-- Only the name and the description change. -/
def orionDoPut (id : String) (body : Option Members) : Except RoamingFailure RoamingStore := do
  check (id != "") (badRequest .missingOrInvalidParameters)
  let (members, _) ← parsedBody env StoredOrionAccount.fromJson body
  let existing ← orFail (s.orionAccounts.get? id) (.failure .notFound)
  let (info, named) ← lift (assignInfo env.radius.poco members existing.info)
  check named (badRequest .invalidJSONDocument)
  return { s with orionAccounts := s.orionAccounts.update { existing with info } }

def orionDoDelete (id : String) : Except RoamingFailure RoamingStore := do
  check (id != "") (badRequest .missingOrInvalidParameters)
  let _ ← orFail (s.orionAccounts.get? id) (.failure .notFound)
  return { s with orionAccounts := s.orionAccounts.delete id }

def glblrAccountDoPost (id : String) (body : Option Members) :
    Except RoamingFailure RoamingStore := do
  check (id != "") (badRequest .missingOrInvalidParameters)
  let (members, newObject) ← parsedBody env GLBLRAccountInfo.fromJson body
  check (newObject.privateKey != "" && newObject.globalReachAcctId != "")
    (badRequest .missingOrInvalidParameters)
  check (env.verifyECKey newObject.privateKey) .notAValidECKey
  check (env.verifyAccount newObject.globalReachAcctId newObject.privateKey)
    .invalidGlobalReachAccount
  check (newObject.commonName != "" && newObject.organization != "" && newObject.city != "" &&
    newObject.province != "" && newObject.country != "") (badRequest .missingOrInvalidParameters)
  let request ← orFail (env.createX509CSR newObject.country newObject.commonName
    newObject.province newObject.city newObject.organization) .cannotCreateCSR
  let info ← lift (createInfo env.radius members newObject.info)
  let created ← orFail
    (s.glblrAccounts.insert?
      { newObject with
        csr := request.csr
        csrPublicKey := request.publicKey
        csrPrivateKey := request.privateKey
        info })
    (badRequest .recordNotCreated)
  return { s with glblrAccounts := created }

/-- The handler asks for a binding `account`, which its path does not have. -/
def glblrAccountDoPut (bindings : List (String × String)) (body : Option Members) :
    Except RoamingFailure RoamingStore := do
  let account := (bindings.lookup "account").getD ""
  check (account != "") (badRequest .missingOrInvalidParameters)
  let (members, _) ← parsedBody env GLBLRAccountInfo.fromJson body
  let existing ← orFail (s.glblrAccounts.get? account) (.failure .notFound)
  let (info, named) ← lift (assignInfo env.radius.poco members existing.info)
  check named (badRequest .invalidJSONDocument)
  return { s with glblrAccounts := s.glblrAccounts.update { existing with info } }

/-- The certificates of an account are deleted before it. -/
def glblrAccountDoDelete (id : String) : Except RoamingFailure RoamingStore := do
  check (id != "") (badRequest .missingOrInvalidParameters)
  let _ ← orFail (s.glblrAccounts.get? id) (.failure .notFound)
  return { s with
    glblrCerts := env.deleteRecords (accountClause id) s.glblrCerts
    glblrAccounts := s.glblrAccounts.delete id }

/-- A certificate takes over what Global Reach answers. -/
def StoredCertificate.issue (certificate : StoredCertificate) (issued : IssuedCertificate) :
    StoredCertificate :=
  { certificate with
    certificate := issued.certificate.getD certificate.certificate
    certificateChain := issued.certificateChain.getD certificate.certificateChain
    certificateId := issued.certificateId.getD certificate.certificateId
    expiresAt := issued.expiresAt.getD certificate.expiresAt }

def certDoPost (account id : String) (body : Option Members) :
    Except RoamingFailure RoamingStore := do
  check (account != "" && id != "") (badRequest .missingOrInvalidParameters)
  let (_, newObject) ← parsedBody env StoredCertificate.fromJson body
  check (newObject.name != "") (badRequest .missingOrInvalidParameters)
  let accountInfo ← orFail (s.glblrAccounts.get? account) .invalidGlobalReachAccount
  let issued ← orFail (env.createRADSECCertificate accountInfo.globalReachAcctId newObject.name
    accountInfo.csr) (badRequest .recordNotCreated)
  -- whether the record was created is not looked at
  let certificate :=
    { newObject.issue issued with
      id := env.radius.createUUID, accountId := account, csr := accountInfo.csr }
  return { s with glblrCerts := (s.glblrCerts.insert? certificate).getD s.glblrCerts }

/-- The certificate need not be one of the account. -/
def certDoPut (account id : String) (updateCertificate : Bool) :
    Except RoamingFailure RoamingStore := do
  check (account != "" && id != "" && updateCertificate) (badRequest .missingOrInvalidParameters)
  let accountInfo ← orFail (s.glblrAccounts.get? account) .invalidGlobalReachAccount
  let existing ← orFail (s.glblrCerts.get? id) (.failure .notFound)
  let issued ← orFail (env.createRADSECCertificate accountInfo.globalReachAcctId existing.name
    accountInfo.csr) (badRequest .recordNotUpdated)
  return { s with glblrCerts := s.glblrCerts.update (existing.issue issued) }

def certDoDelete (account id : String) : Except RoamingFailure RoamingStore := do
  check (account != "" && id != "") (badRequest .missingOrInvalidParameters)
  let _ ← orFail (s.glblrAccounts.get? account) (.failure .notFound)
  return { s with
    glblrCerts :=
      env.deleteRecords (certificateClause account id) s.glblrCerts }

/-- The checks of an endpoint look into the tables of accounts. -/
def RoamingEnv.endpointEnv : RadiusEnv :=
  { env.radius with
    orionAccountExists := fun id => (s.orionAccounts.get? id).isSome
    certExists := fun id => (s.glblrCerts.get? id).isSome }

end Handlers

/-- The requests that may change the tables. -/
inductive RoamingRequest where
  | orionPost (id : String) (body : Option Members)
  | orionPut (id : String) (body : Option Members)
  | orionDelete (id : String)
  | accountPost (id : String) (body : Option Members)
  | accountPut (id : String) (body : Option Members)
  | accountDelete (id : String)
  | certPost (account id : String) (body : Option Members)
  | certPut (account id : String) (updateCertificate : Bool)
  | certDelete (account id : String)
  | endpointPost (id : String) (body : Option Members)
  | endpointPut (id : String) (body : Option Members)
  | endpointDelete (id : String)

def RoamingRequest.run (env : RoamingEnv) (s : RoamingStore) :
    RoamingRequest → Except RoamingFailure RoamingStore
  | orionPost id body => orionDoPost env s id body
  | orionPut id body => orionDoPut env s id body
  | orionDelete id => orionDoDelete s id
  | accountPost id body => glblrAccountDoPost env s id body
  | accountPut id body => glblrAccountDoPut env s [("id", id)] body
  | accountDelete id => glblrAccountDoDelete env s id
  | certPost account id body => certDoPost env s account id body
  | certPut account id updateCertificate => certDoPut env s account id updateCertificate
  | certDelete account id => certDoDelete env s account id
  | endpointPost id body => do
      let (endpoints, _) ← lift (doPost (env.endpointEnv s) s.endpoints id body)
      return { s with endpoints }
  | endpointPut id body => do
      let (endpoints, _) ← lift (doPut env.radius s.endpoints id body)
      return { s with endpoints }
  | endpointDelete id => do
      let endpoints ← lift (doDelete s.endpoints id)
      return { s with endpoints }

/-- The tables as the proxy reads them. -/
def RoamingStore.proxyEnv (s : RoamingStore) (globalReachServers : List HostNameServerResult) :
    ProxyEnv where
  orionAccount id := (s.orionAccounts.get? id).map StoredOrionAccount.toGooglOrionAccountInfo
  glblrCert id := (s.glblrCerts.get? id).map StoredCertificate.toGLBLRCertificateInfo
  glblrAccount id := (s.glblrAccounts.get? id).map GLBLRAccountInfo.csrPrivateKey
  globalReachServers := globalReachServers

/-! ## What a request changes -/

theorem bind_ok_iff {α β : Type} {first : Except RoamingFailure α}
    {next : α → Except RoamingFailure β} {result : β} :
    (first >>= next) = .ok result ↔ ∃ a, first = .ok a ∧ next a = .ok result := by
  cases first with
  | error failure => simp [bind, Except.bind]
  | ok a => simp [bind, Except.bind]

theorem check_ok_iff {holds : Bool} {failure : RoamingFailure} {done : Unit} :
    check holds failure = .ok done ↔ holds = true := by
  cases holds <;> simp [check]

theorem orFail_ok_iff {α : Type} {result : Option α} {failure : RoamingFailure} {value : α} :
    orFail result failure = .ok value ↔ result = some value := by
  cases result <;> simp [orFail]

theorem lift_ok_iff {α : Type} {result : Except Failure α} {value : α} :
    lift result = .ok value ↔ result = .ok value := by
  cases result <;> simp [lift, Except.mapError]

/-- The account or the certificate that the pool of an endpoint is made from, which is that of
its first server. -/
def AccountThere (s : RoamingStore) (endpoint : RADIUSEndPoint) : Prop :=
  ∀ server, endpoint.radsecServers.head? = some server →
    (endpoint.type = "orion" → (s.orionAccounts.get? server.useOpenRoamingAccount).isSome) ∧
      (endpoint.type = "globalreach" → (s.glblrCerts.get? server.useOpenRoamingAccount).isSome)

/-- An endpoint as `POST` lets it in. -/
structure LetIn (s : RoamingStore) (endpoint : RADIUSEndPoint) : Prop where
  accepted : Accepted endpoint
  known : radiusEndpointType endpoint.type ≠ .unknown
  fresh : endpoint.index ∉ s.endpoints.rows.map RADIUSEndPoint.index
  account : AccountThere s endpoint

/-- What an endpoint is used with. -/
def RADIUSEndPoint.use (endpoint : RADIUSEndPoint) :
    String × String × List RADIUSEndPointRadiusType × List RADIUSEndPointRadsecType :=
  (endpoint.index, endpoint.type, endpoint.radiusServers, endpoint.radsecServers)

/-- What a request that is carried out does to the tables. -/
inductive Change (env : RoamingEnv) (s : RoamingStore) : RoamingRequest → RoamingStore → Prop
  | orionPost {id body account created} :
      s.orionAccounts.insert? account = some created →
        Change env s (.orionPost id body) { s with orionAccounts := created }
  | orionPut {id body account} :
      Change env s (.orionPut id body)
        { s with orionAccounts := s.orionAccounts.update account }
  | orionDelete {id} :
      Change env s (.orionDelete id) { s with orionAccounts := s.orionAccounts.delete id }
  | accountPost {id body account created} :
      s.glblrAccounts.insert? account = some created →
        Change env s (.accountPost id body) { s with glblrAccounts := created }
  | accountDelete {id} :
      Change env s (.accountDelete id)
        { s with
          glblrCerts := env.deleteRecords (accountClause id) s.glblrCerts
          glblrAccounts := s.glblrAccounts.delete id }
  | certPost {account id body certificate} :
      certificate.accountId = account → (s.glblrAccounts.get? account).isSome →
        Change env s (.certPost account id body)
          { s with glblrCerts := (s.glblrCerts.insert? certificate).getD s.glblrCerts }
  | certPut {account id updateCertificate existing issued} :
      s.glblrCerts.get? id = some existing →
        Change env s (.certPut account id updateCertificate)
          { s with glblrCerts := s.glblrCerts.update (existing.issue issued) }
  | certDelete {account id} :
      Change env s (.certDelete account id)
        { s with
          glblrCerts :=
            env.deleteRecords (certificateClause account id) s.glblrCerts }
  | endpointPost {id body endpoint created} :
      LetIn s endpoint → s.endpoints.insert? endpoint = some created →
        Change env s (.endpointPost id body) { s with endpoints := created }
  | endpointPut {id body existing modified} :
      s.endpoints.get? (key modified) = some existing → modified.use = existing.use →
        Change env s (.endpointPut id body)
          { s with endpoints := s.endpoints.update modified }
  | endpointDelete {id} :
      Change env s (.endpointDelete id) { s with endpoints := s.endpoints.delete id }

section Changes

variable {env : RoamingEnv} {s t : RoamingStore}

theorem forM_require_ok {α : Type} {holds : α → Bool} {failure : Failure} {items : List α}
    (checked : (items.forM fun item => require (holds item) failure) = .ok ()) :
    ∀ item ∈ items, holds item = true := by
  induction items with
  | nil => simp
  | cons first rest ih =>
      simp only [List.forM, bind_eq_ok_iff] at checked
      obtain ⟨_, head, tail⟩ := checked
      intro item member
      rcases List.mem_cons.mp member with rfl | later
      · exact require_eq_ok_iff.mp head
      · exact ih tail item later

theorem accountThere_of_checkServers {record : RADIUSEndPoint}
    (checked : checkServers (env.endpointEnv s) record = .ok ()) : AccountThere s record := by
  intro server first
  have member : server ∈ record.radsecServers := List.mem_of_head? first
  constructor
  · intro orion
    have known : radiusEndpointType record.type = .orion := by rw [orion]; rfl
    rw [checkServers, known] at checked
    exact forM_require_ok checked server member
  · intro globalreach
    have known : radiusEndpointType record.type = .globalreach := by rw [globalreach]; rfl
    rw [checkServers, known] at checked
    exact forM_require_ok checked server member

theorem letIn_of_doPost {id : String} {body : Option Members}
    {created : Table RADIUSEndPoint} {record : RADIUSEndPoint}
    (done : doPost (env.endpointEnv s) s.endpoints id body = .ok (created, record)) :
    LetIn s record := by
  have accepted := (doPost_cases done).1
  simp only [doPost, bind_eq_ok_iff, require_eq_ok_iff] at done
  obtain ⟨_, _, ⟨members, newRecord⟩, _, _, checked, info, _, inserted⟩ := done
  simp only [checkRecord, bind_eq_ok_iff, require_eq_ok_iff] at checked
  obtain ⟨_, known, _, _, _, _, _, _, _, _, _, fresh, servers⟩ := checked
  obtain rfl : { newRecord with info } = record := by
    cases attempt : s.endpoints.insert? { newRecord with info } with
    | none =>
        simp only [attempt] at inserted
        cases inserted
    | some table =>
        simp only [attempt] at inserted
        cases inserted
        rfl
  refine ⟨accepted, by simpa using known, ?_, accountThere_of_checkServers servers⟩
  intro taken
  obtain ⟨endpoint, member, same⟩ := List.mem_map.mp taken
  have differ := List.all_eq_true.mp fresh endpoint member
  simp only [bne_iff_ne] at differ
  exact differ same

theorem id_of_assignInfo {poco : Poco} {body : Members} {info assigned : Owprov.ObjectInfo}
    {named : Bool} (done : assignInfo poco body info = .ok (assigned, named)) :
    assigned.id = info.id := by
  simp only [assignInfo, bind_eq_ok_iff] at done
  obtain ⟨name, _, done⟩ := done
  split at done
  · cases done
    rfl
  · obtain ⟨description, _, done⟩ := bind_eq_ok_iff.mp done
    cases done
    rfl

theorem use_of_doPut {radius : RadiusEnv} {endpoints modified : Table RADIUSEndPoint}
    {id : String} {body : Option Members} {record : RADIUSEndPoint}
    (done : doPut radius endpoints id body = .ok (modified, record)) :
    ∃ existing, endpoints.get? (key record) = some existing ∧ record.use = existing.use ∧
      modified = endpoints.update record := by
  simp only [doPut, bind_eq_ok_iff, require_eq_ok_iff] at done
  obtain ⟨_, _, ⟨members, _⟩, _, found⟩ := done
  cases isThere : endpoints.get? id with
  | none =>
      simp only [isThere] at found
      cases found
  | some existing =>
      simp only [isThere, bind_eq_ok_iff] at found
      obtain ⟨nasIdentifier, _, interval, _, ⟨info, named⟩, assigned, written⟩ := found
      cases written
      refine ⟨existing, ?_, rfl, rfl⟩
      show endpoints.get? info.id = some existing
      rw [id_of_assignInfo assigned]
      exact Table.get?_key_of_mem (Table.mem_of_get? isThere)

/-- The table that each request changes, and how. -/
theorem change_of_run {request : RoamingRequest} (done : request.run env s = .ok t) :
    Change env s request t := by
  cases request with
  | orionPost id body =>
      simp only [RoamingRequest.run, orionDoPost, bind_ok_iff, orFail_ok_iff] at done
      obtain ⟨_, _, _, _, _, _, _, _, info, _, created, inserted, written⟩ := done
      cases written
      exact .orionPost inserted
  | orionPut id body =>
      simp only [RoamingRequest.run, orionDoPut, bind_ok_iff, orFail_ok_iff] at done
      obtain ⟨_, _, _, _, existing, _, _, _, _, _, written⟩ := done
      cases written
      exact .orionPut
  | orionDelete id =>
      simp only [RoamingRequest.run, orionDoDelete, bind_ok_iff] at done
      obtain ⟨_, _, _, _, written⟩ := done
      cases written
      exact .orionDelete
  | accountPost id body =>
      simp only [RoamingRequest.run, glblrAccountDoPost, bind_ok_iff, orFail_ok_iff] at done
      obtain ⟨_, _, _, _, _, _, _, _, _, _, _, _, done⟩ := done
      obtain ⟨csr, _, info, _, created, inserted, written⟩ := done
      cases written
      exact .accountPost inserted
  | accountPut id body =>
      simp only [RoamingRequest.run, glblrAccountDoPut, bind_ok_iff, check_ok_iff] at done
      obtain ⟨_, named, _⟩ := done
      simp at named
  | accountDelete id =>
      simp only [RoamingRequest.run, glblrAccountDoDelete, bind_ok_iff] at done
      obtain ⟨_, _, _, _, written⟩ := done
      cases written
      exact .accountDelete
  | certPost account id body =>
      simp only [RoamingRequest.run, certDoPost, bind_ok_iff, orFail_ok_iff] at done
      obtain ⟨_, _, _, _, _, _, accountInfo, found, issued, _, written⟩ := done
      cases written
      exact .certPost rfl (by rw [found]; rfl)
  | certPut account id updateCertificate =>
      simp only [RoamingRequest.run, certDoPut, bind_ok_iff, orFail_ok_iff] at done
      obtain ⟨_, _, _, _, existing, found, issued, _, written⟩ := done
      cases written
      exact .certPut found
  | certDelete account id =>
      simp only [RoamingRequest.run, certDoDelete, bind_ok_iff] at done
      obtain ⟨_, _, _, _, written⟩ := done
      cases written
      exact .certDelete
  | endpointPost id body =>
      simp only [RoamingRequest.run, bind_ok_iff, lift_ok_iff] at done
      obtain ⟨⟨created, record⟩, posted, written⟩ := done
      cases written
      exact .endpointPost (letIn_of_doPost posted) (doPost_cases posted).2
  | endpointPut id body =>
      simp only [RoamingRequest.run, bind_ok_iff, lift_ok_iff] at done
      obtain ⟨⟨modified, record⟩, changed, written⟩ := done
      cases written
      obtain ⟨existing, found, same, rfl⟩ := use_of_doPut changed
      exact .endpointPut found same
  | endpointDelete id =>
      simp only [RoamingRequest.run, bind_ok_iff, lift_ok_iff] at done
      obtain ⟨left, deleted, written⟩ := done
      cases written
      rw [doDelete_cases deleted]
      exact .endpointDelete

end Changes

/-! ## Runs -/

/-- The apostrophe that ends a text of the database. -/
def quote : Char := Char.ofNat 0x27

/-- An id that stands for itself between apostrophes. -/
def Plain (id : String) : Prop :=
  quote ∉ id.toList

instance : DecidablePred Plain := fun _ => inferInstanceAs (Decidable (¬_))

/-- What the database documents of the deletions: plain ids are compared, and rows only go. -/
structure DeletesByClause
    (delete : String → Table StoredCertificate → Table StoredCertificate) : Prop where
  ofAccount : ∀ id certs, Plain id →
    delete (accountClause id) certs =
      certs.deleteWhere fun certificate => certificate.accountId == id
  ofCertificate : ∀ account id certs, Plain account → Plain id →
    delete (certificateClause account id) certs =
      certs.deleteWhere fun certificate => certificate.accountId == account && certificate.id == id
  onlyDeletes : ∀ clause certs, (delete clause certs).rows ⊆ certs.rows

/-- The accounts that are deleted have plain ids. -/
def DeletesPlain : RoamingRequest → Prop
  | .accountDelete id => Plain id
  | _ => True

/-- Requests from then on; the libraries and Global Reach may answer differently each time. -/
inductive RoamingStep (admits : RoamingStore → RoamingRequest → Prop) :
    RoamingStore → RoamingStore → Prop
  | request {env s t} (request : RoamingRequest) :
      DeletesByClause env.deleteRecords → DeletesPlain request → admits s request →
        request.run env s = .ok t → RoamingStep admits s t

/-- The tables that requests lead to. -/
def RoamingReached (admits : RoamingStore → RoamingRequest → Prop) : RoamingStore → Prop :=
  Runs.Reachable (· = {}) (RoamingStep admits)

/-- What holds of the tables whatever is requested. -/
structure RoamingSound (s : RoamingStore) : Prop where
  owned : ∀ certificate ∈ s.glblrCerts.rows,
    (s.glblrAccounts.get? certificate.accountId).isSome
  accepted : ∀ endpoint ∈ s.endpoints.rows,
    Accepted endpoint ∧ radiusEndpointType endpoint.type ≠ .unknown
  indexes : (s.endpoints.rows.map RADIUSEndPoint.index).Nodup

section Steps

variable {env : RoamingEnv} {s t : RoamingStore}

theorem get?_isSome_of_insert? {α : Type} [Keyed α String] {table created : Table α} {row : α}
    (inserted : table.insert? row = some created) {id : String} (isThere : (table.get? id).isSome) :
    (created.get? id).isSome := by
  rw [Table.get?_insert? inserted]
  split
  · rfl
  · exact isThere

theorem get?_update_isSome {α : Type} [Keyed α String] (table : Table α) (new : α)
    (id : String) : ((table.update new).get? id).isSome = (table.get? id).isSome := by
  rw [Table.get?_update]
  split <;> simp

theorem mem_insert?_getD {table : Table StoredCertificate} {new certificate : StoredCertificate}
    (member : certificate ∈ ((table.insert? new).getD table).rows) :
    certificate ∈ table.rows ∨ certificate = new := by
  cases inserted : table.insert? new with
  | none =>
      rw [inserted] at member
      exact .inl member
  | some created =>
      rw [inserted] at member
      exact (Table.mem_rows_insert? inserted).mp member

/-- The certificates of an account go before the account goes. -/
theorem owned_of_change {request : RoamingRequest} (database : DeletesByClause env.deleteRecords)
    (plain : DeletesPlain request) (change : Change env s request t)
    (before : ∀ certificate ∈ s.glblrCerts.rows,
      (s.glblrAccounts.get? certificate.accountId).isSome) :
    ∀ certificate ∈ t.glblrCerts.rows, (t.glblrAccounts.get? certificate.accountId).isSome := by
  intro certificate member
  cases change with
  | orionPost | orionPut | orionDelete | endpointPost | endpointPut | endpointDelete =>
      exact before certificate member
  | accountPost inserted =>
      exact get?_isSome_of_insert? inserted (before certificate member)
  | @accountDelete id =>
      simp only [database.ofAccount id _ plain] at member
      obtain ⟨old, other⟩ := List.mem_filter.mp member
      have differ : certificate.accountId ≠ id := by simpa using other
      show ((s.glblrAccounts.delete id).get? certificate.accountId).isSome
      rw [Table.get?_delete, if_neg differ]
      exact before certificate old
  | certPost ofAccount isThere =>
      rcases mem_insert?_getD member with old | rfl
      · exact before certificate old
      · rw [ofAccount]
        exact isThere
  | certPut found =>
      rcases Table.mem_rows_update member with rfl | old
      · have ownedBefore := before _ (Table.mem_of_get? found)
        exact ownedBefore
      · exact before certificate old
  | certDelete => exact before certificate (database.onlyDeletes _ _ member)

theorem accepted_of_change {request : RoamingRequest} (change : Change env s request t)
    (before : ∀ endpoint ∈ s.endpoints.rows,
      Accepted endpoint ∧ radiusEndpointType endpoint.type ≠ .unknown) :
    ∀ endpoint ∈ t.endpoints.rows,
      Accepted endpoint ∧ radiusEndpointType endpoint.type ≠ .unknown := by
  intro endpoint member
  cases change with
  | orionPost | orionPut | orionDelete | accountPost | accountDelete | certPost | certPut
  | certDelete => exact before endpoint member
  | endpointPost letIn inserted =>
      rcases (Table.mem_rows_insert? inserted).mp member with old | rfl
      · exact before endpoint old
      · exact ⟨letIn.accepted, letIn.known⟩
  | endpointPut found same =>
      rcases Table.mem_rows_update member with rfl | old
      · obtain ⟨accepted, known⟩ := before _ (Table.mem_of_get? found)
        simp only [RADIUSEndPoint.use, Prod.mk.injEq] at same
        obtain ⟨_, type, radius, radsec⟩ := same
        refine ⟨⟨?_, ?_, ?_, ?_⟩, by rw [type]; exact known⟩
        · rw [type, radius]
          exact accepted.generic
        · rw [type, radsec]
          exact accepted.radsec
        · rw [type, radsec]
          exact accepted.globalreach
        · rw [type, radsec]
          exact accepted.orion
      · exact before endpoint old
  | endpointDelete => exact before endpoint (Table.mem_rows_delete.mp member).1

theorem indexes_of_change {request : RoamingRequest} (change : Change env s request t)
    (before : (s.endpoints.rows.map RADIUSEndPoint.index).Nodup) :
    (t.endpoints.rows.map RADIUSEndPoint.index).Nodup := by
  cases change with
  | orionPost | orionPut | orionDelete | accountPost | accountDelete | certPost | certPut
  | certDelete => exact before
  | endpointPost letIn inserted =>
      show List.Nodup (List.map _ _)
      rw [Table.map_rows_insert? inserted, List.nodup_append]
      refine ⟨before, List.nodup_singleton _, ?_⟩
      rintro index member _ added rfl
      rw [List.mem_singleton] at added
      exact letIn.fresh (added ▸ member)
  | endpointPut found same =>
      simp only [RADIUSEndPoint.use, Prod.mk.injEq] at same
      rw [Table.map_rows_update]
      · exact before
      · intro row isThere
        rw [found] at isThere
        cases isThere
        exact same.1.symm
  | endpointDelete => exact before.sublist (List.filter_sublist.map _)

theorem RoamingSound.step {admits : RoamingStore → RoamingRequest → Prop}
    (sound : RoamingSound s) (isStep : RoamingStep admits s t) : RoamingSound t := by
  obtain ⟨request, database, plain, _, done⟩ := isStep
  have change := change_of_run done
  exact ⟨owned_of_change database plain change sound.owned,
    accepted_of_change change sound.accepted, indexes_of_change change sound.indexes⟩

end Steps

theorem RoamingReached.sound {admits : RoamingStore → RoamingRequest → Prop} {s : RoamingStore}
    (reached : RoamingReached admits s) : RoamingSound s := by
  apply Runs.Reachable.invariant reached
  · rintro _ rfl
    exact ⟨by rintro _ ⟨⟩, by rintro _ ⟨⟩, List.nodup_nil⟩
  · intro before after sound isStep
    exact sound.step isStep

/-! ## Pools -/

instance (s : RoamingStore) (endpoint : RADIUSEndPoint) : Decidable (AccountThere s endpoint) :=
  inferInstanceAs (Decidable (∀ server, server ∈ endpoint.radsecServers.head? →
    (endpoint.type = "orion" → (s.orionAccounts.get? server.useOpenRoamingAccount).isSome) ∧
      (endpoint.type = "globalreach" → (s.glblrCerts.get? server.useOpenRoamingAccount).isSome)))

section Pools

variable {s : RoamingStore} {endpoint : RADIUSEndPoint}

theorem accountThere_of_first {server : RADIUSEndPointRadsecType}
    (first : endpoint.radsecServers[0]? = some server) :
    AccountThere s endpoint ↔
      (endpoint.type = "orion" →
        (s.orionAccounts.get? server.useOpenRoamingAccount).isSome = true) ∧
      (endpoint.type = "globalreach" →
        (s.glblrCerts.get? server.useOpenRoamingAccount).isSome = true) := by
  rw [← List.head?_eq_getElem?] at first
  constructor
  · intro there
    exact there server first
  · intro there other isFirst
    rw [first] at isFirst
    cases isFirst
    exact there

theorem accountThere_of_other (notOrion : endpoint.type ≠ "orion")
    (notGlobalReach : endpoint.type ≠ "globalreach") : AccountThere s endpoint :=
  fun _ _ => ⟨fun orion => absurd orion notOrion,
    fun globalreach => absurd globalreach notGlobalReach⟩

theorem known_cases (known : radiusEndpointType endpoint.type ≠ .unknown) :
    endpoint.type = "generic" ∨ endpoint.type = "radsec" ∨ endpoint.type = "globalreach" ∨
      endpoint.type = "orion" := by
  unfold radiusEndpointType at known
  split at known
  · exact .inl ‹_›
  · split at known
    · exact .inr (.inl ‹_›)
    · split at known
      · exact .inr (.inr (.inl ‹_›))
      · split at known
        · exact .inr (.inr (.inr ‹_›))
        · exact absurd rfl known

/-- The address of the pool that an endpoint is converted to. -/
def poolAddress (env : ProxyEnv) (endpoint : RADIUSEndPoint) : Option (Option String) :=
  (convertEndpoint env endpoint).map (Option.map RadiusProxyPool.poolProxyIp)

theorem poolAddress_generic (env : ProxyEnv) (generic : endpoint.type = "generic")
    (servers : endpoint.radiusServers ≠ []) :
    poolAddress env endpoint = some (some endpoint.index) := by
  obtain ⟨first, isFirst⟩ := exists_first servers
  simp only [poolAddress, convertEndpoint, generic, isFirst]
  simp [servers, poolOf]

theorem poolAddress_radsec (env : ProxyEnv) (radsec : endpoint.type = "radsec")
    (servers : endpoint.radsecServers ≠ []) :
    poolAddress env endpoint = some (some endpoint.index) := by
  simp only [poolAddress, convertEndpoint, radsec]
  simp [servers, poolOf]

theorem poolAddress_orion (env : ProxyEnv) (orion : endpoint.type = "orion")
    {server : RADIUSEndPointRadsecType} (first : endpoint.radsecServers[0]? = some server) :
    poolAddress env endpoint =
      some ((env.orionAccount server.useOpenRoamingAccount).map fun _ => endpoint.index) := by
  have servers : endpoint.radsecServers ≠ [] := by
    intro empty
    rw [empty] at first
    cases first
  simp only [poolAddress, convertEndpoint, orion, first]
  simp [servers, Function.comp_def, poolOf]

theorem poolAddress_globalreach (env : ProxyEnv) (globalreach : endpoint.type = "globalreach")
    {server : RADIUSEndPointRadsecType} (first : endpoint.radsecServers[0]? = some server) :
    poolAddress env endpoint =
      some (((env.glblrCert server.useOpenRoamingAccount).bind fun certificate =>
        env.glblrAccount certificate.accountId).map fun _ => endpoint.index) := by
  have servers : endpoint.radsecServers ≠ [] := by
    intro empty
    rw [empty] at first
    cases first
  simp only [poolAddress, convertEndpoint, globalreach, first]
  cases found : env.glblrCert server.useOpenRoamingAccount with
  | none => simp [servers, found]
  | some certificate =>
      cases key : env.glblrAccount certificate.accountId <;> simp [servers, poolOf, found, key]

/-- An endpoint is converted to a pool at its address, unless its account has gone. -/
theorem poolAddress_of_sound (sound : RoamingSound s) (servers : List HostNameServerResult)
    (member : endpoint ∈ s.endpoints.rows) :
    poolAddress (s.proxyEnv servers) endpoint =
      some (if AccountThere s endpoint then some endpoint.index else none) := by
  obtain ⟨accepted, known⟩ := sound.accepted endpoint member
  rcases known_cases known with generic | radsec | globalreach | orion
  · rw [poolAddress_generic _ generic (accepted.generic generic), if_pos]
    exact accountThere_of_other (by rw [generic]; decide) (by rw [generic]; decide)
  · rw [poolAddress_radsec _ radsec (accepted.radsec radsec), if_pos]
    exact accountThere_of_other (by rw [radsec]; decide) (by rw [radsec]; decide)
  · obtain ⟨server, first⟩ := exists_first (accepted.globalreach globalreach)
    have there := accountThere_of_first (s := s) first
    simp only [globalreach, true_implies, show ("globalreach" = "orion") = False by decide,
      false_implies, true_and] at there
    rw [poolAddress_globalreach _ globalreach first]
    cases found : s.glblrCerts.get? server.useOpenRoamingAccount with
    | none =>
        rw [if_neg (by rw [there, found]; decide)]
        simp [RoamingStore.proxyEnv, found]
    | some certificate =>
        rw [if_pos (by rw [there, found]; rfl)]
        obtain ⟨account, isThere⟩ := Option.isSome_iff_exists.mp
          (sound.owned certificate (Table.mem_of_get? found))
        simp [RoamingStore.proxyEnv, found, isThere]
  · obtain ⟨server, first⟩ := exists_first (accepted.orion orion)
    have there := accountThere_of_first (s := s) first
    simp only [orion, true_implies, show ("orion" = "globalreach") = False by decide,
      false_implies, and_true] at there
    rw [poolAddress_orion _ orion first]
    cases found : s.orionAccounts.get? server.useOpenRoamingAccount with
    | none =>
        rw [if_neg (by rw [there, found]; decide)]
        simp [RoamingStore.proxyEnv, found]
    | some account =>
        rw [if_pos (by rw [there, found]; rfl)]
        simp [RoamingStore.proxyEnv, found]

theorem poolAddresses_of_each {env : ProxyEnv} {there : RADIUSEndPoint → Prop}
    [DecidablePred there] {endpoints : List RADIUSEndPoint}
    (each : ∀ endpoint ∈ endpoints,
      poolAddress env endpoint = some (if there endpoint then some endpoint.index else none)) :
    ∃ pools, endpoints.mapM (convertEndpoint env) = some pools ∧
      (pools.filterMap id).map RadiusProxyPool.poolProxyIp =
        (endpoints.filter there).map RADIUSEndPoint.index := by
  induction endpoints with
  | nil => exact ⟨[], rfl, rfl⟩
  | cons endpoint endpoints ih =>
      obtain ⟨pools, converted, addresses⟩ :=
        ih fun other member => each other (List.mem_cons_of_mem _ member)
      have address := each endpoint List.mem_cons_self
      obtain ⟨pool, isPool, atAddress⟩ := Option.map_eq_some_iff.mp address
      refine ⟨pool :: pools, ?_, ?_⟩
      · rw [List.mapM_cons, isPool, converted]
        rfl
      · by_cases isThere : there endpoint
        · rw [if_pos isThere] at atAddress
          obtain ⟨made, rfl, sameAddress⟩ := Option.map_eq_some_iff.mp atAddress
          rw [List.filterMap_cons_some (f := id) rfl, List.map_cons, addresses, sameAddress,
            List.filter_cons_of_pos (by simpa using isThere), List.map_cons]
        · rw [if_neg isThere, Option.map_eq_none_iff] at atAddress
          subst atAddress
          rw [List.filterMap_cons_none (f := id) rfl, addresses,
            List.filter_cons_of_neg (by simpa using isThere)]

end Pools

/-! ## Accounts in use -/

/-- Whether a request leaves the accounts and the certificates of the endpoints. -/
def LeavesUsed (s : RoamingStore) (request : RoamingRequest) : Prop :=
  ∀ endpoint ∈ s.endpoints.rows, ∀ server, endpoint.radsecServers.head? = some server →
    match request with
    | .orionDelete id => endpoint.type = "orion" → server.useOpenRoamingAccount ≠ id
    | .accountDelete id =>
        endpoint.type = "globalreach" →
          ∀ certificate, s.glblrCerts.get? server.useOpenRoamingAccount = some certificate →
            certificate.accountId ≠ id
    | .certDelete account id =>
        endpoint.type = "globalreach" →
          Plain account ∧ Plain id ∧ server.useOpenRoamingAccount ≠ id
    | _ => True

section Used

variable {env : RoamingEnv} {s t : RoamingStore} {request : RoamingRequest}

/-- The account of an endpoint is there after a request that does not delete it. -/
theorem accountThere_of_change (database : DeletesByClause env.deleteRecords)
    (plain : DeletesPlain request) {endpoint : RADIUSEndPoint}
    (leaves : LeavesUsed s request) (stored : endpoint ∈ s.endpoints.rows)
    (change : Change env s request t) (before : AccountThere s endpoint) :
    AccountThere t endpoint := by
  intro server first
  obtain ⟨orion, globalreach⟩ := before server first
  have left := leaves endpoint stored server first
  cases change with
  | orionPost inserted =>
      exact ⟨fun type => get?_isSome_of_insert? inserted (orion type), globalreach⟩
  | orionPut => exact ⟨fun type => by rw [get?_update_isSome, orion type], globalreach⟩
  | orionDelete =>
      refine ⟨?_, globalreach⟩
      intro type
      rw [Table.get?_delete, if_neg (left type)]
      exact orion type
  | accountPost | endpointPost | endpointPut | endpointDelete => exact ⟨orion, globalreach⟩
  | @accountDelete id =>
      refine ⟨orion, ?_⟩
      intro type
      obtain ⟨certificate, found⟩ := Option.isSome_iff_exists.mp (globalreach type)
      rw [database.ofAccount id _ plain, Table.get?_deleteWhere, found]
      simp [left type certificate found]
  | @certPost account id body certificate =>
      refine ⟨orion, ?_⟩
      intro type
      cases inserted : s.glblrCerts.insert? certificate with
      | none => exact globalreach type
      | some created => exact get?_isSome_of_insert? inserted (globalreach type)
  | certPut => exact ⟨orion, fun type => by rw [get?_update_isSome, globalreach type]⟩
  | @certDelete account id =>
      refine ⟨orion, ?_⟩
      intro type
      obtain ⟨plainAccount, plainId, other⟩ := left type
      obtain ⟨certificate, found⟩ := Option.isSome_iff_exists.mp (globalreach type)
      have sameId : certificate.id = server.useOpenRoamingAccount := Table.key_of_get? found
      have differ : certificate.id ≠ id := sameId ▸ other
      rw [database.ofCertificate account id _ plainAccount plainId, Table.get?_deleteWhere, found]
      simp [differ]

theorem accountThere_congr {endpoint modified : RADIUSEndPoint}
    (same : modified.use = endpoint.use) :
    AccountThere s modified ↔ AccountThere s endpoint := by
  simp only [RADIUSEndPoint.use, Prod.mk.injEq] at same
  obtain ⟨_, type, _, radsec⟩ := same
  unfold AccountThere
  rw [type, radsec]

theorem accountsThere_step (isStep : RoamingStep LeavesUsed s t)
    (before : ∀ endpoint ∈ s.endpoints.rows, AccountThere s endpoint) :
    ∀ endpoint ∈ t.endpoints.rows, AccountThere t endpoint := by
  obtain ⟨request, database, plain, leaves, done⟩ := isStep
  have change := change_of_run done
  intro endpoint member
  have old (stored : endpoint ∈ s.endpoints.rows) : AccountThere t endpoint :=
    accountThere_of_change database plain leaves stored change (before endpoint stored)
  cases change with
  | orionPost | orionPut | orionDelete | accountPost | accountDelete | certPost | certPut
  | certDelete => exact old member
  | endpointPost letIn inserted =>
      rcases (Table.mem_rows_insert? inserted).mp member with stored | rfl
      · exact old stored
      · exact letIn.account
  | endpointPut found same =>
      rcases Table.mem_rows_update member with rfl | stored
      · exact (accountThere_congr same).mpr (before _ (Table.mem_of_get? found))
      · exact old stored
  | endpointDelete => exact old (Table.mem_rows_delete.mp member).1

theorem RoamingReached.accountsThere (reached : RoamingReached LeavesUsed s) :
    ∀ endpoint ∈ s.endpoints.rows, AccountThere s endpoint := by
  apply Runs.Reachable.invariant reached
  · rintro _ rfl endpoint ⟨⟩
  · intro before after there isStep
    exact accountsThere_step isStep there

end Used

/-! ## A database -/

theorem split_at_quote {before before' after after' : List Char} (plain : quote ∉ before)
    (plain' : quote ∉ before') (same : before ++ quote :: after = before' ++ quote :: after') :
    before = before' ∧ after = after' := by
  induction before generalizing before' with
  | nil =>
      cases before' with
      | nil => exact ⟨rfl, (List.cons.inj same).2⟩
      | cons first rest => exact absurd (List.cons.inj same).1 (List.ne_of_not_mem_cons plain')
  | cons first rest ih =>
      cases before' with
      | nil => exact absurd (List.cons.inj same).1.symm (List.ne_of_not_mem_cons plain)
      | cons first' rest' =>
          obtain ⟨rfl, tails⟩ := List.cons.inj same
          obtain ⟨rfl, rfl⟩ := ih (List.not_mem_of_not_mem_cons plain)
            (List.not_mem_of_not_mem_cons plain') tails
          exact ⟨rfl, rfl⟩

def clauseStart : List Char := " accountId=\x27".toList

theorem accountClause_toList (account : String) :
    (accountClause account).toList =
      clauseStart ++ (account.toList ++ quote :: " ".toList) := by
  show (" accountId=\x27" ++ account ++ "\x27 ").toList = _
  rw [String.toList_append, String.toList_append, List.append_assoc]
  rfl

theorem certificateClause_toList (account id : String) :
    (certificateClause account id).toList =
      clauseStart ++ (account.toList ++
        quote :: (" and id=\x27".toList ++ (id.toList ++ quote :: " ".toList))) := by
  show (" accountId=\x27" ++ account ++ "\x27 and id=\x27" ++ id ++ "\x27 ").toList = _
  simp only [String.toList_append, List.append_assoc]
  rfl

theorem accountClause_inj {account other : String} :
    accountClause account = accountClause other ↔ account = other := by
  constructor
  · intro same
    have lists := congrArg String.toList same
    rw [accountClause_toList, accountClause_toList] at lists
    exact String.toList_injective (List.append_cancel_right (List.append_cancel_left lists))
  · rintro rfl
    rfl

theorem accountClause_ne_certificateClause {account other id : String} (plain : Plain account)
    (plainOther : Plain other) : accountClause account ≠ certificateClause other id := by
  intro same
  have lists := congrArg String.toList same
  rw [accountClause_toList, certificateClause_toList] at lists
  have tails := (split_at_quote plain plainOther (List.append_cancel_left lists)).2
  cases (List.cons.inj tails).2

theorem certificateClause_inj {account id account' id' : String} (plain : Plain account)
    (plain' : Plain account') :
    certificateClause account id = certificateClause account' id' ↔
      account = account' ∧ id = id' := by
  constructor
  · intro same
    have lists := congrArg String.toList same
    rw [certificateClause_toList, certificateClause_toList] at lists
    obtain ⟨accounts, tails⟩ := split_at_quote plain plain' (List.append_cancel_left lists)
    exact ⟨String.toList_injective accounts,
      String.toList_injective (List.append_cancel_right (List.append_cancel_left tails))⟩
  · rintro ⟨rfl, rfl⟩
    rfl

/-- A database that knows the clauses with plain ids. -/
def deleteMatching (clause : String) (certs : Table StoredCertificate) :
    Table StoredCertificate :=
  certs.deleteWhere fun certificate =>
    decide (Plain certificate.accountId ∧ (clause = accountClause certificate.accountId ∨
      clause = certificateClause certificate.accountId certificate.id))

theorem deleteMatching_deletesByClause : DeletesByClause deleteMatching := by
  refine ⟨?_, ?_, ?_⟩
  · intro id certs plain
    refine congrArg certs.deleteWhere (funext fun certificate => ?_)
    rw [Bool.eq_iff_iff, decide_eq_true_iff, beq_iff_eq]
    constructor
    · rintro ⟨plainAccount, ofAccount | ofCertificate⟩
      · exact (accountClause_inj.mp ofAccount).symm
      · exact absurd ofCertificate (accountClause_ne_certificateClause plain plainAccount)
    · rintro rfl
      exact ⟨plain, .inl rfl⟩
  · intro account id certs plainAccount _
    refine congrArg certs.deleteWhere (funext fun certificate => ?_)
    rw [Bool.eq_iff_iff, decide_eq_true_iff, Bool.and_eq_true, beq_iff_eq, beq_iff_eq]
    constructor
    · rintro ⟨plain, ofAccount | ofCertificate⟩
      · exact absurd ofAccount.symm (accountClause_ne_certificateClause plain plainAccount)
      · obtain ⟨accounts, ids⟩ := (certificateClause_inj plainAccount plain).mp ofCertificate
        exact ⟨accounts.symm, ids.symm⟩
    · rintro ⟨rfl, rfl⟩
      exact ⟨plainAccount, .inr rfl⟩
  · intro clause certs
    exact List.filter_sublist.subset

/-! ## Requests one after the other -/

/-- The libraries accept what they are given, and Global Reach issues nothing. -/
def acceptingEnv : RoamingEnv where
  radius := { officeEnv with validX509Certificate := fun _ => true }
  verifyECKey _ := true
  verifyAccount _ _ := true
  createX509CSR _ _ _ _ _ := none
  createRADSECCertificate _ _ _ := none
  deleteRecords := deleteMatching

def runAll (requests : List RoamingRequest) (s : RoamingStore) :
    Except RoamingFailure RoamingStore :=
  requests.foldlM (RoamingRequest.run acceptingEnv) s

theorem reached_of_runAll {admits : RoamingStore → RoamingRequest → Prop}
    {requests : List RoamingRequest} {s t : RoamingStore} (reached : RoamingReached admits s)
    (admitted : ∀ request ∈ requests, DeletesPlain request ∧ ∀ state, admits state request)
    (done : runAll requests s = .ok t) : RoamingReached admits t := by
  induction requests generalizing s with
  | nil =>
      cases done
      exact reached
  | cons request requests ih =>
      obtain ⟨next, first, rest⟩ := bind_ok_iff.mp done
      obtain ⟨plain, allowed⟩ := admitted request List.mem_cons_self
      exact ih (.step reached (.request request deleteMatching_deletesByClause plain
        (allowed s) first)) (fun other member => admitted other (List.mem_cons_of_mem _ member))
        rest

def orionAccountBody : Members :=
  [("privateKey", .str "key"), ("certificate", .str "certificate"),
    ("cacerts", .arr [.str "root"]), ("name", .str "orion")]

def orionEndpointBody : Members :=
  [("Type", .str "orion"), ("PoolStrategy", .str "random"), ("Index", .str "0.0.1.1"),
    ("RadsecServers", .arr [.obj [("UseOpenRoamingAccount", .str "office")]]),
    ("name", .str "guests")]

def orionRequests : List RoamingRequest :=
  [.orionPost "new" (some orionAccountBody), .endpointPost "new" (some orionEndpointBody)]

theorem exists_of_runAll {α : Type} (requests : List RoamingRequest) (view : RoamingStore → α)
    {shown : α} (ran : (runAll requests {}).toOption.map view = some shown) :
    ∃ s, runAll requests {} = .ok s ∧ view s = shown := by
  cases done : runAll requests {} with
  | error failure =>
      rw [done] at ran
      cases ran
  | ok s =>
      rw [done] at ran
      exact ⟨s, rfl, Option.some.inj ran⟩

/-! ## Pools of a run -/

/-- As long as no account or certificate in use is deleted, the proxy gets a pool for each of the
first endpoints. -/
theorem everyPool_of_run {s : RoamingStore} (reached : RoamingReached LeavesUsed s)
    (servers : List HostNameServerResult) :
    ∃ pools, updateEndpoints (s.proxyEnv servers) s.endpoints = some pools ∧
      pools.map RadiusProxyPool.poolProxyIp =
        (s.endpoints.rows.take 500).map RADIUSEndPoint.index := by
  have sound := reached.sound
  obtain ⟨pools, converted, addresses⟩ := poolAddresses_of_each
    fun endpoint member => poolAddress_of_sound sound servers
      (List.mem_of_mem_take (i := 500) (l := s.endpoints.rows) member)
  refine ⟨pools.filterMap id, ?_, ?_⟩
  · rw [updateEndpoints, converted]
    rfl
  · have all : (s.endpoints.rows.take 500).filter (AccountThere s) =
        s.endpoints.rows.take 500 := by
      rw [List.filter_eq_self]
      intro endpoint member
      exact decide_eq_true (reached.accountsThere endpoint (List.mem_of_mem_take member))
    rw [addresses, all]

/-- An endpoint with its account. -/
theorem orion_pool_sent : ∃ s pools, RoamingReached LeavesUsed s ∧
    updateEndpoints (s.proxyEnv []) s.endpoints = some pools ∧
      pools.map RadiusProxyPool.poolProxyIp = ["0.0.1.1"] := by
  obtain ⟨s, done, indexes⟩ : ∃ s, runAll orionRequests {} = .ok s ∧
      (s.endpoints.rows.take 500).map RADIUSEndPoint.index = ["0.0.1.1"] :=
    exists_of_runAll orionRequests
      (fun s => (s.endpoints.rows.take 500).map RADIUSEndPoint.index) (by decide)
  have reached : RoamingReached LeavesUsed s := by
    apply reached_of_runAll (.start rfl) _ done
    intro request member
    simp only [orionRequests, List.mem_cons, List.not_mem_nil, or_false] at member
    rcases member with rfl | rfl
    · exact ⟨trivial, fun _ _ _ _ _ => trivial⟩
    · exact ⟨trivial, fun _ _ _ _ _ => trivial⟩
  obtain ⟨pools, updated, addresses⟩ := everyPool_of_run reached []
  exact ⟨s, pools, reached, updated, addresses.trans indexes⟩

end Owprov.Radius
