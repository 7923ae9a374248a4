import Owprov.ServiceRegistry

/-!
# Tokens and API keys

A request is let in for a token or for an API key that the security service vouches for.
`AuthClient` asks the service, remembers what it answers, and forgets it when the service says on
the bus that a token is gone.  The steps of concurrent requests and of messages interleave.
-/

namespace Owprov

open RowTable

/-- `SecurityObjects::WebToken`, as far as it is used. -/
structure WebToken where
  expiresIn : UInt64
  created : UInt64
  deriving DecidableEq, Repr

/-- `SecurityObjects::UserInfoAndPolicy`. -/
structure UserInfoAndPolicy where
  webtoken : WebToken
  userinfo : UserInfo
  deriving DecidableEq, Repr

/-! ## Answers of the security service -/

/-- `field_from_json` for 64 bits. -/
def uint64Field (env : BusEnv) (object : JsonObject) (field : String) (value : UInt64) :
    Except Failure UInt64 :=
  match object.lookup field with
  | none | some .null => .ok value
  | some json => env.toUInt64 json

/-- `WebToken::from_json`.  The fields before one that does not convert are read. -/
def WebToken.fromJson (env : BusEnv) (token : WebToken) (object : JsonObject) : WebToken :=
  match uint64Field env object "expires_in" token.expiresIn with
  | .error _ => token
  | .ok expiresIn =>
      match uint64Field env object "idle_timeout" 0 with
      | .error _ => { token with expiresIn := expiresIn }
      | .ok _ =>
          match uint64Field env object "created" token.created with
          | .error _ => { token with expiresIn := expiresIn }
          | .ok created => { expiresIn := expiresIn, created := created }

/-- `UserTypeFromString`. -/
def userTypeFromString (text : String) : UserRole :=
  if icompare text "root" then .root
  else if icompare text "admin" then .admin
  else if icompare text "subscriber" then .subscriber
  else if icompare text "partner" then .partner
  else if icompare text "csr" then .csr
  else if icompare text "system" then .system
  else if icompare text "installer" then .installer
  else if icompare text "noc" then .noc
  else if icompare text "accounting" then .accounting
  else .unknown

/-- `UserInfo::from_json`.  Notes that are no objects end it before the creator and the role. -/
def UserInfo.fromJson (user : UserInfo) (object : JsonObject) : UserInfo :=
  let named := { user with id := object.stringField "id" user.id }
  match object.objectsField "notes" with
  | .error _ => named
  | .ok _ =>
      { named with
        createdBy := object.stringField "createdBy" user.createdBy
        userRole :=
          match object.lookup "userRole" with
          | none | some .null => user.userRole
          | some _ => userTypeFromString (object.stringField "userRole") }

/-- `UserInfoAndPolicy::from_json`, which reads over what is there. -/
def UserInfoAndPolicy.fromJson (env : BusEnv) (uInfo : UserInfoAndPolicy) (object : JsonObject) :
    UserInfoAndPolicy where
  webtoken :=
    match object.getObject? "tokenInfo" with
    | none => uInfo.webtoken
    | some token => uInfo.webtoken.fromJson env token
  userinfo :=
    match object.getObject? "userInfo" with
    | none => uInfo.userinfo
    | some user => uInfo.userinfo.fromJson user

/-- `IsTokenExpired`, with the sum in 64 bits. -/
def isTokenExpired (token : WebToken) (now : UInt64) : Bool :=
  decide (token.expiresIn + token.created < now)

/-- What a request is let in for. -/
inductive Credential where
  | token (text : String)
  | apiKey (text : String)
  deriving DecidableEq, Repr

def Credential.text : Credential → String
  | token text => text
  | apiKey text => text

/-- An answer that lets a request in.  Only an API key has its own expiry. -/
structure TokenGrant where
  userInfo : UserInfoAndPolicy
  expiresOn : UInt64 := 0
  deriving DecidableEq, Repr

/-- The variables `UInfo`, `Expired` and `Contacted` of a request. -/
structure Attempt where
  uInfo : UserInfoAndPolicy
  expired : Bool := false
  contacted : Bool := false
  deriving DecidableEq, Repr

/-- What `OpenAPIRequestGet::Do` answers: a time-out, also when no service could be asked, a status
other than `HTTP_OK`, or an object. -/
inductive Reply where
  | timedOut
  | refused
  | ok (response : JsonObject)

inductive Retrieval where
  | granted (grant : TokenGrant)
  | rejected (attempt : Attempt)
  deriving DecidableEq, Repr

/-- `RetrieveTokenInformation` from the reply on, without the cache. -/
def retrieveTokenInformation (env : BusEnv) (attempt : Attempt) (now : UInt64) : Reply → Retrieval
  | .timedOut => .rejected { attempt with contacted := false }
  | .refused => .rejected { attempt with contacted := true, expired := false }
  | .ok response =>
      if response.has "tokenInfo" && response.has "userInfo" then
        let uInfo := attempt.uInfo.fromJson env response
        if isTokenExpired uInfo.webtoken now then
          .rejected { uInfo := uInfo, expired := true, contacted := true }
        else
          .granted { userInfo := uInfo }
      else
        .rejected { attempt with contacted := true }

/-- `RetrieveApiKeyInformation` from the reply on, without the cache. -/
def retrieveApiKeyInformation (env : BusEnv) (attempt : Attempt) : Reply → Retrieval
  | .timedOut => .rejected { attempt with contacted := false }
  | .refused => .rejected { attempt with contacted := true, expired := false }
  | .ok response =>
      if response.has "tokenInfo" && response.has "userInfo" && response.has "expiresOn" then
        let uInfo := attempt.uInfo.fromJson env response
        match env.toUInt64 ((response.lookup "expiresOn").getD .null) with
        | .error _ => .rejected { uInfo := uInfo, expired := false, contacted := true }
        | .ok expiresOn => .granted { userInfo := uInfo, expiresOn := expiresOn }
      else
        .rejected { attempt with contacted := true }

def retrieve (env : BusEnv) (credential : Credential) (attempt : Attempt) (now : UInt64)
    (reply : Reply) : Retrieval :=
  match credential with
  | .token _ => retrieveTokenInformation env attempt now reply
  | .apiKey _ => retrieveApiKeyInformation env attempt reply

/-! ## The caches -/

/-- `ApiKeyCacheEntry`. -/
structure ApiKeyCacheEntry where
  userInfo : UserInfoAndPolicy
  expiresOn : UInt64
  deriving DecidableEq, Repr

/-- `Cache_` and `ApiKeyCache_`. -/
structure AuthClient where
  cache : String → Option UserInfoAndPolicy := fun _ => none
  apiKeyCache : String → Option ApiKeyCacheEntry := fun _ => none

inductive CacheLookup where
  | missing
  | stale
  | answered (uInfo : UserInfoAndPolicy)
  deriving DecidableEq, Repr

namespace AuthClient

/-- How `IsAuthorized` and `IsValidApiKey` judge what the caches hold.  A token must not have
expired, an API key must have. -/
def lookup (client : AuthClient) (now : UInt64) : Credential → CacheLookup
  | .token text =>
      match client.cache text with
      | none => .missing
      | some user => if isTokenExpired user.webtoken now then .stale else .answered user
  | .apiKey text =>
      match client.apiKeyCache text with
      | none => .missing
      | some user => if user.expiresOn < now then .answered user.userInfo else .stale

/-- `update` of the cache in question. -/
def update (client : AuthClient) (grant : TokenGrant) : Credential → AuthClient
  | .token text => { client with cache := Function.update client.cache text (some grant.userInfo) }
  | .apiKey text =>
      { client with
        apiKeyCache := Function.update client.apiKeyCache text
          (some { userInfo := grant.userInfo, expiresOn := grant.expiresOn }) }

/-- `remove` of the cache in question. -/
def remove (client : AuthClient) : Credential → AuthClient
  | .token text => { client with cache := Function.update client.cache text none }
  | .apiKey text => { client with apiKeyCache := Function.update client.apiKeyCache text none }

/-- `RemovedCachedToken`. -/
def removedCachedToken (client : AuthClient) (token : String) : AuthClient :=
  (client.remove (.token token)).remove (.apiKey token)

/-- `Stop`, which leaves the API keys alone. -/
def stop (client : AuthClient) : AuthClient :=
  { client with cache := fun _ => none }

end AuthClient

/-! ## Requests and messages -/

/-- How far the authentication of a request has come. -/
inductive AuthPhase where
  | idle
  /-- What was cached is to be removed. -/
  | dropping (credential : Credential) (attempt : Attempt)
  /-- A service is to be chosen; `sub` tells the endpoint for subscribers. -/
  | asking (credential : Credential) (sub : Bool) (attempt : Attempt)
  | waiting (credential : Credential) (sub : Bool) (attempt : Attempt) (service : MicroServiceMeta)
  /-- The cache is to be updated. -/
  | updating (credential : Credential) (grant : TokenGrant)
  | accepted (credential : Credential) (uInfo : UserInfoAndPolicy)
  | denied (credential : Credential) (attempt : Attempt)
  deriving DecidableEq, Repr

/-- The services, the caches and the requests by their `TransactionId_`. -/
structure FrontEnd where
  services : Services := Registry.empty
  client : AuthClient := {}
  phase : ℕ → AuthPhase := fun _ => .idle

/-- What happens next.  A cached entry may also go because the cache is full or the entry old. -/
inductive FrontEvent where
  | bus (message : BusMessage)
  | look (tid : ℕ) (credential : Credential) (initial : UserInfoAndPolicy) (now : UInt64)
  | drop (tid : ℕ)
  | ask (tid : ℕ)
  | reply (tid : ℕ) (reply : Reply) (now : UInt64)
  | fill (tid : ℕ)
  | evict (credential : Credential)
  | stop

/-- What follows a question that was not answered with a grant: a token is tried as that of a
subscriber. -/
def afterRejection (credential : Credential) (sub : Bool) (attempt : Attempt) : AuthPhase :=
  match credential, sub with
  | .token _, false => .asking credential true attempt
  | _, _ => .denied credential attempt

/-- What follows the removal of a stale entry. -/
def afterDrop (credential : Credential) (attempt : Attempt) : AuthPhase :=
  match credential with
  | .token _ => .denied credential { attempt with expired := true }
  | .apiKey _ => .asking credential false attempt

def afterLookup (credential : Credential) (attempt : Attempt) : CacheLookup → AuthPhase
  | .missing => .asking credential false attempt
  | .stale => .dropping credential attempt
  | .answered uInfo => .accepted credential uInfo

def afterRetrieval (credential : Credential) (sub : Bool) : Retrieval → AuthPhase
  | .granted grant => .updating credential grant
  | .rejected attempt => afterRejection credential sub attempt

/-- `uSERVICE_SECURITY`. -/
def securityService : String := "owsec"

/-- The first of the services is asked. -/
def afterChoice (credential : Credential) (sub : Bool) (attempt : Attempt) :
    List MicroServiceMeta → AuthPhase
  | [] => afterRejection credential sub { attempt with contacted := false }
  | service :: _ => .waiting credential sub attempt service

/-- The token that a message removes. -/
def BusMessage.removes (env : BusEnv) (message : BusMessage) : Option String :=
  match message.read env with
  | .ok (.removeToken token) => some token
  | _ => none

namespace FrontEnd

def setPhase (s : FrontEnd) (tid : ℕ) (phase : AuthPhase) : FrontEnd :=
  { s with phase := Function.update s.phase tid phase }

/-- `BusMessageReceived`. -/
def receive (env : BusEnv) (s : FrontEnd) (message : BusMessage) : FrontEnd :=
  { s with
    services := busMessageReceived env s.services message
    client :=
      match message.removes env with
      | none => s.client
      | some token => s.client.removedCachedToken token }

/-- One atomic step. -/
inductive Step (env : BusEnv) : FrontEnd → FrontEvent → FrontEnd → Prop where
  | bus {s : FrontEnd} {message : BusMessage} : Step env s (.bus message) (s.receive env message)
  | look {s : FrontEnd} {tid : ℕ} {credential : Credential} {initial : UserInfoAndPolicy}
      {now : UInt64} (idle : s.phase tid = .idle) :
      Step env s (.look tid credential initial now)
        (s.setPhase tid (afterLookup credential { uInfo := initial }
          (s.client.lookup now credential)))
  | drop {s : FrontEnd} {tid : ℕ} {credential : Credential} {attempt : Attempt}
      (dropping : s.phase tid = .dropping credential attempt) :
      Step env s (.drop tid)
        { s.setPhase tid (afterDrop credential attempt) with client := s.client.remove credential }
  | ask {s : FrontEnd} {tid : ℕ} {credential : Credential} {sub : Bool} {attempt : Attempt}
      (asking : s.phase tid = .asking credential sub attempt) :
      Step env s (.ask tid)
        (s.setPhase tid (afterChoice credential sub attempt
          (getServices s.services securityService)))
  | reply {s : FrontEnd} {tid : ℕ} {credential : Credential} {sub : Bool} {attempt : Attempt}
      {service : MicroServiceMeta} {reply : Reply} {now : UInt64}
      (waiting : s.phase tid = .waiting credential sub attempt service) :
      Step env s (.reply tid reply now)
        (s.setPhase tid (afterRetrieval credential sub
          (retrieve env credential attempt now reply)))
  | fill {s : FrontEnd} {tid : ℕ} {credential : Credential} {grant : TokenGrant}
      (updating : s.phase tid = .updating credential grant) :
      Step env s (.fill tid)
        { s.setPhase tid (.accepted credential grant.userInfo) with
          client := s.client.update grant credential }
  | evict {s : FrontEnd} {credential : Credential} :
      Step env s (.evict credential) { s with client := s.client.remove credential }
  | stop {s : FrontEnd} : Step env s .stop { s with client := s.client.stop }

/-- The events since the start. -/
inductive Run (env : BusEnv) : List FrontEvent → FrontEnd → Prop where
  | start : Run env [] {}
  | step {history : List FrontEvent} {event : FrontEvent} {s t : FrontEnd} :
      Run env history s → Step env s event t → Run env (history ++ [event]) t

end FrontEnd

end Owprov
