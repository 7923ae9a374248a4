import Owprov.RateLimiter
import Owprov.ScopeDecision
import Owprov.VouchedRequests

/-!
# From a connection to a handler

`handleRequest` lets a request through to `DoGet`, `DoPost`, `DoDelete` or `DoPut` of its handler
when the call is not one too many, the handler has the method, somebody vouches for the user, and
the user's roles allow it.
-/

namespace Owprov

open RowTable FrontEnd

/-- The method of a request line. -/
def HttpMethod.ofText (method : String) : HttpMethod :=
  if method = "GET" then .get
  else if method = "POST" then .post
  else if method = "PUT" then .put
  else if method = "DELETE" then .delete
  else .other

/-- What the constructor of a handler is given. -/
structure HandlerProfile where
  methods : List String
  internal : Bool
  alwaysAuthorize : Bool := true
  rateLimited : Bool := false
  interval : ℤ := 1000
  maxCalls : ℤ := 100

/-- A request as it comes in.  `parses` tells that a JSON body is an object. -/
structure Arrival where
  method : String
  path : String
  host : String
  parses : Bool
  internalName : Option String
  apiKey : Option String
  bearerToken : Option String
  request : Request
  sameMethod : request.method = HttpMethod.ofText method

inductive GateError where
  | internalError
  | rateLimitExceeded
  | unsupportedHTTPMethod
  | expiredToken
  | invalidToken
  | securityServiceUnreachable
  | accessDenied
  deriving DecidableEq, Repr

/-- How far a request has come. -/
inductive Stage where
  | arriving
  | authenticating (profile : HandlerProfile) (arrival : Arrival) (credential : Credential)
  | authenticated (profile : HandlerProfile) (arrival : Arrival) (user : UserInfo)
  | handled (profile : HandlerProfile) (arrival : Arrival) (user : UserInfo)
  | options
  | refused (error : GateError)
  /-- An exception other than one of Poco. -/
  | aborted

/-! ## The parts of `handleRequest` -/

/-- `RESTAPIHandler::IsAuthorized` up to the call of `AuthClient`: a service with the key of this
one needs no token, and `initial` is what `UserInfo_` holds then. -/
def beginAuthorization (myHash : String) (initial : UserInfoAndPolicy) (profile : HandlerProfile)
    (arrival : Arrival) : Stage :=
  if profile.internal && arrival.internalName.isSome then
    if arrival.apiKey = some myHash then
      .authenticated profile arrival initial.userinfo
    else
      .refused .invalidToken
  else
    match profile.internal, arrival.apiKey with
    | false, some key => .authenticating profile arrival (.apiKey key)
    | _, _ => .authenticating profile arrival (.token (arrival.bearerToken.getD ""))

/-- From the body to the authorization. -/
def admitRequest (myHash : String) (initial : UserInfoAndPolicy) (profile : HandlerProfile)
    (arrival : Arrival) (limited : Bool) : Stage :=
  if !arrival.parses then
    .refused .internalError
  else if limited then
    .refused .rateLimitExceeded
  else if arrival.method = "OPTIONS" then
    .options
  else if arrival.method ∉ profile.methods then
    .refused .unsupportedHTTPMethod
  else if profile.alwaysAuthorize then
    beginAuthorization myHash initial profile arrival
  else
    .authenticated profile arrival initial.userinfo

/-- The limiter is asked when the body parses and the handler is limited. -/
def limitRequest (hash : String → UInt64) (cache : RateCache) (profile : HandlerProfile)
    (arrival : Arrival) (now : ℤ) : Bool × RateCache :=
  if arrival.parses && profile.rateLimited then
    isRateLimited cache (hash (arrival.path ++ arrival.host)) profile.interval profile.maxCalls now
  else
    (false, cache)

/-- The error for a user nobody vouches for. -/
def deniedError (attempt : Attempt) : GateError :=
  if attempt.expired then .expiredToken
  else if attempt.contacted then .invalidToken
  else .securityServiceUnreachable

/-- From the parameters to the handler. -/
def authorizeRequest (db : Store) (caller : Caller) (profile : HandlerProfile) (arrival : Arrival) :
    Stage :=
  match arrival.request.queryBlock with
  | .error _ => .aborted
  | .ok _ =>
      match roleIsAuthorized db caller arrival.request with
      | none => .refused .internalError
      | some false => .refused .accessDenied
      | some true =>
          if arrival.request.method = .other then
            .refused .unsupportedHTTPMethod
          else
            .handled profile arrival caller.user

/-! ## Runs of the server -/

/-- The services, the caches, the limiter and the requests. -/
structure Server where
  front : FrontEnd := {}
  limiter : RateCache := fun _ => none
  stage : ℕ → Stage := fun _ => .arriving

/-- A front-end event is in order for the stages: a request is looked up for its own credential. -/
def Server.Allows (server : Server) : FrontEvent → Prop
  | .look tid credential _ _ =>
      ∃ profile arrival, server.stage tid = .authenticating profile arrival credential
  | _ => True

/-- `MyHash_`, `std::hash` and what reads the messages. -/
structure ServerEnv where
  bus : BusEnv
  myHash : String
  hash : String → UInt64

namespace Server

variable (env : ServerEnv)

def setStage (server : Server) (tid : ℕ) (stage : Stage) : Server :=
  { server with stage := Function.update server.stage tid stage }

/-- The servers that are reached, with the front-end events so far. -/
inductive Run : List FrontEvent → Server → Prop where
  | start : Run [] {}
  | arrive {history : List FrontEvent} {server : Server} (run : Run history server) (tid : ℕ)
      (profile : HandlerProfile) (arrival : Arrival) (initial : UserInfoAndPolicy) (now : ℤ)
      (arriving : server.stage tid = .arriving) :
      Run history
        { server.setStage tid (admitRequest env.myHash initial profile arrival
            (limitRequest env.hash server.limiter profile arrival now).1) with
          limiter := (limitRequest env.hash server.limiter profile arrival now).2 }
  | front {history : List FrontEvent} {server : Server} (run : Run history server)
      {event : FrontEvent} {front : FrontEnd} (allowed : server.Allows event)
      (step : Step env.bus server.front event front) :
      Run (history ++ [event]) { server with front := front }
  | vouched {history : List FrontEvent} {server : Server} (run : Run history server) {tid : ℕ}
      {profile : HandlerProfile} {arrival : Arrival} {credential : Credential}
      {uInfo : UserInfoAndPolicy}
      (authenticating : server.stage tid = .authenticating profile arrival credential)
      (accepted : server.front.phase tid = .accepted credential uInfo) :
      Run history (server.setStage tid (.authenticated profile arrival uInfo.userinfo))
  | denied {history : List FrontEvent} {server : Server} (run : Run history server) {tid : ℕ}
      {profile : HandlerProfile} {arrival : Arrival} {credential : Credential} {attempt : Attempt}
      (authenticating : server.stage tid = .authenticating profile arrival credential)
      (denied : server.front.phase tid = .denied credential attempt) :
      Run history (server.setStage tid (.refused (deniedError attempt)))
  | authorize {history : List FrontEvent} {server : Server} (run : Run history server) {tid : ℕ}
      {profile : HandlerProfile} {arrival : Arrival} {user : UserInfo} (db : Store)
      (caller : Caller) (authenticated : server.stage tid = .authenticated profile arrival user)
      (isUser : caller.user = user) :
      Run history (server.setStage tid (authorizeRequest db caller profile arrival))

end Server

/-! ## Who reaches a handler -/

/-- The credential that a request is judged by. -/
def requestCredential (profile : HandlerProfile) (arrival : Arrival) : Credential :=
  match profile.internal, arrival.apiKey with
  | false, some key => .apiKey key
  | _, _ => .token (arrival.bearerToken.getD "")

/-- The checks before the authorization. -/
structure Passes (profile : HandlerProfile) (arrival : Arrival) : Prop where
  parses : arrival.parses = true
  method : arrival.method ∈ profile.methods
  notOptions : arrival.method ≠ "OPTIONS"

/-- Where the user of a request comes from. -/
inductive Identified (env : ServerEnv) (history : List FrontEvent) (tid : ℕ)
    (profile : HandlerProfile) (arrival : Arrival) : UserInfo → Prop
  /-- The handler lets everybody in. -/
  | unchecked {user : UserInfo} (never : profile.alwaysAuthorize = false) :
      Identified env history tid profile arrival user
  /-- Another service calls with the key of this one. -/
  | service {user : UserInfo} (internal : profile.internal = true)
      (named : arrival.internalName.isSome = true) (ownKey : arrival.apiKey = some env.myHash) :
      Identified env history tid profile arrival user
  | vouched {uInfo : UserInfoAndPolicy}
      (letIn : LetIn env.bus history tid (requestCredential profile arrival) uInfo) :
      Identified env history tid profile arrival uInfo.userinfo

/-- The roles of the user allow the request, in some state of the database. -/
def Authorized (arrival : Arrival) (user : UserInfo) : Prop :=
  ∃ (db : Store) (caller : Caller), caller.user = user ∧
    roleIsAuthorized db caller arrival.request = some true

/-- What the stage of a request says about the past. -/
def StageExplained (env : ServerEnv) (history : List FrontEvent) (tid : ℕ) : Stage → Prop
  | .authenticating profile arrival credential =>
      Passes profile arrival ∧ requestCredential profile arrival = credential
  | .authenticated profile arrival user =>
      Passes profile arrival ∧ Identified env history tid profile arrival user
  | .handled profile arrival user =>
      Passes profile arrival ∧ Identified env history tid profile arrival user ∧
        Authorized arrival user
  | _ => True

section Runs

variable {env : ServerEnv} {history : List FrontEvent} {server : Server} {tid : ℕ}
  {profile : HandlerProfile} {arrival : Arrival} {user : UserInfo}

theorem Identified.append {event : FrontEvent}
    (identified : Identified env history tid profile arrival user) :
    Identified env (history ++ [event]) tid profile arrival user := by
  cases identified with
  | unchecked never => exact .unchecked never
  | service internal named ownKey => exact .service internal named ownKey
  | vouched letIn => exact .vouched letIn.append

theorem StageExplained.append {event : FrontEvent} {stage : Stage}
    (explained : StageExplained env history tid stage) :
    StageExplained env (history ++ [event]) tid stage := by
  cases stage with
  | authenticating profile arrival credential => exact explained
  | authenticated profile arrival user => exact ⟨explained.1, explained.2.append⟩
  | handled profile arrival user => exact ⟨explained.1, explained.2.1.append, explained.2.2⟩
  | arriving | options | refused error | aborted => trivial

end Runs

end Owprov
