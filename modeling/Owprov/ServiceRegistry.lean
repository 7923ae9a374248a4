import Mathlib.Data.String.Basic
import Owprov.Handler
import Owprov.Lib.TimedRegistry

/-!
# The services on the bus

The other services announce themselves on the `service_events` topic, and say when they leave.
`MicroService` keeps those that it has heard of in the last two minutes; whom it calls is one of
these.
-/

namespace Owprov

open RowTable TimedRegistry

/-- `Types::MicroServiceMeta`. -/
structure MicroServiceMeta where
  id : UInt64
  type : String
  privateEndPoint : String
  publicEndPoint : String
  accessKey : String
  version : String
  lastUpdate : UInt64
  deriving DecidableEq, Repr

/-- `Services_` is keyed by the private end point. -/
instance : Keyed MicroServiceMeta String where
  key := MicroServiceMeta.privateEndPoint

/-- `Services_`. -/
abbrev Services := Registry MicroServiceMeta

/-- The `ID_` of this service, and the conversion of a JSON value to 64 bits, which throws on what
is no number. -/
structure BusEnv where
  id : UInt64
  toUInt64 : Json → Except Failure UInt64

/-- A message on the bus, when its text parses to an object, and what the clock says when it is
read and when the services are swept. -/
structure BusMessage where
  payload : Option JsonObject
  received : UInt64
  swept : UInt64

/-- What a message asks for. -/
inductive BusEvent where
  | joined (service : MicroServiceMeta)
  | left (privateEndPoint : String)
  | removeToken (token : String)
  | ignored
  deriving DecidableEq, Repr

/-- The fields of a message about a service. -/
def hasServiceFields (object : JsonObject) : Bool :=
  object.has "type" && object.has "publicEndPoint" && object.has "privateEndPoint" &&
    object.has "version" && object.has "key"

/-- The service that joins or is still there. -/
def readService (object : JsonObject) (id now : UInt64) : Except Failure MicroServiceMeta := do
  let type ← object.getString "type"
  let privateEndPoint ← object.getString "privateEndPoint"
  let publicEndPoint ← object.getString "publicEndPoint"
  let accessKey ← object.getString "key"
  let version ← object.getString "version"
  return {
    id := id
    type := toLower type
    privateEndPoint := privateEndPoint
    publicEndPoint := publicEndPoint
    accessKey := accessKey
    version := version
    lastUpdate := now }

/-- The reading half of `BusMessageReceived`. -/
def readBusEvent (env : BusEnv) (object : JsonObject) (now : UInt64) : Except Failure BusEvent :=
  if object.has "id" && object.has "event" then do
    let id ← env.toUInt64 ((object.lookup "id").getD .null)
    let event ← object.getString "event"
    if id = env.id then
      return .ignored
    else if event = "join" ∨ event = "keep-alive" ∨ event = "leave" then
      if hasServiceFields object then
        if event = "leave" then do
          let privateEndPoint ← object.getString "privateEndPoint"
          return .left privateEndPoint
        else do
          let service ← readService object id now
          return .joined service
      else
        return .ignored
    else if event = "remove-token" then
      if object.has "token" then do
        let token ← object.getString "token"
        return .removeToken token
      else
        return .ignored
    else
      return .ignored
  else
    return .ignored

def BusMessage.read (env : BusEnv) (message : BusMessage) : Except Failure BusEvent :=
  match message.payload with
  | none => .error .thrown
  | some object => readBusEvent env object message.received

/-- The 64-bit difference does not exceed the 120 seconds.  A clock that has been put back makes
the difference wrap, and the service old. -/
def MicroServiceMeta.isAlive (now : UInt64) (service : MicroServiceMeta) : Bool :=
  decide (now - service.lastUpdate ≤ 120)

def BusEvent.apply (services : Services) : BusEvent → Services
  | .joined service => services.put service
  | .left privateEndPoint => services.erase privateEndPoint
  | .removeToken _ => services
  | .ignored => services

/-- `BusMessageReceived`, as far as `Services_` goes.  An exception ends it before the sweep. -/
def busMessageReceived (env : BusEnv) (services : Services) (message : BusMessage) : Services :=
  match message.read env with
  | .error _ => services
  | .ok event => (event.apply services).keep (MicroServiceMeta.isAlive message.swept)

/-- The services after messages, when there were none at first. -/
def servicesAfter (env : BusEnv) (messages : List BusMessage) : Services :=
  messages.foldl (busMessageReceived env) Registry.empty

/-- `GetServices`. -/
def getServices (services : Services) (type : String) : List MicroServiceMeta :=
  services.rows.filter fun service => service.type == toLower type

/-! ## What the services are -/

/-- The message announces the service. -/
def BusMessage.Announces (env : BusEnv) (message : BusMessage) (service : MicroServiceMeta) : Prop :=
  message.read env = .ok (.joined service)

/-- The message is about the service at an end point. -/
def BusMessage.Mentions (env : BusEnv) (message : BusMessage) (privateEndPoint : String) : Prop :=
  message.read env = .ok (.left privateEndPoint) ∨
    ∃ service, message.Announces env service ∧ service.privateEndPoint = privateEndPoint

/-- Nothing throws before the sweep. -/
def BusMessage.Sweeps (env : BusEnv) (message : BusMessage) : Prop :=
  ∃ event, message.read env = .ok event

/-- A service was announced, was not mentioned again, and was young in every sweep since. -/
def Registered (env : BusEnv) (messages : List BusMessage) (service : MicroServiceMeta) : Prop :=
  ∃ before message after, messages = before ++ message :: after ∧ message.Announces env service ∧
    (∀ later ∈ after, ¬ later.Mentions env service.privateEndPoint) ∧
    ∀ since ∈ message :: after, since.Sweeps env → since.swept - service.lastUpdate ≤ 120

/-- The effect of an event on a registry. -/
def BusEvent.effect : BusEvent → Effect MicroServiceMeta String
  | .joined service => .announce service
  | .left privateEndPoint => .withdraw privateEndPoint
  | .removeToken _ => .quiet
  | .ignored => .quiet

/-- A message as a registry sees it. -/
def BusMessage.delivery (env : BusEnv) (message : BusMessage) : Delivery MicroServiceMeta String :=
  match message.read env with
  | .error _ => { effect := .quiet, spares := fun _ => true }
  | .ok event => { effect := event.effect, spares := MicroServiceMeta.isAlive message.swept }

section Runs

variable {env : BusEnv} {messages : List BusMessage} {message : BusMessage}
  {service : MicroServiceMeta}

theorem rows_busMessageReceived (services : Services) :
    (busMessageReceived env services message).rows =
      (deliver services (message.delivery env)).rows := by
  unfold busMessageReceived deliver BusMessage.delivery
  cases message.read env with
  | error failure => exact (List.filter_true services.rows).symm
  | ok event => cases event <;> rfl

theorem rows_injective {left right : Services} (same : left.rows = right.rows) : left = right := by
  cases left
  cases right
  cases same
  rfl

theorem busMessageReceived_eq_deliver :
    busMessageReceived env = fun services message => deliver services (message.delivery env) :=
  funext fun _ => funext fun _ => rows_injective (rows_busMessageReceived _)

theorem announces_iff_effect :
    (message.delivery env).effect = .announce service ↔ message.Announces env service := by
  unfold BusMessage.delivery BusMessage.Announces
  cases message.read env with
  | error failure => simp
  | ok event => cases event <;> simp [BusEvent.effect]

theorem mentions_iff_about {privateEndPoint : String} :
    (message.delivery env).effect.About privateEndPoint ↔ message.Mentions env privateEndPoint := by
  unfold BusMessage.delivery BusMessage.Mentions BusMessage.Announces
  cases message.read env with
  | error failure => simp [Effect.About]
  | ok event => cases event <;> simp [BusEvent.effect, Effect.About, key, eq_comm]

theorem spares_iff :
    (message.delivery env).spares service = true ↔
      (message.Sweeps env → message.swept - service.lastUpdate ≤ 120) := by
  unfold BusMessage.delivery BusMessage.Sweeps
  cases message.read env with
  | error failure => simp
  | ok event => simp [MicroServiceMeta.isAlive]

theorem announced_map_iff :
    Announced service (messages.map (BusMessage.delivery env)) ↔ Registered env messages service := by
  constructor
  · rintro ⟨before, delivery, after, split, announces, unmentioned, spared⟩
    obtain ⟨first, rest, rfl, rfl, isRest⟩ := List.map_eq_append_iff.mp split
    obtain ⟨message, last, rfl, rfl, rfl⟩ := List.map_eq_cons_iff.mp isRest
    refine ⟨first, message, last, rfl, announces_iff_effect.mp announces, ?_, ?_⟩
    · intro later member mentions
      exact unmentioned _ (List.mem_map_of_mem member) (mentions_iff_about.mpr mentions)
    · intro since member
      refine spares_iff.mp (spared _ ?_)
      rw [← List.map_cons]
      exact List.mem_map_of_mem member
  · rintro ⟨before, message, after, rfl, announces, unmentioned, young⟩
    refine ⟨_, _, _, by rw [List.map_append, List.map_cons], announces_iff_effect.mpr announces,
      ?_, ?_⟩
    · intro later member about
      obtain ⟨original, isLater, rfl⟩ := List.mem_map.mp member
      exact unmentioned original isLater (mentions_iff_about.mp about)
    · intro since member
      rw [← List.map_cons] at member
      obtain ⟨original, isSince, rfl⟩ := List.mem_map.mp member
      exact spares_iff.mpr (young original isSince)

/-- Only a join or a keep-alive of another service, with all its fields, announces one. -/
theorem readBusEvent_eq_joined_iff {object : JsonObject} {now : UInt64} :
    readBusEvent env object now = .ok (.joined service) ↔
      (object.has "id" && object.has "event") = true ∧
        ∃ id, env.toUInt64 ((object.lookup "id").getD .null) = .ok id ∧ id ≠ env.id ∧
          (object.getString "event" = .ok "join" ∨ object.getString "event" = .ok "keep-alive") ∧
          hasServiceFields object = true ∧ readService object id now = .ok service := by
  unfold readBusEvent
  split
  · rename_i filled
    simp only [filled, bind_eq_ok_iff, true_and]
    refine exists_congr fun id => and_congr_right fun isId => ?_
    constructor
    · rintro ⟨event, isEvent, reads⟩
      split at reads
      · cases reads
      · rename_i other
        split at reads
        · rename_i known
          split at reads
          · rename_i fields
            split at reads
            · obtain ⟨_, _, reads⟩ := bind_eq_ok_iff.mp reads
              cases reads
            · rename_i stays
              obtain ⟨read, isRead, reads⟩ := bind_eq_ok_iff.mp reads
              cases reads
              refine ⟨other, ?_, fields, isRead⟩
              rcases known with rfl | rfl | leaves
              · exact .inl isEvent
              · exact .inr isEvent
              · exact absurd leaves stays
          · cases reads
        · split at reads
          · split at reads
            · obtain ⟨_, _, reads⟩ := bind_eq_ok_iff.mp reads
              cases reads
            · cases reads
          · cases reads
    · rintro ⟨other, isEvent | isEvent, fields, isRead⟩
      · refine ⟨_, isEvent, ?_⟩
        rw [if_neg other, if_pos (.inl rfl), if_pos fields, if_neg (by decide), isRead]
        rfl
      · refine ⟨_, isEvent, ?_⟩
        rw [if_neg other, if_pos (.inr (.inl rfl)), if_pos fields, if_neg (by decide), isRead]
        rfl
  · rename_i missing
    constructor
    · exact fun reads => by cases reads
    · exact fun reads => absurd reads.1 missing

theorem id_of_readService {object : JsonObject} {id now : UInt64}
    (reads : readService object id now = .ok service) :
    service.id = id ∧ service.lastUpdate = now := by
  simp only [readService, bind_eq_ok_iff] at reads
  obtain ⟨_, _, _, _, _, _, _, _, _, _, isService⟩ := reads
  cases isService
  exact ⟨rfl, rfl⟩

/-- What a message announces is another service, heard of when the message was read. -/
theorem id_of_announces (announces : message.Announces env service) :
    service.id ≠ env.id ∧ service.lastUpdate = message.received := by
  unfold BusMessage.Announces BusMessage.read at announces
  cases payload : message.payload with
  | none =>
      rw [payload] at announces
      cases announces
  | some object =>
      rw [payload] at announces
      obtain ⟨_, id, _, other, _, _, reads⟩ := readBusEvent_eq_joined_iff.mp announces
      obtain ⟨isId, isNow⟩ := id_of_readService reads
      exact ⟨isId ▸ other, isNow⟩

theorem mem_services_iff :
    service ∈ (servicesAfter env messages).rows ↔ Registered env messages service := by
  rw [servicesAfter, ← announced_map_iff, ← mem_run_iff, busMessageReceived_eq_deliver, List.foldl_map]

end Runs

/-- After any messages `GetServices` answers the services of the type that were announced by a
message, not mentioned since and not found older than two minutes since, in the order of their
private end points. -/
theorem getServices_of_run (env : BusEnv) (messages : List BusMessage) (type : String) :
    ((getServices (servicesAfter env messages) type).Pairwise
        fun earlier later => earlier.privateEndPoint < later.privateEndPoint) ∧
      ∀ service, service ∈ getServices (servicesAfter env messages) type ↔
        service.type = toLower type ∧ Registered env messages service := by
  refine ⟨(Registry.ascending _).filter _, fun service => ?_⟩
  rw [getServices, List.mem_filter, mem_services_iff, beq_iff_eq, and_comm]

end Owprov
