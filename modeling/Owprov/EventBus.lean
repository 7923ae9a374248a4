import Mathlib
import Owprov.Lib.Heartbeats
import Owprov.RecordRoundTrips
import Owprov.ServiceRegistry

/-!
# The services of a deployment

Each service runs an `EventBusManager`, which posts on the `service_events` topic that it joins,
every ten seconds that it is still there, and that it leaves; all of this is on one partition.  The
same messages come back to every service, which enters the others in `Services_`.  Whom a service
knows is then told by the heartbeats.
-/

namespace Owprov

open RowTable Runs TimedRegistry Heartbeats

/-- What `MicroService` says of itself on the bus. -/
structure MicroService where
  id : UInt64
  appName : String
  publicEndPoint : String
  privateEndPoint : String
  hash : String
  version : String

namespace MicroService

/-- `MakeSystemEventMessage`, as its text parses. -/
def makeSystemEventMessage (service : MicroService) (type : String) : JsonObject :=
  [("event", .str type), ("id", .scalar service.id.toNat.repr),
    ("type", .str (toLower service.appName)), ("publicEndPoint", .str service.publicEndPoint),
    ("privateEndPoint", .str service.privateEndPoint), ("key", .str service.hash),
    ("version", .str service.version)]

/-- The entry of a service that is heard of. -/
def entry (service : MicroService) (now : UInt64) : MicroServiceMeta where
  id := service.id
  type := toLower service.appName
  privateEndPoint := service.privateEndPoint
  publicEndPoint := service.publicEndPoint
  accessKey := service.hash
  version := service.version
  lastUpdate := now

end MicroService

/-- A message that is about no service. -/
structure OtherMessage where
  payload : Option JsonObject
  aboutNone : ∀ env received swept privateEndPoint,
    ¬ (BusMessage.mk payload received swept).Mentions env privateEndPoint

/-- The services that share a bus, and how an id is converted from the text of a message. -/
structure Deployment (ι : Type) where
  service : ι → MicroService
  toUInt64 : Json → Except Failure UInt64
  readsIds : ∀ id : UInt64, toUInt64 (.scalar id.toNat.repr) = .ok id
  idsDiffer : Function.Injective fun i => (service i).id
  endPointsDiffer : Function.Injective fun i => (service i).privateEndPoint

/-- The topic, and the `Services_` of each service. -/
structure EventBus (ι : Type) where
  topic : Topic ι OtherMessage := {}
  services : ι → Services := fun _ => Registry.empty

namespace Deployment

variable {ι : Type} (d : Deployment ι)

def busEnv (r : ι) : BusEnv where
  id := (d.service r).id
  toUInt64 := d.toUInt64

/-- What `EventBusManager::run` posts, and what else may be on the topic. -/
def payload : Signal ι OtherMessage → Option JsonObject
  | .join i => some ((d.service i).makeSystemEventMessage "join")
  | .beat i => some ((d.service i).makeSystemEventMessage "keep-alive")
  | .leave i => some ((d.service i).makeSystemEventMessage "leave")
  | .other message => message.payload

/-- A message that is read and swept after at one time. -/
def busMessage (signal : Signal ι OtherMessage) (now : ℕ) : BusMessage where
  payload := d.payload signal
  received := UInt64.ofNat now
  swept := UInt64.ofNat now

variable [DecidableEq ι]

/-- `Services_` is empty in a new process, and changes when a message is read. -/
def servicesNext (now : ℕ) (services : ι → Services) : Action ι OtherMessage → ι → Services
  | .boot i => Function.update services i Registry.empty
  | .read i signal =>
      Function.update services i
        (busMessageReceived (d.busEnv i) (services i) (d.busMessage signal now))
  | _ => services

def BusStep (s t : EventBus ι) : Prop :=
  ∃ action, Heartbeats.Step s.topic action t.topic ∧
    t.services = d.servicesNext s.topic.clock s.services action

def BusStart (s : EventBus ι) : Prop :=
  IsStart s.topic ∧ ∀ i, s.services i = Registry.empty

/-- A step after which no service that is up has been silent for longer than `beat`, and nothing
that `r` has not read has been there for `delay`. -/
def TimelyBusStep (beat delay : ℕ) (r : ι) (s t : EventBus ι) : Prop :=
  d.BusStep s t ∧ Timely beat delay r t.topic

/-- `GetServices` answers the service, with its own data. -/
def Knows (s : EventBus ι) (r i : ι) : Prop :=
  ∃ now, (d.service i).entry now ∈ getServices (s.services r) (d.service i).appName

end Deployment

/-! ## What a message says -/

section Messages

variable {ι : Type} {d : Deployment ι} {r i : ι} {signal : Signal ι OtherMessage}

/-- A message of a service reads back as its entry, unless the reader sent it itself. -/
theorem readBusEvent_announces {env : BusEnv} {service : MicroService} {type : String}
    (readsId : env.toUInt64 (.scalar service.id.toNat.repr) = .ok service.id)
    (announces : type = "join" ∨ type = "keep-alive") (now : UInt64) :
    readBusEvent env (service.makeSystemEventMessage type) now =
      .ok (if service.id = env.id then .ignored else .joined (service.entry now)) := by
  have stays : type ≠ "leave" := by
    rcases announces with rfl | rfl <;> decide
  simp only [readBusEvent, readService, hasServiceFields, MicroService.makeSystemEventMessage,
    JsonObject.has, JsonObject.getString, Json.toString, List.lookup]
  simp [readsId, stays, announces, MicroService.entry, Stored.toLower_toLower, bind, Except.bind,
    pure, Except.pure, apply_ite]

theorem readBusEvent_leaves {env : BusEnv} {service : MicroService}
    (readsId : env.toUInt64 (.scalar service.id.toNat.repr) = .ok service.id)
    (now : UInt64) :
    readBusEvent env (service.makeSystemEventMessage "leave") now =
      .ok (if service.id = env.id then .ignored else .left service.privateEndPoint) := by
  simp only [readBusEvent, hasServiceFields, MicroService.makeSystemEventMessage,
    JsonObject.has, JsonObject.getString, Json.toString, List.lookup]
  simp [readsId, bind, Except.bind, pure, Except.pure, apply_ite]

theorem id_eq_iff : (d.service i).id = (d.busEnv r).id ↔ i = r :=
  d.idsDiffer.eq_iff

theorem read_of_announces {now : ℕ} (announces : signal.Announces i) :
    (d.busMessage signal now).read (d.busEnv r) =
      .ok (if (d.service i).id = (d.busEnv r).id then .ignored
        else .joined ((d.service i).entry (UInt64.ofNat now))) := by
  cases signal with
  | join member =>
      obtain rfl : member = i := announces
      exact readBusEvent_announces (d.readsIds _) (.inl rfl) _
  | beat member =>
      obtain rfl : member = i := announces
      exact readBusEvent_announces (d.readsIds _) (.inr rfl) _
  | leave member => exact announces.elim
  | other message => exact announces.elim

theorem read_leave {now : ℕ} :
    (d.busMessage (.leave i) now).read (d.busEnv r) =
      .ok (if (d.service i).id = (d.busEnv r).id then .ignored
        else .left (d.service i).privateEndPoint) :=
  readBusEvent_leaves (d.readsIds _) _

/-- A message of a service announces the service, or says that it leaves. -/
theorem isOf_cases (isOf : signal.IsOf i) : signal.Announces i ∨ signal = .leave i := by
  cases signal with
  | join member => exact .inl isOf
  | beat member => exact .inl isOf
  | leave member => exact .inr (congrArg Signal.leave isOf)
  | other message => exact isOf.elim

theorem sweeps_of_isOf {now : ℕ} (isOf : signal.IsOf i) :
    (d.busMessage signal now).Sweeps (d.busEnv r) := by
  rcases isOf_cases isOf with announces | rfl
  · exact ⟨_, read_of_announces announces⟩
  · exact ⟨_, read_leave⟩

theorem announces_of_announces {now : ℕ} (announces : signal.Announces i) (other : i ≠ r) :
    (d.busMessage signal now).Announces (d.busEnv r) ((d.service i).entry (UInt64.ofNat now)) := by
  rw [BusMessage.Announces, read_of_announces announces, if_neg (id_eq_iff.not.mpr other)]

theorem not_left_of_announces {now : ℕ} {privateEndPoint : String}
    (announces : signal.Announces i) :
    (d.busMessage signal now).read (d.busEnv r) ≠ .ok (.left privateEndPoint) := by
  intro leaves
  rw [read_of_announces announces] at leaves
  split at leaves <;> cases leaves

/-- Only a message of a service says something of it, and only what it says of itself. -/
theorem isOf_of_announces {now : ℕ} {entry : MicroServiceMeta}
    (announces : (d.busMessage signal now).Announces (d.busEnv r) entry) :
    ∃ i, signal.Announces i ∧ i ≠ r ∧ entry = (d.service i).entry (UInt64.ofNat now) := by
  have ofMember : ∀ i, signal.Announces i →
      ∃ i, signal.Announces i ∧ i ≠ r ∧ entry = (d.service i).entry (UInt64.ofNat now) := by
    intro i isAnnounced
    rw [BusMessage.Announces, read_of_announces isAnnounced] at announces
    by_cases own : (d.service i).id = (d.busEnv r).id
    · rw [if_pos own] at announces
      cases announces
    · rw [if_neg own] at announces
      cases announces
      exact ⟨i, isAnnounced, id_eq_iff.not.mp own, rfl⟩
  cases signal with
  | join member => exact ofMember member rfl
  | beat member => exact ofMember member rfl
  | leave member =>
      rw [BusMessage.Announces, read_leave] at announces
      split at announces <;> cases announces
  | other message => exact absurd (.inr ⟨entry, announces, rfl⟩) (message.aboutNone _ _ _ _)

theorem mentions_busMessage_iff {now : ℕ} (other : i ≠ r) :
    (d.busMessage signal now).Mentions (d.busEnv r) (d.service i).privateEndPoint ↔
      signal.IsOf i := by
  constructor
  · rintro (leaves | ⟨entry, announces, same⟩)
    · cases signal with
      | join member => exact absurd leaves (not_left_of_announces (i := member) rfl)
      | beat member => exact absurd leaves (not_left_of_announces (i := member) rfl)
      | leave member =>
          rw [read_leave] at leaves
          split at leaves
          · cases leaves
          · rw [Except.ok.injEq, BusEvent.left.injEq] at leaves
            exact d.endPointsDiffer leaves
      | other message => exact absurd (.inl leaves) (message.aboutNone _ _ _ _)
    · obtain ⟨member, isAnnounced, _, rfl⟩ := isOf_of_announces announces
      obtain rfl := d.endPointsDiffer same
      exact isAnnounced.isOf
  · intro isOf
    rcases isOf_cases isOf with announces | rfl
    · exact .inr ⟨_, announces_of_announces announces other, rfl⟩
    · refine .inl ?_
      rw [read_leave, if_neg (id_eq_iff.not.mpr other)]

end Messages

/-! ## Whom a service knows -/

section Runs

variable {ι : Type} [DecidableEq ι] {d : Deployment ι} {beat delay : ℕ} {r i : ι} {s t : EventBus ι}

/-- What was read, and when. -/
def Deployment.messageOf (d : Deployment ι) (reading : (Signal ι OtherMessage × ℕ) × ℕ) :
    BusMessage :=
  d.busMessage reading.1.1 reading.2

/-- The messages that a service has read since it was booted. -/
def Deployment.messages (d : Deployment ι) (s : EventBus ι) (r : ι) : List BusMessage :=
  (s.topic.process r).reads.map d.messageOf

/-- `Services_` comes from what was read. -/
theorem services_step
    (before : ∀ r, s.services r = servicesAfter (d.busEnv r) (d.messages s r))
    (step : d.BusStep s t) (r : ι) :
    t.services r = servicesAfter (d.busEnv r) (d.messages t r) := by
  obtain ⟨action, step, isNext⟩ := step
  obtain ⟨topic, services⟩ := s
  obtain ⟨topic', services'⟩ := t
  dsimp only at step isNext
  subst isNext
  unfold Deployment.messages at before ⊢
  dsimp only at before ⊢
  have apart : ∀ {j : ι} {p : Process ι OtherMessage}, (j = r → p.reads = (topic.process r).reads) →
      services r = servicesAfter (d.busEnv r) (((topic.set j p).process r).reads.map
        d.messageOf) := by
    intro j p same
    by_cases own : r = j
    · subst own
      rw [Topic.process_set_self, same rfl]
      exact before r
    · rw [Topic.process_set_of_ne topic p own]
      exact before r
  cases step with
  | wait later => exact before r
  | @boot j since off there =>
      by_cases own : r = j
      · subst own
        rw [Topic.process_set_self]
        exact Function.update_self _ _ _
      · exact (Function.update_of_ne own _ _).trans (apart fun same => absurd same.symm own)
  | @join j reading => exact apart fun same => same ▸ rfl
  | beat _ => exact before r
  | @leave j _ => exact apart fun same => same ▸ rfl
  | @halt j => exact apart fun same => same ▸ rfl
  | other => exact before r
  | @read j post rest runs next =>
      by_cases own : r = j
      · subst own
        rw [Topic.process_set_self, List.map_append, servicesAfter, List.foldl_append,
          ← servicesAfter, ← before]
        exact Function.update_self _ _ _
      · exact (Function.update_of_ne own _ _).trans (apart fun same => absurd same.symm own)

/-- The topic of a run of the bus runs by itself. -/
theorem topic_of_run (run : Reachable Deployment.BusStart (d.TimelyBusStep beat delay r) s) :
    Reachable IsStart (TimelyStep beat delay r) s.topic := by
  induction run with
  | start isStart => exact .start isStart.1
  | step _ isStep ih =>
      obtain ⟨⟨action, step, _⟩, timely⟩ := isStep
      exact .step ih ⟨⟨action, step⟩, timely⟩

theorem services_of_run (run : Reachable Deployment.BusStart (d.TimelyBusStep beat delay r) s) :
    ∀ r, s.services r = servicesAfter (d.busEnv r) (d.messages s r) := by
  refine run.invariant (fun s start r => ?_) fun s t before step => services_step before step.1
  rw [start.2 r, Deployment.messages, start.1.2 r]
  rfl

/-- Times that fit are as far apart as their difference says. -/
theorem sub_le_iff_of_le {earlier later : ℕ} (inOrder : earlier ≤ later)
    (fits : later < 2 ^ 64) :
    UInt64.ofNat later - UInt64.ofNat earlier ≤ 120 ↔ later ≤ earlier + 120 := by
  have isLater : (UInt64.ofNat later).toNat = later := UInt64.toNat_ofNat_of_lt' fits
  have isEarlier : (UInt64.ofNat earlier).toNat = earlier :=
    UInt64.toNat_ofNat_of_lt' (inOrder.trans_lt fits)
  have below : UInt64.ofNat earlier ≤ UInt64.ofNat later := by
    rw [UInt64.le_iff_toNat_le, isLater, isEarlier]
    exact inOrder
  rw [UInt64.le_iff_toNat_le, UInt64.toNat_sub_of_le _ _ below, isLater, isEarlier]
  change later - earlier ≤ 120 ↔ _
  omega

/-- The messages after which a service sweeps. -/
def Deployment.sweeps (d : Deployment ι) (r : ι) (reading : (Signal ι OtherMessage × ℕ) × ℕ) :
    Prop :=
  (d.messageOf reading).Sweeps (d.busEnv r)

omit [DecidableEq ι] in
/-- A service knows another when the last that it has read of it is that it is there. -/
theorem knows_iff_heard (orderly : Orderly s.topic) (fits : s.topic.clock < 2 ^ 64)
    (isNext : s.services r = servicesAfter (d.busEnv r) (d.messages s r)) (other : i ≠ r) :
    d.Knows s r i ↔ Heard (d.sweeps r) 120 s.topic r i := by
  have process := orderly.process r
  have isYoung : ∀ before reading after, (s.topic.process r).reads = before ++ reading :: after →
      ∀ since ∈ reading :: after,
        (UInt64.ofNat since.2 - UInt64.ofNat reading.2 ≤ 120 ↔ since.2 ≤ reading.2 + 120) := by
    intro before reading after split since member
    have sorted := process.sorted
    rw [split] at sorted
    have isRead : since ∈ (s.topic.process r).reads := by
      rw [split]
      exact List.mem_append_right _ member
    have past := (process.past since isRead).2
    refine sub_le_iff_of_le ?_ (by omega)
    rcases List.mem_cons.mp member with rfl | member
    · exact le_refl _
    · exact List.rel_of_pairwise_cons (List.pairwise_append.mp sorted).2.1 member
  unfold Deployment.Knows
  constructor
  · rintro ⟨now, member⟩
    rw [isNext, getServices, List.mem_filter, mem_services_iff] at member
    obtain ⟨⟨before, message, after, split, announces, unmentioned, young⟩, _⟩ := member
    obtain ⟨first, rest, isReads, rfl, isRest⟩ := List.map_eq_append_iff.mp split
    obtain ⟨reading, last, rfl, rfl, rfl⟩ := List.map_eq_cons_iff.mp isRest
    obtain ⟨member, isAnnounced, _, same⟩ := isOf_of_announces announces
    obtain rfl := d.endPointsDiffer (congrArg MicroServiceMeta.privateEndPoint same)
    have isNow : now = UInt64.ofNat reading.2 := congrArg MicroServiceMeta.lastUpdate same
    refine ⟨first, reading, last, isReads, isAnnounced, ?_, ?_⟩
    · intro later isLater isOf
      exact unmentioned _ (List.mem_map_of_mem isLater) ((mentions_busMessage_iff other).mpr isOf)
    · intro since isSince sweeps
      have member : d.messageOf since ∈ (reading :: last).map d.messageOf :=
        List.mem_map_of_mem isSince
      have := young _ member sweeps
      rw [isNow] at this
      exact (isYoung _ _ _ isReads since isSince).mp this
  · rintro ⟨first, reading, last, isReads, announces, unmentioned, young⟩
    refine ⟨UInt64.ofNat reading.2, ?_⟩
    rw [isNext, getServices, List.mem_filter, mem_services_iff]
    refine ⟨⟨first.map d.messageOf, d.messageOf reading, last.map d.messageOf, ?_,
      announces_of_announces announces other, ?_, ?_⟩, by simp [MicroService.entry]⟩
    · rw [Deployment.messages, isReads, List.map_append, List.map_cons]
    · intro later isLater
      obtain ⟨message, isMessage, rfl⟩ := List.mem_map.mp isLater
      exact (mentions_busMessage_iff other).not.mpr (unmentioned message isMessage)
    · intro since isSince sweeps
      rw [← List.map_cons] at isSince
      obtain ⟨message, isMessage, rfl⟩ := List.mem_map.mp isSince
      exact (isYoung _ _ _ isReads message isMessage).mpr (young message isMessage sweeps)

end Runs

/-- In every timely run a service that has been on the bus for a while knows which of the others
are there: one that is there it knows from `delay` on after its join, one that leaves it does not
know from `delay` on, and one that halts without a word it forgets. -/
theorem detects_services {ι : Type} [DecidableEq ι] {d : Deployment ι} {beat delay : ℕ} {r i : ι}
    {s : EventBus ι} (run : Reachable Deployment.BusStart (d.TimelyBusStep beat delay r) s)
    (small : beat + delay ≤ 120) (fits : s.topic.clock < 2 ^ 64)
    (readerUp : (s.topic.process r).phase = .up)
    (settled : (s.topic.process r).changed + 120 + beat + 2 * delay < s.topic.clock)
    (other : i ≠ r) : Detects 120 beat delay s.topic i (d.Knows s r i) := by
  have topicRun := topic_of_run run
  rw [knows_iff_heard (kept_of_run topicRun).orderly fits (services_of_run run r) other]
  exact detects_of_run topicRun small (fun _ announces => sweeps_of_isOf announces.isOf) readerUp
    settled i

/-- A step of the topic, with what it does to the services. -/
theorem extend_run {ι : Type} [DecidableEq ι] {d : Deployment ι} {beat delay : ℕ} {r : ι}
    {s : EventBus ι} {action : Action ι OtherMessage} {topic : Topic ι OtherMessage}
    (run : Reachable Deployment.BusStart (d.TimelyBusStep beat delay r) s)
    (step : Heartbeats.Step s.topic action topic) (timely : Timely beat delay r topic) :
    Reachable Deployment.BusStart (d.TimelyBusStep beat delay r)
      { topic := topic, services := d.servicesNext s.topic.clock s.services action } :=
  .step run ⟨⟨action, step, rfl⟩, timely⟩

/-- Two services, with an id that is read as a decimal number. -/
def twoServices : Deployment Bool where
  service second :=
    { id := if second then 2 else 1
      appName := if second then "owprov" else "owgw"
      publicEndPoint := "https://public"
      privateEndPoint := if second then "https://owprov:17005" else "https://owgw:17002"
      hash := "h"
      version := "1" }
  toUInt64
    | .scalar text => .ok (UInt64.ofNat (Nat.ofDigitChars 10 text.toList 0))
    | _ => .error .thrown
  readsIds id := by
    dsimp only
    rw [Nat.toList_repr, Nat.ofDigitChars_toDigits (by decide) (by decide), UInt64.ofNat_toNat]
  idsDiffer := by decide
  endPointsDiffer := by decide

/-- One of the services joins and beats twice, and the other never comes. -/
theorem detects_absent_service :
    ∃ s : EventBus Bool, Detects 120 119 1 s.topic false (twoServices.Knows s true false) := by
  have start : Reachable Deployment.BusStart (twoServices.TimelyBusStep 119 1 true) {} :=
    .start ⟨⟨rfl, fun _ => rfl⟩, fun _ => rfl⟩
  have booted := extend_run start (.boot (i := true) rfl (le_refl 0)) (by decide)
  have joined := extend_run booted (.join (i := true) rfl) (by decide)
  have readJoin := extend_run joined (.read (i := true) (by decide) rfl) (by decide)
  have slept := extend_run readJoin (.wait (show 0 ≤ 119 by decide)) (by decide)
  have beaten := extend_run slept (.beat (i := true) rfl) (by decide)
  have readBeat := extend_run beaten (.read (i := true) (by decide) rfl) (by decide)
  have sleptAgain := extend_run readBeat (.wait (show 119 ≤ 238 by decide)) (by decide)
  have beatenAgain := extend_run sleptAgain (.beat (i := true) rfl) (by decide)
  have readAgain := extend_run beatenAgain (.read (i := true) (by decide) rfl) (by decide)
  have settled := extend_run readAgain (.wait (show 238 ≤ 242 by decide)) (by decide)
  exact ⟨_, detects_services settled (by decide) (by decide) rfl (by decide) (by decide)⟩

end Owprov
