import Mathlib.Algebra.Group.Nat.Defs
import Mathlib.Data.List.Basic
import Mathlib.Logic.Function.Basic

/-!
# Watchers of topics

`KafkaConsumer` calls the functions that are registered for the topic of a message.  It subscribes
to the topics that are registered when its thread starts, and keeps the ids of the functions as
`int`.
-/

namespace Owprov

structure KafkaMessage where
  topic : String
  key : String
  payload : String
  deriving DecidableEq, Repr

/-- A function and its id. -/
structure TopicWatcher (φ : Type) where
  callback : φ
  id : Int32
  deriving DecidableEq

structure KafkaConsumer (φ : Type) where
  notifiers : String → List (TopicWatcher φ) := fun _ => []
  functionId : UInt64 := 1
  topics : List String := []
  /-- What `Consumer.subscribe` was called with. -/
  subscribed : List String := []
  /-- The calls so far, the last one first. -/
  calls : List (TopicWatcher φ × KafkaMessage) := []

/-- How an id becomes an `int`. -/
def toInt (id : UInt64) : Int32 :=
  id.toUInt32.toInt32

/-- What happens at a consumer. -/
inductive KafkaEvent (φ : Type) where
  | register (topic : String) (callback : φ)
  | unregister (topic : String) (id : UInt64)
  | start
  /-- A message arrives at the broker. -/
  | arrive (message : KafkaMessage)

namespace KafkaConsumer

variable {φ : Type}

/-- The consumer and the id that the caller gets. -/
def registerTopicWatcher (consumer : KafkaConsumer φ) (topic : String) (callback : φ) :
    KafkaConsumer φ × UInt64 :=
  ({ consumer with
      notifiers := Function.update consumer.notifiers topic
        (consumer.notifiers topic ++ [⟨callback, toInt consumer.functionId⟩])
      topics := consumer.topics.insert topic
      functionId := consumer.functionId + 1 },
    consumer.functionId)

/-- The first function with the id goes. -/
def unregisterTopicWatcher (consumer : KafkaConsumer φ) (topic : String) (id : UInt64) :
    KafkaConsumer φ :=
  { consumer with
    notifiers := Function.update consumer.notifiers topic
      ((consumer.notifiers topic).eraseP fun watcher => watcher.id = toInt id) }

/-- The start of `run`. -/
def subscribe (consumer : KafkaConsumer φ) : KafkaConsumer φ :=
  { consumer with subscribed := consumer.topics }

/-- What `run` does with a message; what a function throws is dropped. -/
def dispatch (consumer : KafkaConsumer φ) (message : KafkaMessage) : KafkaConsumer φ :=
  { consumer with
    calls := ((consumer.notifiers message.topic).map fun watcher => (watcher, message)).reverse ++
      consumer.calls }

/-- The broker gives a consumer the messages of its topics. -/
def next (consumer : KafkaConsumer φ) : KafkaEvent φ → KafkaConsumer φ
  | .register topic callback => (consumer.registerTopicWatcher topic callback).1
  | .unregister topic id => consumer.unregisterTopicWatcher topic id
  | .start => consumer.subscribe
  | .arrive message =>
      if message.topic ∈ consumer.subscribed then consumer.dispatch message else consumer

/-- The consumer after what has happened, of which the last comes first. -/
def after : List (KafkaEvent φ) → KafkaConsumer φ
  | [] => {}
  | event :: history => (after history).next event

end KafkaConsumer

namespace KafkaEvent

variable {φ : Type}

def isRegister : KafkaEvent φ → Bool
  | register _ _ => true
  | _ => false

def registers (topic : String) : KafkaEvent φ → Bool
  | register other _ => topic == other
  | _ => false

def unregisters (topic : String) (id : UInt64) : KafkaEvent φ → Bool
  | unregister other otherId => topic == other && toInt otherId == toInt id
  | _ => false

/-- A topic is subscribed to when a start comes after one of its registrations. -/
def subscribes (topic : String) : List (KafkaEvent φ) → Bool
  | [] => false
  | start :: history => history.any (registers topic)
  | _ :: history => subscribes topic history

/-- The messages of a topic that reach a function between its registration and the end of it. -/
def heard (topic : String) (id : UInt64) (older : List (KafkaEvent φ)) :
    List (KafkaEvent φ) → List KafkaMessage
  | [] => []
  | arrive message :: newer =>
      if message.topic = topic ∧ subscribes topic (newer ++ older) ∧
          newer.all fun event => !unregisters topic id event
      then message :: heard topic id older newer
      else heard topic id older newer
  | _ :: newer => heard topic id older newer

end KafkaEvent

/-! ## Ids -/

section Ids

variable {φ : Type}

open KafkaConsumer KafkaEvent

@[simp]
theorem next_arrive_functionId (consumer : KafkaConsumer φ) (message : KafkaMessage) :
    (consumer.next (.arrive message)).functionId = consumer.functionId := by
  simp only [next]
  split <;> rfl

@[simp]
theorem next_arrive_notifiers (consumer : KafkaConsumer φ) (message : KafkaMessage) :
    (consumer.next (.arrive message)).notifiers = consumer.notifiers := by
  simp only [next]
  split <;> rfl

@[simp]
theorem next_arrive_topics (consumer : KafkaConsumer φ) (message : KafkaMessage) :
    (consumer.next (.arrive message)).topics = consumer.topics := by
  simp only [next]
  split <;> rfl

@[simp]
theorem next_arrive_subscribed (consumer : KafkaConsumer φ) (message : KafkaMessage) :
    (consumer.next (.arrive message)).subscribed = consumer.subscribed := by
  simp only [next]
  split <;> rfl

theorem toInt_inj_of_lt {m n : ℕ} (small : m < 2 ^ 32) (small' : n < 2 ^ 32)
    (same : toInt (UInt64.ofNat m) = toInt (UInt64.ofNat n)) : m = n := by
  have words := congrArg Int32.toUInt32 same
  have numbers := congrArg UInt32.toNat words
  simp only [toInt, UInt32.toUInt32_toInt32, UInt64.toNat_toUInt32, UInt64.toNat_ofNat'] at numbers
  omega

/-- The ids are numbered. -/
theorem functionId_after (history : List (KafkaEvent φ)) :
    (after history).functionId = UInt64.ofNat (history.countP isRegister + 1) := by
  induction history with
  | nil => rfl
  | cons event history ih =>
      cases event with
      | register topic callback =>
          rw [List.countP_cons_of_pos rfl]
          show (after history).functionId + 1 = _
          rw [ih]
          simp
      | unregister | start =>
          rw [List.countP_cons_of_neg Bool.false_ne_true]
          exact ih
      | arrive message =>
          rw [List.countP_cons_of_neg Bool.false_ne_true]
          exact (next_arrive_functionId _ _).trans ih

/-- A later registration gets another id. -/
theorem id_ne_of_later {callback : φ} {topic : String} {newer older : List (KafkaEvent φ)}
    (few : (newer ++ .register topic callback :: older).countP isRegister + 1 < 2 ^ 32) :
    toInt (after (newer ++ .register topic callback :: older)).functionId ≠
      toInt (after older).functionId := by
  intro same
  rw [functionId_after, functionId_after] at same
  rw [List.countP_append, List.countP_cons_of_pos rfl] at few same
  have := toInt_inj_of_lt few (by omega) same
  omega

/-- A function is there because of a registration. -/
theorem registered_of_mem {history : List (KafkaEvent φ)} {topic : String}
    {watcher : TopicWatcher φ} (member : watcher ∈ (after history).notifiers topic) :
    ∃ newer callback older, history = newer ++ .register topic callback :: older ∧
      watcher = ⟨callback, toInt (after older).functionId⟩ := by
  induction history with
  | nil => cases member
  | cons event history ih =>
      have before (old : watcher ∈ (after history).notifiers topic) :
          ∃ newer callback older,
            event :: history = newer ++ .register topic callback :: older ∧
              watcher = ⟨callback, toInt (after older).functionId⟩ := by
        obtain ⟨newer, callback, older, rfl, rfl⟩ := ih old
        exact ⟨event :: newer, callback, older, rfl, rfl⟩
      cases event with
      | register other callback =>
          simp only [after, next, registerTopicWatcher, Function.update_apply] at member
          split at member
          case isTrue same =>
            subst same
            rcases List.mem_append.mp member with old | new
            · exact before old
            · rw [List.mem_singleton] at new
              exact ⟨[], callback, history, rfl, new⟩
          case isFalse => exact before member
      | unregister other id =>
          simp only [after, next, unregisterTopicWatcher, Function.update_apply] at member
          split at member
          case isTrue same =>
            subst same
            exact before (List.mem_of_mem_eraseP member)
          case isFalse => exact before member
      | start => exact before member
      | arrive message =>
          rw [after, next_arrive_notifiers] at member
          exact before member

theorem registered_of_called {history : List (KafkaEvent φ)} {watcher : TopicWatcher φ}
    {message : KafkaMessage} (called : (watcher, message) ∈ (after history).calls) :
    ∃ newer callback older,
      history = newer ++ .register message.topic callback :: older ∧
        watcher = ⟨callback, toInt (after older).functionId⟩ := by
  induction history with
  | nil => cases called
  | cons event history ih =>
      have before (newer : List (KafkaEvent φ)) (callback : φ) (older : List (KafkaEvent φ))
          (same : history = newer ++ .register message.topic callback :: older) :
          event :: history = event :: newer ++ .register message.topic callback :: older :=
        congrArg (event :: ·) same
      cases event with
      | register | unregister | start =>
          obtain ⟨newer, callback, older, same, isWatcher⟩ := ih called
          exact ⟨_, callback, older, before newer callback older same, isWatcher⟩
      | arrive other =>
          rw [after, next] at called
          split at called
          case isTrue =>
            rcases List.mem_append.mp called with new | old
            · rw [List.mem_reverse, List.mem_map] at new
              obtain ⟨watched, member, same⟩ := new
              obtain ⟨rfl, rfl⟩ := Prod.mk.inj same
              obtain ⟨newer, callback, older, split, isWatcher⟩ := registered_of_mem member
              exact ⟨_, callback, older, before newer callback older split, isWatcher⟩
            · obtain ⟨newer, callback, older, same, isWatcher⟩ := ih old
              exact ⟨_, callback, older, before newer callback older same, isWatcher⟩
          case isFalse =>
            obtain ⟨newer, callback, older, same, isWatcher⟩ := ih called
            exact ⟨_, callback, older, before newer callback older same, isWatcher⟩

end Ids

/-! ## Functions that are called -/

section Calls

variable {φ : Type} {topic : String} {callback : φ} {newer older : List (KafkaEvent φ)}

open KafkaConsumer KafkaEvent

/-- Whether a function has the id of the next registration. -/
def hasNextId (older : List (KafkaEvent φ)) (watcher : TopicWatcher φ) : Bool :=
  watcher.id = toInt (after older).functionId

def watcherOf (callback : φ) (older : List (KafkaEvent φ)) : TopicWatcher φ :=
  ⟨callback, toInt (after older).functionId⟩

theorem hasNextId_eq_false_of_registered (few : older.countP isRegister + 1 < 2 ^ 32)
    {watcher : TopicWatcher φ} {middle oldest : List (KafkaEvent φ)} {other : φ}
    {otherTopic : String} (split : older = middle ++ .register otherTopic other :: oldest)
    (isWatcher : watcher = ⟨other, toInt (after oldest).functionId⟩) :
    hasNextId older watcher = false := by
  subst split isWatcher
  exact decide_eq_false (id_ne_of_later few).symm

theorem topics_after (history : List (KafkaEvent φ)) :
    topic ∈ (after history).topics ↔ history.any (registers topic) = true := by
  induction history with
  | nil => simp [after]
  | cons event history ih =>
      cases event with
      | register other callback =>
          show topic ∈ List.insert other (after history).topics ↔ _
          rw [List.mem_insert_iff, ih, List.any_cons, Bool.or_eq_true]
          simp [registers]
      | unregister | start => exact ih
      | arrive message =>
          rw [after, next_arrive_topics]
          exact ih

theorem subscribed_after (history : List (KafkaEvent φ)) :
    topic ∈ (after history).subscribed ↔ subscribes topic history = true := by
  induction history with
  | nil => simp [after, subscribes]
  | cons event history ih =>
      cases event with
      | register | unregister => exact ih
      | start => exact topics_after history
      | arrive message =>
          rw [after, next_arrive_subscribed]
          exact ih

theorem filter_eraseP_of_other {α : Type} {p q : α → Bool} {items : List α}
    (other : ∀ item, q item = true → p item = false) :
    (items.eraseP q).filter p = items.filter p := by
  induction items with
  | nil => rfl
  | cons item items ih =>
      by_cases erased : q item = true
      · have dropped : ¬p item = true := ne_true_of_eq_false (other item erased)
        rw [List.eraseP_cons_of_pos erased, List.filter_cons_of_neg dropped]
      · rw [List.eraseP_cons_of_neg erased, List.filter_cons, List.filter_cons, ih]

theorem filter_eraseP_self {α : Type} (p : α → Bool) (items : List α) :
    (items.eraseP p).filter p = (items.filter p).tail := by
  induction items with
  | nil => rfl
  | cons item items ih =>
      by_cases erased : p item = true
      · rw [List.eraseP_cons_of_pos erased, List.filter_cons_of_pos erased, List.tail_cons]
      · rw [List.eraseP_cons_of_neg erased, List.filter_cons_of_neg erased,
          List.filter_cons_of_neg erased, ih]

/-- The function of a registration is the only one with its id, as long as it is not
unregistered. -/
theorem watchers_of_registration (other : String)
    (few : (newer ++ .register topic callback :: older).countP isRegister + 1 < 2 ^ 32) :
    ((after (newer ++ .register topic callback :: older)).notifiers other).filter
        (hasNextId older) =
      if other = topic ∧
          newer.all (fun event => !unregisters topic (after older).functionId event) = true
      then [watcherOf callback older] else [] := by
  induction newer with
  | nil =>
      rw [List.nil_append, List.countP_cons_of_pos rfl] at few
      have fresh : ((after older).notifiers other).filter (hasNextId older) = [] := by
        rw [List.filter_eq_nil_iff]
        intro watcher member
        obtain ⟨middle, someCallback, oldest, split, isWatcher⟩ := registered_of_mem member
        rw [hasNextId_eq_false_of_registered (by omega) split isWatcher]
        exact Bool.false_ne_true
      simp only [List.nil_append, after, next, registerTopicWatcher, List.all_nil, and_true,
        Function.update_apply]
      split
      case isTrue same =>
        subst same
        have own : [watcherOf callback older].filter (hasNextId older) =
            [watcherOf callback older] := List.filter_cons_of_pos (decide_eq_true rfl)
        rw [List.filter_append]
        exact congrArg₂ (· ++ ·) fresh own
      case isFalse => exact fresh
  | cons event newer ih =>
      rw [List.cons_append] at few ⊢
      have fewer : (newer ++ .register topic callback :: older).countP isRegister + 1 < 2 ^ 32 := by
        rw [List.countP_cons] at few
        omega
      have before := ih fewer
      cases event with
      | register otherTopic someCallback =>
          rw [List.countP_cons_of_pos rfl] at few
          have otherId : hasNextId older
              (watcherOf someCallback (newer ++ .register topic callback :: older)) = false :=
            decide_eq_false (id_ne_of_later fewer)
          simp only [after, next, registerTopicWatcher, Function.update_apply]
          split
          case isTrue same =>
            subst same
            have gone : [watcherOf someCallback (newer ++ .register topic callback :: older)].filter
                (hasNextId older) = [] :=
              List.filter_cons_of_neg (ne_true_of_eq_false otherId)
            rw [List.filter_append]
            exact (congrArg₂ (· ++ ·) before gone).trans (List.append_nil _)
          case isFalse => exact before
      | unregister otherTopic id =>
          simp only [after, next, unregisterTopicWatcher, Function.update_apply, List.all_cons]
          by_cases same : other = otherTopic
          · subst same
            rw [if_pos rfl]
            by_cases isNext : toInt id = toInt (after older).functionId
            · have erases : (fun watcher : TopicWatcher φ => decide (watcher.id = toInt id)) =
                  hasNextId older := by
                funext watcher
                rw [hasNextId, isNext]
              rw [erases, filter_eraseP_self, before]
              by_cases here : other = topic
              · simp [unregisters, here, isNext]
                split <;> rfl
              · simp [here]
            · rw [filter_eraseP_of_other, before]
              · simp [unregisters, isNext]
              · intro watcher erased
                rw [hasNextId, of_decide_eq_true erased]
                exact decide_eq_false isNext
          · rw [if_neg same, before]
            by_cases here : other = topic
            · subst here
              simp [unregisters, same]
            · simp [here]
      | start => exact before
      | arrive message =>
          rw [after, next_arrive_notifiers]
          exact before

/-- The calls that a message adds for a function. -/
theorem filter_dispatch (consumer : KafkaConsumer φ) (message : KafkaMessage) :
    ((consumer.dispatch message).calls.filter fun call => hasNextId older call.1) =
      (((consumer.notifiers message.topic).filter (hasNextId older)).map
        fun watcher => (watcher, message)).reverse ++
        consumer.calls.filter fun call => hasNextId older call.1 := by
  rw [dispatch, List.filter_append, List.filter_reverse, List.filter_map]
  rfl

/-- The function of a registration is called once, and in their order, for each message of its
topic that arrives until it is unregistered, if the topic is subscribed to by then. -/
theorem calls_of_registration
    (few : (newer ++ .register topic callback :: older).countP isRegister + 1 < 2 ^ 32) :
    ((after (newer ++ .register topic callback :: older)).calls.filter fun call =>
        hasNextId older call.1) =
      (heard topic (after older).functionId (.register topic callback :: older) newer).map
        fun message => (watcherOf callback older, message) := by
  induction newer with
  | nil =>
      rw [List.nil_append, List.countP_cons_of_pos rfl] at few
      rw [heard, List.map_nil, List.filter_eq_nil_iff]
      rintro ⟨watcher, message⟩ called
      have calledBefore : (watcher, message) ∈ (after older).calls := called
      obtain ⟨middle, someCallback, oldest, split, isWatcher⟩ := registered_of_called calledBefore
      rw [hasNextId_eq_false_of_registered (by omega) split isWatcher]
      exact Bool.false_ne_true
  | cons event newer ih =>
      rw [List.cons_append] at few ⊢
      have fewer : (newer ++ .register topic callback :: older).countP isRegister + 1 < 2 ^ 32 := by
        rw [List.countP_cons] at few
        omega
      have before := ih fewer
      cases event with
      | register | unregister | start => exact before
      | arrive message =>
          rw [after, next, heard]
          have watchers := watchers_of_registration message.topic fewer
          by_cases subscribed :
              subscribes message.topic (newer ++ .register topic callback :: older) = true
          · rw [if_pos ((subscribed_after _).mpr subscribed), filter_dispatch, before, watchers]
            by_cases reached : message.topic = topic ∧
                newer.all (fun event => !unregisters topic (after older).functionId event) = true
            · rw [if_pos reached, if_pos ⟨reached.1, reached.1 ▸ subscribed, reached.2⟩]
              rfl
            · rw [if_neg reached, if_neg fun heard => reached ⟨heard.1, heard.2.2⟩]
              rfl
          · rw [if_neg fun member => subscribed ((subscribed_after _).mp member), before, if_neg]
            rintro ⟨rfl, isSubscribed, _⟩
            exact subscribed isSubscribed

/-- A function that is registered before the start, and two messages of which one is its. -/
theorem registered_function_called :
    ((after ([.arrive ⟨"service_events", "", "join"⟩,
      .arrive ⟨"connection", "24f5a2070a12", "ping"⟩, .start] ++
        .register "connection" "ConnectionReceived" :: [])).calls.filter
      fun call => hasNextId [] call.1) =
        [(watcherOf "ConnectionReceived" [], ⟨"connection", "24f5a2070a12", "ping"⟩)] :=
  (calls_of_registration (by decide)).trans (by decide)

end Calls

end Owprov
