import Owprov.RRMDevices
import Owprov.SignupLifecycle

/-!
# What a pass of the signup worker searches

The worker reads the MAC addresses of its own copies with `std::stoull`.  A copy is made when the
email of an entry is verified and is not renewed when the MAC address is set, so the passes search
for the address that was set last only while the requests keep the two together.
-/

namespace Owprov

open FixedDigits RowTable Runs

/-! ## Serial numbers of a MAC address -/

/-- Four consecutive serial numbers. -/
def fourFrom (serial : String) : List String :=
  (List.range 4).map fun i => intToSerialNumber (serialValue serial + i)

/-- With a copied text the worker searches from a MAC address. -/
def SearchesFrom (copied mac : String) : Prop :=
  (normalizeMac mac).2 = true ∧ triedSerialNumbers copied = some (fourFrom (normalizeMac mac).1)

/-- `std::stoull` reads the number of a MAC address from a text. -/
def ReadsAs (copied mac : String) : Prop :=
  (normalizeMac mac).2 = true ∧
    ∃ value, stoull16 copied = some value ∧ value % 16 ^ 12 = serialValue (normalizeMac mac).1

instance (copied mac : String) : Decidable (ReadsAs copied mac) :=
  decidable_of_iff ((normalizeMac mac).2 = true ∧ (stoull16 copied).any (fun value =>
      value % 16 ^ 12 == serialValue (normalizeMac mac).1) = true) (by
    rw [ReadsAs, Option.any_eq_true]
    simp only [beq_iff_eq])

theorem intToSerialNumber_eq_iff {m n : ℕ} :
    intToSerialNumber m = intToSerialNumber n ↔ m % 16 ^ 12 = n % 16 ^ 12 := by
  constructor
  · intro same
    have digits := congrArg (fun text : String => text.toList.map hexValue) same
    rw [toList_intToSerialNumber, toList_intToSerialNumber, map_hexValue_hexChar,
      map_hexValue_hexChar] at digits
    rw [← valueOf_fixedDigits, digits, valueOf_fixedDigits]
  · intro same
    have again (k : ℕ) : fixedDigits 16 12 (k % 16 ^ 12) = fixedDigits 16 12 k := by
      have read := fixedDigits_valueOf (fun digit member =>
        lt_of_mem_fixedDigits (by decide) member : ∀ digit ∈ fixedDigits 16 12 k, digit < 16)
      rwa [valueOf_fixedDigits, length_fixedDigits] at read
    apply String.toList_inj.mp
    rw [toList_intToSerialNumber, toList_intToSerialNumber, ← again m, same, again n]

/-- The search starts at a MAC address when its number is the one that is read. -/
theorem searchesFrom_iff {copied mac : String} : SearchesFrom copied mac ↔ ReadsAs copied mac := by
  unfold SearchesFrom ReadsAs
  apply and_congr_right
  intro isMac
  have canonical := canonicalSerial_normalizeMac isMac
  have small : serialValue (normalizeMac mac).1 % 16 ^ 12 = serialValue (normalizeMac mac).1 :=
    Nat.mod_eq_of_lt canonical.serialValue_lt
  unfold triedSerialNumbers fourFrom
  constructor
  · intro tried
    obtain ⟨value, read, same⟩ := Option.map_eq_some_iff.mp tried
    refine ⟨value, read, ?_⟩
    have first := List.map_inj_left.mp same 0 (by decide)
    rw [intToSerialNumber_eq_iff] at first
    omega
  · rintro ⟨value, read, same⟩
    rw [read, Option.map_some, Option.some.injEq]
    apply List.map_congr_left
    intro i _
    rw [intToSerialNumber_eq_iff]
    omega

/-! ## Runs -/

/-- The server, and the MAC address that was set last for each entry of the database. -/
structure MacRun where
  server : SignupServer
  lastMac : String → Option String

/-- The MAC address of an entry of the database; that of a deleted entry stays. -/
def remember (signupDB : Table SignupEntry) (lastMac : String → Option String) (id : String) :
    Option String :=
  ((signupDB.get? id).map SignupEntry.macAddress).or (lastMac id)

/-- A step of the server: a request of a subscriber, a pass of the worker, or anything that leaves
the entries alone, deletes them or gives them up. -/
inductive ServerStep (env : SignupEnv) (condition : SignupServer → Request → Prop)
    (server : SignupServer) : SignupServer → Prop
  | post (ctx : Context) (request : Request)
      (unused : server.db.signupDB.get? (ctx.newId 0) = none) :
      ServerStep env condition server (server.post ctx request)
  | put (request : Request) (allowed : condition server request) :
      ServerStep env condition server (server.put request)
  | delete (ctx : Context) (request : Request) :
      ServerStep env condition server (server.delete ctx request)
  | worker (ctx : Context) : ServerStep env condition server (server.workerPass env ctx)
  | other (db : Store)
      (kept : ∀ id entry, db.signupDB.get? id = some entry →
        ∃ old, server.db.signupDB.get? id = some old ∧ (entry = old ∨ entry = old.timedOut)) :
      ServerStep env condition server { server with db := db }

inductive MacStep (env : SignupEnv) (condition : SignupServer → Request → Prop) :
    MacRun → MacRun → Prop
  | step {run : MacRun} {server : SignupServer}
      (isStep : ServerStep env condition run.server server) :
      MacStep env condition run ⟨server, remember server.db.signupDB run.lastMac⟩

/-- The service before the first signup. -/
def MacStart (run : MacRun) : Prop :=
  run.server.db.signupDB = .empty ∧ run.server.outstanding = .empty ∧
    run.server.running = true ∧ run.lastMac = fun _ => none

/-- A pass of the worker ends without an exception, comes to every entry that waits for its
device, and searches for each from the MAC address that was set last. -/
structure SearchesLast (run : MacRun) : Prop where
  finishes : ∀ env ctx, (workerLoop env ctx 0 run.server.copies run.server.db).finished = true
  listed : ∀ id entry, run.server.db.signupDB.get? id = some entry →
    entry.statusCode = .signupWaitingForDevice →
      ∃ copy ∈ run.server.copies, copy.info.id = id ∧ copy.statusCode = .signupWaitingForDevice
  searches : ∀ copy ∈ run.server.copies, copy.statusCode = .signupWaitingForDevice →
    ∃ mac, run.lastMac copy.info.id = some mac ∧ SearchesFrom copy.macAddress mac

/-- A verified entry has a MAC address that is read as it is set, and a MAC address that is set
while its copy waits for the device is the one that is read from the copy. -/
def KeepsMac (server : SignupServer) (request : Request) : Prop :=
  ∀ entry, subscriberDoPutPlan server.db request = .ok entry →
    if request.getParameter "operation" = "emailVerified" then
      ReadsAs entry.macAddress entry.macAddress
    else
      ∀ copy, server.outstanding.get? entry.info.id = some copy →
        copy.statusCode = .signupWaitingForDevice → ReadsAs copy.macAddress entry.macAddress

instance (server : SignupServer) (request : Request) : Decidable (KeepsMac server request) :=
  match planned : subscriberDoPutPlan server.db request with
  | .error failure => isTrue fun entry isPlanned => by
      rw [planned] at isPlanned
      cases isPlanned
  | .ok entry =>
      decidable_of_iff
        (if request.getParameter "operation" = "emailVerified" then
          ReadsAs entry.macAddress entry.macAddress
        else
          (server.outstanding.get? entry.info.id).all (fun copy =>
            decide (copy.statusCode = .signupWaitingForDevice →
              ReadsAs copy.macAddress entry.macAddress)) = true) (by
        simp only [KeepsMac, planned, Except.ok.injEq, forall_eq', Option.all_eq_true,
          decide_eq_true_eq])

/-! ## One entry -/

/-- The row, the copy and the last MAC address of one id keep together. -/
structure Tracked (row copy : Option SignupEntry) (lastMac : Option String) : Prop where
  current : ∀ entry, row = some entry → lastMac = some entry.macAddress
  unfinished : ∀ entry, row = some entry → entry.statusCode = .signupWaitingForEmail →
    entry.completed = 0
  listed : ∀ entry, row = some entry → entry.statusCode = .signupWaitingForDevice →
    ∃ copied, copy = some copied ∧ copied.statusCode = .signupWaitingForDevice
  reads : ∀ copied, copy = some copied → copied.statusCode = .signupWaitingForDevice →
    copied.completed = 0 ∧ ∃ mac, lastMac = some mac ∧ ReadsAs copied.macAddress mac

def TrackedServer (server : SignupServer) (lastMac : String → Option String) : Prop :=
  ∀ id, Tracked (server.db.signupDB.get? id) (server.outstanding.get? id) (lastMac id)

def AllTracked (run : MacRun) : Prop :=
  run.server.running = true ∧ TrackedServer run.server run.lastMac

section Tracked

variable {row copy : Option SignupEntry} {lastMac : Option String}

/-- A row that is as it was is remembered with the MAC address that it had. -/
theorem Tracked.same (tracked : Tracked row copy lastMac) :
    Tracked row copy ((row.map SignupEntry.macAddress).or lastMac) := by
  cases found : row with
  | none =>
      rw [Option.map_none, Option.none_or]
      exact found ▸ tracked
  | some entry =>
      rw [Option.map_some, Option.some_or, ← tracked.current entry found]
      exact found ▸ tracked

/-- A row that is gone leaves its MAC address behind. -/
theorem Tracked.removed (tracked : Tracked row copy lastMac) : Tracked none copy lastMac :=
  ⟨nofun, nofun, nofun, tracked.reads⟩

/-- A row and a copy that do not wait. -/
theorem tracked_idle {entry : SignupEntry} {copy : Option SignupEntry}
    (idle : entry.statusCode ≠ .signupWaitingForDevice)
    (unfinished : entry.statusCode = .signupWaitingForEmail → entry.completed = 0)
    (reads : ∀ copied, copy = some copied → copied.statusCode = .signupWaitingForDevice →
      copied.completed = 0 ∧ ReadsAs copied.macAddress entry.macAddress) :
    Tracked (some entry) copy (some entry.macAddress) := by
  refine ⟨?_, ?_, ?_, ?_⟩
  · intro other same
    rw [Option.some.inj same]
  · intro other same
    rwa [← Option.some.inj same]
  · intro other same waits
    exact absurd (Option.some.inj same ▸ waits) idle
  · intro copied isCopy waits
    obtain ⟨open_, read⟩ := reads copied isCopy waits
    exact ⟨open_, _, rfl, read⟩

end Tracked

theorem remember_of_same {before after : Table SignupEntry} {lastMac : String → Option String}
    {id : String} (same : after.get? id = before.get? id) :
    remember after lastMac id = ((before.get? id).map SignupEntry.macAddress).or (lastMac id) := by
  rw [remember, same]

theorem get?_addOutstandingSignup (outstanding : Table SignupEntry) (entry : SignupEntry)
    (id : String) :
    (SignupServer.addOutstandingSignup outstanding entry).get? id =
      if id = entry.info.id then some entry else outstanding.get? id := by
  unfold SignupServer.addOutstandingSignup
  cases inserted : outstanding.insert? entry with
  | some table =>
      rw [Option.getD_some, Table.get?_insert? inserted]
      rfl
  | none =>
      rw [Option.getD_none]
      by_cases same : id = entry.info.id
      · rw [if_pos same, same]
        cases found : outstanding.get? (key entry) with
        | none =>
            obtain ⟨table, isInserted⟩ := Table.insert?_isSome found
            rw [inserted] at isInserted
            cases isInserted
        | some old => exact Table.get?_update_self found
      · rw [if_neg same, Table.get?_update_of_ne _ same]

/-! ## Steps -/

theorem completed_of_created {ctx : Context} {db : Store} {request : Request}
    {operator : Operator} {userName : String} {entry : SignupEntry}
    (planned : subscriberDoPostPlan ctx db request = .ok (operator, userName, .created entry)) :
    entry.completed = 0 := by
  simp only [subscriberDoPostPlan, bind_eq_ok_iff, require_eq_ok_iff] at planned
  obtain ⟨_, _, _, _, signedUp, _, planned⟩ := planned
  split at planned
  · simp only [bind_eq_ok_iff] at planned
    obtain ⟨_, _, planned⟩ := planned
    split at planned
    · simp only [bind_eq_ok_iff] at planned
      obtain ⟨_, _, planned⟩ := planned
      exact nomatch (Prod.mk.inj (Prod.mk.inj (Except.ok.inj planned)).2).2
    · exact nomatch (Prod.mk.inj (Prod.mk.inj (Except.ok.inj planned)).2).2
  · simp only [bind_eq_ok_iff] at planned
    obtain ⟨userId, _, planned⟩ := planned
    split at planned
    · simp only [bind_eq_ok_iff] at planned
      obtain ⟨_, _, planned⟩ := planned
      exact nomatch (Prod.mk.inj (Prod.mk.inj (Except.ok.inj planned)).2).2
    · have isEntry := (Prod.mk.inj (Prod.mk.inj (Except.ok.inj planned)).2).2
      cases isEntry
      rfl

/-- A `PUT` verifies the email of an entry or sets its MAC address. -/
theorem subscriberDoPutPlan_cases {db : Store} {request : Request} {entry : SignupEntry}
    (planned : subscriberDoPutPlan db request = .ok entry) :
    ∃ old, db.signupDB.get? entry.info.id = some old ∧
      (request.getParameter "operation" = "emailVerified" ∧
          old.statusCode = .signupWaitingForEmail ∧ entry = { old with
            status := "emailVerified"
            statusCode := .signupWaitingForDevice } ∨
        request.getParameter "operation" ≠ "emailVerified" ∧ entry = { old with
          macAddress := request.getParameter "mac"
          serialNumber := request.getParameter "mac" }) := by
  simp only [subscriberDoPutPlan, bind_eq_ok_iff, require_eq_ok_iff] at planned
  obtain ⟨_, _, planned⟩ := planned
  split at planned
  · cases planned
  · rename_i old found
    have member : old ∈ db.signupDB.rows := by
      rcases Option.or_eq_some_iff.mp found with byId | ⟨_, byUser⟩
      · exact Table.mem_of_get? byId
      · exact getBy_mem byUser
    refine ⟨old, ?_⟩
    split at planned
    · rename_i verified
      cases planned
      exact ⟨Table.get?_key_of_mem member, .inl ⟨verified.1, verified.2, rfl⟩⟩
    · split at planned
      · rename_i updates
        obtain ⟨_, _, planned⟩ := bind_eq_ok_iff.mp planned
        cases planned
        refine ⟨Table.get?_key_of_mem member, .inr ⟨?_, rfl⟩⟩
        rw [updates]
        decide
      · cases planned

section Steps

variable {server : SignupServer} {lastMac : String → Option String}

/-- What a step does to an id that it has nothing to do with. -/
theorem tracked_of_untouched {next : SignupServer} {id : String}
    (tracked : TrackedServer server lastMac)
    (row : next.db.signupDB.get? id = server.db.signupDB.get? id)
    (copy : next.outstanding.get? id = server.outstanding.get? id) :
    Tracked (next.db.signupDB.get? id) (next.outstanding.get? id)
      (remember next.db.signupDB lastMac id) := by
  rw [remember_of_same row, row, copy]
  exact (tracked id).same

theorem remember_of_some {after : Table SignupEntry} {id : String} {entry : SignupEntry}
    (found : after.get? id = some entry) : remember after lastMac id = some entry.macAddress := by
  rw [remember, found]
  rfl

theorem tracked_post (ctx : Context) (request : Request) (tracked : TrackedServer server lastMac)
    (unused : server.db.signupDB.get? (ctx.newId 0) = none) :
    TrackedServer (server.post ctx request)
      (remember (server.post ctx request).db.signupDB lastMac) := by
  intro id
  cases planned : subscriberDoPostPlan ctx server.db request with
  | error failure =>
      apply tracked_of_untouched tracked <;>
        simp only [SignupServer.post, subscriberDoPost, planned, Outcome.store_fail]
  | ok result =>
      obtain ⟨operator, userName, plan⟩ := result
      have made := subscriberDoPostPlan_eq_ok planned
      cases plan with
      | answered existing =>
          apply tracked_of_untouched tracked <;>
            simp only [SignupServer.post, subscriberDoPost, planned, Outcome.store_done]
      | resent existing =>
          apply tracked_of_untouched tracked <;>
            simp only [SignupServer.post, subscriberDoPost, planned,
              signupDB_createSubscriberVenue, Table.update_self (getBy_mem made.1)]
      | created entry =>
          obtain ⟨_, _, _, newId, _, waits⟩ := made
          have free : server.db.signupDB.get? (key entry) = none :=
            (congrArg server.db.signupDB.get? newId).trans unused
          obtain ⟨signupDB, inserted⟩ := Table.insert?_isSome free
          have rows : (server.post ctx request).db.signupDB = signupDB := by
            simp only [SignupServer.post, subscriberDoPost, planned,
              signupDB_createSubscriberVenue, inserted, Option.getD_some]
          have copies : (server.post ctx request).outstanding =
              SignupServer.addOutstandingSignup server.outstanding entry := by
            simp only [SignupServer.post, planned]
          by_cases same : id = entry.info.id
          · subst same
            have row : (server.post ctx request).db.signupDB.get? entry.info.id = some entry := by
              rw [rows, Table.get?_insert? inserted]
              exact if_pos rfl
            rw [row, remember_of_some row, copies, get?_addOutstandingSignup, if_pos rfl]
            apply tracked_idle
            · rw [waits]
              decide
            · intro _
              exact completed_of_created planned
            · intro copied isCopy waitsForDevice
              rw [← Option.some.inj isCopy, waits] at waitsForDevice
              cases waitsForDevice
          · apply tracked_of_untouched tracked
            · rw [rows, Table.get?_insert? inserted]
              exact if_neg same
            · rw [copies, get?_addOutstandingSignup, if_neg same]

theorem signupDB_put {request : Request} {entry : SignupEntry}
    (planned : subscriberDoPutPlan server.db request = .ok entry) :
    (server.put request).db.signupDB = server.db.signupDB.update entry := by
  simp only [SignupServer.put, subscriberDoPut, planned, Outcome.store_done]

theorem get?_put {request : Request} {entry : SignupEntry}
    (planned : subscriberDoPutPlan server.db request = .ok entry) :
    (server.put request).db.signupDB.get? entry.info.id = some entry := by
  obtain ⟨old, found, _⟩ := subscriberDoPutPlan_cases planned
  rw [signupDB_put planned]
  exact Table.get?_update_self found

theorem outstanding_put {request : Request} {entry : SignupEntry}
    (planned : subscriberDoPutPlan server.db request = .ok entry) :
    (server.put request).outstanding =
      if request.getParameter "operation" = "emailVerified" then
        SignupServer.addOutstandingSignup server.outstanding entry
      else server.outstanding := by
  simp only [SignupServer.put, planned]

theorem tracked_put (request : Request) (tracked : TrackedServer server lastMac)
    (keeps : KeepsMac server request) :
    TrackedServer (server.put request)
      (remember (server.put request).db.signupDB lastMac) := by
  intro id
  cases planned : subscriberDoPutPlan server.db request with
  | error failure =>
      apply tracked_of_untouched tracked <;>
        simp only [SignupServer.put, subscriberDoPut, planned, Outcome.store_fail]
  | ok entry =>
      have copies := outstanding_put planned
      have allowed := keeps entry planned
      obtain ⟨old, found, change⟩ := subscriberDoPutPlan_cases planned
      by_cases same : id = entry.info.id
      · subst same
        have row := get?_put planned
        rw [row, remember_of_some row, copies]
        rcases change with ⟨verified, waits, isEntry⟩ | ⟨updates, isEntry⟩
        · rw [if_pos verified] at allowed ⊢
          rw [get?_addOutstandingSignup, if_pos rfl]
          have nowWaits : entry.statusCode = .signupWaitingForDevice := by rw [isEntry]
          have open_ : entry.completed = 0 := by
            rw [isEntry]
            exact (tracked _).unfinished old found waits
          refine ⟨?_, ?_, ?_, ?_⟩
          · intro other isOther
            rw [Option.some.inj isOther]
          · intro other isOther waitsForEmail
            rw [← Option.some.inj isOther, nowWaits] at waitsForEmail
            cases waitsForEmail
          · intro _ _ _
            exact ⟨entry, rfl, nowWaits⟩
          · intro copied isCopy _
            rw [← Option.some.inj isCopy]
            exact ⟨open_, _, rfl, allowed⟩
        · rw [if_neg updates] at allowed ⊢
          have sameStatus : entry.statusCode = old.statusCode := by rw [isEntry]
          have sameCompleted : entry.completed = old.completed := by rw [isEntry]
          have before := tracked entry.info.id
          refine ⟨?_, ?_, ?_, ?_⟩
          · intro other isOther
            rw [Option.some.inj isOther]
          · intro other isOther waitsForEmail
            rw [← Option.some.inj isOther, sameStatus] at waitsForEmail
            rw [← Option.some.inj isOther, sameCompleted]
            exact before.unfinished old found waitsForEmail
          · intro other isOther waits
            rw [← Option.some.inj isOther, sameStatus] at waits
            exact before.listed old found waits
          · intro copied isCopy waits
            exact ⟨(before.reads copied isCopy waits).1, _, rfl, allowed copied isCopy waits⟩
      · apply tracked_of_untouched tracked
        · rw [signupDB_put planned, Table.get?_update_of_ne _ same]
        · rw [copies]
          split
          · rw [get?_addOutstandingSignup, if_neg same]
          · rfl

/-- Rows that are gone, kept or given up. -/
theorem tracked_of_rows {next : SignupServer} (tracked : TrackedServer server lastMac)
    (copies : next.outstanding = server.outstanding)
    (rows : ∀ id entry, next.db.signupDB.get? id = some entry →
      ∃ old, server.db.signupDB.get? id = some old ∧ (entry = old ∨ entry = old.timedOut)) :
    TrackedServer next (remember next.db.signupDB lastMac) := by
  intro id
  cases row : next.db.signupDB.get? id with
  | none =>
      have forgotten : remember next.db.signupDB lastMac id = lastMac id := by
        rw [remember, row]
        rfl
      rw [forgotten, copies]
      exact (tracked id).removed
  | some entry =>
      obtain ⟨old, found, kept⟩ := rows id entry row
      rcases kept with rfl | rfl
      · rw [← row]
        exact tracked_of_untouched tracked (row.trans found.symm) (by rw [copies])
      · rw [remember_of_some row, copies]
        apply tracked_idle
        · exact nofun
        · exact nofun
        · intro copied isCopy waits
          obtain ⟨open_, mac, isLast, reads⟩ := (tracked id).reads copied isCopy waits
          rw [(tracked id).current old found] at isLast
          rw [← Option.some.inj isLast] at reads
          exact ⟨open_, reads⟩

theorem signupDB_subscriberDoDelete (ctx : Context) (db : Store) (request : Request) :
    (subscriberDoDelete ctx db request).store.signupDB = db.signupDB ∨
      ∃ id, (subscriberDoDelete ctx db request).store.signupDB = db.signupDB.delete id := by
  unfold subscriberDoDelete
  cases subscriberDoDeletePlan db request with
  | error failure => exact .inl rfl
  | ok planned =>
      obtain ⟨subscriberId, signup⟩ := planned
      have same := signupDB_deleteSubscriberVenues (subscriberVenues db subscriberId) db
      dsimp only
      generalize deleteSubscriberVenues (subscriberVenues db subscriberId) db = cleared at same ⊢
      cases cleared.result with
      | error failure => exact .inl same
      | ok _ =>
          dsimp only
          split
          · exact .inr ⟨signup.info.id, congrArg (Table.delete · signup.info.id) same⟩
          · exact .inl same

theorem tracked_delete (ctx : Context) (request : Request)
    (tracked : TrackedServer server lastMac) :
    TrackedServer (server.delete ctx request)
      (remember (server.delete ctx request).db.signupDB lastMac) := by
  apply @tracked_of_rows server lastMac (server.delete ctx request) tracked rfl
  intro id entry found
  refine ⟨entry, ?_, .inl rfl⟩
  rcases signupDB_subscriberDoDelete ctx server.db request with same | ⟨gone, deleted⟩
  · exact same ▸ found
  · have left : (server.db.signupDB.delete gone).get? id = some entry := deleted ▸ found
    rw [Table.get?_delete] at left
    split at left
    · cases left
    · exact left

/-- The worker comes to the end of copies that it can read. -/
theorem finished_workerLoop (env : SignupEnv) (ctx : Context) (created : ℕ)
    (entries : List SignupEntry) (db : Store) (passable : ∀ entry ∈ entries, entry.passable = true) :
    (workerLoop env ctx created entries db).finished = true := by
  induction entries generalizing created db with
  | nil => rfl
  | cons entry rest ih =>
      rw [List.forall_mem_cons] at passable
      unfold workerLoop
      by_cases waits : entry.statusCode = .signupWaitingForDevice
      · rw [if_pos waits]
        cases tried : triedSerialNumbers entry.macAddress with
        | none =>
            have stuck := passable.1
            simp [SignupEntry.passable, waits, tried] at stuck
        | some serialNumbers =>
            dsimp only
            cases findDevice db.inventoryDB serialNumbers with
            | none => exact ih created db passable.2
            | some found => exact ih (created + 1) _ passable.2
      · rw [if_neg waits]
        exact ih created db passable.2

theorem mem_copies {copy : SignupEntry} :
    copy ∈ server.copies ↔ server.outstanding.get? copy.info.id = some copy := by
  rw [SignupServer.copies, List.mem_insertionSort]
  constructor
  · exact fun member => Table.get?_key_of_mem member
  · exact fun found => Table.mem_of_get? found

theorem TrackedServer.passable (tracked : TrackedServer server lastMac) :
    ∀ copy ∈ server.copies, copy.passable = true := by
  intro copy member
  by_cases waits : copy.statusCode = .signupWaitingForDevice
  · obtain ⟨_, mac, _, reads⟩ := (tracked copy.info.id).reads copy (mem_copies.mp member) waits
    have tried := (searchesFrom_iff.mpr reads).2
    simp [SignupEntry.passable, tried]
  · simp [SignupEntry.passable, waits]

theorem tracked_worker (env : SignupEnv) (ctx : Context) (running : server.running = true)
    (tracked : TrackedServer server lastMac) :
    (server.workerPass env ctx).running = true ∧ TrackedServer (server.workerPass env ctx)
      (remember (server.workerPass env ctx).db.signupDB lastMac) := by
  have finished := finished_workerLoop env ctx 0 server.copies server.db tracked.passable
  have spec := workerLoop_spec env ctx 0 server.copies server.db
  unfold SignupServer.workerPass
  rw [if_pos running]
  generalize workerLoop env ctx 0 server.copies server.db = result at spec finished
  refine ⟨finished, ?_⟩
  have apart : (result.completed.map key).Nodup := (copies_distinct server).sublist spec.ids
  intro id
  dsimp only
  rw [if_pos finished, Table.get?_deleteWhere]
  by_cases touched : id ∈ result.completed.map key
  · obtain ⟨entry, member, rfl⟩ := List.mem_map.mp touched
    obtain ⟨_, _, _, _, _, succeeded, _⟩ := spec.completed entry member
    have row := Table.get?_foldl_update_of_mem apart member server.db.signupDB
    have copy := Table.get?_foldl_update_of_mem apart member server.outstanding
    have idle (copied : SignupEntry)
        (isCopy : ((server.outstanding.get? (key entry)).map fun _ => entry).filter
          (fun entry => !(entry.completed != 0)) = some copied) :
        copied.statusCode ≠ .signupWaitingForDevice := by
      obtain ⟨_, _, rfl⟩ := Option.map_eq_some_iff.mp (Option.filter_eq_some_iff.mp isCopy).1
      rw [succeeded]
      decide
    rw [spec.signupDB, remember, row, copy]
    cases server.db.signupDB.get? (key entry) with
    | none => exact ⟨nofun, nofun, nofun, fun copied isCopy waits =>
        absurd waits (idle copied isCopy)⟩
    | some old =>
        apply tracked_idle
        · rw [succeeded]
          decide
        · rw [succeeded]
          exact nofun
        · intro copied isCopy waits
          exact absurd waits (idle copied isCopy)
  · have row := Table.get?_foldl_update_of_not_mem touched server.db.signupDB
    have copy := Table.get?_foldl_update_of_not_mem touched server.outstanding
    rw [spec.signupDB, row, copy, remember_of_same row]
    have same := (tracked id).same
    refine ⟨same.current, same.unfinished, ?_, ?_⟩
    · intro entry found waits
      obtain ⟨copied, isCopy, copyWaits⟩ := same.listed entry found waits
      refine ⟨copied, ?_, copyWaits⟩
      rw [isCopy, Option.filter_some, if_pos]
      simp [(same.reads copied isCopy copyWaits).1]
    · intro copied isCopy copyWaits
      exact same.reads copied (Option.filter_eq_some_iff.mp isCopy).1 copyWaits

end Steps

/-! ## Runs -/

theorem running_post (ctx : Context) (server : SignupServer) (request : Request) :
    (server.post ctx request).running = server.running := by
  rw [SignupServer.post]

theorem AllTracked.step {env : SignupEnv} {run next : MacRun} (tracked : AllTracked run)
    (isStep : MacStep env KeepsMac run next) : AllTracked next := by
  obtain ⟨running, entries⟩ := tracked
  cases isStep with
  | @step server isStep =>
      suffices both : server.running = true ∧
          TrackedServer server (remember server.db.signupDB run.lastMac) from both
      cases isStep with
      | post ctx request unused =>
          exact ⟨(running_post ctx run.server request).trans running,
            tracked_post ctx request entries unused⟩
      | put request keeps => exact ⟨running, tracked_put request entries keeps⟩
      | delete ctx request => exact ⟨running, tracked_delete ctx request entries⟩
      | worker ctx => exact tracked_worker env ctx running entries
      | other db kept =>
          exact ⟨running, @tracked_of_rows _ _ { run.server with db := db } entries rfl kept⟩

theorem AllTracked.start {run : MacRun} (start : MacStart run) : AllTracked run := by
  obtain ⟨noEntries, noCopies, running, _⟩ := start
  refine ⟨running, ?_⟩
  intro id
  have noRow : run.server.db.signupDB.get? id = none := by
    rw [noEntries]
    exact Table.get?_empty id
  have noCopy : run.server.outstanding.get? id = none := by
    rw [noCopies]
    exact Table.get?_empty id
  rw [noRow, noCopy]
  exact ⟨nofun, nofun, nofun, nofun⟩

theorem allTracked_of_run {env : SignupEnv} {run : MacRun}
    (reached : Reachable MacStart (MacStep env KeepsMac) run) : AllTracked run :=
  reached.invariant (fun _ start => .start start) fun _ _ tracked isStep => tracked.step isStep

theorem AllTracked.searchesLast {run : MacRun} (tracked : AllTracked run) : SearchesLast run := by
  obtain ⟨_, tracked⟩ := tracked
  refine ⟨?_, ?_, ?_⟩
  · intro env ctx
    exact finished_workerLoop env ctx 0 _ _ (TrackedServer.passable tracked)
  · intro id entry found waits
    obtain ⟨copied, isCopy, copyWaits⟩ := (tracked id).listed entry found waits
    have sameId : copied.info.id = id := Table.key_of_get? isCopy
    exact ⟨copied, mem_copies.mpr (sameId ▸ isCopy), sameId, copyWaits⟩
  · intro copy member waits
    obtain ⟨_, mac, isLast, reads⟩ :=
      (tracked copy.info.id).reads copy (mem_copies.mp member) waits
    exact ⟨mac, isLast, searchesFrom_iff.mpr reads⟩

/-- A run after one more `PUT`. -/
def MacRun.put (run : MacRun) (request : Request) : MacRun where
  server := run.server.put request
  lastMac := remember (run.server.put request).db.signupDB run.lastMac

/-- The condition is exact: after any other `PUT` a pass does not search for what was set. -/
theorem keepsMac_of_searchesLast {run : MacRun} {request : Request}
    (searches : SearchesLast (run.put request)) : KeepsMac run.server request := by
  intro entry planned
  have set : (run.put request).lastMac entry.info.id = some entry.macAddress :=
    remember_of_some (get?_put planned)
  have reads {copy : SignupEntry}
      (isCopy : (run.put request).server.outstanding.get? entry.info.id = some copy)
      (waits : copy.statusCode = .signupWaitingForDevice) :
      ReadsAs copy.macAddress entry.macAddress := by
    have sameId : copy.info.id = entry.info.id := Table.key_of_get? isCopy
    obtain ⟨mac, isLast, from_⟩ :=
      searches.searches copy (mem_copies.mpr (sameId ▸ isCopy)) waits
    rw [sameId, set] at isLast
    rw [Option.some.inj isLast]
    exact searchesFrom_iff.mp from_
  have copies : (run.put request).server.outstanding = _ := outstanding_put planned
  obtain ⟨old, _, change⟩ := subscriberDoPutPlan_cases planned
  rcases change with ⟨verified, _, isEntry⟩ | ⟨updates, _⟩
  · rw [if_pos verified] at copies ⊢
    apply reads
    · rw [copies, get?_addOutstandingSignup, if_pos rfl]
    · rw [isEntry]
  · rw [if_neg updates] at copies ⊢
    intro copy isCopy waits
    exact reads (copies ▸ isCopy) waits

/-- While the `PUT` requests keep a copy and its entry together, and only then, a pass of the
worker searches for the MAC address that was set last. -/
theorem searchesLast_of_run {env : SignupEnv} {run : MacRun}
    (reached : Reachable MacStart (MacStep env KeepsMac) run) :
    SearchesLast run ∧
      ∀ request, SearchesLast (run.put request) ↔ KeepsMac run.server request := by
  have tracked := allTracked_of_run reached
  refine ⟨tracked.searchesLast, fun request => ⟨keepsMac_of_searchesLast, ?_⟩⟩
  intro keeps
  exact (@AllTracked.step env _ _ tracked (.step (.put request keeps))).searchesLast

/-! ## Two signups -/

def beforeSignup : MacRun where
  server := openForSignup.server
  lastMac _ := none

theorem beforeSignup_start : MacStart beforeSignup := by
  refine ⟨?_, rfl, rfl, rfl⟩
  apply Table.ext
  decide

/-- A device whose MAC address is set before the email is verified. -/
theorem searchesLast_of_updateMac :
    ∃ run : MacRun, run.server = waitingServer ∧ SearchesLast run ∧
      ∀ request, SearchesLast (run.put request) ↔ KeepsMac run.server request := by
  have posted : Reachable MacStart (MacStep {} KeepsMac) _ :=
    (Reachable.start beforeSignup_start).step
      (.step (.post (contextAt 40 100) signupRequest (by decide)))
  have updated := posted.step (.step (.put (updateMacRequest (unaryId 41)) (by decide)))
  have verified :=
    updated.step (.step (.put (emailVerifiedRequest (unaryId 41)) (by decide)))
  exact ⟨_, rfl, searchesLast_of_run verified⟩

/-- An email that is verified before the MAC address is set ends the worker. -/
theorem verified_without_mac :
    ¬∀ env run, Reachable MacStart (MacStep env fun _ _ => True) run → SearchesLast run := by
  intro claim
  have verified : Reachable MacStart (MacStep {} fun _ _ => True) _ :=
    ((Reachable.start beforeSignup_start).step
      (.step (.post (contextAt 40 100) signupRequest (by decide)))).step
        (.step (.put (emailVerifiedRequest (unaryId 41)) trivial))
  have finished := (claim {} _ verified).finishes {} (contextAt 60 5000)
  exact absurd finished (by decide)

end Owprov
