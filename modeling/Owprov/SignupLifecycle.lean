import Owprov.DevicePlacement
import Owprov.Lib.Runs
import Owprov.SignupWorker

/-!
# The life of a signup entry

The entries are written by the requests of subscribers, by the timer and by the worker, which
completes a signup from a copy that it has kept.  The timer does not tell the worker what it gave
up.
-/

namespace Owprov

open RowTable Runs

/-! ## Moves -/

/-- The moves of the status of an entry. -/
inductive SignupMove : SignupStatusCodes → SignupStatusCodes → Prop
  | stays (status : SignupStatusCodes) : SignupMove status status
  | emailVerified : SignupMove .signupWaitingForEmail .signupWaitingForDevice
  | deviceFound : SignupMove .signupWaitingForDevice .signupSuccess
  | emailTimedOut : SignupMove .signupWaitingForEmail .signupTimedOut
  | deviceTimedOut : SignupMove .signupWaitingForDevice .signupTimedOut

/-- What a step may do with an entry: a new one waits for an email. -/
inductive EntryMove : Option SignupEntry → Option SignupEntry → Prop
  | removed (old : Option SignupEntry) : EntryMove old none
  | created {entry : SignupEntry} (waits : entry.statusCode = .signupWaitingForEmail) :
      EntryMove none (some entry)
  | moved {old new : SignupEntry} (move : SignupMove old.statusCode new.statusCode) :
      EntryMove (some old) (some new)

theorem EntryMove.same (entry : Option SignupEntry) : EntryMove entry entry := by
  cases entry with
  | none => exact .removed none
  | some entry => exact .moved (.stays _)

/-- Every entry makes such a move. -/
def StatusLaw (before after : Table SignupEntry) : Prop :=
  ∀ id, EntryMove (before.get? id) (after.get? id)

/-- The entries that there can be: one that is not completed waits or is given up. -/
inductive LegalEntry (entry : SignupEntry) : Prop
  | waitsForEmail (status : entry.statusCode = .signupWaitingForEmail)
  | waitsForDevice (status : entry.statusCode = .signupWaitingForDevice)
  | timedOut (status : entry.statusCode = .signupTimedOut)
  | completed (status : entry.statusCode = .signupSuccess) (when : entry.completed ≠ 0)

theorem LegalEntry.congr {entry other : SignupEntry} (legal : LegalEntry entry)
    (sameStatus : other.statusCode = entry.statusCode)
    (sameTime : other.completed = entry.completed) : LegalEntry other := by
  cases legal with
  | waitsForEmail status => exact .waitsForEmail (sameStatus.trans status)
  | waitsForDevice status => exact .waitsForDevice (sameStatus.trans status)
  | timedOut status => exact .timedOut (sameStatus.trans status)
  | completed status when => exact .completed (sameStatus.trans status) (sameTime ▸ when)

theorem LegalEntry.timesOut {env : SignupEnv} {now : ℕ} {entry : SignupEntry}
    (legal : LegalEntry entry) (overdue : entry.isOverdue env now = true) :
    SignupMove entry.statusCode .signupTimedOut := by
  cases legal with
  | waitsForEmail status =>
      rw [status]
      exact .emailTimedOut
  | waitsForDevice status =>
      rw [status]
      exact .deviceTimedOut
  | timedOut status =>
      rw [status]
      exact .stays _
  | completed _ when =>
      simp only [SignupEntry.isOverdue, Bool.and_eq_true, beq_iff_eq] at overdue
      exact absurd overdue.1.1 when

def LegalEntries (table : Table SignupEntry) : Prop :=
  ∀ id entry, table.get? id = some entry → LegalEntry entry

/-! ## Decisions -/

/-- What was decided about an entry. -/
def decisionOn (decisions : List (String × SignupStatusCodes)) (id : String) :
    Option SignupStatusCodes :=
  (decisions.find? fun decision => decision.1 == id).map Prod.snd

/-- What a step decided about entries, over what was decided before. -/
def settle (decisions : List (String × SignupStatusCodes))
    (decided : String → Option SignupStatusCodes) (id : String) : Option SignupStatusCodes :=
  (decisionOn decisions id).or (decided id)

/-- The database and its copies, and what the last step on each entry decided. -/
structure SignupRun where
  server : SignupServer
  decided : String → Option SignupStatusCodes

/-- The status of every entry is what was decided last. -/
def StatusAgrees (run : SignupRun) : Prop :=
  ∀ id entry, run.server.db.signupDB.get? id = some entry →
    run.decided id = some entry.statusCode

def postDecisions (ctx : Context) (db : Store) (request : Request) :
    List (String × SignupStatusCodes) :=
  match subscriberDoPostPlan ctx db request with
  | .ok (_, _, .created entry) => [(entry.info.id, .signupWaitingForEmail)]
  | _ => []

def putDecisions (db : Store) (request : Request) : List (String × SignupStatusCodes) :=
  match subscriberDoPutPlan db request with
  | .ok entry =>
      if request.getParameter "operation" = "emailVerified" then
        [(entry.info.id, .signupWaitingForDevice)]
      else
        []
  | .error _ => []

def timerDecisions (env : SignupEnv) (now : ℕ) (db : Store) : List (String × SignupStatusCodes) :=
  (db.signupDB.rows.filter fun entry => entry.isOverdue env now).map fun entry =>
    (entry.info.id, .signupTimedOut)

def workerDecisions (env : SignupEnv) (ctx : Context) (server : SignupServer) :
    List (String × SignupStatusCodes) :=
  if server.running then
    (workerLoop env ctx 0 server.copies server.db).completed.map fun entry =>
      (entry.info.id, .signupSuccess)
  else
    []

/-! ## Steps -/

/-- The worker comes past a copy: its MAC address is a number, or nobody looks at it. -/
def SignupEntry.passable (entry : SignupEntry) : Bool :=
  entry.statusCode != .signupWaitingForDevice || (triedSerialNumbers entry.macAddress).isSome

/-- The device of an entry has contacted the service. -/
def SignupEntry.deviceThere (inventoryDB : Table InventoryTag) (entry : SignupEntry) : Prop :=
  ∃ serialNumbers, triedSerialNumbers entry.macAddress = some serialNumbers ∧
    (findDevice inventoryDB serialNumbers).isSome

/-- When the worker comes to a copy that waits for a device which is there, the entry waits for it
as well, or is completed already. -/
def CompletesInTime (server : SignupServer) : Prop :=
  server.running = true →
    ∀ copy ∈ server.copies.takeWhile SignupEntry.passable,
      copy.statusCode = .signupWaitingForDevice → copy.deviceThere server.db.inventoryDB →
        ∀ entry, server.db.signupDB.get? copy.info.id = some entry →
          entry.statusCode = .signupWaitingForDevice ∨ entry.statusCode = .signupSuccess

/-- A step of a run: a request of a subscriber, the timer, a pass of the worker, or anything that
leaves the entries alone or deletes them. -/
inductive SignupStep (env : SignupEnv) (condition : SignupServer → Prop) :
    SignupRun → SignupRun → Prop
  | post {run : SignupRun} (ctx : Context) (request : Request)
      (unused : run.server.db.signupDB.get? (ctx.newId 0) = none) :
      SignupStep env condition run
        { server := run.server.post ctx request
          decided := settle (postDecisions ctx run.server.db request) run.decided }
  | put {run : SignupRun} (request : Request) :
      SignupStep env condition run
        { server := run.server.put request
          decided := settle (putDecisions run.server.db request) run.decided }
  | delete {run : SignupRun} (ctx : Context) (request : Request) :
      SignupStep env condition run { run with server := run.server.delete ctx request }
  | timer {run : SignupRun} (now : ℕ) :
      SignupStep env condition run
        { server := run.server.timer env now
          decided := settle (timerDecisions env now run.server.db) run.decided }
  | worker {run : SignupRun} (ctx : Context) (late : 0 < ctx.env.clock)
      (inTime : condition run.server) :
      SignupStep env condition run
        { server := run.server.workerPass env ctx
          decided := settle (workerDecisions env ctx run.server) run.decided }
  | other {run : SignupRun} (db : Store)
      (kept : ∀ id, db.signupDB.get? id = none ∨
        db.signupDB.get? id = run.server.db.signupDB.get? id) :
      SignupStep env condition run { run with server := { run.server with db := db } }

/-- A start of the service, with any copies of the entries that there are. -/
def SignupStart (run : SignupRun) : Prop :=
  LegalEntries run.server.db.signupDB ∧ StatusAgrees run

/-! ## Writes of entries -/

/-- What a write does to one entry, and what it decides about it. -/
inductive EntryStep (decision : Option SignupStatusCodes) :
    Option SignupEntry → Option SignupEntry → Prop
  | removed (old : Option SignupEntry) : EntryStep decision old none
  | kept (old : Option SignupEntry) (unsaid : decision = none) : EntryStep decision old old
  | created {entry : SignupEntry} (waits : entry.statusCode = .signupWaitingForEmail)
      (said : decision = some entry.statusCode) : EntryStep decision none (some entry)
  | moved {old new : SignupEntry} (move : SignupMove old.statusCode new.statusCode)
      (legal : LegalEntry new) (said : decision.getD old.statusCode = new.statusCode) :
      EntryStep decision (some old) (some new)

def EntryWrite (before after : Table SignupEntry)
    (decisions : List (String × SignupStatusCodes)) : Prop :=
  ∀ id, EntryStep (decisionOn decisions id) (before.get? id) (after.get? id)

section Writes

variable {before after : Table SignupEntry} {decisions : List (String × SignupStatusCodes)}

theorem EntryWrite.law (write : EntryWrite before after decisions) : StatusLaw before after := by
  intro id
  have step := write id
  revert step
  generalize before.get? id = old
  generalize after.get? id = new
  intro step
  cases step with
  | removed => exact .removed _
  | kept => exact .same _
  | created waits _ => exact .created waits
  | moved move _ _ => exact .moved move

theorem EntryWrite.legal (write : EntryWrite before after decisions)
    (legal : LegalEntries before) : LegalEntries after := by
  intro id entry found
  have step := write id
  rw [found] at step
  generalize old : before.get? id = oldEntry at step
  cases step with
  | kept => exact legal id entry old
  | created waits _ => exact .waitsForEmail waits
  | moved _ legal _ => exact legal

theorem EntryWrite.agrees (write : EntryWrite before after decisions)
    {decided : String → Option SignupStatusCodes}
    (agrees : ∀ id entry, before.get? id = some entry → decided id = some entry.statusCode)
    (id : String) (entry : SignupEntry) (found : after.get? id = some entry) :
    settle decisions decided id = some entry.statusCode := by
  have step := write id
  rw [found] at step
  generalize old : before.get? id = oldEntry at step
  show (decisionOn decisions id).or (decided id) = some entry.statusCode
  cases step with
  | kept _ unsaid =>
      rw [unsaid, Option.none_or]
      exact agrees id entry old
  | created _ said => rw [said, Option.some_or]
  | @moved oldEntry _ _ _ said =>
      cases decision : decisionOn decisions id with
      | none =>
          rw [decision, Option.getD_none] at said
          rw [Option.none_or, agrees id oldEntry old, said]
      | some status =>
          rw [decision, Option.getD_some] at said
          rw [Option.some_or, said]

theorem entryWrite_same (table : Table SignupEntry) : EntryWrite table table [] :=
  fun _ => .kept _ rfl

/-- An entry that moves, when nothing or its new status is decided. -/
theorem entryWrite_update {old new : SignupEntry} (found : before.get? (key new) = some old)
    (move : SignupMove old.statusCode new.statusCode) (legal : LegalEntry new)
    (said : (decisionOn decisions (key new)).getD old.statusCode = new.statusCode)
    (others : ∀ id, id ≠ key new → decisionOn decisions id = none) :
    EntryWrite before (before.update new) decisions := by
  intro id
  by_cases same : id = key new
  · subst same
    rw [Table.get?_update, if_pos rfl, found, Option.map_some]
    exact .moved move legal said
  · rw [Table.get?_update_of_ne _ same]
    exact .kept _ (others id same)

theorem decisionOn_single (id other : String) (status : SignupStatusCodes) :
    decisionOn [(id, status)] other = if other = id then some status else none := by
  by_cases same : other = id
  · subst same
    simp [decisionOn]
  · have differ : id ≠ other := Ne.symm same
    simp [decisionOn, same, differ]

theorem decisionOn_map_of_mem {entries : List SignupEntry} {status : SignupStatusCodes}
    {entry : SignupEntry} (member : entry ∈ entries) :
    decisionOn (entries.map fun entry => (entry.info.id, status)) entry.info.id = some status := by
  rw [decisionOn, Option.map_eq_some_iff]
  cases found : (entries.map fun entry => (entry.info.id, status)).find?
      fun decision => decision.1 == entry.info.id with
  | none =>
      have missed := List.find?_eq_none.mp found _ (List.mem_map_of_mem member)
      simp at missed
  | some decision =>
      obtain ⟨_, _, rfl⟩ := List.mem_map.mp (List.mem_of_find?_eq_some found)
      exact ⟨_, rfl, rfl⟩

theorem decisionOn_map_of_not_mem {entries : List SignupEntry} {status : SignupStatusCodes}
    {id : String} (absent : ∀ entry ∈ entries, entry.info.id ≠ id) :
    decisionOn (entries.map fun entry => (entry.info.id, status)) id = none := by
  rw [decisionOn, Option.map_eq_none_iff, List.find?_eq_none]
  intro decision member
  obtain ⟨entry, entryMem, rfl⟩ := List.mem_map.mp member
  simpa using absent entry entryMem

end Writes

/-! ## The requests -/

theorem signupDB_createSubscriberVenue (ctx : Context) (db : Store) (operator : Operator)
    (userName userId : String) :
    (createSubscriberVenue ctx db operator userName userId).store.signupDB = db.signupDB := by
  unfold createSubscriberVenue
  split
  · rfl
  · dsimp only
    split <;> rfl

theorem entryWrite_post (ctx : Context) (server : SignupServer) (request : Request)
    (unused : server.db.signupDB.get? (ctx.newId 0) = none) :
    EntryWrite server.db.signupDB (server.post ctx request).db.signupDB
      (postDecisions ctx server.db request) := by
  unfold SignupServer.post subscriberDoPost postDecisions
  cases planned : subscriberDoPostPlan ctx server.db request with
  | error failure => exact entryWrite_same _
  | ok result =>
      obtain ⟨operator, userName, plan⟩ := result
      have made := subscriberDoPostPlan_eq_ok planned
      cases plan with
      | answered existing => exact entryWrite_same _
      | resent existing =>
          dsimp only
          rw [signupDB_createSubscriberVenue, Table.update_self (getBy_mem made.1)]
          exact entryWrite_same _
      | created entry =>
          obtain ⟨_, _, _, newId, _, waits⟩ := made
          have free : server.db.signupDB.get? (key entry) = none :=
            (congrArg server.db.signupDB.get? newId).trans unused
          obtain ⟨signupDB, inserted⟩ := Table.insert?_isSome free
          dsimp only
          rw [signupDB_createSubscriberVenue, inserted, Option.getD_some]
          intro id
          rw [Table.get?_insert? inserted, decisionOn_single]
          by_cases same : id = key entry
          · subst same
            rw [if_pos rfl, free]
            exact .created waits (by rw [if_pos (show key entry = entry.info.id from rfl), waits])
          · rw [if_neg same]
            exact .kept _ (if_neg same)

theorem subscriberDoPutPlan_eq_ok {db : Store} {request : Request} {entry : SignupEntry}
    (planned : subscriberDoPutPlan db request = .ok entry) :
    ∃ old ∈ db.signupDB.rows, key entry = key old ∧
      if request.getParameter "operation" = "emailVerified" then
        old.statusCode = .signupWaitingForEmail ∧ entry.statusCode = .signupWaitingForDevice
      else entry.statusCode = old.statusCode ∧ entry.completed = old.completed := by
  simp only [subscriberDoPutPlan, bind_eq_ok_iff, require_eq_ok_iff] at planned
  obtain ⟨_, _, planned⟩ := planned
  split at planned
  · cases planned
  · rename_i old found
    have member : old ∈ db.signupDB.rows := by
      rcases Option.or_eq_some_iff.mp found with byId | ⟨_, byUser⟩
      · exact Table.mem_of_get? byId
      · exact getBy_mem byUser
    refine ⟨old, member, ?_⟩
    split at planned
    · rename_i verified
      cases planned
      exact ⟨rfl, by rw [if_pos verified.1]; exact ⟨verified.2, rfl⟩⟩
    · split at planned
      · rename_i updates
        obtain ⟨_, _, planned⟩ := bind_eq_ok_iff.mp planned
        cases planned
        have notVerified : request.getParameter "operation" ≠ "emailVerified" := by
          rw [updates]
          decide
        exact ⟨rfl, by rw [if_neg notVerified]; exact ⟨rfl, rfl⟩⟩
      · cases planned

theorem entryWrite_put (server : SignupServer) (request : Request)
    (legal : LegalEntries server.db.signupDB) :
    EntryWrite server.db.signupDB (server.put request).db.signupDB
      (putDecisions server.db request) := by
  simp only [SignupServer.put, subscriberDoPut, putDecisions]
  cases planned : subscriberDoPutPlan server.db request with
  | error failure => exact entryWrite_same _
  | ok entry =>
      obtain ⟨old, member, sameKey, change⟩ := subscriberDoPutPlan_eq_ok planned
      have found : server.db.signupDB.get? (key entry) = some old :=
        sameKey ▸ Table.get?_key_of_mem member
      dsimp only
      by_cases verified : request.getParameter "operation" = "emailVerified"
      · rw [if_pos verified] at change ⊢
        apply entryWrite_update found
        · rw [change.1, change.2]
          exact .emailVerified
        · exact .waitsForDevice change.2
        · rw [decisionOn_single, if_pos (show key entry = entry.info.id from rfl), change.2]
          rfl
        · intro id other
          rw [decisionOn_single]
          exact if_neg other
      · rw [if_neg verified] at change ⊢
        apply entryWrite_update found
        · rw [change.1]
          exact .stays _
        · exact (legal _ old found).congr change.1 change.2
        · exact change.1.symm
        · exact fun _ _ => rfl

/-! ## Deletions -/

theorem signupDB_deleteSubscriberVenues (venues : List Venue) (db : Store) :
    (deleteSubscriberVenues venues db).store.signupDB = db.signupDB := by
  induction venues generalizing db with
  | nil => rfl
  | cons venue venues ih =>
      rw [deleteSubscriberVenues]
      split
      · rw [ih]
      · rfl

theorem entryWrite_delete_row (table : Table SignupEntry) (id : String) :
    EntryWrite table (table.delete id) [] := by
  intro other
  rw [Table.get?_delete]
  by_cases same : other = id
  · rw [if_pos same]
    exact .removed _
  · rw [if_neg same]
    exact .kept _ rfl

theorem entryWrite_delete (ctx : Context) (server : SignupServer) (request : Request) :
    EntryWrite server.db.signupDB (server.delete ctx request).db.signupDB [] := by
  simp only [SignupServer.delete, subscriberDoDelete]
  split
  · exact entryWrite_same _
  · rename_i subscriberId signup _
    split
    · rw [Outcome.store_fail, signupDB_deleteSubscriberVenues]
      exact entryWrite_same _
    · split
      · rw [Outcome.store_done]
        dsimp only
        rw [signupDB_deleteSubscriberVenues]
        exact entryWrite_delete_row _ _
      · rw [Outcome.store_fail, signupDB_deleteSubscriberVenues]
        exact entryWrite_same _

/-! ## The timer -/

/-- The rows of a kind are those whose row is of the kind. -/
theorem mem_keys_filter {table : Table SignupEntry} {id : String} {entry : SignupEntry}
    (found : table.get? id = some entry) (kind : SignupEntry → Bool) :
    id ∈ (table.rows.filter kind).map key ↔ kind entry = true := by
  rw [List.mem_map]
  constructor
  · rintro ⟨other, member, sameKey⟩
    rw [List.mem_filter] at member
    have again := Table.get?_key_of_mem member.1
    rw [sameKey, found] at again
    exact Option.some.inj again ▸ member.2
  · intro isKind
    obtain ⟨member, sameKey⟩ := Table.get?_eq_some_iff.mp found
    exact ⟨entry, List.mem_filter.mpr ⟨member, isKind⟩, sameKey⟩

theorem get?_removeIncompleteSignups (env : SignupEnv) (now : ℕ) (db : Store) (id : String) :
    (removeIncompleteSignups env now db).signupDB.get? id =
      (db.signupDB.get? id).bind fun entry =>
        if entry.lingers env now then none
        else if entry.isOverdue env now then some entry.timedOut
        else some entry := by
  have keeps : ∀ entry : SignupEntry, key entry.timedOut = key entry := fun _ => rfl
  have modified := Table.get?_foldl_modify keeps (fun _ => rfl) (db.signupDB.rows.filter fun entry => entry.isOverdue env now)
    ((db.signupDB.rows.filter fun entry => entry.lingers env now).foldl
      (fun table entry => table.delete (key entry)) db.signupDB) id
  rw [Table.get?_foldl_delete] at modified
  refine modified.trans ?_
  cases found : db.signupDB.get? id with
  | none => simp
  | some entry =>
      simp only [mem_keys_filter found, Option.bind_some]
      by_cases lingers : entry.lingers env now = true
      · simp [lingers]
      · by_cases overdue : entry.isOverdue env now = true <;> simp [lingers, overdue]

theorem entryWrite_timer (env : SignupEnv) (now : ℕ) (server : SignupServer)
    (legal : LegalEntries server.db.signupDB) :
    EntryWrite server.db.signupDB (server.timer env now).db.signupDB
      (timerDecisions env now server.db) := by
  intro id
  show EntryStep _ _ ((removeIncompleteSignups env now server.db).signupDB.get? id)
  rw [get?_removeIncompleteSignups]
  cases found : server.db.signupDB.get? id with
  | none => exact .removed _
  | some entry =>
      have sameId : entry.info.id = id := Table.key_of_get? found
      rw [Option.bind_some]
      by_cases lingers : entry.lingers env now = true
      · rw [if_pos lingers]
        exact .removed _
      · rw [if_neg lingers]
        by_cases overdue : entry.isOverdue env now = true
        · rw [if_pos overdue]
          have said : decisionOn (timerDecisions env now server.db) entry.info.id =
              some .signupTimedOut :=
            decisionOn_map_of_mem (List.mem_filter.mpr ⟨Table.mem_of_get? found, overdue⟩)
          rw [sameId] at said
          refine .moved ?_ (.timedOut rfl) (by rw [said]; rfl)
          exact (legal id entry found).timesOut overdue
        · rw [if_neg overdue]
          apply EntryStep.kept
          apply decisionOn_map_of_not_mem
          intro other member sameOther
          rw [List.mem_filter] at member
          have again := Table.get?_key_of_mem member.1
          rw [show key other = id from sameOther, found] at again
          exact overdue (Option.some.inj again ▸ member.2)

/-! ## The worker -/

theorem find?_congr {α : Type} {rows : List α} {test other : α → Bool}
    (agree : ∀ row ∈ rows, test row = other row) : rows.find? test = rows.find? other := by
  induction rows with
  | nil => rfl
  | cons row rows ih =>
      rw [List.find?_cons, List.find?_cons, agree row (by simp),
        ih fun later member => agree later (by simp [member])]

/-- A new version with the same value in a column is found in the place of the old one. -/
theorem getBy_update {α : Type} [Keyed α String] {table : Table α} {column : α → String} {new : α}
    (same : ∀ row, table.get? (key new) = some row → column row = column new) (value : String) :
    getBy (table.update new) column value =
      (getBy table column value).map fun row => if key row = key new then new else row := by
  unfold getBy Table.update
  rw [List.find?_map]
  congr 1
  apply find?_congr
  intro row member
  rw [Function.comp_apply]
  by_cases replaced : key row = key new
  · rw [if_pos replaced, same row (replaced ▸ Table.get?_key_of_mem member)]
  · rw [if_neg replaced]

theorem findDevice_isSome_iff {inventoryDB : Table InventoryTag} {serialNumbers : List String} :
    (findDevice inventoryDB serialNumbers).isSome = true ↔
      ∃ serialNumber ∈ serialNumbers, ∃ tag,
        getBy inventoryDB InventoryTag.serialNumber serialNumber = some tag ∧
          tag.deviceType ≠ "" := by
  rw [findDevice, List.findSome?_isSome_iff]
  constructor
  · rintro ⟨serialNumber, member, isSome⟩
    refine ⟨serialNumber, member, ?_⟩
    cases found : getBy inventoryDB InventoryTag.serialNumber serialNumber with
    | none => simp [found] at isSome
    | some tag =>
        refine ⟨tag, rfl, ?_⟩
        rintro empty
        simp [found, empty] at isSome
  · rintro ⟨serialNumber, member, tag, found, filled⟩
    exact ⟨serialNumber, member, by simp [found, filled]⟩

/-- A new version of a tag with its serial number and device type leaves the search as it was. -/
theorem findDevice_update_isSome {inventoryDB : Table InventoryTag} {old new : InventoryTag}
    (found : inventoryDB.get? (key new) = some old)
    (sameSerial : old.serialNumber = new.serialNumber) (sameType : old.deviceType = new.deviceType)
    (serialNumbers : List String) :
    (findDevice (inventoryDB.update new) serialNumbers).isSome = true ↔
      (findDevice inventoryDB serialNumbers).isSome = true := by
  have isOld : ∀ row, inventoryDB.get? (key new) = some row → row = old := by
    intro row again
    exact Option.some.inj (again.symm.trans found)
  have rewritten := getBy_update fun row again => isOld row again ▸ sameSerial
  simp only [findDevice_isSome_iff, rewritten]
  apply exists_congr
  intro serialNumber
  apply and_congr_right
  intro _
  cases atSerial : getBy inventoryDB InventoryTag.serialNumber serialNumber with
  | none => simp
  | some row =>
      simp only [Option.map_some, Option.some.injEq, exists_eq_left']
      by_cases replaced : key row = key new
      · have again := Table.get?_key_of_mem (getBy_mem atSerial)
        rw [if_pos replaced, isOld row (replaced ▸ again), sameType]
      · rw [if_neg replaced]

theorem findDevice_eq_some {inventoryDB : Table InventoryTag} {serialNumbers : List String}
    {serialNumber : String} {tag : InventoryTag}
    (found : findDevice inventoryDB serialNumbers = some (serialNumber, tag)) :
    getBy inventoryDB InventoryTag.serialNumber serialNumber = some tag ∧ tag.deviceType ≠ "" ∧
      serialNumber ∈ serialNumbers := by
  obtain ⟨tried, member, answer⟩ := List.exists_of_findSome?_eq_some found
  cases atSerial : getBy inventoryDB InventoryTag.serialNumber tried with
  | none => simp [atSerial] at answer
  | some other =>
      by_cases filled : other.deviceType = ""
      · simp [atSerial, filled] at answer
      · simp only [atSerial, filled, if_false, Option.some.injEq, Prod.mk.injEq] at answer
        obtain ⟨rfl, rfl⟩ := answer
        exact ⟨atSerial, filled, member⟩

/-- A completed signup leaves the devices of the others there or not there. -/
theorem deviceThere_completeSignup {env : SignupEnv} {now : ℕ} {db : Store}
    {entry other : SignupEntry} {serialNumbers : List String} {serialNumber newId : String}
    {tag : InventoryTag} (found : findDevice db.inventoryDB serialNumbers = some (serialNumber, tag)) :
    other.deviceThere (completeSignup env now db entry serialNumber newId tag).inventoryDB ↔
      other.deviceThere db.inventoryDB := by
  have member := getBy_mem (findDevice_eq_some found).1
  apply exists_congr
  intro tried
  apply and_congr_right
  intro _
  let new : InventoryTag :=
    { tag with
      subscriber := entry.userId
      realMacAddress := entry.macAddress
      state := env.completedState }
  exact @findDevice_update_isSome _ tag new (Table.get?_key_of_mem member) rfl rfl tried

/-- What the loop of the worker does: the copies that it completes are copies that it comes to,
which wait for a device that is there. -/
structure WorkerSpec (ctx : Context) (db : Store) (entries : List SignupEntry)
    (result : WorkerResult) : Prop where
  signupDB : result.db.signupDB = result.completed.foldl Table.update db.signupDB
  ids : (result.completed.map key).Sublist (entries.map key)
  completed : ∀ entry ∈ result.completed,
    ∃ copy ∈ entries.takeWhile SignupEntry.passable, copy.statusCode = .signupWaitingForDevice ∧
      copy.deviceThere db.inventoryDB ∧ copy.info.id = entry.info.id ∧
      entry.statusCode = .signupSuccess ∧ entry.completed = ctx.env.clock
  completes : ∀ copy ∈ entries.takeWhile SignupEntry.passable,
    copy.statusCode = .signupWaitingForDevice → copy.deviceThere db.inventoryDB →
      ∃ entry ∈ result.completed, entry.info.id = copy.info.id

section WorkerSpec

variable {env : SignupEnv} {ctx : Context} {db : Store} {entry : SignupEntry}
    {rest : List SignupEntry} {result : WorkerResult}

/-- A copy that nothing is done about. -/
theorem WorkerSpec.pass (spec : WorkerSpec ctx db rest result) (passable : entry.passable = true)
    (idle : entry.statusCode = .signupWaitingForDevice → ¬ entry.deviceThere db.inventoryDB) :
    WorkerSpec ctx db (entry :: rest) result := by
  refine ⟨spec.signupDB, spec.ids.cons _, ?_, ?_⟩
  · intro other member
    obtain ⟨copy, copyMem, walked⟩ := spec.completed other member
    refine ⟨copy, ?_, walked⟩
    rw [List.takeWhile_cons_of_pos passable]
    exact List.mem_cons_of_mem _ copyMem
  · intro copy member waits there
    rw [List.takeWhile_cons_of_pos passable] at member
    rcases List.mem_cons.mp member with rfl | later
    · exact absurd there (idle waits)
    · exact spec.completes copy later waits there

/-- A copy that is completed before the others. -/
theorem WorkerSpec.complete {serialNumbers : List String} {serialNumber newId : String}
    {tag : InventoryTag}
    (spec : WorkerSpec ctx
      (completeSignup env ctx.env.clock db entry serialNumber newId tag) rest result)
    (passable : entry.passable = true) (waits : entry.statusCode = .signupWaitingForDevice)
    (tried : triedSerialNumbers entry.macAddress = some serialNumbers)
    (found : findDevice db.inventoryDB serialNumbers = some (serialNumber, tag)) :
    WorkerSpec ctx db (entry :: rest)
      { result with
        completed := entry.completedWith ctx.env.clock serialNumber :: result.completed } := by
  refine ⟨spec.signupDB, spec.ids.cons_cons _, ?_, ?_⟩
  · intro other member
    rcases List.mem_cons.mp member with rfl | later
    · refine ⟨entry, ?_, waits, ⟨serialNumbers, tried, by rw [found]; rfl⟩, rfl, rfl, rfl⟩
      rw [List.takeWhile_cons_of_pos passable]
      exact List.mem_cons_self
    · obtain ⟨copy, copyMem, copyWaits, there, same⟩ := spec.completed other later
      refine ⟨copy, ?_, copyWaits, (deviceThere_completeSignup found).mp there, same⟩
      rw [List.takeWhile_cons_of_pos passable]
      exact List.mem_cons_of_mem _ copyMem
  · intro copy member copyWaits there
    rw [List.takeWhile_cons_of_pos passable] at member
    rcases List.mem_cons.mp member with rfl | later
    · exact ⟨_, List.mem_cons_self, rfl⟩
    · obtain ⟨other, otherMem, same⟩ :=
        spec.completes copy later copyWaits ((deviceThere_completeSignup found).mpr there)
      exact ⟨other, List.mem_cons_of_mem _ otherMem, same⟩

end WorkerSpec

theorem workerLoop_spec (env : SignupEnv) (ctx : Context) (created : ℕ)
    (entries : List SignupEntry) (db : Store) :
    WorkerSpec ctx db entries (workerLoop env ctx created entries db) := by
  induction entries generalizing created db with
  | nil =>
      exact ⟨rfl, .slnil, (fun _ member => nomatch member), (fun _ member => nomatch member)⟩
  | cons entry rest ih =>
      unfold workerLoop
      by_cases waits : entry.statusCode = .signupWaitingForDevice
      · rw [if_pos waits]
        cases tried : triedSerialNumbers entry.macAddress with
        | none =>
            have stuck : ¬ entry.passable = true := by simp [SignupEntry.passable, waits, tried]
            refine ⟨rfl, List.nil_sublist _, (fun _ member => nomatch member), ?_⟩
            intro copy member
            rw [List.takeWhile_cons_of_neg stuck] at member
            cases member
        | some serialNumbers =>
            have passable : entry.passable = true := by simp [SignupEntry.passable, tried]
            dsimp only
            cases found : findDevice db.inventoryDB serialNumbers with
            | none =>
                apply (ih created db).pass passable
                rintro _ ⟨others, triedOthers, there⟩
                rw [tried] at triedOthers
                rw [← Option.some.inj triedOthers, found] at there
                cases there
            | some answer =>
                obtain ⟨serialNumber, tag⟩ := answer
                exact (ih (created + 1) _).complete passable waits tried found
      · rw [if_neg waits]
        have passable : entry.passable = true := by simp [SignupEntry.passable, waits]
        exact (ih created db).pass passable fun waits' => absurd waits' waits

theorem copies_distinct (server : SignupServer) : (server.copies.map key).Nodup := by
  have sorted := List.perm_insertionSort
    (fun a b : SignupEntry => a.info.id ≤ b.info.id) server.outstanding.rows
  exact (sorted.map key).nodup_iff.mpr server.outstanding.distinct

theorem entryWrite_worker (env : SignupEnv) (ctx : Context) (server : SignupServer)
    (late : 0 < ctx.env.clock) (inTime : CompletesInTime server) :
    EntryWrite server.db.signupDB (server.workerPass env ctx).db.signupDB
      (workerDecisions env ctx server) := by
  unfold SignupServer.workerPass workerDecisions
  by_cases running : server.running = true
  · rw [if_pos running, if_pos running]
    have spec := workerLoop_spec env ctx 0 server.copies server.db
    generalize workerLoop env ctx 0 server.copies server.db = result at spec
    dsimp only
    have apart : (result.completed.map key).Nodup := (copies_distinct server).sublist spec.ids
    intro id
    rw [spec.signupDB]
    by_cases touched : id ∈ result.completed.map key
    · obtain ⟨entry, member, rfl⟩ := List.mem_map.mp touched
      obtain ⟨copy, copyMem, waits, there, sameId, succeeded, when⟩ := spec.completed entry member
      rw [Table.get?_foldl_update_of_mem apart member]
      cases found : server.db.signupDB.get? (key entry) with
      | none => exact .removed _
      | some old =>
          have stillWaits := inTime running copy copyMem waits there old (sameId ▸ found)
          have said : decisionOn (result.completed.map fun entry =>
              (entry.info.id, SignupStatusCodes.signupSuccess)) (key entry) =
              some .signupSuccess := decisionOn_map_of_mem member
          refine .moved ?_ (.completed succeeded (when ▸ late.ne')) ?_
          · rw [succeeded]
            rcases stillWaits with waiting | done
            · rw [waiting]
              exact .deviceFound
            · rw [done]
              exact .stays _
          · rw [said, succeeded]
            rfl
    · rw [Table.get?_foldl_update_of_not_mem touched]
      apply EntryStep.kept
      apply decisionOn_map_of_not_mem
      intro entry member sameId
      exact touched (sameId ▸ List.mem_map_of_mem member)
  · rw [if_neg running, if_neg running]
    exact entryWrite_same _

/-- The condition is exact: a pass under any other makes a move that the law does not know. -/
theorem completesInTime_of_law {env : SignupEnv} {ctx : Context} {server : SignupServer}
    (law : StatusLaw server.db.signupDB (server.workerPass env ctx).db.signupDB) :
    CompletesInTime server := by
  intro running copy copyMem waits there old found
  have spec := workerLoop_spec env ctx 0 server.copies server.db
  unfold SignupServer.workerPass at law
  rw [if_pos running] at law
  generalize workerLoop env ctx 0 server.copies server.db = result at spec law
  have apart : (result.completed.map key).Nodup := (copies_distinct server).sublist spec.ids
  obtain ⟨entry, member, sameId⟩ := spec.completes copy copyMem waits there
  obtain ⟨_, _, _, _, _, succeeded, _⟩ := spec.completed entry member
  have move := law copy.info.id
  dsimp only at move
  rw [spec.signupDB, ← sameId, show entry.info.id = key entry from rfl,
    Table.get?_foldl_update_of_mem apart member, show key entry = copy.info.id from sameId,
    found, Option.map_some] at move
  cases move with
  | moved move =>
      rw [succeeded] at move
      generalize old.statusCode = status at move
      cases move with
      | stays => exact .inr rfl
      | deviceFound => exact .inl rfl

/-! ## Runs -/

theorem entryWrite_other {before after : Table SignupEntry}
    (kept : ∀ id, after.get? id = none ∨ after.get? id = before.get? id) :
    EntryWrite before after [] := by
  intro id
  rcases kept id with gone | same
  · rw [gone]
    exact .removed _
  · rw [same]
    exact .kept _ rfl

/-- Every step of a run makes a write of entries, and settles what it decides. -/
theorem SignupStep.write {env : SignupEnv} {run next : SignupRun}
    (legal : LegalEntries run.server.db.signupDB) (isStep : SignupStep env CompletesInTime run next) :
    ∃ decisions, EntryWrite run.server.db.signupDB next.server.db.signupDB decisions ∧
      next.decided = settle decisions run.decided := by
  cases isStep with dsimp only
  | post ctx request unused => exact ⟨_, entryWrite_post ctx run.server request unused, rfl⟩
  | put request => exact ⟨_, entryWrite_put run.server request legal, rfl⟩
  | delete ctx request => exact ⟨[], entryWrite_delete ctx run.server request, rfl⟩
  | timer now => exact ⟨_, entryWrite_timer env now run.server legal, rfl⟩
  | worker ctx late inTime => exact ⟨_, entryWrite_worker env ctx run.server late inTime, rfl⟩
  | other db kept => exact ⟨[], entryWrite_other kept, rfl⟩

theorem signupStart_of_run {env : SignupEnv} {run : SignupRun}
    (reached : Reachable SignupStart (SignupStep env CompletesInTime) run) : SignupStart run := by
  refine reached.invariant (fun _ start => start) ?_
  rintro run next ⟨legal, agrees⟩ isStep
  obtain ⟨decisions, write, settled⟩ := isStep.write legal
  refine ⟨write.legal legal, ?_⟩
  intro id entry found
  rw [settled]
  exact write.agrees agrees id entry found

/-- The entries keep to the law, and their status agrees with what was decided last, as long as
the worker completes no signup that the timer has given up. -/
theorem signup_law_of_run {env : SignupEnv} {run : SignupRun}
    (reached : Reachable SignupStart (SignupStep env CompletesInTime) run) :
    StatusAgrees run ∧ ∀ next, SignupStep env CompletesInTime run next →
      StatusLaw run.server.db.signupDB next.server.db.signupDB := by
  obtain ⟨legal, agrees⟩ := signupStart_of_run reached
  refine ⟨agrees, ?_⟩
  intro next isStep
  obtain ⟨decisions, write, _⟩ := isStep.write legal
  exact write.law

/-! ## A signup that comes back -/

/-- The environment at some time. -/
def contextAt (length clock : ℕ) : Context :=
  { rootContext length with env := { (rootContext length).env with clock := clock } }

def signupRequest : Request where
  method := .post
  uri := "/api/v1/subscriber?email=joe@acme.com&registrationId=acme"
  parameters := [("email", "joe@acme.com"), ("registrationId", "acme")]

/-- A request that tells the MAC address of the device of a signup. -/
def updateMacRequest (signupUUID : String) : Request where
  method := .put
  uri := "/api/v1/subscriber?operation=updateMac"
  parameters :=
    [("signupUUID", signupUUID), ("operation", "updateMac"), ("mac", "aabbccddeeff")]

def emailVerifiedRequest (signupUUID : String) : Request where
  method := .put
  uri := "/api/v1/subscriber?operation=emailVerified"
  parameters := [("signupUUID", signupUUID), ("operation", "emailVerified")]

/-- The database with an operator, before anybody signs up. -/
def openForSignup : SignupRun where
  server :=
    { db := (operatorDoPost (rootContext 14) initialStore operatorRequest).store
      outstanding := .empty
      running := true }
  decided _ := none

theorem openForSignup_start : SignupStart openForSignup := by
  have noEntries : openForSignup.server.db.signupDB.rows = [] := by decide
  have missing : ∀ id, openForSignup.server.db.signupDB.get? id = none := by
    intro id
    rw [Table.get?_eq_none_iff, noEntries]
    exact List.not_mem_nil
  constructor
  · intro id entry found
    rw [missing] at found
    cases found
  · intro id entry found
    rw [missing] at found
    cases found

/-- The server after a signup, the MAC address of its device and the verification of the email. -/
def waitingServer : SignupServer :=
  ((openForSignup.server.post (contextAt 40 100) signupRequest).put
    (updateMacRequest (unaryId 41))).put (emailVerifiedRequest (unaryId 41))

def decidedWaiting : String → Option SignupStatusCodes :=
  settle (putDecisions
      ((openForSignup.server.post (contextAt 40 100) signupRequest).put
        (updateMacRequest (unaryId 41))).db (emailVerifiedRequest (unaryId 41)))
    (settle (putDecisions (openForSignup.server.post (contextAt 40 100) signupRequest).db
        (updateMacRequest (unaryId 41)))
      (settle (postDecisions (contextAt 40 100) openForSignup.server.db signupRequest)
        openForSignup.decided))

theorem waitingServer_reached (env : SignupEnv) (condition : SignupServer → Prop) :
    Reachable SignupStart (SignupStep env condition) ⟨waitingServer, decidedWaiting⟩ :=
  (((Reachable.start openForSignup_start).step
    (.post (contextAt 40 100) signupRequest (by decide))).step
      (.put (updateMacRequest (unaryId 41)))).step (.put (emailVerifiedRequest (unaryId 41)))

/-- The server after the timer has given up the entry and its device has come. -/
def lateServer : SignupServer :=
  let given := waitingServer.timer {} 4000
  { given with db := (inventoryDoPost (rootContext 50) given.db (enterRequest "")).store }

theorem signupDB_inventoryDoPost (ctx : Context) (db : Store) (request : Request) :
    (inventoryDoPost ctx db request).store.signupDB = db.signupDB := by
  unfold inventoryDoPost
  cases inventoryDoPostPlan ctx db request with
  | error failure => rfl
  | ok planned =>
      obtain ⟨newObject, config⟩ := planned
      dsimp only
      cases stored : storeInlineConfiguration db config with
      | error failure => rfl
      | ok configured =>
          have same : configured.signupDB = db.signupDB := by
            cases config with
            | none =>
                cases stored
                rfl
            | some record =>
                rw [storeInlineConfiguration] at stored
                split at stored <;> cases stored
                rfl
          rw [← same]
          dsimp only
          cases configured.inventoryDB.insert? newObject <;> rfl

/-- The worker completes a signup that the timer has given up. -/
theorem timed_out_signup_completed :
    ¬ ∀ env run, Reachable SignupStart (SignupStep env fun _ => True) run →
      StatusAgrees run ∧ ∀ next, SignupStep env (fun _ => True) run next →
        StatusLaw run.server.db.signupDB next.server.db.signupDB := by
  intro claim
  have givenUp := (waitingServer_reached {} fun _ => True).step (.timer 4000)
  have kept : ∀ id, lateServer.db.signupDB.get? id = none ∨
      lateServer.db.signupDB.get? id = (waitingServer.timer {} 4000).db.signupDB.get? id :=
    fun id => .inr (congrArg (Table.get? · id) (signupDB_inventoryDoPost _ _ _))
  have came := givenUp.step (.other lateServer.db kept)
  have law := (claim {} _ came).2 _
    (.worker (contextAt 60 5000) (by decide) trivial) (unaryId 41)
  have before : (lateServer.db.signupDB.get? (unaryId 41)).map SignupEntry.statusCode =
      some .signupTimedOut := by
    decide
  have after : ((lateServer.workerPass {} (contextAt 60 5000)).db.signupDB.get?
      (unaryId 41)).map SignupEntry.statusCode = some .signupSuccess := by
    decide
  obtain ⟨old, found, status⟩ := Option.map_eq_some_iff.mp before
  obtain ⟨new, found', status'⟩ := Option.map_eq_some_iff.mp after
  have move : EntryMove (some old) (some new) := found ▸ found' ▸ law
  cases move with
  | moved move =>
      rw [status, status'] at move
      cases move

/-- A signup whose device has come in time. -/
theorem signup_law_after_post :
    ∃ run : SignupRun, (run.server.db.signupDB.rows.map SignupEntry.statusCode) =
        [.signupWaitingForDevice] ∧ StatusAgrees run ∧
      ∀ next, SignupStep {} CompletesInTime run next →
        StatusLaw run.server.db.signupDB next.server.db.signupDB :=
  ⟨⟨waitingServer, decidedWaiting⟩, by decide,
    signup_law_of_run (waitingServer_reached {} CompletesInTime)⟩

end Owprov
