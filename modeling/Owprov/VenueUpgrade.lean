import Owprov.Lib.OptionLists
import Owprov.RecordIteration
import Owprov.RRMDevices

/-!
# The upgrade of a venue

`VenueUpgrade` evaluates the rules of a venue once and starts a job in a thread for each device of
the venue.  A job merges the rules into those of its device and asks the gateway for the upgrade;
the main thread collects the jobs that are done, in passes between the starts and once more when
all threads have ended.
-/

namespace Owprov

open RowTable PagedVisits

/-! ## The services -/

/-- What `Do` gives of a request to another service. -/
structure ServiceAnswer where
  status : ℕ
  object : JsonObject := []

structure Firmware where
  revision : String := ""
  uri : String := ""
  deriving DecidableEq, Repr

/-- `Firmware::from_json`. -/
def Firmware.fromJson (obj : JsonObject) : Firmware where
  revision := obj.stringField "revision"
  uri := obj.stringField "uri"

/-- An item of the list; what is no object cannot be extracted. -/
def Firmware.ofItem : Json → Option Firmware
  | .obj fields _ => some (.fromJson fields)
  | _ => none

/-- `SDK::FMS::Firmware::GetDeviceTypeFirmwares`, unless an exception leaves it. -/
def getDeviceTypeFirmwares (answer : ServiceAnswer) : Option (Option (List Firmware)) :=
  if answer.status = 200 then
    match answer.object.getArray? "firmwares" with
    | none => none
    | some items => (items.mapM Firmware.ofItem).map some
  else
    some none

/-- `SDK::FMS::Firmware::GetFirmware`. -/
def getFirmware (answer : ServiceAnswer) (revision : String) : Option (Option Firmware) :=
  (getDeviceTypeFirmwares answer).map fun listed =>
    listed.bind fun firmwares => firmwares.find? (·.revision == revision)

/-- The status that `SDK::GW::Device::Upgrade` reads, unless an exception leaves it. -/
def upgradeStatus (answer : ServiceAnswer) : Option (Option String) :=
  if answer.status = 200 then (answer.object.getString "status").toOption.map some else some none

/-- What a job meets when it runs: the inventory, the answers of the firmware service by device
type, and those of the gateway by serial number and image. -/
structure JobView where
  inventoryDB : Table InventoryTag
  firmwares : String → ServiceAnswer
  upgrade : String → String → ServiceAnswer

/-! ## The jobs -/

structure VenueDeviceUpgrade where
  uuid : String
  revision : String
  rules : DeviceRules
  serialNumber : String := ""
  upgraded : ℕ := 0
  notConnected : ℕ := 0
  skipped : ℕ := 0
  noFirmware : ℕ := 0
  pending : ℕ := 0
  done : Bool := false

/-- A request to the gateway to upgrade a device. -/
structure UpgradeRequest where
  device : InventoryTag
  uri : String

/-- `VenueDeviceUpgrade::run`, and what it asked the gateway for.  An exception ends the thread
before the job is done. -/
def VenueDeviceUpgrade.run (view : JobView) (job : VenueDeviceUpgrade) :
    VenueDeviceUpgrade × List UpgradeRequest :=
  match view.inventoryDB.get? job.uuid with
  | none => ({ job with done := true }, [])
  | some device =>
      let job := { job with serialNumber := device.serialNumber }
      if (applyRules job.rules device.deviceRules).1.firmwareUpgrade = "no" then
        ({ job with skipped := job.skipped + 1, done := true }, [])
      else
        match getFirmware (view.firmwares device.deviceType) job.revision with
        | none => (job, [])
        | some none => ({ job with noFirmware := job.noFirmware + 1, done := true }, [])
        | some (some firmware) =>
            match upgradeStatus (view.upgrade device.serialNumber firmware.uri) with
            | none => (job, [⟨device, firmware.uri⟩])
            | some none =>
                ({ job with notConnected := job.notConnected + 1, done := true },
                  [⟨device, firmware.uri⟩])
            | some (some status) =>
                if status = "pending" then
                  ({ job with pending := job.pending + 1, done := true },
                    [⟨device, firmware.uri⟩])
                else
                  ({ job with upgraded := job.upgraded + 1, done := true },
                    [⟨device, firmware.uri⟩])

/-! ## The main thread -/

/-- `FWUpgradeList`. -/
structure FWUpgradeList where
  title : String := ""
  details : String := ""
  jobId : String := ""
  success : List String := []
  skipped : List String := []
  noFirmware : List String := []
  notConnected : List String := []
  pending : List String := []

/-- The lists of the notification and the counters beside them. -/
structure UpgradeTally where
  content : FWUpgradeList
  upgraded : ℕ := 0
  notConnected : ℕ := 0
  skipped : ℕ := 0
  noFirmware : ℕ := 0
  pending : ℕ := 0

/-- A job that is done goes into one list. -/
def FWUpgradeList.add (content : FWUpgradeList) (job : VenueDeviceUpgrade) : FWUpgradeList :=
  if job.upgraded ≠ 0 then { content with success := content.success ++ [job.serialNumber] }
  else if job.skipped ≠ 0 then { content with skipped := content.skipped ++ [job.serialNumber] }
  else if job.notConnected ≠ 0 then
    { content with notConnected := content.notConnected ++ [job.serialNumber] }
  else if job.noFirmware ≠ 0 then
    { content with noFirmware := content.noFirmware ++ [job.serialNumber] }
  else if job.pending ≠ 0 then { content with pending := content.pending ++ [job.serialNumber] }
  else content

def UpgradeTally.add (tally : UpgradeTally) (job : VenueDeviceUpgrade) : UpgradeTally where
  content := tally.content.add job
  upgraded := tally.upgraded + job.upgraded
  notConnected := tally.notConnected + job.notConnected
  skipped := tally.skipped + job.skipped
  noFirmware := tally.noFirmware + job.noFirmware
  pending := tally.pending + job.pending

/-- A pass over the jobs, which takes out those that it sees done. -/
def collectDone (seen : String → Bool) :
    List VenueDeviceUpgrade → UpgradeTally → List VenueDeviceUpgrade × UpgradeTally
  | [], tally => ([], tally)
  | job :: jobList, tally =>
      if job.done && seen job.uuid then
        collectDone seen jobList (tally.add job)
      else
        let (kept, collected) := collectDone seen jobList tally
        (job :: kept, collected)

/-- The loop over the devices; a pass sees any of the jobs that have ended by then. -/
def startUpgrades (task : String → VenueDeviceUpgrade) (seen : ℕ → String → Bool) :
    ℕ → List String → List VenueDeviceUpgrade → UpgradeTally →
      List VenueDeviceUpgrade × UpgradeTally
  | _, [], jobList, tally => (jobList, tally)
  | pass, uuid :: deviceList, jobList, tally =>
      let (kept, collected) := collectDone (seen pass) (jobList ++ [task uuid]) tally
      startUpgrades task seen (pass + 1) deviceList kept collected

/-- `InventoryDB::GetDevicesUUIDForVenue`. -/
def getDevicesUUIDForVenue (db : Store) (fuel : ℕ) (venueUuid : String) : Option (List String) :=
  (iterate db.inventoryDB.rows (fun _ tag => tag.venue == venueUuid)
    (fun devices tag => (true, devices ++ [tag.info.id])) s!" venue=\x27{venueUuid}\x27 " fuel 0
    []).map Visited.state

/-- What is sent to the user, and what was asked of the gateway. -/
structure UpgradeReport where
  content : FWUpgradeList
  requests : List UpgradeRequest := []

def completedDetails (jobId : String)
    (upgraded notConnected skipped noFirmware pending : ℕ) : String :=
  s!"Job {jobId} Completed: {upgraded} upgraded, {notConnected} not connected, " ++
    s!"{skipped} skipped, {noFirmware} no firmware, {pending} pending."

/-- The part of `VenueUpgrade::run` that starts and collects the jobs.  Each job has a view of its
own, and each pass sees some of the jobs done. -/
def upgradeDevices (views : String → JobView) (seen : ℕ → String → Bool) (jobId revision : String)
    (venue : Venue) (rules : DeviceRules) (deviceList : List String) : UpgradeReport :=
  let ended uuid := VenueDeviceUpgrade.run (views uuid) { uuid, revision, rules }
  let title := s!"Upgrading {venue.info.name} devices."
  let (jobList, started) := startUpgrades (fun uuid => (ended uuid).1) seen 0 deviceList []
    { content := { title, jobId } }
  -- `joinAll` has waited for every thread
  let (_, tally) := collectDone (fun _ => true) jobList started
  let details := completedDetails jobId tally.upgraded tally.notConnected tally.skipped
    tally.noFirmware tally.pending
  { content := { tally.content with details }
    requests := deviceList.flatMap fun uuid => (ended uuid).2 }

/-- `VenueUpgrade::run`. -/
def venueUpgrade (db : Store) (config : DeviceRules) (views : String → JobView)
    (seen : ℕ → String → Bool) (jobId venueUuid revision : String) (fuel : ℕ) :
    Option UpgradeReport :=
  match db.venueDB.get? venueUuid with
  | none => some { content := { details := s!"Venue {venueUuid} no longer exists." } }
  | some venue =>
      match evaluateVenueRules db config fuel venue.info.id {},
          getDevicesUUIDForVenue db fuel venue.info.id with
      | some rules, some deviceList =>
          some (upgradeDevices views seen jobId revision venue rules deviceList)
      | _, _ => none

/-! ## Outcomes -/

inductive UpgradeOutcome where
  | success
  | skipped
  | notConnected
  | noFirmware
  | pending
  deriving DecidableEq, Repr

/-- The outcome that a job is listed under. -/
def VenueDeviceUpgrade.outcome (job : VenueDeviceUpgrade) : Option UpgradeOutcome :=
  if job.upgraded ≠ 0 then some .success
  else if job.skipped ≠ 0 then some .skipped
  else if job.notConnected ≠ 0 then some .notConnected
  else if job.noFirmware ≠ 0 then some .noFirmware
  else if job.pending ≠ 0 then some .pending
  else none

def VenueDeviceUpgrade.count (job : VenueDeviceUpgrade) : UpgradeOutcome → ℕ
  | .success => job.upgraded
  | .skipped => job.skipped
  | .notConnected => job.notConnected
  | .noFirmware => job.noFirmware
  | .pending => job.pending

def VenueDeviceUpgrade.entry (job : VenueDeviceUpgrade) : Option (UpgradeOutcome × String) :=
  job.outcome.map fun outcome => (outcome, job.serialNumber)

def UpgradeTally.count (tally : UpgradeTally) : UpgradeOutcome → ℕ
  | .success => tally.upgraded
  | .skipped => tally.skipped
  | .notConnected => tally.notConnected
  | .noFirmware => tally.noFirmware
  | .pending => tally.pending

def FWUpgradeList.listed (content : FWUpgradeList) : UpgradeOutcome → List String
  | .success => content.success
  | .skipped => content.skipped
  | .notConnected => content.notConnected
  | .noFirmware => content.noFirmware
  | .pending => content.pending

/-- The five lists as one, each serial number with the list that it is in. -/
def FWUpgradeList.entries (content : FWUpgradeList) : List (UpgradeOutcome × String) :=
  [UpgradeOutcome.success, .skipped, .notConnected, .noFirmware, .pending].flatMap fun outcome =>
    (content.listed outcome).map fun serialNumber => (outcome, serialNumber)

theorem FWUpgradeList.listed_add (content : FWUpgradeList) (job : VenueDeviceUpgrade)
    (outcome : UpgradeOutcome) :
    (content.add job).listed outcome =
      content.listed outcome ++ if job.outcome = some outcome then [job.serialNumber] else [] := by
  unfold FWUpgradeList.add VenueDeviceUpgrade.outcome
  split_ifs <;> cases outcome <;> simp_all [FWUpgradeList.listed]

theorem FWUpgradeList.entries_add (content : FWUpgradeList) (job : VenueDeviceUpgrade) :
    (content.add job).entries.Perm (content.entries ++ job.entry.toList) := by
  have one : ([UpgradeOutcome.success, .skipped, .notConnected, .noFirmware, .pending].flatMap
      fun outcome => if job.outcome = some outcome then [(outcome, job.serialNumber)] else []) =
      job.entry.toList := by
    unfold VenueDeviceUpgrade.entry
    cases job.outcome with
    | none => rfl
    | some outcome => cases outcome <;> rfl
  unfold FWUpgradeList.entries
  rw [← one]
  refine List.Perm.trans (.of_eq ?_) (List.flatMap_append_perm _ _ _).symm
  refine List.flatMap_congr fun outcome _ => ?_
  rw [listed_add, List.map_append]
  split <;> rfl

/-- The counters are the lengths of the lists. -/
def UpgradeTally.Exact (tally : UpgradeTally) : Prop :=
  ∀ outcome, tally.count outcome = (tally.content.listed outcome).length

/-- A job counts for the list that it goes into, and for no other. -/
def VenueDeviceUpgrade.CountsOnce (job : VenueDeviceUpgrade) : Prop :=
  ∀ outcome, job.count outcome = if job.outcome = some outcome then 1 else 0

theorem UpgradeTally.count_add (tally : UpgradeTally) (job : VenueDeviceUpgrade)
    (outcome : UpgradeOutcome) :
    (tally.add job).count outcome = tally.count outcome + job.count outcome := by
  cases outcome <;> rfl

theorem UpgradeTally.Exact.add {tally : UpgradeTally} {job : VenueDeviceUpgrade}
    (exact : tally.Exact) (once : job.CountsOnce) : (tally.add job).Exact := by
  intro outcome
  rw [UpgradeTally.count_add, exact outcome, once outcome]
  change _ = ((tally.content.add job).listed outcome).length
  rw [FWUpgradeList.listed_add, List.length_append]
  split <;> rfl

/-! ## The passes -/

/-- The lists that a list of jobs calls for. -/
def jobEntries (jobList : List VenueDeviceUpgrade) : List (UpgradeOutcome × String) :=
  jobList.filterMap VenueDeviceUpgrade.entry

theorem jobEntries_cons (job : VenueDeviceUpgrade) (jobList : List VenueDeviceUpgrade) :
    jobEntries (job :: jobList) = job.entry.toList ++ jobEntries jobList := by
  unfold jobEntries
  rw [List.filterMap_cons]
  cases job.entry <;> rfl

theorem jobEntries_append (jobs more : List VenueDeviceUpgrade) :
    jobEntries (jobs ++ more) = jobEntries jobs ++ jobEntries more :=
  List.filterMap_append

section Passes

variable (seen : String → Bool) (jobList : List VenueDeviceUpgrade) (tally : UpgradeTally)

/-- What a pass lists are the jobs that it takes out. -/
theorem collectDone_entries :
    ((collectDone seen jobList tally).2.content.entries ++
        jobEntries (collectDone seen jobList tally).1).Perm
      (tally.content.entries ++ jobEntries jobList) := by
  induction jobList generalizing tally with
  | nil => exact .refl _
  | cons job jobList ih =>
      unfold collectDone
      split
      case isTrue ended =>
        rw [jobEntries_cons, ← List.append_assoc]
        exact (ih _).trans (.append_right _ (tally.content.entries_add job))
      case isFalse running =>
        rw [jobEntries_cons, jobEntries_cons]
        refine List.perm_append_comm_assoc _ _ _ |>.trans ?_
        exact (List.Perm.append_left _ (ih tally)).trans (List.perm_append_comm_assoc _ _ _)

theorem collectDone_subset : (collectDone seen jobList tally).1 ⊆ jobList := by
  induction jobList generalizing tally with
  | nil => exact List.Subset.refl _
  | cons job jobList ih =>
      unfold collectDone
      split
      case isTrue ended => exact List.subset_cons_of_subset job (ih _)
      case isFalse running => exact List.cons_subset_cons job (ih tally)

/-- A pass that sees every job leaves none that is done. -/
theorem collectDone_all : ∀ job ∈ (collectDone (fun _ => true) jobList tally).1,
    job.done = false := by
  induction jobList generalizing tally with
  | nil => nofun
  | cons job jobList ih =>
      unfold collectDone
      split
      case isTrue ended => exact ih _
      case isFalse running =>
        refine List.forall_mem_cons.mpr ⟨?_, ih tally⟩
        simpa using running

variable {jobList tally}

theorem collectDone_exact (exact : tally.Exact) (once : ∀ job ∈ jobList, job.CountsOnce) :
    (collectDone seen jobList tally).2.Exact := by
  induction jobList generalizing tally with
  | nil => exact exact
  | cons job jobList ih =>
      obtain ⟨own, others⟩ := List.forall_mem_cons.mp once
      unfold collectDone
      split
      case isTrue ended => exact ih (exact.add own) others
      case isFalse running => exact ih exact others

end Passes

/-! ## The loop -/

section Loop

variable (task : String → VenueDeviceUpgrade) (seen : ℕ → String → Bool)

theorem startUpgrades_entries (pass : ℕ) (deviceList : List String)
    (jobList : List VenueDeviceUpgrade) (tally : UpgradeTally) :
    ((startUpgrades task seen pass deviceList jobList tally).2.content.entries ++
        jobEntries (startUpgrades task seen pass deviceList jobList tally).1).Perm
      (tally.content.entries ++ jobEntries (jobList ++ deviceList.map task)) := by
  induction deviceList generalizing pass jobList tally with
  | nil =>
      rw [List.map_nil, List.append_nil]
      exact .refl _
  | cons uuid deviceList ih =>
      have started : jobEntries (jobList ++ (uuid :: deviceList).map task) =
          jobEntries (jobList ++ [task uuid]) ++ jobEntries (deviceList.map task) := by
        rw [← jobEntries_append, List.append_assoc, List.singleton_append, List.map_cons]
      unfold startUpgrades
      refine (ih _ _ _).trans ?_
      rw [started, jobEntries_append, ← List.append_assoc, ← List.append_assoc]
      exact .append_right _ (collectDone_entries (seen pass) (jobList ++ [task uuid]) tally)

variable {task seen}

/-- What holds of every job that is started holds of the jobs that are left. -/
theorem startUpgrades_jobs {P : VenueDeviceUpgrade → Prop} (tasks : ∀ uuid, P (task uuid))
    {pass : ℕ} {deviceList : List String} {jobList : List VenueDeviceUpgrade} {tally : UpgradeTally}
    (jobs : ∀ job ∈ jobList, P job) :
    ∀ job ∈ (startUpgrades task seen pass deviceList jobList tally).1, P job := by
  induction deviceList generalizing pass jobList tally with
  | nil => exact jobs
  | cons uuid deviceList ih =>
      unfold startUpgrades
      refine ih fun job left => ?_
      rcases List.mem_append.mp (collectDone_subset _ _ _ left) with before | new
      · exact jobs job before
      · rw [List.mem_singleton.mp new]
        exact tasks uuid

theorem startUpgrades_exact (once : ∀ uuid, (task uuid).CountsOnce) {pass : ℕ}
    {deviceList : List String} {jobList : List VenueDeviceUpgrade} {tally : UpgradeTally}
    (jobs : ∀ job ∈ jobList, job.CountsOnce) (exact : tally.Exact) :
    (startUpgrades task seen pass deviceList jobList tally).2.Exact := by
  induction deviceList generalizing pass jobList tally with
  | nil => exact exact
  | cons uuid deviceList ih =>
      have added : ∀ job ∈ jobList ++ [task uuid], job.CountsOnce :=
        List.forall_mem_append.mpr ⟨jobs, List.forall_mem_singleton.mpr (once uuid)⟩
      unfold startUpgrades
      exact ih (fun job left => added job (collectDone_subset _ _ _ left))
        (collectDone_exact (seen pass) exact added)

end Loop

/-! ## A job -/

/-- The list of firmwares is an array of objects. -/
def ServiceAnswer.ListsFirmwares (answer : ServiceAnswer) : Prop :=
  answer.status = 200 → ∃ items, answer.object.getArray? "firmwares" = some items ∧
    ∀ item ∈ items, ∃ fields text, item = .obj fields text

/-- There is a status, and it is not null. -/
def ServiceAnswer.HasStatus (answer : ServiceAnswer) : Prop :=
  answer.status = 200 → ∃ value, answer.object.lookup "status" = some value ∧ value ≠ .null

/-- The answers that a job needs for a device can be read. -/
structure AnswersReadable (view : JobView) (revision : String) (device : InventoryTag) : Prop where
  firmwares : (view.firmwares device.deviceType).ListsFirmwares
  status : ∀ firmware,
    getFirmware (view.firmwares device.deviceType) revision = some (some firmware) →
      (view.upgrade device.serialNumber firmware.uri).HasStatus

theorem Firmware.ofItem_isSome_iff (item : Json) :
    (Firmware.ofItem item).isSome ↔ ∃ fields text, item = .obj fields text := by
  cases item with
  | obj fields text => exact iff_of_true rfl ⟨fields, text, rfl⟩
  | _ => exact iff_of_false Bool.false_ne_true nofun

theorem getFirmware_isSome_iff (answer : ServiceAnswer) (revision : String) :
    (getFirmware answer revision).isSome ↔ answer.ListsFirmwares := by
  unfold getFirmware getDeviceTypeFirmwares ServiceAnswer.ListsFirmwares
  rw [Option.isSome_map]
  by_cases answered : answer.status = 200
  · rw [if_pos answered, forall_prop_of_true answered]
    cases listed : answer.object.getArray? "firmwares" with
    | none => exact iff_of_false Bool.false_ne_true nofun
    | some items =>
        rw [Option.isSome_map, OptionLists.mapM_isSome_iff]
        simp only [Firmware.ofItem_isSome_iff, Option.some.injEq, exists_eq_left']
  · rw [if_neg answered]
    exact iff_of_true rfl fun is200 => absurd is200 answered

theorem upgradeStatus_isSome_iff (answer : ServiceAnswer) :
    (upgradeStatus answer).isSome ↔ answer.HasStatus := by
  unfold upgradeStatus ServiceAnswer.HasStatus JsonObject.getString
  by_cases answered : answer.status = 200
  · rw [if_pos answered, forall_prop_of_true answered, Option.isSome_map]
    cases found : answer.object.lookup "status" with
    | none => exact iff_of_false Bool.false_ne_true nofun
    | some value =>
        rw [Option.getD_some]
        cases value with
        | null => exact iff_of_false Bool.false_ne_true fun ⟨_, same, filled⟩ =>
            filled (Option.some.inj same).symm
        | _ => exact iff_of_true rfl ⟨_, rfl, nofun⟩
  · rw [if_neg answered]
    exact iff_of_true rfl fun is200 => absurd is200 answered

/-- What a job comes to for a device that it finds. -/
structure JobEnd (view : JobView) (revision : String) (rules : DeviceRules) (device : InventoryTag)
    (ended : VenueDeviceUpgrade × List UpgradeRequest) : Prop where
  serialNumber : ended.1.serialNumber = device.serialNumber
  once : ended.1.CountsOnce
  done : ended.1.done = ended.1.outcome.isSome
  skipped : ended.1.outcome = some .skipped ↔
    (applyRules rules device.deviceRules).1.firmwareUpgrade = "no"
  reported : ended.1.outcome.isSome ↔
    (applyRules rules device.deviceRules).1.firmwareUpgrade = "no" ∨
      AnswersReadable view revision device
  requests : ∀ request ∈ ended.2, request.device = device ∧
    (applyRules rules device.deviceRules).1.firmwareUpgrade ≠ "no"

theorem jobEnd_run {view : JobView} {uuid revision : String} {rules : DeviceRules}
    {device : InventoryTag} (found : view.inventoryDB.get? uuid = some device) :
    JobEnd view revision rules device (VenueDeviceUpgrade.run view { uuid, revision, rules }) := by
  unfold VenueDeviceUpgrade.run
  rw [found]
  dsimp only
  by_cases forbidden : (applyRules rules device.deviceRules).1.firmwareUpgrade = "no"
  · rw [if_pos forbidden]
    exact ⟨rfl, fun outcome => by cases outcome <;> rfl, rfl, iff_of_true rfl forbidden,
      iff_of_true rfl (.inl forbidden), nofun⟩
  · rw [if_neg forbidden]
    have allowed : ∀ request : UpgradeRequest, request.device = device →
        request.device = device ∧ (applyRules rules device.deviceRules).1.firmwareUpgrade ≠ "no" :=
      fun _ same => ⟨same, forbidden⟩
    cases firmwares : getFirmware (view.firmwares device.deviceType) revision with
    | none =>
        have unreadable : ¬ AnswersReadable view revision device := fun readable => by
          have isSome := (getFirmware_isSome_iff _ revision).mpr readable.firmwares
          rw [firmwares] at isSome
          cases isSome
        exact ⟨rfl, fun outcome => by cases outcome <;> rfl, rfl, iff_of_false nofun forbidden,
          iff_of_false Bool.false_ne_true (not_or.mpr ⟨forbidden, unreadable⟩), nofun⟩
    | some found =>
        have lists := (getFirmware_isSome_iff _ revision).mp (by rw [firmwares]; rfl)
        cases found with
        | none =>
            have readable : AnswersReadable view revision device :=
              ⟨lists, fun firmware isFound => by rw [firmwares] at isFound; cases isFound⟩
            exact ⟨rfl, fun outcome => by cases outcome <;> rfl, rfl, iff_of_false nofun forbidden,
              iff_of_true rfl (.inr readable), nofun⟩
        | some firmware =>
            have readable_iff : AnswersReadable view revision device ↔
                (view.upgrade device.serialNumber firmware.uri).HasStatus := by
              constructor
              · exact fun readable => readable.status firmware firmwares
              · refine fun hasStatus => ⟨lists, fun other isFound => ?_⟩
                obtain rfl := Option.some.inj (Option.some.inj (firmwares.symm.trans isFound))
                exact hasStatus
            rw [← upgradeStatus_isSome_iff] at readable_iff
            dsimp only
            cases answered : upgradeStatus (view.upgrade device.serialNumber firmware.uri) with
            | none =>
                rw [answered] at readable_iff
                exact ⟨rfl, fun outcome => by cases outcome <;> rfl, rfl,
                  iff_of_false nofun forbidden,
                  iff_of_false Bool.false_ne_true
                    (not_or.mpr ⟨forbidden, readable_iff.not.mpr Bool.false_ne_true⟩),
                  List.forall_mem_singleton.mpr (allowed _ rfl)⟩
            | some status =>
                rw [answered] at readable_iff
                have readable := readable_iff.mpr rfl
                cases status with
                | none =>
                    exact ⟨rfl, fun outcome => by cases outcome <;> rfl, rfl,
                      iff_of_false nofun forbidden, iff_of_true rfl (.inr readable),
                      List.forall_mem_singleton.mpr (allowed _ rfl)⟩
                | some text =>
                    dsimp only
                    split
                    case isTrue isPending =>
                      exact ⟨rfl, fun outcome => by cases outcome <;> rfl, rfl,
                        iff_of_false nofun forbidden, iff_of_true rfl (.inr readable),
                        List.forall_mem_singleton.mpr (allowed _ rfl)⟩
                    case isFalse isDone =>
                      exact ⟨rfl, fun outcome => by cases outcome <;> rfl, rfl,
                        iff_of_false nofun forbidden, iff_of_true rfl (.inr readable),
                        List.forall_mem_singleton.mpr (allowed _ rfl)⟩

theorem run_missing {view : JobView} {uuid revision : String} {rules : DeviceRules}
    (missing : view.inventoryDB.get? uuid = none) :
    VenueDeviceUpgrade.run view { uuid, revision, rules } =
      ({ uuid, revision, rules, done := true }, []) := by
  unfold VenueDeviceUpgrade.run
  rw [missing]

section Ended

variable (view : JobView) (uuid revision : String) (rules : DeviceRules)

theorem run_once : (VenueDeviceUpgrade.run view { uuid, revision, rules }).1.CountsOnce := by
  cases found : view.inventoryDB.get? uuid with
  | none =>
      rw [run_missing found]
      exact fun outcome => by cases outcome <;> rfl
  | some device => exact (jobEnd_run found).once

/-- A job that is not done is in no list. -/
theorem run_entry_of_running
    (running : (VenueDeviceUpgrade.run view { uuid, revision, rules }).1.done = false) :
    (VenueDeviceUpgrade.run view { uuid, revision, rules }).1.entry = none := by
  cases found : view.inventoryDB.get? uuid with
  | none =>
      rw [run_missing found]
      rfl
  | some device =>
      rw [(jobEnd_run found).done, Option.isSome_eq_false_iff, Option.isNone_iff_eq_none] at running
      rw [VenueDeviceUpgrade.entry, running, Option.map_none]

end Ended

/-! ## The report -/

section Report

variable (views : String → JobView) (seen : ℕ → String → Bool) (jobId revision : String)
    (venue : Venue) (rules : DeviceRules) (deviceList : List String)

/-- However the passes fall, the lists are those of the jobs. -/
theorem upgradeDevices_entries :
    (upgradeDevices views seen jobId revision venue rules deviceList).content.entries.Perm
      (deviceList.filterMap fun uuid =>
        (VenueDeviceUpgrade.run (views uuid) { uuid, revision, rules }).1.entry) := by
  let task uuid := (VenueDeviceUpgrade.run (views uuid) { uuid, revision, rules }).1
  let empty : UpgradeTally :=
    { content := { title := s!"Upgrading {venue.info.name} devices.", jobId } }
  let started := startUpgrades task seen 0 deviceList [] empty
  let last := collectDone (fun _ => true) started.1 started.2
  have running : ∀ job ∈ started.1, job.done = false → job.entry = none :=
    startUpgrades_jobs (P := fun job => job.done = false → job.entry = none)
      (fun uuid => run_entry_of_running (views uuid) uuid revision rules) nofun
  have noneLeft : jobEntries last.1 = [] := by
    refine List.filterMap_eq_nil_iff.mpr fun job left => ?_
    exact running job (collectDone_subset _ _ _ left) (collectDone_all _ _ job left)
  have collected := (collectDone_entries (fun _ => true) started.1 started.2).trans
    (startUpgrades_entries task seen 0 deviceList [] empty)
  change (last.2.content.entries ++ jobEntries last.1).Perm (jobEntries (deviceList.map task))
    at collected
  rw [noneLeft, List.append_nil, jobEntries, List.filterMap_map] at collected
  exact collected

/-- The numbers of the details are the lengths of the lists. -/
theorem upgradeDevices_details :
    let content := (upgradeDevices views seen jobId revision venue rules deviceList).content
    content.details = completedDetails jobId content.success.length content.notConnected.length
      content.skipped.length content.noFirmware.length content.pending.length := by
  let task uuid := (VenueDeviceUpgrade.run (views uuid) { uuid, revision, rules }).1
  let empty : UpgradeTally :=
    { content := { title := s!"Upgrading {venue.info.name} devices.", jobId } }
  let started := startUpgrades task seen 0 deviceList [] empty
  let tally := (collectDone (fun _ => true) started.1 started.2).2
  have once : ∀ uuid, (task uuid).CountsOnce := fun uuid =>
    run_once (views uuid) uuid revision rules
  have noJobs : ∀ job ∈ ([] : List VenueDeviceUpgrade), job.CountsOnce := List.forall_mem_nil _
  have none : empty.Exact := fun outcome => by cases outcome <;> rfl
  have exact : tally.Exact :=
    collectDone_exact _ (startUpgrades_exact once noJobs none) (startUpgrades_jobs once noJobs)
  change completedDetails jobId (tally.count .success) (tally.count .notConnected)
    (tally.count .skipped) (tally.count .noFirmware) (tally.count .pending) = _
  rw [exact, exact, exact, exact, exact]
  rfl

end Report

/-! ## The devices and the rules of a venue -/

theorem visit_listed {α β : Type} (text : α → β) (listed : List β) (rows : List α) :
    (visit (fun listed row => (true, listed ++ [text row])) listed rows).state =
      listed ++ rows.map text := by
  induction rows generalizing listed with
  | nil => rw [List.map_nil, List.append_nil, visit]
  | cons row rows ih =>
      rw [visit_cons, if_pos rfl, List.map_cons]
      exact (ih _).trans (List.append_cons listed (text row) (rows.map text)).symm

theorem getDevicesUUIDForVenue_eq (db : Store) (venueUuid : String) {fuel : ℕ}
    (enough : db.inventoryDB.rows.length < 50 * fuel) :
    getDevicesUUIDForVenue db fuel venueUuid =
      some ((db.inventoryDB.rows.filter (·.venue == venueUuid)).map fun tag => tag.info.id) := by
  have opened : toString " venue=\x27" ≠ "" := by decide
  unfold getDevicesUUIDForVenue
  rw [iterate_eq_visit _ _ _ enough, Option.map_some, visit_listed, List.nil_append, selectRows,
    if_neg (by simp [opened])]

/-- `InventoryDB::EvaluateDeviceRules` comes to a rule against upgrades. -/
def ForbidsUpgrade (db : Store) (config : DeviceRules) (tag : InventoryTag) : Prop :=
  ∃ fuel rules, evaluateDeviceRules db config fuel tag = some rules ∧ rules.firmwareUpgrade = "no"

/-- The rules of the levels above a device may be merged before its own are. -/
theorem applyRules_effectiveRules (config own : DeviceRules) (above : List DeviceRules) :
    (applyRules (effectiveRules config ({} :: above)) own).1 =
      effectiveRules config (own :: above) := by
  simp only [applyRules, effectiveRules, List.map_cons, firstDecided_cons]
  rfl

section Rules

variable {db : Store} {config : DeviceRules} {venueUuid : String}

/-- The rules of the venue are evaluated once for all of its devices. -/
theorem exists_venueRules (acyclic : AcyclicHierarchy db) (config : DeviceRules)
    (named : venueUuid ≠ "") :
    ∃ bound rules,
      (∀ fuel ≥ bound, evaluateVenueRules db config fuel venueUuid {} = some rules) ∧
      ∀ tag : InventoryTag, tag.venue = venueUuid →
        (ForbidsUpgrade db config tag ↔
          (applyRules rules tag.deviceRules).1.firmwareUpgrade = "no") := by
  obtain ⟨above, chain⟩ := acyclic.venueChain venueUuid
  have isSome := evaluateVenueRules_isSome acyclic.venues acyclic.entities (Nat.lt_succ_self _)
    config {} venueUuid
  obtain ⟨rules, evaluated⟩ := Option.isSome_iff_exists.mp isSome
  refine ⟨_, rules, fun fuel enough => evaluateVenueRules_mono enough evaluated,
    fun tag placed => ?_⟩
  obtain ⟨bound, own, evaluatedOwn⟩ := acyclic.evaluated config tag
  have merged : (applyRules rules tag.deviceRules).1 = own := by
    have ofVenue := evaluatedOwn
    rw [evaluateDeviceRules, placed, if_pos named] at ofVenue
    rw [evaluateVenueRules_eq_effective chain evaluated, applyRules_effectiveRules]
    exact (evaluateVenueRules_eq_effective chain ofVenue).symm
  rw [merged]
  constructor
  · rintro ⟨fuel, found, again, isNo⟩
    rw [evaluateDeviceRules_unique evaluatedOwn again]
    exact isNo
  · exact fun isNo => ⟨bound, own, evaluatedOwn, isNo⟩

end Rules

/-! ## The claim of the rules -/

/-- The devices of a venue that still exist when their jobs run. -/
def remainingDevices (db : Store) (views : String → JobView) (venueUuid : String) :
    List InventoryTag :=
  (db.inventoryDB.rows.filter (·.venue == venueUuid)).filterMap fun tag =>
    (views tag.info.id).inventoryDB.get? tag.info.id

/-- A report on a venue that respects the rules of each device: upgrades are asked for devices
that may have them only, every device that remains is in one of the lists, and it is listed as
skipped if its rules forbid the upgrade and not otherwise. -/
structure ReportsByRules (db : Store) (config : DeviceRules) (views : String → JobView)
    (jobId venueUuid : String) (report : UpgradeReport) : Prop where
  requested : ∀ request ∈ report.requests, request.device.venue = venueUuid →
    ¬ ForbidsUpgrade db config request.device
  listed : ∃ outcome : String → UpgradeOutcome,
    report.content.entries.Perm
      ((remainingDevices db views venueUuid).map fun tag =>
        (outcome tag.info.id, tag.serialNumber)) ∧
    ∀ tag ∈ remainingDevices db views venueUuid, tag.venue = venueUuid →
      (outcome tag.info.id = .skipped ↔ ForbidsUpgrade db config tag)
  counted : report.content.details = completedDetails jobId report.content.success.length
    report.content.notConnected.length report.content.skipped.length
    report.content.noFirmware.length report.content.pending.length

/-- From some fuel on, the upgrade ends with a report that respects the rules. -/
def UpgradesByRules (db : Store) (config : DeviceRules) (views : String → JobView)
    (seen : ℕ → String → Bool) (jobId venueUuid revision : String) : Prop :=
  ∃ report, (∃ bound, ∀ fuel ≥ bound,
      venueUpgrade db config views seen jobId venueUuid revision fuel = some report) ∧
    ReportsByRules db config views jobId venueUuid report

/-- The answers of the services can be read for every device that remains and may be upgraded as
a device of the venue. -/
def ServicesReadable (db : Store) (config : DeviceRules) (views : String → JobView)
    (venueUuid revision : String) : Prop :=
  ∀ tag ∈ remainingDevices db views venueUuid,
    ForbidsUpgrade db config { tag with venue := venueUuid } ∨
      AnswersReadable (views tag.info.id) revision tag

section Claim

variable {db : Store} {config : DeviceRules} {views : String → JobView} {seen : ℕ → String → Bool}
    {jobId venueUuid revision : String} {venue : Venue} {rules : DeviceRules}

/-- The ids of the devices of a venue. -/
def venueDeviceIds (db : Store) (venueUuid : String) : List String :=
  (db.inventoryDB.rows.filter (·.venue == venueUuid)).map fun tag => tag.info.id

theorem venueUpgrade_eq (found : db.venueDB.get? venueUuid = some venue) {bound : ℕ}
    (evaluated : ∀ fuel ≥ bound, evaluateVenueRules db config fuel venueUuid {} = some rules) :
    ∀ fuel ≥ max bound (db.inventoryDB.rows.length + 1),
      venueUpgrade db config views seen jobId venueUuid revision fuel =
        some (upgradeDevices views seen jobId revision venue rules
          (venueDeviceIds db venueUuid)) := by
  intro fuel enough
  have isVenue : venue.info.id = venueUuid := Table.key_of_get? found
  have listed : getDevicesUUIDForVenue db fuel venueUuid = some (venueDeviceIds db venueUuid) :=
    getDevicesUUIDForVenue_eq db venueUuid (by omega)
  unfold venueUpgrade
  rw [found]
  dsimp only
  rw [isVenue, evaluated fuel (by omega), listed]

/-- The lists of a report have one entry for each job with an outcome. -/
theorem entries_eq_outcomes :
    (upgradeDevices views seen jobId revision venue rules
      (venueDeviceIds db venueUuid)).content.entries.Perm
      ((db.inventoryDB.rows.filter (·.venue == venueUuid)).filterMap fun tag =>
        (VenueDeviceUpgrade.run (views tag.info.id)
          { uuid := tag.info.id, revision, rules }).1.entry) := by
  have listed := upgradeDevices_entries views seen jobId revision venue rules
    (venueDeviceIds db venueUuid)
  rw [venueDeviceIds, List.filterMap_map] at listed
  exact listed

theorem upgradeDevices_requested (forbids : ∀ tag : InventoryTag, tag.venue = venueUuid →
      (ForbidsUpgrade db config tag ↔ (applyRules rules tag.deviceRules).1.firmwareUpgrade = "no"))
    {deviceList : List String} {request : UpgradeRequest}
    (asked : request ∈ (upgradeDevices views seen jobId revision venue rules deviceList).requests)
    (placed : request.device.venue = venueUuid) : ¬ ForbidsUpgrade db config request.device := by
  obtain ⟨uuid, _, asked⟩ := List.mem_flatMap.mp asked
  cases found : (views uuid).inventoryDB.get? uuid with
  | none =>
      dsimp only at asked
      rw [run_missing found] at asked
      cases asked
  | some device =>
      obtain ⟨same, allowed⟩ := (jobEnd_run found).requests request asked
      rw [forbids _ placed, same]
      exact allowed

theorem run_entry_isSome {uuid : String}
    (listed : (VenueDeviceUpgrade.run (views uuid) { uuid, revision, rules }).1.entry.isSome) :
    ((views uuid).inventoryDB.get? uuid).isSome := by
  cases found : (views uuid).inventoryDB.get? uuid with
  | none =>
      rw [run_missing found] at listed
      cases listed
  | some device => rfl

theorem run_outcome_isSome (forbids : ∀ tag : InventoryTag, tag.venue = venueUuid →
      (ForbidsUpgrade db config tag ↔ (applyRules rules tag.deviceRules).1.firmwareUpgrade = "no"))
    {uuid : String} {tag : InventoryTag} (found : (views uuid).inventoryDB.get? uuid = some tag) :
    (VenueDeviceUpgrade.run (views uuid) { uuid, revision, rules }).1.outcome.isSome ↔
      ForbidsUpgrade db config { tag with venue := venueUuid } ∨
        AnswersReadable (views uuid) revision tag := by
  rw [forbids { tag with venue := venueUuid } rfl]
  exact (jobEnd_run found).reported

theorem upgradesByRules_iff_readable (acyclic : AcyclicHierarchy db) (named : venueUuid ≠ "")
    (found : db.venueDB.get? venueUuid = some venue) :
    UpgradesByRules db config views seen jobId venueUuid revision ↔
      ServicesReadable db config views venueUuid revision := by
  obtain ⟨bound, rules, evaluated, forbids⟩ := exists_venueRules acyclic config named
  have ends : ∀ fuel ≥ max bound (db.inventoryDB.rows.length + 1),
      venueUpgrade db config views seen jobId venueUuid revision fuel =
        some (upgradeDevices views seen jobId revision venue rules
          (venueDeviceIds db venueUuid)) :=
    venueUpgrade_eq found evaluated
  constructor
  · rintro ⟨report, ⟨least, ran⟩, _, ⟨outcome, listed, _⟩, _⟩ tag remains
    have answer := ran _ (Nat.le_max_left least (max bound (db.inventoryDB.rows.length + 1)))
    rw [ends _ (Nat.le_max_right _ _)] at answer
    rw [← Option.some.inj answer] at listed
    have same := (entries_eq_outcomes.symm.trans listed).length_eq
    rw [List.length_map, remainingDevices] at same
    obtain ⟨row, member, isTag⟩ := List.mem_filterMap.mp remains
    have sameId : tag.info.id = row.info.id := Table.key_of_get? isTag
    have isListed := OptionLists.isSome_of_length_filterMap
      (fun row _ listed => run_entry_isSome listed) same row member (by rw [isTag]; rfl)
    rw [VenueDeviceUpgrade.entry, Option.isSome_map, run_outcome_isSome forbids isTag] at isListed
    rw [sameId]
    exact isListed
  · intro readable
    refine ⟨_, ⟨_, ends⟩, fun request asked placed =>
      upgradeDevices_requested forbids asked placed, ?_, ?_⟩
    · let outcome uuid := (VenueDeviceUpgrade.run (views uuid)
        { uuid, revision, rules }).1.outcome.getD .skipped
      have present : ∀ row ∈ db.inventoryDB.rows.filter (·.venue == venueUuid), ∀ tag,
          (views row.info.id).inventoryDB.get? row.info.id = some tag →
            (VenueDeviceUpgrade.run (views row.info.id)
              { uuid := row.info.id, revision, rules }).1.outcome =
                some (outcome row.info.id) := by
        intro row member tag isTag
        have sameId : tag.info.id = row.info.id := Table.key_of_get? isTag
        have isSome := readable tag (List.mem_filterMap.mpr ⟨row, member, isTag⟩)
        rw [sameId, ← run_outcome_isSome forbids isTag] at isSome
        exact (Option.some_get isSome).symm.trans (by rw [Option.get_eq_getD])
      refine ⟨outcome, entries_eq_outcomes.trans (.of_eq ?_), ?_⟩
      · rw [remainingDevices, List.map_filterMap]
        refine List.filterMap_congr fun row member => ?_
        cases isTag : (views row.info.id).inventoryDB.get? row.info.id with
        | none =>
            rw [run_missing isTag]
            rfl
        | some tag =>
            have sameId : tag.info.id = row.info.id := Table.key_of_get? isTag
            rw [VenueDeviceUpgrade.entry, present row member tag isTag,
              (jobEnd_run isTag).serialNumber, Option.map_some, Option.map_some, sameId]
      · intro tag remains placed
        obtain ⟨row, member, isTag⟩ := List.mem_filterMap.mp remains
        have sameId : tag.info.id = row.info.id := Table.key_of_get? isTag
        have ended : JobEnd (views row.info.id) revision rules tag _ := jobEnd_run isTag
        have skipped := ended.skipped
        rw [present row member tag isTag, Option.some.injEq] at skipped
        rw [forbids tag placed, sameId]
        exact skipped
    · exact upgradeDevices_details views seen jobId revision venue rules _

end Claim

/-- The upgrade of a venue respects the rules of its devices exactly when the answers of the
services can be read for every device that remains and may be upgraded; a job that an answer ends
is in no list. -/
theorem upgradesByRules_iff (db : Store) (config : DeviceRules) (views : String → JobView)
    (seen : ℕ → String → Bool) (jobId venueUuid revision : String) (venue : Venue)
    (acyclic : AcyclicHierarchy db) (named : venueUuid ≠ "")
    (found : db.venueDB.get? venueUuid = some venue) :
    UpgradesByRules db config views seen jobId venueUuid revision ↔
      ServicesReadable db config views venueUuid revision :=
  upgradesByRules_iff_readable acyclic named found

/-! ## A venue with one device -/

def lobby : Venue where
  info := { id := "lobby", name := "Lobby" }
  entity := "branch"

def lobbyDevice : InventoryTag where
  info := { id := "device", name := "AP" }
  serialNumber := "aabbccddeeff"
  deviceType := "edgecore_eap101"
  venue := "lobby"

def lobbyStore : Store :=
  { managedEntity with
    venueDB := { rows := [lobby], distinct := by decide }
    inventoryDB := { rows := [lobbyDevice], distinct := by decide } }

theorem lobbyStore_acyclic : AcyclicHierarchy lobbyStore where
  entities := managedEntity_acyclic.entities
  venues := by
    intro id cycle
    obtain ⟨above, first, _⟩ := Relation.TransGen.head'_iff.mp cycle
    obtain ⟨row, found, same, filled⟩ := LinkColumns.parentEdge_iff.mp first
    obtain rfl := List.mem_singleton.mp (Table.mem_of_get? found)
    exact filled same.symm

def oneFirmware : ServiceAnswer where
  status := 200
  object :=
    [("firmwares", .arr [.obj [("revision", .str "v2"), ("uri", .str "v2.bin")] ""] "")]

/-- The firmware service knows one firmware, and the gateway answers every request alike. -/
def lobbyServices (answer : ServiceAnswer) : JobView where
  inventoryDB := lobbyStore.inventoryDB
  firmwares _ := oneFirmware
  upgrade _ _ := answer

theorem lobbyServices_readable_iff (answer : ServiceAnswer) (tag : InventoryTag) :
    AnswersReadable (lobbyServices answer) "v2" tag ↔ answer.HasStatus := by
  constructor
  · have isFirmware : getFirmware oneFirmware "v2" = some (some ⟨"v2", "v2.bin"⟩) := by
      decide
    exact fun readable => readable.status ⟨"v2", "v2.bin"⟩ isFirmware
  · intro hasStatus
    refine ⟨fun _ => ⟨_, rfl, ?_⟩, fun _ _ => hasStatus⟩
    exact List.forall_mem_singleton.mpr ⟨_, _, rfl⟩

theorem upgradesByRules_of_pending :
    UpgradesByRules lobbyStore serviceRules
      (fun _ => lobbyServices { status := 200, object := [("status", .str "pending")] })
      (fun _ _ => true) "job" "lobby" "v2" :=
  (upgradesByRules_iff _ _ _ _ _ _ _ lobby lobbyStore_acyclic (by decide) (by decide)).mpr
    fun tag _ => .inr ((lobbyServices_readable_iff _ tag).mpr fun _ => ⟨_, rfl, nofun⟩)

/-- The gateway accepts the request and says nothing of a status. -/
theorem device_unlisted :
    ¬ ∀ db config views seen jobId venueUuid revision venue, AcyclicHierarchy db →
      venueUuid ≠ "" → db.venueDB.get? venueUuid = some venue →
        UpgradesByRules db config views seen jobId venueUuid revision := by
  intro claim
  have isVenue : lobbyStore.venueDB.get? "lobby" = some lobby := by decide
  have upgrades := claim lobbyStore serviceRules (fun _ => lobbyServices { status := 200 })
    (fun _ _ => true) "job" "lobby" "v2" lobby lobbyStore_acyclic (by decide) isVenue
  have readable := (upgradesByRules_iff_readable lobbyStore_acyclic (by decide) isVenue).mp upgrades
  have remains : lobbyDevice ∈
      remainingDevices lobbyStore (fun _ => lobbyServices { status := 200 }) "lobby" := by
    decide
  rcases readable lobbyDevice remains with ⟨fuel, rules, evaluated, isNo⟩ | answers
  · have decided : evaluateDeviceRules lobbyStore serviceRules 9 lobbyDevice =
        some { rcOnly := "yes", rrm := "yes", firmwareUpgrade := "yes" } := by
      decide
    rw [evaluateDeviceRules_unique evaluated decided] at isNo
    exact absurd isNo (by decide)
  · obtain ⟨value, found, _⟩ := (lobbyServices_readable_iff _ _).mp answers rfl
    cases found

end Owprov
