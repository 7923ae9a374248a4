import Owprov.ConfigurationMerge
import Owprov.Lib.Sweeps
import Owprov.VenueUpgrade

/-!
# Updating and rebooting a venue

A venue update with `updateAllDevices` or `rebootAllDevices` answers with the serial numbers of the
devices of the venue and starts a job.  The job has a thread for each device, as an upgrade has,
and reports to the user how the devices ended.
-/

namespace Owprov

open JsonValues PagedVisits RowTable Sweeps

/-- A request to the gateway to configure a device. -/
structure ConfigureRequest where
  serialNumber : String
  configuration : Members

/-- What the thread of a device meets: the database, the time, and the status that the gateway
answers with. -/
structure DeviceView where
  env : RenderEnv
  db : Store
  now : ℕ
  configure : ConfigureRequest → ℕ
  reboot : String → ℕ

structure VenueDeviceConfigUpdater where
  uuid : String
  serialNumber : String := ""
  updated : ℕ := 0
  failed : ℕ := 0
  badConfig : ℕ := 0
  done : Bool := false

/-- `VenueDeviceConfigUpdater::run`, and what it asked the gateway for. -/
def VenueDeviceConfigUpdater.run (view : DeviceView) (fuel : ℕ) (job : VenueDeviceConfigUpdater) :
    Option (VenueDeviceConfigUpdater × List ConfigureRequest) :=
  match view.db.inventoryDB.get? job.uuid with
  | none => some ({ job with done := true }, [])
  | some device => do
      let job := { job with serialNumber := device.serialNumber }
      let (composed, configuration) ← APConfig.getConfiguration view.env view.db fuel
        (.inventory device.serialNumber device.deviceType)
      if composed then
        -- `SDK::GW::Device::Configure` dates the configuration
        let request : ConfigureRequest :=
          ⟨device.serialNumber, configuration.set "uuid" (.num view.now)⟩
        if view.configure request = 200 then
          some ({ job with updated := job.updated + 1, done := true }, [request])
        else
          some ({ job with failed := job.failed + 1, done := true }, [request])
      else
        some ({ job with badConfig := job.badConfig + 1, done := true }, [])

structure VenueDeviceRebooter where
  uuid : String
  serialNumber : String := ""
  rebooted : ℕ := 0
  failed : ℕ := 0
  done : Bool := false

/-- `VenueDeviceRebooter::run`, and the device that it asked the gateway for. -/
def VenueDeviceRebooter.run (view : DeviceView) (job : VenueDeviceRebooter) :
    VenueDeviceRebooter × List String :=
  match view.db.inventoryDB.get? job.uuid with
  | none => ({ job with done := true }, [])
  | some device =>
      let job := { job with serialNumber := device.serialNumber }
      if view.reboot device.serialNumber = 200 then
        ({ job with rebooted := job.rebooted + 1, done := true }, [device.serialNumber])
      else
        ({ job with failed := job.failed + 1, done := true }, [device.serialNumber])

/-! ## The jobs of the venue -/

structure ConfigUpdateList where
  title : String := ""
  details : String := ""
  jobId : String := ""
  success : List String := []
  error : List String := []
  warning : List String := []

structure RebootList where
  title : String := ""
  details : String := ""
  jobId : String := ""
  success : List String := []
  warning : List String := []

/-- The notification and the counters beside it. -/
structure UpdateTally where
  content : ConfigUpdateList
  updated : ℕ := 0
  failed : ℕ := 0
  badConfigs : ℕ := 0

def UpdateTally.add (tally : UpdateTally) (job : VenueDeviceConfigUpdater) : UpdateTally where
  content :=
    if job.updated ≠ 0 then
      { tally.content with success := tally.content.success ++ [job.serialNumber] }
    else if job.failed ≠ 0 then
      { tally.content with warning := tally.content.warning ++ [job.serialNumber] }
    else
      { tally.content with error := tally.content.error ++ [job.serialNumber] }
  updated := tally.updated + job.updated
  failed := tally.failed + job.failed
  badConfigs := tally.badConfigs + job.badConfig

structure RebootTally where
  content : RebootList
  rebooted : ℕ := 0
  failed : ℕ := 0

def RebootTally.add (tally : RebootTally) (job : VenueDeviceRebooter) : RebootTally where
  content :=
    if job.rebooted ≠ 0 then
      { tally.content with success := tally.content.success ++ [job.serialNumber] }
    else
      { tally.content with warning := tally.content.warning ++ [job.serialNumber] }
  rebooted := tally.rebooted + job.rebooted
  failed := tally.failed + job.failed

structure UpdateReport where
  content : ConfigUpdateList
  requests : List ConfigureRequest := []

def updateDetails (jobId : String) (updated failed badConfigs : ℕ) : String :=
  s!"Job {jobId} Completed: {updated} updated, {failed} failed to update, " ++
    s!"{badConfigs} bad configurations. "

/-- The serial number that a job finds, if any. -/
def serialAt (view : DeviceView) (uuid : String) : String :=
  (view.db.inventoryDB.get? uuid).elim "" InventoryTag.serialNumber

/-- The request for a device that has a configuration when its job runs. -/
def updateRequest (view : DeviceView) (fuel : ℕ) (uuid : String) : Option ConfigureRequest :=
  (view.db.inventoryDB.get? uuid).bind fun device =>
    match APConfig.getConfiguration view.env view.db fuel
        (.inventory device.serialNumber device.deviceType) with
    | some (true, configuration) =>
        some ⟨device.serialNumber, configuration.set "uuid" (.num view.now)⟩
    | _ => none

/-- The gateway takes the configuration of a device. -/
def isUpdated (view : DeviceView) (fuel : ℕ) (uuid : String) : Bool :=
  (updateRequest view fuel uuid).any fun request => view.configure request = 200

/-- The gateway refuses the configuration of a device. -/
def isRefused (view : DeviceView) (fuel : ℕ) (uuid : String) : Bool :=
  (updateRequest view fuel uuid).any fun request => view.configure request ≠ 200

/-- A device is there and has no configuration. -/
def isUnconfigured (view : DeviceView) (fuel : ℕ) (uuid : String) : Bool :=
  (view.db.inventoryDB.get? uuid).isSome && (updateRequest view fuel uuid).isNone

/-- A report on an update: each configuration is pushed once and as it was computed, the devices
are listed by their ends, and the numbers of the details are those of the lists, where a device
that is gone is an error and no bad configuration. -/
structure ReportsUpdate (views : String → DeviceView) (fuel : ℕ) (jobId : String)
    (devices : List String) (report : UpdateReport) : Prop where
  requested : report.requests =
    devices.filterMap fun uuid => updateRequest (views uuid) fuel uuid
  success : report.content.success.Perm
    ((devices.filter fun uuid => isUpdated (views uuid) fuel uuid).map fun uuid =>
      serialAt (views uuid) uuid)
  warning : report.content.warning.Perm
    ((devices.filter fun uuid => isRefused (views uuid) fuel uuid).map fun uuid =>
      serialAt (views uuid) uuid)
  error : report.content.error.Perm
    ((devices.filter fun uuid => (updateRequest (views uuid) fuel uuid).isNone).map fun uuid =>
      serialAt (views uuid) uuid)
  counted : report.content.details = updateDetails jobId report.content.success.length
    report.content.warning.length
    (devices.countP fun uuid => isUnconfigured (views uuid) fuel uuid)

section Listings

variable (tally : UpdateTally) (job : VenueDeviceConfigUpdater)

end Listings

section RebootListings

variable (tally : RebootTally) (job : VenueDeviceRebooter)

end RebootListings

section Kinds

variable (view : DeviceView) (fuel : ℕ) (uuid : String)

end Kinds

/-- A device is updated, refused or not asked for. -/
theorem kinds_perm (views : String → DeviceView) (fuel : ℕ) (devices : List String) :
    ((devices.filter fun uuid => isUpdated (views uuid) fuel uuid) ++
      (devices.filter fun uuid => isRefused (views uuid) fuel uuid) ++
      devices.filter fun uuid => (updateRequest (views uuid) fuel uuid).isNone).Perm devices := by
  have refused : (devices.filter fun uuid => isRefused (views uuid) fuel uuid) =
      (devices.filter fun uuid => !isUpdated (views uuid) fuel uuid).filter fun uuid =>
        isRefused (views uuid) fuel uuid := by
    rw [List.filter_filter]
    refine List.filter_congr fun uuid _ => ?_
    unfold isRefused isUpdated
    cases updateRequest (views uuid) fuel uuid <;> simp
  have unasked : (devices.filter fun uuid => (updateRequest (views uuid) fuel uuid).isNone) =
      (devices.filter fun uuid => !isUpdated (views uuid) fuel uuid).filter fun uuid =>
        !isRefused (views uuid) fuel uuid := by
    rw [List.filter_filter]
    refine List.filter_congr fun uuid _ => ?_
    unfold isRefused isUpdated
    cases updateRequest (views uuid) fuel uuid <;> simp
  rw [refused, unasked, List.append_assoc]
  refine (List.Perm.append_left _ (List.filter_append_perm _ _)).trans ?_
  exact List.filter_append_perm _ _

/-- Every device is in one list. -/
theorem ReportsUpdate.listed {views : String → DeviceView} {fuel : ℕ} {jobId : String}
    {devices : List String} {report : UpdateReport}
    (reports : ReportsUpdate views fuel jobId devices report) :
    (report.content.success ++ report.content.warning ++ report.content.error).Perm
      (devices.map fun uuid => serialAt (views uuid) uuid) := by
  refine ((reports.success.append reports.warning).append reports.error).trans ?_
  rw [← List.map_append, ← List.map_append]
  exact (kinds_perm views fuel devices).map _

section Updates

variable {db : Store} {views : String → DeviceView} {jobId venueUuid : String} {fuel : ℕ}

end Updates

end Owprov
