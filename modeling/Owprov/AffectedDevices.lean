import Mathlib.Data.String.Basic
import Owprov.ConfigurationMerge
import Owprov.InUseRuns
import Owprov.Lib.Gathering

/-!
# The devices that a configuration affects

When a configuration changes, `GetListOfAffectedDevices` goes from its `inUse` list down to the
devices of the venues and entities there.  `APConfig::Get` goes the other way, from a device up
to the configurations of the levels above it.
-/

namespace Owprov

open AcyclicRelation Gathering LinkedForest RowTable Runs StateTransition Walks

/-! ## From the configuration to the devices -/

/-- `AddIfAffected`. -/
def addIfAffected (db : Store) (deviceTypes : List String) (uuid : String) : List String :=
  match db.inventoryDB.get? uuid with
  | none => []
  | some tag =>
      if deviceTypes.any fun type => type == "*" || type == tag.deviceType then
        [tag.serialNumber]
      else
        []

def addDevicesFromVenue (db : Store) (deviceTypes : List String) :
    ℕ → String → Option (List String)
  | 0, _ => none
  | fuel + 1, uuid =>
      match db.venueDB.get? uuid with
      | none => some []
      | some venue => do
          let below ← venue.children.mapM (addDevicesFromVenue db deviceTypes fuel)
          return venue.devices.flatMap (addIfAffected db deviceTypes) ++ below.flatten

def addDevicesFromEntity (db : Store) (deviceTypes : List String) :
    ℕ → String → Option (List String)
  | 0, _ => none
  | fuel + 1, uuid =>
      match db.entityDB.get? uuid with
      | none => some []
      | some entity => do
          let below ← entity.children.mapM (addDevicesFromEntity db deviceTypes fuel)
          let inVenues ← entity.venues.mapM (addDevicesFromVenue db deviceTypes fuel)
          return entity.devices.flatMap (addIfAffected db deviceTypes) ++ below.flatten ++
            inVenues.flatten

/-- The devices that a level lists. -/
def devicesAt (db : Store) : Level → List String
  | .entity id => ((db.entityDB.get? id).map Entity.devices).getD []
  | .venue id => ((db.venueDB.get? id).map Venue.devices).getD []

/-- The entities and venues that a level lists. -/
def levelsBelow (db : Store) : Level → List Level
  | .entity id =>
      ((db.entityDB.get? id).map fun entity =>
        entity.children.map Level.entity ++ entity.venues.map Level.venue).getD []
  | .venue id =>
      ((db.venueDB.get? id).map fun venue => venue.children.map Level.venue).getD []

/-- The affected devices of a level. -/
def affectedAt (db : Store) (deviceTypes : List String) (level : Level) : List String :=
  (devicesAt db level).flatMap (addIfAffected db deviceTypes)

section Levels

variable {db : Store} {deviceTypes : List String} {fuel : ℕ} {id serial : String}

theorem addDevicesFromVenue_eq_gather (fuel : ℕ) (id : String) :
    addDevicesFromVenue db deviceTypes fuel id =
      gather (affectedAt db deviceTypes) (levelsBelow db) fuel (.venue id) := by
  induction fuel generalizing id with
  | zero => rfl
  | succ fuel ih =>
      rw [addDevicesFromVenue, gather]
      cases found : db.venueDB.get? id with
      | none => simp [affectedAt, devicesAt, levelsBelow, found]
      | some venue =>
          have listed : levelsBelow db (.venue id) = venue.children.map Level.venue := by
            simp [levelsBelow, found]
          have own : affectedAt db deviceTypes (.venue id) =
              venue.devices.flatMap (addIfAffected db deviceTypes) := by
            simp [affectedAt, devicesAt, found]
          have lower : addDevicesFromVenue db deviceTypes fuel =
              gather (affectedAt db deviceTypes) (levelsBelow db) fuel ∘ Level.venue := funext ih
          rw [listed, own, List.mapM_map, ← lower]

theorem addDevicesFromEntity_eq_gather (fuel : ℕ) (id : String) :
    addDevicesFromEntity db deviceTypes fuel id =
      gather (affectedAt db deviceTypes) (levelsBelow db) fuel (.entity id) := by
  induction fuel generalizing id with
  | zero => rfl
  | succ fuel ih =>
      rw [addDevicesFromEntity, gather]
      cases found : db.entityDB.get? id with
      | none => simp [affectedAt, devicesAt, levelsBelow, found]
      | some entity =>
          have listed : levelsBelow db (.entity id) =
              entity.children.map Level.entity ++ entity.venues.map Level.venue := by
            simp [levelsBelow, found]
          have own : affectedAt db deviceTypes (.entity id) =
              entity.devices.flatMap (addIfAffected db deviceTypes) := by
            simp [affectedAt, devicesAt, found]
          have lower : addDevicesFromEntity db deviceTypes fuel =
              gather (affectedAt db deviceTypes) (levelsBelow db) fuel ∘ Level.entity := funext ih
          have inVenues : addDevicesFromVenue db deviceTypes fuel =
              gather (affectedAt db deviceTypes) (levelsBelow db) fuel ∘ Level.venue :=
            funext (addDevicesFromVenue_eq_gather fuel)
          rw [listed, own, List.mapM_append, List.mapM_map, List.mapM_map, ← lower, ← inVenues]
          simp [Option.bind_assoc]

end Levels

/-! ## Entries of the `inUse` list -/

section Affected

variable {db : Store} {deviceTypes : List String} {fuel : ℕ} {id serial usage : String}

variable {config : DeviceConfiguration}

end Affected

section Loads

variable {db : Store} {deviceType : String} {id : String} {tag : InventoryTag}

end Loads

end Owprov
