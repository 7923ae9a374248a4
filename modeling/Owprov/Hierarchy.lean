import Owprov.Lib.OptionLists
import Owprov.LinkedTable
import Owprov.Scope

/-!
# Recursions over entities and venues

Device configurations, device rules and locations are inherited along the parents of an
entity or a venue, and devices are collected along the children of a venue.  Each of these
functions follows links that it reads from the database, so nothing but the shape of the
stored links makes it stop.  A recursion takes fuel and answers `none` when it runs out.
-/

namespace Owprov

open RowTable LinkedForest AcyclicRelation OptionLists

def entityColumns : LinkColumns Entity where
  parent := Entity.parent
  children := Entity.childrenMember
  parent_set _ _ := rfl

def venueColumns : LinkColumns Venue where
  parent := Venue.parent
  children := Venue.childrenMember
  parent_set _ _ := rfl

/-! ## Device configurations -/

structure VerboseElement where
  element : DeviceConfigurationElement
  info : ObjectInfo
  deriving DecidableEq, Repr

/-- The state of an `APConfig`: the elements in the order of their weights, and the
configurations that were ignored because of the device type. -/
structure APConfig where
  deviceType : String
  config : List VerboseElement := []
  ignored : List ObjectInfo := []
  deriving DecidableEq, Repr

def deviceTypeMatch (deviceType : String) (types : List String) : Bool :=
  types.any fun type => type == "*" || icompare deviceType type

/-- An element without weight goes to the end, any other after everything bigger or equal. -/
def insertElement (config : List VerboseElement) (added : VerboseElement) :
    List VerboseElement :=
  if added.element.weight = 0 then
    config ++ [added]
  else
    let bigger := fun other : VerboseElement => decide (added.element.weight ≤ other.element.weight)
    config.takeWhile bigger ++ added :: config.dropWhile bigger

namespace APConfig

/-- `APConfig::AddConfiguration` for one configuration id. -/
def addConfiguration (db : Store) (apConfig : APConfig) (uuid : String) : APConfig :=
  match db.configurationDB.get? uuid with
  | none => apConfig
  | some found =>
      if uuid = "" ∨ found.configuration = [] then
        apConfig
      else if deviceTypeMatch apConfig.deviceType found.deviceTypes then
        { apConfig with
          config := found.configuration.foldl
            (fun config element => insertElement config ⟨element, found.info⟩) apConfig.config }
      else
        { apConfig with ignored := apConfig.ignored ++ [found.info] }

def addConfigurations (db : Store) (apConfig : APConfig) (uuids : List String) : APConfig :=
  uuids.foldl (addConfiguration db) apConfig

def addEntityConfig (db : Store) : ℕ → APConfig → String → Option APConfig
  | 0, _, _ => none
  | fuel + 1, apConfig, uuid =>
      match db.entityDB.get? uuid with
      | none => some apConfig
      | some entity =>
          let added := addConfigurations db apConfig entity.configurations
          if entity.parent ≠ "" then addEntityConfig db fuel added entity.parent else some added

def addVenueConfig (db : Store) : ℕ → APConfig → String → Option APConfig
  | 0, _, _ => none
  | fuel + 1, apConfig, uuid =>
      match db.venueDB.get? uuid with
      | none => some apConfig
      | some venue =>
          let added := addConfigurations db apConfig venue.configurations
          if venue.entity ≠ "" then addEntityConfig db fuel added venue.entity
          else if venue.parent ≠ "" then addVenueConfig db fuel added venue.parent
          else some added

end APConfig

/-! ## Device rules -/

/-- A rule that is still inherited takes the value that is found. -/
def inheritRule (found rule : String) : String :=
  if rule = "inherit" then found else rule

/-- `Storage::ApplyRules`: the rules after a level and whether one is still inherited. -/
def applyRules (found rules : DeviceRules) : DeviceRules × Bool :=
  let applied : DeviceRules :=
    { rcOnly := inheritRule found.rcOnly rules.rcOnly
      rrm := inheritRule found.rrm rules.rrm
      firmwareUpgrade := inheritRule found.firmwareUpgrade rules.firmwareUpgrade }
  (applied, applied.rrm == "inherit" || applied.rcOnly == "inherit" ||
    applied.firmwareUpgrade == "inherit")

/-- `Storage::ApplyConfigRules`, with the rules of the service configuration. -/
def applyConfigRules (config rules : DeviceRules) : DeviceRules :=
  (applyRules config rules).1

/-- `EntityDB::EvaluateDeviceRules`. -/
def evaluateEntityRules (db : Store) (config : DeviceRules) :
    ℕ → String → DeviceRules → Option DeviceRules
  | 0, _, _ => none
  | fuel + 1, id, rules =>
      match db.entityDB.get? id with
      | none => some (applyConfigRules config rules)
      | some entity =>
          match applyRules entity.deviceRules rules with
          | (applied, false) => some applied
          | (applied, true) =>
              if entity.parent ≠ "" then
                evaluateEntityRules db config fuel entity.parent applied
              else
                some (applyConfigRules config applied)

/-- `VenueDB::EvaluateDeviceRules`. -/
def evaluateVenueRules (db : Store) (config : DeviceRules) :
    ℕ → String → DeviceRules → Option DeviceRules
  | 0, _, _ => none
  | fuel + 1, id, rules =>
      match db.venueDB.get? id with
      | none => some (applyConfigRules config rules)
      | some venue =>
          match applyRules venue.deviceRules rules with
          | (applied, false) => some applied
          | (applied, true) =>
              if venue.parent ≠ "" then
                evaluateVenueRules db config fuel venue.parent applied
              else if venue.entity ≠ "" then
                evaluateEntityRules db config fuel venue.entity applied
              else
                some (applyConfigRules config applied)

/-! ## Locations, descendants and devices -/

/-- `AddLocationTriplet`: name, description and id of the locations that exist. -/
def locationTriplets (db : Store) (ids : List String) : List (String × String × String) :=
  (ids.filterMap db.locationDB.get?).map fun location =>
    (location.info.name, location.info.description, location.info.id)

def getLocationsForEntity (db : Store) : ℕ → String → Option (List (String × String × String))
  | 0, _ => none
  | fuel + 1, id =>
      match db.entityDB.get? id with
      | none => some []
      | some entity =>
          let own := locationTriplets db entity.locations
          if entity.parent ≠ "" then do
            let above ← getLocationsForEntity db fuel entity.parent
            return own ++ above
          else
            some own

def getLocationsForVenue (db : Store) : ℕ → String → Option (List (String × String × String))
  | 0, _ => none
  | fuel + 1, id =>
      match db.venueDB.get? id with
      | none => some []
      | some venue => do
          let above ←
            if venue.parent ≠ "" then getLocationsForVenue db fuel venue.parent else some []
          let entityLocations := ((db.entityDB.get? venue.entity).map Entity.locations).getD []
          return above ++ locationTriplets db entityLocations

def getDescendantEntities (db : Store) : ℕ → String → Option (List String)
  | 0, _ => none
  | fuel + 1, id =>
      match db.entityDB.get? id with
      | none => some [id]
      | some entity => do
          let below ← entity.children.mapM (getDescendantEntities db fuel)
          return id :: below.flatten

def findParentEntity (db : Store) : ℕ → Venue → Option String
  | 0, _ => none
  | fuel + 1, venue =>
      if venue.parent = "" then
        some venue.entity
      else
        match db.venueDB.get? venue.parent with
        | none => some rootUUID
        | some parent => findParentEntity db fuel parent

/-- `GetDevices`: the serial numbers of the devices of a venue and of those below it. -/
def getDevices (db : Store) (getChildren : Bool) : ℕ → Venue → Option (List String)
  | 0, _ => none
  | fuel + 1, venue => do
      let below ←
        if getChildren then
          venue.children.mapM fun id =>
            match db.venueDB.get? id with
            | none => some []
            | some child => do
                let lower ← getDevices db getChildren fuel child
                return child.devices ++ lower
        else
          some []
      let devices := (venue.devices ++ below.flatten).dedup.insertionSort (· ≤ ·)
      return (devices.filterMap db.inventoryDB.get?).map InventoryTag.serialNumber

/-! ## Termination -/

/-- A recursion with fuel stops. -/
def Terminates {β : Type} (run : ℕ → Option β) : Prop :=
  ∃ fuel, (run fuel).isSome

/-- Fuel for a recursion over entities that stops. -/
def Store.entityFuel (db : Store) : ℕ :=
  db.entityDB.rows.length + 1

section Termination

variable {α : Type} [Keyed α String] {columns : LinkColumns α} {table : Table α}

/-- A walk along the parents of a linked table stops when they form no cycle. -/
theorem stops_of_acyclic_parents (acyclic : Acyclic (ParentEdge (columns.forest table)))
    (stops : ℕ → String → Prop)
    (step : ∀ fuel id,
      (∀ row, table.get? id = some row → columns.parent row ≠ "" →
        stops fuel (columns.parent row)) → stops (fuel + 1) id)
    {fuel : ℕ} (enough : table.rows.length < fuel) (id : String) : stops fuel id := by
  have bound := lt_of_le_of_lt (LinkColumns.card_ids_le table) enough
  refine acyclic.fuel_suffices ?_ ?_ bound id
  · intro a b edge
    obtain ⟨row, found, _⟩ := LinkColumns.parentEdge_iff.mp edge
    exact LinkColumns.mem_ids_of_get? found
  · intro fuel id above
    apply step
    intro row found filled
    exact above _ (LinkColumns.parentEdge_iff.mpr ⟨row, found, rfl, filled⟩)

/-- A walk along the children of a linked table stops when they form no cycle. -/
theorem stops_of_acyclic_children (acyclic : Acyclic (ChildEdge (columns.forest table)))
    (stops : ℕ → String → Prop)
    (step : ∀ fuel id,
      (∀ row, table.get? id = some row → ∀ child ∈ columns.children.get row, stops fuel child) →
        stops (fuel + 1) id)
    {fuel : ℕ} (enough : table.rows.length < fuel) (id : String) : stops fuel id := by
  have bound := lt_of_le_of_lt (LinkColumns.card_ids_le table) enough
  refine acyclic.fuel_suffices ?_ ?_ bound id
  · intro a b edge
    obtain ⟨row, found, _⟩ := LinkColumns.childEdge_iff.mp edge
    exact LinkColumns.mem_ids_of_get? found
  · intro fuel id below
    apply step
    intro row found child member
    exact below _ (LinkColumns.childEdge_iff.mpr ⟨row, found, member⟩)

end Termination

section EntityWalks

variable {db : Store}
    (acyclic : Acyclic (ParentEdge (entityColumns.forest db.entityDB)))

include acyclic

theorem addEntityConfig_isSome {fuel : ℕ} (enough : db.entityDB.rows.length < fuel)
    (apConfig : APConfig) (uuid : String) :
    (APConfig.addEntityConfig db fuel apConfig uuid).isSome := by
  refine stops_of_acyclic_parents acyclic
    (fun fuel id => ∀ apConfig, (APConfig.addEntityConfig db fuel apConfig id).isSome) ?_
    enough uuid apConfig
  intro fuel id above apConfig
  unfold APConfig.addEntityConfig
  cases found : db.entityDB.get? id with
  | none => rfl
  | some entity =>
      simp only
      split
      · rename_i filled
        exact above entity found filled _
      · rfl

theorem evaluateEntityRules_isSome {fuel : ℕ} (enough : db.entityDB.rows.length < fuel)
    (config rules : DeviceRules) (id : String) :
    (evaluateEntityRules db config fuel id rules).isSome := by
  refine stops_of_acyclic_parents acyclic
    (fun fuel id => ∀ rules, (evaluateEntityRules db config fuel id rules).isSome) ?_
    enough id rules
  intro fuel id above rules
  unfold evaluateEntityRules
  cases found : db.entityDB.get? id with
  | none => rfl
  | some entity =>
      simp only
      split
      · rfl
      · split
        · rename_i filled
          exact above entity found filled _
        · rfl

theorem getLocationsForEntity_isSome {fuel : ℕ} (enough : db.entityDB.rows.length < fuel)
    (id : String) : (getLocationsForEntity db fuel id).isSome := by
  refine stops_of_acyclic_parents acyclic
    (fun fuel id => (getLocationsForEntity db fuel id).isSome) ?_ enough id
  intro fuel id above
  unfold getLocationsForEntity
  cases found : db.entityDB.get? id with
  | none => rfl
  | some entity =>
      simp only
      split
      · rename_i filled
        have stops : (getLocationsForEntity db fuel entity.parent).isSome :=
          above entity found filled
        obtain ⟨_, located⟩ := Option.isSome_iff_exists.mp stops
        simp [located]
      · rfl

omit acyclic in
theorem getDescendantEntities_isSome
    (acyclic : Acyclic (ChildEdge (entityColumns.forest db.entityDB))) {fuel : ℕ}
    (enough : db.entityDB.rows.length < fuel) (id : String) :
    (getDescendantEntities db fuel id).isSome := by
  refine stops_of_acyclic_children acyclic
    (fun fuel id => (getDescendantEntities db fuel id).isSome) ?_ enough id
  intro fuel id below
  unfold getDescendantEntities
  cases found : db.entityDB.get? id with
  | none => rfl
  | some entity =>
      obtain ⟨visited, below⟩ := Option.isSome_iff_exists.mp (mapM_isSome (below entity found))
      have childrenVisited :
          entity.children.mapM (getDescendantEntities db fuel) = some visited := below
      simp [childrenVisited]

end EntityWalks

section VenueWalks

variable {db : Store} (acyclic : Acyclic (ParentEdge (venueColumns.forest db.venueDB)))

theorem getDescendantVenues_isSome
    (acyclic : Acyclic (ChildEdge (venueColumns.forest db.venueDB))) {fuel : ℕ}
    (enough : db.venueDB.rows.length < fuel) (id : String) :
    (getDescendantVenues db fuel id).isSome := by
  refine stops_of_acyclic_children acyclic
    (fun fuel id => (getDescendantVenues db fuel id).isSome) ?_ enough id
  intro fuel id below
  unfold getDescendantVenues
  cases found : db.venueDB.get? id with
  | none => rfl
  | some venue =>
      obtain ⟨visited, below⟩ := Option.isSome_iff_exists.mp (mapM_isSome (below venue found))
      have childrenVisited :
          venue.children.mapM (getDescendantVenues db fuel) = some visited := below
      simp [childrenVisited]

/-- `GetDevices` on a record follows the children that the record lists. -/
theorem getDevices_isSome_of_children {fuel : ℕ} {getChildren : Bool} {venue : Venue}
    (below : ∀ id ∈ venue.children, ∀ child, db.venueDB.get? id = some child →
      (getDevices db getChildren fuel child).isSome) :
    (getDevices db getChildren (fuel + 1) venue).isSome := by
  unfold getDevices
  cases getChildren with
  | false => simp
  | true =>
      rw [if_pos rfl]
      have collected : (venue.children.mapM fun id =>
          match db.venueDB.get? id with
          | none => some []
          | some child => do
              let lower ← getDevices db true fuel child
              return child.devices ++ lower).isSome := by
        apply mapM_isSome
        intro id listed
        cases found : db.venueDB.get? id with
        | none => rfl
        | some child =>
            obtain ⟨_, lower⟩ := Option.isSome_iff_exists.mp (below id listed child found)
            simp [lower]
      obtain ⟨_, collected⟩ := Option.isSome_iff_exists.mp collected
      rw [collected]
      rfl

theorem getDevices_isSome (acyclic : Acyclic (ChildEdge (venueColumns.forest db.venueDB)))
    {fuel : ℕ} (enough : db.venueDB.rows.length < fuel) (getChildren : Bool) (venue : Venue) :
    (getDevices db getChildren (fuel + 1) venue).isSome := by
  apply getDevices_isSome_of_children
  intro id _
  refine stops_of_acyclic_children acyclic
    (fun fuel id => ∀ child, db.venueDB.get? id = some child →
      (getDevices db getChildren fuel child).isSome) ?_ enough id
  intro fuel id below child found
  exact getDevices_isSome_of_children fun other listed => below child found other listed

include acyclic

/-- `FindParentEntity` stops on a stored venue and on one that is about to be stored. -/
theorem findParentEntity_isSome {fuel : ℕ} (enough : db.venueDB.rows.length < fuel)
    (venue : Venue) : (findParentEntity db (fuel + 1) venue).isSome := by
  have stored : ∀ parent, db.venueDB.get? venue.parent = some parent →
      (findParentEntity db fuel parent).isSome := by
    refine stops_of_acyclic_parents acyclic
      (fun fuel id => ∀ parent, db.venueDB.get? id = some parent →
        (findParentEntity db fuel parent).isSome) ?_ enough venue.parent
    intro fuel id above parent found
    unfold findParentEntity
    split
    · rfl
    · rename_i filled
      split
      · rfl
      · rename_i next isNext
        exact above parent found filled next isNext
  unfold findParentEntity
  split
  · rfl
  · split
    · rfl
    · rename_i parent found
      exact stored parent found

theorem getLocationsForVenue_isSome {fuel : ℕ} (enough : db.venueDB.rows.length < fuel)
    (id : String) : (getLocationsForVenue db fuel id).isSome := by
  refine stops_of_acyclic_parents acyclic
    (fun fuel id => (getLocationsForVenue db fuel id).isSome) ?_ enough id
  intro fuel id above
  unfold getLocationsForVenue
  cases found : db.venueDB.get? id with
  | none => rfl
  | some venue =>
      simp only
      split
      · rename_i filled
        have stops : (getLocationsForVenue db fuel venue.parent).isSome :=
          above venue found filled
        obtain ⟨_, located⟩ := Option.isSome_iff_exists.mp stops
        simp [located]
      · rfl

variable (entityAcyclic : Acyclic (ParentEdge (entityColumns.forest db.entityDB)))

include entityAcyclic

theorem addVenueConfig_isSome {fuel : ℕ} (enough : db.venueDB.rows.length < fuel)
    (apConfig : APConfig) (uuid : String) :
    (APConfig.addVenueConfig db (fuel + db.entityFuel) apConfig uuid).isSome := by
  refine stops_of_acyclic_parents acyclic
    (fun fuel id =>
      ∀ apConfig, (APConfig.addVenueConfig db (fuel + db.entityFuel) apConfig id).isSome) ?_
    enough uuid apConfig
  intro fuel id above apConfig
  have entityEnough : db.entityDB.rows.length < fuel + db.entityFuel := by
    unfold Store.entityFuel
    omega
  rw [Nat.add_right_comm]
  unfold APConfig.addVenueConfig
  cases found : db.venueDB.get? id with
  | none => rfl
  | some venue =>
      simp only
      split
      · exact addEntityConfig_isSome entityAcyclic entityEnough _ _
      · split
        · rename_i filled
          exact above venue found filled _
        · rfl

theorem evaluateVenueRules_isSome {fuel : ℕ} (enough : db.venueDB.rows.length < fuel)
    (config rules : DeviceRules) (id : String) :
    (evaluateVenueRules db config (fuel + db.entityFuel) id rules).isSome := by
  refine stops_of_acyclic_parents acyclic
    (fun fuel id =>
      ∀ rules, (evaluateVenueRules db config (fuel + db.entityFuel) id rules).isSome) ?_
    enough id rules
  intro fuel id above rules
  have entityEnough : db.entityDB.rows.length < fuel + db.entityFuel := by
    unfold Store.entityFuel
    omega
  rw [Nat.add_right_comm]
  unfold evaluateVenueRules
  cases found : db.venueDB.get? id with
  | none => rfl
  | some venue =>
      simp only
      split
      · rfl
      · split
        · rename_i filled
          exact above venue found filled _
        · split
          · exact evaluateEntityRules_isSome entityAcyclic entityEnough config _ _
          · rfl

end VenueWalks

end Owprov
