import Owprov.DevicePlacement
import Owprov.Lib.Walks

/-!
# What a device inherits from

`APConfig::Get` adds the configurations of the levels above a device, and
`InventoryDB::EvaluateDeviceRules` looks there for the rules that the device inherits.  Each of
them walks the venues and entities above the device in its own way.
-/

namespace Owprov

open RowTable StateTransition Walks Runs

/-! ## The two functions -/

/-- `APConfig::Get` for the tag of a device. -/
def APConfig.get (db : Store) (fuel : ℕ) (deviceType : String) (tag : InventoryTag) :
    Option APConfig :=
  let own : APConfig := addConfiguration db { deviceType } tag.deviceConfiguration
  if tag.entity ≠ "" then addEntityConfig db fuel own tag.entity
  else if tag.venue ≠ "" then addVenueConfig db fuel own tag.venue
  else some own

/-- `InventoryDB::EvaluateDeviceRules`; the entity is looked for under the id of the venue. -/
def evaluateDeviceRules (db : Store) (config : DeviceRules) (fuel : ℕ) (tag : InventoryTag) :
    Option DeviceRules :=
  if tag.venue ≠ "" then evaluateVenueRules db config fuel tag.venue tag.deviceRules
  else if tag.entity ≠ "" then evaluateEntityRules db config fuel tag.venue tag.deviceRules
  else some (applyConfigRules config tag.deviceRules)

/-! ## Levels -/

/-- An entity or a venue. -/
inductive Level where
  | entity (id : String)
  | venue (id : String)
  deriving DecidableEq, Repr

namespace Level

def Exists (db : Store) : Level → Prop
  | .entity id => db.entityDB.get? id ≠ none
  | .venue id => db.venueDB.get? id ≠ none

def configurations (db : Store) : Level → List String
  | .entity id => ((db.entityDB.get? id).map Entity.configurations).getD []
  | .venue id => ((db.venueDB.get? id).map Venue.configurations).getD []

/-- The rules of a level; a level that does not exist inherits all of them. -/
def deviceRules (db : Store) : Level → DeviceRules
  | .entity id => ((db.entityDB.get? id).map Entity.deviceRules).getD {}
  | .venue id => ((db.venueDB.get? id).map Venue.deviceRules).getD {}

end Level

/-- The entity above an entity. -/
def entityAbove (db : Store) (id : String) : Option Level :=
  match db.entityDB.get? id with
  | none => none
  | some entity => if entity.parent ≠ "" then some (.entity entity.parent) else none

/-- The level above a level; `step` tells where to go from a venue. -/
def levelAbove (db : Store) (step : Venue → Option Level) : Level → Option Level
  | .entity id => entityAbove db id
  | .venue id => (db.venueDB.get? id).bind step

/-- For configurations a venue goes on with its entity, and only without one with its parent. -/
def configStep (venue : Venue) : Option Level :=
  if venue.entity ≠ "" then some (.entity venue.entity)
  else if venue.parent ≠ "" then some (.venue venue.parent)
  else none

/-- For rules a venue goes on with its parent, and only without one with its entity. -/
def ruleStep (venue : Venue) : Option Level :=
  if venue.parent ≠ "" then some (.venue venue.parent)
  else if venue.entity ≠ "" then some (.entity venue.entity)
  else none

def configNext (db : Store) : Level → Option Level :=
  levelAbove db configStep

def ruleNext (db : Store) : Level → Option Level :=
  levelAbove db ruleStep

def configStart (tag : InventoryTag) : Option Level :=
  if tag.entity ≠ "" then some (.entity tag.entity)
  else if tag.venue ≠ "" then some (.venue tag.venue)
  else none

def ruleStart (tag : InventoryTag) : Option Level :=
  if tag.venue ≠ "" then some (.venue tag.venue)
  else if tag.entity ≠ "" then some (.entity tag.venue)
  else none

/-- The levels that exist on a walk. -/
def visited (db : Store) (next : Level → Option Level) (start : Option Level) : Set Level :=
  { level | level.Exists db ∧ ∃ first ∈ start, Reaches next first level }

/-- The levels whose configurations `APConfig::Get` adds. -/
def configLevels (db : Store) (tag : InventoryTag) : Set Level :=
  visited db (configNext db) (configStart tag)

/-- The levels that `InventoryDB::EvaluateDeviceRules` consults when every level inherits. -/
def ruleLevels (db : Store) (tag : InventoryTag) : Set Level :=
  visited db (ruleNext db) (ruleStart tag)

/-! ## The walks of the two functions -/

namespace APConfig

/-- The configurations of a level are added. -/
def addLevel (db : Store) (apConfig : APConfig) (level : Level) : APConfig :=
  addConfigurations db apConfig (level.configurations db)

theorem addEntityConfig_eq_walk {db : Store} {fuel : ℕ} {apConfig result : APConfig}
    {id : String} (added : addEntityConfig db fuel apConfig id = some result) :
    result = (walk (configNext db) fuel (.entity id)).foldl (addLevel db) apConfig := by
  induction fuel generalizing apConfig id with
  | zero => cases added
  | succ fuel ih =>
      unfold addEntityConfig at added
      unfold walk
      cases found : db.entityDB.get? id with
      | none =>
          simp only [found, Option.some.injEq] at added
          simp [configNext, levelAbove, entityAbove, addLevel, Level.configurations, found, added,
            addConfigurations]
      | some entity =>
          simp only [found] at added
          have own : addLevel db apConfig (.entity id) =
              addConfigurations db apConfig entity.configurations := by
            simp [addLevel, Level.configurations, found]
          by_cases filled : entity.parent ≠ ""
          · rw [if_pos filled] at added
            simp [configNext, levelAbove, entityAbove, found, filled, own, ih added]
          · rw [if_neg filled, Option.some.injEq] at added
            simp [configNext, levelAbove, entityAbove, found, filled, own, added]

theorem addVenueConfig_eq_walk {db : Store} {fuel : ℕ} {apConfig result : APConfig}
    {id : String} (added : addVenueConfig db fuel apConfig id = some result) :
    result = (walk (configNext db) fuel (.venue id)).foldl (addLevel db) apConfig := by
  induction fuel generalizing apConfig id with
  | zero => cases added
  | succ fuel ih =>
      unfold addVenueConfig at added
      unfold walk
      cases found : db.venueDB.get? id with
      | none =>
          simp only [found, Option.some.injEq] at added
          simp [configNext, levelAbove, addLevel, Level.configurations, found, added, addConfigurations]
      | some venue =>
          simp only [found] at added
          have own : addLevel db apConfig (.venue id) =
              addConfigurations db apConfig venue.configurations := by
            simp [addLevel, Level.configurations, found]
          by_cases owned : venue.entity ≠ ""
          · rw [if_pos owned] at added
            simp [configNext, levelAbove, configStep, found, owned, own, addEntityConfig_eq_walk added]
          · rw [if_neg owned] at added
            by_cases filled : venue.parent ≠ ""
            · rw [if_pos filled] at added
              simp [configNext, levelAbove, configStep, found, owned, filled, own, ih added]
            · rw [if_neg filled, Option.some.injEq] at added
              simp [configNext, levelAbove, configStep, found, owned, filled, own, added]

/-- `APConfig::Get` adds the configurations along its walk. -/
theorem get_eq_walk {db : Store} {fuel : ℕ} {deviceType : String} {tag : InventoryTag}
    {result : APConfig} (composed : get db fuel deviceType tag = some result) :
    result = (((configStart tag).map (walk (configNext db) fuel)).getD []).foldl (addLevel db)
      (addConfiguration db { deviceType } tag.deviceConfiguration) := by
  unfold get at composed
  unfold configStart
  by_cases owned : tag.entity ≠ ""
  · simp only [if_pos owned] at composed ⊢
    exact addEntityConfig_eq_walk composed
  · simp only [if_neg owned] at composed ⊢
    by_cases placed : tag.venue ≠ ""
    · simp only [if_pos placed] at composed ⊢
      exact addVenueConfig_eq_walk composed
    · simp only [if_neg placed, Option.some.injEq] at composed ⊢
      exact composed.symm

end APConfig

/-- The rules after a level was consulted. -/
def consult (db : Store) (rules : DeviceRules) (level : Level) : DeviceRules :=
  (applyRules (level.deviceRules db) rules).1

theorem inheritRule_inherit (rule : String) : inheritRule "inherit" rule = rule := by
  unfold inheritRule
  split <;> simp_all

/-- A level that inherits everything decides nothing. -/
theorem applyRules_inherit (rules : DeviceRules) : (applyRules {} rules).1 = rules := by
  simp [applyRules, inheritRule_inherit]

/-- Rules that are not inherited any more stay as they are. -/
theorem applyRules_of_decided {found rules : DeviceRules} (decided : (applyRules found rules).2 = false)
    (other : DeviceRules) :
    (applyRules other (applyRules found rules).1).1 = (applyRules found rules).1 := by
  simp only [applyRules, Bool.or_eq_false_iff, beq_eq_false_iff_ne] at decided ⊢
  obtain ⟨⟨rrm, rcOnly⟩, firmwareUpgrade⟩ := decided
  simp only [inheritRule, DeviceRules.mk.injEq] at rrm rcOnly firmwareUpgrade ⊢
  exact ⟨if_neg rcOnly, if_neg rrm, if_neg firmwareUpgrade⟩

/-- Once every rule is decided, what follows on a walk changes nothing. -/
theorem consult_walk_of_decided {db : Store} {rules : DeviceRules} {level : Level}
    (decided : (applyRules (level.deviceRules db) rules).2 = false) (config : DeviceRules)
    (next : Level → Option Level) (fuel : ℕ) :
    applyConfigRules config ((walk next (fuel + 1) level).foldl (consult db) rules) =
      consult db rules level := by
  have kept : ∀ levels : List Level, levels.foldl (consult db) (consult db rules level) =
      consult db rules level := by
    intro levels
    induction levels with
    | nil => rfl
    | cons other levels ih =>
        rw [List.foldl_cons, consult, consult, applyRules_of_decided decided]
        exact ih
  rw [walk_succ, List.foldl_cons, kept]
  exact applyRules_of_decided decided config

theorem evaluateEntityRules_eq_walk {db : Store} {config rules result : DeviceRules} {fuel : ℕ}
    {id : String} (evaluated : evaluateEntityRules db config fuel id rules = some result) :
    result = applyConfigRules config
      ((walk (ruleNext db) fuel (.entity id)).foldl (consult db) rules) := by
  induction fuel generalizing rules id with
  | zero => cases evaluated
  | succ fuel ih =>
      unfold evaluateEntityRules at evaluated
      cases found : db.entityDB.get? id with
      | none =>
          simp only [found, Option.some.injEq] at evaluated
          simp [walk_succ, ruleNext, levelAbove, entityAbove, consult, Level.deviceRules, found,
            applyRules_inherit, evaluated]
      | some entity =>
          have levelRules : (Level.entity id).deviceRules db = entity.deviceRules := by
            simp [Level.deviceRules, found]
          cases answer : applyRules entity.deviceRules rules with
          | mk applied inherits =>
              have own : consult db rules (.entity id) = applied := by
                rw [consult, levelRules, answer]
              simp only [found, answer] at evaluated
              cases inherits with
              | false =>
                  rw [consult_walk_of_decided (by rw [levelRules, answer]), own]
                  exact (Option.some.inj evaluated).symm
              | true =>
                  dsimp only at evaluated
                  by_cases filled : entity.parent ≠ ""
                  · rw [if_pos filled] at evaluated
                    simp [walk_succ, ruleNext, levelAbove, entityAbove, found, filled, own, ih evaluated]
                  · rw [if_neg filled, Option.some.injEq] at evaluated
                    simp [walk_succ, ruleNext, levelAbove, entityAbove, found, filled, own, evaluated]

theorem evaluateVenueRules_eq_walk {db : Store} {config rules result : DeviceRules} {fuel : ℕ}
    {id : String} (evaluated : evaluateVenueRules db config fuel id rules = some result) :
    result = applyConfigRules config
      ((walk (ruleNext db) fuel (.venue id)).foldl (consult db) rules) := by
  induction fuel generalizing rules id with
  | zero => cases evaluated
  | succ fuel ih =>
      unfold evaluateVenueRules at evaluated
      cases found : db.venueDB.get? id with
      | none =>
          simp only [found, Option.some.injEq] at evaluated
          simp [walk_succ, ruleNext, levelAbove, consult, Level.deviceRules, found, applyRules_inherit,
            evaluated]
      | some venue =>
          have levelRules : (Level.venue id).deviceRules db = venue.deviceRules := by
            simp [Level.deviceRules, found]
          cases answer : applyRules venue.deviceRules rules with
          | mk applied inherits =>
              have own : consult db rules (.venue id) = applied := by
                rw [consult, levelRules, answer]
              simp only [found, answer] at evaluated
              cases inherits with
              | false =>
                  rw [consult_walk_of_decided (by rw [levelRules, answer]), own]
                  exact (Option.some.inj evaluated).symm
              | true =>
                  dsimp only at evaluated
                  by_cases filled : venue.parent ≠ ""
                  · rw [if_pos filled] at evaluated
                    simp [walk_succ, ruleNext, levelAbove, ruleStep, found, filled, own, ih evaluated]
                  · rw [if_neg filled] at evaluated
                    by_cases owned : venue.entity ≠ ""
                    · rw [if_pos owned] at evaluated
                      simp [walk_succ, ruleNext, levelAbove, ruleStep, found, filled, owned, own,
                        evaluateEntityRules_eq_walk evaluated]
                    · rw [if_neg owned, Option.some.injEq] at evaluated
                      simp [walk_succ, ruleNext, levelAbove, ruleStep, found, filled, owned, own, evaluated]

/-- `InventoryDB::EvaluateDeviceRules` consults the levels along its walk. -/
theorem evaluateDeviceRules_eq_walk {db : Store} {config result : DeviceRules} {fuel : ℕ}
    {tag : InventoryTag} (evaluated : evaluateDeviceRules db config fuel tag = some result) :
    result = applyConfigRules config
      ((((ruleStart tag).map (walk (ruleNext db) fuel)).getD []).foldl (consult db)
        tag.deviceRules) := by
  unfold evaluateDeviceRules at evaluated
  unfold ruleStart
  by_cases placed : tag.venue ≠ ""
  · simp only [if_pos placed] at evaluated ⊢
    exact evaluateVenueRules_eq_walk evaluated
  · simp only [if_neg placed] at evaluated ⊢
    by_cases owned : tag.entity ≠ ""
    · simp only [if_pos owned] at evaluated ⊢
      exact evaluateEntityRules_eq_walk evaluated
    · simp only [if_neg owned, Option.some.injEq] at evaluated ⊢
      exact evaluated.symm

/-- The venues above a venue, itself included. -/
def VenueAncestor (db : Store) : String → String → Prop :=
  Relation.ReflTransGen fun id parent =>
    ∃ venue, db.venueDB.get? id = some venue ∧ venue.parent = parent ∧ parent ≠ ""

/-- The entities above an entity, itself included. -/
def EntityAncestor (db : Store) : String → String → Prop :=
  Relation.ReflTransGen fun id parent =>
    ∃ entity, db.entityDB.get? id = some entity ∧ entity.parent = parent ∧ parent ≠ ""

/-- The levels above a device: its venue and the venues above, the entity of the topmost of them
and the entities above that one, or its entity and the entities above when it has no venue. -/
def hierarchyLevels (db : Store) (tag : InventoryTag) : Set Level :=
  { level | level.Exists db ∧
    match level with
    | .venue id => tag.venue ≠ "" ∧ VenueAncestor db tag.venue id
    | .entity id =>
        if tag.venue ≠ "" then
          ∃ topId top, VenueAncestor db tag.venue topId ∧ db.venueDB.get? topId = some top ∧
            top.parent = "" ∧ top.entity ≠ "" ∧ EntityAncestor db top.entity id
        else
          tag.entity ≠ "" ∧ EntityAncestor db tag.entity id }

section Walks

variable {db : Store} {step : Venue → Option Level}

theorem mem_entityAbove {id : String} {level : Level} :
    level ∈ entityAbove db id ↔
      ∃ parent, level = .entity parent ∧
        ∃ entity, db.entityDB.get? id = some entity ∧ entity.parent = parent ∧ parent ≠ "" := by
  unfold entityAbove
  cases db.entityDB.get? id with
  | none => simp
  | some entity =>
      by_cases filled : entity.parent ≠ ""
      · simp only [if_pos filled, Option.mem_some_iff]
        constructor
        · rintro rfl
          exact ⟨_, rfl, entity, rfl, rfl, filled⟩
        · rintro ⟨parent, rfl, _, same, rfl, _⟩
          rw [Option.some.inj same]
      · simp only [if_neg filled, Option.not_mem_none, false_iff]
        rintro ⟨parent, _, _, same, rfl, notEmpty⟩
        exact filled (Option.some.inj same ▸ notEmpty)

/-- From an entity a walk visits the entities above it. -/
theorem reaches_entity_iff {id : String} {level : Level} :
    Reaches (levelAbove db step) (.entity id) level ↔
      ∃ other, level = .entity other ∧ EntityAncestor db id other := by
  constructor
  · intro reached
    induction reached with
    | refl => exact ⟨id, rfl, .refl⟩
    | tail _ isNext ih =>
        obtain ⟨other, rfl, above⟩ := ih
        obtain ⟨parent, rfl, edge⟩ := mem_entityAbove.mp isNext
        exact ⟨parent, rfl, above.tail edge⟩
  · rintro ⟨other, rfl, above⟩
    induction above with
    | refl => exact .refl
    | tail _ edge ih => exact ih.tail (mem_entityAbove.mpr ⟨_, rfl, edge⟩)

/-- The venues that a walk comes to from a venue. -/
def VenuesBy (db : Store) (step : Venue → Option Level) : String → String → Prop :=
  Relation.ReflTransGen fun id parent =>
    ∃ venue, db.venueDB.get? id = some venue ∧ step venue = some (.venue parent)

theorem mem_levelAbove_venue {id : String} {level : Level} :
    level ∈ levelAbove db step (.venue id) ↔
      ∃ venue, db.venueDB.get? id = some venue ∧ step venue = some level := by
  rw [levelAbove, Option.mem_def, Option.bind_eq_some_iff]

/-- From a venue a walk visits venues, and then from one of these the entities above. -/
theorem reaches_of_venue {id : String} {level : Level}
    (reached : Reaches (levelAbove db step) (.venue id) level) :
    (∃ other, level = .venue other ∧ VenuesBy db step id other) ∨
      ∃ other lastId last entity, level = .entity other ∧ VenuesBy db step id lastId ∧
        db.venueDB.get? lastId = some last ∧ step last = some (.entity entity) ∧
        EntityAncestor db entity other := by
  induction reached with
  | refl => exact .inl ⟨id, rfl, .refl⟩
  | @tail _ level _ isNext ih =>
      rcases ih with ⟨other, rfl, venues⟩ | ⟨other, lastId, last, entity, rfl, venues, walked⟩
      · obtain ⟨venue, found, goes⟩ := mem_levelAbove_venue.mp isNext
        cases level with
        | venue parent => exact .inl ⟨parent, rfl, venues.tail ⟨venue, found, goes⟩⟩
        | entity entity =>
            exact .inr ⟨entity, other, venue, entity, rfl, venues, found, goes, .refl⟩
      · obtain ⟨found, goes, above⟩ := walked
        obtain ⟨parent, rfl, edge⟩ := mem_entityAbove.mp isNext
        exact .inr ⟨parent, lastId, last, entity, rfl, venues, found, goes, above.tail edge⟩

/-- A walk comes to a venue through venues. -/
theorem reaches_venue_iff {id other : String} :
    Reaches (levelAbove db step) (.venue id) (.venue other) ↔ VenuesBy db step id other := by
  constructor
  · intro reached
    rcases reaches_of_venue reached with ⟨_, ⟨⟩, venues⟩ | ⟨_, _, _, _, ⟨⟩, _⟩
    exact venues
  · intro venues
    induction venues with
    | refl => exact .refl
    | tail _ edge ih => exact ih.tail (mem_levelAbove_venue.mpr edge)

/-- A walk comes to an entity from one of the venues. -/
theorem reaches_entity_of_venue_iff {id other : String} :
    Reaches (levelAbove db step) (.venue id) (.entity other) ↔
      ∃ lastId last entity, VenuesBy db step id lastId ∧ db.venueDB.get? lastId = some last ∧
        step last = some (.entity entity) ∧ EntityAncestor db entity other := by
  constructor
  · intro reached
    rcases reaches_of_venue reached with ⟨_, ⟨⟩, _⟩ | ⟨_, lastId, last, entity, ⟨⟩, walked⟩
    exact ⟨lastId, last, entity, walked⟩
  · rintro ⟨lastId, last, entity, venues, found, goes, above⟩
    have toLast := reaches_venue_iff.mpr venues
    have toEntity := toLast.tail (mem_levelAbove_venue.mpr ⟨last, found, goes⟩)
    exact toEntity.trans (reaches_entity_iff.mpr ⟨other, rfl, above⟩)

end Walks

/-! ## Where the two walks agree -/

theorem ruleStep_venue_iff {venue : Venue} {parent : String} :
    ruleStep venue = some (.venue parent) ↔ venue.parent = parent ∧ parent ≠ "" := by
  unfold ruleStep
  by_cases filled : venue.parent ≠ ""
  · simp only [if_pos filled, Option.some.injEq, Level.venue.injEq]
    exact ⟨fun same => ⟨same, same ▸ filled⟩, And.left⟩
  · have empty : venue.parent = "" := not_not.mp filled
    rw [if_neg filled, empty]
    constructor
    · intro goes
      split at goes <;> cases goes
    · rintro ⟨rfl, absurdum⟩
      exact absurd rfl absurdum

theorem ruleStep_entity_iff {venue : Venue} {entity : String} :
    ruleStep venue = some (.entity entity) ↔
      venue.parent = "" ∧ venue.entity = entity ∧ entity ≠ "" := by
  unfold ruleStep
  by_cases filled : venue.parent ≠ ""
  · simp [filled]
  · rw [if_neg filled]
    by_cases owned : venue.entity ≠ ""
    · simp only [if_pos owned, Option.some.injEq, Level.entity.injEq]
      exact ⟨fun same => ⟨not_not.mp filled, same, same ▸ owned⟩, fun walked => walked.2.1⟩
    · rw [if_neg owned]
      constructor
      · intro goes
        cases goes
      · rintro ⟨_, rfl, notEmpty⟩
        exact absurd notEmpty owned

theorem configStep_entity_iff {venue : Venue} {entity : String} :
    configStep venue = some (.entity entity) ↔ venue.entity = entity ∧ entity ≠ "" := by
  unfold configStep
  by_cases owned : venue.entity ≠ ""
  · simp only [if_pos owned, Option.some.injEq, Level.entity.injEq]
    exact ⟨fun same => ⟨same, same ▸ owned⟩, And.left⟩
  · rw [if_neg owned]
    constructor
    · intro goes
      split at goes <;> cases goes
    · rintro ⟨rfl, notEmpty⟩
      exact absurd notEmpty owned

theorem configStep_of_no_entity {venue : Venue} (free : venue.entity = "") :
    configStep venue = ruleStep venue := by
  simp [configStep, ruleStep, free]

theorem configStep_of_no_parent {venue : Venue} (top : venue.parent = "") :
    configStep venue = ruleStep venue := by
  simp [configStep, ruleStep, top]

/-- A step that goes on with the parent is a step for rules as well. -/
theorem ruleStep_of_configStep {venue : Venue} {parent : String}
    (goes : configStep venue = some (.venue parent)) :
    venue.entity = "" ∧ ruleStep venue = some (.venue parent) := by
  by_cases owned : venue.entity = ""
  · exact ⟨owned, configStep_of_no_entity owned ▸ goes⟩
  · rw [configStep, if_pos owned] at goes
    cases goes

theorem venuesBy_ruleStep {db : Store} : VenuesBy db ruleStep = VenueAncestor db := by
  unfold VenuesBy VenueAncestor
  congr 1
  funext id parent
  simp only [ruleStep_venue_iff]

theorem mem_visited_some {db : Store} {next : Level → Option Level} {first level : Level} :
    level ∈ visited db next (some first) ↔ level.Exists db ∧ Reaches next first level := by
  simp [visited]

/-- The rules of a device at a venue are looked for in the hierarchy above it. -/
theorem ruleLevels_of_venue {db : Store} {tag : InventoryTag} (placed : tag.venue ≠ "") :
    ruleLevels db tag = hierarchyLevels db tag := by
  ext level
  rw [ruleLevels, ruleStart, if_pos placed, mem_visited_some]
  apply and_congr_right
  intro _
  cases level with
  | venue id =>
      rw [ruleNext, reaches_venue_iff, venuesBy_ruleStep]
      exact ⟨fun above => ⟨placed, above⟩, And.right⟩
  | entity id =>
      rw [ruleNext, reaches_entity_of_venue_iff, venuesBy_ruleStep]
      simp only [ruleStep_entity_iff, if_pos placed]
      constructor
      · rintro ⟨topId, top, _, above, found, ⟨isTop, rfl, owned⟩, entities⟩
        exact ⟨topId, top, above, found, isTop, owned, entities⟩
      · rintro ⟨topId, top, above, found, isTop, owned, entities⟩
        exact ⟨topId, top, _, above, found, ⟨isTop, rfl, owned⟩, entities⟩

/-- The configurations of a device without a venue come from the hierarchy above it. -/
theorem configLevels_of_no_venue {db : Store} {tag : InventoryTag} (unplaced : tag.venue = "") :
    configLevels db tag = hierarchyLevels db tag := by
  ext level
  by_cases owned : tag.entity ≠ ""
  · rw [configLevels, configStart, if_pos owned, mem_visited_some, configNext,
      reaches_entity_iff]
    apply and_congr_right
    intro _
    cases level with
    | venue id => simp [unplaced]
    | entity id => simp [unplaced, owned]
  · have empty : tag.entity = "" := not_not.mp owned
    rw [configLevels, configStart, if_neg owned]
    cases level <;> simp [visited, hierarchyLevels, unplaced, empty]

/-! ## Devices at a venue -/

/-- No venue on the way up hides its parent from the configurations: the first one with an entity
is at the top, or neither the entity nor anything new stands above it. -/
def Unshadowed (db : Store) (venueId : String) : Prop :=
  ∀ id venue, VenuesBy db configStep venueId id → db.venueDB.get? id = some venue →
    venue.entity ≠ "" → venue.parent ≠ "" →
      db.entityDB.get? venue.entity = none ∧
        (db.venueDB.get? venue.parent = none ∨ VenuesBy db configStep venueId venue.parent)

section Shadows

variable {db : Store} {venueId : String}

/-- The walk for configurations comes to one venue with an entity at most. -/
theorem eq_of_owned_venues {a b : String} {atA atB : Venue}
    (toA : VenuesBy db configStep venueId a) (foundA : db.venueDB.get? a = some atA)
    (ownedA : atA.entity ≠ "") (toB : VenuesBy db configStep venueId b)
    (foundB : db.venueDB.get? b = some atB) (ownedB : atB.entity ≠ "") : a = b := by
  have stays : ∀ {x y : String} {venue : Venue}, db.venueDB.get? x = some venue →
      venue.entity ≠ "" → VenuesBy db configStep x y → x = y := by
    intro x y venue found owned onward
    rcases onward.cases_head with same | ⟨z, ⟨record, foundRecord, goes⟩, _⟩
    · exact same
    · obtain rfl := Option.some.inj (found.symm.trans foundRecord)
      exact absurd (ruleStep_of_configStep goes).1 owned
  have unique : Relator.RightUnique fun id parent =>
      ∃ venue, db.venueDB.get? id = some venue ∧ configStep venue = some (.venue parent) := by
    rintro x y z ⟨venue, found, goes⟩ ⟨venue', found', goes'⟩
    obtain rfl := Option.some.inj (found.symm.trans found')
    exact Level.venue.inj (Option.some.inj (goes.symm.trans goes'))
  rcases Relation.ReflTransGen.total_of_right_unique unique toA toB with onward | back
  · exact stays foundA ownedA onward
  · exact (stays foundB ownedB back).symm

/-- The venues on the way of the configurations are on the way of the rules. -/
theorem ruleReaches_of_configVenue {id : String} (venues : VenuesBy db configStep venueId id) :
    Reaches (ruleNext db) (.venue venueId) (.venue id) := by
  apply reaches_venue_iff.mpr
  refine Relation.ReflTransGen.mono ?_ venueId id venues
  rintro x y ⟨venue, found, goes⟩
  exact ⟨venue, found, (ruleStep_of_configStep goes).2⟩

/-- When nothing new stands above the first venue with an entity, the rules stay on the way of the
configurations up to there. -/
theorem ruleReaches_within {id : String} {venue : Venue}
    (onWay : VenuesBy db configStep venueId id) (found : db.venueDB.get? id = some venue)
    (owned : venue.entity ≠ "") (hung : venue.parent ≠ "")
    (closed : db.venueDB.get? venue.parent = none ∨ VenuesBy db configStep venueId venue.parent)
    {level : Level} (reached : Reaches (ruleNext db) (.venue venueId) level) :
    ∃ other, level = .venue other ∧
      (VenuesBy db configStep venueId other ∨ db.venueDB.get? other = none) := by
  induction reached with
  | refl => exact ⟨venueId, rfl, .inl .refl⟩
  | @tail _ above _ isNext ih =>
      obtain ⟨other, rfl, within⟩ := ih
      obtain ⟨record, foundRecord, goes⟩ := mem_levelAbove_venue.mp isNext
      have venues : VenuesBy db configStep venueId other := by
        rcases within with venues | missing
        · exact venues
        · rw [missing] at foundRecord
          cases foundRecord
      by_cases free : record.entity = ""
      · cases above with
        | venue parent =>
            rw [← configStep_of_no_entity free] at goes
            exact ⟨parent, rfl, .inl (venues.tail ⟨record, foundRecord, goes⟩)⟩
        | entity entity =>
            obtain ⟨_, same, notEmpty⟩ := ruleStep_entity_iff.mp goes
            exact absurd (same.symm.trans free) notEmpty
      · obtain rfl := eq_of_owned_venues venues foundRecord free onWay found owned
        obtain rfl := Option.some.inj (foundRecord.symm.trans found)
        rw [ruleStep, if_pos hung] at goes
        cases goes
        exact ⟨record.parent, rfl, closed.symm⟩

/-- When such a venue has an entity that does not exist, the configurations end there. -/
theorem not_exists_of_configReaches_entity {id other : String} {venue : Venue}
    (onWay : VenuesBy db configStep venueId id) (found : db.venueDB.get? id = some venue)
    (owned : venue.entity ≠ "") (missing : db.entityDB.get? venue.entity = none)
    (reached : Reaches (configNext db) (.venue venueId) (.entity other)) :
    db.entityDB.get? other = none := by
  obtain ⟨lastId, last, entity, venues, foundLast, goes, above⟩ :=
    reaches_entity_of_venue_iff.mp reached
  obtain ⟨rfl, notEmpty⟩ := configStep_entity_iff.mp goes
  obtain rfl := eq_of_owned_venues venues foundLast notEmpty onWay found owned
  obtain rfl := Option.some.inj (foundLast.symm.trans found)
  rcases above.cases_head with rfl | ⟨_, ⟨record, foundRecord, _⟩, _⟩
  · exact missing
  · rw [missing] at foundRecord
    cases foundRecord

theorem visited_eq_of_unshadowed (unshadowed : Unshadowed db venueId) :
    visited db (configNext db) (some (.venue venueId)) =
      visited db (ruleNext db) (some (.venue venueId)) := by
  by_cases shadow : ∃ id venue, VenuesBy db configStep venueId id ∧
      db.venueDB.get? id = some venue ∧ venue.entity ≠ "" ∧ venue.parent ≠ ""
  · obtain ⟨id, venue, onWay, found, owned, hung⟩ := shadow
    obtain ⟨missing, closed⟩ := unshadowed id venue onWay found owned hung
    ext level
    rw [mem_visited_some, mem_visited_some]
    apply and_congr_right
    intro isThere
    constructor
    · intro reached
      cases level with
      | venue other => exact ruleReaches_of_configVenue (reaches_venue_iff.mp reached)
      | entity other =>
          exact absurd (not_exists_of_configReaches_entity onWay found owned missing reached)
            isThere
    · intro reached
      obtain ⟨other, rfl, within⟩ := ruleReaches_within onWay found owned hung closed reached
      rcases within with venues | missing
      · exact reaches_venue_iff.mpr venues
      · exact absurd missing isThere
  · ext level
    rw [mem_visited_some, mem_visited_some]
    apply and_congr_right
    intro _
    apply reaches_congr
    intro onWay reached
    cases onWay with
    | entity other => rfl
    | venue other =>
        have venues := reaches_venue_iff.mp reached
        rw [configNext, ruleNext, levelAbove, levelAbove]
        cases found : db.venueDB.get? other with
        | none => rfl
        | some venue =>
            rw [Option.bind_some, Option.bind_some]
            by_cases free : venue.entity = ""
            · exact configStep_of_no_entity free
            · apply configStep_of_no_parent
              by_contra hung
              exact shadow ⟨other, venue, venues, found, free, hung⟩

theorem unshadowed_of_visited_eq
    (same : visited db (configNext db) (some (.venue venueId)) =
      visited db (ruleNext db) (some (.venue venueId))) : Unshadowed db venueId := by
  intro id venue onWay found owned hung
  have closed : db.venueDB.get? venue.parent = none ∨
      VenuesBy db configStep venueId venue.parent := by
    by_contra neither
    push Not at neither
    have goesUp : Level.venue venue.parent ∈ visited db (ruleNext db) (some (.venue venueId)) := by
      apply mem_visited_some.mpr
      refine ⟨neither.1, (ruleReaches_of_configVenue onWay).tail ?_⟩
      exact mem_levelAbove_venue.mpr ⟨venue, found, ruleStep_venue_iff.mpr ⟨rfl, hung⟩⟩
    rw [← same, mem_visited_some] at goesUp
    exact neither.2 (reaches_venue_iff.mp goesUp.2)
  refine ⟨?_, closed⟩
  by_contra isThere
  have goesOver : Level.entity venue.entity ∈
      visited db (configNext db) (some (.venue venueId)) := by
    apply mem_visited_some.mpr
    refine ⟨isThere, (reaches_venue_iff.mpr onWay).tail ?_⟩
    exact mem_levelAbove_venue.mpr ⟨venue, found, configStep_entity_iff.mpr ⟨rfl, owned⟩⟩
  rw [same, mem_visited_some] at goesOver
  obtain ⟨_, ⟨⟩, _⟩ := ruleReaches_within onWay found owned hung closed goesOver.2

end Shadows

/-! ## The agreement -/

/-- The configurations and the rules of a device come from the hierarchy above it. -/
def LevelsAgree (db : Store) (tag : InventoryTag) : Prop :=
  configLevels db tag = hierarchyLevels db tag ∧ ruleLevels db tag = hierarchyLevels db tag

/-- A device that has an entity has no existing one (and no entity has the empty id), and no
existing venue beside it; the way up from any other device's venue is unshadowed. -/
def AgreesAbove (db : Store) (tag : InventoryTag) : Prop :=
  if tag.entity ≠ "" then
    db.entityDB.get? tag.entity = none ∧
      if tag.venue ≠ "" then db.venueDB.get? tag.venue = none else db.entityDB.get? "" = none
  else
    tag.venue ≠ "" → Unshadowed db tag.venue

section Agreement

variable {db : Store} {tag : InventoryTag}

theorem venueAncestor_of_missing {id other : String} (missing : db.venueDB.get? id = none)
    (above : VenueAncestor db id other) : other = id := by
  rcases above.cases_head with rfl | ⟨_, ⟨venue, found, _⟩, _⟩
  · rfl
  · rw [missing] at found
    cases found

theorem entityAncestor_of_missing {id other : String} (missing : db.entityDB.get? id = none)
    (above : EntityAncestor db id other) : other = id := by
  rcases above.cases_head with rfl | ⟨_, ⟨entity, found, _⟩, _⟩
  · rfl
  · rw [missing] at found
    cases found

/-- Nobody has the empty id above an id that is not empty. -/
theorem not_entityAncestor_empty {id : String} (filled : id ≠ "") :
    ¬ EntityAncestor db id "" := by
  intro above
  rcases above.cases_tail with same | ⟨_, _, _, _, _, notEmpty⟩
  · exact filled same.symm
  · exact notEmpty rfl

theorem mem_visited_entity {step : Venue → Option Level} {id : String} {level : Level} :
    level ∈ visited db (levelAbove db step) (some (.entity id)) ↔
      ∃ other, level = .entity other ∧ db.entityDB.get? other ≠ none ∧
        EntityAncestor db id other := by
  rw [mem_visited_some, reaches_entity_iff]
  constructor
  · rintro ⟨isThere, other, rfl, above⟩
    exact ⟨other, rfl, isThere, above⟩
  · rintro ⟨other, rfl, isThere, above⟩
    exact ⟨isThere, other, rfl, above⟩

/-- From an entity that does not exist nothing is visited. -/
theorem visited_of_missing_entity {step : Venue → Option Level} {id : String}
    (missing : db.entityDB.get? id = none) :
    visited db (levelAbove db step) (some (.entity id)) = ∅ := by
  ext level
  rw [mem_visited_entity, Set.mem_empty_iff_false, iff_false]
  rintro ⟨other, _, isThere, above⟩
  exact isThere (entityAncestor_of_missing missing above ▸ missing)

/-- Above a venue that does not exist there is nothing. -/
theorem hierarchyLevels_of_missing_venue (placed : tag.venue ≠ "")
    (missing : db.venueDB.get? tag.venue = none) : hierarchyLevels db tag = ∅ := by
  ext level
  rw [Set.mem_empty_iff_false, iff_false]
  rintro ⟨isThere, above⟩
  cases level with
  | venue id => exact isThere (venueAncestor_of_missing missing above.2 ▸ missing)
  | entity id =>
      simp only [if_pos placed] at above
      obtain ⟨topId, top, upward, found, _⟩ := above
      rw [venueAncestor_of_missing missing upward, missing] at found
      cases found

/-- A device with an entity and a venue: the configurations come from the entity and the rules
from the venue. -/
theorem levelsAgree_of_both (owned : tag.entity ≠ "") (placed : tag.venue ≠ "") :
    LevelsAgree db tag ↔
      db.entityDB.get? tag.entity = none ∧ db.venueDB.get? tag.venue = none := by
  have ofConfig : configLevels db tag =
      visited db (levelAbove db configStep) (some (.entity tag.entity)) := by
    rw [configLevels, configStart, if_pos owned, configNext]
  rw [LevelsAgree, ruleLevels_of_venue placed, ofConfig]
  constructor
  · rintro ⟨same, _⟩
    have noVenue : db.venueDB.get? tag.venue = none := by
      by_contra isThere
      have above : Level.venue tag.venue ∈ hierarchyLevels db tag := ⟨isThere, placed, .refl⟩
      rw [← same, mem_visited_entity] at above
      obtain ⟨_, ⟨⟩, _⟩ := above
    refine ⟨?_, noVenue⟩
    by_contra isThere
    have above : Level.entity tag.entity ∈
        visited db (levelAbove db configStep) (some (.entity tag.entity)) :=
      mem_visited_entity.mpr ⟨tag.entity, rfl, isThere, .refl⟩
    rw [same, hierarchyLevels_of_missing_venue placed noVenue] at above
    exact above
  · rintro ⟨noEntity, noVenue⟩
    rw [visited_of_missing_entity noEntity, hierarchyLevels_of_missing_venue placed noVenue]
    exact ⟨rfl, rfl⟩

/-- A device with an entity only: the rules are looked for under the empty id. -/
theorem levelsAgree_of_entity (owned : tag.entity ≠ "") (unplaced : tag.venue = "") :
    LevelsAgree db tag ↔
      db.entityDB.get? tag.entity = none ∧ db.entityDB.get? "" = none := by
  have ofConfig : configLevels db tag =
      visited db (levelAbove db configStep) (some (.entity tag.entity)) := by
    rw [configLevels, configStart, if_pos owned, configNext]
  have ofRules : ruleLevels db tag = visited db (levelAbove db ruleStep) (some (.entity "")) := by
    rw [ruleLevels, ruleStart, if_neg (not_not.mpr unplaced), if_pos owned, unplaced, ruleNext]
  rw [LevelsAgree, ← configLevels_of_no_venue unplaced, ofConfig, ofRules]
  constructor
  · rintro ⟨_, same⟩
    have noEmpty : db.entityDB.get? "" = none := by
      by_contra isThere
      have above : Level.entity "" ∈ visited db (levelAbove db ruleStep) (some (.entity "")) :=
        mem_visited_entity.mpr ⟨"", rfl, isThere, .refl⟩
      rw [same, mem_visited_entity] at above
      obtain ⟨_, ⟨⟩, _, above⟩ := above
      exact not_entityAncestor_empty owned above
    refine ⟨?_, noEmpty⟩
    by_contra isThere
    have above : Level.entity tag.entity ∈
        visited db (levelAbove db configStep) (some (.entity tag.entity)) :=
      mem_visited_entity.mpr ⟨tag.entity, rfl, isThere, .refl⟩
    rw [← same, visited_of_missing_entity noEmpty] at above
    exact above
  · rintro ⟨noEntity, noEmpty⟩
    rw [visited_of_missing_entity noEntity, visited_of_missing_entity noEmpty]
    exact ⟨rfl, rfl⟩

theorem levelsAgree_of_venue (free : tag.entity = "") (placed : tag.venue ≠ "") :
    LevelsAgree db tag ↔ Unshadowed db tag.venue := by
  rw [LevelsAgree, ← ruleLevels_of_venue placed]
  have ofConfig : configLevels db tag =
      visited db (configNext db) (some (.venue tag.venue)) := by
    rw [configLevels, configStart, if_neg (not_not.mpr free), if_pos placed]
  have ofRules : ruleLevels db tag = visited db (ruleNext db) (some (.venue tag.venue)) := by
    rw [ruleLevels, ruleStart, if_pos placed]
  rw [ofConfig, ofRules]
  exact ⟨fun agree => unshadowed_of_visited_eq agree.1,
    fun unshadowed => ⟨visited_eq_of_unshadowed unshadowed, rfl⟩⟩

end Agreement

/-- The two functions walk the hierarchy above a device exactly under the condition above. -/
theorem levelsAgree_iff (db : Store) (tag : InventoryTag) :
    LevelsAgree db tag ↔ AgreesAbove db tag := by
  unfold AgreesAbove
  by_cases owned : tag.entity ≠ ""
  · rw [if_pos owned]
    by_cases placed : tag.venue ≠ ""
    · rw [if_pos placed]
      exact levelsAgree_of_both owned placed
    · rw [if_neg placed]
      exact levelsAgree_of_entity owned (not_not.mp placed)
  · have free : tag.entity = "" := not_not.mp owned
    rw [if_neg owned]
    by_cases placed : tag.venue ≠ ""
    · rw [levelsAgree_of_venue free placed]
      exact ⟨fun unshadowed _ => unshadowed, fun unshadowed => unshadowed placed⟩
    · have unplaced : tag.venue = "" := not_not.mp placed
      refine ⟨fun _ some => absurd unplaced some, fun _ => ?_⟩
      refine ⟨configLevels_of_no_venue unplaced, ?_⟩
      rw [← configLevels_of_no_venue unplaced]
      simp [ruleLevels, configLevels, ruleStart, configStart, unplaced, free, visited]

/-- A device that was moved from its venue to an entity: its rules are looked for nowhere. -/
theorem rules_of_entity_device_missed :
    ¬ ∀ db, Reachable ServiceStart (PlacingStep fun _ => True) db →
      ∀ tag ∈ db.inventoryDB.rows, LevelsAgree db tag := by
  intro claim
  have moved : PlacingStep (fun _ => True) equippedVenue
      (inventoryDoPut (rootContext 40) equippedVenue (carryRequest (unaryId 16))).store :=
    ⟨.inventoryPut, rootContext 40, carryRequest (unaryId 16),
      rootContext_unused (rootContext_fresh (by decide)) (by omega),
      fun _ _ => trivial, rfl⟩
  have reached : Reachable ServiceStart (PlacingStep fun _ => True) equippedVenue := by
    apply equippedVenue_reached.mono
    rintro s t ⟨method, ctx, request, unused, _, rfl⟩
    exact ⟨method, ctx, request, unused, fun _ _ => trivial, rfl⟩
  have atEntity : ∃ tag ∈ (inventoryDoPut (rootContext 40) equippedVenue
      (carryRequest (unaryId 16))).store.inventoryDB.rows,
      tag.entity = unaryId 16 ∧ tag.venue = "" := by
    decide
  obtain ⟨tag, member, owned, unplaced⟩ := atEntity
  have agree := claim _ (reached.step moved) tag member
  rw [levelsAgree_of_entity (by rw [owned]; decide) unplaced, owned] at agree
  exact absurd agree.1 (by decide)

end Owprov
