import Owprov.InheritedLevels

/-!
# Effective device rules

A device inherits each of its three rules from the nearest level above it that decides it, and
from the service configuration where no level does.  `InventoryDB::EvaluateDeviceRules` resolves
the three rules at once and stops as soon as all of them are decided.
-/

namespace Owprov

open RowTable LinkedForest AcyclicRelation

/-! ## The rules along a chain of levels -/

/-- The first value of a chain that is not inherited, or the default. -/
def firstDecided (values : List String) (default : String) : String :=
  (values.find? (· != "inherit")).getD default

/-- Each rule is resolved by itself, from the nearest level on. -/
def effectiveRules (config : DeviceRules) (levels : List DeviceRules) : DeviceRules where
  rcOnly := firstDecided (levels.map DeviceRules.rcOnly) config.rcOnly
  rrm := firstDecided (levels.map DeviceRules.rrm) config.rrm
  firmwareUpgrade := firstDecided (levels.map DeviceRules.firmwareUpgrade) config.firmwareUpgrade

/-- The rules of an entity and of the entities above it. -/
inductive EntityChain (db : Store) : String → List DeviceRules → Prop
  | missing {id : String} (missing : db.entityDB.get? id = none) : EntityChain db id []
  | top {id : String} {entity : Entity} (found : db.entityDB.get? id = some entity)
      (isTop : entity.parent = "") : EntityChain db id [entity.deviceRules]
  | parent {id : String} {entity : Entity} {above : List DeviceRules}
      (found : db.entityDB.get? id = some entity) (filled : entity.parent ≠ "")
      (chain : EntityChain db entity.parent above) :
      EntityChain db id (entity.deviceRules :: above)

/-- The rules of a venue, of the venues above it, and from the entity of the top venue on. -/
inductive VenueChain (db : Store) : String → List DeviceRules → Prop
  | missing {id : String} (missing : db.venueDB.get? id = none) : VenueChain db id []
  | alone {id : String} {venue : Venue} (found : db.venueDB.get? id = some venue)
      (isTop : venue.parent = "") (free : venue.entity = "") :
      VenueChain db id [venue.deviceRules]
  | owned {id : String} {venue : Venue} {above : List DeviceRules}
      (found : db.venueDB.get? id = some venue) (isTop : venue.parent = "")
      (owned : venue.entity ≠ "") (chain : EntityChain db venue.entity above) :
      VenueChain db id (venue.deviceRules :: above)
  | parent {id : String} {venue : Venue} {above : List DeviceRules}
      (found : db.venueDB.get? id = some venue) (filled : venue.parent ≠ "")
      (chain : VenueChain db venue.parent above) : VenueChain db id (venue.deviceRules :: above)

/-- The rules of a device and of the levels above it. -/
def DeviceChain (db : Store) (tag : InventoryTag) (levels : List DeviceRules) : Prop :=
  ∃ above, levels = tag.deviceRules :: above ∧
    if tag.venue ≠ "" then VenueChain db tag.venue above
    else if tag.entity ≠ "" then EntityChain db tag.entity above
    else above = []

/-! ## One level -/

theorem firstDecided_cons (value : String) (values : List String) (default : String) :
    firstDecided (value :: values) default = inheritRule (firstDecided values default) value := by
  unfold firstDecided inheritRule
  by_cases inherits : value = "inherit"
  · simp [inherits]
  · simp [inherits]

/-- A level that was consulted need not be looked at again. -/
theorem firstDecided_inheritRule (found rule : String) (values : List String) (default : String) :
    firstDecided (inheritRule found rule :: values) default =
      firstDecided (rule :: found :: values) default := by
  simp only [firstDecided_cons]
  by_cases inherits : rule = "inherit"
  · simp [inheritRule, inherits]
  · simp [inheritRule, inherits]

section Levels

variable {config found rules : DeviceRules} {above : List DeviceRules}

theorem effectiveRules_applyRules :
    effectiveRules config ((applyRules found rules).1 :: above) =
      effectiveRules config (rules :: found :: above) := by
  simp only [effectiveRules, applyRules, List.map_cons, firstDecided_inheritRule]

/-- Once every rule is decided, the levels above decide nothing. -/
theorem effectiveRules_of_decided (decided : (applyRules found rules).2 = false) :
    effectiveRules config (rules :: found :: above) = (applyRules found rules).1 := by
  rw [← effectiveRules_applyRules]
  simp only [applyRules, Bool.or_eq_false_iff, beq_eq_false_iff_ne] at decided ⊢
  obtain ⟨⟨rrm, rcOnly⟩, firmwareUpgrade⟩ := decided
  simp only [effectiveRules, List.map_cons, firstDecided_cons, DeviceRules.mk.injEq]
  exact ⟨if_neg rcOnly, if_neg rrm, if_neg firmwareUpgrade⟩

theorem effectiveRules_singleton : effectiveRules config [rules] = applyConfigRules config rules := by
  simp only [effectiveRules, applyConfigRules, applyRules, List.map_cons, List.map_nil,
    firstDecided_cons]
  rfl

/-- What a recursion does at a level: it stops once every rule is decided, or goes on. -/
theorem effectiveRules_of_level {result : DeviceRules} {goOn : DeviceRules → Option DeviceRules}
    (next : ∀ applied, goOn applied = some result → result = effectiveRules config (applied :: above))
    (evaluated : (match applyRules found rules with
      | (applied, false) => some applied
      | (applied, true) => goOn applied) = some result) :
    result = effectiveRules config (rules :: found :: above) := by
  cases answer : applyRules found rules with
  | mk applied inherits =>
      rw [answer] at evaluated
      cases inherits with
      | false =>
          rw [effectiveRules_of_decided (by rw [answer]), answer]
          exact (Option.some.inj evaluated).symm
      | true =>
          rw [← effectiveRules_applyRules, answer]
          exact next applied evaluated

end Levels

/-! ## The recursions -/

section Recursions

variable {db : Store} {config rules result : DeviceRules} {above : List DeviceRules} {id : String}
    {fuel : ℕ}

theorem evaluateEntityRules_eq_effective (chain : EntityChain db id above)
    (evaluated : evaluateEntityRules db config fuel id rules = some result) :
    result = effectiveRules config (rules :: above) := by
  induction fuel generalizing id rules above with
  | zero => cases evaluated
  | succ fuel ih =>
      unfold evaluateEntityRules at evaluated
      cases chain with
      | missing missing =>
          simp only [missing, Option.some.injEq] at evaluated
          rw [effectiveRules_singleton, evaluated]
      | top found isTop =>
          simp only [found, if_neg (not_not.mpr isTop)] at evaluated
          refine effectiveRules_of_level (fun applied answered => ?_) evaluated
          rw [effectiveRules_singleton]
          exact (Option.some.inj answered).symm
      | parent found filled chain =>
          simp only [found, if_pos filled] at evaluated
          exact effectiveRules_of_level (fun applied answered => ih chain answered) evaluated

theorem evaluateVenueRules_eq_effective (chain : VenueChain db id above)
    (evaluated : evaluateVenueRules db config fuel id rules = some result) :
    result = effectiveRules config (rules :: above) := by
  induction fuel generalizing id rules above with
  | zero => cases evaluated
  | succ fuel ih =>
      unfold evaluateVenueRules at evaluated
      cases chain with
      | missing missing =>
          simp only [missing, Option.some.injEq] at evaluated
          rw [effectiveRules_singleton, evaluated]
      | alone found isTop free =>
          simp only [found, if_neg (not_not.mpr isTop), if_neg (not_not.mpr free)] at evaluated
          refine effectiveRules_of_level (fun applied answered => ?_) evaluated
          rw [effectiveRules_singleton]
          exact (Option.some.inj answered).symm
      | owned found isTop owned chain =>
          simp only [found, if_neg (not_not.mpr isTop), if_pos owned] at evaluated
          exact effectiveRules_of_level
            (fun applied answered => evaluateEntityRules_eq_effective chain answered) evaluated
      | parent found filled chain =>
          simp only [found, if_pos filled] at evaluated
          exact effectiveRules_of_level (fun applied answered => ih chain answered) evaluated

end Recursions

/-! ## Acyclic hierarchies -/

/-- Neither the parents of the entities nor those of the venues form a cycle. -/
structure AcyclicHierarchy (db : Store) : Prop where
  entities : Acyclic (ParentEdge (entityColumns.forest db.entityDB))
  venues : Acyclic (ParentEdge (venueColumns.forest db.venueDB))

section Acyclicity

variable {db : Store} (acyclic : AcyclicHierarchy db)

include acyclic

theorem AcyclicHierarchy.entityChain (id : String) : ∃ above, EntityChain db id above := by
  refine stops_of_acyclic_parents acyclic.entities
    (fun _ id => ∃ above, EntityChain db id above) ?_ (Nat.lt_succ_self _) id
  intro _ id parentChain
  cases found : db.entityDB.get? id with
  | none => exact ⟨[], .missing found⟩
  | some entity =>
      by_cases filled : entity.parent ≠ ""
      · obtain ⟨above, chain⟩ := parentChain entity found filled
        exact ⟨_, .parent found filled chain⟩
      · exact ⟨_, .top found (not_not.mp filled)⟩

theorem AcyclicHierarchy.venueChain (id : String) : ∃ above, VenueChain db id above := by
  refine stops_of_acyclic_parents acyclic.venues
    (fun _ id => ∃ above, VenueChain db id above) ?_ (Nat.lt_succ_self _) id
  intro _ id parentChain
  cases found : db.venueDB.get? id with
  | none => exact ⟨[], .missing found⟩
  | some venue =>
      by_cases filled : venue.parent ≠ ""
      · obtain ⟨above, chain⟩ := parentChain venue found filled
        exact ⟨_, .parent found filled chain⟩
      · have isTop : venue.parent = "" := not_not.mp filled
        by_cases owned : venue.entity ≠ ""
        · obtain ⟨above, chain⟩ := acyclic.entityChain venue.entity
          exact ⟨_, .owned found isTop owned chain⟩
        · exact ⟨_, .alone found isTop (not_not.mp owned)⟩

theorem AcyclicHierarchy.deviceChain (tag : InventoryTag) :
    ∃ levels, DeviceChain db tag levels := by
  obtain ⟨venueAbove, venueChain⟩ := acyclic.venueChain tag.venue
  obtain ⟨entityAbove, entityChain⟩ := acyclic.entityChain tag.entity
  unfold DeviceChain
  by_cases placed : tag.venue ≠ ""
  · exact ⟨_, venueAbove, rfl, by rwa [if_pos placed]⟩
  · by_cases owned : tag.entity ≠ ""
    · exact ⟨_, entityAbove, rfl, by rwa [if_neg placed, if_pos owned]⟩
    · exact ⟨_, [], rfl, by rw [if_neg placed, if_neg owned]⟩

/-- The evaluation stops on every device. -/
theorem AcyclicHierarchy.evaluated (config : DeviceRules) (tag : InventoryTag) :
    ∃ fuel result, evaluateDeviceRules db config fuel tag = some result := by
  refine ⟨db.venueDB.rows.length + 1 + db.entityFuel, Option.isSome_iff_exists.mp ?_⟩
  unfold evaluateDeviceRules
  by_cases placed : tag.venue ≠ ""
  · rw [if_pos placed]
    exact evaluateVenueRules_isSome acyclic.venues acyclic.entities (Nat.lt_succ_self _) _ _ _
  · rw [if_neg placed]
    by_cases owned : tag.entity ≠ ""
    · rw [if_pos owned]
      apply evaluateEntityRules_isSome acyclic.entities
      unfold Store.entityFuel
      omega
    · rw [if_neg owned]
      rfl

end Acyclicity

/-- The rules that a chain of levels gives are determined by where the chain starts. -/
theorem EntityChain.unique {db : Store} {id : String} {first second : List DeviceRules}
    (left : EntityChain db id first) (right : EntityChain db id second) : first = second := by
  induction left generalizing second with
  | missing missing =>
      cases right with
      | missing => rfl
      | top found | parent found => exact absurd (missing.symm.trans found) (by simp)
  | top found isTop =>
      cases right with
      | missing missing => exact absurd (missing.symm.trans found) (by simp)
      | top again =>
          obtain rfl := Option.some.inj (found.symm.trans again)
          rfl
      | parent again filled =>
          obtain rfl := Option.some.inj (found.symm.trans again)
          exact absurd isTop filled
  | parent found filled _ ih =>
      cases right with
      | missing missing => exact absurd (missing.symm.trans found) (by simp)
      | top again isTop =>
          obtain rfl := Option.some.inj (found.symm.trans again)
          exact absurd isTop filled
      | parent again _ chain =>
          obtain rfl := Option.some.inj (found.symm.trans again)
          rw [ih chain]

/-! ## The evaluation -/

/-- `InventoryDB::EvaluateDeviceRules` answers the effective rules of a device. -/
def EvaluatesEffectiveRules (db : Store) (config : DeviceRules) (tag : InventoryTag) : Prop :=
  ∃ levels, DeviceChain db tag levels ∧
    ∃ fuel, evaluateDeviceRules db config fuel tag = some (effectiveRules config levels)

/-- For every rule that the device inherits, two chains above it come to the same value. -/
def SameDecisions (config : DeviceRules) (tag : InventoryTag) (first second : List DeviceRules) :
    Prop :=
  ∀ rule ∈ [DeviceRules.rcOnly, DeviceRules.rrm, DeviceRules.firmwareUpgrade],
    rule tag.deviceRules = "inherit" →
      firstDecided (first.map rule) (rule config) = firstDecided (second.map rule) (rule config)

/-- A device of an entity without a venue gets what the entity with the empty id would give it. -/
def DecidedElsewhere (db : Store) (config : DeviceRules) (tag : InventoryTag) : Prop :=
  ∀ own unnamed, EntityChain db tag.entity own → EntityChain db "" unnamed →
    SameDecisions config tag own unnamed

theorem effectiveRules_eq_iff {config : DeviceRules} {tag : InventoryTag}
    {first second : List DeviceRules} :
    effectiveRules config (tag.deviceRules :: first) =
        effectiveRules config (tag.deviceRules :: second) ↔
      SameDecisions config tag first second := by
  have field : ∀ value left right : String,
      inheritRule left value = inheritRule right value ↔ (value = "inherit" → left = right) := by
    intro value left right
    unfold inheritRule
    by_cases inherits : value = "inherit"
    · simp [inherits]
    · simp [inherits]
  simp only [effectiveRules, DeviceRules.mk.injEq, List.map_cons, firstDecided_cons, field,
    SameDecisions, List.forall_mem_cons, List.not_mem_nil, false_imp_iff, implies_true, and_true]

section Evaluation

variable {db : Store} {config : DeviceRules} {tag : InventoryTag}

theorem evaluatesEffectiveRules_of_venue (acyclic : AcyclicHierarchy db) (placed : tag.venue ≠ "") :
    EvaluatesEffectiveRules db config tag := by
  obtain ⟨fuel, result, evaluated⟩ := acyclic.evaluated config tag
  obtain ⟨above, chain⟩ := acyclic.venueChain tag.venue
  refine ⟨_, ⟨above, rfl, by rwa [if_pos placed]⟩, fuel, ?_⟩
  unfold evaluateDeviceRules at evaluated ⊢
  rw [if_pos placed] at evaluated ⊢
  rw [← evaluateVenueRules_eq_effective chain evaluated, evaluated]

theorem evaluatesEffectiveRules_of_free (unplaced : tag.venue = "") (free : tag.entity = "") :
    EvaluatesEffectiveRules db config tag := by
  refine ⟨_, ⟨[], rfl, by simp [unplaced, free]⟩, 0, ?_⟩
  simp [evaluateDeviceRules, unplaced, free, effectiveRules_singleton]

/-- The entity of a device without a venue is looked for under the empty id. -/
theorem evaluatesEffectiveRules_iff_of_entity (acyclic : AcyclicHierarchy db)
    (unplaced : tag.venue = "") (owned : tag.entity ≠ "") :
    EvaluatesEffectiveRules db config tag ↔ DecidedElsewhere db config tag := by
  obtain ⟨fuel, result, evaluated⟩ := acyclic.evaluated config tag
  obtain ⟨own, ownChain⟩ := acyclic.entityChain tag.entity
  obtain ⟨unnamed, unnamedChain⟩ := acyclic.entityChain ""
  have levels : ∀ chain, DeviceChain db tag chain ↔ chain = tag.deviceRules :: own := by
    intro chain
    simp only [DeviceChain, unplaced, ne_eq, not_true_eq_false, if_false, if_pos owned]
    constructor
    · rintro ⟨above, rfl, chain⟩
      rw [ownChain.unique chain]
    · rintro rfl
      exact ⟨own, rfl, ownChain⟩
  have answers : ∀ fuel answer, evaluateDeviceRules db config fuel tag = some answer →
      answer = effectiveRules config (tag.deviceRules :: unnamed) := by
    intro fuel answer answered
    simp only [evaluateDeviceRules, unplaced, ne_eq, not_true_eq_false, if_false,
      if_pos owned] at answered
    exact evaluateEntityRules_eq_effective unnamedChain answered
  constructor
  · rintro ⟨chain, isChain, fuel, answered⟩ other unnamed' otherChain unnamedChain'
    obtain rfl := ownChain.unique otherChain
    obtain rfl := unnamedChain.unique unnamedChain'
    rw [(levels chain).mp isChain] at answered
    exact effectiveRules_eq_iff.mp (answers fuel _ answered)
  · intro elsewhere
    have same := effectiveRules_eq_iff.mpr (elsewhere own unnamed ownChain unnamedChain)
    refine ⟨_, (levels _).mpr rfl, fuel, ?_⟩
    rw [evaluated, same, answers fuel result evaluated]

end Evaluation

/-- In an acyclic hierarchy the effective rules are found exactly for the devices that have a
venue or no entity, and for those whose entity decides nothing different. -/
theorem evaluatesEffectiveRules_iff (db : Store) (config : DeviceRules) (tag : InventoryTag)
    (acyclic : AcyclicHierarchy db) :
    EvaluatesEffectiveRules db config tag ↔
      tag.venue ≠ "" ∨ tag.entity = "" ∨ DecidedElsewhere db config tag := by
  by_cases placed : tag.venue ≠ ""
  · exact iff_of_true (evaluatesEffectiveRules_of_venue acyclic placed) (.inl placed)
  · have unplaced : tag.venue = "" := not_not.mp placed
    by_cases owned : tag.entity ≠ ""
    · rw [evaluatesEffectiveRules_iff_of_entity acyclic unplaced owned]
      constructor
      · exact fun elsewhere => .inr (.inr elsewhere)
      · rintro (placed' | free | elsewhere)
        · exact absurd placed' placed
        · exact absurd free owned
        · exact elsewhere
    · have free : tag.entity = "" := not_not.mp owned
      exact iff_of_true (evaluatesEffectiveRules_of_free unplaced free) (.inr (.inl free))

def topEntity : Entity where
  info := { id := rootUUID, name := "Top Entity" }

def managedBranch : Entity where
  info := { id := "branch", name := "Branch" }
  parent := rootUUID
  deviceRules := { rrm := "yes" }

/-- An entity below the root that turns the radio management on. -/
def managedEntity : Store where
  entityDB :=
    { rows := [topEntity, managedBranch]
      distinct := by decide }

/-- A device of that entity that inherits every rule. -/
def entityDevice : InventoryTag where
  info := { id := "device", name := "AP" }
  serialNumber := "aabbccddeeff"
  entity := "branch"

/-- The rules of a service whose configuration sets none. -/
def serviceRules : DeviceRules where
  rcOnly := "yes"
  rrm := "no"
  firmwareUpgrade := "yes"

theorem managedEntity_acyclic : AcyclicHierarchy managedEntity where
  entities := by
    have upward : ∀ row ∈ managedEntity.entityDB.rows, row.parent ≠ "" →
        row.parent = rootUUID ∧ key row ≠ rootUUID := by
      decide
    intro id cycle
    obtain ⟨above, first, _⟩ := Relation.TransGen.head'_iff.mp cycle
    obtain ⟨below, _, last⟩ := Relation.TransGen.tail'_iff.mp cycle
    obtain ⟨row, found, rfl, filled⟩ := LinkColumns.parentEdge_iff.mp first
    obtain ⟨other, otherFound, isRoot, otherFilled⟩ := LinkColumns.parentEdge_iff.mp last
    have fromRoot := (upward row (Table.mem_of_get? found) filled).2
    have hung : other.parent ≠ "" := fun isTop => otherFilled (isRoot.symm.trans isTop)
    have toRoot := (upward other (Table.mem_of_get? otherFound) hung).1
    rw [Table.key_of_get? found, ← isRoot] at fromRoot
    exact fromRoot toRoot
  venues := by
    intro id cycle
    obtain ⟨above, first, _⟩ := Relation.TransGen.head'_iff.mp cycle
    obtain ⟨row, found, _⟩ := LinkColumns.parentEdge_iff.mp first
    cases found

/-- A device that decides its rules itself needs no entity. -/
theorem evaluatesEffectiveRules_of_own_rules :
    EvaluatesEffectiveRules managedEntity serviceRules
      { entityDevice with deviceRules := { rcOnly := "no", rrm := "no", firmwareUpgrade := "no" } } :=
  (evaluatesEffectiveRules_iff _ _ _ managedEntity_acyclic).mpr
    (.inr (.inr fun _ _ _ _ => by simp [SameDecisions]))

/-- The service defaults decide for the device, whatever its entity says. -/
theorem entity_rules_missed :
    ¬ ∀ db config tag, AcyclicHierarchy db → EvaluatesEffectiveRules db config tag := by
  intro claim
  have evaluates := claim managedEntity serviceRules entityDevice managedEntity_acyclic
  have elsewhere : DecidedElsewhere managedEntity serviceRules entityDevice :=
    (evaluatesEffectiveRules_iff_of_entity managedEntity_acyclic rfl (by decide)).mp evaluates
  have own : EntityChain managedEntity "branch" [managedBranch.deviceRules, topEntity.deviceRules] :=
    .parent (by decide) (by decide) (.top (by decide) rfl)
  have unnamed : EntityChain managedEntity "" [] := .missing (by decide)
  exact absurd (elsewhere _ _ own unnamed DeviceRules.rrm (by simp) rfl) (by decide)

end Owprov
