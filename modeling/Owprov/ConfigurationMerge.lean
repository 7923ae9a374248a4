import Owprov.ConfigurationText

/-!
# Merging the configuration elements of a device

Every call of `AddConfiguration` inserts its elements by weight, at a place that a binary search
finds.  `Config_` stays sorted, elements of equal weight stay in the order they were added, and
`Get` takes each section from the first element that has it.
-/

namespace Owprov

open JsonValues RowTable WeightedInsertion Walks

/-! ## Insertion by weight -/

def VerboseElement.weight (element : VerboseElement) : ℕ :=
  element.element.weight

/-- The insertion of `AddConfiguration`, with the place that `std::lower_bound` finds. -/
def placeElement (config : List VerboseElement) (added : VerboseElement) : List VerboseElement :=
  if added.weight = 0 then
    config ++ [added]
  else
    config.insertIdx (lowerBound (fun other => decide (added.weight ≤ other.weight)) config) added

theorem insertElement_eq_insert (config : List VerboseElement) (added : VerboseElement) :
    insertElement config added = insert VerboseElement.weight config added := by
  unfold insertElement
  by_cases weightless : added.element.weight = 0
  · have noWeight : added.weight = 0 := weightless
    rw [if_pos weightless, insert_of_weight_eq_zero noWeight]
  · rw [if_neg weightless]
    rfl

theorem placeElement_eq_insert {config : List VerboseElement}
    (sorted : Descending VerboseElement.weight config) (added : VerboseElement) :
    placeElement config added = insert VerboseElement.weight config added := by
  unfold placeElement
  by_cases weightless : added.weight = 0
  · rw [if_pos weightless, insert_of_weight_eq_zero weightless]
  · rw [if_neg weightless, insertIdx_lowerBound sorted]

theorem foldl_placeElement_eq {config : List VerboseElement}
    (sorted : Descending VerboseElement.weight config) (added : List VerboseElement) :
    added.foldl placeElement config = added.foldl (insert VerboseElement.weight) config := by
  induction added generalizing config with
  | nil => rfl
  | cons element added ih =>
      rw [List.foldl_cons, List.foldl_cons, placeElement_eq_insert sorted,
        ih (descending_insert sorted)]

/-- A list of elements in the order of non-increasing weights, those of equal weight in the
order in which they were added. -/
structure SortedInOrder (added config : List VerboseElement) : Prop where
  sorted : config.Pairwise fun a b => b.weight ≤ a.weight
  stable : ∀ w, config.filter (fun element => element.weight = w) =
    added.filter fun element => element.weight = w

theorem sortedInOrder_foldl_insert (added : List VerboseElement) :
    SortedInOrder added (added.foldl (insert VerboseElement.weight) []) where
  sorted := descending_foldl_insert List.Pairwise.nil added
  stable w := by
    rw [filter_foldl_insert List.Pairwise.nil, List.filter_nil, List.nil_append]

/-! ## Calls of `AddConfiguration` -/

/-- The elements of a stored configuration that are added for a type of device. -/
def elementsOf (db : Store) (deviceType uuid : String) : List VerboseElement :=
  match db.configurationDB.get? uuid with
  | none => []
  | some found =>
      if uuid ≠ "" ∧ deviceTypeMatch deviceType found.deviceTypes then
        found.configuration.map fun element => ⟨element, found.info⟩
      else
        []

/-- The three forms of `AddConfiguration`. -/
inductive AddCall where
  | one (uuid : String)
  | many (uuids : List String)
  | given (elements : List DeviceConfigurationElement)

def AddCall.added (db : Store) (deviceType : String) : AddCall → List VerboseElement
  | .one uuid => elementsOf db deviceType uuid
  | .many uuids => uuids.flatMap (elementsOf db deviceType)
  | .given elements => elements.map fun element => ⟨element, {}⟩

namespace APConfig

/-- `AddConfiguration` for a configuration id. -/
def addUuid (db : Store) (apConfig : APConfig) (uuid : String) : APConfig :=
  if uuid = "" then
    apConfig
  else
    match db.configurationDB.get? uuid with
    | none => apConfig
    | some found =>
        if found.configuration = [] then
          apConfig
        else if deviceTypeMatch apConfig.deviceType found.deviceTypes then
          { apConfig with
            config := (found.configuration.map fun element => ⟨element, found.info⟩).foldl
              placeElement apConfig.config }
        else
          { apConfig with ignored := apConfig.ignored ++ [found.info] }

end APConfig

def AddCall.run (db : Store) (apConfig : APConfig) : AddCall → APConfig
  | .one uuid => apConfig.addUuid db uuid
  | .many uuids => uuids.foldl (APConfig.addUuid db) apConfig
  | .given elements =>
      { apConfig with
        config := (elements.map fun element => ⟨element, {}⟩).foldl placeElement apConfig.config }

/-! ## Collected elements -/

/-- The object for a type of device after the given elements were added one after the other. -/
structure Collected (deviceType : String) (added : List VerboseElement) (apConfig : APConfig) :
    Prop where
  sameType : apConfig.deviceType = deviceType
  placed : apConfig.config = added.foldl (insert VerboseElement.weight) []

section Collected

variable {db : Store} {deviceType : String} {added : List VerboseElement} {apConfig : APConfig}

theorem collected_new (deviceType : String) : Collected deviceType [] { deviceType } :=
  ⟨rfl, rfl⟩

theorem Collected.descending (collected : Collected deviceType added apConfig) :
    Descending VerboseElement.weight apConfig.config := by
  rw [collected.placed]
  exact descending_foldl_insert List.Pairwise.nil added

theorem Collected.sortedInOrder (collected : Collected deviceType added apConfig) :
    SortedInOrder added apConfig.config := by
  rw [collected.placed]
  exact sortedInOrder_foldl_insert added

theorem Collected.foldl_placeElement (collected : Collected deviceType added apConfig)
    (more : List VerboseElement) :
    more.foldl placeElement apConfig.config =
      (added ++ more).foldl (insert VerboseElement.weight) [] := by
  rw [foldl_placeElement_eq collected.descending, collected.placed, List.foldl_append]

/-- The elements of a configuration are added when it is for the type of the device. -/
theorem Collected.addUuid (collected : Collected deviceType added apConfig) (uuid : String) :
    Collected deviceType (added ++ elementsOf db deviceType uuid) (apConfig.addUuid db uuid) := by
  have unchanged : Collected deviceType (added ++ []) apConfig := by
    rwa [List.append_nil]
  unfold APConfig.addUuid elementsOf
  by_cases empty : uuid = ""
  · rw [if_pos empty]
    cases db.configurationDB.get? uuid with
    | none => exact unchanged
    | some found => simpa [empty] using unchanged
  · rw [if_neg empty]
    cases db.configurationDB.get? uuid with
    | none => exact unchanged
    | some found =>
        dsimp only
        by_cases bare : found.configuration = []
        · simpa [bare] using unchanged
        · rw [if_neg bare, collected.sameType]
          by_cases same : deviceTypeMatch deviceType found.deviceTypes = true
          · rw [if_pos same, if_pos ⟨empty, same⟩]
            exact ⟨rfl, collected.foldl_placeElement _⟩
          · rw [if_neg same, if_neg fun both => same both.2, List.append_nil]
            exact ⟨rfl, collected.placed⟩

theorem Collected.addUuids (collected : Collected deviceType added apConfig)
    (uuids : List String) :
    Collected deviceType (added ++ uuids.flatMap (elementsOf db deviceType))
      (uuids.foldl (APConfig.addUuid db) apConfig) := by
  induction uuids generalizing added apConfig with
  | nil => simpa using collected
  | cons uuid uuids ih =>
      rw [List.foldl_cons, List.flatMap_cons, ← List.append_assoc]
      exact ih (collected.addUuid uuid)

theorem Collected.run (collected : Collected deviceType added apConfig) (call : AddCall) :
    Collected deviceType (added ++ call.added db deviceType) (call.run db apConfig) := by
  cases call with
  | one uuid => exact collected.addUuid uuid
  | many uuids => exact collected.addUuids uuids
  | given elements => exact ⟨collected.sameType, collected.foldl_placeElement _⟩

theorem Collected.runs (collected : Collected deviceType added apConfig)
    (calls : List AddCall) :
    Collected deviceType (added ++ calls.flatMap (AddCall.added db deviceType))
      (calls.foldl (fun state call => call.run db state) apConfig) := by
  induction calls generalizing added apConfig with
  | nil => simpa using collected
  | cons call calls ih =>
      rw [List.foldl_cons, List.flatMap_cons, ← List.append_assoc]
      exact ih (collected.run call)

/-- On a sorted list the search finds the place that the elements of a level are put. -/
theorem Collected.addConfiguration_eq (collected : Collected deviceType added apConfig)
    (uuid : String) : apConfig.addConfiguration db uuid = apConfig.addUuid db uuid := by
  have inserts : ∀ (elements : List DeviceConfigurationElement) (info : ObjectInfo),
      elements.foldl (fun config element => insertElement config ⟨element, info⟩)
          apConfig.config =
        (elements.map fun element => ⟨element, info⟩).foldl placeElement apConfig.config := by
    intro elements info
    simp only [foldl_placeElement_eq collected.descending, List.foldl_map,
      insertElement_eq_insert]
  unfold APConfig.addConfiguration APConfig.addUuid
  simp only [inserts]
  cases db.configurationDB.get? uuid with
  | none => exact (ite_self apConfig).symm
  | some found =>
      dsimp only
      by_cases empty : uuid = ""
      · rw [if_pos (.inl empty), if_pos empty]
      · rw [if_neg empty]
        by_cases bare : found.configuration = []
        · rw [if_pos (.inr bare), if_pos bare]
        · rw [if_neg (not_or.mpr ⟨empty, bare⟩), if_neg bare]

theorem Collected.addConfigurations (collected : Collected deviceType added apConfig)
    (uuids : List String) :
    Collected deviceType (added ++ uuids.flatMap (elementsOf db deviceType))
      (apConfig.addConfigurations db uuids) := by
  unfold APConfig.addConfigurations
  induction uuids generalizing added apConfig with
  | nil => simpa using collected
  | cons uuid uuids ih =>
      rw [List.foldl_cons, List.flatMap_cons, ← List.append_assoc]
      refine ih ?_
      rw [collected.addConfiguration_eq]
      exact collected.addUuid uuid

theorem Collected.addLevels (collected : Collected deviceType added apConfig)
    (levels : List Level) :
    Collected deviceType
      (added ++ (levels.flatMap (Level.configurations db)).flatMap (elementsOf db deviceType))
      (levels.foldl (APConfig.addLevel db) apConfig) := by
  induction levels generalizing added apConfig with
  | nil => simpa using collected
  | cons level levels ih =>
      rw [List.foldl_cons, List.flatMap_cons, List.flatMap_append, ← List.append_assoc]
      exact ih (collected.addConfigurations (level.configurations db))

/-- The levels of a device in the order in which `Get` goes through them. -/
def levelsFrom (db : Store) (fuel : ℕ) (tag : InventoryTag) : List Level :=
  ((configStart tag).map (walk (configNext db) fuel)).getD []

/-- The configurations of a device: its own before those of the levels, the nearer before the
farther. -/
def configurationOrder (db : Store) (fuel : ℕ) (tag : InventoryTag) : List String :=
  tag.deviceConfiguration :: (levelsFrom db fuel tag).flatMap (Level.configurations db)

theorem collected_get {fuel : ℕ} {tag : InventoryTag}
    (composed : APConfig.get db fuel deviceType tag = some apConfig) :
    Collected deviceType
      ((configurationOrder db fuel tag).flatMap (elementsOf db deviceType)) apConfig := by
  have start := collected_new deviceType
  have own : Collected deviceType (elementsOf db deviceType tag.deviceConfiguration)
      (APConfig.addConfiguration db { deviceType } tag.deviceConfiguration) := by
    rw [start.addConfiguration_eq]
    exact start.addUuid tag.deviceConfiguration
  rw [APConfig.get_eq_walk composed]
  exact own.addLevels (levelsFrom db fuel tag)

end Collected

/-! ## Overrides -/

/-- An override that does not throw leaves the configuration as it is. -/
theorem applyOverride_eq_of_ok {env : RenderEnv} {configuration next : Members}
    {override : ConfigurationOverride}
    (applied : applyOverride env configuration override = .ok next) : next = configuration := by
  have unsupported : misformattedError env configuration = .ok next → next = configuration := by
    unfold misformattedError
    split
    · rintro ⟨⟩
    · intro same
      exact (Except.ok.inj same).symm
  unfold applyOverride at applied
  split at applied
  · cases applied
  · split at applied
    · split at applied
      · split at applied
        · split at applied
          · exact (Except.ok.inj applied).symm
          · cases applied
        · cases applied
      · exact unsupported applied
    · exact unsupported applied

theorem applyOverride_error {env : RenderEnv} {configuration : Members}
    {override : ConfigurationOverride} {halt : Halt}
    (failed : applyOverride env configuration override = .error halt) : halt = .thrown := by
  have unsupported : misformattedError env configuration = .error halt → halt = .thrown := by
    unfold misformattedError
    split
    · intro same
      exact (Except.error.inj same).symm
    · rintro ⟨⟩
  unfold applyOverride at failed
  split at failed
  · exact (Except.error.inj failed).symm
  · split at failed
    · split at failed
      · split at failed
        · split at failed
          · cases failed
          · exact (Except.error.inj failed).symm
        · exact (Except.error.inj failed).symm
      · exact unsupported failed
    · exact unsupported failed

theorem run_overrides_eq (env : RenderEnv) (configuration : Members)
    (overrides : List ConfigurationOverride) :
    (StoppedFold.run (applyOverride env) configuration overrides).1 = configuration := by
  refine StoppedFold.run_invariant (fun state => state = configuration) rfl ?_
  rintro state rfl override - next applied
  exact applyOverride_eq_of_ok applied

theorem run_overrides_halt (env : RenderEnv) (configuration : Members)
    (overrides : List ConfigurationOverride) :
    (StoppedFold.run (applyOverride env) configuration overrides).2 ≠ some .exhausted := by
  induction overrides generalizing configuration with
  | nil => rintro ⟨⟩
  | cons override overrides ih =>
      cases applied : applyOverride env configuration override with
      | ok next =>
          rw [StoppedFold.run_cons_ok applied]
          exact ih next
      | error halt =>
          rw [StoppedFold.run_cons_error applied, applyOverride_error applied]
          rintro ⟨⟩

/-! ## Sections -/

/-- The sections of an element. -/
def sectionsOf (env : RenderEnv) (element : VerboseElement) : Members :=
  match env.parse element.element.configuration with
  | some (.obj members) => members
  | _ => []

/-- What the loop over the elements knows after the sections `seen`. -/
structure Merged (env : RenderEnv) (fuel : ℕ) (seen : Members) (built : Built) : Prop where
  met : ∀ name, name ∈ built.sections ↔ (seen.lookup name).isSome
  taken : ∀ name, built.configuration.lookup name =
    (seen.lookup name).bind fun value => (replaceSection env false fuel value).toOption

section Merging

variable {env : RenderEnv} {fuel : ℕ} {seen rest : Members} {built : Built}

/-- The first section of every name is replaced without an exception. -/
def FirstsExpand (env : RenderEnv) (fuel : ℕ) (sections : Members) : Prop :=
  ∀ name value, sections.lookup name = some value →
    ∃ expanded, replaceSection env false fuel value = .ok expanded

theorem lookup_append (front back : Members) (name : String) :
    List.lookup name (front ++ back) = (front.lookup name).or (back.lookup name) :=
  List.lookup_append

theorem addSection_of_new {name : String} {value expanded : Value}
    (fresh : name ∉ built.sections)
    (expands : replaceSection env false fuel value = .ok expanded) :
    addSection env fuel built (name, value) =
      .ok { sections := name :: built.sections
            configuration := built.configuration.set name expanded } := by
  unfold addSection
  rw [if_neg fresh]
  cases value with
  | arr items =>
      dsimp only
      rw [expands]
      rfl
  | obj members =>
      dsimp only
      rw [expands]
      rfl
  | null => cases expands
  | bool value => cases expands
  | num value => cases expands
  | str text => cases expands

theorem Merged.addSection (merged : Merged env fuel seen built) {name : String} {value : Value}
    (expand : FirstsExpand env fuel (seen ++ (name, value) :: rest)) :
    ∃ next, addSection env fuel built (name, value) = .ok next ∧
      Merged env fuel (seen ++ [(name, value)]) next := by
  have single : ∀ other, List.lookup other [(name, value)] =
      if other = name then some value else Option.none := by
    intro other
    exact Members.lookup_cons name other value []
  by_cases known : (seen.lookup name).isSome
  · refine ⟨built, if_pos ((merged.met name).mpr known), ?_, ?_⟩
    · intro other
      rw [merged.met, lookup_append, single, Option.isSome_or]
      by_cases same : other = name
      · simp [same, known]
      · simp [same]
    · intro other
      rw [merged.taken, lookup_append, single]
      by_cases same : other = name
      · subst same
        obtain ⟨old, found⟩ := Option.isSome_iff_exists.mp known
        rw [found, Option.some_or]
      · rw [if_neg same, Option.or_none]
  · have unseen : seen.lookup name = Option.none := Option.not_isSome_iff_eq_none.mp known
    have first : List.lookup name (seen ++ (name, value) :: rest) = some value := by
      rw [lookup_append, unseen, Option.none_or, Members.lookup_cons, if_pos rfl]
    obtain ⟨expanded, expands⟩ := expand name value first
    have fresh : name ∉ built.sections := fun member => known ((merged.met name).mp member)
    refine ⟨_, addSection_of_new fresh expands, ?_, ?_⟩
    · intro other
      rw [List.mem_cons, merged.met, lookup_append, single, Option.isSome_or]
      by_cases same : other = name
      · simp [same]
      · simp [same]
    · intro other
      dsimp only
      rw [Members.lookup_set, lookup_append, single]
      by_cases same : other = name
      · subst same
        rw [if_pos rfl, if_pos rfl, unseen, Option.none_or, Option.bind_some, expands]
        rfl
      · rw [if_neg same, if_neg same, Option.or_none, merged.taken]

theorem Merged.addSections (merged : Merged env fuel seen built) (members : Members)
    (expand : FirstsExpand env fuel (seen ++ (members ++ rest))) :
    ∃ next, StoppedFold.run (Owprov.addSection env fuel) built members = (next, Option.none) ∧
      Merged env fuel (seen ++ members) next := by
  induction members generalizing seen built with
  | nil => exact ⟨built, rfl, by rwa [List.append_nil]⟩
  | cons member members ih =>
      obtain ⟨name, value⟩ := member
      rw [List.cons_append] at expand
      obtain ⟨next, added, nextMerged⟩ := merged.addSection expand
      rw [StoppedFold.run_cons_ok added]
      have split : seen ++ (name, value) :: members = seen ++ [(name, value)] ++ members := by simp
      rw [split]
      exact ih nextMerged (by simpa using expand)

/-- Without an exception every section comes from the first element that has it. -/
theorem Merged.addElements (merged : Merged env fuel seen built) (config : List VerboseElement)
    (parsed : ∀ element ∈ config, ∃ members,
      env.parse element.element.configuration = some (.obj members))
    (expand : FirstsExpand env fuel (seen ++ config.flatMap (sectionsOf env))) :
    ∃ last, addElements env fuel built config = (last, Option.none) ∧
      Merged env fuel (seen ++ config.flatMap (sectionsOf env)) last := by
  induction config generalizing seen built with
  | nil => exact ⟨built, rfl, by simpa using merged⟩
  | cons element config ih =>
      obtain ⟨members, isObject⟩ := parsed element List.mem_cons_self
      have own : sectionsOf env element = members := by
        unfold sectionsOf
        rw [isObject]
      rw [List.flatMap_cons, own] at expand ⊢
      obtain ⟨next, added, nextMerged⟩ := merged.addSections members expand
      rw [Owprov.addElements, isObject]
      dsimp only
      rw [added]
      dsimp only
      rw [← List.append_assoc] at expand ⊢
      exact ih nextMerged (fun other member => parsed other (List.mem_cons_of_mem element member))
        expand

end Merging

theorem merged_empty (env : RenderEnv) (fuel : ℕ) : Merged env fuel [] {} where
  met name := by simp
  taken name := rfl

/-- `Get` when nothing throws before the overrides: the sections of the first elements. -/
theorem getConfiguration_of_collect {env : RenderEnv} {db : Store} {fuel : ℕ}
    {subject : APConfig.Subject} {apConfig : APConfig}
    (collected : APConfig.collect db fuel subject = some apConfig) :
    APConfig.getConfiguration env db fuel subject =
      match APConfig.build env fuel apConfig.config
        ((env.overrides subject.serialNumber).getD []) with
      | (_, some .exhausted) => none
      | (configuration, _) => some (!apConfig.config.isEmpty, configuration) := by
  unfold APConfig.getConfiguration
  rw [collected]
  rfl

theorem getConfiguration_of_expand {env : RenderEnv} {db : Store} {fuel : ℕ}
    {subject : APConfig.Subject} {apConfig : APConfig}
    (collected : APConfig.collect db fuel subject = some apConfig)
    (parsed : ∀ element ∈ apConfig.config, ∃ members,
      env.parse element.element.configuration = some (.obj members))
    (expand : FirstsExpand env fuel (apConfig.config.flatMap (sectionsOf env))) :
    ∃ configuration,
      APConfig.getConfiguration env db fuel subject =
        some (!apConfig.config.isEmpty, configuration) ∧
      ∀ name, configuration.lookup name =
        (List.lookup name (apConfig.config.flatMap (sectionsOf env))).bind fun value =>
          (replaceSection env false fuel value).toOption := by
  obtain ⟨last, added, merged⟩ := (merged_empty env fuel).addElements apConfig.config parsed expand
  rw [List.nil_append] at merged
  refine ⟨last.configuration, ?_, merged.taken⟩
  rw [getConfiguration_of_collect collected]
  unfold APConfig.build
  rw [added]
  dsimp only
  have configurationSame := run_overrides_eq env last.configuration
    ((env.overrides subject.serialNumber).getD [])
  have haltThrown := run_overrides_halt env last.configuration
    ((env.overrides subject.serialNumber).getD [])
  generalize StoppedFold.run (applyOverride env) last.configuration
    ((env.overrides subject.serialNumber).getD []) = ended at configurationSame haltThrown ⊢
  obtain ⟨configuration, halt⟩ := ended
  dsimp only at configurationSame haltThrown
  subst configurationSame
  cases halt with
  | none => rfl
  | some halt =>
      cases halt with
      | thrown => rfl
      | exhausted => exact absurd rfl haltThrown

/-! ## A device with a configuration of its own -/

/-- One device whose configuration has the given elements. -/
def configuredStore (elements : List DeviceConfigurationElement) : Store :=
  { initialStore with
    configurationDB := Table.singleton
      { info := { id := "c-1" }, deviceTypes := ["*"], configuration := elements }
    inventoryDB := Table.singleton
      { info := { id := "t-1" }, serialNumber := "aabbccddeeff", deviceConfiguration := "c-1" } }

def configuredDevice : APConfig.Subject :=
  .inventory "aabbccddeeff" "edgecore_eap101"

/-- Texts of elements that stand for one section. -/
def sectionTexts (members : String → Option Members) (text : String) : Option Value :=
  (members text).map .obj

/-- The texts of the elements below. -/
def plainTexts (text : String) : Option Members :=
  if text = "radios" then some [("radios", .arr [.obj [("channel", .num 1)]])]
  else if text = "both" then some [("radios", .arr []), ("unit", .obj [("name", .str "ap")])]
  else none

def plainEnv : RenderEnv where
  parse := sectionTexts plainTexts
  text _ := ""
  block _ := none
  endpoint _ := none
  overrides _ := none

def twoElements : List DeviceConfigurationElement :=
  [{ weight := 1, configuration := "both" }, { weight := 5, configuration := "radios" }]

/-- The elements of the device in the order of their weights. -/
def mergedElements : List VerboseElement :=
  twoElements.reverse.map fun element => ⟨element, { id := "c-1" }⟩

theorem sectionsOf_mergedElements : mergedElements.flatMap (sectionsOf plainEnv) =
    [("radios", .arr [.obj [("channel", .num 1)]]), ("radios", .arr []),
      ("unit", .obj [("name", .str "ap")])] :=
  rfl

theorem mergedElements_parsed : ∀ element ∈ mergedElements, ∃ members,
    plainEnv.parse element.element.configuration = some (.obj members) := by
  intro element member
  rcases List.mem_cons.mp member with rfl | member
  · exact ⟨_, rfl⟩
  · rcases List.mem_cons.mp member with rfl | member
    · exact ⟨_, rfl⟩
    · cases member

theorem mergedElements_expand (strict : Bool) (name : String) (value : Value)
    (found : List.lookup name (mergedElements.flatMap (sectionsOf plainEnv)) = some value) :
    ∃ expanded, replaceSection plainEnv strict 3 value = .ok expanded := by
  rw [sectionsOf_mergedElements] at found
  by_cases radios : name = "radios"
  · subst radios
    obtain rfl := Option.some.inj found
    exact ⟨_, rfl⟩
  · by_cases unit : name = "unit"
    · subst unit
      obtain rfl := Option.some.inj found
      exact ⟨_, rfl⟩
    · rw [Members.lookup_cons, if_neg radios, Members.lookup_cons, if_neg radios,
        Members.lookup_cons, if_neg unit] at found
      cases found

/-! ## The merge -/

/-- The three forms of `AddConfiguration` keep `Config_` sorted with equal weights in order, `Get`
adds the configurations of a device in the order of the scopes, and it makes the union of the
sections, each from the first element that has it. -/
theorem configuration_merged_by_weight (db : Store) :
    (∀ (deviceType : String) (calls : List AddCall),
      SortedInOrder (calls.flatMap (AddCall.added db deviceType))
        (calls.foldl (fun state call => AddCall.run db state call) { deviceType }).config) ∧
    (∀ (fuel : ℕ) (deviceType : String) (tag : InventoryTag) (apConfig : APConfig),
      APConfig.get db fuel deviceType tag = some apConfig →
      SortedInOrder ((configurationOrder db fuel tag).flatMap (elementsOf db deviceType))
        apConfig.config) ∧
    ∀ (env : RenderEnv) (fuel : ℕ) (subject : APConfig.Subject) (apConfig : APConfig),
      APConfig.collect db fuel subject = some apConfig →
      (∀ element ∈ apConfig.config, ∃ members,
        env.parse element.element.configuration = some (.obj members)) →
      FirstsExpand env fuel (apConfig.config.flatMap (sectionsOf env)) →
      ∃ configuration,
        APConfig.getConfiguration env db fuel subject =
          some (!apConfig.config.isEmpty, configuration) ∧
        ∀ name, configuration.lookup name =
          (List.lookup name (apConfig.config.flatMap (sectionsOf env))).bind fun value =>
            (replaceSection env false fuel value).toOption := by
  refine ⟨fun deviceType calls => ?_, fun fuel deviceType tag apConfig composed => ?_, ?_⟩
  · exact ((collected_new deviceType).runs calls).sortedInOrder
  · exact (collected_get composed).sortedInOrder
  · intro env fuel subject apConfig collected parsed expand
    exact getConfiguration_of_expand collected parsed expand

theorem heavier_radios_merged :
    ∃ configuration,
      APConfig.getConfiguration plainEnv (configuredStore twoElements) 3 configuredDevice =
        some (true, configuration) ∧
      configuration.lookup "radios" = some (.arr [.obj [("channel", .num 1)]]) ∧
      configuration.lookup "unit" = some (.obj [("name", .str "ap")]) := by
  obtain ⟨configuration, built, taken⟩ :=
    (configuration_merged_by_weight (configuredStore twoElements)).2.2 plainEnv 3
      configuredDevice { deviceType := "edgecore_eap101", config := mergedElements }
      (by decide) mergedElements_parsed (mergedElements_expand false)
  refine ⟨configuration, built, ?_, ?_⟩
  · rw [taken, sectionsOf_mergedElements]
    rfl
  · rw [taken, sectionsOf_mergedElements]
    rfl

end Owprov
