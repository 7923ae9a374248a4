import Owprov.VariableExpansion

/-!
# Failures while a configuration is made

An exception ends `Get` where it stands and `Get` answers by the elements alone.  What is missing
then is missing from the configuration that is sent to the device: sections, the variables of
blocks that are not stored, and every override.
-/

namespace Owprov

open JsonValues RowTable

/-! ## What overrides are for -/

/-- The radios with the parameter that an override sets, when it is for one of them. -/
def overrideRadio (radios : List Value) (override : ConfigurationOverride) : List Value :=
  match radioParameter (tokenize override.parameterName '.') with
  | some (index, parameter) =>
      match radios[strtoull index]?, overriddenMember parameter override.parameterValue with
      | some (.obj radio), some (name, value) =>
          radios.set (strtoull index) (.obj (Members.set radio name value))
      | _, _ => radios
  | none => radios

/-- The radios after the overrides of a list, one after the other. -/
def overrideRadios (overrides : List ConfigurationOverride) (radios : List Value) : List Value :=
  overrides.foldl overrideRadio radios

/-- The overrides have changed the radios and nothing else. -/
structure OverridesFolded (overrides : List ConfigurationOverride) (before after : Members) :
    Prop where
  radios : ∀ radios, before.lookup "radios" = some (.arr radios) →
    after.lookup "radios" = some (.arr (overrideRadios overrides radios))
  others : ∀ name, name ≠ "radios" → after.lookup name = before.lookup name

/-- The overrides have nothing to change in a radios section. -/
def NothingToOverride (overrides : List ConfigurationOverride) (found : Option Value) : Prop :=
  ∀ radios, found = some (.arr radios) → overrideRadios overrides radios = radios

theorem overridesFolded_self_iff {overrides : List ConfigurationOverride} {before : Members} :
    OverridesFolded overrides before before ↔
      NothingToOverride overrides (before.lookup "radios") := by
  constructor
  · intro folded radios found
    have after := folded.radios radios found
    rw [found] at after
    exact (Value.arr.inj (Option.some.inj after)).symm
  · intro nothing
    refine ⟨fun radios found => ?_, fun _ _ => rfl⟩
    rw [nothing radios found, found]

/-- An override that does not throw: it is for none of the radios that there are, or it is
malformed and no message is made. -/
def OverridePasses (env : RenderEnv) (radios : Option Value) (override : ConfigurationOverride) :
    Prop :=
  tokenize override.parameterName '.' ≠ [] ∧
    match radioParameter (tokenize override.parameterName '.') with
    | some (index, _) =>
        if strtoull index < maximumPossibleRadios then
          ∃ items, env.getArray radios = some items ∧ items.length ≤ strtoull index
        else
          env.errorLogged = false
    | none => env.errorLogged = false

/-- The first section of every name, with every block and endpoint that it names. -/
def expandedSection (env : RenderEnv) (fuel : ℕ) (config : List VerboseElement) (name : String) :
    Option Value :=
  (List.lookup name (config.flatMap (sectionsOf env))).bind fun value =>
    (replaceSection env true fuel value).toOption

/-- Every element has a text that parses to an object. -/
def AllParse (env : RenderEnv) (config : List VerboseElement) : Prop :=
  ∀ element ∈ config, ∃ members, env.parse element.element.configuration = some (.obj members)

/-- The first section of every name expands, with nothing missing. -/
def AllExpand (env : RenderEnv) (fuel : ℕ) (config : List VerboseElement) : Prop :=
  ∀ name value, List.lookup name (config.flatMap (sectionsOf env)) = some value →
    ∃ expanded, replaceSection env true fuel value = .ok expanded

/-- Nothing can go wrong with the elements and overrides of a device. -/
structure NothingFails (env : RenderEnv) (fuel : ℕ) (config : List VerboseElement)
    (overrides : List ConfigurationOverride) : Prop where
  parse : AllParse env config
  expand : AllExpand env fuel config
  pass : ∀ override ∈ overrides,
    OverridePasses env (expandedSection env fuel config "radios") override
  nothing : NothingToOverride overrides (expandedSection env fuel config "radios")

/-- A configuration made without an exception from all sections and overrides. -/
structure Complete (env : RenderEnv) (fuel : ℕ) (config : List VerboseElement)
    (overrides : List ConfigurationOverride) (made : Members × Option Halt) : Prop where
  parsed : AllParse env config
  noneThrown : made.2 = none
  assembled : ∃ sections : Members,
    (∀ name value, List.lookup name (config.flatMap (sectionsOf env)) = some value →
      ∃ expanded, replaceSection env true fuel value = .ok expanded ∧
        sections.lookup name = some expanded) ∧
    OverridesFolded overrides sections made.1

/-- `Get` answers true for complete configurations alone. -/
def NeverPartial (env : RenderEnv) (db : Store) (fuel : ℕ) (subject : APConfig.Subject)
    (config : List VerboseElement) : Prop :=
  ∀ configuration, APConfig.getConfiguration env db fuel subject = some (true, configuration) →
    Complete env fuel config ((env.overrides subject.serialNumber).getD [])
      (APConfig.build env fuel config ((env.overrides subject.serialNumber).getD []))

section Completeness

variable {env : RenderEnv} {fuel : ℕ} {config : List VerboseElement}
  {overrides : List ConfigurationOverride}

theorem overridePasses_iff {configuration : Members} {override : ConfigurationOverride} :
    OverridePasses env (configuration.lookup "radios") override ↔
      applyOverride env configuration override = .ok configuration := by
  have unsupported : env.errorLogged = false ↔
      misformattedError env configuration = .ok configuration := by
    unfold misformattedError
    cases env.errorLogged <;> simp
  unfold OverridePasses applyOverride
  by_cases noTokens : tokenize override.parameterName '.' = []
  · simp [noTokens]
  · rw [if_neg noTokens, and_iff_right noTokens]
    cases radioParameter (tokenize override.parameterName '.') with
    | none => exact unsupported
    | some place =>
        dsimp only
        by_cases inRange : strtoull place.1 < maximumPossibleRadios
        · rw [if_pos inRange, if_pos inRange]
          cases env.getArray (configuration.lookup "radios") with
          | none => simp
          | some radios =>
              dsimp only
              cases found : radios[strtoull place.1]? with
              | none => simpa using found
              | some radio =>
                  have inside := (List.getElem?_eq_some_iff.mp found).1
                  constructor
                  · rintro ⟨items, ⟨⟩, short⟩
                    omega
                  · rintro ⟨⟩
        · rw [if_neg inRange, if_neg inRange]
          exact unsupported

theorem run_overrides_eq_none_iff {configuration : Members} :
    (StoppedFold.run (applyOverride env) configuration overrides).2 = none ↔
      ∀ override ∈ overrides, OverridePasses env (configuration.lookup "radios") override := by
  induction overrides with
  | nil => simp [StoppedFold.run]
  | cons override overrides ih =>
      rw [List.forall_mem_cons, ← ih, overridePasses_iff]
      cases applied : applyOverride env configuration override with
      | ok next =>
          obtain rfl := applyOverride_eq_of_ok applied
          rw [StoppedFold.run_cons_ok applied]
          simp
      | error halt =>
          rw [StoppedFold.run_cons_error applied]
          simp

theorem expandedSection_eq_some_iff {name : String} {expanded : Value} :
    expandedSection env fuel config name = some expanded ↔
      ∃ value, List.lookup name (config.flatMap (sectionsOf env)) = some value ∧
        replaceSection env true fuel value = .ok expanded := by
  unfold expandedSection
  rw [Option.bind_eq_some_iff]
  refine exists_congr fun value => and_congr_right fun _ => ?_
  cases replaceSection env true fuel value with
  | ok other => simp [Except.toOption]
  | error halt => simp [Except.toOption]

theorem build_of_added {built : Built} (added : addElements env fuel {} config = (built, none)) :
    APConfig.build env fuel config overrides =
      StoppedFold.run (applyOverride env) built.configuration overrides := by
  unfold APConfig.build
  rw [added]

/-- When every element parses and every section expands, the sections are what the loop makes. -/
theorem addElements_of_allExpand (parse : AllParse env config)
    (expand : AllExpand env fuel config) :
    ∃ last, addElements env fuel {} config = (last, none) ∧
      ∀ name, last.configuration.lookup name = expandedSection env fuel config name := by
  have firsts : FirstsExpand env fuel (config.flatMap (sectionsOf env)) := by
    intro name value found
    obtain ⟨expanded, expands⟩ := expand name value found
    exact ⟨expanded, replaceSection_of_strict expands⟩
  obtain ⟨last, added, merged⟩ := (merged_empty env fuel).addElements config parse firsts
  refine ⟨last, added, fun name => ?_⟩
  rw [merged.taken, List.nil_append]
  unfold expandedSection
  cases found : List.lookup name (config.flatMap (sectionsOf env)) with
  | none => rfl
  | some value =>
      obtain ⟨expanded, expands⟩ := expand name value found
      rw [Option.bind_some, Option.bind_some, expands, replaceSection_of_strict expands]

theorem complete_iff :
    Complete env fuel config overrides (APConfig.build env fuel config overrides) ↔
      NothingFails env fuel config overrides := by
  constructor
  · rintro ⟨parse, noneThrown, sections, expand, folded⟩
    have allExpand : AllExpand env fuel config := by
      intro name value found
      obtain ⟨expanded, expands, -⟩ := expand name value found
      exact ⟨expanded, expands⟩
    obtain ⟨last, added, lookups⟩ := addElements_of_allExpand parse allExpand
    rw [build_of_added added] at noneThrown folded
    rw [run_overrides_eq] at folded
    refine ⟨parse, allExpand, ?_, fun radios found => ?_⟩
    · rw [← lookups]
      exact run_overrides_eq_none_iff.mp noneThrown
    · obtain ⟨value, first, expands⟩ := expandedSection_eq_some_iff.mp found
      obtain ⟨expanded, same, before⟩ := expand "radios" value first
      obtain rfl := Except.ok.inj (same.symm.trans expands)
      have after := folded.radios radios before
      rw [lookups, found] at after
      exact (Value.arr.inj (Option.some.inj after)).symm
  · intro nothingFails
    obtain ⟨last, added, lookups⟩ :=
      addElements_of_allExpand nothingFails.parse nothingFails.expand
    rw [build_of_added added]
    refine ⟨nothingFails.parse, ?_, last.configuration, ?_, ?_⟩
    · rw [run_overrides_eq_none_iff, lookups]
      exact nothingFails.pass
    · intro name value found
      obtain ⟨expanded, expands⟩ := nothingFails.expand name value found
      exact ⟨expanded, expands,
        (lookups name).trans (expandedSection_eq_some_iff.mpr ⟨value, found, expands⟩)⟩
    · rw [run_overrides_eq, overridesFolded_self_iff, lookups]
      exact nothingFails.nothing

end Completeness

theorem getConfiguration_eq {env : RenderEnv} {db : Store} {fuel : ℕ}
    {subject : APConfig.Subject} {apConfig : APConfig} {answer : Bool × Members}
    (collected : APConfig.collect db fuel subject = some apConfig)
    (ended : APConfig.getConfiguration env db fuel subject = some answer) :
    answer.1 = !apConfig.config.isEmpty := by
  rw [getConfiguration_of_collect collected] at ended
  split at ended
  · cases ended
  · exact congrArg Prod.fst (Option.some.inj ended).symm

/-- `Get` that ends never answers true for a partial configuration exactly when there is nothing to
send or nothing can go wrong with it. -/
theorem neverPartial_iff {env : RenderEnv} {db : Store} {fuel : ℕ} {subject : APConfig.Subject}
    {apConfig : APConfig} {answer : Bool × Members}
    (collected : APConfig.collect db fuel subject = some apConfig)
    (ended : APConfig.getConfiguration env db fuel subject = some answer) :
    NeverPartial env db fuel subject apConfig.config ↔
      apConfig.config = [] ∨
        NothingFails env fuel apConfig.config
          ((env.overrides subject.serialNumber).getD []) := by
  have answered := getConfiguration_eq collected ended
  unfold NeverPartial
  rw [ended, complete_iff]
  constructor
  · intro only
    by_cases bare : apConfig.config = []
    · exact .inl bare
    · have isTrue : answer.1 = true := by
        rw [answered]
        simpa using bare
      exact .inr (only answer.2 (by rw [← isTrue]))
  · rintro (bare | nothingFails) configuration isTrue
    · rw [bare] at answered
      obtain rfl := Option.some.inj isTrue
      cases answered
    · exact nothingFails

theorem mergedElements_never_partial :
    NeverPartial plainEnv (configuredStore twoElements) 3 configuredDevice mergedElements := by
  have collected : APConfig.collect (configuredStore twoElements) 3 configuredDevice =
      some { deviceType := "edgecore_eap101", config := mergedElements } := by
    decide
  refine (neverPartial_iff collected rfl).mpr (.inr ?_)
  exact
    { parse := mergedElements_parsed
      expand := mergedElements_expand true
      pass := by simp [plainEnv]
      nothing := fun _ _ => rfl }

/-- The text of a section that takes its members from a block. -/
def blockTexts (text : String) : Option Members :=
  if text = "services" then some [("services", .obj [("__variableBlock", .str "gone")])] else none

def blockElements : List DeviceConfigurationElement :=
  [{ configuration := "services" }]

/-- The block is not stored, and an empty section is sent. -/
theorem missing_block_sent :
    ¬NeverPartial { plainEnv with parse := sectionTexts blockTexts } (configuredStore blockElements)
      3 configuredDevice (blockElements.map fun element => ⟨element, { id := "c-1" }⟩) := by
  intro only
  obtain ⟨-, -, sections, expand, -⟩ := only [("services", .obj [])] rfl
  obtain ⟨expanded, expands, -⟩ :=
    expand "services" (.obj [("__variableBlock", .str "gone")]) rfl
  cases expands

end Owprov
