import Owprov.ConfigurationText
import Owprov.DanglingReferences
import Owprov.Lib.RefusedWrites

/-!
# Configuration overrides

The overrides of a device come from several sources, whose entries share one list.  A request
rewrites or removes the entries of its own source.  The table is no part of the other handlers.
-/

namespace Owprov

open RowTable

/-- A `ConfigurationOverride` with the members that the handlers read. -/
structure SourcedOverride extends ConfigurationOverride where
  source : String := ""
  reason : String := ""
  parameterType : String := ""
  modified : ℕ := 0
  deriving DecidableEq, Repr

/-- A `ConfigurationOverrideList` with its lines. -/
structure SourcedOverrideList extends ConfigurationOverrideList where
  overrides : List SourcedOverride := []
  deriving DecidableEq, Repr

instance : Keyed SourcedOverrideList String where
  key list := list.serialNumber

/-- `ConfigurationOverride::from_json`; the time of an entry is set when it is accepted. -/
def SourcedOverride.fromJson (obj : JsonObject) : SourcedOverride where
  source := obj.stringField "source"
  reason := obj.stringField "reason"
  parameterName := obj.stringField "parameterName"
  parameterType := obj.stringField "parameterType"
  parameterValue := obj.stringField "parameterValue"

/-- `ConfigurationOverrideList::from_json`. -/
def SourcedOverrideList.fromJson (body : JsonObject) :
    Except Failure SourcedOverrideList :=
  orInvalid do
    let overrides ← body.objectsField "overrides"
    return {
      serialNumber := body.stringField "serialNumber"
      managementPolicy := body.stringField "managementPolicy"
      overrides := overrides.map SourcedOverride.fromJson }

/-! ## The handlers -/

/-- The writes of an update that the database may refuse. -/
inductive OverrideWrite where
  | create
  | update
  deriving DecidableEq

/-- The table after a request and how the request ended. -/
structure OverridesOutcome where
  table : Table SourcedOverrideList
  result : Except Failure Unit

/-- The device and the source that a request is about. -/
def overridesTarget (request : Request) : Except Failure (String × String) := do
  let (serialNumber, isMac) := normalizeMac (request.getBinding "serialNumber")
  require isMac (.badRequest .invalidSerialNumber)
  let source := request.getParameter "source"
  require (source != "") (.badRequest .missingOrInvalidParameters)
  return (serialNumber, source)

/-- The entries of the other sources. -/
def removeSource (source : String) (overrides : List SourcedOverride) :
    List SourcedOverride :=
  overrides.filter fun entry => entry.source != source

/-- `RESTAPI_overrides_handler::DoDelete`. -/
def overridesDoDelete (refuses : Bool) (table : Table SourcedOverrideList)
    (request : Request) : OverridesOutcome :=
  match overridesTarget request with
  | .error failure => ⟨table, .error failure⟩
  | .ok (serialNumber, source) =>
      match table.get? serialNumber with
      | none => ⟨table, .error .notFound⟩
      | some existing =>
          match table.updateUnless refuses
              { existing with overrides := removeSource source existing.overrides } with
          | none => ⟨table, .error (.badRequest .noRecordsDeleted)⟩
          | some updated => ⟨updated, .ok ()⟩

def knownParameterType (parameterType : String) : Bool :=
  parameterType == "string" || parameterType == "boolean" || parameterType == "integer"

/-- The loop over the entries of a body: an entry without a name is skipped, one of an unknown
type ends the request. -/
def acceptOverrides (now : ℕ) (source : String) :
    List SourcedOverride → Except Failure (List SourcedOverride)
  | [] => .ok []
  | entry :: entries =>
      if entry.parameterName = "" then
        acceptOverrides now source entries
      else if knownParameterType entry.parameterType then do
        let accepted ← acceptOverrides now source entries
        return { entry with source := source, modified := now } :: accepted
      else
        .error (.badRequest .missingOrInvalidParameters)

/-- The end of an update: the accepted entries follow the ones that are kept. -/
def storeOverrides (refuses : OverrideWrite → Bool) (now : ℕ)
    (table : Table SourcedOverrideList) (existing : SourcedOverrideList)
    (source : String) (entries : List SourcedOverride) : OverridesOutcome :=
  match acceptOverrides now source entries with
  | .error failure => ⟨table, .error failure⟩
  | .ok accepted =>
      match table.updateUnless (refuses .update)
          { existing with overrides := existing.overrides ++ accepted } with
      | none => ⟨table, .error (.badRequest .recordNotUpdated)⟩
      | some updated => ⟨updated, .ok ()⟩

/-- The checks of `RESTAPI_overrides_handler::DoPut` before it looks for the device. -/
def overridesDoPutPlan (request : Request) :
    Except Failure (String × String × List SourcedOverride) := do
  let (serialNumber, source) ← overridesTarget request
  let body ← request.jsonBody
  let newObject ← SourcedOverrideList.fromJson body
  return (serialNumber, source, newObject.overrides)

/-- `RESTAPI_overrides_handler::DoPut`. -/
def overridesDoPut (refuses : OverrideWrite → Bool) (now : ℕ)
    (table : Table SourcedOverrideList) (request : Request) : OverridesOutcome :=
  match overridesDoPutPlan request with
  | .error failure => ⟨table, .error failure⟩
  | .ok (serialNumber, source, entries) =>
      match table.get? serialNumber with
      | none =>
          -- nobody asks whether the new record was created
          let created : SourcedOverrideList := { serialNumber := serialNumber }
          storeOverrides refuses now
            ((table.insertUnless (refuses .create) created).getD table) created source entries
      | some existing =>
          storeOverrides refuses now table
            { existing with overrides := removeSource source existing.overrides } source entries

/-! ## The entries of a source -/

section Entries

variable {source : String}

theorem removeSource_append (source : String) (first second : List SourcedOverride) :
    removeSource source (first ++ second) =
      removeSource source first ++ removeSource source second :=
  List.filter_append first second

theorem removeSource_removeSource (source : String) (entries : List SourcedOverride) :
    removeSource source (removeSource source entries) = removeSource source entries := by
  simp [removeSource]

/-- The entries of one source. -/
def ofSource (source : String) (entries : List SourcedOverride) :
    List SourcedOverride :=
  entries.filter fun entry => entry.source == source

theorem ofSource_removeSource (source : String) (entries : List SourcedOverride) :
    ofSource source (removeSource source entries) = [] := by
  simp [ofSource, removeSource, List.filter_filter]

/-- The entries of a body that have a name, under the source and the time of the request. -/
def namedEntries (now : ℕ) (source : String) (entries : List SourcedOverride) :
    List SourcedOverride :=
  (entries.filter fun entry => entry.parameterName != "").map fun entry =>
    { entry with source := source, modified := now }

theorem source_of_mem_namedEntries {now : ℕ} {entries : List SourcedOverride}
    {entry : SourcedOverride} (member : entry ∈ namedEntries now source entries) :
    entry.source = source := by
  obtain ⟨_, _, rfl⟩ := List.mem_map.mp member
  rfl

theorem ofSource_namedEntries (now : ℕ) (source : String)
    (entries : List SourcedOverride) :
    ofSource source (namedEntries now source entries) = namedEntries now source entries := by
  rw [ofSource, List.filter_eq_self]
  intro entry member
  rw [source_of_mem_namedEntries member, beq_self_eq_true]

theorem removeSource_namedEntries (now : ℕ) (source : String)
    (entries : List SourcedOverride) :
    removeSource source (namedEntries now source entries) = [] := by
  rw [removeSource, List.filter_eq_nil_iff]
  intro entry member
  rw [source_of_mem_namedEntries member, bne_self_eq_false]
  decide

/-- Every entry that has a name has a known type. -/
def AllTyped (entries : List SourcedOverride) : Prop :=
  ∀ entry ∈ entries, entry.parameterName ≠ "" → knownParameterType entry.parameterType = true

instance (entries : List SourcedOverride) : Decidable (AllTyped entries) :=
  inferInstanceAs (Decidable (∀ entry ∈ entries, _ → _))

/-- The entries are accepted when all of those with a name have a known type. -/
theorem acceptOverrides_eq (now : ℕ) (source : String) (entries : List SourcedOverride) :
    acceptOverrides now source entries =
      if AllTyped entries then .ok (namedEntries now source entries)
      else .error (.badRequest .missingOrInvalidParameters) := by
  induction entries with
  | nil => simp [acceptOverrides, AllTyped, namedEntries]
  | cons entry entries ih =>
      have typed : AllTyped (entry :: entries) ↔
          (entry.parameterName ≠ "" → knownParameterType entry.parameterType = true) ∧
            AllTyped entries := List.forall_mem_cons
      rw [acceptOverrides, ih]
      by_cases unnamed : entry.parameterName = ""
      · simp [unnamed, typed, namedEntries]
      · by_cases known : knownParameterType entry.parameterType = true
        · by_cases rest : AllTyped entries <;>
            simp [unnamed, known, rest, typed, namedEntries, bind, Except.bind, pure, Except.pure]
        · simp [unnamed, known, typed]

end Entries

/-! ## Isolation of the sources -/

/-- The entries of a device, which has none without a record. -/
def entriesOf (table : Table SourcedOverrideList) (serialNumber : String) :
    List SourcedOverride :=
  ((table.get? serialNumber).map SourcedOverrideList.overrides).getD []

/-- The entries of the source are replaced, those of other sources and of other devices are as
they were. -/
structure ReplacesSource (table table' : Table SourcedOverrideList)
    (serialNumber source : String) (entries : List SourcedOverride) : Prop where
  replaced : ofSource source (entriesOf table' serialNumber) = entries
  others : removeSource source (entriesOf table' serialNumber) =
    removeSource source (entriesOf table serialNumber)
  elsewhere : ∀ other, other ≠ serialNumber → table'.get? other = table.get? other

/-- An update replaces the entries of its source by the accepted ones of its body, or is
answered with an error and leaves the table alone. -/
def PutIsolated (now : ℕ) (table : Table SourcedOverrideList) (request : Request)
    (outcome : OverridesOutcome) : Prop :=
  match outcome.result with
  | .error _ => outcome.table = table
  | .ok () =>
      ∀ serialNumber source entries,
        overridesDoPutPlan request = .ok (serialNumber, source, entries) →
          ReplacesSource table outcome.table serialNumber source (namedEntries now source entries)

/-- A deletion removes the entries of its source, or is answered with an error and leaves the
table alone. -/
def DeleteIsolated (table : Table SourcedOverrideList) (request : Request)
    (outcome : OverridesOutcome) : Prop :=
  match outcome.result with
  | .error _ => outcome.table = table
  | .ok () =>
      ∀ serialNumber source, overridesTarget request = .ok (serialNumber, source) →
        ReplacesSource table outcome.table serialNumber source []

/-- What has to hold of an update for a device without a record: that the record which it
creates is also filled, or that the record which is not created is not needed. -/
def FillsNewRecord (refuses : OverrideWrite → Bool) (entries : List SourcedOverride) :
    Prop :=
  if refuses .create then
    ¬ AllTyped entries ∨ refuses .update = true ∨ ∀ entry ∈ entries, entry.parameterName = ""
  else
    AllTyped entries ∧ refuses .update = false

/-- When an update finds no record of its device, it is able to fill a new one. -/
def CompletesCreation (refuses : OverrideWrite → Bool) (table : Table SourcedOverrideList)
    (request : Request) : Prop :=
  ∀ serialNumber source entries,
    overridesDoPutPlan request = .ok (serialNumber, source, entries) →
      table.get? serialNumber = none → FillsNewRecord refuses entries

section Isolation

variable {refuses : OverrideWrite → Bool} {now : ℕ} {table : Table SourcedOverrideList}
  {request : Request} {serialNumber source : String} {entries : List SourcedOverride}

/-- A new version of a record that keeps the entries of the other sources. -/
theorem ReplacesSource.of_update {existing : SourcedOverrideList}
    {kept : List SourcedOverride} (found : table.get? serialNumber = some existing)
    (own : ofSource source kept = entries)
    (others : removeSource source kept = removeSource source existing.overrides) :
    ReplacesSource table (table.update { existing with overrides := kept }) serialNumber source
      entries := by
  obtain rfl : existing.serialNumber = serialNumber := Table.key_of_get? found
  have after : (table.update { existing with overrides := kept }).get? existing.serialNumber =
      some { existing with overrides := kept } := Table.get?_update_self found
  constructor
  case replaced => rw [entriesOf, after, Option.map_some, Option.getD_some, own]
  case others =>
    rw [entriesOf, after, entriesOf, found, Option.map_some, Option.map_some, Option.getD_some,
      Option.getD_some, others]
  case elsewhere =>
    intro other differs
    exact Table.get?_update_of_ne _ differs

theorem ofSource_append (source : String) (first second : List SourcedOverride) :
    ofSource source (first ++ second) = ofSource source first ++ ofSource source second :=
  List.filter_append first second

/-- An update of a device that has a record leaves the table alone or replaces the entries of
its source. -/
theorem putIsolated_of_found {existing : SourcedOverrideList}
    (planned : overridesDoPutPlan request = .ok (serialNumber, source, entries))
    (found : table.get? serialNumber = some existing) :
    PutIsolated now table request (overridesDoPut refuses now table request) := by
  simp only [overridesDoPut, planned, found, storeOverrides, acceptOverrides_eq]
  by_cases typed : AllTyped entries
  · rw [if_pos typed]
    cases refuses .update with
    | true => rfl
    | false =>
        intro serialNumber' source' entries' planned'
        obtain ⟨rfl, rfl, rfl⟩ := by simpa using planned.symm.trans planned'
        dsimp only
        apply ReplacesSource.of_update found
        · rw [ofSource_append, ofSource_removeSource, ofSource_namedEntries, List.nil_append]
        · rw [removeSource_append, removeSource_removeSource, removeSource_namedEntries,
            List.append_nil]
  · rw [if_neg typed]
    rfl

/-- A record that is not created is not needed when no entry has a name. -/
theorem replacesSource_self_iff (missing : table.get? serialNumber = none) :
    ReplacesSource table table serialNumber source (namedEntries now source entries) ↔
      ∀ entry ∈ entries, entry.parameterName = "" := by
  have empty : entriesOf table serialNumber = [] := by
    rw [entriesOf, missing, Option.map_none, Option.getD_none]
  constructor
  · intro isolated entry member
    have replaced := isolated.replaced.symm
    rw [empty, ofSource, List.filter_nil, namedEntries, List.map_eq_nil_iff,
      List.filter_eq_nil_iff] at replaced
    simpa using replaced entry member
  · intro unnamed
    constructor
    case replaced =>
      have nothing : namedEntries now source entries = [] := by
        rw [namedEntries, List.map_eq_nil_iff, List.filter_eq_nil_iff]
        exact fun entry member => by simp [unnamed entry member]
      rw [empty, nothing]
      rfl
    case others => rfl
    case elsewhere => exact fun _ _ => rfl

/-- A new record that is filled. -/
theorem replacesSource_of_created {created : Table SourcedOverrideList}
    (inserted : table.insert? { serialNumber := serialNumber } = some created) :
    ReplacesSource table
      (created.update { serialNumber := serialNumber, overrides := namedEntries now source entries })
      serialNumber source (namedEntries now source entries) := by
  have missing : table.get? serialNumber = none := Table.get?_key_of_insert? inserted
  have found : created.get? serialNumber = some { serialNumber := serialNumber } :=
    (Table.get?_insert? inserted serialNumber).trans (if_pos rfl)
  have filled : ReplacesSource created
      (created.update
        { serialNumber := serialNumber, overrides := namedEntries now source entries })
      serialNumber source (namedEntries now source entries) :=
    ReplacesSource.of_update found (ofSource_namedEntries now source entries)
      (removeSource_namedEntries now source entries)
  constructor
  case replaced => exact filled.replaced
  case others =>
    rw [filled.others, entriesOf, found, entriesOf, missing]
    rfl
  case elsewhere =>
    intro other differs
    rw [filled.elsewhere other differs, Table.get?_insert? inserted]
    exact if_neg differs

/-- An update of a device without a record has to fill the record that it creates. -/
theorem putIsolated_iff_of_missing
    (planned : overridesDoPutPlan request = .ok (serialNumber, source, entries))
    (missing : table.get? serialNumber = none) :
    PutIsolated now table request (overridesDoPut refuses now table request) ↔
      FillsNewRecord refuses entries := by
  obtain ⟨created, inserted⟩ : ∃ created,
      table.insert? ({ serialNumber := serialNumber } : SourcedOverrideList) =
        some created := Table.insert?_isSome missing
  have changed : created ≠ table := Table.ne_of_insert? inserted
  have named : ∀ {table' : Table SourcedOverrideList},
      (∀ serialNumber' source' entries',
        overridesDoPutPlan request = .ok (serialNumber', source', entries') →
          ReplacesSource table table' serialNumber' source'
            (namedEntries now source' entries')) ↔
        ReplacesSource table table' serialNumber source (namedEntries now source entries) := by
    intro table'
    constructor
    · exact fun isolated => isolated _ _ _ planned
    · intro isolated serialNumber' source' entries' planned'
      obtain ⟨rfl, rfl, rfl⟩ := by simpa using planned.symm.trans planned'
      exact isolated
  simp only [overridesDoPut, planned, missing, storeOverrides, acceptOverrides_eq, FillsNewRecord]
  cases refusesCreate : refuses .create with
  | true =>
      have notStored : table.insertUnless true { serialNumber := serialNumber } = none := rfl
      rw [notStored, Option.getD_none, if_pos rfl]
      by_cases typed : AllTyped entries
      · rw [if_pos typed]
        cases refuses .update with
        | true => simp [PutIsolated, Table.updateUnless]
        | false =>
            have unchanged : table.update
                { serialNumber := serialNumber, overrides := namedEntries now source entries } =
                  table := Table.update_of_missing missing
            simp only [PutIsolated, Table.updateUnless_false, List.nil_append, unchanged, named]
            rw [replacesSource_self_iff missing]
            simp [typed]
      · simp [PutIsolated, typed]
  | false =>
      rw [Table.insertUnless_false, inserted, Option.getD_some, if_neg Bool.false_ne_true]
      by_cases typed : AllTyped entries
      · rw [if_pos typed]
        cases refuses .update with
        | true => simp [PutIsolated, Table.updateUnless, changed]
        | false =>
            simp only [PutIsolated, Table.updateUnless_false, List.nil_append, named]
            simpa [typed] using replacesSource_of_created inserted
      · simp [PutIsolated, typed, changed]

end Isolation

theorem putIsolated_iff (refuses : OverrideWrite → Bool) (now : ℕ)
    (table : Table SourcedOverrideList) (request : Request) :
    PutIsolated now table request (overridesDoPut refuses now table request) ↔
      CompletesCreation refuses table request := by
  cases planned : overridesDoPutPlan request with
  | error failure =>
      simp [overridesDoPut, planned, PutIsolated, CompletesCreation]
  | ok plan =>
      obtain ⟨serialNumber, source, entries⟩ := plan
      have completes : CompletesCreation refuses table request ↔
          (table.get? serialNumber = none → FillsNewRecord refuses entries) := by
        constructor
        · exact fun completes => completes _ _ _ planned
        · intro fills serialNumber' source' entries' planned'
          obtain ⟨rfl, rfl, rfl⟩ := by simpa using planned.symm.trans planned'
          exact fills
      rw [completes]
      cases found : table.get? serialNumber with
      | none => simpa using putIsolated_iff_of_missing planned found
      | some existing => simpa using putIsolated_of_found planned found

/-- A deletion leaves the table alone or removes the entries of its source. -/
theorem overridesDoDelete_isolated (refuses : Bool) (table : Table SourcedOverrideList)
    (request : Request) :
    DeleteIsolated table request (overridesDoDelete refuses table request) := by
  cases target : overridesTarget request with
  | error failure => simp [overridesDoDelete, target, DeleteIsolated]
  | ok pair =>
      obtain ⟨serialNumber, source⟩ := pair
      simp only [overridesDoDelete, target]
      cases found : table.get? serialNumber with
      | none => rfl
      | some existing =>
          cases refuses with
          | true => rfl
          | false =>
              intro serialNumber' source' target'
              obtain ⟨rfl, rfl⟩ := by simpa using target.symm.trans target'
              exact .of_update found (ofSource_removeSource _ _) (removeSource_removeSource _ _)

/-- The entries of a source are isolated from the others, unless a request creates a record that
it then cannot fill. -/
theorem overrides_isolated_iff (refuses : OverrideWrite → Bool) (now : ℕ)
    (table : Table SourcedOverrideList) (request : Request) :
    (PutIsolated now table request (overridesDoPut refuses now table request) ↔
        CompletesCreation refuses table request) ∧
      ∀ refuses, DeleteIsolated table request (overridesDoDelete refuses table request) :=
  ⟨putIsolated_iff refuses now table request,
    fun refuses => overridesDoDelete_isolated refuses table request⟩

/-- A request that sets the transmission power of a device with a type that is not known. -/
def mistypedRequest : Request where
  method := .put
  uri := "/api/v1/configurationOverrides/aabbccddeeff"
  bindings := [("serialnumber", "aabbccddeeff")]
  parameters := [("source", "rrm")]
  body := some [("overrides", .arr
    [.obj [("parameterName", .str "tx-power"), ("parameterType", .str "float"),
      ("parameterValue", .str "10.5")] "\x7b\x7d"] "[\x7b\x7d]")]

/-- The update of a device without a record is refused, and leaves a record behind. -/
theorem record_left_by_refused_update :
    ¬ ∀ refuses now table request,
      PutIsolated now table request (overridesDoPut refuses now table request) ∧
        ∀ refuses, DeleteIsolated table request (overridesDoDelete refuses table request) := by
  intro claim
  have left := (claim (fun _ => false) 0 .empty mistypedRequest).1
  have refused : (overridesDoPut (fun _ => false) 0 .empty mistypedRequest).result =
      .error (.badRequest .missingOrInvalidParameters) := by decide
  have stored : (overridesDoPut (fun _ => false) 0 .empty mistypedRequest).table.rows.length = 1 := by
    decide
  rw [PutIsolated, refused] at left
  rw [show (overridesDoPut (fun _ => false) 0 .empty mistypedRequest).table = .empty from left]
    at stored
  cases stored

end Owprov
