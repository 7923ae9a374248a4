import Owprov.Lib.JsonValues
import Owprov.Lib.StoppedFold
import Owprov.Lib.WeightedInsertion
import Owprov.InheritedLevels
import Owprov.SerialNumbers

/-!
# The configuration of a device

`APConfig::Get` collects the configuration elements of a device in the order of their weights,
takes every section from the first element that has it, replaces the variables in it and applies
the overrides of the device.  The replacement follows references to stored blocks of variables;
it takes fuel and halts when that runs out.
-/

namespace Owprov

open JsonValues RowTable

/-! ## Values of variables -/

/-- What a computation ends with instead of a value. -/
inductive Halt where
  /-- An exception. -/
  | thrown
  /-- No fuel is left. -/
  | exhausted
  deriving DecidableEq, Repr

/-- One line of a `ConfigurationOverrideList`. -/
structure ConfigurationOverride where
  parameterName : String
  parameterValue : String := ""
  deriving DecidableEq, Repr

/-- What a configuration is made with: Poco's JSON parser and the text it gives of a value, the
stored blocks of variables, RADIUS endpoints and overrides, and which messages the logger takes. -/
structure RenderEnv where
  parse : String → Option Value
  text : Value → String
  /-- The values of the variables of a block. -/
  block : String → Option (List String)
  /-- `InsertRadiusEndPoint` for a stored endpoint, when it does not throw. -/
  endpoint : String → Option (Members → Option Members)
  overrides : String → Option (List ConfigurationOverride)
  /-- Whether `getArray` also finds an array that is held by value. -/
  arraysByValue : Bool := false
  errorLogged : Bool := true
  warningLogged : Bool := true

/-- The conversion of a value to a string, which throws on null. -/
def RenderEnv.toText (env : RenderEnv) : Value → Except Halt String
  | .null => .error .thrown
  | .str text => .ok text
  | value => .ok (env.text value)

/-- A member of an object after the replacement; an empty array is left out. -/
def replaceMember (array : List Value → Except Halt (List Value))
    (object : Members → Except Halt Members) (result : Members) (member : String × Value) :
    Except Halt Members :=
  match member.2 with
  | .arr [] => .ok result
  | .arr (first :: rest) => do
      let expanded ← array (first :: rest)
      .ok (result.set member.1 (.arr expanded))
  | .obj members => do
      let expanded ← object members
      .ok (result.set member.1 (.obj expanded))
  | value => .ok (result.set member.1 value)

/-- An element of an array after the replacement; an empty array is left out. -/
def replaceElement (array : List Value → Except Halt (List Value))
    (object : Members → Except Halt Members) (result : List Value) :
    Value → Except Halt (List Value)
  | .arr [] => .ok result
  | .arr (first :: rest) => do
      let expanded ← array (first :: rest)
      .ok (result ++ [.arr expanded])
  | .obj members => do
      let expanded ← object members
      .ok (result ++ [.obj expanded])
  | .null => .error .thrown
  | value => .ok (result ++ [value])

/-- One variable of a block: the members of its value are set in the result. -/
def replaceVariable (env : RenderEnv) (array : List Value → Except Halt (List Value))
    (object : Members → Except Halt Members) (result : Members) (value : String) :
    Except Halt Members :=
  match env.parse value with
  | some (.obj members) => members.foldlM (replaceMember array object) result
  | _ => .error .thrown

/-- The blocks that a `__variableBlock` names, one or several. -/
def replaceBlocks (env : RenderEnv) (nested : String → Members → Except Halt Members)
    (result : Members) : Value → Except Halt Members
  | .arr uuids =>
      uuids.foldlM (fun result value => do
        let uuid ← env.toText value
        nested uuid result) result
  | value => do
      let uuid ← env.toText value
      nested uuid result

/-- A member of an object; an endpoint that is not stored ends the object, unless its message
throws, which has a place and no argument. -/
def replaceObjectMember (env : RenderEnv) (strict : Bool)
    (nested : String → Members → Except Halt Members)
    (array : List Value → Except Halt (List Value)) (object : Members → Except Halt Members)
    (state : Members × Bool) (member : String × Value) : Except Halt (Members × Bool) :=
  if state.2 then
    .ok state
  else if member.1 = "__variableBlock" then do
    let result ← replaceBlocks env nested state.1 member.2
    .ok (result, false)
  else if member.1 = "__radiusEndpoint" then do
    let id ← env.toText member.2
    match env.endpoint id with
    | some insert =>
        match insert state.1 with
        | some result => .ok (result, false)
        | none => .error .thrown
    | none => if strict || env.errorLogged then .error .thrown else .ok (state.1, true)
  else do
    let result ← replaceMember array object state.1 member
    .ok (result, false)

mutual

/-- `ReplaceNestedVariables`.  A block that is not stored is passed over, unless `strict`. -/
def replaceNestedVariables (env : RenderEnv) (strict : Bool) :
    ℕ → String → Members → Except Halt Members
  | 0, _, _ => .error .exhausted
  | fuel + 1, uuid, result =>
      match env.block uuid with
      | none => if strict then .error .thrown else .ok result
      | some values =>
          values.foldlM (replaceVariable env (replaceVariablesInArray env strict fuel)
            (replaceVariablesInObject env strict fuel)) result

/-- `ReplaceVariablesInObject`, whose answer no caller looks at. -/
def replaceVariablesInObject (env : RenderEnv) (strict : Bool) : ℕ → Members → Except Halt Members
  | 0, _ => .error .exhausted
  | fuel + 1, original => do
      let state ← original.foldlM (replaceObjectMember env strict
        (replaceNestedVariables env strict fuel) (replaceVariablesInArray env strict fuel)
        (replaceVariablesInObject env strict fuel)) ([], false)
      .ok state.1

/-- `ReplaceVariablesInArray`. -/
def replaceVariablesInArray (env : RenderEnv) (strict : Bool) :
    ℕ → List Value → Except Halt (List Value)
  | 0, _ => .error .exhausted
  | fuel + 1, original =>
      original.foldlM (replaceElement (replaceVariablesInArray env strict fuel)
        (replaceVariablesInObject env strict fuel)) []

end

/-! ## Sections -/

/-- A section after the replacement; only arrays and objects are sections. -/
def replaceSection (env : RenderEnv) (strict : Bool) (fuel : ℕ) : Value → Except Halt Value
  | .arr items => do
      let expanded ← replaceVariablesInArray env strict fuel items
      .ok (.arr expanded)
  | .obj members => do
      let expanded ← replaceVariablesInObject env strict fuel members
      .ok (.obj expanded)
  | _ => .error .thrown

/-- The names of the sections that were met and the configuration so far. -/
structure Built where
  sections : List String := []
  configuration : Members := []

/-- The first element that has a section decides it.  A section of another type is met and left
out; the text of a null section throws when the warning is made. -/
def addSection (env : RenderEnv) (fuel : ℕ) (built : Built) (member : String × Value) :
    Except Halt Built :=
  if member.1 ∈ built.sections then
    .ok built
  else
    match member.2 with
    | .arr items => do
        let expanded ← replaceSection env false fuel (.arr items)
        .ok { sections := member.1 :: built.sections
              configuration := built.configuration.set member.1 expanded }
    | .obj members => do
        let expanded ← replaceSection env false fuel (.obj members)
        .ok { sections := member.1 :: built.sections
              configuration := built.configuration.set member.1 expanded }
    | other => do
        if env.warningLogged then
          let _ ← env.toText other
        .ok { built with sections := member.1 :: built.sections }

/-- The sections of the elements, until an exception. -/
def addElements (env : RenderEnv) (fuel : ℕ) : Built → List VerboseElement → Built × Option Halt
  | built, [] => (built, none)
  | built, element :: elements =>
      match env.parse element.element.configuration with
      | some (.obj members) =>
          match StoppedFold.run (addSection env fuel) built members with
          | (next, none) => addElements env fuel next elements
          | (next, some halt) => (next, some halt)
      | _ => (built, some .thrown)

/-! ## Overrides -/

/-- `MaximumPossibleRadios`. -/
def maximumPossibleRadios : ℕ := 6

/-- `strtoull` in base 10. -/
def strtoull (text : String) : ℕ :=
  let (negative, unsigned) := signOf (text.toList.dropWhile isSpace)
  let magnitude := Nat.ofDigitChars 10 (unsigned.takeWhile Char.isDigit) 0
  if 2 ^ 64 ≤ magnitude then 2 ^ 64 - 1
  else if negative then (2 ^ 64 - magnitude) % 2 ^ 64
  else magnitude

/-- `extract<Object::Ptr>` on an element of the radios.  These were added to the section as
objects and plain values, never as pointers, and `extract` throws on any other type. -/
def extractRadio (_radio : Value) : Except Halt Members :=
  .error .thrown

/-- `getArray` for a member of the configuration, whose arrays are held by value. -/
def RenderEnv.getArray (env : RenderEnv) : Option Value → Option (List Value)
  | some (.arr items) => if env.arraysByValue then some items else none
  | _ => none

/-- An error message with two places and one argument, which throws when it is made. -/
def misformattedError (env : RenderEnv) (configuration : Members) : Except Halt Members :=
  if env.errorLogged then .error .thrown else .ok configuration

/-- The parameter of a radio that an override sets, and its value. -/
def overriddenMember (parameter value : String) : Option (String × Value) :=
  if parameter = "tx-power" then some ("tx-power", .num (strtoull value))
  else if parameter = "channel" then
    some ("channel", if value = "auto" then .str "auto" else .num (strtoull value))
  else none

/-- The index and the parameter of an override for a radio. -/
def radioParameter : List String → Option (String × String)
  | [first, index, parameter] => if first = "radios" then some (index, parameter) else none
  | _ => none

/-- One override of a device.  Where no array is found it is a null pointer. -/
def applyOverride (env : RenderEnv) (configuration : Members) (override : ConfigurationOverride) :
    Except Halt Members :=
  if tokenize override.parameterName '.' = [] then
    .error .thrown
  else
    match radioParameter (tokenize override.parameterName '.') with
    | some (index, parameter) =>
        if strtoull index < maximumPossibleRadios then
          match env.getArray (configuration.lookup "radios") with
          | some radios =>
              match radios[strtoull index]? with
              | none => .ok configuration
              | some radio => do
                  let indexedRadio ← extractRadio radio
                  match overriddenMember parameter override.parameterValue with
                  | some (name, value) =>
                      let changed := indexedRadio.set name value
                      .ok (configuration.set "radios"
                        (.arr (radios.set (strtoull index) (.obj changed))))
                  | none => misformattedError env configuration
          | none => .error .thrown
        else
          misformattedError env configuration
    | none => misformattedError env configuration

/-! ## The configuration -/

namespace APConfig

/-- The configuration that the elements and overrides make, and the exception that ended it. -/
def build (env : RenderEnv) (fuel : ℕ) (config : List VerboseElement)
    (overrides : List ConfigurationOverride) : Members × Option Halt :=
  match addElements env fuel {} config with
  | (built, some halt) => (built.configuration, some halt)
  | (built, none) => StoppedFold.run (applyOverride env) built.configuration overrides

/-- What a device is identified by: a record of the inventory or a device of a subscriber. -/
inductive Subject where
  | inventory (serialNumber deviceType : String)
  | subscriber (serialNumber : String)
  deriving DecidableEq, Repr

def Subject.serialNumber : Subject → String
  | .inventory serialNumber _ => serialNumber
  | .subscriber serialNumber => serialNumber

/-- The elements for a device. -/
def collect (db : Store) (fuel : ℕ) : Subject → Option APConfig
  | .inventory serialNumber deviceType =>
      match getBy db.inventoryDB InventoryTag.serialNumber serialNumber with
      | none => some { deviceType }
      | some tag => get db fuel deviceType tag
  | .subscriber serialNumber =>
      match getBy db.subscriberDeviceDB SubscriberDevice.serialNumber serialNumber with
      | none => some { deviceType := "" }
      | some device =>
          some (addConfiguration db { deviceType := device.deviceType } device.deviceConfiguration)

/-- `APConfig::Get` on a new object: the configuration and the answer, which depends on the
elements alone. -/
def getConfiguration (env : RenderEnv) (db : Store) (fuel : ℕ) (subject : Subject) :
    Option (Bool × Members) := do
  let apConfig ← collect db fuel subject
  match build env fuel apConfig.config ((env.overrides subject.serialNumber).getD []) with
  | (_, some .exhausted) => none
  | (configuration, _) => some (!apConfig.config.isEmpty, configuration)

end APConfig

end Owprov
