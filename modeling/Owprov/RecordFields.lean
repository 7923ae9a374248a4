import Owprov.Lib.JsonText
import Owprov.ProvObjects

/-!
# Columns of the stored records

A list or a nested record goes into one column of its table as JSON text.  A field of a nested
record is read from its object by name; a value that cannot be converted ends the record, which
keeps the fields that were read before.
-/

namespace Owprov.Stored

open JsonValues

/-! ## JSON values -/

/-- Poco's JSON parser, its two writers, and its conversions of a value. -/
structure Poco where
  parse : String → Option Value
  condense : Value → String
  stringify : Value → String
  /-- The text of a value that is neither null nor a string. -/
  text : Value → String
  /-- The unsigned number that a value is converted to when it is no number. -/
  unsigned : Value → Option UInt64

/-- The parser undoes both writers, reads the empty array and finds no value in an empty text. -/
structure Poco.Undoes (poco : Poco) : Prop where
  condensed : ∀ value, poco.parse (poco.condense value) = some value
  stringified : ∀ value, poco.parse (poco.stringify value) = some value
  emptyArray : poco.parse "[]" = some (.arr [])
  emptyText : poco.parse "" = none

/-- The conversion of a value to a string, which throws on null. -/
def Poco.toString (poco : Poco) : Value → Option String
  | .null => none
  | .str text => some text
  | value => some (poco.text value)

/-- The conversion of a value to an unsigned number, which throws when the number changes. -/
def Poco.toUInt64 (poco : Poco) : Value → Option UInt64
  | .num n =>
      let converted := UInt64.ofNat n.toNat
      if converted.toNat = n then some converted else none
  | value => poco.unsigned value

def ofUInt64 (n : UInt64) : Value := .num n.toNat

def ofStrings (texts : List String) : Value := .arr (texts.map .str)

def ofTags (tags : List UInt64) : Value := .arr (tags.map ofUInt64)

def ofObjects {α : Type} (toJson : α → Members → Members) (records : List α) : Value :=
  .arr (records.map fun record => .obj (toJson record []))

/-- The converted values up to the first that throws, and whether none did. -/
def collect {α β : Type} (convert : β → Option α) : List β → List α × Bool
  | [] => ([], true)
  | item :: items =>
      match convert item with
      | none => ([], false)
      | some value =>
          let (values, all) := collect convert items
          (value :: values, all)

theorem collect_map {α β : Type} {convert : β → Option α} {encode : α → β}
    (converts : ∀ value, convert (encode value) = some value) (values : List α) :
    collect convert (values.map encode) = (values, true) := by
  induction values with
  | nil => rfl
  | cons value values ih =>
      rw [List.map_cons, collect, converts value]
      dsimp only
      rw [ih]

theorem ofUInt64_inj (m n : UInt64) : ofUInt64 m = ofUInt64 n ↔ m = n := by
  constructor
  · intro same
    have equal : (m.toNat : ℤ) = n.toNat := Value.num.inj same
    exact UInt64.toNat.inj (Int.ofNat.inj equal)
  · rintro rfl
    rfl

theorem ofStrings_inj (first second : List String) :
    ofStrings first = ofStrings second ↔ first = second := by
  constructor
  · intro same
    have equal : first.map Value.str = second.map Value.str := Value.arr.inj same
    exact List.map_injective_iff.mpr (fun _ _ => Value.str.inj) equal
  · rintro rfl
    rfl

theorem Poco.toString_str (poco : Poco) (text : String) :
    poco.toString (.str text) = some text := rfl

theorem Poco.toUInt64_ofUInt64 (poco : Poco) (n : UInt64) :
    poco.toUInt64 (ofUInt64 n) = some n := by
  have same : UInt64.ofNat (n.toNat : ℤ).toNat = n := by
    rw [Int.toNat_natCast, UInt64.ofNat_toNat]
  rw [ofUInt64, Poco.toUInt64, same, if_pos rfl]

/-! ## Columns -/

section Columns

variable (poco : Poco)

/-- `to_string` of a list of strings. -/
def Poco.stringsToString (texts : List String) : String :=
  if texts = [] then "[]" else poco.condense (ofStrings texts)

/-- `to_string` of a list of tags. -/
def Poco.tagsToString (tags : List UInt64) : String :=
  if tags = [] then "[]" else poco.stringify (ofTags tags)

/-- `to_string` of a list of records. -/
def Poco.objectsToString {α : Type} (toJson : α → Members → Members) (records : List α) : String :=
  if records.isEmpty then "[]" else poco.condense (ofObjects toJson records)

/-- `to_string` of a record. -/
def Poco.objectToString {α : Type} (toJson : α → Members → Members) (record : α) : String :=
  poco.condense (.obj (toJson record []))

/-- The array of a column; nothing is left of a text that cannot be parsed. -/
def Poco.itemsOf (text : String) : List Value :=
  if text = "" then []
  else
    match poco.parse text with
    | some (.arr items) => items
    | _ => []

/-- `to_object_array` of a list of strings. -/
def Poco.toStringArray (text : String) : List String :=
  (collect poco.toString (poco.itemsOf text)).1

def Poco.toTaglist (text : String) : List UInt64 :=
  (collect poco.toUInt64 (poco.itemsOf text)).1

/-- The record of an item, which throws when it is no object. -/
def ofItem {α : Type} (fromJson : Members → α) : Value → Option α
  | .obj members => some (fromJson members)
  | _ => none

/-- `to_object_array` of a list of records. -/
def Poco.toObjectArray {α : Type} (fromJson : Members → α) (text : String) : List α :=
  (collect (ofItem fromJson) (poco.itemsOf text)).1

/-- `to_object`, which throws on a text that is no object. -/
def Poco.toObject {α : Type} (fromJson : Members → α) (fresh : α) (text : String) : Option α :=
  if text = "" then some fresh
  else
    match poco.parse text with
    | some (.obj members) => some (fromJson members)
    | _ => none

variable {poco}

theorem Poco.Undoes.condense_ne (undoes : poco.Undoes) (value : Value) :
    poco.condense value ≠ "" := by
  intro nothing
  have parsed := undoes.condensed value
  rw [nothing, undoes.emptyText] at parsed
  cases parsed

theorem Poco.Undoes.stringify_ne (undoes : poco.Undoes) (value : Value) :
    poco.stringify value ≠ "" := by
  intro nothing
  have parsed := undoes.stringified value
  rw [nothing, undoes.emptyText] at parsed
  cases parsed

theorem Poco.Undoes.itemsOf_empty (undoes : poco.Undoes) : poco.itemsOf "[]" = [] := by
  rw [Poco.itemsOf, if_neg (by decide), undoes.emptyArray]

theorem Poco.Undoes.itemsOf_condense (undoes : poco.Undoes) (items : List Value) :
    poco.itemsOf (poco.condense (.arr items)) = items := by
  rw [Poco.itemsOf, if_neg (undoes.condense_ne _), undoes.condensed]

theorem Poco.Undoes.itemsOf_stringify (undoes : poco.Undoes) (items : List Value) :
    poco.itemsOf (poco.stringify (.arr items)) = items := by
  rw [Poco.itemsOf, if_neg (undoes.stringify_ne _), undoes.stringified]

theorem Poco.Undoes.toStringArray_stringsToString (undoes : poco.Undoes) (texts : List String) :
    poco.toStringArray (poco.stringsToString texts) = texts := by
  unfold Poco.stringsToString Poco.toStringArray
  split
  case isTrue none =>
      rw [undoes.itemsOf_empty, none]
      rfl
  case isFalse =>
      rw [ofStrings, undoes.itemsOf_condense, collect_map poco.toString_str]

theorem Poco.Undoes.toTaglist_tagsToString (undoes : poco.Undoes) (tags : List UInt64) :
    poco.toTaglist (poco.tagsToString tags) = tags := by
  unfold Poco.tagsToString Poco.toTaglist
  split
  case isTrue none =>
      rw [undoes.itemsOf_empty, none]
      rfl
  case isFalse =>
      rw [ofTags, undoes.itemsOf_stringify, collect_map poco.toUInt64_ofUInt64]

theorem Poco.Undoes.toObjectArray_objectsToString (undoes : poco.Undoes) {α : Type}
    {toJson : α → Members → Members} {fromJson : Members → α}
    (restored : ∀ record, fromJson (toJson record []) = record) (records : List α) :
    poco.toObjectArray fromJson (poco.objectsToString toJson records) = records := by
  unfold Poco.objectsToString Poco.toObjectArray
  split
  case isTrue none =>
      rw [undoes.itemsOf_empty, List.isEmpty_iff.mp none]
      rfl
  case isFalse =>
      have converts : ∀ record, ofItem fromJson (.obj (toJson record [])) = some record :=
        fun record => congrArg some (restored record)
      rw [ofObjects, undoes.itemsOf_condense, collect_map converts]

theorem Poco.Undoes.toObject_objectToString (undoes : poco.Undoes) {α : Type}
    {toJson : α → Members → Members} {fromJson : Members → α}
    (restored : ∀ record, fromJson (toJson record []) = record) (fresh record : α) :
    poco.toObject fromJson fresh (poco.objectToString toJson record) = some record := by
  rw [Poco.objectToString, Poco.toObject, if_neg (undoes.condense_ne _), undoes.condensed]
  dsimp only
  rw [restored]

end Columns

/-! ## Fields -/

section Fields

variable {α : Type} (poco : Poco) (obj : Members) (name : String)

/-- `field_from_json` of a value that is converted; an exception comes with the record as it
was then. -/
def readField {β : Type} (convert : Value → Option β) (set : β → α → α) (record : α) :
    Except α α :=
  match obj.lookup name with
  | none | some .null => .ok record
  | some value =>
      match convert value with
      | some converted => .ok (set converted record)
      | none => .error record

def readString (set : String → α → α) (record : α) : Except α α :=
  readField obj name poco.toString set record

def readUInt64 (set : UInt64 → α → α) (record : α) : Except α α :=
  readField obj name poco.toUInt64 set record

def readStrings (set : List String → α → α) (record : α) : Except α α :=
  match obj.lookup name with
  | some (.arr items) =>
      match collect poco.toString items with
      | (texts, true) => .ok (set texts record)
      | (texts, false) => .error (set texts record)
  | _ => .ok record

/-- The fields of a record, up to the first that throws. -/
def readFields : List (α → Except α α) → α → α
  | [], record => record
  | field :: fields, record =>
      match field record with
      | .ok next => readFields fields next
      | .error reached => reached

@[simp] theorem readFields_nil (record : α) : readFields [] record = record := rfl

@[simp] theorem readFields_cons (field : α → Except α α) (fields : List (α → Except α α))
    (record : α) :
    readFields (field :: fields) record =
      match field record with
      | .ok next => readFields fields next
      | .error reached => reached :=
  rfl

variable {obj name}

theorem readField_found {β : Type} {convert : Value → Option β} {value : Value} {converted : β}
    (found : obj.lookup name = some value) (noNull : value ≠ .null)
    (converts : convert value = some converted) (set : β → α → α) (record : α) :
    readField obj name convert set record = .ok (set converted record) := by
  unfold readField
  rw [found]
  cases value with
  | null => exact absurd rfl noNull
  | _ => simp only [converts]

theorem readString_found {text : String} (found : obj.lookup name = some (.str text))
    (set : String → α → α) (record : α) :
    readString poco obj name set record = .ok (set text record) :=
  readField_found found nofun (poco.toString_str text) set record

theorem readUInt64_found {n : UInt64} (found : obj.lookup name = some (ofUInt64 n))
    (set : UInt64 → α → α) (record : α) :
    readUInt64 poco obj name set record = .ok (set n record) :=
  readField_found found nofun (poco.toUInt64_ofUInt64 n) set record

theorem readStrings_found {texts : List String} (found : obj.lookup name = some (ofStrings texts))
    (set : List String → α → α) (record : α) :
    readStrings poco obj name set record = .ok (set texts record) := by
  rw [ofStrings] at found
  rw [readStrings, found]
  dsimp only
  rw [collect_map poco.toString_str]

end Fields

/-! ## Nested records -/

structure NoteInfo where
  created : UInt64 := 0
  createdBy : String := ""
  note : String := ""
  deriving Repr

def NoteInfo.toJson (record : NoteInfo) (obj : Members) : Members :=
  obj
    |>.set "created" (ofUInt64 record.created)
    |>.set "createdBy" (.str record.createdBy)
    |>.set "note" (.str record.note)

def NoteInfo.fromJson (poco : Poco) (obj : Members) : NoteInfo :=
  readFields [
    readUInt64 poco obj "created" fun value r => { r with created := value },
    readString poco obj "createdBy" fun value r => { r with createdBy := value },
    readString poco obj "note" fun value r => { r with note := value }] {}

structure DiGraphEntry where
  parent : String := ""
  child : String := ""
  deriving Repr

def DiGraphEntry.toJson (record : DiGraphEntry) (obj : Members) : Members :=
  obj
    |>.set "parent" (.str record.parent)
    |>.set "child" (.str record.child)

def DiGraphEntry.fromJson (poco : Poco) (obj : Members) : DiGraphEntry :=
  readFields [
    readString poco obj "parent" fun value r => { r with parent := value },
    readString poco obj "child" fun value r => { r with child := value }] {}

structure SubLocation where
  type : String := ""
  buildingName : String := ""
  addressLines : List String := []
  city : String := ""
  state : String := ""
  postal : String := ""
  country : String := ""
  phones : List String := []
  mobiles : List String := []
  geoCode : String := ""
  deriving Repr

def SubLocation.toJson (record : SubLocation) (obj : Members) : Members :=
  obj
    |>.set "type" (.str record.type)
    |>.set "buildingName" (.str record.buildingName)
    |>.set "addressLines" (ofStrings record.addressLines)
    |>.set "city" (.str record.city)
    |>.set "state" (.str record.state)
    |>.set "postal" (.str record.postal)
    |>.set "country" (.str record.country)
    |>.set "phones" (ofStrings record.phones)
    |>.set "mobiles" (ofStrings record.mobiles)
    |>.set "geoCode" (.str record.geoCode)

def SubLocation.fromJson (poco : Poco) (obj : Members) : SubLocation :=
  readFields [
    readString poco obj "type" fun value r => { r with type := value },
    readString poco obj "buildingName" fun value r => { r with buildingName := value },
    readStrings poco obj "addressLines" fun value r => { r with addressLines := value },
    readString poco obj "city" fun value r => { r with city := value },
    readString poco obj "state" fun value r => { r with state := value },
    readString poco obj "postal" fun value r => { r with postal := value },
    readString poco obj "country" fun value r => { r with country := value },
    readStrings poco obj "phones" fun value r => { r with phones := value },
    readStrings poco obj "mobiles" fun value r => { r with mobiles := value },
    readString poco obj "geoCode" fun value r => { r with geoCode := value }] {}

structure SubContact where
  type : String := ""
  title : String := ""
  salutation : String := ""
  firstname : String := ""
  lastname : String := ""
  initials : String := ""
  visual : String := ""
  mobiles : List String := []
  phones : List String := []
  primaryEmail : String := ""
  secondaryEmail : String := ""
  accessPIN : String := ""
  deriving Repr

def SubContact.toJson (record : SubContact) (obj : Members) : Members :=
  obj
    |>.set "type" (.str record.type)
    |>.set "title" (.str record.title)
    |>.set "salutation" (.str record.salutation)
    |>.set "firstname" (.str record.firstname)
    |>.set "lastname" (.str record.lastname)
    |>.set "initials" (.str record.initials)
    |>.set "visual" (.str record.visual)
    |>.set "mobiles" (ofStrings record.mobiles)
    |>.set "phones" (ofStrings record.phones)
    |>.set "primaryEmail" (.str record.primaryEmail)
    |>.set "secondaryEmail" (.str record.secondaryEmail)
    |>.set "accessPIN" (.str record.accessPIN)

def SubContact.fromJson (poco : Poco) (obj : Members) : SubContact :=
  readFields [
    readString poco obj "type" fun value r => { r with type := value },
    readString poco obj "title" fun value r => { r with title := value },
    readString poco obj "salutation" fun value r => { r with salutation := value },
    readString poco obj "firstname" fun value r => { r with firstname := value },
    readString poco obj "lastname" fun value r => { r with lastname := value },
    readString poco obj "initials" fun value r => { r with initials := value },
    readString poco obj "visual" fun value r => { r with visual := value },
    readStrings poco obj "mobiles" fun value r => { r with mobiles := value },
    readStrings poco obj "phones" fun value r => { r with phones := value },
    readString poco obj "primaryEmail" fun value r => { r with primaryEmail := value },
    readString poco obj "secondaryEmail" fun value r => { r with secondaryEmail := value },
    readString poco obj "accessPIN" fun value r => { r with accessPIN := value }] {}

structure DeviceConfigurationElement where
  name : String := ""
  description : String := ""
  weight : UInt64 := 0
  configuration : String := ""
  deriving Repr

def DeviceConfigurationElement.toJson (record : DeviceConfigurationElement) (obj : Members) :
    Members :=
  obj
    |>.set "name" (.str record.name)
    |>.set "description" (.str record.description)
    |>.set "weight" (ofUInt64 record.weight)
    |>.set "configuration" (.str record.configuration)

def DeviceConfigurationElement.fromJson (poco : Poco) (obj : Members) :
    DeviceConfigurationElement :=
  readFields [
    readString poco obj "name" fun value r => { r with name := value },
    readString poco obj "description" fun value r => { r with description := value },
    readUInt64 poco obj "weight" fun value r => { r with weight := value },
    readString poco obj "configuration" fun value r => { r with configuration := value }] {}

def ManagementPolicyEntry.toJson (record : ManagementPolicyEntry) (obj : Members) : Members :=
  obj
    |>.set "users" (ofStrings record.users)
    |>.set "resources" (ofStrings record.resources)
    |>.set "access" (ofStrings record.access)
    |>.set "policy" (.str record.policy)

def ManagementPolicyEntry.fromJson (poco : Poco) (obj : Members) : ManagementPolicyEntry :=
  readFields [
    readStrings poco obj "users" fun value r => { r with users := value },
    readStrings poco obj "resources" fun value r => { r with resources := value },
    readStrings poco obj "access" fun value r => { r with access := value },
    readString poco obj "policy" fun value r => { r with policy := value }] {}

def DeviceRules.toJson (record : DeviceRules) (obj : Members) : Members :=
  obj
    |>.set "rcOnly" (.str record.rcOnly)
    |>.set "rrm" (.str record.rrm)
    |>.set "firmwareUpgrade" (.str record.firmwareUpgrade)

def DeviceRules.fromJson (poco : Poco) (obj : Members) : DeviceRules :=
  readFields [
    readString poco obj "rcOnly" fun value r => { r with rcOnly := value },
    readString poco obj "rrm" fun value r => { r with rrm := value },
    readString poco obj "firmwareUpgrade" fun value r => { r with firmwareUpgrade := value }] {}

/-! ## Nested records are read as they were written -/

theorem NoteInfo.fromJson_toJson (poco : Poco) (record : NoteInfo) :
    NoteInfo.fromJson poco (record.toJson []) = record := by
  simp [NoteInfo.fromJson, NoteInfo.toJson, readString_found, readUInt64_found,
    Members.lookup_set, ofUInt64_inj]

theorem DiGraphEntry.fromJson_toJson (poco : Poco) (record : DiGraphEntry) :
    DiGraphEntry.fromJson poco (record.toJson []) = record := by
  simp [DiGraphEntry.fromJson, DiGraphEntry.toJson, readString_found, Members.lookup_set]

theorem SubLocation.fromJson_toJson (poco : Poco) (record : SubLocation) :
    SubLocation.fromJson poco (record.toJson []) = record := by
  simp [SubLocation.fromJson, SubLocation.toJson, readString_found, readStrings_found,
    Members.lookup_set, ofStrings_inj]

theorem SubContact.fromJson_toJson (poco : Poco) (record : SubContact) :
    SubContact.fromJson poco (record.toJson []) = record := by
  simp [SubContact.fromJson, SubContact.toJson, readString_found, readStrings_found,
    Members.lookup_set, ofStrings_inj]

theorem DeviceConfigurationElement.fromJson_toJson (poco : Poco)
    (record : DeviceConfigurationElement) :
    DeviceConfigurationElement.fromJson poco (record.toJson []) = record := by
  simp [DeviceConfigurationElement.fromJson, DeviceConfigurationElement.toJson,
    readString_found, readUInt64_found, Members.lookup_set, ofUInt64_inj]

theorem ManagementPolicyEntry.fromJson_toJson (poco : Poco) (record : ManagementPolicyEntry) :
    ManagementPolicyEntry.fromJson poco (ManagementPolicyEntry.toJson record []) = record := by
  simp [ManagementPolicyEntry.fromJson, ManagementPolicyEntry.toJson, readString_found,
    readStrings_found, Members.lookup_set, ofStrings_inj]

theorem DeviceRules.fromJson_toJson (poco : Poco) (record : DeviceRules) :
    DeviceRules.fromJson poco (DeviceRules.toJson record []) = record := by
  simp [DeviceRules.fromJson, DeviceRules.toJson, readString_found, Members.lookup_set]

end Owprov.Stored
