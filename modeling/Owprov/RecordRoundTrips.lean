import Owprov.StoredRecords

/-!
# Records that go into their rows and back

What `Convert` reads from the row that it wrote of a record.
-/

namespace Owprov.Stored

open JsonValues

variable {poco : Poco}

/-! ## Rows are read as they were written -/

theorem Contact.ofRow_toRow (undoes : poco.Undoes) (record fresh : Contact) :
    Contact.ofRow poco (record.toRow poco) fresh =
      some { record with type := contactFromString record.type.toText } := by
  simp only [Contact.ofRow, Contact.toRow, undoes.toStringArray_stringsToString,
    undoes.toTaglist_tagsToString,
    undoes.toObjectArray_objectsToString (NoteInfo.fromJson_toJson poco)]

theorem Location.ofRow_toRow (undoes : poco.Undoes) (record fresh : Location) :
    Location.ofRow poco (record.toRow poco) fresh = some record := by
  simp only [Location.ofRow, Location.toRow, undoes.toStringArray_stringsToString,
    undoes.toTaglist_tagsToString, locationFromString_toText,
    undoes.toObjectArray_objectsToString (NoteInfo.fromJson_toJson poco)]

theorem Venue.ofRow_toRow (undoes : poco.Undoes) (record fresh : Venue) :
    Venue.ofRow poco (record.toRow poco) fresh = some record := by
  simp only [Venue.ofRow, Venue.toRow, undoes.toStringArray_stringsToString,
    undoes.toTaglist_tagsToString,
    undoes.toObjectArray_objectsToString (NoteInfo.fromJson_toJson poco),
    undoes.toObjectArray_objectsToString (DiGraphEntry.fromJson_toJson poco),
    undoes.toObject_objectToString (DeviceRules.fromJson_toJson poco), Option.bind_eq_bind,
    Option.bind_some]

theorem Entity.ofRow_toRow (undoes : poco.Undoes) (record fresh : Entity) :
    Entity.ofRow poco (record.toRow poco) fresh = some record := by
  simp only [Entity.ofRow, Entity.toRow, undoes.toStringArray_stringsToString,
    undoes.toTaglist_tagsToString,
    undoes.toObjectArray_objectsToString (NoteInfo.fromJson_toJson poco),
    undoes.toObject_objectToString (DeviceRules.fromJson_toJson poco), Option.bind_eq_bind,
    Option.bind_some]

theorem InventoryTag.ofRow_toRow (undoes : poco.Undoes) (record fresh : InventoryTag) :
    InventoryTag.ofRow poco (record.toRow poco) fresh = some record := by
  simp only [InventoryTag.ofRow, InventoryTag.toRow, undoes.toTaglist_tagsToString,
    undoes.toObjectArray_objectsToString (NoteInfo.fromJson_toJson poco),
    undoes.toObject_objectToString (DeviceRules.fromJson_toJson poco), Option.bind_eq_bind,
    Option.bind_some]

theorem ManagementPolicy.ofRow_toRow (undoes : poco.Undoes) (record fresh : ManagementPolicy) :
    ManagementPolicy.ofRow poco (record.toRow poco) fresh = some record := by
  simp only [ManagementPolicy.ofRow, ManagementPolicy.toRow,
    undoes.toStringArray_stringsToString, undoes.toTaglist_tagsToString,
    undoes.toObjectArray_objectsToString (NoteInfo.fromJson_toJson poco),
    undoes.toObjectArray_objectsToString (ManagementPolicyEntry.fromJson_toJson poco)]

theorem ManagementRole.ofRow_toRow (undoes : poco.Undoes) (record fresh : ManagementRole) :
    ManagementRole.ofRow poco (record.toRow poco) fresh = some record := by
  simp only [ManagementRole.ofRow, ManagementRole.toRow, undoes.toStringArray_stringsToString,
    undoes.toTaglist_tagsToString,
    undoes.toObjectArray_objectsToString (NoteInfo.fromJson_toJson poco)]

theorem DeviceConfiguration.ofRow_toRow (undoes : poco.Undoes)
    (record fresh : DeviceConfiguration) :
    DeviceConfiguration.ofRow poco (record.toRow poco) fresh = some record := by
  simp only [DeviceConfiguration.ofRow, DeviceConfiguration.toRow,
    undoes.toStringArray_stringsToString, undoes.toTaglist_tagsToString,
    undoes.toObjectArray_objectsToString (NoteInfo.fromJson_toJson poco),
    undoes.toObjectArray_objectsToString (DeviceConfigurationElement.fromJson_toJson poco),
    undoes.toObject_objectToString (DeviceRules.fromJson_toJson poco), Option.bind_eq_bind,
    Option.bind_some]

theorem char_toLower_toLower (c : Char) : c.toLower.toLower = c.toLower := by
  by_cases upper : c.val ≥ 'A'.val ∧ c.val ≤ 'Z'.val
  · have value : c.toLower.val = c.val + 32 := by
      rw [show c.toLower = _ from dif_pos upper]
      rfl
    have above : ¬(c.toLower.val ≥ 'A'.val ∧ c.toLower.val ≤ 'Z'.val) := by
      rintro ⟨-, high⟩
      have low : 65 ≤ c.val.toNat := by simpa [UInt32.le_iff_toNat_le] using upper.1
      have bound : c.val.toNat ≤ 90 := by simpa [UInt32.le_iff_toNat_le] using upper.2
      rw [value, UInt32.le_iff_toNat_le, UInt32.toNat_add] at high
      change (c.val.toNat + 32) % 2 ^ 32 ≤ 90 at high
      omega
    exact dif_neg above
  · have same : c.toLower = c := dif_neg upper
    rw [same, same]

theorem toLower_toLower (text : String) : toLower (toLower text) = toLower text := by
  rw [toLower, toLower, String.toList_ofList, List.map_map]
  congr 1
  exact List.map_congr_left fun c _ => char_toLower_toLower c

/-- The group of a device comes back in lower case; its tags and its configuration have no
column. -/
theorem SubscriberDevice.ofRow_toRow (undoes : poco.Undoes) (record fresh : SubscriberDevice) :
    SubscriberDevice.ofRow poco (record.toRow poco) fresh =
      some { record with
        info := { record.info with tags := fresh.info.tags }
        deviceGroup := toLower record.deviceGroup
        configuration := fresh.configuration } := by
  simp only [SubscriberDevice.ofRow, SubscriberDevice.toRow,
    undoes.toObjectArray_objectsToString (NoteInfo.fromJson_toJson poco),
    undoes.toObject_objectToString (SubLocation.fromJson_toJson poco),
    undoes.toObject_objectToString (SubContact.fromJson_toJson poco),
    undoes.toObject_objectToString (DeviceRules.fromJson_toJson poco), Option.bind_eq_bind,
    Option.bind_some, toLower_toLower]

/-- The tags of a signup have no column. -/
theorem SignupEntry.ofRow_toRow (undoes : poco.Undoes) (record fresh : SignupEntry) :
    SignupEntry.ofRow poco (record.toRow poco) fresh =
      some { record with info := { record.info with tags := fresh.info.tags } } := by
  simp only [SignupEntry.ofRow, SignupEntry.toRow,
    undoes.toObjectArray_objectsToString (NoteInfo.fromJson_toJson poco)]

/-! ## What the API shows of a record -/

/-- A record that goes into its row and back shows what `expected` shows. -/
def RestoredAs {α β : Type} (toJson : α → Members → Members) (toRow : α → β)
    (ofRow : β → Option α) (record expected : α) : Prop :=
  (ofRow (toRow record)).map (fun restored => toJson restored []) = some (toJson expected [])

theorem restoredAs_of_eq {α β : Type} {toJson : α → Members → Members} {toRow : α → β}
    {ofRow : β → Option α} {record restored expected : α}
    (read : ofRow (toRow record) = some restored)
    (shown : toJson restored [] = toJson expected []) :
    RestoredAs toJson toRow ofRow record expected := by
  rw [RestoredAs, read, Option.map_some, shown]

section Shown

variable (poco : Poco)

abbrev Contact.Restored (record : Contact) : Prop :=
  RestoredAs Contact.toJson (Contact.toRow poco) (Contact.ofRow poco · {}) record record

abbrev Location.Restored (record : Location) : Prop :=
  RestoredAs Location.toJson (Location.toRow poco) (Location.ofRow poco · {}) record record

abbrev Venue.Restored (record : Venue) : Prop :=
  RestoredAs Venue.toJson (Venue.toRow poco) (Venue.ofRow poco · {}) record record

abbrev Entity.Restored (record : Entity) : Prop :=
  RestoredAs Entity.toJson (Entity.toRow poco) (Entity.ofRow poco · {}) record record

abbrev InventoryTag.Restored (record : InventoryTag) : Prop :=
  RestoredAs InventoryTag.toJson (InventoryTag.toRow poco) (InventoryTag.ofRow poco · {}) record
    record

abbrev ManagementPolicy.Restored (record : ManagementPolicy) : Prop :=
  RestoredAs ManagementPolicy.toJson (ManagementPolicy.toRow poco)
    (ManagementPolicy.ofRow poco · {}) record record

abbrev ManagementRole.Restored (record : ManagementRole) : Prop :=
  RestoredAs ManagementRole.toJson (ManagementRole.toRow poco) (ManagementRole.ofRow poco · {})
    record record

abbrev DeviceConfiguration.Restored (record : DeviceConfiguration) : Prop :=
  RestoredAs DeviceConfiguration.toJson (DeviceConfiguration.toRow poco)
    (DeviceConfiguration.ofRow poco · {}) record record

abbrev SubscriberDevice.RestoredTo (record expected : SubscriberDevice) : Prop :=
  RestoredAs SubscriberDevice.toJson (SubscriberDevice.toRow poco)
    (SubscriberDevice.ofRow poco · {}) record expected

abbrev SignupEntry.Restored (record : SignupEntry) : Prop :=
  RestoredAs SignupEntry.toJson (SignupEntry.toRow poco) (SignupEntry.ofRow poco · {}) record
    record

end Shown

/-- Records come back from their rows with the fields that the API shows: contacts that are no
managers, devices and signups without tags, and every other record.  The group of a device comes
back in lower case. -/
theorem records_restored (poco : Poco) (undoes : poco.Undoes) :
    (∀ record : Contact, record.type ≠ .manager → record.Restored poco) ∧
      (∀ record : Location, record.Restored poco) ∧
      (∀ record : Venue, record.Restored poco) ∧
      (∀ record : Entity, record.Restored poco) ∧
      (∀ record : InventoryTag, record.Restored poco) ∧
      (∀ record : ManagementPolicy, record.Restored poco) ∧
      (∀ record : ManagementRole, record.Restored poco) ∧
      (∀ record : DeviceConfiguration, record.Restored poco) ∧
      (∀ record : SubscriberDevice, record.info.tags = [] →
        record.RestoredTo poco { record with deviceGroup := toLower record.deviceGroup }) ∧
      ∀ record : SignupEntry, record.info.tags = [] → record.Restored poco := by
  refine ⟨?contact, ?location, ?venue, ?entity, ?tag, ?policy, ?role, ?configuration, ?device,
    ?signup⟩
  case contact =>
      intro record noManager
      have type : contactFromString record.type.toText = record.type := by
        rw [contactFromString_toText, if_neg noManager]
      exact restoredAs_of_eq (Contact.ofRow_toRow undoes record {}) (by rw [type])
  case location => exact fun record => restoredAs_of_eq (Location.ofRow_toRow undoes record {}) rfl
  case venue => exact fun record => restoredAs_of_eq (Venue.ofRow_toRow undoes record {}) rfl
  case entity => exact fun record => restoredAs_of_eq (Entity.ofRow_toRow undoes record {}) rfl
  case tag => exact fun record => restoredAs_of_eq (InventoryTag.ofRow_toRow undoes record {}) rfl
  case policy =>
      exact fun record => restoredAs_of_eq (ManagementPolicy.ofRow_toRow undoes record {}) rfl
  case role =>
      exact fun record => restoredAs_of_eq (ManagementRole.ofRow_toRow undoes record {}) rfl
  case configuration =>
      exact fun record => restoredAs_of_eq (DeviceConfiguration.ofRow_toRow undoes record {}) rfl
  case device =>
      intro record noTags
      have tags : ({} : SubscriberDevice).info.tags = record.info.tags := noTags.symm
      exact restoredAs_of_eq (SubscriberDevice.ofRow_toRow undoes record {}) (by rw [tags]; rfl)
  case signup =>
      intro record noTags
      have tags : ({} : SignupEntry).info.tags = record.info.tags := noTags.symm
      exact restoredAs_of_eq (SignupEntry.ofRow_toRow undoes record {}) (by rw [tags])

/-- Compact JSON text in the place of Poco's, whose reader undoes its writer. -/
def compactPoco : Poco where
  parse := JsonText.parse
  condense := JsonText.render
  stringify := JsonText.render
  text := JsonText.render
  unsigned := fun _ => none

theorem compactPoco_undoes : compactPoco.Undoes where
  condensed := JsonText.parse_render
  stringified := JsonText.parse_render
  emptyArray := by
    have written : JsonText.render (.arr []) = "[]" := by decide
    rw [← written]
    exact JsonText.parse_render (.arr [])
  emptyText := rfl

/-- A technician with a phone, and a device of the group `ap`. -/
theorem technician_restored :
    Contact.Restored compactPoco { type := .technician, phones := ["555-0100"] } ∧
      SubscriberDevice.RestoredTo compactPoco
        { serialNumber := "aabbccddeeff", deviceGroup := "ap" }
        { serialNumber := "aabbccddeeff", deviceGroup := toLower "ap" } :=
  have restored := records_restored compactPoco compactPoco_undoes
  ⟨restored.1 _ (by decide), restored.2.2.2.2.2.2.2.2.1 _ rfl⟩

/-- A device that is stored with the group `AP` comes back in the group `ap`. -/
theorem deviceGroup_lowered :
    ¬∀ poco : Poco, poco.Undoes →
      (∀ record : Contact, record.Restored poco) ∧
        (∀ record : Location, record.Restored poco) ∧
        (∀ record : Venue, record.Restored poco) ∧
        (∀ record : Entity, record.Restored poco) ∧
        (∀ record : InventoryTag, record.Restored poco) ∧
        (∀ record : ManagementPolicy, record.Restored poco) ∧
        (∀ record : ManagementRole, record.Restored poco) ∧
        (∀ record : DeviceConfiguration, record.Restored poco) ∧
        (∀ record : SubscriberDevice, record.RestoredTo poco record) ∧
        ∀ record : SignupEntry, record.Restored poco := by
  intro all
  have restored := (all compactPoco compactPoco_undoes).2.2.2.2.2.2.2.2.1 { deviceGroup := "AP" }
  rw [SubscriberDevice.RestoredTo, RestoredAs,
    SubscriberDevice.ofRow_toRow compactPoco_undoes, Option.map_some] at restored
  have shown := congrArg (List.lookup "deviceGroup") (Option.some.inj restored)
  rw [SubscriberDevice.toJson, SubscriberDevice.toJson] at shown
  simp only [Members.lookup_set, String.reduceEq, if_false, if_true, Option.some.injEq,
    Value.str.injEq] at shown
  exact absurd shown (by decide)

end Owprov.Stored
