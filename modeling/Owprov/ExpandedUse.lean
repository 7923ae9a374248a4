import Owprov.InUseRuns

/-!
# Who uses a record

With `expandInUse` the handlers of policies, locations, contacts and configurations show the records
that use one, by table, with their names.  `ExpandInUse` reads them off the `inUse` list.
-/

namespace Owprov

open RowTable Runs UsageLedger

/-! ## `ExpandInUse` -/

structure ExpandedUseEntry where
  uuid : String
  name : String
  description : String
  deriving DecidableEq, Repr

/-- `GetNameAndDescription` by id. -/
def nameAndDescription {α : Type} [Keyed α String] (table : Table α) (info : α → ObjectInfo)
    (id : String) : Option (String × String) :=
  (table.get? id).map fun row => ((info row).name, (info row).description)

/-- An `ExpandFunc_` that tells only that the record exists. -/
def existsUnnamed {α : Type} [Keyed α String] (table : Table α) (id : String) :
    Option (String × String) :=
  (table.get? id).map fun _ => ("", "")

/-- The `ExpandFunc_` of a table prefix; those of the tables that are not modelled are given. -/
def expandFunc (others : String → Option (String → Option (String × String))) (db : Store)
    (dbPrefix : String) : Option (String → Option (String × String)) :=
  match dbPrefix with
  | "ent" => some (nameAndDescription db.entityDB Entity.info)
  | "pol" => some (nameAndDescription db.policyDB ManagementPolicy.info)
  | "ven" => some (nameAndDescription db.venueDB Venue.info)
  | "con" => some (nameAndDescription db.contactDB Contact.info)
  | "inv" => some (nameAndDescription db.inventoryDB InventoryTag.info)
  | "cfg" => some (nameAndDescription db.configurationDB DeviceConfiguration.info)
  | "loc" => some (nameAndDescription db.locationDB Location.info)
  | "rol" => some (nameAndDescription db.rolesDB ManagementRole.info)
  | "map" => some (existsUnnamed db.mapDB)
  | "sig" => some (existsUnnamed db.signupDB)
  | "var" => some (existsUnnamed db.variablesDB)
  | "opr" => some (nameAndDescription db.operatorDB Operator.info)
  | "scl" => some (nameAndDescription db.serviceClassDB ServiceClass.info)
  | "sdv" => some (nameAndDescription db.subscriberDeviceDB SubscriberDevice.info)
  | "olc" => some (nameAndDescription db.opLocationDB OperatorLocation.info)
  | "ocn" => some (nameAndDescription db.opContactDB OperatorContact.info)
  | _ => others dbPrefix

/-- The `ExpandedListMap` and the `Errors`. -/
structure ExpandedUse where
  map : String → Option (List ExpandedUseEntry) := fun _ => none
  errors : List String := []

namespace ExpandedUse

def entries (expanded : ExpandedUse) (type : String) : List ExpandedUseEntry :=
  (expanded.map type).getD []

def add (expanded : ExpandedUse) (type : String) (entry : ExpandedUseEntry) : ExpandedUse :=
  { expanded with
    map := Function.update expanded.map type (some (expanded.entries type ++ [entry])) }

end ExpandedUse

section Expand

variable (others : String → Option (String → Option (String × String))) (db : Store)

/-- The body of the loop. -/
def expandUse (expanded : ExpandedUse) (text : String) : ExpandedUse :=
  match split text ':' with
  | [type, uuid] =>
      match expandFunc others db type with
      | none => expanded
      | some expand =>
          match expand uuid with
          | none => { expanded with errors := expanded.errors ++ [text] }
          | some (name, description) => expanded.add type { uuid, name, description }
  | _ => expanded

/-- `ExpandInUse`. -/
def expandInUse (uuids : List String) : ExpandedUse :=
  uuids.foldl (expandUse others db) {}

/-- What a text of the list adds to the entries of a type. -/
def expandedAs (type text : String) : Option ExpandedUseEntry :=
  match split text ':' with
  | [kind, uuid] =>
      if kind = type then
        ((expandFunc others db kind).bind fun expand => expand uuid).map fun found =>
          { uuid, name := found.1, description := found.2 }
      else
        none
  | _ => none

end Expand

/-! ## Splitting -/

section Splitting

variable {delimiter : Char} {chars current : List Char} {kind id : String}

theorem splitChars_eq_nil (none : splitChars delimiter chars current = []) :
    chars = [] ∧ current = [] := by
  induction chars generalizing current with
  | nil =>
      cases current with
      | nil => exact ⟨rfl, rfl⟩
      | cons c current => cases none
  | cons c chars ih =>
      unfold splitChars at none
      split at none
      · cases none
      · exact absurd (ih none).2 (List.cons_ne_nil _ _)

/-- A single part is the text, but for a delimiter at its end. -/
theorem splitChars_eq_singleton (one : splitChars delimiter chars current = [id]) :
    current.reverse ++ chars = id.toList ∨ current.reverse ++ chars = id.toList ++ [delimiter] := by
  induction chars generalizing current with
  | nil =>
      cases current with
      | nil => cases one
      | cons c current =>
          cases one
          exact .inl (by simp)
  | cons c chars ih =>
      unfold splitChars at one
      split at one
      · rename_i same
        obtain ⟨isId, none⟩ := List.cons.inj one
        obtain ⟨rfl, _⟩ := splitChars_eq_nil none
        exact .inr (by simp [← isId, same])
      · have rest := ih one
        rw [List.reverse_cons, List.append_assoc, List.singleton_append] at rest
        exact rest

theorem splitChars_eq_pair (two : splitChars delimiter chars current = [kind, id]) :
    ∃ rest, current.reverse ++ chars = kind.toList ++ delimiter :: rest ∧
      splitChars delimiter rest [] = [id] := by
  induction chars generalizing current with
  | nil => cases current <;> cases two
  | cons c chars ih =>
      unfold splitChars at two
      split at two
      · rename_i same
        obtain ⟨isKind, one⟩ := List.cons.inj two
        exact ⟨chars, by simp [← isKind, same], one⟩
      · obtain ⟨rest, isText, one⟩ := ih two
        rw [List.reverse_cons, List.append_assoc, List.singleton_append] at isText
        exact ⟨rest, isText, one⟩

theorem splitChars_of_not_mem (plain : delimiter ∉ chars) (filled : current.reverse ++ chars ≠ []) :
    splitChars delimiter chars current = [String.ofList (current.reverse ++ chars)] := by
  induction chars generalizing current with
  | nil =>
      cases current with
      | nil => exact absurd rfl filled
      | cons c current => simp [splitChars]
  | cons c chars ih =>
      obtain ⟨differs, others⟩ := not_or.mp (mt List.mem_cons.mpr plain)
      unfold splitChars
      rw [if_neg (Ne.symm differs), ih others (by simp)]
      simp

theorem splitChars_append {rest : List Char} (plain : delimiter ∉ chars) :
    splitChars delimiter (chars ++ delimiter :: rest) current =
      String.ofList (current.reverse ++ chars) :: splitChars delimiter rest [] := by
  induction chars generalizing current with
  | nil => simp [splitChars]
  | cons c chars ih =>
      obtain ⟨differs, others⟩ := not_or.mp (mt List.mem_cons.mpr plain)
      rw [List.cons_append, splitChars, if_neg (Ne.symm differs), ih others]
      simp

/-- The text of a pair, but for a colon at its end. -/
theorem eq_of_split_eq_pair {text : String} (two : split text ':' = [kind, id]) :
    text = kind ++ ":" ++ id ∨ text = kind ++ ":" ++ (id ++ ":") := by
  obtain ⟨rest, isText, one⟩ := splitChars_eq_pair two
  rcases splitChars_eq_singleton one with same | same
  · refine .inl (String.toList_injective ?_)
    simpa [← same] using isText
  · refine .inr (String.toList_injective ?_)
    simp only [List.reverse_nil, List.nil_append] at same isText
    simp [isText, same]

theorem split_entry (user : User) (named : user.id ≠ "") (plain : ':' ∉ user.id.toList) :
    split user.entry ':' = [user.table.dbPrefix, user.id] := by
  have noColon : ':' ∉ user.table.dbPrefix.toList := by
    cases user.table <;> decide
  have texts : user.entry.toList = user.table.dbPrefix.toList ++ ':' :: user.id.toList := by
    simp [User.entry]
  have filled : user.id.toList ≠ [] := by
    simpa using named
  rw [split, texts, splitChars_append noColon, splitChars_of_not_mem plain (by simpa using filled)]
  simp

end Splitting

/-! ## The loop -/

section Loop

variable {others : String → Option (String → Option (String × String))} {db : Store}

theorem ExpandedUse.entries_add (expanded : ExpandedUse) (kind type : String)
    (entry : ExpandedUseEntry) :
    (expanded.add kind entry).entries type =
      expanded.entries type ++ if kind = type then [entry] else [] := by
  by_cases same : kind = type
  · subst same
    simp [ExpandedUse.add, ExpandedUse.entries]
  · simp [ExpandedUse.add, ExpandedUse.entries, Function.update_of_ne (Ne.symm same), same]

theorem entries_expandUse (expanded : ExpandedUse) (type text : String) :
    (expandUse others db expanded text).entries type =
      expanded.entries type ++ (expandedAs others db type text).toList := by
  unfold expandUse expandedAs
  split
  case h_2 => simp
  case h_1 kind uuid isPair =>
    cases isFunc : expandFunc others db kind with
    | none => simp
    | some expand =>
        cases isFound : expand uuid with
        | none => simp [isFound, ExpandedUse.entries]
        | some found =>
            simp only [isFound, ExpandedUse.entries_add, Option.bind_some, Option.map_some]
            split <;> simp

theorem entries_expandInUse (uuids : List String) (type : String) :
    (expandInUse others db uuids).entries type =
      uuids.filterMap (expandedAs others db type) := by
  suffices fromAny : ∀ expanded : ExpandedUse,
      (uuids.foldl (expandUse others db) expanded).entries type =
        expanded.entries type ++ uuids.filterMap (expandedAs others db type) by
    exact fromAny {}
  induction uuids with
  | nil => simp
  | cons text uuids ih =>
      intro expanded
      rw [List.foldl_cons, ih, entries_expandUse, List.append_assoc]
      cases isEntry : expandedAs others db type text with
      | none => simp [isEntry]
      | some entry => simp [isEntry]

theorem mem_errors_expandUse {expanded : ExpandedUse} {text failed : String}
    (member : failed ∈ (expandUse others db expanded text).errors) :
    failed ∈ expanded.errors ∨ failed = text ∧ ∃ kind uuid expand,
      split text ':' = [kind, uuid] ∧ expandFunc others db kind = some expand ∧
        expand uuid = none := by
  unfold expandUse at member
  split at member
  case h_2 => exact .inl member
  case h_1 kind uuid isPair =>
    cases isFunc : expandFunc others db kind with
    | none =>
        rw [isFunc] at member
        exact .inl member
    | some expand =>
        cases isFound : expand uuid with
        | none =>
            simp only [isFunc, isFound, List.mem_append, List.mem_singleton] at member
            exact member.imp_right fun same => ⟨same, kind, uuid, expand, isPair, isFunc, isFound⟩
        | some found =>
            simp only [isFunc, isFound] at member
            exact .inl member

/-- An error is a text of the list whose record is missing. -/
theorem mem_errors_expandInUse {uuids : List String} {failed : String}
    (member : failed ∈ (expandInUse others db uuids).errors) :
    ∃ kind uuid expand, split failed ':' = [kind, uuid] ∧ failed ∈ uuids ∧
      expandFunc others db kind = some expand ∧ expand uuid = none := by
  suffices fromAny : ∀ expanded : ExpandedUse,
      failed ∈ (uuids.foldl (expandUse others db) expanded).errors →
        failed ∈ expanded.errors ∨ ∃ kind uuid expand, split failed ':' = [kind, uuid] ∧
          failed ∈ uuids ∧ expandFunc others db kind = some expand ∧ expand uuid = none from
    (fromAny {} member).resolve_left List.not_mem_nil
  clear member
  induction uuids with
  | nil => exact fun expanded member => .inl member
  | cons text uuids ih =>
      intro expanded member
      rcases ih _ member with already | ⟨kind, uuid, expand, isPair, listed, isFunc, missing⟩
      · rcases mem_errors_expandUse already with already | ⟨rfl, kind, uuid, expand, isPair, rest⟩
        · exact .inl already
        · exact .inr ⟨kind, uuid, expand, isPair, List.mem_cons_self, rest⟩
      · exact .inr ⟨kind, uuid, expand, isPair, List.mem_cons_of_mem _ listed, isFunc, missing⟩

end Loop

/-! ## The records that use one -/

/-- The description of a user, if it exists. -/
def userInfo (db : Store) (user : User) : Option ObjectInfo :=
  match user.table with
  | .role => (db.rolesDB.get? user.id).map ManagementRole.info
  | .entity => (db.entityDB.get? user.id).map Entity.info
  | .venue => (db.venueDB.get? user.id).map Venue.info
  | .inventory => (db.inventoryDB.get? user.id).map InventoryTag.info
  | .location => (db.locationDB.get? user.id).map Location.info
  | .contact => (db.contactDB.get? user.id).map Contact.info
  | .configuration => (db.configurationDB.get? user.id).map DeviceConfiguration.info

section Users

variable {others : String → Option (String → Option (String × String))} {db : Store}

theorem expandFunc_dbPrefix (table : UserTable) :
    expandFunc others db table.dbPrefix = some fun id =>
      (userInfo db ⟨table, id⟩).map fun info => (info.name, info.description) := by
  cases table <;>
    simp only [UserTable.dbPrefix, expandFunc, userInfo, Option.map_map] <;> rfl

theorem exists_of_mem_usesOf {α : Type} [Keyed α String] {table : Table α}
    {references : α → Referable → List String} {id referred : String} {kind : Referable}
    (refers : referred ∈ usesOf table references id kind) : ∃ row, table.get? id = some row := by
  cases found : table.get? id with
  | some row => exact ⟨row, rfl⟩
  | none =>
      rw [usesOf_of_missing found] at refers
      cases refers

/-- A record that refers to another exists. -/
theorem userInfo_of_uses {user : User} {kind : Referable} {id : String}
    (refers : id ∈ uses db user kind) : ∃ info, userInfo db user = some info := by
  obtain ⟨table, userId⟩ := user
  cases table
  all_goals
    obtain ⟨row, found⟩ := exists_of_mem_usesOf refers
    simp [userInfo, found]

variable {type : UserTable} {text : String} {entry : ExpandedUseEntry}

theorem expandedAs_eq_some (isEntry : expandedAs others db type.dbPrefix text = some entry) :
    split text ':' = [type.dbPrefix, entry.uuid] ∧
      ∃ info, userInfo db ⟨type, entry.uuid⟩ = some info ∧ info.name = entry.name ∧
        info.description = entry.description := by
  unfold expandedAs at isEntry
  split at isEntry
  case h_2 => cases isEntry
  case h_1 kind uuid isPair =>
    split at isEntry
    case isFalse => cases isEntry
    case isTrue same =>
      subst same
      simp only [expandFunc_dbPrefix, Option.bind_some] at isEntry
      cases found : userInfo db ⟨type, uuid⟩ with
      | none =>
          rw [found] at isEntry
          cases isEntry
      | some info =>
          rw [found] at isEntry
          cases isEntry
          exact ⟨isPair, info, found, rfl, rfl⟩

theorem expandedAs_entry {user : User} {info : ObjectInfo} (named : user.id ≠ "")
    (plain : ':' ∉ user.id.toList) (found : userInfo db user = some info) :
    expandedAs others db user.table.dbPrefix user.entry =
      some ⟨user.id, info.name, info.description⟩ := by
  unfold expandedAs
  rw [split_entry user named plain]
  simp [expandFunc_dbPrefix, found]

/-- In a service whose lists are exact, an expanded list has, under each table, the records of
the table that refer to the record of the list, each once, with their names.  None of them
is an error. -/
theorem expandInUse_of_run (reached : Reachable ServiceStart (LedgerStep KeepsLedgers) db)
    {kind : Referable} {id : String} {inUse : List String}
    (found : inUseOf db kind id = some inUse)
    (plain : ∀ user, id ∈ uses db user kind → user.id ≠ "" ∧ ':' ∉ user.id.toList) :
    (∀ user : User, user.entry ∉ (expandInUse others db inUse).errors) ∧
      ∀ type : UserTable,
        (((expandInUse others db inUse).entries type.dbPrefix).map (·.uuid)).Nodup ∧
        ∀ entry : ExpandedUseEntry,
          entry ∈ (expandInUse others db inUse).entries type.dbPrefix ↔
            id ∈ uses db ⟨type, entry.uuid⟩ kind ∧
              ∃ info, userInfo db ⟨type, entry.uuid⟩ = some info ∧ info.name = entry.name ∧
                info.description = entry.description := by
  have agree : ExactLedgers db :=
    reached.invariant (fun _ => exactLedgers_start) fun _ _ => ExactLedgers.step
  have isLedger : ledgers db kind id = some (inUse : Multiset String) := by
    rw [ledgers_eq_map_inUseOf, found, Option.map_some]
  have once (user : User) : inUse.count user.entry ≤ 1 := by
    have counted := agree.exact kind id _ isLedger user
    rw [Multiset.coe_count] at counted
    rw [counted]
    split <;> simp
  have listed := agree.inUseExact kind id inUse found
  -- A colon at the end of a text would belong to the id of a user.
  have isUser {type : UserTable} {uuid text : String} (member : text ∈ inUse)
      (isPair : split text ':' = [type.dbPrefix, uuid]) : text = User.entry ⟨type, uuid⟩ := by
    rcases eq_of_split_eq_pair isPair with same | same
    · exact same
    · have isEntry : User.entry ⟨type, uuid ++ ":"⟩ = text := same.symm
      have refers : id ∈ uses db ⟨type, uuid ++ ":"⟩ kind := (listed _).mp (isEntry ▸ member)
      exact absurd (by simp) (plain _ refers).2
  refine ⟨?_, ?_⟩
  · intro user failed
    obtain ⟨type, uuid, expand, isPair, member, isFunc, missing⟩ := mem_errors_expandInUse failed
    have refers := (listed user).mp member
    obtain ⟨named, plainId⟩ := plain user refers
    obtain ⟨info, isInfo⟩ := userInfo_of_uses refers
    rw [split_entry user named plainId] at isPair
    cases isPair
    rw [expandFunc_dbPrefix] at isFunc
    cases isFunc
    simp [isInfo] at missing
  · intro type
    rw [entries_expandInUse]
    refine ⟨?_, ?_⟩
    · rw [List.nodup_iff_count_le_one, List.map_filterMap]
      intro uuid
      refine le_trans ?_ (once ⟨type, uuid⟩)
      rw [List.count_filterMap]
      refine List.countP_mono_left ?_
      intro text member isUuid
      obtain ⟨entry, isEntry, rfl⟩ := Option.map_eq_some_iff.mp (eq_of_beq isUuid)
      exact beq_iff_eq.mpr (isUser member (expandedAs_eq_some isEntry).1)
    · intro entry
      rw [List.mem_filterMap]
      constructor
      · rintro ⟨text, member, isEntry⟩
        obtain ⟨isPair, isInfo⟩ := expandedAs_eq_some isEntry
        exact ⟨(listed _).mp (isUser member isPair ▸ member), isInfo⟩
      · rintro ⟨refers, info, isInfo, isName, isDescription⟩
        obtain ⟨named, plainId⟩ := plain _ refers
        refine ⟨_, (listed _).mpr refers, ?_⟩
        rw [expandedAs_entry named plainId isInfo, isName, isDescription]

end Users

/-- The location of a policy is shown with its name. -/
theorem location_expanded :
    ∃ db, inUseOf db .policy (unaryId 15) = some ["loc:" ++ unaryId 21] ∧
      ⟨unaryId 21, "Lab", ""⟩ ∈
        (expandInUse (fun _ => none) db ["loc:" ++ unaryId 21]).entries "loc" := by
  have unseen : (rootContext 20).Unseen onePolicy :=
    rootContext_unseen (rootContext_fresh (by decide)) (by decide)
      (by decide)
  let db : Store :=
    (locationDoPost (rootContext 20) onePolicy (guardedLocationRequest (unaryId 15))).store
  have reached : Reachable ServiceStart (LedgerStep KeepsLedgers) db :=
    (onePolicy_reached trivial).step
      ⟨.location, .post, rootContext 20, guardedLocationRequest (unaryId 15), unseen,
        fun _ => trivial, rfl⟩
  have found : inUseOf db .policy (unaryId 15) = some ["loc:" ++ unaryId 21] := by decide
  have exact : ExactLedgers db :=
    reached.invariant (fun _ => exactLedgers_start) fun _ _ => ExactLedgers.step
  have plain : ∀ user, unaryId 15 ∈ uses db user .policy →
      user.id ≠ "" ∧ ':' ∉ user.id.toList := by
    intro user refers
    have listed := (exact.inUseExact _ _ _ found user).mpr refers
    have isLocation : user = ⟨.location, unaryId 21⟩ :=
      User.entry_injective (List.mem_singleton.mp listed)
    subst isLocation
    decide
  refine ⟨db, found, (((expandInUse_of_run reached found plain).2 .location).2 _).mpr ⟨?_, ?_⟩⟩
  · exact (by decide : unaryId 15 ∈ uses db ⟨.location, unaryId 21⟩ .policy)
  · exact ⟨⟨unaryId 21, "Lab", ""⟩, by decide, rfl, rfl⟩

end Owprov
