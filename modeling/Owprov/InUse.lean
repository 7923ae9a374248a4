import Owprov.DevicePlacement
import Owprov.Lib.UsageLedger
import Owprov.ReferenceHandlers
import Owprov.SharedConfigurations

/-!
# The in-use ledgers

Policies, locations, contacts and configurations list the records that refer to them, each as
the prefix of its table and its id.  The module says which record refers to what, when the
lists are exact, and what the moves of the handlers are to `UsageLedger`.
-/

namespace Owprov

open RowTable ForeignKeys UsageLedger

/-! ## Users and references -/

/-- The kinds of records that list their users. -/
inductive Referable where
  | policy
  | location
  | contact
  | configuration
  deriving DecidableEq, Repr

/-- The tables whose records refer to them. -/
inductive UserTable where
  | role
  | entity
  | venue
  | inventory
  | location
  | contact
  | configuration
  deriving DecidableEq, Repr

/-- `Prefix()` of a table. -/
def UserTable.dbPrefix : UserTable → String
  | .role => "rol"
  | .entity => "ent"
  | .venue => "ven"
  | .inventory => "inv"
  | .location => "loc"
  | .contact => "con"
  | .configuration => "cfg"

/-- A record that may refer to others, whether it exists or not. -/
structure User where
  table : UserTable
  id : String
  deriving DecidableEq, Repr

/-- The text that stands for a user in a list. -/
def User.entry (user : User) : String :=
  user.table.dbPrefix ++ ":" ++ user.id

theorem UserTable.length_dbPrefix (table : UserTable) : table.dbPrefix.toList.length = 3 := by
  cases table <;> rfl

theorem UserTable.dbPrefix_injective {table table' : UserTable}
    (same : table.dbPrefix.toList = table'.dbPrefix.toList) : table = table' := by
  cases table <;> cases table' <;> first | rfl | exact absurd same (by decide)

theorem User.entry_injective : Function.Injective User.entry := by
  rintro ⟨table, id⟩ ⟨table', id'⟩ same
  have texts := congrArg String.toList same
  simp only [entry, String.toList_append, List.append_assoc] at texts
  obtain ⟨prefixes, rest⟩ := List.append_inj texts
    (table.length_dbPrefix.trans table'.length_dbPrefix.symm)
  obtain rfl := UserTable.dbPrefix_injective prefixes
  have ids := String.toList_injective (List.append_cancel_left rest)
  rw [ids]

/-- A single reference, which may be left empty. -/
def singleReference (id : String) : List String :=
  (optionalId id).toList

/-- The references of a record that refers to a policy only. -/
def policyReference (managementPolicy : String) : Referable → List String
  | .policy => singleReference managementPolicy
  | _ => []

def ManagementRole.references (role : ManagementRole) : Referable → List String :=
  policyReference role.managementPolicy

def Entity.references (entity : Entity) : Referable → List String
  | .policy => singleReference entity.managementPolicy
  | .configuration => entity.deviceConfiguration
  | _ => []

def Venue.references (venue : Venue) : Referable → List String
  | .policy => singleReference venue.managementPolicy
  | .location => singleReference venue.location
  | .contact => venue.contacts
  | .configuration => venue.deviceConfiguration

def InventoryTag.references (tag : InventoryTag) : Referable → List String
  | .policy => singleReference tag.managementPolicy
  | .location => singleReference tag.location
  | .contact => singleReference tag.contact
  | .configuration => singleReference tag.deviceConfiguration

def Location.references (location : Location) : Referable → List String :=
  policyReference location.managementPolicy

def Contact.references (contact : Contact) : Referable → List String :=
  policyReference contact.managementPolicy

def DeviceConfiguration.references (config : DeviceConfiguration) : Referable → List String :=
  policyReference config.managementPolicy

section UsesOf

variable {α : Type} [Keyed α String]

/-- What the record under an id refers to, if there is one. -/
def usesOf (table : Table α) (references : α → Referable → List String) (id : String) :
    Referable → List String :=
  ((table.get? id).map references).getD fun _ => []

variable {table table' : Table α} {references : α → Referable → List String}

theorem usesOf_of_get? {id : String} {row : α} (found : table.get? id = some row) :
    usesOf table references id = references row := by
  rw [usesOf, found, Option.map_some, Option.getD_some]

theorem usesOf_of_missing {id : String} (missing : table.get? id = none) :
    usesOf table references id = fun _ => [] := by
  rw [usesOf, missing, Option.map_none, Option.getD_none]

theorem usesOf_congr (same : Table.SameView references table table') :
    usesOf table' references = usesOf table references := by
  funext id
  exact congrArg (fun view => Option.getD view fun _ => []) (same id)

theorem usesOf_insert? {row : α} (inserted : table.insert? row = some table') :
    usesOf table' references =
      Function.update (usesOf table references) (key row) (references row) := by
  funext id
  by_cases same : id = key row
  · subst same
    simp [usesOf, Table.get?_insert? inserted]
  · simp [usesOf, Table.get?_insert? inserted, same]

theorem usesOf_update {old new : α} (found : table.get? (key new) = some old) :
    usesOf (table.update new) references =
      Function.update (usesOf table references) (key new) (references new) := by
  funext id
  by_cases same : id = key new
  · subst same
    simp [usesOf, Table.get?_update_self found]
  · simp [usesOf, Table.get?_update_of_ne table same, same]

theorem usesOf_delete (id : String) :
    usesOf (table.delete id) references =
      Function.update (usesOf table references) id fun _ => [] := by
  funext other
  by_cases same : other = id
  · subst same
    simp [usesOf, Table.get?_delete]
  · simp [usesOf, Table.get?_delete, same]

end UsesOf

/-- The references of the records of a table. -/
def usesIn (db : Store) : UserTable → String → Referable → List String
  | .role => usesOf db.rolesDB ManagementRole.references
  | .entity => usesOf db.entityDB Entity.references
  | .venue => usesOf db.venueDB Venue.references
  | .inventory => usesOf db.inventoryDB InventoryTag.references
  | .location => usesOf db.locationDB Location.references
  | .contact => usesOf db.contactDB Contact.references
  | .configuration => usesOf db.configurationDB DeviceConfiguration.references

/-- What every user refers to. -/
def uses (db : Store) : Uses User Referable String :=
  fun user => usesIn db user.table user.id

/-- The `inUse` of the record of a kind under an id. -/
def inUseOf (db : Store) : Referable → String → Option (List String)
  | .policy => fun id => (db.policyDB.get? id).map ManagementPolicy.inUse
  | .location => fun id => (db.locationDB.get? id).map Location.inUse
  | .contact => fun id => (db.contactDB.get? id).map Contact.inUse
  | .configuration => fun id => (db.configurationDB.get? id).map DeviceConfiguration.inUse

/-- An `inUse` list has the entry of a user exactly when the user exists and refers to the
record of the list. -/
def InUseExact (db : Store) : Prop :=
  ∀ (kind : Referable) (id : String) (inUse : List String), inUseOf db kind id = some inUse →
    ∀ user : User, user.entry ∈ inUse ↔ id ∈ uses db user kind

/-- The `inUse` lists as ledgers. -/
def ledgers (db : Store) : Ledgers Referable String String
  | .policy => memberships db.policyDB ManagementPolicy.inUseMember
  | .location => memberships db.locationDB Location.inUseMember
  | .contact => memberships db.contactDB Contact.inUseMember
  | .configuration => memberships db.configurationDB DeviceConfiguration.inUseMember

theorem ledgers_eq_map_inUseOf (db : Store) (kind : Referable) (id : String) :
    ledgers db kind id =
      (inUseOf db kind id).map fun inUse : List String => (inUse : Multiset String) := by
  cases kind <;> simp only [ledgers, memberships, inUseOf, Option.map_map] <;> rfl

/-! ## Moves -/

section Moves

variable {α : Type} [Keyed α String] {table : Table α} {inUse : VectorMember α}

theorem singleReference_inj {id id' : String} :
    singleReference id = singleReference id' ↔ id = id' := by
  unfold singleReference
  constructor
  · intro same
    by_cases blank : id = ""
    · by_cases blank' : id' = ""
      · rw [blank, blank']
      · simp [blank, optionalId_of_ne blank'] at same
    · by_cases blank' : id' = ""
      · simp [blank', optionalId_of_ne blank] at same
      · simpa [optionalId_of_ne blank, optionalId_of_ne blank'] using same
  · rintro rfl
    rfl

theorem mem_singleReference {id other : String} :
    other ∈ singleReference id ↔ id = other ∧ other ≠ "" := by
  rw [singleReference, Option.mem_toList, optionalId_eq_some_iff]
  constructor
  · rintro ⟨rfl, filled⟩
    exact ⟨rfl, filled⟩
  · rintro ⟨rfl, filled⟩
    exact ⟨rfl, filled⟩

/-- `MoveUsage` for single ids. -/
theorem memberships_moveUsage (dbPrefix fromId toId id : String) :
    memberships (moveUsage table inUse dbPrefix fromId toId id) inUse =
      follow (memberships table inUse) (singleReference fromId) (singleReference toId)
        (dbPrefix ++ ":" ++ id) := by
  unfold moveUsage follow
  by_cases same : fromId = toId
  · rw [if_pos same, if_pos (congrArg singleReference same)]
  · rw [if_neg same, if_neg (mt singleReference_inj.mp same), memberships_addMembership,
      memberships_removeMembership]
    unfold singleReference enterAll strikeAll
    cases optionalId fromId <;> cases optionalId toId <;> rfl

/-- `MoveUsage` for lists of ids. -/
theorem memberships_moveUsages (dbPrefix : String) (fromIds toIds : List String) (id : String) :
    memberships (moveUsages table inUse dbPrefix fromIds toIds id) inUse =
      follow (memberships table inUse) fromIds toIds (dbPrefix ++ ":" ++ id) := by
  have entered : ∀ (ids : List String) (table : Table α),
      memberships (ids.foldl (fun table obj =>
        manipulateVectorMember table inUse obj (dbPrefix ++ ":" ++ id) true) table) inUse =
      enterAll (memberships table inUse) ids (dbPrefix ++ ":" ++ id) := by
    intro ids
    induction ids with
    | nil => exact fun _ => rfl
    | cons object ids ih =>
        intro table
        rw [List.foldl_cons, ih, memberships_add]
        rfl
  have struck : ∀ (ids : List String) (table : Table α),
      memberships (ids.foldl (fun table obj =>
        manipulateVectorMember table inUse obj (dbPrefix ++ ":" ++ id) false) table) inUse =
      strikeAll (memberships table inUse) ids (dbPrefix ++ ":" ++ id) := by
    intro ids
    induction ids with
    | nil => exact fun _ => rfl
    | cons object ids ih =>
        intro table
        rw [List.foldl_cons, ih, memberships_remove]
        rfl
  unfold moveUsages follow
  split
  · rfl
  · dsimp only
    rw [entered, struck]

end Moves

/-! ## Writes to a store -/

section Writes

variable {db db' : Store}

/-- Only one table changes its references, and only for one id. -/
theorem uses_eq_update {table : UserTable} {id : String} {references : Referable → List String}
    (own : usesIn db' table = Function.update (usesIn db table) id references)
    (others : ∀ other, other ≠ table → usesIn db' other = usesIn db other) :
    uses db' = Function.update (uses db) ⟨table, id⟩ references := by
  funext user
  obtain ⟨userTable, userId⟩ := user
  by_cases sameTable : userTable = table
  · subst sameTable
    by_cases sameId : userId = id
    · subst sameId
      simp [uses, own]
    · have apart : (⟨userTable, userId⟩ : User) ≠ ⟨userTable, id⟩ := by simp [sameId]
      rw [Function.update_of_ne apart, uses, own, Function.update_of_ne sameId]
      rfl
  · have apart : (⟨userTable, userId⟩ : User) ≠ ⟨table, id⟩ := by simp [sameTable]
    rw [Function.update_of_ne apart, uses, others userTable sameTable]
    rfl

theorem uses_rolesDB {table : Table ManagementRole} {id : String}
    {references : Referable → List String}
    (written : usesOf table ManagementRole.references =
      Function.update (usesOf db.rolesDB ManagementRole.references) id references) :
    uses { db with rolesDB := table } = Function.update (uses db) ⟨.role, id⟩ references :=
  uses_eq_update written fun other apart => by
    cases other <;> first | rfl | exact absurd rfl apart

theorem uses_entityDB {table : Table Entity} {id : String} {references : Referable → List String}
    (written : usesOf table Entity.references =
      Function.update (usesOf db.entityDB Entity.references) id references) :
    uses { db with entityDB := table } = Function.update (uses db) ⟨.entity, id⟩ references :=
  uses_eq_update written fun other apart => by
    cases other <;> first | rfl | exact absurd rfl apart

theorem uses_venueDB {table : Table Venue} {id : String} {references : Referable → List String}
    (written : usesOf table Venue.references =
      Function.update (usesOf db.venueDB Venue.references) id references) :
    uses { db with venueDB := table } = Function.update (uses db) ⟨.venue, id⟩ references :=
  uses_eq_update written fun other apart => by
    cases other <;> first | rfl | exact absurd rfl apart

theorem uses_inventoryDB {table : Table InventoryTag} {id : String}
    {references : Referable → List String}
    (written : usesOf table InventoryTag.references =
      Function.update (usesOf db.inventoryDB InventoryTag.references) id references) :
    uses { db with inventoryDB := table } = Function.update (uses db) ⟨.inventory, id⟩ references :=
  uses_eq_update written fun other apart => by
    cases other <;> first | rfl | exact absurd rfl apart

theorem uses_locationDB {table : Table Location} {id : String}
    {references : Referable → List String}
    (written : usesOf table Location.references =
      Function.update (usesOf db.locationDB Location.references) id references) :
    uses { db with locationDB := table } = Function.update (uses db) ⟨.location, id⟩ references :=
  uses_eq_update written fun other apart => by
    cases other <;> first | rfl | exact absurd rfl apart

theorem uses_contactDB {table : Table Contact} {id : String} {references : Referable → List String}
    (written : usesOf table Contact.references =
      Function.update (usesOf db.contactDB Contact.references) id references) :
    uses { db with contactDB := table } = Function.update (uses db) ⟨.contact, id⟩ references :=
  uses_eq_update written fun other apart => by
    cases other <;> first | rfl | exact absurd rfl apart

theorem uses_configurationDB {table : Table DeviceConfiguration} {id : String}
    {references : Referable → List String}
    (written : usesOf table DeviceConfiguration.references =
      Function.update (usesOf db.configurationDB DeviceConfiguration.references) id references) :
    uses { db with configurationDB := table } =
      Function.update (uses db) ⟨.configuration, id⟩ references :=
  uses_eq_update written fun other apart => by
    cases other <;> first | rfl | exact absurd rfl apart

/-- Records keep what they refer to. -/
structure SameReferences (db db' : Store) : Prop where
  roles : Table.SameView ManagementRole.references db.rolesDB db'.rolesDB := by
    exact Table.SameView.refl _ _
  entities : Table.SameView Entity.references db.entityDB db'.entityDB := by
    exact Table.SameView.refl _ _
  venues : Table.SameView Venue.references db.venueDB db'.venueDB := by
    exact Table.SameView.refl _ _
  tags : Table.SameView InventoryTag.references db.inventoryDB db'.inventoryDB := by
    exact Table.SameView.refl _ _
  locations : Table.SameView Location.references db.locationDB db'.locationDB := by
    exact Table.SameView.refl _ _
  contacts : Table.SameView Contact.references db.contactDB db'.contactDB := by
    exact Table.SameView.refl _ _
  configurations :
    Table.SameView DeviceConfiguration.references db.configurationDB db'.configurationDB := by
    exact Table.SameView.refl _ _

theorem SameReferences.uses_eq (same : SameReferences db db') : uses db' = uses db := by
  funext user
  obtain ⟨table, id⟩ := user
  unfold uses
  cases table with
  | role => exact congrFun (usesOf_congr same.roles) id
  | entity => exact congrFun (usesOf_congr same.entities) id
  | venue => exact congrFun (usesOf_congr same.venues) id
  | inventory => exact congrFun (usesOf_congr same.tags) id
  | location => exact congrFun (usesOf_congr same.locations) id
  | contact => exact congrFun (usesOf_congr same.contacts) id
  | configuration => exact congrFun (usesOf_congr same.configurations) id

theorem ledgers_policyDB (db : Store) (table : Table ManagementPolicy) :
    ledgers { db with policyDB := table } =
      Function.update (ledgers db) .policy (memberships table ManagementPolicy.inUseMember) := by
  funext kind
  cases kind <;> rfl

theorem ledgers_locationDB (db : Store) (table : Table Location) :
    ledgers { db with locationDB := table } =
      Function.update (ledgers db) .location (memberships table Location.inUseMember) := by
  funext kind
  cases kind <;> rfl

theorem ledgers_contactDB (db : Store) (table : Table Contact) :
    ledgers { db with contactDB := table } =
      Function.update (ledgers db) .contact (memberships table Contact.inUseMember) := by
  funext kind
  cases kind <;> rfl

theorem ledgers_configurationDB (db : Store) (table : Table DeviceConfiguration) :
    ledgers { db with configurationDB := table } =
      Function.update (ledgers db) .configuration
        (memberships table DeviceConfiguration.inUseMember) := by
  funext kind
  cases kind <;> rfl

/-! ### The moves of the handlers -/

theorem uses_movePolicyUsage (db : Store) (dbPrefix fromId toId id : String) :
    uses (movePolicyUsage db dbPrefix fromId toId id) = uses db :=
  SameReferences.uses_eq {}

theorem ledgers_movePolicyUsage (db : Store) (table : UserTable) (fromId toId id : String)
    (kind : Referable) :
    ledgers (movePolicyUsage db table.dbPrefix fromId toId id) kind =
      follow (ledgers db kind) (policyReference fromId kind) (policyReference toId kind)
        (User.entry ⟨table, id⟩) := by
  cases kind with
  | policy => exact memberships_moveUsage table.dbPrefix fromId toId id
  | location => exact (if_pos rfl).symm
  | contact => exact (if_pos rfl).symm
  | configuration => exact (if_pos rfl).symm

theorem uses_moveConfiguration (db : Store) (moves : ConfigurationMoves) (id : String) :
    uses (moveConfiguration db moves id) = uses db :=
  SameReferences.uses_eq
    { entities := sameView_manageMembership (fun _ _ => rfl) _ _ _
      venues := sameView_manageMembership (fun _ _ => rfl) _ _ _ }

theorem ledgers_moveConfiguration (db : Store) (moves : ConfigurationMoves) (id : String)
    (kind : Referable) :
    ledgers (moveConfiguration db moves id) kind =
      follow (ledgers db kind) (policyReference moves.fromPolicy kind)
        (policyReference moves.toPolicy kind) (User.entry ⟨.configuration, id⟩) :=
  ledgers_movePolicyUsage _ .configuration _ _ id kind

theorem uses_linkConfiguration (db : Store) (body : JsonObject) (config : DeviceConfiguration) :
    uses (linkConfiguration db body config) = uses db :=
  SameReferences.uses_eq
    { entities := sameView_addMembership (fun _ _ => rfl) _ _
      venues := sameView_addMembership (fun _ _ => rfl) _ _ }

theorem ledgers_linkConfiguration (db : Store) (body : JsonObject) (config : DeviceConfiguration)
    (kind : Referable) :
    ledgers (linkConfiguration db body config) kind =
      follow (ledgers db kind) (policyReference "" kind)
        (policyReference config.managementPolicy kind)
        (User.entry ⟨.configuration, config.info.id⟩) :=
  ledgers_movePolicyUsage _ .configuration _ _ config.info.id kind

/-- What a venue leaves, by kind. -/
def VenueMoves.fromReferences (moves : VenueMoves) : Referable → List String
  | .policy => singleReference moves.fromPolicy
  | .location => singleReference moves.fromLocation
  | .contact => moves.fromContacts
  | .configuration => moves.fromConfigurations

/-- What a venue takes, by kind. -/
def VenueMoves.toReferences (moves : VenueMoves) : Referable → List String
  | .policy => singleReference moves.toPolicy
  | .location => singleReference moves.toLocation
  | .contact => moves.toContacts
  | .configuration => moves.toConfigurations

theorem uses_moveVenue (db : Store) (moves : VenueMoves) (id : String) :
    uses (moveVenue db moves id) = uses db :=
  SameReferences.uses_eq
    { entities := sameView_manageMembership (fun _ _ => rfl) _ _ _
      venues := sameView_manageMembership (fun _ _ => rfl) _ _ _
      locations := sameView_moveUsage (fun _ _ => rfl) _ _ _ _
      contacts := sameView_moveUsages (fun _ _ => rfl) _ _ _ _
      configurations := sameView_moveUsages (fun _ _ => rfl) _ _ _ _ }

theorem ledgers_moveVenue (db : Store) (moves : VenueMoves) (id : String) (kind : Referable) :
    ledgers (moveVenue db moves id) kind =
      follow (ledgers db kind) (moves.fromReferences kind) (moves.toReferences kind)
        (User.entry ⟨.venue, id⟩) := by
  cases kind with
  | policy => exact memberships_moveUsage "ven" moves.fromPolicy moves.toPolicy id
  | location => exact memberships_moveUsage "ven" moves.fromLocation moves.toLocation id
  | contact => exact memberships_moveUsages "ven" moves.fromContacts moves.toContacts id
  | configuration =>
      exact memberships_moveUsages "ven" moves.fromConfigurations moves.toConfigurations id

/-- What a tag leaves, by kind. -/
def TagMoves.fromReferences (moves : TagMoves) : Referable → List String
  | .policy => singleReference moves.fromPolicy
  | .location => singleReference moves.fromLocation
  | .contact => singleReference moves.fromContact
  | .configuration => singleReference moves.fromConfiguration

/-- What a tag takes, by kind. -/
def TagMoves.toReferences (moves : TagMoves) : Referable → List String
  | .policy => singleReference moves.toPolicy
  | .location => singleReference moves.toLocation
  | .contact => singleReference moves.toContact
  | .configuration => singleReference moves.toConfiguration

theorem uses_moveTag (db : Store) (moves : TagMoves) (id : String) :
    uses (moveTag db moves id) = uses db :=
  SameReferences.uses_eq
    { entities := sameView_manageMembership (fun _ _ => rfl) _ _ _
      venues := sameView_manageMembership (fun _ _ => rfl) _ _ _
      locations := sameView_moveUsage (fun _ _ => rfl) _ _ _ _
      contacts := sameView_moveUsage (fun _ _ => rfl) _ _ _ _
      configurations := sameView_moveUsage (fun _ _ => rfl) _ _ _ _ }

theorem ledgers_moveTag (db : Store) (moves : TagMoves) (id : String) (kind : Referable) :
    ledgers (moveTag db moves id) kind =
      follow (ledgers db kind) (moves.fromReferences kind) (moves.toReferences kind)
        (User.entry ⟨.inventory, id⟩) := by
  cases kind with
  | policy => exact memberships_moveUsage "inv" moves.fromPolicy moves.toPolicy id
  | location => exact memberships_moveUsage "inv" moves.fromLocation moves.toLocation id
  | contact => exact memberships_moveUsage "inv" moves.fromContact moves.toContact id
  | configuration =>
      exact memberships_moveUsage "inv" moves.fromConfiguration moves.toConfiguration id

end Writes

/-! ## Exact ledgers -/

/-- The ledgers are exact, and no entity refers to a configuration, whose ledger no entity
handler writes. -/
structure LedgersAgree (uses : Uses User Referable String)
    (ledgers : Ledgers Referable String String) : Prop where
  exact : UsageLedger.Exact User.entry uses ledgers
  bare : ∀ id, uses ⟨.entity, id⟩ .configuration = []

/-- The `inUse` lists of a store are exact, each entry occurring once. -/
def ExactLedgers (db : Store) : Prop :=
  LedgersAgree (uses db) (ledgers db)

theorem ExactLedgers.inUseExact {db : Store} (agree : ExactLedgers db) : InUseExact db := by
  intro kind id inUse found user
  have isLedger : ledgers db kind id = some (inUse : Multiset String) := by
    rw [ledgers_eq_map_inUseOf, found, Option.map_some]
  rw [← Multiset.mem_coe]
  exact agree.exact.mem_iff isLedger user

/-- A handler moves a user from the old references to the new ones, or keeps still where they
are the same. -/
def Follows (old new fromIds toIds : List String) : Prop :=
  (fromIds = old ∧ toIds = new) ∨ (fromIds = toIds ∧ old = new)

theorem Follows.follow_eq {old new fromIds toIds : List String}
    (follows : Follows old new fromIds toIds) (lists : Lists String String) (e : String) :
    follow lists fromIds toIds e = follow lists old new e := by
  rcases follows with ⟨rfl, rfl⟩ | ⟨rfl, rfl⟩
  · rfl
  · rw [follow, follow, if_pos rfl, if_pos rfl]

theorem follows_of_moves {old new fromId toId : String} (moves : Moves old new fromId toId) :
    Follows (singleReference old) (singleReference new) (singleReference fromId)
      (singleReference toId) := by
  rcases moves with ⟨rfl, rfl, rfl⟩ | ⟨rfl, rfl⟩
  · exact Or.inr ⟨rfl, rfl⟩
  · exact Or.inl ⟨rfl, rfl⟩

namespace LedgersAgree

variable {before : Uses User Referable String} {db db' : Store}

/-- A user changes its references, and every ledger follows. -/
theorem follow (agree : LedgersAgree before (ledgers db)) (user : User)
    (new fromIds toIds : Referable → List String)
    (follows : ∀ kind, Follows (before user kind) (new kind) (fromIds kind) (toIds kind))
    (bare : user.table = .entity → new .configuration = [])
    (usesEq : uses db' = Function.update before user new)
    (followed : ∀ kind, ledgers db' kind =
      UsageLedger.follow (ledgers db kind) (fromIds kind) (toIds kind) user.entry) :
    ExactLedgers db' := by
  have ledgersEq : ledgers db' = fun kind =>
      UsageLedger.follow (ledgers db kind) (before user kind) (new kind) user.entry := by
    funext kind
    rw [followed, (follows kind).follow_eq]
  unfold ExactLedgers
  rw [usesEq, ledgersEq]
  refine ⟨agree.exact.move User.entry_injective user new, fun id => ?_⟩
  by_cases same : (⟨.entity, id⟩ : User) = user
  · subst same
    rw [Function.update_self]
    exact bare rfl
  · rw [Function.update_of_ne same]
    exact agree.bare id

end LedgersAgree

end Owprov
