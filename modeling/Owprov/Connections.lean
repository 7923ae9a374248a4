import Owprov.InventoryHandlers

/-!
# Connection messages

A gateway reports the devices that connect to it.  `AutoDiscovery` enters a device that the
inventory does not have, and keeps the tag of a device that it has up to date.
-/

namespace Owprov

open RowTable

/-- The arguments of `CreateFromConnection`. -/
structure ConnectionMessage where
  serialNumber : String
  connectionInfo : String
  deviceType : String
  locale : String
  deriving DecidableEq, Repr

/-- What a connection is handled with: the ranges of addresses, the state of a device that was
just discovered, and what becomes of the state of a device that the inventory has.  A state that
does not parse ends the call with an exception. -/
structure ConnectionEnv where
  /-- `CIDR::IpInRanges`. -/
  ipInRanges : String → List String → Bool
  discoveredState : String
  connectedState : String → Option String

/-- The second of the three tokens of a connection, or nothing. -/
def ConnectionMessage.ip (message : ConnectionMessage) : String :=
  match message.connectionInfo.toList.splitOnP fun c => c == '@' || c == ':' with
  | [_, ip, _] => String.ofList ip
  | _ => ""

/-- `GetByIP` of a table whose rows have ranges of addresses. -/
def getByIP {α : Type} [Keyed α String] (env : ConnectionEnv) (table : Table α)
    (sourceIP : α → List String) (ip : String) : String :=
  ((table.rows.find? fun row => !(sourceIP row).isEmpty && env.ipInRanges ip (sourceIP row)).map
    key).getD ""

/-- The tag of a device that the inventory does not have. -/
def discoveredTag (env : ConnectionEnv) (db : Store) (message : ConnectionMessage)
    (newId : String) : InventoryTag :=
  let serialNumber := toLower message.serialNumber
  let ip := message.ip
  let venue := if ip = "" then "" else getByIP env db.venueDB Venue.sourceIP ip
  { info := { id := newId, name := serialNumber }
    serialNumber := serialNumber
    deviceType := message.deviceType
    locale := message.locale
    state := env.discoveredState
    devClass := "any"
    venue := venue
    entity :=
      if ip = "" ∨ venue ≠ "" then "" else getByIP env db.entityDB Entity.sourceIP ip }

/-- The tag of a device that the inventory has, after it connected. -/
def InventoryTag.connected (existing : InventoryTag) (message : ConnectionMessage)
    (state : String) : InventoryTag :=
  { existing with
    deviceType := message.deviceType
    state := state
    devClass := if existing.state = "" then "any" else existing.devClass
    locale := message.locale }

/-- The new version of a tag, unless the state does not parse or nothing changes. -/
def connectedTag (env : ConnectionEnv) (message : ConnectionMessage) (existing : InventoryTag) :
    Option InventoryTag :=
  if existing.state = "" then
    some (existing.connected message "")
  else
    (env.connectedState existing.state).bind fun state =>
      if existing.connected message state = existing then none
      else some (existing.connected message state)

/-- What `CreateFromConnection` does after its `GetRecord`. -/
inductive ConnectionPlan where
  | created (tag : InventoryTag)
  | updated (tag : InventoryTag)
  | unchanged
  deriving DecidableEq

/-- The `GetRecord` of `CreateFromConnection` and what follows from it; an exception changes
nothing. -/
def connectionPlan (env : ConnectionEnv) (db : Store) (message : ConnectionMessage)
    (newId : String) : ConnectionPlan :=
  match getBy db.inventoryDB InventoryTag.serialNumber (toLower message.serialNumber) with
  | none => .created (discoveredTag env db message newId)
  | some existing =>
      match connectedTag env message existing with
      | some updated => .updated updated
      | none => .unchanged

/-- The `CreateRecord` of `CreateFromConnection`, and the entity or else the venue lists the
device. -/
def enterDiscovered (db : Store) (tag : InventoryTag) : Option Store :=
  (db.inventoryDB.insert? tag).map fun inventoryDB =>
    if tag.entity ≠ "" then
      { db with
        inventoryDB := inventoryDB
        entityDB := manipulateVectorMember db.entityDB Entity.devicesMember tag.entity
          tag.info.id true }
    else if tag.venue ≠ "" then
      { db with
        inventoryDB := inventoryDB
        venueDB := manipulateVectorMember db.venueDB Venue.devicesMember tag.venue
          tag.info.id true }
    else
      { db with inventoryDB := inventoryDB }

/-- `CreateFromConnection`. -/
def createFromConnection (env : ConnectionEnv) (db : Store) (message : ConnectionMessage)
    (newId : String) : Store :=
  match connectionPlan env db message newId with
  | .created tag => (enterDiscovered db tag).getD db
  | .updated tag => { db with inventoryDB := db.inventoryDB.update tag }
  | .unchanged => db

/-! ## What a connection plans -/

theorem connectionPlan_eq_created {env : ConnectionEnv} {db : Store} {message : ConnectionMessage}
    {newId : String} {tag : InventoryTag}
    (planned : connectionPlan env db message newId = .created tag) :
    getBy db.inventoryDB InventoryTag.serialNumber tag.serialNumber = none ∧
      tag = discoveredTag env db message newId := by
  unfold connectionPlan at planned
  split at planned
  · rename_i missing
    cases planned
    exact ⟨missing, rfl⟩
  · split at planned <;> cases planned

theorem connectedTag_eq_some {env : ConnectionEnv} {message : ConnectionMessage}
    {existing tag : InventoryTag} (connected : connectedTag env message existing = some tag) :
    ∃ state, tag = existing.connected message state := by
  unfold connectedTag at connected
  split at connected
  · exact ⟨"", (Option.some.inj connected).symm⟩
  · obtain ⟨state, _, changed⟩ := Option.bind_eq_some_iff.mp connected
    split at changed
    · cases changed
    · exact ⟨state, (Option.some.inj changed).symm⟩

theorem connectionPlan_eq_updated {env : ConnectionEnv} {db : Store} {message : ConnectionMessage}
    {newId : String} {tag : InventoryTag}
    (planned : connectionPlan env db message newId = .updated tag) :
    ∃ existing ∈ db.inventoryDB.rows, tag.info = existing.info ∧
      tag.serialNumber = existing.serialNumber ∧ tag.serialNumber = toLower message.serialNumber := by
  unfold connectionPlan at planned
  split at planned
  · cases planned
  · rename_i existing found
    split at planned
    · rename_i updated connected
      cases planned
      obtain ⟨state, rfl⟩ := connectedTag_eq_some connected
      have atSerial := getBy_column found
      exact ⟨existing, getBy_mem found, rfl, rfl, atSerial⟩
    · cases planned

theorem inventoryDB_of_enterDiscovered {db db' : Store} {tag : InventoryTag}
    (entered : enterDiscovered db tag = some db') :
    db.inventoryDB.insert? tag = some db'.inventoryDB := by
  rw [enterDiscovered, Option.map_eq_some_iff] at entered
  obtain ⟨inventoryDB, inserted, rfl⟩ := entered
  rw [inserted]
  split_ifs <;> rfl

end Owprov
