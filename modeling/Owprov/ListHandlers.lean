import Owprov.Handler

/-!
# List handlers

A list request reads the rows of one table: those whose ids it selects, or those of an
entity or of a venue, or all of them.  Two lists depend on the caller besides: a user's own
maps, and the roles of a user as far as the caller has roles in the same places.
-/

namespace Owprov

open RowTable

/-- The answer of a list handler. -/
inductive ListAnswer (α : Type) where
  | records (rows : List α)
  | count (number : ℕ)
  /-- The handler returns without an answer. -/
  | nothing

/-- The records in the answer to a list request, if there are any. -/
def answeredRows {α : Type} : Except Failure (ListAnswer α) → List α
  | .ok (.records rows) => rows
  | _ => []

/-- A table that a list handler reads, with its columns for the scope. -/
structure ListSource (α : Type) [Keyed α String] where
  table : Store → Table α
  entity : α → String
  venue : Option (α → String)
  quoted : QuotedSelects → Store → String → QueryBlock → List α

def contactSource : ListSource Contact where
  table := Store.contactDB
  entity := Contact.entity
  venue := none
  quoted := QuotedSelects.contacts

def locationSource : ListSource Location where
  table := Store.locationDB
  entity := Location.entity
  venue := none
  quoted := QuotedSelects.locations

def configurationSource : ListSource DeviceConfiguration where
  table := Store.configurationDB
  entity := DeviceConfiguration.entity
  venue := some DeviceConfiguration.venue
  quoted := QuotedSelects.configurations

def variablesSource : ListSource VariableBlock where
  table := Store.variablesDB
  entity := VariableBlock.entity
  venue := some VariableBlock.venue
  quoted := QuotedSelects.variables

def mapSource : ListSource Map where
  table := Store.mapDB
  entity := Map.entity
  venue := some Map.venue
  quoted := QuotedSelects.maps

def roleSource : ListSource ManagementRole where
  table := Store.rolesDB
  entity := ManagementRole.entity
  venue := some ManagementRole.venue
  quoted := QuotedSelects.roles

section ListHandler

variable {α : Type} [Keyed α String]

/-- `ReturnRecordList`, which gives up on the first id that names nothing. -/
def returnRecordList (table : Table α) : List String → Except Failure (List α)
  | [] => .ok []
  | id :: ids =>
      match table.get? id with
      | none => .error (.badRequest .unknownId)
      | some row => do
          let rows ← returnRecordList table ids
          return row :: rows

/-- `GetRecords` where a column has a value from the request.  The text of the condition has
a blank before the value, and fails when the table has no such column. -/
def ListSource.getRecords (source : ListSource α) (env : Env) (db : Store) (block : QueryBlock)
    (column : String) (read : Option (α → String)) (value : String) : List α :=
  if value.toList.contains sqlQuote then
    source.quoted env.quotedSelects db
      (" " ++ column ++ "=" ++ sqlQuote.toString ++ " " ++ value ++ sqlQuote.toString) block
  else
    match read with
    | none => []
    | some read =>
        block.window ((source.table db).rows.filter fun row => read row == " " ++ value)

/-- The rows, or just their number. -/
def rowsOrCount (block : QueryBlock) (rows : List α) : ListAnswer α :=
  if block.countOnly then .count rows.length else .records rows

/-- `ListHandler`. -/
def listHandler (source : ListSource α) (env : Env) (db : Store) (request : Request) :
    Except Failure (ListAnswer α) := do
  let block ← request.queryBlock
  let entity := request.getParameter "entity"
  let venue := request.getParameter "venue"
  if block.select ≠ [] then
    let rows ← returnRecordList (source.table db) block.select
    return .records rows
  else if entity ≠ "" then
    return rowsOrCount block
      (source.getRecords env db block "entity" (some source.entity) entity)
  else if venue ≠ "" then
    return rowsOrCount block (source.getRecords env db block "venue" source.venue venue)
  else if block.countOnly then
    return .count (source.table db).rows.length
  else
    return .records (block.window (source.table db).rows)

end ListHandler

/-! ## The handlers -/

/-- `RESTAPI_contact_list_handler::DoGet`. -/
def contactListDoGet (ctx : Context) (db : Store) (request : Request) :
    Except Failure (ListAnswer Contact) :=
  listHandler contactSource ctx.env db request

/-- `RESTAPI_location_list_handler::DoGet`. -/
def locationListDoGet (ctx : Context) (db : Store) (request : Request) :
    Except Failure (ListAnswer Location) :=
  listHandler locationSource ctx.env db request

/-- `RESTAPI_configurations_list_handler::DoGet`. -/
def configurationListDoGet (ctx : Context) (db : Store) (request : Request) :
    Except Failure (ListAnswer DeviceConfiguration) :=
  listHandler configurationSource ctx.env db request

/-- `RESTAPI_variables_list_handler::DoGet`. -/
def variablesListDoGet (ctx : Context) (db : Store) (request : Request) :
    Except Failure (ListAnswer VariableBlock) :=
  listHandler variablesSource ctx.env db request

/-- `RESTAPI_map_list_handler::DoGet`; for the maps that are shared with the caller there is
no answer. -/
def mapListDoGet (ctx : Context) (db : Store) (request : Request) :
    Except Failure (ListAnswer Map) := do
  let block ← request.queryBlock
  if request.getBoolParameter "myMaps" then
    return .records
      (block.window (db.mapDB.rows.filter fun map => map.creator == ctx.caller.user.id))
  else if request.getBoolParameter "sharedWithMe" then
    return .nothing
  else
    listHandler mapSource ctx.env db request

/-- The user whose roles are asked for. -/
def requestedUser (request : Request) : String :=
  if request.getParameter "user" ≠ "" then
    request.getParameter "user"
  else if request.getParameter "userId" ≠ "" then
    request.getParameter "userId"
  else
    request.getParameter "user_id"

/-- The entities that the caller's roles name. -/
def Caller.allowedEntities (caller : Caller) : List String :=
  (caller.roles.map ManagementRole.entity).filter (· != "")

/-- The venues that the caller's roles name. -/
def Caller.allowedVenues (caller : Caller) : List String :=
  (caller.roles.map ManagementRole.venue).filter (· != "")

/-- `RESTAPI_managementRole_list_handler::DoGet`. -/
def roleListDoGet (ctx : Context) (db : Store) (request : Request) :
    Except Failure (ListAnswer ManagementRole) := do
  let _block ← request.queryBlock
  let userParam := requestedUser request
  if userParam ≠ "" then
    let isRoot := ctx.caller.user.userRole == .root
    let allowedEntities := ctx.caller.allowedEntities
    let allowedVenues := ctx.caller.allowedVenues
    if isRoot = false ∧ allowedEntities = [] ∧ allowedVenues = [] then
      return .records []
    else
      return .records
        (db.rolesDB.rows.filter fun role =>
          role.users.contains userParam &&
            (isRoot || allowedEntities.contains role.entity ||
              allowedVenues.contains role.venue))
  else
    listHandler roleSource ctx.env db request

/-! ## The rows of an answer -/

section Selected

variable {α : Type} [Keyed α String] {source : ListSource α} {env : Env} {db : Store}
  {request : Request} {block : QueryBlock}

/-- The rows that a list without selected ids reads: those of the entity, else those of the
venue, else all. -/
def ListSource.Reads (source : ListSource α) (env : Env) (db : Store) (request : Request)
    (block : QueryBlock) (row : α) : Prop :=
  if request.getParameter "entity" ≠ "" then
    row ∈ source.getRecords env db block "entity" (some source.entity)
      (request.getParameter "entity")
  else if request.getParameter "venue" ≠ "" then
    row ∈ source.getRecords env db block "venue" source.venue (request.getParameter "venue")
  else
    row ∈ block.window (source.table db).rows

/-- Selected ids answer their records when all of them name one. -/
theorem returnRecordList_eq (table : Table α) (ids : List String) :
    returnRecordList table ids =
      if ids.all (idExists table) then .ok (ids.filterMap table.get?)
      else .error (.badRequest .unknownId) := by
  induction ids with
  | nil => rfl
  | cons id ids ih =>
      rw [returnRecordList]
      cases found : table.get? id with
      | none => simp [idExists, found]
      | some row =>
          rw [ih]
          by_cases present : ids.all (idExists table) = true
          · simp [present, idExists, found, bind, Except.bind, pure, Except.pure]
          · simp [present, idExists, found, bind, Except.bind]

end Selected

end Owprov
