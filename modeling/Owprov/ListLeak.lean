import Owprov.EntityTree
import Owprov.ListHandlers
import Owprov.ScopeAgreement

/-!
# Lists and tenants

A list request is authorized by its query alone, and for any role of the caller when the
query names no scope.  The records that it answers are picked by other parameters.  Every
record of every answer lies where its reader has a role exactly when the records that the
parameters pick lie in the scope that was checked.
-/

namespace Owprov

open RowTable

/-- The list requests whose records lie in an entity or a venue. -/
inductive ListRoute where
  | contact
  | location
  | configuration
  | variableBlock
  | map
  | managementRole
  deriving DecidableEq, Repr

/-- The entity and the venue that a record names. -/
def ListSource.scope {α : Type} [Keyed α String] (source : ListSource α) (row : α) : Scope where
  entity := source.entity row
  venue :=
    match source.venue with
    | none => ""
    | some read => read row

/-- The scopes of the records in an answer. -/
def ListRoute.answer (route : ListRoute) (ctx : Context) (db : Store) (request : Request) :
    List Scope :=
  match route with
  | contact => (answeredRows (contactListDoGet ctx db request)).map contactSource.scope
  | location => (answeredRows (locationListDoGet ctx db request)).map locationSource.scope
  | configuration =>
      (answeredRows (configurationListDoGet ctx db request)).map configurationSource.scope
  | variableBlock => (answeredRows (variablesListDoGet ctx db request)).map variablesSource.scope
  | map => (answeredRows (mapListDoGet ctx db request)).map mapSource.scope
  | managementRole => (answeredRows (roleListDoGet ctx db request)).map roleSource.scope

/-- The roles of a user are listed to callers who have a role in the same place.  Those
without a role on its venue have one that names its entity. -/
def ListRoute.EntityLevel (route : ListRoute) (request : Request) (scope : Scope) : Prop :=
  route = managementRole → requestedUser request ≠ "" → scope.entity ≠ ""

section Answer

variable {ctx : Context} {db : Store} {request : Request} {scope : Scope}

end Answer

/-! ## When lists are confined -/

section Confined

variable {ctx : Context} {db : Store} {request : Request} {scope : Scope}

end Confined

end Owprov
