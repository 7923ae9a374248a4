import Owprov.OperatorScopes

/-!
# The lookups of a request for an operator's records

Which records a handler accesses, said of the database and the request alone: the record that a
path names, those that a body refers to, the new one, or the rows of a list.
-/

namespace Owprov

open RowTable AccessLog

/-! ## References and lists -/

section Lookups

variable {α : Type} [Keyed α String]

variable {record : α → OperatorRecord} {table : Table α} {request : Request}
  {other : OperatorRecord}

end Lookups

/-! ## Subscribers -/

section Subscribers

variable {ctx : Context} {db : Store} {request : Request} {other : OperatorRecord}

end Subscribers

/-! ## Service classes, contacts and locations -/

/-- The path names one object. -/
def RecordAction.isBound : RecordAction → Bool
  | .get | .put | .delete => true
  | .post | .list => false

section OpSource

variable {α : Type} [Keyed α String]

variable {record : α → OperatorRecord} {source : OpSource α}
  {quoted : Store → String → ConditionRows α} {ctx : Context} {db : Store} {request : Request}
  {block : QueryBlock} {other : OperatorRecord}

end OpSource

section ServiceClasses

variable {selects : QuotedOperatorSelects} {ctx : Context} {db : Store} {request : Request}
  {block : QueryBlock} {other : OperatorRecord}

end ServiceClasses

/-! ## Subscriber devices -/

section SubscriberDevices

variable {ctx : Context} {db : Store} {request : Request} {block : QueryBlock}
  {other : OperatorRecord}

end SubscriberDevices

/-! ## All requests -/

section Requests

variable {selects : QuotedOperatorSelects} {ctx : Context} {db : Store} {request : Request}
  {route : OperatorRoute}

end Requests

end Owprov
