import Owprov.OperatorAccess
import Owprov.ScopeAgreement

/-!
# Operators and the scope of a request

A request for a subscriber, a service class, a contact, a location or a subscriber device is
authorized for the entity of one operator.  Its handler looks records up by parameters of its own,
and the records may be those of other operators.
-/

namespace Owprov

open RowTable AccessLog

section Touches

variable {selects : QuotedOperatorSelects} {ctx : Context} {db : Store} {request : Request}
  {route : OperatorRoute} {operator : Operator}

end Touches

end Owprov
