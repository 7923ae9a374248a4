import Owprov.RecordFields
import Owprov.UniqueKeys

/-!
# Messages of devices

`AutoDiscovery::run` reads pings and messages of capabilities, both of which have optional fields,
and hands what it has read to `CreateFromConnection`, where a field that was not there is an empty
text.
-/

namespace Owprov

open JsonValues RowTable

/-! ## Reading a message -/

section Messages

variable (poco : Stored.Poco)

/-- A message without a serial number is not handled. -/
def handled (message : ConnectionMessage) : Option ConnectionMessage :=
  if message.serialNumber = "" then none else some message

end Messages

/-! ## The state of a device -/

def isText (text : String) : Value → Bool
  | .str other => other == text
  | _ => false

section Updates

variable {env : DiscoveryEnv} {db : Store} {object : Members} {carried : Carried} {newId : String}

end Updates

/-! ## Three pings -/

end Owprov
