import Owprov.Lib.MarkerCascade
import Owprov.ProvObjects

/-!
# Resource names and policies

The classification of a request path into a resource name, and the two tables that say
which access words of a policy entry cover a required one: `policyAllows` enforces,
`accessEntryGrants` decides what may be delegated.
-/

namespace Owprov

open MarkerCascade

/-- `GetResourceName`. -/
def getResourceName (path : String) : String :=
  if pathHas path "/api/v1/entity" then "entity"
  else if pathHas path "/api/v1/venue" then "venue"
  else if pathHas path "/api/v1/inventory" then "inventory"
  else if pathHas path "/api/v1/subscriberDevice" || pathHas path "/api/v1/sub_devices" then
    "subscriberDevice"
  else if pathHas path "/api/v1/subscriber" then "subscriber"
  else if pathHas path "/api/v1/configurationOverrides" || pathHas path "/api/v1/overrides" then
    "overrides"
  else if pathHas path "/api/v1/configuration" then "configuration"
  else if pathHas path "/api/v1/managementRole" then "managementRole"
  else if pathHas path "/api/v1/managementPolicy" then "managementPolicy"
  else if pathHas path "/api/v1/operator" then "operator"
  else if pathHas path "/api/v1/contact" || pathHas path "/api/v1/op_contact" then "contact"
  else if pathHas path "/api/v1/location" || pathHas path "/api/v1/op_location" then "location"
  else if pathHas path "/api/v1/map" then "map"
  else if pathHas path "/api/v1/variables" then "variables"
  else if pathHas path "/api/v1/radiusEndpoint" || pathHas path "/api/v1/RADIUSEndPoints" then
    "radiusEndpoint"
  else if pathHas path "/api/v1/openroaming" then "openroaming"
  else if pathHas path "/api/v1/serviceClass" then "serviceClass"
  else if pathHas path "/api/v1/configurationOverrides" || pathHas path "/api/v1/overrides" then
    "overrides"
  else if pathHas path "/api/v1/iptocountry" then "iptocountry"
  else if pathHas path "/api/v1/systemConfiguration" then "systemConfiguration"
  else ""

/-- A cascade entry whose markers are given as strings. -/
def marked {β : Type} (markers : List String) (value : β) : Entry Char β where
  markers := markers.map String.toList
  value := value

theorem classify_marked {β : Type} (marker : String) (value : β)
    (cascade : List (Entry Char β)) (path : String) :
    classify (marked [marker] value :: cascade) path.toList =
      if pathHas path marker then some value else classify cascade path.toList := by
  rw [classify_cons]
  by_cases found : marker.toList <:+: path.toList <;>
    simp [marked, occursIn_one, pathHas, found]

theorem classify_marked_two {β : Type} (marker marker' : String) (value : β)
    (cascade : List (Entry Char β)) (path : String) :
    classify (marked [marker, marker'] value :: cascade) path.toList =
      if pathHas path marker || pathHas path marker' then some value
      else classify cascade path.toList := by
  rw [classify_cons]
  by_cases found : marker.toList <:+: path.toList <;>
    by_cases found' : marker'.toList <:+: path.toList <;>
      simp [marked, occursIn_two, pathHas, found, found']

/-- The cascade of `getResourceName` as a table of markers, without its second and
unreachable test for overrides. -/
def resourceCascade : List (Entry Char String) :=
  [ marked ["/api/v1/entity"] "entity",
    marked ["/api/v1/venue"] "venue",
    marked ["/api/v1/inventory"] "inventory",
    marked ["/api/v1/subscriberDevice", "/api/v1/sub_devices"] "subscriberDevice",
    marked ["/api/v1/subscriber"] "subscriber",
    marked ["/api/v1/configurationOverrides", "/api/v1/overrides"] "overrides",
    marked ["/api/v1/configuration"] "configuration",
    marked ["/api/v1/managementRole"] "managementRole",
    marked ["/api/v1/managementPolicy"] "managementPolicy",
    marked ["/api/v1/operator"] "operator",
    marked ["/api/v1/contact", "/api/v1/op_contact"] "contact",
    marked ["/api/v1/location", "/api/v1/op_location"] "location",
    marked ["/api/v1/map"] "map",
    marked ["/api/v1/variables"] "variables",
    marked ["/api/v1/radiusEndpoint", "/api/v1/RADIUSEndPoints"] "radiusEndpoint",
    marked ["/api/v1/openroaming"] "openroaming",
    marked ["/api/v1/serviceClass"] "serviceClass",
    marked ["/api/v1/iptocountry"] "iptocountry",
    marked ["/api/v1/systemConfiguration"] "systemConfiguration" ]

theorem getResourceName_eq_classify (path : String) :
    getResourceName path = (classify resourceCascade path.toList).getD "" := by
  unfold getResourceName resourceCascade
  simp only [classify_marked, classify_marked_two, classify_nil, apply_ite (Option.getD · ""),
    Option.getD_some, Option.getD_none]
  by_cases overrides :
      (pathHas path "/api/v1/configurationOverrides" || pathHas path "/api/v1/overrides") = true
  · simp only [overrides, if_true]
  · simp only [overrides, Bool.false_eq_true, if_false]

/-- The names `getResourceName` answers with. -/
def resourceNames : List String :=
  "" :: resourceCascade.map Entry.value

theorem getResourceName_mem (path : String) : getResourceName path ∈ resourceNames := by
  rw [getResourceName_eq_classify, resourceNames]
  cases found : classify resourceCascade path.toList with
  | none => exact List.mem_cons_self
  | some name => exact List.mem_cons_of_mem _ (value_mem_of_classify found)

/-! ## Enforcement -/

/-- The access word that `PolicyAllows` requires for a method. -/
def accessRequired : HttpMethod → Option String
  | .get => some "READ"
  | .post => some "CREATE"
  | .put => some "UPDATE"
  | .delete => some "DELETE"
  | .other => none

/-- A resource name of a policy entry covers the resource of a request. -/
def resourceMatches (res resource : String) : Bool :=
  icompare res resource || res == "*" ||
    ((resource == "managementRole" || resource == "managementPolicy") &&
      (icompare res "entity" || icompare res "operator")) ||
    (resource == "serviceClass" && (icompare res "operator" || icompare res "entity")) ||
    (resource == "subscriberDevice" && icompare res "inventory") ||
    (resource == "overrides" && icompare res "inventory") ||
    (resource == "op_contact" && icompare res "contact") ||
    (resource == "op_location" && icompare res "location")

/-- An access word of a policy entry covers the one a method requires. -/
def accessMatches (acc required : String) : Bool :=
  acc == "FULL" || acc == required ||
    (required == "CREATE" && (acc == "MODIFY" || acc == "UPDATE" || acc == "READWRITE")) ||
    (required == "UPDATE" && (acc == "MODIFY" || acc == "READWRITE")) ||
    (required == "READ" && (acc == "READWRITE" || acc == "MODIFY"))

/-- `PolicyAllows`. -/
def policyAllows (policy : ManagementPolicy) (resource : String) (method : HttpMethod) : Bool :=
  match accessRequired method with
  | none => false
  | some required =>
      policy.entries.any fun entry =>
        entry.resources.any (fun res => resourceMatches res resource) &&
          entry.access.any (fun acc => accessMatches acc required)

/-! ## Delegation -/

/-- A resource name of a requester's entry covers a resource name of a target entry. -/
def grantResourceMatches (res resource : String) : Bool :=
  icompare res resource || res == "*" ||
    (icompare resource "subscriberDevice" && icompare res "inventory") ||
    (icompare resource "op_contact" && icompare res "contact") ||
    (icompare resource "op_location" && icompare res "location")

/-- An access word of a requester's entry covers an access word of a target entry. -/
def grantAccessMatches (acc required : String) : Bool :=
  acc == "FULL" || acc == required ||
    (required == "CREATE" && (acc == "MODIFY" || acc == "UPDATE" || acc == "READWRITE")) ||
    (required == "UPDATE" && (acc == "MODIFY" || acc == "READWRITE")) ||
    (required == "MODIFY" && (acc == "UPDATE" || acc == "READWRITE")) ||
    (required == "READ" && (acc == "READWRITE" || acc == "MODIFY"))

/-- `AccessEntryGrants`. -/
def accessEntryGrants (entry : ManagementPolicyEntry) (resource required : String) : Bool :=
  entry.resources.any (fun res => grantResourceMatches res resource) &&
    entry.access.any (fun acc => grantAccessMatches acc required)

/-- `PolicyGrants`. -/
def policyGrants (policy : ManagementPolicy) (resource required : String) : Bool :=
  policy.entries.any fun entry => accessEntryGrants entry resource required

/-- The last loop of `RequesterHasEqualOrStrongerPermission`: every resource and access
word of the target is covered by one requester policy. -/
def coversTarget (requesterPolicies : List ManagementPolicy) (target : ManagementPolicy) :
    Bool :=
  target.entries.all fun entry =>
    entry.resources.all fun res =>
      entry.access.all fun acc =>
        requesterPolicies.any fun policy =>
          policyGrants policy res acc || policyGrants policy res "FULL"

/-! ## What the tables say -/

theorem policyAllows_iff {policy : ManagementPolicy} {resource : String} {method : HttpMethod} :
    policyAllows policy resource method = true ↔
      ∃ required, accessRequired method = some required ∧
        ∃ entry ∈ policy.entries, (∃ res ∈ entry.resources, resourceMatches res resource = true) ∧
          ∃ acc ∈ entry.access, accessMatches acc required = true := by
  unfold policyAllows
  cases accessRequired method with
  | none => simp
  | some required => simp [List.any_eq_true]

theorem policyGrants_iff {policy : ManagementPolicy} {resource required : String} :
    policyGrants policy resource required = true ↔
      ∃ entry ∈ policy.entries,
        (∃ res ∈ entry.resources, grantResourceMatches res resource = true) ∧
          ∃ acc ∈ entry.access, grantAccessMatches acc required = true := by
  simp [policyGrants, accessEntryGrants, List.any_eq_true]

theorem coversTarget_iff {requesterPolicies : List ManagementPolicy}
    {target : ManagementPolicy} :
    coversTarget requesterPolicies target = true ↔
      ∀ entry ∈ target.entries, ∀ res ∈ entry.resources, ∀ acc ∈ entry.access,
        ∃ policy ∈ requesterPolicies,
          policyGrants policy res acc = true ∨ policyGrants policy res "FULL" = true := by
  simp [coversTarget, List.all_eq_true, List.any_eq_true]

end Owprov
