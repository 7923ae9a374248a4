import Owprov.Scope

/-!
# The query text in the classification of a request

`handleRequest` hands the whole request URI to the authorization, so that both marker
cascades run over the path and the query text together.  The query text matters through
the markers it contains that stand before the path's own marker, and through nothing
else once the parameters that the resolver reads are fixed.
-/

namespace Owprov

open MarkerCascade

/-! ## The branch cascade -/

/-- The cascade of `boundBranch` as a table of markers. -/
def branchCascade : List (Entry Char BoundBranch) :=
  [ marked ["/api/v1/entity"] .entity,
    marked ["/api/v1/venue"] .venue,
    marked ["/api/v1/inventory"] .inventory,
    marked ["/api/v1/configurationOverrides", "/api/v1/overrides"] .overrides,
    marked ["/api/v1/configuration"] .configuration,
    marked ["/api/v1/managementRole"] .managementRole,
    marked ["/api/v1/contact"] .contact,
    marked ["/api/v1/location"] .location,
    marked ["/api/v1/managementPolicy"] .managementPolicy,
    marked ["/api/v1/map"] .map,
    marked ["/api/v1/variables"] .variableBlock,
    marked ["/api/v1/serviceClass"] .serviceClass,
    marked ["/api/v1/operator"] .operator,
    marked ["/api/v1/subscriberDevice"] .subscriberDevice,
    marked ["/api/v1/subscriber"] .subscriber,
    marked ["/api/v1/op_contact"] .opContact,
    marked ["/api/v1/op_location"] .opLocation ]

theorem boundBranch_eq_classify (path : String) :
    boundBranch path = classify branchCascade path.toList := by
  unfold boundBranch branchCascade
  simp only [classify_marked, classify_marked_two, classify_nil]

theorem resourceCascade_values_nodup : (resourceCascade.map Entry.value).Nodup := by
  decide

theorem branchCascade_values_nodup : (branchCascade.map Entry.value).Nodup := by
  decide

theorem resourceCascade_free :
    ∀ entry ∈ resourceCascade, ∀ marker ∈ entry.markers, '?' ∉ marker := by
  decide

theorem branchCascade_free :
    ∀ entry ∈ branchCascade, ∀ marker ∈ entry.markers, '?' ∉ marker := by
  decide

/-- Equal resource names come from equal classifications. -/
theorem getResourceName_eq_iff (path path' : String) :
    getResourceName path = getResourceName path' ↔
      classify resourceCascade path.toList = classify resourceCascade path'.toList := by
  rw [getResourceName_eq_classify, getResourceName_eq_classify]
  have named : ∀ text name, classify resourceCascade text = some name → name ≠ "" := by
    intro text name found empty
    have noEmpty : "" ∉ resourceCascade.map Entry.value := by decide
    exact noEmpty (empty ▸ value_mem_of_classify found)
  constructor
  · intro equal
    cases left : classify resourceCascade path.toList with
    | none =>
        cases right : classify resourceCascade path'.toList with
        | none => rfl
        | some name =>
            rw [left, right] at equal
            exact absurd equal.symm (named _ _ right)
    | some name =>
        cases right : classify resourceCascade path'.toList with
        | none =>
            rw [left, right] at equal
            exact absurd equal (named _ _ left)
        | some name' =>
            rw [left, right] at equal
            exact congrArg some equal
  · intro equal
    rw [equal]

/-! ## The path and the query text -/

/-- A request URI with its query text. -/
def uriWithQuery (path query : String) : String :=
  path ++ "?" ++ query

theorem uriWithQuery_toList (path query : String) :
    (uriWithQuery path query).toList = path.toList ++ '?' :: query.toList := by
  simp [uriWithQuery]

/-- Two query texts put the same entry, if any, before the path's own one. -/
def OverridesAlike {β : Type} (cascade : List (Entry Char β)) (path query query' : String) :
    Prop :=
  overriding cascade path.toList query.toList = overriding cascade path.toList query'.toList

theorem getResourceName_query_iff (path query query' : String) :
    getResourceName (uriWithQuery path query) = getResourceName (uriWithQuery path query') ↔
      OverridesAlike resourceCascade path query query' := by
  rw [getResourceName_eq_iff, uriWithQuery_toList, uriWithQuery_toList, OverridesAlike]
  exact classify_append_cons_eq_iff resourceCascade_values_nodup resourceCascade_free _ _ _

theorem boundBranch_query_iff (path query query' : String) :
    boundBranch (uriWithQuery path query) = boundBranch (uriWithQuery path query') ↔
      OverridesAlike branchCascade path query query' := by
  rw [boundBranch_eq_classify, boundBranch_eq_classify, uriWithQuery_toList,
    uriWithQuery_toList, OverridesAlike]
  exact classify_append_cons_eq_iff branchCascade_values_nodup branchCascade_free _ _ _

/-! ## The parent field -/

theorem getResourceName_eq_entity_iff (path : String) :
    getResourceName path = "entity" ↔ pathHas path "/api/v1/entity" = true := by
  constructor
  · intro named
    by_contra other
    rw [getResourceName_eq_classify, resourceCascade, classify_marked, if_neg other] at named
    cases found : classify resourceCascade.tail path.toList with
    | none =>
        rw [resourceCascade, List.tail_cons] at found
        simp [found] at named
    | some name =>
        have member := value_mem_of_classify found
        rw [resourceCascade, List.tail_cons] at found
        simp only [found, Option.getD_some] at named
        have noEntity : "entity" ∉ resourceCascade.tail.map Entry.value := by decide
        exact noEntity (named ▸ member)
  · intro has
    rw [getResourceName, if_pos has]

theorem getResourceName_eq_venue_iff (path : String) :
    getResourceName path = "venue" ↔
      pathHas path "/api/v1/entity" = false ∧ pathHas path "/api/v1/venue" = true := by
  constructor
  · intro named
    have noEntity : ¬ pathHas path "/api/v1/entity" = true := by
      intro has
      rw [getResourceName, if_pos has] at named
      exact absurd named (by decide)
    refine ⟨by simpa using noEntity, ?_⟩
    by_contra other
    rw [getResourceName_eq_classify, resourceCascade, classify_marked, if_neg noEntity,
      classify_marked, if_neg other] at named
    cases found : classify resourceCascade.tail.tail path.toList with
    | none =>
        rw [resourceCascade, List.tail_cons, List.tail_cons] at found
        simp [found] at named
    | some name =>
        have member := value_mem_of_classify found
        rw [resourceCascade, List.tail_cons, List.tail_cons] at found
        simp only [found, Option.getD_some] at named
        have noVenue : "venue" ∉ resourceCascade.tail.tail.map Entry.value := by decide
        exact noVenue (named ▸ member)
  · rintro ⟨noEntity, has⟩
    rw [getResourceName, if_neg (by simp [noEntity]), if_pos has]

/-- The parent field is read alike under equal resource names. -/
theorem parentCandidates_congr {path path' : String}
    (equal : getResourceName path = getResourceName path') (parentId : String) :
    parentCandidates path parentId = parentCandidates path' parentId := by
  have entity : pathHas path "/api/v1/entity" = pathHas path' "/api/v1/entity" := by
    rw [Bool.eq_iff_iff, ← getResourceName_eq_entity_iff, ← getResourceName_eq_entity_iff, equal]
  cases has : pathHas path "/api/v1/entity" with
  | true => rw [parentCandidates, parentCandidates, ← entity, if_pos has, if_pos has]
  | false =>
      have venue : pathHas path "/api/v1/venue" = pathHas path' "/api/v1/venue" := by
        have iffs := getResourceName_eq_venue_iff path
        rw [equal, getResourceName_eq_venue_iff, ← entity, has] at iffs
        simp only [true_and] at iffs
        rw [Bool.eq_iff_iff]
        exact iffs.symm
      rw [parentCandidates, parentCandidates, ← entity, ← venue]

/-! ## The parameters -/

/-- The query parameters that `ResolveTargetContext` reads. -/
def isScopeParameter (parameter : String × String) : Bool :=
  ["entity", "venue", "operatorId", "operator", "registrationId", "subscriberId",
    "signupUUID"].contains parameter.1

/-- The parameters that the resolver reads, in their order. -/
def scopeParameters (parameters : List (String × String)) : List (String × String) :=
  parameters.filter isScopeParameter

theorem queryStep_of_not_scope (db : Store) (candidates : Candidates)
    {parameter : String × String} (other : isScopeParameter parameter = false) :
    queryStep db candidates parameter = candidates := by
  obtain ⟨name, value⟩ := parameter
  simp only [isScopeParameter, List.contains_eq_mem, List.mem_cons, List.not_mem_nil, or_false,
    decide_eq_false_iff_not, not_or] at other
  obtain ⟨entity, venue, operatorId, operator, registrationId, subscriberId, signup⟩ := other
  simp only [queryStep, entity, venue, operatorId, operator, registrationId, subscriberId,
    signup, or_self, if_false]

theorem queryCandidates_scopeParameters (db : Store) (parameters : List (String × String)) :
    queryCandidates db (scopeParameters parameters) = queryCandidates db parameters := by
  unfold queryCandidates scopeParameters
  generalize ({} : Candidates) = start
  induction parameters generalizing start with
  | nil => rfl
  | cons parameter parameters ih =>
      cases read : isScopeParameter parameter with
      | true => simpa [List.filter_cons, read] using ih (queryStep db start parameter)
      | false => simpa [List.filter_cons, read, queryStep_of_not_scope db start read] using ih start

theorem any_selector_scopeParameters (parameters : List (String × String)) :
    (scopeParameters parameters).any (fun parameter =>
        ["entity", "venue", "operatorId", "operator"].contains parameter.1) =
      parameters.any fun parameter =>
        ["entity", "venue", "operatorId", "operator"].contains parameter.1 := by
  rw [scopeParameters, List.any_filter]
  congr 1
  funext parameter
  rw [Bool.and_eq_right_iff_imp]
  simp only [isScopeParameter, List.contains_eq_mem, List.mem_cons, List.not_mem_nil, or_false,
    decide_eq_true_eq]
  tauto

/-! ## The decision -/

/-- The decision depends on the URI through the resource name and the branch, and on the
query parameters through those the resolver reads. -/
theorem roleIsAuthorized_congr (db : Store) (caller : Caller) {request request' : Request}
    (method : request.method = request'.method) (bindings : request.bindings = request'.bindings)
    (body : request.body = request'.body)
    (resource : getResourceName request.uri = getResourceName request'.uri)
    (branch : boundBranch request.uri = boundBranch request'.uri)
    (parameters : scopeParameters request.parameters = scopeParameters request'.parameters) :
    roleIsAuthorized db caller request = roleIsAuthorized db caller request' := by
  have boundIds : request.boundId = request'.boundId := by
    simp only [Request.boundId, bindings]
  have constraintIds : request.constraintId = request'.constraintId := by
    simp only [Request.constraintId, bindings]
  have candidates :
      queryCandidates db request.parameters = queryCandidates db request'.parameters := by
    rw [← queryCandidates_scopeParameters, parameters, queryCandidates_scopeParameters]
  have fromBody : bodyCandidates request.uri = bodyCandidates request'.uri := by
    funext fields
    simp only [bodyCandidates, parentCandidates_congr resource]
  have unbound : resolveUnbound db request = resolveUnbound db request' := by
    simp only [resolveUnbound, candidates, body, fromBody]
  have context : resolveTargetContext db request = resolveTargetContext db request' := by
    simp only [resolveTargetContext, method, boundIds, branch, unbound]
  have selector : request.hasScopeSelector = request'.hasScopeSelector := by
    simp only [Request.hasScopeSelector, method, constraintIds, body]
    rw [← any_selector_scopeParameters, parameters, any_selector_scopeParameters]
  have assigns (name : String) : assignsRootRole name request = assignsRootRole name request' := by
    simp only [assignsRootRole, method, body]
  have constraint (name : String) :
      hasScopeConstraint name request = hasScopeConstraint name request' := by
    simp only [hasScopeConstraint, selector]
  simp only [roleIsAuthorized, resource, assigns, method, context, constraint]

/-- A request as `handleRequest` builds it from a path and a query text; `queryParameters`
is what the URI library reads from the URI. -/
def queriedRequest (queryParameters : String → List (String × String)) (method : HttpMethod)
    (bindings : List (String × String)) (body : Option JsonObject) (path query : String) :
    Request where
  method := method
  uri := uriWithQuery path query
  bindings := bindings
  parameters := queryParameters (uriWithQuery path query)
  body := body

/-- Two query texts that agree on the parameters the resolver reads lead to the same
resource, branch and decision exactly when they override the path's own marker alike in
both cascades. -/
theorem sameDecision_iff_overridesAlike (queryParameters : String → List (String × String))
    (path query query' : String)
    (agree : scopeParameters (queryParameters (uriWithQuery path query)) =
      scopeParameters (queryParameters (uriWithQuery path query'))) :
    (∀ db caller method bindings body,
        getResourceName (uriWithQuery path query) = getResourceName (uriWithQuery path query') ∧
        boundBranch (uriWithQuery path query) = boundBranch (uriWithQuery path query') ∧
        roleIsAuthorized db caller
            (queriedRequest queryParameters method bindings body path query) =
          roleIsAuthorized db caller
            (queriedRequest queryParameters method bindings body path query')) ↔
      OverridesAlike resourceCascade path query query' ∧
        OverridesAlike branchCascade path query query' := by
  constructor
  · intro same
    obtain ⟨resource, branch, _⟩ :=
      same initialStore { user := { id := "", userRole := .admin } } .get [] none
    exact ⟨(getResourceName_query_iff path query query').mp resource,
      (boundBranch_query_iff path query query').mp branch⟩
  · rintro ⟨resourceAlike, branchAlike⟩ db caller method bindings body
    have resource := (getResourceName_query_iff path query query').mpr resourceAlike
    have branch := (boundBranch_query_iff path query query').mpr branchAlike
    exact ⟨resource, branch, roleIsAuthorized_congr db caller rfl rfl rfl resource branch agree⟩

/-- What the URI library reads from the two URIs of the examples below. -/
def sampleQueryParameters (uri : String) : List (String × String) :=
  if uri = "/api/v1/contact?x=1" then [("x", "1")] else [("x", "/api/v1/entity")]

/-- A user whose only role, on some entity, has a policy for entities. -/
def entityReader : Caller where
  user := { id := "reader", userRole := .admin }
  roles := [{ info := { id := "role-1" }, managementPolicy := "policy-1", entity := "e-1" }]
  policy _ := some
    { info := { id := "policy-1" }
      entries := [{ resources := ["entity"], access := ["READ"] }] }

/-- A list of contacts is refused to a reader of entities, and granted when the query text
names the route of the entities. -/
theorem query_changes_decision :
    scopeParameters (sampleQueryParameters (uriWithQuery "/api/v1/contact" "x=1")) =
        scopeParameters
          (sampleQueryParameters (uriWithQuery "/api/v1/contact" "x=/api/v1/entity")) ∧
      getResourceName (uriWithQuery "/api/v1/contact" "x=1") = "contact" ∧
      getResourceName (uriWithQuery "/api/v1/contact" "x=/api/v1/entity") = "entity" ∧
      boundBranch (uriWithQuery "/api/v1/contact" "x=1") = some .contact ∧
      boundBranch (uriWithQuery "/api/v1/contact" "x=/api/v1/entity") = some .entity ∧
      roleIsAuthorized initialStore entityReader
        (queriedRequest sampleQueryParameters .get [] none "/api/v1/contact" "x=1") =
          some false ∧
      roleIsAuthorized initialStore entityReader
        (queriedRequest sampleQueryParameters .get [] none "/api/v1/contact"
          "x=/api/v1/entity") = some true := by
  decide

/-- Without a route in the query text nothing changes. -/
theorem sameDecision_iff_overridesAlike_contact :
    (OverridesAlike resourceCascade "/api/v1/contact" "x=1" "x=2" ∧
      OverridesAlike branchCascade "/api/v1/contact" "x=1" "x=2") ∧
    ∀ db caller method bindings body,
      getResourceName (uriWithQuery "/api/v1/contact" "x=1") =
        getResourceName (uriWithQuery "/api/v1/contact" "x=2") ∧
      boundBranch (uriWithQuery "/api/v1/contact" "x=1") =
        boundBranch (uriWithQuery "/api/v1/contact" "x=2") ∧
      roleIsAuthorized db caller
          (queriedRequest (fun _ => []) method bindings body "/api/v1/contact" "x=1") =
        roleIsAuthorized db caller
          (queriedRequest (fun _ => []) method bindings body "/api/v1/contact" "x=2") := by
  have alike : OverridesAlike resourceCascade "/api/v1/contact" "x=1" "x=2" ∧
      OverridesAlike branchCascade "/api/v1/contact" "x=1" "x=2" := by
    unfold OverridesAlike
    decide
  exact ⟨alike, (sameDecision_iff_overridesAlike (fun _ => []) "/api/v1/contact" "x=1" "x=2"
    rfl).mpr alike⟩

end Owprov
