import Owprov.ScopeDecision

/-!
# Delegation

A requester may grant a policy on a scope when its own policies on that scope cover the
granted one.  The table that decides this differs from the table that is enforced in one
word: `UPDATE` covers `MODIFY`, which allows reading while `UPDATE` does not.
-/

namespace Owprov

/-! ## The requester's policies on a scope -/

/-- The policies of the given roles, a missing policy being skipped. -/
def Caller.policiesOf (caller : Caller) (roles : List ManagementRole) : List ManagementPolicy :=
  roles.filterMap fun role => caller.policy role.managementPolicy

/-- The loop over the entity-level roles when no role is specific to the venue. -/
def entityPolicyLoop (db : Store) (caller : Caller) (entityId venueId : String) :
    List ManagementRole → Option (List ManagementPolicy)
  | [] => some []
  | role :: roles =>
      if role.entity = entityId ∧ role.venue = "" then
        match allowedVenues db role.entity with
        | none => none
        | some allowed => do
            let rest ← entityPolicyLoop db caller entityId venueId roles
            if venueId ∈ allowed then
              return (caller.policy role.managementPolicy).toList ++ rest
            else
              return rest
      else
        entityPolicyLoop db caller entityId venueId roles

/-- `requesterPolicies`: the policies considered for a scope. -/
def requesterPolicies (db : Store) (caller : Caller) (entityId venueId : String) :
    Option (List ManagementPolicy) :=
  if venueId ≠ "" then
    if caller.roles.any fun role => role.venue == venueId then
      some (caller.policiesOf (caller.roles.filter fun role => role.venue == venueId))
    else
      entityPolicyLoop db caller entityId venueId caller.roles
  else
    some (caller.policiesOf
      (caller.roles.filter fun role => role.entity == entityId && role.venue == ""))

/-- `RequesterHasEqualOrStrongerPermission`; `none` is a recursion that does not end. -/
def requesterHasEqualOrStrongerPermission (db : Store) (caller : Caller)
    (entityId venueId : String) (target : ManagementPolicy) : Option Bool :=
  (requesterPolicies db caller entityId venueId).map fun policies =>
    !policies.isEmpty && coversTarget policies target

/-- The policies considered for a scope, when the search for them ends. -/
def consideredPolicies (db : Store) (caller : Caller) (entityId venueId : String) :
    List ManagementPolicy :=
  (requesterPolicies db caller entityId venueId).getD []

theorem coversTarget_of_permission {db : Store} {caller : Caller} {entityId venueId : String}
    {target : ManagementPolicy}
    (accepted :
      requesterHasEqualOrStrongerPermission db caller entityId venueId target = some true) :
    coversTarget (consideredPolicies db caller entityId venueId) target = true := by
  unfold requesterHasEqualOrStrongerPermission at accepted
  obtain ⟨policies, found, covers⟩ := Option.map_eq_some_iff.mp accepted
  rw [consideredPolicies, found, Option.getD_some]
  rw [Bool.and_eq_true] at covers
  exact covers.2

theorem toLower_eq_star {text : String} (lower : toLower text = toLower "*") : text = "*" := by
  have chars : text.toList.map Char.toLower = ['*'] := by
    have := congrArg String.toList lower
    simpa [toLower] using this
  obtain ⟨c, single, lowered⟩ := List.map_eq_singleton_iff.mp chars
  have star : c = '*' := by
    by_cases upper : c.val ≥ 'A'.val ∧ c.val ≤ 'Z'.val
    · have shifted : c.toLower.val = c.val + 32 := by
        rw [show c.toLower = _ from dif_pos upper]
        rfl
      have value := congrArg Char.toNat lowered
      simp only [Char.toNat, shifted, UInt32.toNat_add] at value
      have low : 65 ≤ c.val.toNat := by
        simpa [UInt32.le_iff_toNat_le] using upper.1
      have high : c.val.toNat ≤ 90 := by
        simpa [UInt32.le_iff_toNat_le] using upper.2
      have stars : '*'.val.toNat = 42 := rfl
      rw [stars] at value
      change (c.val.toNat + 32) % 2 ^ 32 = 42 at value
      omega
    · exact (show c.toLower = c from dif_neg upper).symm.trans lowered
  rw [star] at single
  exact String.toList_inj.mp (single.trans rfl)

/-- A resource name that differs from another only in case is that name. -/
theorem resourceName_eq_of_icompare {name : String} (known : name ∈ resourceNames) :
    (icompare "subscriberDevice" name = true → name = "subscriberDevice") ∧
      icompare "op_contact" name = false ∧ icompare "op_location" name = false := by
  revert name
  decide

/-- The resource names that stand for another resource, as `PolicyAllows` lists them. -/
def resourceAliases (resource : String) : List String :=
  if resource = "managementRole" ∨ resource = "managementPolicy" then ["entity", "operator"]
  else if resource = "serviceClass" then ["operator", "entity"]
  else if resource = "subscriberDevice" then ["inventory"]
  else if resource = "overrides" then ["inventory"]
  else if resource = "op_contact" then ["contact"]
  else if resource = "op_location" then ["location"]
  else []

theorem resourceMatches_iff (res resource : String) :
    resourceMatches res resource = true ↔
      icompare res resource = true ∨ res = "*" ∨
        ∃ other ∈ resourceAliases resource, icompare res other = true := by
  unfold resourceAliases
  split_ifs with roleOrPolicy service device overrides contact location
  · rcases roleOrPolicy with rfl | rfl <;> simp [resourceMatches, or_assoc]
  · subst service
    simp [resourceMatches, or_assoc]
  · subst device
    simp [resourceMatches, or_assoc]
  · subst overrides
    simp [resourceMatches, or_assoc]
  · subst contact
    simp [resourceMatches, or_assoc]
  · subst location
    simp [resourceMatches, or_assoc]
  · rw [not_or] at roleOrPolicy
    simp [resourceMatches, roleOrPolicy, service, device, overrides, contact, location]

theorem mem_resourceAliases {resource other : String} (member : other ∈ resourceAliases resource) :
    other ∈ ["entity", "operator", "inventory", "contact", "location"] := by
  unfold resourceAliases at member
  split_ifs at member <;> revert other <;> decide

/-- A word that is no alias and no wildcard stands only for its own name. -/
theorem icompare_of_resourceMatches {res word name : String}
    (same : icompare res word = true) (stands : resourceMatches res name = true)
    (noStar : icompare "*" word = false)
    (noAlias : ∀ other ∈ ["entity", "operator", "inventory", "contact", "location"],
      icompare other word = false) : icompare word name = true := by
  rcases (resourceMatches_iff res name).mp stands with direct | rfl | ⟨other, member, equal⟩
  · exact icompare_trans (icompare_symm same) direct
  · rw [noStar] at same
    cases same
  · have apart := noAlias other (mem_resourceAliases member)
    rw [icompare_trans (icompare_symm equal) same] at apart
    cases apart

/-- Covering a target's resource name covers every resource of a path it stands for. -/
theorem resourceMatches_of_grant {own res name : String} (known : name ∈ resourceNames)
    (grant : grantResourceMatches own res = true) (stands : resourceMatches res name = true) :
    resourceMatches own name = true := by
  obtain ⟨isDevice, noContact, noLocation⟩ := resourceName_eq_of_icompare known
  simp only [grantResourceMatches, Bool.or_eq_true, Bool.and_eq_true, beq_iff_eq] at grant
  rcases grant with (((same | star) | ⟨device, inventory⟩) | ⟨contact, _⟩) | ⟨location, _⟩
  · rw [resourceMatches_iff] at stands ⊢
    rcases stands with direct | rfl | ⟨other, member, equal⟩
    · exact Or.inl (icompare_trans same direct)
    · simp only [icompare, beq_iff_eq] at same
      exact Or.inr (Or.inl (toLower_eq_star same))
    · exact Or.inr (Or.inr ⟨other, member, icompare_trans same equal⟩)
  · rw [resourceMatches_iff]
    exact Or.inr (Or.inl star)
  · have isName := isDevice
      (icompare_of_resourceMatches device stands (by decide) (by decide))
    rw [resourceMatches_iff, isName]
    exact Or.inr (Or.inr ⟨"inventory", by decide, inventory⟩)
  · have impossible :=
      icompare_of_resourceMatches contact stands (by decide) (by decide)
    rw [noContact] at impossible
    cases impossible
  · have impossible :=
      icompare_of_resourceMatches location stands (by decide) (by decide)
    rw [noLocation] at impossible
    cases impossible

/-! ## Access words -/

/-- The access words that allow reading. -/
def readingWords : List String :=
  ["FULL", "READ", "READWRITE", "MODIFY"]

theorem accessMatches_read_iff (acc : String) :
    accessMatches acc "READ" = true ↔ acc ∈ readingWords := by
  simp [accessMatches, readingWords, or_assoc]

/-- Covering an access word covers every access it stands for, reading by `MODIFY` apart. -/
theorem accessMatches_of_grant {own acc required : String}
    (known : required ∈ ["READ", "CREATE", "UPDATE", "DELETE"])
    (grant : grantAccessMatches own acc = true ∨ grantAccessMatches own "FULL" = true)
    (stands : accessMatches acc required = true)
    (notModifyRead : acc = "MODIFY" → required ≠ "READ") :
    accessMatches own required = true := by
  have full : grantAccessMatches own "FULL" = true → own = "FULL" := by
    simp [grantAccessMatches]
  rcases grant with grant | grant
  · simp only [List.mem_cons, List.not_mem_nil, or_false] at known
    simp only [accessMatches, Bool.or_eq_true, Bool.and_eq_true, beq_iff_eq] at stands
    rcases stands with (((isFull | direct) | ⟨create, words⟩) | ⟨update, words⟩) | ⟨read, words⟩
    · subst isFull
      simp [accessMatches, full grant]
    · subst direct
      rcases known with rfl | rfl | rfl | rfl <;>
        simpa [grantAccessMatches, accessMatches] using grant
    · subst create
      rcases words with (rfl | rfl) | rfl <;>
        simp [grantAccessMatches, accessMatches] at grant ⊢ <;> tauto
    · subst update
      rcases words with rfl | rfl <;>
        simp [grantAccessMatches, accessMatches] at grant ⊢ <;> tauto
    · subst read
      rcases words with rfl | rfl
      · simp [grantAccessMatches, accessMatches] at grant ⊢
        tauto
      · exact absurd rfl (notModifyRead rfl)
  · simp [accessMatches, full grant]

/-! ## Containment -/

/-- Some policy of the list has an entry on the resource with one of the words. -/
def hasEntryOn (policies : List ManagementPolicy) (resource : String) (words : List String) :
    Prop :=
  ∃ policy ∈ policies, ∃ entry ∈ policy.entries,
    (∃ res ∈ entry.resources, resourceMatches res resource = true) ∧
      ∃ acc ∈ entry.access, acc ∈ words

theorem hasEntryOn_readingWords_iff {policies : List ManagementPolicy} {resource : String} :
    hasEntryOn policies resource readingWords ↔
      ∃ policy ∈ policies, policyAllows policy resource .get = true := by
  simp only [hasEntryOn, policyAllows_iff, accessRequired, Option.some.injEq, exists_eq_left',
    accessMatches_read_iff]

/-- What a covered target allows is allowed by a covering policy, reading by `MODIFY` on
its own apart. -/
theorem contained_of_coversTarget {policies : List ManagementPolicy} {target : ManagementPolicy}
    (covers : coversTarget policies target = true) {name : String} (known : name ∈ resourceNames)
    {method : HttpMethod} (allows : policyAllows target name method = true)
    (readable : method = .get → hasEntryOn [target] name ["MODIFY"] →
      hasEntryOn policies name readingWords) :
    ∃ policy ∈ policies, policyAllows policy name method = true := by
  obtain ⟨required, isRequired, entry, entryMem, ⟨res, resMem, stands⟩, acc, accMem, access⟩ :=
    policyAllows_iff.mp allows
  by_cases modifyRead : acc = "MODIFY" ∧ required = "READ"
  · obtain ⟨rfl, rfl⟩ := modifyRead
    have isGet : method = .get := by
      cases method <;> simp [accessRequired] at isRequired ⊢
    subst isGet
    rw [← hasEntryOn_readingWords_iff]
    exact readable rfl ⟨target, List.mem_singleton.mpr rfl, entry, entryMem, ⟨res, resMem, stands⟩,
      "MODIFY", accMem, List.mem_singleton.mpr rfl⟩
  · obtain ⟨policy, policyMem, grants⟩ :=
      coversTarget_iff.mp covers entry entryMem res resMem acc accMem
    have granted : ∃ own ∈ policy.entries,
        (∃ ownRes ∈ own.resources, grantResourceMatches ownRes res = true) ∧
          ∃ ownAcc ∈ own.access,
            grantAccessMatches ownAcc acc = true ∨ grantAccessMatches ownAcc "FULL" = true := by
      rcases grants with grant | grant
      · obtain ⟨own, ownMem, resources, ownAcc, ownAccMem, word⟩ := policyGrants_iff.mp grant
        exact ⟨own, ownMem, resources, ownAcc, ownAccMem, Or.inl word⟩
      · obtain ⟨own, ownMem, resources, ownAcc, ownAccMem, word⟩ := policyGrants_iff.mp grant
        exact ⟨own, ownMem, resources, ownAcc, ownAccMem, Or.inr word⟩
    obtain ⟨own, ownMem, ⟨ownRes, ownResMem, resGrant⟩, ownAcc, ownAccMem, word⟩ := granted
    have isWord : required ∈ ["READ", "CREATE", "UPDATE", "DELETE"] := by
      cases method <;> simp [accessRequired] at isRequired <;> simp [← isRequired]
    refine ⟨policy, policyMem, policyAllows_iff.mpr
      ⟨required, isRequired, own, ownMem, ⟨ownRes, ownResMem, ?_⟩, ownAcc, ownAccMem, ?_⟩⟩
    · exact resourceMatches_of_grant known resGrant stands
    · exact accessMatches_of_grant isWord word access fun isModify isRead =>
        modifyRead ⟨isModify, isRead⟩

/-- An accepted delegation gives no access beyond the requester's own exactly when the
requester can read every resource on which the target carries the word `MODIFY`. -/
theorem delegation_contained_iff {db : Store} {caller : Caller} {entityId venueId : String}
    {target : ManagementPolicy}
    (accepted :
      requesterHasEqualOrStrongerPermission db caller entityId venueId target = some true) :
    (∀ path method, policyAllows target (getResourceName path) method = true →
        ∃ policy ∈ consideredPolicies db caller entityId venueId,
          policyAllows policy (getResourceName path) method = true) ↔
      ∀ path, hasEntryOn [target] (getResourceName path) ["MODIFY"] →
        hasEntryOn (consideredPolicies db caller entityId venueId) (getResourceName path)
          readingWords := by
  have covers := coversTarget_of_permission accepted
  constructor
  · intro contained path modifies
    rw [hasEntryOn_readingWords_iff]
    apply contained path .get
    obtain ⟨policy, member, entry, entryMem, resources, acc, accMem, isModify⟩ := modifies
    rw [List.mem_singleton] at member isModify
    subst member isModify
    refine policyAllows_iff.mpr ⟨"READ", rfl, entry, entryMem, resources, "MODIFY", accMem, ?_⟩
    decide
  · intro readable path method allows
    exact contained_of_coversTarget covers (getResourceName_mem path) allows fun _ =>
      readable path

/-- A policy with one entry. -/
def oneEntryPolicy (id resource access : String) : ManagementPolicy where
  info := { id := id }
  entries := [{ resources := [resource], access := [access] }]

/-- A user whose only role is on the entity `e-1` with the given policy. -/
def entityRequester (policy : ManagementPolicy) : Caller where
  user := { id := "requester", userRole := .admin }
  roles := [{ info := { id := "role-1" }, managementPolicy := policy.info.id, entity := "e-1" }]
  policy id := if id = policy.info.id then some policy else none

/-- A requester that may update venues grants `MODIFY` on venues and with it the reading
that it lacks itself. -/
theorem update_delegates_read :
    requesterHasEqualOrStrongerPermission initialStore
        (entityRequester (oneEntryPolicy "own" "venue" "UPDATE")) "e-1" ""
        (oneEntryPolicy "granted" "venue" "MODIFY") = some true ∧
      policyAllows (oneEntryPolicy "granted" "venue" "MODIFY")
        (getResourceName "/api/v1/venue") .get = true ∧
      ∀ policy ∈ consideredPolicies initialStore
        (entityRequester (oneEntryPolicy "own" "venue" "UPDATE")) "e-1" "",
        policyAllows policy (getResourceName "/api/v1/venue") .get = false := by
  decide

/-- With `READWRITE` the requester keeps every access it grants by `MODIFY`. -/
theorem delegation_contained_readWrite :
    requesterHasEqualOrStrongerPermission initialStore
        (entityRequester (oneEntryPolicy "own" "venue" "READWRITE")) "e-1" ""
        (oneEntryPolicy "granted" "venue" "MODIFY") = some true ∧
      ∀ path method,
        policyAllows (oneEntryPolicy "granted" "venue" "MODIFY") (getResourceName path) method =
            true →
          ∃ policy ∈ consideredPolicies initialStore
            (entityRequester (oneEntryPolicy "own" "venue" "READWRITE")) "e-1" "",
            policyAllows policy (getResourceName path) method = true := by
  have accepted : requesterHasEqualOrStrongerPermission initialStore
      (entityRequester (oneEntryPolicy "own" "venue" "READWRITE")) "e-1" ""
      (oneEntryPolicy "granted" "venue" "MODIFY") = some true := by
    decide
  refine ⟨accepted, (delegation_contained_iff accepted).mpr ?_⟩
  rintro path ⟨policy, member, entry, entryMem, ⟨res, resMem, stands⟩, _⟩
  rw [List.mem_singleton] at member
  subst member
  rw [oneEntryPolicy, List.mem_singleton] at entryMem
  subst entryMem
  rw [List.mem_singleton] at resMem
  subst resMem
  exact ⟨oneEntryPolicy "own" "venue" "READWRITE", by decide, _, List.mem_singleton_self _,
    ⟨"venue", List.mem_singleton_self _, stands⟩, "READWRITE", List.mem_singleton_self _,
    by decide⟩

end Owprov
