import Owprov.Access
import Owprov.EntityTree

/-!
# Upgrading a policy at start-up

`EnsureResourceInPolicy` looks for resource names in a stored policy.  A name that no entry has is
written to the first entry with the access word that is wanted or with `FULL`, or else to a new
entry.  The name shares the other access words of its entry, and a name that is there
already keeps the access that it has.
-/

namespace Owprov

open RowTable

/-! ## The code -/

/-- Some entry has the resource name, or the name for all of them. -/
def hasResource (policy : ManagementPolicy) (resToAdd : String) : Bool :=
  policy.entries.any fun entry => entry.resources.any fun r => r == resToAdd || r == "*"

/-- An entry that a resource name is added to. -/
def acceptsResource (accessLevel : String) (entry : ManagementPolicyEntry) : Bool :=
  entry.access.any fun acc => acc == accessLevel || acc == "FULL"

/-- The entries with a resource name added to the first one that accepts it, if any does. -/
def addToExisting (accessLevel resToAdd : String) :
    List ManagementPolicyEntry → Option (List ManagementPolicyEntry)
  | [] => none
  | entry :: entries =>
      if acceptsResource accessLevel entry then
        some ({ entry with resources := entry.resources ++ [resToAdd] } :: entries)
      else
        (addToExisting accessLevel resToAdd entries).map (entry :: ·)

/-- One turn of the loop over the resource names, with the flag `updated`. -/
def ensureResource (accessLevel : String) (upgraded : ManagementPolicy × Bool) (resToAdd : String) :
    ManagementPolicy × Bool :=
  let policy := upgraded.1
  if hasResource policy resToAdd then
    upgraded
  else
    match addToExisting accessLevel resToAdd policy.entries with
    | some entries => ({ policy with entries := entries }, true)
    | none =>
        let newEntry : ManagementPolicyEntry :=
          { resources := [resToAdd], access := [accessLevel] }
        ({ policy with entries := policy.entries ++ [newEntry] }, true)

/-- The policy after the loop, and whether it was changed. -/
def ensureResources (policy : ManagementPolicy) (resourcesToAdd : List String)
    (accessLevel : String) : ManagementPolicy × Bool :=
  resourcesToAdd.foldl (ensureResource accessLevel) (policy, false)

/-- `EnsureResourceInPolicy`. -/
def ensureResourceInPolicy (db : Store) (policyName : String) (resourcesToAdd : List String)
    (accessLevel : String) : Store :=
  match getBy db.policyDB (fun policy => policy.info.name) policyName with
  | none => db
  | some policy =>
      let upgraded := ensureResources policy resourcesToAdd accessLevel
      if upgraded.2 then { db with policyDB := db.policyDB.update upgraded.1 } else db

/-! ## What an entry allows -/

/-- Some of the access words covers the method. -/
def AllowsMethod (access : List String) (method : HttpMethod) : Prop :=
  ∃ required, accessRequired method = some required ∧
    ∃ acc ∈ access, accessMatches acc required = true

/-- Some of the resource names stands for the resource. -/
def NamesResource (resources : List String) (resource : String) : Prop :=
  ∃ res ∈ resources, resourceMatches res resource = true

def EntriesAllow (entries : List ManagementPolicyEntry) (resource : String) (method : HttpMethod) :
    Prop :=
  ∃ entry ∈ entries, NamesResource entry.resources resource ∧ AllowsMethod entry.access method

/-- The access words that a new resource name comes under. -/
def targetAccess (accessLevel : String) (entries : List ManagementPolicyEntry) : List String :=
  match entries.find? (acceptsResource accessLevel) with
  | some entry => entry.access
  | none => [accessLevel]

section Entries

variable {entries : List ManagementPolicyEntry} {policy : ManagementPolicy}
  {accessLevel resToAdd resource : String} {method : HttpMethod}

theorem policyAllows_iff_entriesAllow :
    policyAllows policy resource method = true ↔ EntriesAllow policy.entries resource method := by
  rw [policyAllows_iff]
  constructor
  · rintro ⟨required, isRequired, entry, member, names, acc, isWord, covers⟩
    exact ⟨entry, member, names, required, isRequired, acc, isWord, covers⟩
  · rintro ⟨entry, member, names, required, isRequired, acc, isWord, covers⟩
    exact ⟨required, isRequired, entry, member, names, acc, isWord, covers⟩

theorem entriesAllow_cons (entry : ManagementPolicyEntry) :
    EntriesAllow (entry :: entries) resource method ↔
      (NamesResource entry.resources resource ∧ AllowsMethod entry.access method) ∨
        EntriesAllow entries resource method := by
  simp [EntriesAllow]

theorem namesResource_append_singleton (resources : List String) :
    NamesResource (resources ++ [resToAdd]) resource ↔
      NamesResource resources resource ∨ resourceMatches resToAdd resource = true := by
  simp only [NamesResource, List.mem_append, List.mem_singleton, or_and_right, exists_or,
    exists_eq_left]

/-- `FULL` and the wanted word itself cover what the wanted word covers. -/
theorem allowsMethod_of_acceptsResource {entry : ManagementPolicyEntry}
    (accepts : acceptsResource accessLevel entry = true)
    (covers : AllowsMethod [accessLevel] method) : AllowsMethod entry.access method := by
  obtain ⟨required, isRequired, acc, isWord, matchesWord⟩ := covers
  obtain rfl := List.mem_singleton.mp isWord
  obtain ⟨word, isAccess, suits⟩ := List.any_eq_true.mp accepts
  rw [Bool.or_eq_true, beq_iff_eq, beq_iff_eq] at suits
  rcases suits with rfl | rfl
  · exact ⟨required, isRequired, word, isAccess, matchesWord⟩
  · exact ⟨required, isRequired, "FULL", isAccess, by simp [accessMatches]⟩

theorem allowsMethod_targetAccess (covers : AllowsMethod [accessLevel] method) :
    AllowsMethod (targetAccess accessLevel entries) method := by
  unfold targetAccess
  cases found : entries.find? (acceptsResource accessLevel) with
  | none => exact covers
  | some entry => exact allowsMethod_of_acceptsResource (List.find?_some found) covers

theorem targetAccess_cons_of_pos {entry : ManagementPolicyEntry}
    (accepts : acceptsResource accessLevel entry = true) :
    targetAccess accessLevel (entry :: entries) = entry.access := by
  rw [targetAccess, List.find?_cons_of_pos accepts]

theorem targetAccess_cons_of_neg {entry : ManagementPolicyEntry}
    (refuses : ¬ acceptsResource accessLevel entry = true) :
    targetAccess accessLevel (entry :: entries) = targetAccess accessLevel entries := by
  rw [targetAccess, List.find?_cons_of_neg refuses, targetAccess]

/-! ## One resource name -/

/-- Some entry has the resource name. -/
def Listed (entries : List ManagementPolicyEntry) (r : String) : Prop :=
  ∃ entry ∈ entries, r ∈ entry.resources

theorem listed_cons (entry : ManagementPolicyEntry) (r : String) :
    Listed (entry :: entries) r ↔ r ∈ entry.resources ∨ Listed entries r :=
  List.exists_mem_cons_iff _ entry entries

theorem hasResource_iff :
    hasResource policy resToAdd = true ↔
      Listed policy.entries resToAdd ∨ Listed policy.entries "*" := by
  simp only [hasResource, List.any_eq_true, Bool.or_eq_true, beq_iff_eq]
  constructor
  · rintro ⟨entry, member, r, isResource, rfl | rfl⟩
    · exact Or.inl ⟨entry, member, isResource⟩
    · exact Or.inr ⟨entry, member, isResource⟩
  · rintro (⟨entry, member, isResource⟩ | ⟨entry, member, isResource⟩)
    · exact ⟨entry, member, resToAdd, isResource, Or.inl rfl⟩
    · exact ⟨entry, member, "*", isResource, Or.inr rfl⟩

/-- The entries after one resource name was added to them. -/
structure Adds (accessLevel resToAdd : String) (entries entries' : List ManagementPolicyEntry) :
    Prop where
  sameTarget : targetAccess accessLevel entries' = targetAccess accessLevel entries
  listed : ∀ r, Listed entries' r ↔ Listed entries r ∨ r = resToAdd
  allows : ∀ resource method, EntriesAllow entries' resource method ↔
    EntriesAllow entries resource method ∨
      resourceMatches resToAdd resource = true ∧
        AllowsMethod (targetAccess accessLevel entries) method

/-- The name is added to the first entry. -/
theorem Adds.head {entry : ManagementPolicyEntry}
    (accepts : acceptsResource accessLevel entry = true) :
    Adds accessLevel resToAdd (entry :: entries)
      ({ entry with resources := entry.resources ++ [resToAdd] } :: entries) where
  sameTarget := by
    rw [targetAccess_cons_of_pos accepts]
    exact targetAccess_cons_of_pos accepts
  listed r := by
    rw [listed_cons, listed_cons, List.mem_append, List.mem_singleton]
    exact or_right_comm
  allows resource method := by
    rw [targetAccess_cons_of_pos accepts, entriesAllow_cons, entriesAllow_cons,
      namesResource_append_singleton]
    tauto

/-- The name is added after the first entry. -/
theorem Adds.cons {entry : ManagementPolicyEntry} {entries' : List ManagementPolicyEntry}
    (refuses : ¬ acceptsResource accessLevel entry = true)
    (adds : Adds accessLevel resToAdd entries entries') :
    Adds accessLevel resToAdd (entry :: entries) (entry :: entries') where
  sameTarget := by
    rw [targetAccess_cons_of_neg refuses, targetAccess_cons_of_neg refuses, adds.sameTarget]
  listed r := by
    rw [listed_cons, listed_cons, adds.listed]
    exact or_assoc.symm
  allows resource method := by
    rw [targetAccess_cons_of_neg refuses, entriesAllow_cons, entriesAllow_cons, adds.allows]
    exact or_assoc.symm

theorem adds_addToExisting {entries' : List ManagementPolicyEntry}
    (added : addToExisting accessLevel resToAdd entries = some entries') :
    Adds accessLevel resToAdd entries entries' := by
  induction entries generalizing entries' with
  | nil => cases added
  | cons entry entries ih =>
      rw [addToExisting] at added
      by_cases accepts : acceptsResource accessLevel entry = true
      · rw [if_pos accepts] at added
        obtain rfl := Option.some.inj added
        exact Adds.head accepts
      · rw [if_neg accepts] at added
        obtain ⟨rest, isRest, rfl⟩ := Option.map_eq_some_iff.mp added
        exact (ih isRest).cons accepts

/-- Where no entry accepts the name a new entry does. -/
theorem adds_newEntry (nowhere : addToExisting accessLevel resToAdd entries = none) :
    Adds accessLevel resToAdd entries
      (entries ++ [{ resources := [resToAdd], access := [accessLevel] }]) := by
  induction entries with
  | nil =>
      have accepts : acceptsResource accessLevel
          { resources := [resToAdd], access := [accessLevel] } = true := by simp [acceptsResource]
      refine ⟨targetAccess_cons_of_pos accepts, fun r => ?_, fun resource method => ?_⟩
      · simp [Listed]
      · simp [EntriesAllow, NamesResource, targetAccess]
  | cons entry entries ih =>
      rw [addToExisting] at nowhere
      by_cases accepts : acceptsResource accessLevel entry = true
      · rw [if_pos accepts] at nowhere
        cases nowhere
      · rw [if_neg accepts, Option.map_eq_none_iff] at nowhere
        exact (ih nowhere).cons accepts

/-- One turn of the loop. -/
theorem ensureResource_cases (accessLevel : String) (upgraded : ManagementPolicy × Bool)
    (resToAdd : String) :
    (hasResource upgraded.1 resToAdd = true ∧
      ensureResource accessLevel upgraded resToAdd = upgraded) ∨
    (hasResource upgraded.1 resToAdd = false ∧
      ∃ entries, Adds accessLevel resToAdd upgraded.1.entries entries ∧
        ensureResource accessLevel upgraded resToAdd =
          ({ upgraded.1 with entries := entries }, true)) := by
  unfold ensureResource
  dsimp only
  cases has : hasResource upgraded.1 resToAdd with
  | true => exact Or.inl ⟨rfl, rfl⟩
  | false =>
      refine Or.inr ⟨rfl, ?_⟩
      rw [if_neg (by decide)]
      cases added : addToExisting accessLevel resToAdd upgraded.1.entries with
      | none => exact ⟨_, adds_newEntry added, rfl⟩
      | some entries => exact ⟨entries, adds_addToExisting added, rfl⟩

end Entries

/-! ## All resource names -/

/-- What the loop has made of a policy after some resource names. -/
structure Upgraded (accessLevel : String) (policy : ManagementPolicy) (resources : List String)
    (upgraded : ManagementPolicy × Bool) : Prop where
  info : upgraded.1.info = policy.info
  unchanged : upgraded.2 = false → upgraded.1 = policy
  sameTarget : targetAccess accessLevel upgraded.1.entries = targetAccess accessLevel policy.entries
  kept : ∀ r, Listed policy.entries r → Listed upgraded.1.entries r
  asked : ∀ r, Listed upgraded.1.entries r → Listed policy.entries r ∨ r ∈ resources
  allows : ∀ resource method, EntriesAllow upgraded.1.entries resource method ↔
    EntriesAllow policy.entries resource method ∨
      (∃ res ∈ resources, hasResource policy res = false ∧ resourceMatches res resource = true) ∧
        AllowsMethod (targetAccess accessLevel policy.entries) method

section Upgraded

variable {accessLevel resToAdd : String} {policy : ManagementPolicy} {resources : List String}
  {upgraded : ManagementPolicy × Bool}

theorem Upgraded.lacked (before : Upgraded accessLevel policy resources upgraded)
    (lacks : hasResource upgraded.1 resToAdd = false) : hasResource policy resToAdd = false := by
  rw [← Bool.not_eq_true, hasResource_iff, not_or] at lacks ⊢
  exact ⟨fun listed => lacks.1 (before.kept _ listed), fun listed => lacks.2 (before.kept _ listed)⟩

/-- A name that is there by now and was not at the start was asked for before, or all names were. -/
theorem Upgraded.named (before : Upgraded accessLevel policy resources upgraded)
    (has : hasResource upgraded.1 resToAdd = true) (lacked : hasResource policy resToAdd = false)
    {resource : String} (names : resourceMatches resToAdd resource = true) :
    ∃ res ∈ resources, hasResource policy res = false ∧ resourceMatches res resource = true := by
  have absent := lacked
  rw [← Bool.not_eq_true, hasResource_iff, not_or] at absent
  rcases hasResource_iff.mp has with listed | listed
  · exact ⟨resToAdd, (before.asked _ listed).resolve_left absent.1, lacked, names⟩
  · refine ⟨"*", (before.asked _ listed).resolve_left absent.2, ?_, by simp [resourceMatches]⟩
    rw [← Bool.not_eq_true, hasResource_iff, or_self]
    exact absent.2

theorem exists_mem_append_singleton_iff {condition : String → Prop} :
    (∃ res ∈ resources ++ [resToAdd], condition res) ↔
      (∃ res ∈ resources, condition res) ∨ condition resToAdd := by
  simp [or_and_right, exists_or]

theorem Upgraded.step (before : Upgraded accessLevel policy resources upgraded) (resToAdd : String) :
    Upgraded accessLevel policy (resources ++ [resToAdd])
      (ensureResource accessLevel upgraded resToAdd) := by
  rcases ensureResource_cases accessLevel upgraded resToAdd with
    ⟨has, same⟩ | ⟨lacks, entries, adds, same⟩
  · rw [same]
    refine { before with asked := fun r listed => ?_, allows := fun resource method => ?_ }
    · exact (before.asked r listed).imp_right (List.mem_append_left _)
    · rw [before.allows, exists_mem_append_singleton_iff]
      constructor
      · exact Or.imp_right (And.imp_left Or.inl)
      · rintro (allowed | ⟨earlier | ⟨lacked, names⟩, words⟩)
        · exact Or.inl allowed
        · exact Or.inr ⟨earlier, words⟩
        · exact Or.inr ⟨before.named has lacked names, words⟩
  · rw [same]
    refine ⟨before.info, fun unchanged => Bool.noConfusion unchanged, ?_, ?_, ?_, ?_⟩
    · exact adds.sameTarget.trans before.sameTarget
    · exact fun r listed => (adds.listed r).mpr (Or.inl (before.kept r listed))
    · intro r listed
      rcases (adds.listed r).mp listed with earlier | rfl
      · exact (before.asked r earlier).imp_right (List.mem_append_left _)
      · exact Or.inr (List.mem_append_right _ (List.mem_singleton.mpr rfl))
    · intro resource method
      have lacked := before.lacked lacks
      rw [adds.allows, before.allows, before.sameTarget, exists_mem_append_singleton_iff,
        and_iff_right lacked, or_assoc, or_and_right]

end Upgraded

theorem ensureResources_upgraded (policy : ManagementPolicy) (resources : List String)
    (accessLevel : String) :
    Upgraded accessLevel policy resources (ensureResources policy resources accessLevel) := by
  induction resources using List.reverseRecOn with
  | nil =>
      refine ⟨rfl, fun _ => rfl, rfl, fun _ listed => listed, fun _ => Or.inl, ?_⟩
      simp [ensureResources]
  | append_singleton resources resToAdd ih =>
      have step : ensureResources policy (resources ++ [resToAdd]) accessLevel =
          ensureResource accessLevel (ensureResources policy resources accessLevel) resToAdd := by
        rw [ensureResources, List.foldl_append]
        rfl
      rw [step]
      exact ih.step resToAdd

/-! ## What the upgrade grants -/

/-- The policy of the single entry that the upgrade asks for. -/
def askedPolicy (resources : List String) (accessLevel : String) : ManagementPolicy where
  info := {}
  entries := [{ resources := resources, access := [accessLevel] }]

/-- Where an upgrade grants what it asks for.  A wanted name that the policy has is allowed by the
policy as far as the wanted word covers, or is another spelling of one that the policy lacks.
What the names that it lacks stand for is wanted or allowed already, as far as the access words
cover that they come under. -/
structure UpgradesExactly (policy : ManagementPolicy) (resources : List String)
    (accessLevel : String) : Prop where
  granted : ∀ resource ∈ resources, hasResource policy resource = true →
    ∀ method, AllowsMethod [accessLevel] method →
      policyAllows policy resource method = true ∨
        ∃ res ∈ resources, hasResource policy res = false ∧ resourceMatches res resource = true
  notWidened : ∀ res ∈ resources, hasResource policy res = false →
    ∀ resource, resourceMatches res resource = true →
      ∀ method, AllowsMethod (targetAccess accessLevel policy.entries) method →
        policyAllows policy resource method = true ∨
          resource ∈ resources ∧ AllowsMethod [accessLevel] method

theorem resourceMatches_self (resource : String) : resourceMatches resource resource = true := by
  simp [resourceMatches, icompare_self]

theorem policyAllows_askedPolicy {resources : List String} {accessLevel resource : String}
    {method : HttpMethod} (member : resource ∈ resources) :
    policyAllows (askedPolicy resources accessLevel) resource method = true ↔
      AllowsMethod [accessLevel] method := by
  rw [policyAllows_iff_entriesAllow]
  simp only [askedPolicy, EntriesAllow, List.mem_singleton, exists_eq_left]
  exact and_iff_right ⟨resource, member, resourceMatches_self resource⟩

theorem ensureResources_exact_iff (policy : ManagementPolicy) (resources : List String)
    (accessLevel : String) :
    (∀ resource method,
      policyAllows (ensureResources policy resources accessLevel).1 resource method = true ↔
        policyAllows policy resource method = true ∨
          resource ∈ resources ∧
            policyAllows (askedPolicy resources accessLevel) resource method = true) ↔
      UpgradesExactly policy resources accessLevel := by
  have allows := (ensureResources_upgraded policy resources accessLevel).allows
  simp only [← policyAllows_iff_entriesAllow] at allows
  have asked : ∀ resource method,
      (resource ∈ resources ∧
          policyAllows (askedPolicy resources accessLevel) resource method = true) ↔
        resource ∈ resources ∧ AllowsMethod [accessLevel] method :=
    fun resource method => and_congr_right fun member => policyAllows_askedPolicy member
  simp only [allows, asked]
  constructor
  · intro exact'
    constructor
    · intro resource member has method covers
      rcases (exact' resource method).mpr (Or.inr ⟨member, covers⟩) with allowed | ⟨named, -⟩
      · exact Or.inl allowed
      · exact Or.inr named
    · intro res member lacks resource names method covers
      exact (exact' resource method).mp (Or.inr ⟨⟨res, member, lacks, names⟩, covers⟩)
  · rintro ⟨granted, notWidened⟩ resource method
    constructor
    · rintro (allowed | ⟨⟨res, member, lacks, names⟩, covers⟩)
      · exact Or.inl allowed
      · exact notWidened res member lacks resource names method covers
    · rintro (allowed | ⟨member, covers⟩)
      · exact Or.inl allowed
      · have words : AllowsMethod (targetAccess accessLevel policy.entries) method :=
          allowsMethod_targetAccess covers
        cases has : hasResource policy resource with
        | false =>
            exact Or.inr ⟨⟨resource, member, has, resourceMatches_self resource⟩, words⟩
        | true =>
            exact (granted resource member has method covers).imp_right fun named => ⟨named, words⟩

/-- An upgrade of a stored policy grants what it says, and nothing else, exactly where the policy
is one that it upgrades exactly. -/
theorem ensureResourceInPolicy_exact_iff (db : Store) (policyName : String)
    (resources : List String) (accessLevel : String) (policy : ManagementPolicy)
    (stored : getBy db.policyDB (fun policy => policy.info.name) policyName = some policy) :
    ∃ upgraded,
      (ensureResourceInPolicy db policyName resources accessLevel).policyDB.get? policy.info.id =
        some upgraded ∧
      ((∀ resource method, policyAllows upgraded resource method = true ↔
        policyAllows policy resource method = true ∨
          resource ∈ resources ∧
            policyAllows (askedPolicy resources accessLevel) resource method = true) ↔
        UpgradesExactly policy resources accessLevel) := by
  have before : db.policyDB.get? policy.info.id = some policy :=
    Table.get?_key_of_mem (getBy_mem stored)
  have run := ensureResources_upgraded policy resources accessLevel
  refine ⟨(ensureResources policy resources accessLevel).1, ?_,
    ensureResources_exact_iff policy resources accessLevel⟩
  unfold ensureResourceInPolicy
  rw [stored]
  dsimp only
  cases changed : (ensureResources policy resources accessLevel).2 with
  | false =>
      rw [if_neg (by decide), run.unchanged changed]
      exact before
  | true =>
      have sameId : key (ensureResources policy resources accessLevel).1 = policy.info.id :=
        congrArg ObjectInfo.id run.info
      rw [if_pos rfl, ← sameId]
      exact Table.get?_update_self (by rw [sameId, before])

/-- A policy with full access to venues. -/
def venuePolicy : ManagementPolicy where
  info := { id := "policy", name := "CSR" }
  entries := [{ resources := ["venue"], access := ["FULL"] }]

def venuePolicyStore : Store :=
  { initialStore with policyDB := .singleton venuePolicy }

theorem venuePolicy_exact_iff :
    ∃ upgraded,
      (ensureResourceInPolicy venuePolicyStore "CSR" ["contact"] "READ").policyDB.get? "policy" =
        some upgraded ∧
      ((∀ resource method, policyAllows upgraded resource method = true ↔
        policyAllows venuePolicy resource method = true ∨
          resource ∈ ["contact"] ∧
            policyAllows (askedPolicy ["contact"] "READ") resource method = true) ↔
        UpgradesExactly venuePolicy ["contact"] "READ") :=
  ensureResourceInPolicy_exact_iff venuePolicyStore "CSR" ["contact"] "READ" venuePolicy
    (by decide)

/-- Reading is asked for, and deleting is granted. -/
theorem reading_grants_deleting :
    ¬ ∀ (db : Store) (policyName : String) (resources : List String) (accessLevel : String)
      (policy : ManagementPolicy),
      getBy db.policyDB (fun policy => policy.info.name) policyName = some policy →
        ∃ upgraded,
          (ensureResourceInPolicy db policyName resources accessLevel).policyDB.get?
            policy.info.id = some upgraded ∧
          ∀ resource method, policyAllows upgraded resource method = true ↔
            policyAllows policy resource method = true ∨
              resource ∈ resources ∧
                policyAllows (askedPolicy resources accessLevel) resource method = true := by
  intro claim
  obtain ⟨upgraded, found, grants⟩ :=
    claim venuePolicyStore "CSR" ["contact"] "READ" venuePolicy (by decide)
  have deletes : (((ensureResourceInPolicy venuePolicyStore "CSR" ["contact"] "READ").policyDB.get?
      venuePolicy.info.id).map fun policy => policyAllows policy "contact" .delete) =
        some true := by decide
  rw [found, Option.map_some, Option.some.injEq] at deletes
  exact absurd ((grants "contact" .delete).mp deletes) (by decide)

end Owprov
