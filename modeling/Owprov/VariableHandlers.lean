import Owprov.DanglingReferences

/-!
# Requests for blocks of variables

`RESTAPI_variables_handler` stores the variables of a body as they are; nothing looks at the
blocks that they name.
-/

namespace Owprov

open RowTable

/-- The handler has an answer of its own to a missing name. -/
def orInvalidParameters (made : Except Failure ObjectInfo) : Except Failure ObjectInfo :=
  made.mapError fun failure =>
    if failure = .badRequest .nameMustBeSet then .badRequest .missingOrInvalidParameters
    else failure

theorem orInvalidParameters_eq_ok_iff {made : Except Failure ObjectInfo} {info : ObjectInfo} :
    orInvalidParameters made = .ok info ↔ made = .ok info := by
  cases made <;> simp [orInvalidParameters, Except.mapError]

/-- The checks of `RESTAPI_variables_handler::DoPost` and the record it creates. -/
def variablesDoPostPlan (ctx : Context) (db : Store) (request : Request) :
    Except Failure VariableBlock := do
  require (request.getBinding "uuid" != "") (.badRequest .missingUUID)
  let body ← request.jsonBody
  let newObject ← VariableBlock.fromJson body
  require (emptyOrExists db.entityDB newObject.entity) (.badRequest .entityMustExist)
  require (emptyOrExists db.venueDB newObject.venue) (.badRequest .venueMustExist)
  require (emptyOrExists db.policyDB newObject.managementPolicy)
    (.badRequest .unknownManagementPolicyUUID)
  let info ← orInvalidParameters (createObjectInfo body newObject.info (ctx.newId 0))
  return { newObject with info := info }

def variablesDoPost (ctx : Context) (db : Store) (request : Request) : Outcome :=
  match variablesDoPostPlan ctx db request with
  | .error failure => .fail db failure
  | .ok newObject =>
      match db.variablesDB.insert? newObject with
      | none => .fail db (.badRequest .recordNotCreated)
      | some variablesDB =>
          let id := newObject.info.id
          .done (movePolicyUsage
            { db with
              variablesDB := variablesDB
              venueDB := addMembership db.venueDB Venue.variablesMember newObject.venue id
              entityDB := addMembership db.entityDB Entity.variablesMember newObject.entity id }
            "var" "" newObject.managementPolicy id)

/-- The checks of `RESTAPI_variables_handler::DoPut`: the updated record and its moves. -/
def variablesDoPutPlan (db : Store) (request : Request) :
    Except Failure (VariableBlock × ConfigurationMoves) := do
  let uuid := request.getBinding "uuid"
  require (uuid != "") (.badRequest .missingUUID)
  let existing ← boundRecord db.variablesDB request
  let body ← request.jsonBody
  let newObj ← VariableBlock.fromJson body
  let info ← orInvalidParameters (updateObjectInfo body existing.info)
  let (fromPolicy, toPolicy, managementPolicy) ←
    createMove body "managementPolicy" existing.managementPolicy db.policyDB
      (.badRequest .entityMustExist)
  let (fromEntity, toEntity, entity) ←
    createMove body "entity" existing.entity db.entityDB (.badRequest .entityMustExist)
  let (fromVenue, toVenue, venue) ←
    createMove body "venue" existing.venue db.venueDB (.badRequest .venueMustExist)
  return (
    { existing with
      info := info
      «variables» := if body.has "variables" then newObj.variables else existing.variables
      managementPolicy := managementPolicy
      entity := entity
      venue := venue },
    { fromPolicy, toPolicy, fromEntity, toEntity, fromVenue, toVenue })

def variablesDoPut (db : Store) (request : Request) : Outcome :=
  match variablesDoPutPlan db request with
  | .error failure => .fail db failure
  | .ok (updated, moves) =>
      let id := updated.info.id
      .done (movePolicyUsage
        { db with
          variablesDB := db.variablesDB.update updated
          venueDB := manageMembership db.venueDB Venue.variablesMember moves.fromVenue
            moves.toVenue id
          entityDB := manageMembership db.entityDB Entity.variablesMember moves.fromEntity
            moves.toEntity id }
        "var" moves.fromPolicy moves.toPolicy id)

/-! ## What the plans say -/

theorem variablesDoPutPlan_eq_ok {db : Store} {request : Request} {updated : VariableBlock}
    {moves : ConfigurationMoves} (planned : variablesDoPutPlan db request = .ok (updated, moves)) :
    ∃ existing, db.variablesDB.get? updated.info.id = some existing := by
  simp only [variablesDoPutPlan, bind_eq_ok_iff, require_eq_ok_iff] at planned
  obtain ⟨_, _, existing, bound, _, _, _, _, info, updatedInfo, ⟨fromPolicy, toPolicy, policy⟩, _,
    ⟨fromEntity, toEntity, entity⟩, _, ⟨fromVenue, toVenue, venue⟩, _, planned⟩ := planned
  obtain ⟨rfl, rfl⟩ := Prod.mk.inj (Except.ok.inj planned)
  refine ⟨existing, ?_⟩
  have sameId := updateObjectInfo_eq_ok (orInvalidParameters_eq_ok_iff.mp updatedInfo)
  change db.variablesDB.get? info.id = some existing
  rw [sameId]
  exact boundRecord_eq_ok bound

end Owprov
