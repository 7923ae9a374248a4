import Owprov.EntityTree
import Owprov.Lib.Runs

/-!
# Operators and their entities

An operator names its entity and the entity names the operator.  The two are written by the
operator handler, while the entity handler creates and deletes entities on its own.  The
links stay a bijection, so the resolver, which follows one direction or the other, finds the
same entity, and the start-up repair has nothing to do.
-/

namespace Owprov

open RowTable Runs

/-- The links between operators and entities. -/
structure OperatorLinks (db : Store) : Prop where
  operator : ∀ id op, db.operatorDB.get? id = some op → op.defaultOperator = false →
    ∃ entity, db.entityDB.get? op.entityId = some entity ∧ entity.operatorId = id
  entity : ∀ id entity, db.entityDB.get? id = some entity → entity.operatorId ≠ "" →
    ∃ op, db.operatorDB.get? entity.operatorId = some op ∧ op.entityId = id ∧
      op.defaultOperator = false
  ofDefault : ∀ id op, db.operatorDB.get? id = some op → op.defaultOperator = true →
    op.entityId = rootUUID
  root : ∃ root, db.entityDB.get? rootUUID = some root ∧ root.operatorId = ""
  named : db.operatorDB.get? "" = none ∧ db.entityDB.get? "" = none

/-! ## The writes -/

section Writes

variable {db : Store}

/-- A write that leaves the operators and the operators of the entities alone. -/
theorem OperatorLinks.congr (links : OperatorLinks db) {db' : Store}
    (same : SamePlacement db.entityDB db'.entityDB) (operators : db'.operatorDB = db.operatorDB) :
    OperatorLinks db' := by
  constructor
  case operator =>
    intro id op isOp notDefault
    rw [operators] at isOp
    obtain ⟨entity, found, owner⟩ := links.operator id op isOp notDefault
    obtain ⟨entity', found', _, owners⟩ := same.symm.found found
    exact ⟨entity', found', owners.symm.trans owner⟩
  case entity =>
    intro id entity found owned
    obtain ⟨old, before, _, owners⟩ := same.found found
    rw [owners] at owned ⊢
    rw [operators]
    exact links.entity id old before owned
  case ofDefault =>
    intro id op isOp
    rw [operators] at isOp
    exact links.ofDefault id op isOp
  case root =>
    obtain ⟨root, found, noOwner⟩ := links.root
    obtain ⟨root', found', _, owners⟩ := same.symm.found found
    exact ⟨root', found', owners.symm.trans noOwner⟩
  case named =>
    refine ⟨operators ▸ links.named.1, ?_⟩
    have views := same ""
    simpa [links.named.2] using views

/-- A new entity that no operator has. -/
theorem OperatorLinks.insertEntity (links : OperatorLinks db) {entity : Entity}
    {entityDB : Table Entity} (inserted : db.entityDB.insert? entity = some entityDB)
    (filled : entity.info.id ≠ "") (noOperator : entity.operatorId = "") :
    OperatorLinks { db with entityDB := entityDB } := by
  have lookup := Table.get?_insert? inserted
  have free : db.entityDB.get? entity.info.id = none := Table.get?_key_of_insert? inserted
  have keeps : ∀ id old, db.entityDB.get? id = some old → entityDB.get? id = some old := by
    intro id old found
    rw [lookup, if_neg, found]
    rintro rfl
    rw [show key entity = entity.info.id from rfl, free] at found
    cases found
  constructor
  case operator =>
    intro id op isOp notDefault
    obtain ⟨owned, found, owner⟩ := links.operator id op isOp notDefault
    exact ⟨owned, keeps _ _ found, owner⟩
  case entity =>
    intro id other found owned
    simp only [lookup] at found
    split at found
    · cases found
      exact absurd noOperator owned
    · exact links.entity id other found owned
  case ofDefault => exact links.ofDefault
  case root =>
    obtain ⟨root, found, noOwner⟩ := links.root
    exact ⟨root, keeps _ _ found, noOwner⟩
  case named =>
    refine ⟨links.named.1, ?_⟩
    simp only [lookup, links.named.2]
    exact if_neg (Ne.symm filled)

/-- An entity that no operator has goes. -/
theorem OperatorLinks.deleteEntity (links : OperatorLinks db) {entity : Entity}
    (found : db.entityDB.get? entity.info.id = some entity) (notRoot : entity.info.id ≠ rootUUID)
    (noOperator : entity.operatorId = "") :
    OperatorLinks { db with entityDB := db.entityDB.delete entity.info.id } := by
  have lookup := Table.get?_delete db.entityDB entity.info.id
  constructor
  case operator =>
    intro id op isOp notDefault
    obtain ⟨owned, isOwned, owner⟩ := links.operator id op isOp notDefault
    refine ⟨owned, ?_, owner⟩
    simp only [lookup]
    rw [if_neg, isOwned]
    intro same
    rw [same, found, Option.some.injEq] at isOwned
    rw [← isOwned, noOperator] at owner
    rw [← owner, links.named.1] at isOp
    cases isOp
  case entity =>
    intro id other isOther owned
    simp only [lookup] at isOther
    split at isOther
    · cases isOther
    · exact links.entity id other isOther owned
  case ofDefault => exact links.ofDefault
  case root =>
    obtain ⟨root, isRoot, noOwner⟩ := links.root
    refine ⟨root, ?_, noOwner⟩
    simp only [lookup]
    rw [if_neg (Ne.symm notRoot), isRoot]
  case named =>
    refine ⟨links.named.1, ?_⟩
    simp only [lookup, links.named.2, ite_self]

/-- A new operator comes with its entity. -/
theorem OperatorLinks.insertOperator (links : OperatorLinks db) {operator : Operator}
    {entity : Entity} {operatorDB : Table Operator} {entityDB : Table Entity}
    (operatorInserted : db.operatorDB.insert? operator = some operatorDB)
    (entityInserted : db.entityDB.insert? entity = some entityDB)
    (toEntity : operator.entityId = entity.info.id)
    (toOperator : entity.operatorId = operator.info.id)
    (notDefault : operator.defaultOperator = false)
    (filled : operator.info.id ≠ "" ∧ entity.info.id ≠ "") :
    OperatorLinks { db with entityDB := entityDB, operatorDB := operatorDB } := by
  have operators := Table.get?_insert? operatorInserted
  have entities := Table.get?_insert? entityInserted
  have freeOperator : db.operatorDB.get? operator.info.id = none :=
    Table.get?_key_of_insert? operatorInserted
  have freeEntity : db.entityDB.get? entity.info.id = none :=
    Table.get?_key_of_insert? entityInserted
  have keepsOperator : ∀ id old, db.operatorDB.get? id = some old →
      operatorDB.get? id = some old := by
    intro id old found
    rw [operators, if_neg, found]
    rintro rfl
    rw [show key operator = operator.info.id from rfl, freeOperator] at found
    cases found
  have keepsEntity : ∀ id old, db.entityDB.get? id = some old → entityDB.get? id = some old := by
    intro id old found
    rw [entities, if_neg, found]
    rintro rfl
    rw [show key entity = entity.info.id from rfl, freeEntity] at found
    cases found
  constructor
  case operator =>
    intro id op isOp opNotDefault
    simp only [operators] at isOp
    split at isOp
    · rename_i isNew
      cases isOp
      refine ⟨entity, ?_, toOperator.trans isNew.symm⟩
      rw [toEntity]
      simp only [entities]
      exact if_pos rfl
    · obtain ⟨owned, found, owner⟩ := links.operator id op isOp opNotDefault
      exact ⟨owned, keepsEntity _ _ found, owner⟩
  case entity =>
    intro id other found owned
    simp only [entities] at found
    split at found
    · rename_i isNew
      cases found
      refine ⟨operator, ?_, toEntity.trans isNew.symm, notDefault⟩
      rw [toOperator]
      simp only [operators]
      exact if_pos rfl
    · obtain ⟨op, isOp, facts⟩ := links.entity id other found owned
      exact ⟨op, keepsOperator _ _ isOp, facts⟩
  case ofDefault =>
    intro id op isOp isDefault
    simp only [operators] at isOp
    split at isOp
    · cases isOp
      rw [notDefault] at isDefault
      cases isDefault
    · exact links.ofDefault id op isOp isDefault
  case root =>
    obtain ⟨root, found, noOwner⟩ := links.root
    exact ⟨root, keepsEntity _ _ found, noOwner⟩
  case named =>
    simp only [operators, entities, links.named]
    exact ⟨if_neg (Ne.symm filled.1), if_neg (Ne.symm filled.2)⟩

/-- An operator goes together with its entity. -/
theorem OperatorLinks.deleteOperator (links : OperatorLinks db) {operator : Operator}
    {entity : Entity} (isOperator : db.operatorDB.get? operator.info.id = some operator)
    (found : db.entityDB.get? operator.entityId = some entity)
    (owner : entity.operatorId = operator.info.id) :
    OperatorLinks { db with
      entityDB := db.entityDB.delete operator.entityId
      operatorDB := db.operatorDB.delete operator.info.id } := by
  have entities := Table.get?_delete db.entityDB operator.entityId
  have operators := Table.get?_delete db.operatorDB operator.info.id
  have operatorNamed : operator.info.id ≠ "" := by
    intro blank
    rw [blank, links.named.1] at isOperator
    cases isOperator
  constructor
  case operator =>
    intro id op isOp opNotDefault
    simp only [operators] at isOp
    split at isOp
    · cases isOp
    · rename_i other
      obtain ⟨owned, isOwned, ownedBy⟩ := links.operator id op isOp opNotDefault
      refine ⟨owned, ?_, ownedBy⟩
      simp only [entities]
      rw [if_neg, isOwned]
      intro same
      rw [same, found, Option.some.injEq] at isOwned
      rw [← isOwned, owner] at ownedBy
      exact other ownedBy.symm
  case entity =>
    intro id other isOther owned
    simp only [entities] at isOther
    split at isOther
    · cases isOther
    · rename_i apart
      obtain ⟨op, isOp, toEntity, opNotDefault⟩ := links.entity id other isOther owned
      refine ⟨op, ?_, toEntity, opNotDefault⟩
      simp only [operators]
      rw [if_neg, isOp]
      intro same
      rw [same, isOperator, Option.some.injEq] at isOp
      exact apart (toEntity.symm.trans (congrArg Operator.entityId isOp).symm)
  case ofDefault =>
    intro id op isOp
    simp only [operators] at isOp
    split at isOp
    · cases isOp
    · exact links.ofDefault id op isOp
  case root =>
    obtain ⟨root, isRoot, noOwner⟩ := links.root
    refine ⟨root, ?_, noOwner⟩
    simp only [entities]
    rw [if_neg, isRoot]
    intro same
    rw [same, found, Option.some.injEq] at isRoot
    rw [← isRoot, owner] at noOwner
    exact operatorNamed noOwner
  case named =>
    simp only [operators, entities, links.named, ite_self, and_self]

/-- An update of an operator that keeps its entity. -/
theorem OperatorLinks.updateOperator (links : OperatorLinks db) {existing updated : Operator}
    (found : db.operatorDB.get? (key updated) = some existing)
    (entityId : updated.entityId = existing.entityId)
    (isDefault : updated.defaultOperator = existing.defaultOperator) :
    OperatorLinks { db with operatorDB := db.operatorDB.update updated } := by
  have before : ∀ id op, (db.operatorDB.update updated).get? id = some op →
      ∃ old, db.operatorDB.get? id = some old ∧ op.entityId = old.entityId ∧
        op.defaultOperator = old.defaultOperator := by
    intro id op isOp
    by_cases same : id = key updated
    · subst same
      rw [Table.get?_update_self found] at isOp
      cases isOp
      exact ⟨existing, found, entityId, isDefault⟩
    · rw [Table.get?_update_of_ne _ same] at isOp
      exact ⟨op, isOp, rfl, rfl⟩
  constructor
  case operator =>
    intro id op isOp notDefault
    obtain ⟨old, isOld, entityIds, defaults⟩ := before id op isOp
    rw [entityIds]
    exact links.operator id old isOld (defaults ▸ notDefault)
  case entity =>
    intro id entity isEntity owned
    obtain ⟨op, isOp, toEntity, notDefault⟩ := links.entity id entity isEntity owned
    by_cases same : entity.operatorId = key updated
    · rw [same, found, Option.some.injEq] at isOp
      subst isOp
      refine ⟨updated, ?_, entityId.trans toEntity, isDefault.trans notDefault⟩
      rw [same]
      exact Table.get?_update_self found
    · exact ⟨op, (Table.get?_update_of_ne _ same).trans isOp, toEntity, notDefault⟩
  case ofDefault =>
    intro id op isOp opDefault
    obtain ⟨old, isOld, entityIds, defaults⟩ := before id op isOp
    exact entityIds.trans (links.ofDefault id old isOld (defaults ▸ opDefault))
  case root => exact links.root
  case named =>
    refine ⟨?_, links.named.2⟩
    show (db.operatorDB.update updated).get? "" = none
    rw [Table.get?_update, links.named.1]
    simp

end Writes

/-! ## Requests -/

section Requests

variable {ctx : Context} {db : Store}

/-- A creator role is listed at an entity or a venue and changes no other link. -/
theorem autoCreateCreatorRole_operators (ctx : Context) (db : Store)
    (entityId venueId parentEntityId parentVenueId roleId : String) :
    let stored :=
      (autoCreateCreatorRole ctx db entityId venueId parentEntityId parentVenueId roleId).1
    SamePlacement db.entityDB stored.entityDB ∧ stored.operatorDB = db.operatorDB := by
  rcases autoCreateCreatorRole_cases ctx db entityId venueId parentEntityId parentVenueId roleId
    with unchanged | ⟨parent, rolesDB, _, _, linked⟩
  · rw [unchanged]
    exact ⟨fun _ => rfl, rfl⟩
  · rw [linked]
    unfold linkCreatorRole
    split
    · exact ⟨fun _ => rfl, rfl⟩
    · refine ⟨?_, rfl⟩
      dsimp only [movePolicyUsage]
      unfold addMembership
      split
      · exact fun _ => rfl
      · exact SamePlacement.manipulateVectorMember _ _ (fun _ _ => ⟨rfl, rfl⟩) _ _ _

theorem deleteScopeRoles_operatorDB (db : Store) (onScope : ManagementRole → Bool) :
    (deleteScopeRoles db onScope).operatorDB = db.operatorDB := by
  unfold deleteScopeRoles
  generalize (db.rolesDB.rows.filter onScope).take 10000 = roles
  induction roles generalizing db with
  | nil => rfl
  | cons role roles ih => exact ih _

theorem OperatorLinks.entityDoPost (links : OperatorLinks db) (fresh : ctx.Fresh db)
    (request : Request) : OperatorLinks (entityDoPost ctx db request).store := by
  rcases entityDoPost_cases fresh request with
    unchanged | ⟨entity, entityDB, planned, inserted, stored⟩
  · rw [unchanged]
    exact links
  · obtain ⟨id, _, noOperator, _⟩ := entityDoPostPlan_eq_ok planned
    have filled : entity.info.id ≠ "" := id ▸ fresh.filled 1
    have created := links.insertEntity inserted filled noOperator
    have linked : OperatorLinks (linkNewEntity db entityDB entity) :=
      created.congr (samePlacement_children _ _ _ _) rfl
    rw [stored]
    obtain ⟨entities, operators⟩ := autoCreateCreatorRole_operators ctx
      (linkNewEntity db entityDB entity) entity.info.id "" entity.parent "" (ctx.newId 2)
    exact linked.congr entities operators

theorem OperatorLinks.entityDoPut (links : OperatorLinks db) (request : Request) :
    OperatorLinks (entityDoPut ctx db request).store := by
  unfold Owprov.entityDoPut
  split
  · exact links
  · rename_i updated fromPolicy toPolicy planned
    obtain ⟨existing, found, parent, _, operatorId⟩ := entityDoPutPlan_eq_ok planned
    exact links.congr (SamePlacement.update found parent operatorId) rfl

theorem OperatorLinks.entityDoDelete (links : OperatorLinks db) (request : Request) :
    OperatorLinks (entityDoDelete db request).store := by
  unfold Owprov.entityDoDelete
  split
  · exact links
  · rename_i existing planned
    obtain ⟨found, notRoot, _⟩ := entityDoDeletePlan_eq_ok planned
    have removed := links.deleteEntity found notRoot (operatorId_of_entityDoDeletePlan planned)
    refine removed.congr ?_ (deleteScopeRoles_operatorDB _ _)
    simp only [Outcome.store_done, manipulateChild, deleteScopeRoles_entityDB,
      movePolicyUsage_entityDB]
    exact samePlacement_children _ _ _ _

theorem OperatorLinks.operatorDoPost (links : OperatorLinks db) (fresh : ctx.Fresh db)
    (request : Request) : OperatorLinks (operatorDoPost ctx db request).store := by
  rcases operatorDoPost_cases fresh request with
    unchanged | ⟨operator, entity, operatorDB, entityDB, planned, isOperator, isEntity, stored⟩
  · rw [unchanged]
    exact links
  · obtain ⟨entityId, _, _, operatorId⟩ := operatorDoPostPlan_eq_ok planned
    obtain ⟨toEntity, toOperator, notDefault⟩ := links_of_operatorDoPostPlan planned
    have created := links.insertOperator isOperator isEntity (toEntity.trans entityId.symm)
      (toOperator.trans operatorId.symm) notDefault
      ⟨operatorId ▸ fresh.filled 0, entityId ▸ fresh.filled 1⟩
    rw [stored]
    exact created.congr (samePlacement_children _ _ _ _) rfl

theorem OperatorLinks.operatorDoPut (links : OperatorLinks db) (request : Request) :
    OperatorLinks (operatorDoPut ctx db request).store := by
  unfold Owprov.operatorDoPut
  split
  · exact links
  · rename_i updated planned
    obtain ⟨existing, found, entityId, isDefault⟩ := operatorDoPutPlan_eq_ok planned
    exact links.updateOperator found entityId isDefault

/-- The entity that the handler finds for an operator is the one that the operator names. -/
theorem OperatorLinks.linkedEntity_eq (links : OperatorLinks db) {id : String} {op : Operator}
    (isOp : db.operatorDB.get? id = some op) (notDefault : op.defaultOperator = false) :
    ∃ entity, db.entityDB.get? op.entityId = some entity ∧ entity.operatorId = id ∧
      linkedEntity db op = some entity := by
  obtain ⟨entity, found, owner⟩ := links.operator id op isOp notDefault
  refine ⟨entity, found, owner, ?_⟩
  have named : op.entityId ≠ "" := by
    intro blank
    rw [blank, links.named.2] at found
    cases found
  unfold linkedEntity
  rw [if_neg named, found]
  rfl

theorem OperatorLinks.operatorDoDelete (links : OperatorLinks db) (request : Request) :
    OperatorLinks (operatorDoDelete db request).store := by
  unfold Owprov.operatorDoDelete
  split
  · exact links
  · rename_i operator linked planned
    obtain ⟨isOperator, notDefault, isLinked⟩ := existing_of_operatorDoDeletePlan planned
    obtain ⟨entity, found, owner, byLink⟩ := links.linkedEntity_eq isOperator notDefault
    obtain rfl : linked = some entity := isLinked.symm.trans byLink
    have entityId : entity.info.id = operator.entityId := Table.key_of_get? found
    have removed := links.deleteOperator isOperator found owner
    refine removed.congr ?_ rfl
    simp only [Outcome.store_done, Option.elim_some, deleteLinkedEntity, manipulateChild,
      movePolicyUsage_entityDB, entityId]
    exact samePlacement_children _ _ _ _

end Requests

/-! ## Runs -/

/-- The database after the first start of the service. -/
def systemStore (operatorId serviceId : String) : Store :=
  { initialStore with
    operatorDB := .singleton
      { info := { id := operatorId, name := "Default Operator" }
        defaultOperator := true
        entityId := rootUUID }
    serviceClassDB := .singleton (defaultServiceClass serviceId operatorId) }

/-- The databases in which a run may start, with or without the default operator. -/
inductive ServiceStart : Store → Prop
  | bare : ServiceStart initialStore
  | served (operatorId serviceId : String) :
      operatorId ≠ "" → ServiceStart (systemStore operatorId serviceId)

/-- One entity or operator request, whoever sends it. -/
def EntityStep (db db' : Store) : Prop :=
  ∃ (method : EntityMethod) (ctx : Context) (request : Request),
    ctx.Fresh db ∧ db' = (method.handle ctx db request).store

theorem operatorLinks_start {db : Store} (start : ServiceStart db) : OperatorLinks db := by
  have entities : ∀ id entity, initialStore.entityDB.get? id = some entity →
      id = rootUUID ∧ entity.operatorId = "" := by
    intro id entity found
    rw [initialStore, Table.get?_singleton] at found
    split at found
    · rename_i isRoot
      cases found
      exact ⟨isRoot.symm, rfl⟩
    · cases found
  have root : ∃ root, initialStore.entityDB.get? rootUUID = some root ∧ root.operatorId = "" :=
    ⟨_, Table.get?_singleton _ _, rfl⟩
  have blank : initialStore.entityDB.get? "" = none := by decide
  cases start with
  | bare =>
      constructor
      case operator => rintro id op ⟨⟩
      case entity =>
        intro id entity found owned
        exact absurd (entities id entity found).2 owned
      case ofDefault => rintro id op ⟨⟩
      case root => exact root
      case named => exact ⟨rfl, blank⟩
  | served operatorId serviceId filled =>
      have operators : ∀ id op, (systemStore operatorId serviceId).operatorDB.get? id = some op →
          op.defaultOperator = true ∧ op.entityId = rootUUID := by
        intro id op isOp
        rw [systemStore, Table.get?_singleton] at isOp
        split at isOp
        · cases isOp
          exact ⟨rfl, rfl⟩
        · cases isOp
      constructor
      case operator =>
        intro id op isOp notDefault
        rw [(operators id op isOp).1] at notDefault
        cases notDefault
      case entity =>
        intro id entity found owned
        exact absurd (entities id entity found).2 owned
      case ofDefault => exact fun id op isOp _ => (operators id op isOp).2
      case root => exact root
      case named =>
        refine ⟨?_, blank⟩
        rw [systemStore, Table.get?_singleton]
        exact if_neg filled

theorem OperatorLinks.step {db db' : Store} (links : OperatorLinks db)
    (isStep : EntityStep db db') : OperatorLinks db' := by
  obtain ⟨method, ctx, request, fresh, rfl⟩ := isStep
  cases method with
  | entityPost => exact links.entityDoPost fresh request
  | entityPut => exact links.entityDoPut request
  | entityDelete => exact links.entityDoDelete request
  | operatorPost => exact links.operatorDoPost fresh request
  | operatorPut => exact links.operatorDoPut request
  | operatorDelete => exact links.operatorDoDelete request

theorem operatorLinks_of_reachable {db : Store} (reached : Reachable ServiceStart EntityStep db) :
    OperatorLinks db :=
  reached.invariant (fun _ => operatorLinks_start) fun _ _ => OperatorLinks.step

/-! ## The start-up repair -/

/-- `FixOperator` of `ConsistencyCheck`. -/
def fixOperator (db : Store) (op : Operator) : Store :=
  let ruled : Operator :=
    if op.deviceRules.rrm = "yes" then
      { op with deviceRules := { op.deviceRules with rrm := "inherit" } }
    else op
  let store (db : Store) (newOp : Operator) : Store :=
    if newOp = op then db else { db with operatorDB := db.operatorDB.update newOp }
  if op.defaultOperator then
    store db { ruled with entityId := rootUUID }
  else
    match linkedEntity db op with
    | none => store db ruled
    | some entity =>
        let linked : Store :=
          if entity.info.id ≠ rootUUID ∧ entity.operatorId ≠ op.info.id then
            { db with entityDB := db.entityDB.update { entity with operatorId := op.info.id } }
          else db
        store linked { ruled with entityId := entity.info.id }

/-- The pass of `ConsistencyCheck` over the operators. -/
def fixOperators (db : Store) : Store :=
  db.operatorDB.rows.foldl fixOperator db

/-- The pass leaves the entities alone, and the entities that the operators name. -/
def KeepsLinks (db db' : Store) : Prop :=
  db'.entityDB = db.entityDB ∧
    ∀ id op, db.operatorDB.get? id = some op → op.defaultOperator = false →
      ∃ op', db'.operatorDB.get? id = some op' ∧ op'.entityId = op.entityId

theorem keepsLinks_update {db db' : Store} (kept : KeepsLinks db db') {op newOp : Operator}
    (isOp : db.operatorDB.get? op.info.id = some op) (sameId : newOp.info.id = op.info.id)
    (sameEntity : op.defaultOperator = false → newOp.entityId = op.entityId) :
    KeepsLinks db
      (if newOp = op then db' else { db' with operatorDB := db'.operatorDB.update newOp }) := by
  split
  · exact kept
  · refine ⟨kept.1, fun id other isOther notDefault => ?_⟩
    obtain ⟨other', found, entityIds⟩ := kept.2 id other isOther notDefault
    by_cases same : id = key newOp
    · have isSame : other = op := by
        rw [same, show key newOp = newOp.info.id from rfl, sameId, isOp] at isOther
        exact (Option.some.inj isOther).symm
      subst isSame
      rw [same] at found ⊢
      exact ⟨newOp, Table.get?_update_self found, sameEntity notDefault⟩
    · exact ⟨other', (Table.get?_update_of_ne _ same).trans found, entityIds⟩

/-- One operator of a linked database is repaired without a change to the links. -/
theorem OperatorLinks.keepsLinks_fixOperator {db db' : Store} (links : OperatorLinks db)
    (kept : KeepsLinks db db') {op : Operator}
    (isOp : db.operatorDB.get? op.info.id = some op) : KeepsLinks db (fixOperator db' op) := by
  unfold fixOperator
  dsimp only
  split
  · rename_i isDefault
    refine keepsLinks_update kept isOp ?_ ?_
    · split <;> rfl
    · intro notDefault
      rw [notDefault] at isDefault
      cases isDefault
  · rename_i isDefault
    have notDefault : op.defaultOperator = false := by simpa using isDefault
    obtain ⟨entity, found, owner, byLink⟩ := links.linkedEntity_eq isOp notDefault
    have byLink' : linkedEntity db' op = some entity := by
      rw [← byLink, linkedEntity, linkedEntity, kept.1]
    have owned : ¬ (entity.info.id ≠ rootUUID ∧ entity.operatorId ≠ op.info.id) :=
      fun both => both.2 owner
    rw [byLink']
    dsimp only
    rw [if_neg owned]
    refine keepsLinks_update kept isOp ?_ fun _ => Table.key_of_get? found
    split <;> rfl

theorem OperatorLinks.keepsLinks_fixOperators {db : Store} (links : OperatorLinks db) :
    KeepsLinks db (fixOperators db) := by
  unfold fixOperators
  have rows : ∀ op ∈ db.operatorDB.rows, db.operatorDB.get? op.info.id = some op :=
    fun op member => Table.get?_key_of_mem member
  have kept : KeepsLinks db db := ⟨rfl, fun _ op isOp _ => ⟨op, isOp, rfl⟩⟩
  generalize db.operatorDB.rows = ops at rows
  suffices ∀ db', KeepsLinks db db' → KeepsLinks db (ops.foldl fixOperator db') from this db kept
  induction ops with
  | nil => exact fun _ kept => kept
  | cons op ops ih =>
      intro db' kept
      rw [List.forall_mem_cons] at rows
      exact ih rows.2 _ (links.keepsLinks_fixOperator kept rows.1)

/-! ## The bijection -/

/-- Every operator but the default one has an entity, and every entity that names an operator
belongs to one. -/
structure OperatorBijection (db : Store) : Prop where
  operator : ∀ op ∈ db.operatorDB.rows, op.defaultOperator = false →
    ∃ entity, db.entityDB.get? op.entityId = some entity ∧ entity.operatorId = op.info.id
  entity : ∀ entity ∈ db.entityDB.rows, entity.operatorId ≠ "" →
    ∃! op, op ∈ db.operatorDB.rows ∧ op.entityId = entity.info.id

/-- Both directions of the link resolve an operator to the same entity. -/
structure SameResolution (db : Store) : Prop where
  lookups : ∀ op ∈ db.operatorDB.rows, op.defaultOperator = false →
    (db.entityDB.get? op.entityId).isSome ∧
      getBy db.entityDB Entity.operatorId op.info.id = db.entityDB.get? op.entityId
  candidate : ∀ op ∈ db.operatorDB.rows, op.defaultOperator = false →
    operatorCandidateScope db op.info.id = .resolved op.entityId "" ∧
      operatorScope db op.info.id = .resolved op.entityId ""
  agree : ∀ op ∈ db.operatorDB.rows, ∀ entity,
    getBy db.entityDB Entity.operatorId op.info.id = some entity → entity.info.id = op.entityId

section Bijection

variable {db : Store}

/-- The operator that an entity names has that entity. -/
theorem OperatorLinks.entityId_of_mem (links : OperatorLinks db) {op : Operator}
    (opMem : op ∈ db.operatorDB.rows) {entity : Entity} (entityMem : entity ∈ db.entityDB.rows)
    (owner : entity.operatorId = op.info.id) : op.entityId = entity.info.id := by
  have isOp : db.operatorDB.get? op.info.id = some op := Table.get?_key_of_mem opMem
  have named : entity.operatorId ≠ "" := by
    intro blank
    rw [← owner, blank, links.named.1] at isOp
    cases isOp
  obtain ⟨op', isOp', toEntity, _⟩ :=
    links.entity entity.info.id entity (Table.get?_key_of_mem entityMem) named
  rw [owner, isOp, Option.some.injEq] at isOp'
  rw [isOp', toEntity]

theorem OperatorLinks.bijection (links : OperatorLinks db) : OperatorBijection db := by
  constructor
  case operator =>
    exact fun op member => links.operator op.info.id op (Table.get?_key_of_mem member)
  case entity =>
    intro entity member owned
    have found : db.entityDB.get? entity.info.id = some entity := Table.get?_key_of_mem member
    obtain ⟨op, isOp, toEntity, _⟩ := links.entity entity.info.id entity found owned
    have opId : op.info.id = entity.operatorId := Table.key_of_get? isOp
    refine ⟨op, ⟨Table.mem_of_get? isOp, toEntity⟩, ?_⟩
    rintro other ⟨otherMem, otherTo⟩
    have isOther : db.operatorDB.get? other.info.id = some other :=
      Table.get?_key_of_mem otherMem
    cases isDefault : other.defaultOperator with
    | false =>
        obtain ⟨entity', found', owner⟩ := links.operator other.info.id other isOther isDefault
        rw [otherTo, found, Option.some.injEq] at found'
        rw [← owner, ← found', isOp, Option.some.injEq] at isOther
        exact isOther.symm
    | true =>
        obtain ⟨root, isRoot, noOwner⟩ := links.root
        rw [← links.ofDefault _ _ isOther isDefault, otherTo, found, Option.some.injEq] at isRoot
        rw [isRoot, noOwner] at owned
        exact absurd rfl owned

theorem OperatorLinks.sameResolution (links : OperatorLinks db) : SameResolution db := by
  have agree : ∀ op ∈ db.operatorDB.rows, ∀ entity,
      getBy db.entityDB Entity.operatorId op.info.id = some entity →
        entity.info.id = op.entityId :=
    fun op member entity found =>
      (links.entityId_of_mem member (getBy_mem found) (getBy_column found)).symm
  have lookups : ∀ op ∈ db.operatorDB.rows, op.defaultOperator = false →
      ∃ entity, db.entityDB.get? op.entityId = some entity ∧
        getBy db.entityDB Entity.operatorId op.info.id = some entity := by
    intro op member notDefault
    obtain ⟨entity, found, owner⟩ :=
      links.operator op.info.id op (Table.get?_key_of_mem member) notDefault
    refine ⟨entity, found, ?_⟩
    cases byOperator : getBy db.entityDB Entity.operatorId op.info.id with
    | none => exact absurd owner (getBy_eq_none byOperator (Table.mem_of_get? found))
    | some other =>
        have sameId : other.info.id = op.entityId := agree op member other byOperator
        have isOther : db.entityDB.get? other.info.id = some other :=
          Table.get?_key_of_mem (getBy_mem byOperator)
        rw [← isOther, sameId, found]
  constructor
  case lookups =>
    intro op member notDefault
    obtain ⟨entity, found, byOperator⟩ := lookups op member notDefault
    rw [found, byOperator]
    exact ⟨rfl, rfl⟩
  case candidate =>
    intro op member notDefault
    obtain ⟨entity, found, byOperator⟩ := lookups op member notDefault
    have isOp : db.operatorDB.get? op.info.id = some op := Table.get?_key_of_mem member
    have sameId : entity.info.id = op.entityId := Table.key_of_get? found
    constructor
    · rw [operatorCandidateScope, findOperatorEntity, byOperator, Option.some_or]
      exact congrArg (Resolution.resolved · "") sameId
    · rw [operatorScope, isOp]
  case agree => exact agree

end Bijection

/-- In every database that operator and entity requests reach, operators and entities are in
bijection, both directions of the link resolve alike, and the start-up repair changes none. -/
theorem operator_bijection_of_run {db : Store} (reached : Reachable ServiceStart EntityStep db) :
    OperatorBijection db ∧ SameResolution db ∧ KeepsLinks db (fixOperators db) :=
  have links := operatorLinks_of_reachable reached
  ⟨links.bijection, links.sameResolution, links.keepsLinks_fixOperators⟩

theorem operator_bijection_after_post :
    ∃ db, (db.operatorDB.rows.map fun op => (op.info.id, op.entityId)) =
        [("o-1", rootUUID), (unaryId 15, unaryId 16)] ∧
      OperatorBijection db ∧ SameResolution db ∧ KeepsLinks db (fixOperators db) :=
  ⟨(EntityMethod.operatorPost.handle (rootContext 14) (systemStore "o-1" "s-1")
      operatorRequest).store,
    by decide,
    operator_bijection_of_run
      (.step (.start (.served "o-1" "s-1" (by decide)))
        ⟨.operatorPost, rootContext 14, operatorRequest, rootContext_fresh (by decide),
          rfl⟩)⟩

end Owprov
