import Owprov.EntityHandlers
import Owprov.Hierarchy

/-!
# The entity tree

Entities hang below the root entity, or below the entity of an operator that itself hangs
below the root.  The parent of an entity and the list of children it belongs to are
written separately, by the entity handler and by the operator handler.  Every request
keeps the two in step, so the recursions over entities stop.
-/

namespace Owprov

open RowTable LinkedForest AcyclicRelation

/-- Where the entities of a table hang. -/
structure Placement (table : Table Entity) : Prop where
  named : table.get? "" = none
  root : ∃ root, table.get? rootUUID = some root ∧ root.parent = ""
  placed : ∀ id entity, table.get? id = some entity → id ≠ rootUUID →
    entity.parent = rootUUID ∨
      ∃ parent, table.get? entity.parent = some parent ∧ parent.operatorId ≠ ""
  operators : ∀ id entity, table.get? id = some entity → entity.operatorId ≠ "" →
    entity.parent = rootUUID

/-- The table of entities is a tree whose links agree. -/
structure EntityTree (table : Table Entity) : Prop where
  consistent : Consistent (entityColumns.forest table)
  acyclic : Acyclic (ParentEdge (entityColumns.forest table))
  placement : Placement table

/-! ## Tables that agree on the places -/

/-- Two tables hold the same entities under the same parents, for the same operators. -/
def SamePlacement (table table' : Table Entity) : Prop :=
  ∀ id, (table'.get? id).map (fun entity => (entity.parent, entity.operatorId)) =
    (table.get? id).map fun entity => (entity.parent, entity.operatorId)

namespace SamePlacement

variable {table table' : Table Entity}

theorem symm (same : SamePlacement table table') : SamePlacement table' table :=
  fun id => (same id).symm

theorem found (same : SamePlacement table table') {id : String} {entity : Entity}
    (found : table'.get? id = some entity) :
    ∃ old, table.get? id = some old ∧ entity.parent = old.parent ∧
      entity.operatorId = old.operatorId := by
  have views := same id
  rw [found, Option.map_some] at views
  obtain ⟨old, before, view⟩ := Option.map_eq_some_iff.mp views.symm
  rw [Prod.mk.injEq] at view
  exact ⟨old, before, view.1.symm, view.2.symm⟩

theorem manipulateVectorMember (table : Table Entity) (member : VectorMember Entity)
    (apart : ∀ ids entity, (member.set ids entity).parent = entity.parent ∧
      (member.set ids entity).operatorId = entity.operatorId)
    (parentId id : String) (add : Bool) :
    SamePlacement table (manipulateVectorMember table member parentId id add) := by
  intro other
  rw [get?_manipulateVectorMember]
  split
  · rename_i same
    rw [same, Option.map_map]
    congr 1
    funext entity
    simp [apart]
  · rfl

theorem update {old new : Entity} (found : table.get? (key new) = some old)
    (parent : new.parent = old.parent) (operatorId : new.operatorId = old.operatorId) :
    SamePlacement table (table.update new) := by
  intro id
  by_cases equal : id = key new
  · simp [equal, Table.get?_update_self found, found, parent, operatorId]
  · rw [Table.get?_update_of_ne table equal]

end SamePlacement

theorem Placement.congr {table table' : Table Entity} (placement : Placement table)
    (same : SamePlacement table table') : Placement table' := by
  constructor
  case named =>
    have views := same ""
    simpa [placement.named] using views
  case root =>
    obtain ⟨root, found, top⟩ := placement.root
    obtain ⟨root', found', parents, _⟩ := same.symm.found found
    exact ⟨root', found', parents.symm.trans top⟩
  case placed =>
    intro id entity found apart
    obtain ⟨old, before, parents, _⟩ := same.found found
    rcases placement.placed id old before apart with underRoot | ⟨parent, isParent, operated⟩
    · exact Or.inl (parents.trans underRoot)
    · obtain ⟨parent', isParent', _, operatorIds⟩ := same.symm.found isParent
      exact Or.inr ⟨parent', by rw [parents]; exact isParent', operatorIds ▸ operated⟩
  case operators =>
    intro id entity found operated
    obtain ⟨old, before, parents, operatorIds⟩ := same.found found
    exact parents.trans (placement.operators id old before (operatorIds ▸ operated))

/-- A write that keeps the links and the places keeps the tree. -/
theorem EntityTree.congr {table table' : Table Entity} (tree : EntityTree table)
    (forest : entityColumns.forest table' = entityColumns.forest table)
    (same : SamePlacement table table') : EntityTree table' where
  consistent := forest ▸ tree.consistent
  acyclic := forest ▸ tree.acyclic
  placement := tree.placement.congr same

theorem samePlacement_children (table : Table Entity) (parentId id : String) (add : Bool) :
    SamePlacement table
      (manipulateVectorMember table Entity.childrenMember parentId id add) :=
  SamePlacement.manipulateVectorMember table _ (fun _ _ => ⟨rfl, rfl⟩) parentId id add

/-- A list of an entity that is not the list of its children. -/
def OffTree (member : VectorMember Entity) : Prop :=
  ∀ ids entity, (member.set ids entity).parent = entity.parent ∧
    (member.set ids entity).children = entity.children ∧
    (member.set ids entity).operatorId = entity.operatorId

theorem offTree_managementRoles : OffTree Entity.managementRolesMember :=
  fun _ _ => ⟨rfl, rfl, rfl⟩

theorem offTree_venues : OffTree Entity.venuesMember :=
  fun _ _ => ⟨rfl, rfl, rfl⟩

theorem offTree_locations : OffTree Entity.locationsMember :=
  fun _ _ => ⟨rfl, rfl, rfl⟩

section OffTree

variable {table : Table Entity} {member : VectorMember Entity}

theorem EntityTree.writeList (tree : EntityTree table) (off : OffTree member)
    (parentId id : String) (add : Bool) :
    EntityTree (manipulateVectorMember table member parentId id add) := by
  refine tree.congr (LinkColumns.forest_manipulateVectorMember member ?_ parentId id add)
    (SamePlacement.manipulateVectorMember table member ?_ parentId id add)
  · intro ids entity
    obtain ⟨parent, children, _⟩ := off ids entity
    simp [LinkColumns.links, entityColumns, Entity.childrenMember, parent, children]
  · intro ids entity
    obtain ⟨parent, _, operatorId⟩ := off ids entity
    exact ⟨parent, operatorId⟩

theorem EntityTree.addToList (tree : EntityTree table) (off : OffTree member)
    (parentId id : String) : EntityTree (addMembership table member parentId id) := by
  unfold addMembership
  split
  · exact tree
  · exact tree.writeList off parentId id true

theorem EntityTree.manageList (tree : EntityTree table) (off : OffTree member)
    (fromId toId id : String) : EntityTree (manageMembership table member fromId toId id) := by
  unfold manageMembership
  apply EntityTree.addToList _ off
  unfold removeMembership
  split
  · exact tree
  · exact tree.writeList off fromId id false

end OffTree

theorem EntityTree.update {table : Table Entity} (tree : EntityTree table) {old new : Entity}
    (found : table.get? (key new) = some old) (parent : new.parent = old.parent)
    (children : new.children = old.children) (operatorId : new.operatorId = old.operatorId) :
    EntityTree (table.update new) := by
  refine tree.congr (LinkColumns.forest_update found ?_)
    (SamePlacement.update found parent operatorId)
  simp [LinkColumns.links, entityColumns, Entity.childrenMember, parent, children]

/-! ## New and deleted entities -/

/-- An entity may hang here: below the root or below an operator's entity. -/
def Placement.Allows (table : Table Entity) (entity : Entity) : Prop :=
  (entity.parent = rootUUID ∨
    ∃ parent, table.get? entity.parent = some parent ∧ parent.operatorId ≠ "") ∧
  (entity.operatorId ≠ "" → entity.parent = rootUUID)

namespace Placement

variable {table table' : Table Entity}

theorem parent_found (placement : Placement table) {entity : Entity}
    (allows : Allows table entity) : ∃ parent, table.get? entity.parent = some parent := by
  rcases allows.1 with underRoot | ⟨parent, isParent, _⟩
  · obtain ⟨root, found, _⟩ := placement.root
    exact ⟨root, underRoot ▸ found⟩
  · exact ⟨parent, isParent⟩

theorem ne_empty (placement : Placement table) {id : String} {entity : Entity}
    (found : table.get? id = some entity) : id ≠ "" := by
  rintro rfl
  rw [placement.named] at found
  cases found

theorem insert (placement : Placement table) {entity : Entity}
    (inserted : table.insert? entity = some table') (filled : entity.info.id ≠ "")
    (allows : Allows table entity) : Placement table' := by
  have lookup := Table.get?_insert? inserted
  have free : table.get? entity.info.id = none := Table.get?_key_of_insert? inserted
  have keeps : ∀ id old, table.get? id = some old → table'.get? id = some old := by
    intro id old found
    rw [lookup, if_neg, found]
    rintro rfl
    exact absurd found (by rw [show key entity = entity.info.id from rfl, free]; simp)
  constructor
  case named =>
    rw [lookup, placement.named]
    exact if_neg (Ne.symm filled)
  case root =>
    obtain ⟨root, found, top⟩ := placement.root
    exact ⟨root, keeps _ _ found, top⟩
  case placed =>
    intro id other found apart
    rw [lookup] at found
    split at found
    · cases found
      refine allows.1.imp_right ?_
      rintro ⟨parent, isParent, operated⟩
      exact ⟨parent, keeps _ _ isParent, operated⟩
    · refine (placement.placed id other found apart).imp_right ?_
      rintro ⟨parent, isParent, operated⟩
      exact ⟨parent, keeps _ _ isParent, operated⟩
  case operators =>
    intro id other found operated
    rw [lookup] at found
    split at found
    · cases found
      exact allows.2 operated
    · exact placement.operators id other found operated

theorem delete (placement : Placement table) {id : String} (apart : id ≠ rootUUID)
    (unused : ∀ other entity, table.get? other = some entity → entity.parent ≠ id) :
    Placement (table.delete id) := by
  have lookup := Table.get?_delete table id
  have before : ∀ other entity, (table.delete id).get? other = some entity →
      table.get? other = some entity := by
    intro other entity found
    rw [lookup] at found
    split at found
    · cases found
    · exact found
  constructor
  case named =>
    rw [lookup, placement.named, ite_self]
  case root =>
    obtain ⟨root, found, top⟩ := placement.root
    exact ⟨root, by rw [lookup, if_neg (Ne.symm apart), found], top⟩
  case placed =>
    intro other entity found differ
    have old := before other entity found
    refine (placement.placed other entity old differ).imp_right ?_
    rintro ⟨parent, isParent, operated⟩
    exact ⟨parent, by rw [lookup, if_neg (unused other entity old), isParent], operated⟩
  case operators =>
    intro other entity found
    exact placement.operators other entity (before other entity found)

end Placement

/-- A new entity without children keeps the tree when it hangs where entities may. -/
theorem EntityTree.insert {table table' : Table Entity} (tree : EntityTree table)
    {entity : Entity} (inserted : table.insert? entity = some table')
    (filled : entity.info.id ≠ "") (leaf : entity.children = [])
    (allows : Placement.Allows table entity) :
    EntityTree (manipulateVectorMember table' Entity.childrenMember entity.parent
      entity.info.id true) := by
  obtain ⟨parent, isParent⟩ := tree.placement.parent_found allows
  have fresh : entityColumns.forest table entity.info.id = none :=
    LinkColumns.forest_eq_none_iff.mpr (Table.get?_key_of_insert? inserted)
  have links : entityColumns.links entity = ⟨some entity.parent, 0⟩ := by
    have named := optionalId_of_ne (tree.placement.ne_empty isParent)
    simp [LinkColumns.links, entityColumns, Entity.childrenMember, named, leaf]
  have forest : entityColumns.forest
      (manipulateVectorMember table' Entity.childrenMember entity.parent entity.info.id true) =
        insertLeaf (entityColumns.forest table) entity.info.id (some entity.parent) := by
    have added : entityColumns.forest (manipulateVectorMember table' entityColumns.children
        entity.parent entity.info.id true) =
          addChild (entityColumns.forest table') entity.parent entity.info.id :=
      LinkColumns.forest_addChild _ _
    rw [LinkColumns.forest_insert? inserted, links] at added
    exact added
  have existing : (entityColumns.forest table entity.parent).isSome := by
    simp [LinkColumns.forest, isParent]
  constructor
  case consistent =>
    rw [forest]
    apply tree.consistent.insertLeaf fresh
    rintro _ ⟨⟩
    exact existing
  case acyclic =>
    rw [forest]
    apply acyclic_insertLeaf tree.acyclic tree.consistent fresh
    rintro self
    rw [Option.some.inj self, fresh] at existing
    cases existing
  case placement =>
    exact (tree.placement.insert inserted filled allows).congr
      (samePlacement_children table' entity.parent entity.info.id true)

/-- Deleting an entity without children keeps the tree. -/
theorem EntityTree.delete {table : Table Entity} (tree : EntityTree table) {id : String}
    {entity : Entity} (found : table.get? id = some entity) (apart : id ≠ rootUUID)
    (leaf : entity.children = []) :
    EntityTree (manipulateVectorMember (table.delete id) Entity.childrenMember entity.parent
      id false) := by
  have linked : entityColumns.forest table id = some (entityColumns.links entity) :=
    LinkColumns.forest_eq_some_iff.mpr ⟨entity, found, rfl⟩
  have childless : (entityColumns.links entity).children = 0 := by
    simp [LinkColumns.links, entityColumns, Entity.childrenMember, leaf]
  have parentFilled : entity.parent ≠ "" := by
    rcases tree.placement.placed id entity found apart with underRoot | ⟨parent, isParent, _⟩
    · rw [underRoot]
      decide
    · exact tree.placement.ne_empty isParent
  have forest : entityColumns.forest
      (manipulateVectorMember (table.delete id) Entity.childrenMember entity.parent id false) =
        deleteLeaf (entityColumns.forest table) id (entityColumns.links entity).parent := by
    have removed : entityColumns.forest (manipulateVectorMember (table.delete id)
        entityColumns.children entity.parent id false) =
          removeChild (entityColumns.forest (table.delete id)) entity.parent id :=
      LinkColumns.forest_removeChild _ _
    rw [LinkColumns.forest_delete] at removed
    have parent : (entityColumns.links entity).parent = some entity.parent :=
      optionalId_of_ne parentFilled
    rw [parent]
    exact removed
  have unused : ∀ other row, table.get? other = some row → row.parent ≠ id := by
    intro other row isRow isParent
    have edge : ParentEdge (entityColumns.forest table) other id :=
      LinkColumns.parentEdge_iff.mpr ⟨row, isRow, isParent, tree.placement.ne_empty found⟩
    obtain ⟨links, isLinks, once⟩ := tree.consistent.listed other id edge
    rw [linked, Option.some.injEq] at isLinks
    rw [← isLinks, childless, Multiset.count_zero] at once
    omega
  constructor
  case consistent =>
    rw [forest]
    exact tree.consistent.deleteLeaf linked childless
  case acyclic =>
    rw [forest]
    exact acyclic_deleteLeaf tree.acyclic
  case placement =>
    exact (tree.placement.delete apart unused).congr
      (samePlacement_children (table.delete id) entity.parent id false)

/-! ## Requests -/

section Requests

variable {ctx : Context} {db : Store}

theorem EntityTree.entityDoPost (tree : EntityTree db.entityDB) (fresh : ctx.Fresh db)
    (request : Request) : EntityTree (entityDoPost ctx db request).store.entityDB := by
  unfold Owprov.entityDoPost
  split
  · exact tree
  · rename_i entity planned
    obtain ⟨id, leaf, noOperator, _, place⟩ := entityDoPostPlan_eq_ok planned
    split
    · exact tree
    · rename_i table inserted
      have filled : entity.info.id ≠ "" := id ▸ fresh.filled 1
      have linked := tree.insert inserted filled leaf
        ⟨place, fun operated => absurd noOperator operated⟩
      have roleFresh : (linkNewEntity db table entity).rolesDB.get? (ctx.newId 2) = none :=
        fresh.role 2
      dsimp only
      rw [if_pos (autoCreateCreatorRole_snd roleFresh)]
      rcases (autoCreateCreatorRole_tables ctx (linkNewEntity db table entity) entity.info.id ""
        entity.parent "" (ctx.newId 2)).1 with same | added
      · exact same ▸ linked
      · exact added ▸ linked.addToList offTree_managementRoles entity.info.id (ctx.newId 2)

theorem EntityTree.entityDoPut (tree : EntityTree db.entityDB) (request : Request) :
    EntityTree (entityDoPut ctx db request).store.entityDB := by
  unfold Owprov.entityDoPut
  split
  · exact tree
  · rename_i updated fromPolicy toPolicy planned
    obtain ⟨existing, found, parent, children, operatorId⟩ := entityDoPutPlan_eq_ok planned
    exact tree.update found parent children operatorId

theorem EntityTree.entityDoDelete (tree : EntityTree db.entityDB) (request : Request) :
    EntityTree (entityDoDelete db request).store.entityDB := by
  unfold Owprov.entityDoDelete
  split
  · exact tree
  · rename_i existing planned
    obtain ⟨found, notRoot, vacant⟩ := entityDoDeletePlan_eq_ok planned
    have removed := tree.delete found notRoot (Entity.children_of_isVacant vacant)
    simp only [Outcome.store_done, manipulateChild, deleteScopeRoles_entityDB,
      movePolicyUsage_entityDB]
    exact removed

theorem EntityTree.operatorDoPost (tree : EntityTree db.entityDB) (fresh : ctx.Fresh db)
    (request : Request) : EntityTree (operatorDoPost ctx db request).store.entityDB := by
  unfold Owprov.operatorDoPost
  split
  · exact tree
  · rename_i operator entity planned
    obtain ⟨id, leaf, underRoot, operatorId⟩ := operatorDoPostPlan_eq_ok planned
    split
    · exact tree
    · rename_i table inserted
      have filled : entity.info.id ≠ "" := id ▸ fresh.filled 1
      have linked := tree.insert inserted filled leaf ⟨Or.inl underRoot, fun _ => underRoot⟩
      have free : db.operatorDB.get? (key operator) = none := by
        rw [show key operator = operator.info.id from rfl, operatorId]
        exact fresh.operator 0
      obtain ⟨operatorDB, stored⟩ := Table.insert?_isSome free
      rw [stored]
      exact linked

theorem EntityTree.operatorDoPut (tree : EntityTree db.entityDB) (request : Request) :
    EntityTree (operatorDoPut ctx db request).store.entityDB := by
  unfold Owprov.operatorDoPut
  split
  · exact tree
  · exact tree

theorem EntityTree.operatorDoDelete (tree : EntityTree db.entityDB) (request : Request) :
    EntityTree (operatorDoDelete db request).store.entityDB := by
  unfold Owprov.operatorDoDelete
  split
  · exact tree
  · rename_i operator linked planned
    cases linked with
    | none => exact tree
    | some entity =>
        obtain ⟨found, notRoot, vacant⟩ := operatorDoDeletePlan_eq_ok planned
        exact tree.delete found notRoot (Entity.children_of_isVacant vacant)

end Requests

/-! ## Runs -/

/-- The requests that can change the table of entities. -/
inductive EntityMethod where
  | entityPost
  | entityPut
  | entityDelete
  | operatorPost
  | operatorPut
  | operatorDelete

/-- What the handler of a request does to the database. -/
def EntityMethod.handle (ctx : Context) (db : Store) (request : Request) :
    EntityMethod → Outcome
  | .entityPost => entityDoPost ctx db request
  | .entityPut => entityDoPut ctx db request
  | .entityDelete => entityDoDelete db request
  | .operatorPost => operatorDoPost ctx db request
  | .operatorPut => operatorDoPut ctx db request
  | .operatorDelete => operatorDoDelete db request

/-- The databases that entity and operator requests reach, whoever sends them. -/
inductive EntityRun : Store → Prop
  | initial : EntityRun initialStore
  | step {db : Store} (method : EntityMethod) (ctx : Context) (request : Request) :
      EntityRun db → ctx.Fresh db → EntityRun (method.handle ctx db request).store

theorem entityTree_initial : EntityTree initialStore.entityDB := by
  have lookup : ∀ id, initialStore.entityDB.get? id =
      if rootUUID = id then
        some { info := { id := rootUUID, name := "Top Entity" }, deviceRules := { rrm := "off" } }
      else none :=
    fun id => Table.get?_singleton _ id
  have noParent : ∀ a b, ¬ ParentEdge (entityColumns.forest initialStore.entityDB) a b := by
    intro a b edge
    obtain ⟨row, found, isParent, filled⟩ := LinkColumns.parentEdge_iff.mp edge
    rw [lookup] at found
    split at found
    · cases found
      exact filled isParent.symm
    · cases found
  have noChild : ∀ a b, ¬ ChildEdge (entityColumns.forest initialStore.entityDB) a b := by
    intro a b edge
    obtain ⟨row, found, member⟩ := LinkColumns.childEdge_iff.mp edge
    rw [lookup] at found
    split at found
    · cases found
      exact List.not_mem_nil member
    · cases found
  constructor
  case consistent =>
    exact ⟨fun a b edge => absurd edge (noParent a b), fun a b edge => absurd edge (noChild a b)⟩
  case acyclic =>
    intro a cycle
    obtain ⟨b, edge, _⟩ := Relation.TransGen.head'_iff.mp cycle
    exact noParent a b edge
  case placement =>
    constructor
    case named => decide
    case root => exact ⟨_, lookup rootUUID, rfl⟩
    case placed =>
      intro id entity found apart
      rw [lookup, if_neg (Ne.symm apart)] at found
      cases found
    case operators =>
      intro id entity found operated
      rw [lookup] at found
      split at found
      · cases found
        exact absurd rfl operated
      · cases found

/-- One request keeps the tree. -/
theorem EntityTree.handle {ctx : Context} {db : Store} (tree : EntityTree db.entityDB)
    (method : EntityMethod) (fresh : ctx.Fresh db) (request : Request) :
    EntityTree (method.handle ctx db request).store.entityDB := by
  cases method with
  | entityPost => exact tree.entityDoPost fresh request
  | entityPut => exact tree.entityDoPut request
  | entityDelete => exact tree.entityDoDelete request
  | operatorPost => exact tree.operatorDoPost fresh request
  | operatorPut => exact tree.operatorDoPut request
  | operatorDelete => exact tree.operatorDoDelete request

theorem EntityRun.entityTree {db : Store} (run : EntityRun db) : EntityTree db.entityDB := by
  induction run with
  | initial => exact entityTree_initial
  | step method ctx request _ fresh ih => exact ih.handle method fresh request

/-- The shape of the stored entities: links agree in both directions, and every entity is
within two steps of the root. -/
structure EntityShape (db : Store) : Prop where
  parent : ∀ id entity, db.entityDB.get? id = some entity → id ≠ rootUUID →
    ∃ parent, db.entityDB.get? entity.parent = some parent ∧ parent.children.count id = 1
  elsewhere : ∀ id entity other, db.entityDB.get? id = some entity →
    other ∈ db.entityDB.rows → id ∈ other.children → other.info.id = entity.parent
  children : ∀ other ∈ db.entityDB.rows, ∀ id ∈ other.children,
    ∃ entity, db.entityDB.get? id = some entity ∧ id ≠ rootUUID
  depth : ∀ id entity, db.entityDB.get? id = some entity →
    id = rootUUID ∨ entity.parent = rootUUID ∨
      ∃ parent, db.entityDB.get? entity.parent = some parent ∧ parent.parent = rootUUID

/-- The recursions over entities stop on every id. -/
structure EntityRecursionsStop (db : Store) : Prop where
  addEntityConfig : ∀ apConfig id,
    Terminates fun fuel => APConfig.addEntityConfig db fuel apConfig id
  evaluateDeviceRules : ∀ config id rules,
    Terminates fun fuel => evaluateEntityRules db config fuel id rules
  getDescendantEntities : ∀ id, Terminates fun fuel => getDescendantEntities db fuel id
  getLocationsForEntity : ∀ id, Terminates fun fuel => getLocationsForEntity db fuel id

theorem EntityTree.parentEdge {db : Store} (tree : EntityTree db.entityDB) {id : String}
    {entity : Entity} (found : db.entityDB.get? id = some entity) (apart : id ≠ rootUUID) :
    ParentEdge (entityColumns.forest db.entityDB) id entity.parent := by
  refine LinkColumns.parentEdge_iff.mpr ⟨entity, found, rfl, ?_⟩
  rcases tree.placement.placed id entity found apart with underRoot | ⟨parent, isParent, _⟩
  · rw [underRoot]
    decide
  · exact tree.placement.ne_empty isParent

theorem EntityTree.parentEdge_of_child {db : Store} (tree : EntityTree db.entityDB)
    {other : Entity} (row : other ∈ db.entityDB.rows) {id : String} (listed : id ∈ other.children) :
    ∃ entity, db.entityDB.get? id = some entity ∧ entity.parent = other.info.id ∧
      other.info.id ≠ "" :=
  LinkColumns.parentEdge_iff.mp (tree.consistent.owned other.info.id id
    (LinkColumns.childEdge_iff.mpr ⟨other, Table.get?_key_of_mem row, listed⟩))

theorem EntityTree.shape {db : Store} (tree : EntityTree db.entityDB) : EntityShape db := by
  constructor
  case parent =>
    intro id entity found apart
    obtain ⟨links, linked, once⟩ :=
      tree.consistent.listed id entity.parent (tree.parentEdge found apart)
    obtain ⟨parent, isParent, rfl⟩ := LinkColumns.forest_eq_some_iff.mp linked
    exact ⟨parent, isParent, (Multiset.coe_count id parent.children).symm.trans once⟩
  case elsewhere =>
    intro id entity other found row listed
    obtain ⟨entity', found', isParent, _⟩ := tree.parentEdge_of_child row listed
    rw [found, Option.some.injEq] at found'
    rw [found', isParent]
  case children =>
    intro other row id listed
    obtain ⟨entity, found, isParent, filled⟩ := tree.parentEdge_of_child row listed
    refine ⟨entity, found, ?_⟩
    rintro rfl
    obtain ⟨root, isRoot, top⟩ := tree.placement.root
    rw [found, Option.some.injEq] at isRoot
    rw [isRoot, top] at isParent
    exact filled isParent.symm
  case depth =>
    intro id entity found
    rcases eq_or_ne id rootUUID with isRoot | apart
    · exact Or.inl isRoot
    · right
      rcases tree.placement.placed id entity found apart with underRoot | ⟨parent, isParent, operated⟩
      · exact Or.inl underRoot
      · exact Or.inr ⟨parent, isParent, tree.placement.operators _ parent isParent operated⟩

theorem EntityTree.recursionsStop {db : Store} (tree : EntityTree db.entityDB) :
    EntityRecursionsStop db := by
  have enough : db.entityDB.rows.length < db.entityFuel := Nat.lt_succ_self _
  constructor
  case addEntityConfig =>
    exact fun apConfig id =>
      ⟨db.entityFuel, addEntityConfig_isSome tree.acyclic enough apConfig id⟩
  case evaluateDeviceRules =>
    exact fun config id rules =>
      ⟨db.entityFuel, evaluateEntityRules_isSome tree.acyclic enough config rules id⟩
  case getDescendantEntities =>
    exact fun id => ⟨db.entityFuel,
      getDescendantEntities_isSome (tree.consistent.childEdge_acyclic tree.acyclic) enough id⟩
  case getLocationsForEntity =>
    exact fun id => ⟨db.entityFuel, getLocationsForEntity_isSome tree.acyclic enough id⟩

/-- In every database that entity and operator requests reach, the entities form a tree of
depth two with consistent links, and the recursions over them stop. -/
theorem entity_shape_of_run {db : Store} (run : EntityRun db) :
    EntityShape db ∧ EntityRecursionsStop db :=
  ⟨run.entityTree.shape, run.entityTree.recursionsStop⟩

/-! ### A run -/

/-- A text of a given length. -/
def unaryId (length : ℕ) : String :=
  String.ofList (List.replicate length 'u')

theorem length_unaryId (length : ℕ) : (unaryId length).length = length := by
  simp [unaryId]

/-- Conditions with a quote from the request find no rows. -/
def noQuotedSelects : QuotedSelects where
  contacts _ _ _ := []
  locations _ _ _ := []
  configurations _ _ _ := []
  «variables» _ _ _ := []
  maps _ _ _ := []
  roles _ _ _ := []

/-- A root user, every check passes, and the new ids are longer than a given length. -/
def rootContext (length : ℕ) : Context where
  env :=
    { validRRMDetails := fun _ => true
      validateIpRanges := fun _ => true
      validTimeZone := fun _ => true
      isAcceptedDeviceType := fun _ => true
      configBlockError := fun _ _ => none
      existFunc := fun _ => none
      countsQuoted := fun _ _ => false
      quotedSelects := noQuotedSelects
      secSubscriber := fun _ => true
      usersLike := fun users user => users.contains user
      now := "0"
      secUser := fun _ => none
      validEMailAddress := fun _ => true
      secSignup := fun call => .ok call.email
      secDeleteSubscriber := fun _ => true
      startMonitoring := fun _ => none
      stopMonitoring := fun _ => true }
  caller := { user := { id := "root", userRole := .root } }
  newId i := unaryId (length + i + 1)

/-- The ids of a table are at most of a given length. -/
def idsBounded {α : Type} [Keyed α String] (length : ℕ) (table : Table α) : Bool :=
  table.rows.all fun row => decide ((key row).length ≤ length)

theorem get?_unaryId {α : Type} [Keyed α String] {length longer : ℕ} {table : Table α}
    (bounded : idsBounded length table = true) (long : length < longer) :
    table.get? (unaryId longer) = none := by
  cases found : table.get? (unaryId longer) with
  | none => rfl
  | some row =>
      have short := List.all_eq_true.mp bounded row (Table.mem_of_get? found)
      rw [Table.key_of_get? found, length_unaryId, decide_eq_true_iff] at short
      omega

/-- The new ids are fresh where all ids are short. -/
theorem rootContext_fresh {length : ℕ} {db : Store}
    (bounded : (idsBounded length db.entityDB && idsBounded length db.venueDB &&
      idsBounded length db.rolesDB && idsBounded length db.operatorDB &&
      idsBounded length db.locationDB) = true) : (rootContext length).Fresh db := by
  simp only [Bool.and_eq_true] at bounded
  obtain ⟨⟨⟨⟨entity, venue⟩, role⟩, operator⟩, location⟩ := bounded
  constructor
  case filled =>
    intro i blank
    have lengths := congrArg String.length blank
    rw [show (rootContext length).newId i = unaryId (length + i + 1) from rfl,
      length_unaryId] at lengths
    simp at lengths
  case distinct =>
    intro i j equal
    have lengths : (unaryId (length + i + 1)).length = (unaryId (length + j + 1)).length :=
      congrArg String.length equal
    rw [length_unaryId, length_unaryId] at lengths
    omega
  case entity => exact fun i => get?_unaryId entity (by omega)
  case venue => exact fun i => get?_unaryId venue (by omega)
  case role => exact fun i => get?_unaryId role (by omega)
  case operator => exact fun i => get?_unaryId operator (by omega)
  case location => exact fun i => get?_unaryId location (by omega)

/-- A request that creates an operator. -/
def operatorRequest : Request where
  method := .post
  uri := "/api/v1/operator/0"
  bindings := [("uuid", "0")]
  body := some [("name", .str "Acme"), ("registrationId", .str "acme")]

theorem entity_shape_after_operator_post :
    ∃ db, (db.entityDB.rows.map fun entity => (entity.parent, entity.children)) =
        [("", [unaryId 16]), (rootUUID, [])] ∧
      EntityShape db ∧ EntityRecursionsStop db :=
  ⟨(EntityMethod.operatorPost.handle (rootContext 14) initialStore operatorRequest).store,
    by decide,
    entity_shape_of_run (.step .operatorPost (rootContext 14) operatorRequest .initial
      (rootContext_fresh (by decide)))⟩

end Owprov
