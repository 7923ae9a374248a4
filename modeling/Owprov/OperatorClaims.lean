import Owprov.ConsistencyCheck

/-!
# Operators and their entities

The check links an operator to the entity that it names, or else to one that names the operator.
A visit can take an entity from the operators before it.  Still no visit changes the links of the
other operators, so that a second pass finds the same links and makes the same assignments.
-/

namespace Owprov

open PagedRepairs RowTable

/-! ## Operators and entities -/

/-- The entity that a visit links an operator to. -/
def operatorLink (entityDB : Table Entity) (operator : Operator) : Option String :=
  if operator.defaultOperator then none
  else (linkedEntity { entityDB } operator).map fun linked => linked.info.id

/-- An operator after a visit that has found a link. -/
def settledOperator (operator : Operator) (link : Option String) : Operator :=
  { operator with
    deviceRules := renewRules operator.deviceRules
    entityId := if operator.defaultOperator then rootUUID else link.getD operator.entityId }

/-- The entity that a visit lets point at the operator. -/
def claimedEntities (operator : Operator) (link : Option String) : List (String × String) :=
  (link.filter fun id => id != rootUUID).toList.map fun id => (id, operator.info.id)

def pointTo (operatorId : String) (entity : Entity) : Entity :=
  { entity with operatorId }

section Visit

variable {entityDB : Table Entity} {operator : Operator} {link : Option String}

theorem key_pointTo (operatorId : String) (entity : Entity) :
    key (pointTo operatorId entity) = key entity := rfl

theorem assignAll_claimed_none (table : Table Entity) :
    assignAll pointTo (claimedEntities operator none) table = table := rfl

/-- The entity points at the operator, whether it did before or not. -/
theorem assignAll_claimed {linked : Entity} (member : linked ∈ entityDB.rows) :
    assignAll pointTo (claimedEntities operator (some linked.info.id)) entityDB =
      if linked.info.id ≠ rootUUID ∧ linked.operatorId ≠ operator.info.id then
        entityDB.update (pointTo operator.info.id linked)
      else
        entityDB := by
  by_cases isRoot : linked.info.id = rootUUID
  · have nothing : claimedEntities operator (some linked.info.id) = [] := by
      rw [isRoot]
      rfl
    rw [if_neg fun differs => differs.1 isRoot, nothing]
    rfl
  · have claimed : claimedEntities operator (some linked.info.id) =
        [(linked.info.id, operator.info.id)] := by
      simp [claimedEntities, isRoot]
    have found : entityDB.get? linked.info.id = some linked := Table.get?_key_of_mem member
    have pointed : assignAll pointTo [(linked.info.id, operator.info.id)] entityDB =
        entityDB.update (pointTo operator.info.id linked) := by
      rw [assignAll, List.foldl_cons, List.foldl_nil, Table.modify, found]
    rw [claimed, pointed]
    by_cases same : linked.operatorId = operator.info.id
    · rw [if_neg fun differs => differs.2 same, ← same]
      exact Table.update_self member
    · rw [if_pos ⟨isRoot, same⟩]

/-- What a visit does: the operator is settled, and its entity points at it. -/
theorem fixOperator_eq {db : Store} (member : operator ∈ db.operatorDB.rows) :
    fixOperator db operator =
      { db with
        entityDB :=
          assignAll pointTo (claimedEntities operator (operatorLink db.entityDB operator))
            db.entityDB
        operatorDB := db.operatorDB.update
          (settledOperator operator (operatorLink db.entityDB operator)) } := by
  have ruled : (if operator.deviceRules.rrm = "yes" then
        ({ operator with
          deviceRules := { operator.deviceRules with rrm := "inherit" } } : Operator)
      else operator) = { operator with deviceRules := renewRules operator.deviceRules } := by
    unfold renewRules
    split <;> rfl
  have stored : ∀ (state : Store) (new : Operator), operator ∈ state.operatorDB.rows →
      (if new = operator then state
        else { state with operatorDB := state.operatorDB.update new }) =
      { state with operatorDB := state.operatorDB.update new } := by
    intro state new isRow
    split
    case isTrue same => rw [same, Table.update_self isRow]
    case isFalse differs => rfl
  unfold fixOperator settledOperator
  dsimp only
  rw [ruled]
  by_cases isDefault : operator.defaultOperator = true
  · have noLink : operatorLink db.entityDB operator = none := if_pos isDefault
    rw [if_pos isDefault, if_pos isDefault, stored db _ member, noLink, assignAll_claimed_none]
  · have link : operatorLink db.entityDB operator =
        (linkedEntity db operator).map fun linked => linked.info.id := if_neg isDefault
    rw [if_neg isDefault, if_neg isDefault, link]
    cases isLinked : linkedEntity db operator with
    | none =>
        dsimp only
        rw [stored db _ member, Option.map_none, Option.getD_none, assignAll_claimed_none]
    | some linked =>
        have pointed : (if linked.info.id ≠ rootUUID ∧ linked.operatorId ≠ operator.info.id then
              ({ db with
                entityDB :=
                  db.entityDB.update { linked with operatorId := operator.info.id } } : Store)
            else db) =
              { db with
                entityDB := assignAll pointTo (claimedEntities operator (some linked.info.id))
                  db.entityDB } := by
          rw [assignAll_claimed (Table.mem_of_get? (linkedEntity_mem isLinked))]
          split <;> rfl
        dsimp only
        rw [pointed, Option.map_some, Option.getD_some]
        exact stored { db with
          entityDB := assignAll pointTo (claimedEntities operator (some linked.info.id))
            db.entityDB } _ member

/-- The operators, each with the entity that its visit links it to. -/
def linkOperators : Table Entity → List Operator → List (Operator × Option String)
  | _, [] => []
  | entityDB, operator :: rest =>
      let link := operatorLink entityDB operator
      (operator, link) ::
        linkOperators (assignAll pointTo (claimedEntities operator link) entityDB) rest

def claims (linked : List (Operator × Option String)) : List (String × String) :=
  linked.flatMap fun pair => claimedEntities pair.1 pair.2

def settlePair (pair : Operator × Option String) : Operator :=
  settledOperator pair.1 pair.2

theorem key_settlePair (pair : Operator × Option String) : key (settlePair pair) = key pair.1 := rfl

theorem map_key_settlePair (pairs : List (Operator × Option String)) :
    (pairs.map settlePair).map key = (pairs.map Prod.fst).map key := by
  rw [List.map_map, List.map_map]
  exact List.map_congr_left fun pair _ => key_settlePair pair

theorem map_fst_linkOperators (entityDB : Table Entity) (operators : List Operator) :
    (linkOperators entityDB operators).map Prod.fst = operators := by
  induction operators generalizing entityDB with
  | nil => rfl
  | cons operator rest ih =>
      rw [linkOperators, List.map_cons, ih]

theorem assignAll_claims_cons (pair : Operator × Option String)
    (linked : List (Operator × Option String)) :
    assignAll pointTo (claims (pair :: linked)) entityDB =
      assignAll pointTo (claims linked)
        (assignAll pointTo (claimedEntities pair.1 pair.2) entityDB) := by
  rw [claims, List.flatMap_cons]
  exact List.foldl_append

theorem fixOperator_visitsApart :
    VisitsApart (fun db : Store => db.operatorDB.rows) fixOperator := by
  intro db i operator rest there
  have member : operator ∈ db.operatorDB.rows :=
    List.mem_of_mem_drop (there ▸ List.mem_cons_self)
  show (fixOperator db operator).operatorDB.rows.drop (i + 1) = rest
  rw [fixOperator_eq member]
  exact drop_update there rfl

theorem foldl_fixOperator {db : Store} {operators : List Operator} {i : ℕ}
    (there : db.operatorDB.rows.drop i = operators) :
    operators.foldl fixOperator db =
      { db with
        entityDB := assignAll pointTo (claims (linkOperators db.entityDB operators)) db.entityDB
        operatorDB := ((linkOperators db.entityDB operators).map settlePair).foldl Table.update
          db.operatorDB } := by
  induction operators generalizing db i with
  | nil => rfl
  | cons operator rest ih =>
      have member : operator ∈ db.operatorDB.rows :=
        List.mem_of_mem_drop (there ▸ List.mem_cons_self)
      have after := fixOperator_visitsApart db i operator rest there
      rw [List.foldl_cons, ih after, fixOperator_eq member]
      rw [linkOperators, assignAll_claims_cons]
      rfl

/-- The operators as the pass leaves them. -/
def settledOperators (entityDB : Table Entity) (operatorDB : Table Operator) : Table Operator where
  rows := (linkOperators entityDB operatorDB.rows).map settlePair
  distinct := by
    rw [map_key_settlePair, map_fst_linkOperators]
    exact operatorDB.distinct

theorem operatorPass {db : Store} {fuel : ℕ} (enough : db.operatorDB.rows.length < 50 * fuel) :
    iterateRows Store.operatorDB fixOperator fuel db =
      some { db with
        entityDB :=
          assignAll pointTo (claims (linkOperators db.entityDB db.operatorDB.rows)) db.entityDB
        operatorDB := settledOperators db.entityDB db.operatorDB } := by
  have rows : (((linkOperators db.entityDB db.operatorDB.rows).map settlePair).foldl Table.update
      db.operatorDB) = settledOperators db.entityDB db.operatorDB := by
    apply Table.ext
    refine rows_foldl_update (List.nil_append _).symm ?_
    rw [map_key_settlePair, map_fst_linkOperators]
  rw [iterateRows, iterate_eq_foldl fixOperator_visitsApart (by simpa using enough),
    List.drop_zero, foldl_fixOperator (List.drop_zero), rows]

end Visit

/-! ## Links that stay -/

section Assigned

variable {assignments : List (String × String)} {entityDB : Table Entity}

theorem pointTo_pointTo (operatorId operatorId' : String) (entity : Entity) :
    pointTo operatorId (pointTo operatorId' entity) = pointTo operatorId entity := rfl

/-- An entity after the assignments. -/
def assignedEntity (assignments : List (String × String)) (entity : Entity) : Entity :=
  ((lastAssigned assignments (key entity)).map fun operatorId => pointTo operatorId entity).getD
    entity

theorem rows_assigned (assignments : List (String × String)) (entityDB : Table Entity) :
    (assignAll pointTo assignments entityDB).rows =
      entityDB.rows.map (assignedEntity assignments) :=
  rows_assignAll key_pointTo pointTo_pointTo assignments entityDB

theorem key_assignedEntity (entity : Entity) :
    key (assignedEntity assignments entity) = key entity := by
  unfold assignedEntity
  cases lastAssigned assignments (key entity) with
  | none => rfl
  | some operatorId => rfl

theorem idExists_assigned (id : String) :
    idExists (assignAll pointTo assignments entityDB) id = idExists entityDB id := by
  have sameKeys : (assignAll pointTo assignments entityDB).rows.map key =
      entityDB.rows.map key := by
    rw [rows_assigned, List.map_map]
    exact List.map_congr_left fun entity _ => key_assignedEntity entity
  rw [Bool.eq_iff_iff, idExists, idExists, ← Option.ne_none_iff_isSome,
    ← Option.ne_none_iff_isSome, Ne, Ne, Table.get?_eq_none_iff, Table.get?_eq_none_iff, sameKeys]

theorem assignedEntity_operatorId (assignments : List (String × String)) (entity : Entity) :
    assignedEntity assignments entity = entity ∨
      (entity.info.id, (assignedEntity assignments entity).operatorId) ∈ assignments := by
  unfold assignedEntity
  cases last : lastAssigned assignments (key entity) with
  | none => exact .inl rfl
  | some operatorId => exact .inr (mem_of_lastAssigned last)

variable {operatorId : String} (others : ∀ pair ∈ assignments, pair.2 ≠ operatorId)
include others

/-- Assignments of other operators make no entity point at an operator. -/
theorem operatorId_of_assigned {entity : Entity}
    (points : (assignedEntity assignments entity).operatorId = operatorId) :
    assignedEntity assignments entity = entity := by
  rcases assignedEntity_operatorId assignments entity with same | claimed
  · exact same
  · exact absurd points (others _ claimed)

theorem getBy_assigned_eq_none (missing : getBy entityDB Entity.operatorId operatorId = none) :
    getBy (assignAll pointTo assignments entityDB) Entity.operatorId operatorId = none := by
  rw [getBy, rows_assigned, List.find?_eq_none]
  intro assigned member points
  rw [beq_iff_eq] at points
  obtain ⟨entity, isEntity, rfl⟩ := List.mem_map.mp member
  have same := operatorId_of_assigned others points
  rw [same] at points
  exact getBy_eq_none missing isEntity points

theorem getBy_assigned {linked : Entity} (spared : ∀ pair ∈ assignments, pair.1 ≠ linked.info.id)
    (found : getBy entityDB Entity.operatorId operatorId = some linked) :
    getBy (assignAll pointTo assignments entityDB) Entity.operatorId operatorId = some linked := by
  have unchanged : assignedEntity assignments linked = linked := by
    rcases assignedEntity_operatorId assignments linked with same | claimed
    · exact same
    · exact absurd rfl (spared _ claimed)
  obtain ⟨points, before, after, split, first⟩ := List.find?_eq_some_iff_append.mp found
  rw [getBy, rows_assigned, split, List.map_append, List.map_cons, unchanged]
  refine List.find?_eq_some_iff_append.mpr ⟨points, _, _, rfl, ?_⟩
  intro assigned member
  obtain ⟨entity, isBefore, rfl⟩ := List.mem_map.mp member
  rw [Bool.not_eq_true', beq_eq_false_iff_ne]
  intro points
  have same := operatorId_of_assigned others points
  have before := first entity isBefore
  rw [same] at points
  simp [points] at before

end Assigned

section Links

variable {entityDB : Table Entity} {operator other : Operator} {link : Option String}

theorem operatorLink_of_default (isDefault : operator.defaultOperator = true) :
    operatorLink entityDB operator = none :=
  if_pos isDefault

theorem operatorLink_of_named (ordinary : ¬operator.defaultOperator = true)
    (filled : operator.entityId ≠ "") (isThere : idExists entityDB operator.entityId = true) :
    operatorLink entityDB operator = some operator.entityId := by
  obtain ⟨entity, found⟩ := idExists_iff.mp isThere
  have isKey : entity.info.id = operator.entityId := Table.key_of_get? found
  rw [operatorLink, if_neg ordinary, linkedEntity, if_neg filled, found, Option.some_or,
    Option.map_some, isKey]

theorem operatorLink_of_unnamed (ordinary : ¬operator.defaultOperator = true)
    (unnamed : ¬(operator.entityId ≠ "" ∧ idExists entityDB operator.entityId = true)) :
    operatorLink entityDB operator =
      (getBy entityDB Entity.operatorId operator.info.id).map fun linked => linked.info.id := by
  have byId :
      (if operator.entityId = "" then none else entityDB.get? operator.entityId) = none := by
    split
    case isTrue empty => rfl
    case isFalse filled =>
      rw [Option.eq_none_iff_forall_not_mem]
      intro entity found
      exact unnamed ⟨filled, idExists_iff.mpr ⟨entity, found⟩⟩
  rw [operatorLink, if_neg ordinary, linkedEntity, byId, Option.none_or]

/-- An entity without an id is only found by the operator that it names. -/
theorem getBy_of_link_empty (isLinked : operatorLink entityDB operator = some "") :
    ∃ linked, getBy entityDB Entity.operatorId operator.info.id = some linked ∧
      linked.info.id = "" := by
  have ordinary : ¬operator.defaultOperator = true := by
    intro isDefault
    rw [operatorLink_of_default isDefault] at isLinked
    cases isLinked
  by_cases named : operator.entityId ≠ "" ∧ idExists entityDB operator.entityId = true
  · rw [operatorLink_of_named ordinary named.1 named.2] at isLinked
    exact absurd (Option.some.inj isLinked) named.1
  · rw [operatorLink_of_unnamed ordinary named] at isLinked
    exact Option.map_eq_some_iff.mp isLinked

theorem exists_of_link {id : String} (isLinked : operatorLink entityDB operator = some id) :
    ∃ linked ∈ entityDB.rows, linked.info.id = id := by
  unfold operatorLink at isLinked
  split at isLinked
  · cases isLinked
  · obtain ⟨linked, found, rfl⟩ := Option.map_eq_some_iff.mp isLinked
    exact ⟨linked, Table.mem_of_get? (linkedEntity_mem found), rfl⟩

theorem settledOperator_settledOperator (operator : Operator) (link : Option String) :
    settledOperator (settledOperator operator link) link = settledOperator operator link := by
  unfold settledOperator
  dsimp only
  rw [renewRules_renewRules]
  cases link with
  | none => split <;> rfl
  | some id => rfl

theorem mem_claimedEntities {pair : String × String}
    (claimed : pair ∈ claimedEntities operator link) :
    link = some pair.1 ∧ pair.1 ≠ rootUUID ∧ pair.2 = operator.info.id := by
  obtain ⟨id, isLink, rfl⟩ := List.mem_map.mp claimed
  obtain ⟨isSome, differs⟩ := Option.filter_eq_some_iff.mp (Option.mem_toList.mp isLink)
  exact ⟨isSome, bne_iff_ne.mp differs, rfl⟩

/-- An operator that names its link already, as the check leaves it. -/
structure Settled (entityDB : Table Entity) (operator : Operator) (link : Option String) :
    Prop where
  linked : operatorLink entityDB operator = link
  settled : settledOperator operator link = operator

/-- A visit settles the operator. -/
theorem settled_of_visit (entityDB : Table Entity) (operator : Operator) :
    Settled
      (assignAll pointTo (claimedEntities operator (operatorLink entityDB operator)) entityDB)
      (settledOperator operator (operatorLink entityDB operator))
      (operatorLink entityDB operator) where
  settled := settledOperator_settledOperator operator _
  linked := by
    by_cases isDefault : operator.defaultOperator = true
    · rw [operatorLink_of_default isDefault]
      exact operatorLink_of_default isDefault
    · cases isLinked : operatorLink entityDB operator with
      | none =>
          have sameEntity : (settledOperator operator none).entityId = operator.entityId :=
            if_neg isDefault
          have sameLink : operatorLink entityDB (settledOperator operator none) =
              operatorLink entityDB operator := by
            unfold operatorLink linkedEntity
            rw [sameEntity]
            rfl
          rw [assignAll_claimed_none, sameLink, isLinked]
      | some id =>
          have named : (settledOperator operator (some id)).entityId = id := if_neg isDefault
          have ordinary : ¬(settledOperator operator (some id)).defaultOperator = true := isDefault
          by_cases filled : id = ""
          · rw [filled] at isLinked named ordinary ⊢
            obtain ⟨linked, found, isEmpty⟩ := getBy_of_link_empty isLinked
            have unchanged : assignAll pointTo (claimedEntities operator (some "")) entityDB =
                entityDB := by
              rw [← isEmpty, assignAll_claimed (getBy_mem found),
                if_neg fun differs => differs.2 (getBy_column found)]
            rw [unchanged, operatorLink_of_unnamed ordinary fun isNamed => isNamed.1 named]
            rw [← isEmpty]
            exact congrArg (Option.map _) found
          · obtain ⟨linked, member, isKey⟩ := exists_of_link isLinked
            have isThere : idExists entityDB id = true :=
              idExists_iff.mpr ⟨linked, isKey ▸ Table.get?_key_of_mem member⟩
            rw [operatorLink_of_named ordinary (by rwa [named])
              (by rw [named, idExists_assigned, isThere]), named]

/-- Visits of other operators keep it settled. -/
theorem Settled.keep (settled : Settled entityDB operator link)
    (differs : other.info.id ≠ operator.info.id) :
    Settled (assignAll pointTo (claimedEntities other (operatorLink entityDB other)) entityDB)
      operator link where
  settled := settled.settled
  linked := by
    have others : ∀ pair ∈ claimedEntities other (operatorLink entityDB other),
        pair.2 ≠ operator.info.id := by
      intro pair claimed same
      exact differs ((mem_claimedEntities claimed).2.2.symm.trans same)
    rw [← settled.linked]
    by_cases isDefault : operator.defaultOperator = true
    · rw [operatorLink_of_default isDefault, operatorLink_of_default isDefault]
    · by_cases named : operator.entityId ≠ "" ∧ idExists entityDB operator.entityId = true
      · rw [operatorLink_of_named isDefault named.1 named.2,
          operatorLink_of_named isDefault named.1 (by rw [idExists_assigned, named.2])]
      · rw [operatorLink_of_unnamed isDefault named,
          operatorLink_of_unnamed isDefault (by rwa [idExists_assigned])]
        congr 1
        cases found : getBy entityDB Entity.operatorId operator.info.id with
        | none => exact getBy_assigned_eq_none others found
        | some linked =>
            apply getBy_assigned others _ found
            intro pair claimed same
            -- such an operator names no entity, so that its entity has no id
            have link_eq : link = some linked.info.id := by
              rw [← settled.linked, operatorLink_of_unnamed isDefault named, found, Option.map_some]
            have names : linked.info.id = operator.entityId := by
              have field := congrArg Operator.entityId settled.settled
              rw [link_eq] at field
              exact (if_neg isDefault).symm.trans field
            have isEmpty : linked.info.id = "" := by
              by_contra filled
              refine named ⟨names ▸ filled, idExists_iff.mpr ⟨linked, ?_⟩⟩
              rw [← names]
              exact Table.get?_key_of_mem (getBy_mem found)
            have isLinked := (mem_claimedEntities claimed).1
            rw [same, isEmpty] at isLinked
            obtain ⟨linked', found', isEmpty'⟩ := getBy_of_link_empty isLinked
            have sameEntity : linked' = linked := by
              have here := Table.get?_key_of_mem (getBy_mem found)
              have there := Table.get?_key_of_mem (getBy_mem found')
              rw [show key linked' = key linked from isEmpty'.trans isEmpty.symm, here] at there
              exact (Option.some.inj there).symm
            apply differs
            rw [← getBy_column found', sameEntity, getBy_column found]

theorem Settled.keepAll {operators : List Operator} (settled : Settled entityDB operator link)
    (others : ∀ other ∈ operators, key other ≠ key operator) :
    Settled (assignAll pointTo (claims (linkOperators entityDB operators)) entityDB) operator
      link := by
  induction operators generalizing entityDB with
  | nil => exact settled
  | cons other rest ih =>
      rw [linkOperators, assignAll_claims_cons]
      exact ih (settled.keep (others other List.mem_cons_self))
        fun later member => others later (List.mem_cons_of_mem _ member)

/-- The pass settles every operator. -/
theorem settled_of_pass {operators : List Operator} (distinct : (operators.map key).Nodup)
    {pair : Operator × Option String} (member : pair ∈ linkOperators entityDB operators) :
    Settled (assignAll pointTo (claims (linkOperators entityDB operators)) entityDB)
      (settlePair pair) pair.2 := by
  induction operators generalizing entityDB with
  | nil => cases member
  | cons operator rest ih =>
      rw [List.map_cons, List.nodup_cons] at distinct
      rw [linkOperators] at member ⊢
      rw [assignAll_claims_cons]
      rcases List.mem_cons.mp member with rfl | later
      · apply (settled_of_visit entityDB operator).keepAll
        intro other isOther same
        exact distinct.1 (List.mem_map.mpr ⟨other, isOther, same⟩)
      · exact ih distinct.2 later

/-- A pass over settled operators finds the links again. -/
theorem linkOperators_of_settled {linked : List (Operator × Option String)}
    (distinct : ((linked.map Prod.fst).map key).Nodup)
    (settled : ∀ pair ∈ linked, Settled entityDB pair.1 pair.2) :
    linkOperators entityDB (linked.map Prod.fst) = linked := by
  induction linked generalizing entityDB with
  | nil => rfl
  | cons pair rest ih =>
      rw [List.map_cons, List.map_cons, List.nodup_cons] at distinct
      have link := (settled pair List.mem_cons_self).linked
      rw [List.map_cons, linkOperators, link]
      rw [ih distinct.2]
      intro later member
      have differs : pair.1.info.id ≠ later.1.info.id := by
        intro same
        exact distinct.1 (List.mem_map.mpr ⟨later.1, List.mem_map_of_mem member, same.symm⟩)
      have kept := (settled later (List.mem_cons_of_mem _ member)).keep differs
      rwa [link] at kept

/-- A second pass changes nothing. -/
theorem settledOperators_again (entityDB : Table Entity) (operatorDB : Table Operator) :
    let linked := linkOperators entityDB operatorDB.rows
    let pointed := assignAll pointTo (claims linked) entityDB
    let settled := settledOperators entityDB operatorDB
    assignAll pointTo (claims (linkOperators pointed settled.rows)) pointed = pointed ∧
      settledOperators pointed settled = settled := by
  intro linked pointed settled
  have rows : settled.rows = (linked.map fun pair => (settlePair pair, pair.2)).map Prod.fst := by
    rw [List.map_map]
    rfl
  have again : linkOperators pointed settled.rows =
      linked.map fun pair => (settlePair pair, pair.2) := by
    rw [rows]
    apply linkOperators_of_settled
    · rw [← rows]
      exact settled.distinct
    · intro pair member
      obtain ⟨first, isFirst, rfl⟩ := List.mem_map.mp member
      exact settled_of_pass operatorDB.distinct isFirst
  have sameClaims : claims (linked.map fun pair => (settlePair pair, pair.2)) = claims linked := by
    rw [claims, List.flatMap_map]
    rfl
  constructor
  · rw [again, sameClaims]
    exact assignAll_assignAll key_pointTo pointTo_pointTo (claims linked) entityDB
  · apply Table.ext
    show (linkOperators pointed settled.rows).map settlePair = linked.map settlePair
    rw [again, List.map_map]
    apply List.map_congr_left
    intro pair _
    exact settledOperator_settledOperator pair.1 pair.2

end Links

end Owprov
