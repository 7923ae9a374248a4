import Owprov.Lib.Acyclic
import Owprov.VariableExpansion
import Owprov.VariableHandlers

/-!
# Where the expansion of variables ends

The expansion goes down the parts of a value, and from a `__variableBlock` on to the values of a
stored block.  It ends where the references between the stored blocks have no cycle.
-/

namespace Owprov

open AcyclicRelation JsonValues RowTable Runs SettledResults

/-! ## References -/

/-- The ids in the value of a `__variableBlock`. -/
def blockIds (toText : Value → Except Halt String) : Value → List String
  | .arr uuids => uuids.filterMap fun uuid => (toText uuid).toOption
  | value => (toText value).toOption.toList

/-- A value names a block in one of its parts. -/
inductive Names (toText : Value → Except Halt String) : Value → String → Prop
  | item {items : List Value} {item : Value} {id : String} :
      item ∈ items → Names toText item id → Names toText (.arr items) id
  | member {members : Members} {member : String × Value} {id : String} :
      member ∈ members → member.1 ≠ "__variableBlock" → member.1 ≠ "__radiusEndpoint" →
      Names toText member.2 id → Names toText (.obj members) id
  | block {members : Members} {value : Value} {id : String} :
      ("__variableBlock", value) ∈ members → id ∈ blockIds toText value →
      Names toText (.obj members) id

/-- The values of the variables of a block name another one. -/
def NamedBy (env : RenderEnv) (values : List String) (id : String) : Prop :=
  ∃ value ∈ values, ∃ members, env.parse value = some (.obj members) ∧
    ∃ member ∈ members, Names env.toText member.2 id

/-- One stored block refers to another one. -/
def Refers (env : RenderEnv) (a b : String) : Prop :=
  ∃ values, env.block a = some values ∧ NamedBy env values b

/-! ## Enough fuel -/

section Fuel

variable {env : RenderEnv} {strict : Bool} {fuel fuel' : ℕ}

/-- The fuel suffices for a block. -/
def BlockEnds (env : RenderEnv) (strict : Bool) (fuel : ℕ) (id : String) : Prop :=
  ∀ result, replaceNestedVariables env strict fuel id result ≠ .error .exhausted

/-- The fuel suffices for the parts of a value. -/
def ValueEnds (env : RenderEnv) (strict : Bool) (fuel : ℕ) : Value → Prop
  | .arr items => replaceVariablesInArray env strict fuel items ≠ .error .exhausted
  | .obj members => replaceVariablesInObject env strict fuel members ≠ .error .exhausted
  | _ => True

theorem replace_settles_of_le (more : fuel ≤ fuel') :
    (∀ uuid result, Settles (· ≠ .exhausted) (replaceNestedVariables env strict fuel uuid result)
      (replaceNestedVariables env strict fuel' uuid result)) ∧
    (∀ members, Settles (· ≠ .exhausted) (replaceVariablesInObject env strict fuel members)
      (replaceVariablesInObject env strict fuel' members)) ∧
    ∀ items, Settles (· ≠ .exhausted) (replaceVariablesInArray env strict fuel items)
      (replaceVariablesInArray env strict fuel' items) :=
  replace_settles (.inl rfl) (not_not.mpr rfl) more

theorem BlockEnds.mono {id : String} (ends : BlockEnds env strict fuel id)
    (more : fuel ≤ fuel') : BlockEnds env strict fuel' id :=
  fun result => ((replace_settles_of_le more).1 id result).ne_error (ends result)

theorem ValueEnds.mono {value : Value} (ends : ValueEnds env strict fuel value)
    (more : fuel ≤ fuel') : ValueEnds env strict fuel' value := by
  obtain ⟨-, objects, arrays⟩ := @replace_settles_of_le env strict _ _ more
  cases value with
  | arr items => exact (arrays items).ne_error ends
  | obj members => exact (objects members).ne_error ends
  | null => trivial
  | bool value => trivial
  | num value => trivial
  | str text => trivial

theorem replaceMember_ends (result : Members) {member : String × Value}
    (ends : ValueEnds env strict fuel member.2) :
    replaceMember (replaceVariablesInArray env strict fuel)
      (replaceVariablesInObject env strict fuel) result member ≠ .error .exhausted := by
  unfold replaceMember
  split
  · rintro ⟨⟩
  · rename_i first rest isArray
    rw [isArray] at ends
    exact bind_ne_error ends fun _ _ => nofun
  · rename_i members isObject
    rw [isObject] at ends
    exact bind_ne_error ends fun _ _ => nofun
  · rintro ⟨⟩

theorem replaceElement_ends (result : List Value) {element : Value}
    (ends : ValueEnds env strict fuel element) :
    replaceElement (replaceVariablesInArray env strict fuel)
      (replaceVariablesInObject env strict fuel) result element ≠ .error .exhausted := by
  unfold replaceElement
  split
  · rintro ⟨⟩
  · exact bind_ne_error ends fun _ _ => nofun
  · exact bind_ne_error ends fun _ _ => nofun
  · rintro ⟨⟩
  · rintro ⟨⟩

theorem toText_ne_exhausted (value : Value) : env.toText value ≠ .error .exhausted := by
  cases value <;> rintro ⟨⟩

theorem replaceBlocks_ends (result : Members) {value : Value}
    (ends : ∀ id ∈ blockIds env.toText value, BlockEnds env strict fuel id) :
    replaceBlocks env (replaceNestedVariables env strict fuel) result value ≠
      .error .exhausted := by
  have one : ∀ part, (∀ id, env.toText part = .ok id → BlockEnds env strict fuel id) →
      ∀ result, (do
        let uuid ← env.toText part
        replaceNestedVariables env strict fuel uuid result) ≠ .error .exhausted := by
    intro part ends result
    exact bind_ne_error (toText_ne_exhausted part) fun id isId => ends id isId result
  unfold replaceBlocks
  split
  · rename_i uuids
    refine foldlM_ne_error _ _ fun state part member => one part (fun id isId => ?_) state
    refine ends id (List.mem_filterMap.mpr ⟨part, member, ?_⟩)
    rw [isId]
    rfl
  · rename_i notArray
    refine one value (fun id isId => ends id ?_) result
    unfold blockIds
    split
    · exact absurd rfl (notArray _)
    · rw [isId]
      exact List.mem_singleton_self id

/-- The fuel suffices for a member of an object. -/
def MemberEnds (env : RenderEnv) (strict : Bool) (fuel : ℕ) (member : String × Value) : Prop :=
  if member.1 = "__variableBlock" then
    ∀ id ∈ blockIds env.toText member.2, BlockEnds env strict fuel id
  else
    member.1 = "__radiusEndpoint" ∨ ValueEnds env strict fuel member.2

theorem MemberEnds.mono {member : String × Value} (ends : MemberEnds env strict fuel member)
    (more : fuel ≤ fuel') : MemberEnds env strict fuel' member := by
  unfold MemberEnds at ends ⊢
  split
  · rename_i isBlock
    rw [if_pos isBlock] at ends
    exact fun id named => (ends id named).mono more
  · rename_i isOther
    rw [if_neg isOther] at ends
    exact ends.imp_right fun valueEnds => valueEnds.mono more

theorem replaceObjectMember_ends (state : Members × Bool) {member : String × Value}
    (ends : MemberEnds env strict fuel member) :
    replaceObjectMember env strict (replaceNestedVariables env strict fuel)
      (replaceVariablesInArray env strict fuel) (replaceVariablesInObject env strict fuel)
      state member ≠ .error .exhausted := by
  unfold MemberEnds at ends
  unfold replaceObjectMember
  split
  · rintro ⟨⟩
  · split
    · rename_i isBlock
      rw [if_pos isBlock] at ends
      exact bind_ne_error (replaceBlocks_ends state.1 ends) fun _ _ => nofun
    · rename_i notBlock
      rw [if_neg notBlock] at ends
      split
      · refine bind_ne_error (toText_ne_exhausted member.2) fun id _ => ?_
        cases env.endpoint id with
        | none =>
            dsimp only
            split <;> rintro ⟨⟩
        | some insert =>
            dsimp only
            split <;> rintro ⟨⟩
      · rename_i notEndpoint
        have valueEnds := ends.resolve_left notEndpoint
        exact bind_ne_error (replaceMember_ends state.1 valueEnds) fun _ _ => nofun

end Fuel

/-! ## Values and blocks that end -/

section Ending

variable {env : RenderEnv} {strict : Bool}

/-- The expansion of a value ends when that of every block it names does. -/
theorem exists_valueEnds (value : Value)
    (named : ∀ id, Names env.toText value id → ∃ fuel, BlockEnds env strict fuel id) :
    ∃ fuel, ValueEnds env strict fuel value := by
  induction value using Value.parts_induction with
  | plain value notArray notObject =>
      refine ⟨0, ?_⟩
      unfold ValueEnds
      split
      · exact absurd rfl (notArray _)
      · exact absurd rfl (notObject _)
      · trivial
  | arr items ih =>
      obtain ⟨fuel, ends⟩ := exists_fuel_of_forall (ValueEnds env strict)
        (fun _ _ _ more ends => ValueEnds.mono ends more)
        fun item member => ih item member fun id names => named id (.item member names)
      refine ⟨fuel + 1, ?_⟩
      unfold ValueEnds
      dsimp only
      rw [replaceVariablesInArray]
      exact foldlM_ne_error _ _ fun state item member =>
        replaceElement_ends state (ends item member)
  | obj members ih =>
      have each : ∀ member ∈ members, ∃ fuel, MemberEnds env strict fuel member := by
        rintro ⟨name, value⟩ member
        unfold MemberEnds
        by_cases isBlock : name = "__variableBlock"
        · subst isBlock
          simp only [if_true]
          exact exists_fuel_of_forall (BlockEnds env strict)
            (fun _ _ _ more ends => BlockEnds.mono ends more)
            fun id isNamed => named id (.block member isNamed)
        · simp only [if_neg isBlock]
          by_cases isEndpoint : name = "__radiusEndpoint"
          · exact ⟨0, .inl isEndpoint⟩
          · obtain ⟨fuel, ends⟩ := ih (name, value) member fun id names =>
              named id (.member member isBlock isEndpoint names)
            exact ⟨fuel, .inr ends⟩
      obtain ⟨fuel, ends⟩ := exists_fuel_of_forall (MemberEnds env strict)
        (fun _ _ _ more ends => MemberEnds.mono ends more) each
      refine ⟨fuel + 1, ?_⟩
      unfold ValueEnds
      dsimp only
      rw [replaceVariablesInObject]
      refine bind_ne_error (foldlM_ne_error _ _ fun state member isMember => ?_) fun _ _ => by
        rintro ⟨⟩
      exact replaceObjectMember_ends state (ends member isMember)

/-- The expansion of a block ends when no walk along the references from it goes on for ever. -/
theorem exists_blockEnds {id : String} (ends : Acc (Function.swap (Refers env)) id) :
    ∃ fuel, BlockEnds env strict fuel id := by
  induction ends with
  | intro id _ ih =>
      cases stored : env.block id with
      | none =>
          refine ⟨1, fun result => ?_⟩
          rw [replaceNestedVariables, stored]
          cases strict <;> rintro ⟨⟩
      | some values =>
          have each : ∀ value ∈ values, ∃ fuel, ∀ members, env.parse value = some (.obj members) →
              ∀ member ∈ members, ValueEnds env strict fuel member.2 := by
            intro value isValue
            by_cases parses : ∃ members, env.parse value = some (.obj members)
            · obtain ⟨members, parsed⟩ := parses
              have refers : ∀ member ∈ members, ∀ other, Names env.toText member.2 other →
                  Refers env id other := fun member isMember other names =>
                ⟨values, stored, value, isValue, members, parsed, member, isMember, names⟩
              obtain ⟨fuel, ends⟩ := exists_fuel_of_forall
                (fun fuel (member : String × Value) => ValueEnds env strict fuel member.2)
                (fun _ _ _ more ends => ValueEnds.mono ends more)
                fun member isMember => exists_valueEnds member.2 fun other names =>
                  ih other (refers member isMember other names)
              refine ⟨fuel, fun others same member isMember => ends member ?_⟩
              rw [parsed] at same
              rwa [Value.obj.inj (Option.some.inj same)]
            · exact ⟨0, fun members parsed => absurd ⟨members, parsed⟩ parses⟩
          obtain ⟨fuel, ends⟩ := exists_fuel_of_forall (fun fuel value => ∀ members,
              env.parse value = some (.obj members) →
                ∀ member ∈ members, ValueEnds env strict fuel member.2)
            (fun _ _ _ more ends members parsed member isMember =>
              ValueEnds.mono (ends members parsed member isMember) more) each
          refine ⟨fuel + 1, fun result => ?_⟩
          rw [replaceNestedVariables, stored]
          refine foldlM_ne_error _ _ fun state value isValue => ?_
          unfold replaceVariable
          split
          · rename_i members parsed
            exact foldlM_ne_error _ _ fun state member isMember =>
              replaceMember_ends state (ends value isValue members parsed member isMember)
          · rintro ⟨⟩

theorem exists_sectionEnds (accessible : ∀ id, Acc (Function.swap (Refers env)) id)
    (value : Value) : ∃ fuel, replaceSection env strict fuel value ≠ .error .exhausted := by
  obtain ⟨fuel, ends⟩ := exists_valueEnds value fun id _ =>
    exists_blockEnds (accessible id)
  refine ⟨fuel, ?_⟩
  unfold replaceSection
  split
  · exact bind_ne_error ends fun _ _ => nofun
  · exact bind_ne_error ends fun _ _ => nofun
  · rintro ⟨⟩

end Ending

/-! ## Runs of the handlers -/

/-- The values of the variables of a stored block. -/
def storedValues (db : Store) (uuid : String) : Option (List String) :=
  (db.variablesDB.get? uuid).map fun block => block.variables.map Variable.value

/-- The environment with the blocks of a database. -/
def RenderEnv.over (env : RenderEnv) (db : Store) : RenderEnv :=
  { env with block := storedValues db }

/-- The stored blocks refer to each other without a cycle. -/
def AcyclicBlocks (env : RenderEnv) (db : Store) : Prop :=
  Acyclic (Refers (env.over db))

/-- No block that the values name leads back to the block that has them. -/
def NotBack (env : RenderEnv) (db : Store) (block : VariableBlock) : Prop :=
  ∀ id, NamedBy env (block.variables.map Variable.value) id →
    ¬Relation.ReflTransGen (Refers (env.over db)) id block.info.id

/-- A request for a block of variables, or any other step that leaves the variables of the stored
blocks as they are. -/
inductive VariablesStep (condition : Store → VariableBlock → Prop) : Store → Store → Prop
  | post {before : Store} (ctx : Context) (request : Request) :
      (∀ block, variablesDoPostPlan ctx before request = .ok block → condition before block) →
      VariablesStep condition before (variablesDoPost ctx before request).store
  | put {before : Store} (request : Request) :
      (∀ block moves, variablesDoPutPlan before request = .ok (block, moves) →
        condition before block) →
      VariablesStep condition before (variablesDoPut before request).store
  | delete {before : Store} (request : Request) :
      VariablesStep condition before (variablesDoDelete before request).store
  | other {before after : Store} :
      (∀ uuid, storedValues after uuid = storedValues before uuid) →
      VariablesStep condition before after

/-- A database without blocks of variables. -/
def NoBlocks (db : Store) : Prop :=
  db.variablesDB.rows = []

section Run

variable {env : RenderEnv} {db after : Store}

theorem refers_over_iff {a b : String} :
    Refers (env.over db) a b ↔ ∃ values, storedValues db a = some values ∧ NamedBy env values b :=
  Iff.rfl

/-- Only stored blocks refer to others, so references without a cycle end. -/
theorem acc_of_acyclic (acyclic : AcyclicBlocks env db) (id : String) :
    Acc (Function.swap (Refers (env.over db))) id := by
  have isSource : ∀ a b, Refers (env.over db) a b → a ∈ (db.variablesDB.rows.map key).toFinset := by
    intro a b refers
    obtain ⟨values, stored, -⟩ := refers_over_iff.mp refers
    obtain ⟨block, found, -⟩ := Option.map_eq_some_iff.mp stored
    rw [List.mem_toFinset, ← Table.key_of_get? found]
    exact List.mem_map_of_mem (Table.mem_of_get? found)
  exact Acyclic.acc acyclic isSource id

/-- The references when one block was written over or added. -/
theorem refers_of_written {block : VariableBlock}
    (written : ∀ uuid, storedValues after uuid =
      if uuid = block.info.id then some (block.variables.map Variable.value)
      else storedValues db uuid) (a b : String)
    (refers : Refers (env.over after) a b) :
    replaceEdges (Refers (env.over db)) block.info.id
      (NamedBy env (block.variables.map Variable.value)) a b := by
  obtain ⟨values, stored, named⟩ := refers_over_iff.mp refers
  rw [written] at stored
  by_cases same : a = block.info.id
  · rw [if_pos same] at stored
    obtain rfl := Option.some.inj stored
    exact .inl ⟨same, named⟩
  · rw [if_neg same] at stored
    exact .inr ⟨same, values, stored, named⟩

theorem acyclic_of_written {block : VariableBlock} (acyclic : AcyclicBlocks env db)
    (notBack : NotBack env db block)
    (written : ∀ uuid, storedValues after uuid =
      if uuid = block.info.id then some (block.variables.map Variable.value)
      else storedValues db uuid) :
    AcyclicBlocks env after :=
  (acyclic.replace notBack).mono (refers_of_written written)

theorem acyclic_of_kept (acyclic : AcyclicBlocks env db)
    (kept : ∀ uuid values, storedValues after uuid = some values →
      storedValues db uuid = some values) : AcyclicBlocks env after := by
  refine acyclic.mono fun a b refers => ?_
  obtain ⟨values, stored, named⟩ := refers_over_iff.mp refers
  exact ⟨values, kept a values stored, named⟩

theorem acyclic_variablesDoPost {ctx : Context} {request : Request}
    (acyclic : AcyclicBlocks env db)
    (notBack : ∀ block, variablesDoPostPlan ctx db request = .ok block → NotBack env db block) :
    AcyclicBlocks env (variablesDoPost ctx db request).store := by
  unfold variablesDoPost
  cases planned : variablesDoPostPlan ctx db request with
  | error failure => exact acyclic
  | ok block =>
      dsimp only
      cases inserted : db.variablesDB.insert? block with
      | none => exact acyclic
      | some table =>
          refine acyclic_of_written acyclic (notBack block planned) fun uuid => ?_
          change (table.get? uuid).map _ = _
          rw [Table.get?_insert? inserted]
          change Option.map _ (if uuid = block.info.id then some block else _) = _
          split <;> rfl

theorem acyclic_variablesDoPut {request : Request} (acyclic : AcyclicBlocks env db)
    (notBack : ∀ block moves, variablesDoPutPlan db request = .ok (block, moves) →
      NotBack env db block) :
    AcyclicBlocks env (variablesDoPut db request).store := by
  unfold variablesDoPut
  cases planned : variablesDoPutPlan db request with
  | error failure => exact acyclic
  | ok plan =>
      obtain ⟨block, moves⟩ := plan
      obtain ⟨existing, found⟩ := variablesDoPutPlan_eq_ok planned
      refine acyclic_of_written acyclic (notBack block moves planned) fun uuid => ?_
      change ((db.variablesDB.update block).get? uuid).map _ = _
      rw [Table.get?_update]
      by_cases same : uuid = block.info.id
      · subst same
        change Option.map _ (if block.info.id = block.info.id then _ else _) = _
        rw [if_pos rfl, if_pos rfl, found]
        rfl
      · change Option.map _ (if uuid = block.info.id then _ else _) = _
        rw [if_neg same, if_neg same]
        rfl

theorem acyclic_variablesDoDelete {request : Request} (acyclic : AcyclicBlocks env db) :
    AcyclicBlocks env (variablesDoDelete db request).store := by
  unfold variablesDoDelete
  cases variablesDoDeletePlan db request with
  | error failure => exact acyclic
  | ok existing =>
      refine acyclic_of_kept acyclic fun uuid values stored => ?_
      change ((db.variablesDB.delete existing.info.id).get? uuid).map _ = _ at stored
      rw [Table.get?_delete] at stored
      split at stored
      · cases stored
      · exact stored

end Run

/-- As long as no accepted block leads back to itself, every section expands to its end. -/
theorem expansion_ends_of_run {env : RenderEnv} {db : Store}
    (reached : Reachable NoBlocks (VariablesStep (NotBack env)) db) (value : Value) :
    ∃ fuel, replaceSection (env.over db) false fuel value ≠ .error .exhausted := by
  have acyclic : AcyclicBlocks env db := by
    refine reached.invariant ?_ ?_
    · intro s empty id cycle
      obtain ⟨next, first, -⟩ := Relation.TransGen.head'_iff.mp cycle
      obtain ⟨values, stored, -⟩ := refers_over_iff.mp first
      obtain ⟨block, found, -⟩ := Option.map_eq_some_iff.mp stored
      have member := Table.mem_of_get? found
      rw [empty] at member
      cases member
    · intro s t acyclic isStep
      cases isStep with
      | post ctx request notBack => exact acyclic_variablesDoPost acyclic notBack
      | put request notBack => exact acyclic_variablesDoPut acyclic notBack
      | delete request => exact acyclic_variablesDoDelete acyclic
      | other same => exact acyclic_of_kept acyclic fun uuid values stored => by rwa [← same]
  exact exists_sectionEnds (acc_of_acyclic acyclic) value

/-! ## A block that names itself -/

def blockRequest : Request where
  method := .post
  uri := "/api/v1/variable/0"
  bindings := [("uuid", "0")]
  body := some [("name", .str "Defaults"), ("variables", .arr [] "[]")]

/-- The variables of a block become the one with the text `loop`. -/
def loopRequest (id : String) : Request where
  method := .put
  uri := "/api/v1/variable/" ++ id
  bindings := [("uuid", id)]
  body := some [("variables", .arr [.obj [("value", .str "loop")] "loop"] "loop")]

def oneBlock : Store :=
  (variablesDoPost (rootContext 14) initialStore blockRequest).store

def loopedBlock : Store :=
  (variablesDoPut oneBlock (loopRequest (unaryId 15))).store

/-- A reference to the block. -/
def blockReference : Members :=
  [("__variableBlock", .str (unaryId 15))]

/-- The text `loop` stands for a member with that reference. -/
def loopEnv : RenderEnv :=
  { plainEnv with
    parse := sectionTexts fun text =>
      if text = "loop" then some [("ssids", .obj blockReference)] else none }

theorem noBlocks_initialStore : NoBlocks initialStore := rfl

theorem plain_expansion_ends :
    ∃ fuel, replaceSection (loopEnv.over oneBlock) false fuel (.obj blockReference) ≠
      .error .exhausted := by
  have posted : VariablesStep (NotBack loopEnv) initialStore oneBlock := by
    refine .post (rootContext 14) blockRequest fun block planned => ?_
    have bare : (variablesDoPostPlan (rootContext 14) initialStore blockRequest).toOption.map
        VariableBlock.variables = some [] := by
      decide
    rw [planned] at bare
    rintro id ⟨value, isValue, -⟩
    rw [Option.some.inj bare] at isValue
    cases isValue
  exact expansion_ends_of_run (.step (.start noBlocks_initialStore) posted) (.obj blockReference)

theorem loopedBlock_values : storedValues loopedBlock (unaryId 15) = some ["loop"] := by
  decide

/-- Whatever the fuel, the expansion of the block and of a reference to it runs out of it. -/
theorem loop_exhausted (fuel : ℕ) :
    (∀ result, replaceNestedVariables (loopEnv.over loopedBlock) false fuel (unaryId 15) result =
      .error .exhausted) ∧
    replaceVariablesInObject (loopEnv.over loopedBlock) false fuel blockReference =
      .error .exhausted := by
  induction fuel with
  | zero => exact ⟨fun _ => rfl, rfl⟩
  | succ fuel ih =>
      obtain ⟨block, object⟩ := ih
      have stored : (loopEnv.over loopedBlock).block (unaryId 15) = some ["loop"] :=
        loopedBlock_values
      have parsed : (loopEnv.over loopedBlock).parse "loop" =
          some (.obj [("ssids", .obj blockReference)]) := rfl
      constructor
      · intro result
        rw [replaceNestedVariables, stored]
        dsimp only
        rw [List.foldlM_cons, replaceVariable, parsed]
        dsimp only
        rw [List.foldlM_cons, replaceMember]
        dsimp only
        rw [object]
        rfl
      · rw [replaceVariablesInObject, blockReference, List.foldlM_cons, replaceObjectMember,
          if_neg (by simp), if_pos rfl, replaceBlocks]
        · change ((replaceNestedVariables _ false fuel (unaryId 15) [] >>= _) >>= _) >>= _ = _
          rw [block]
          rfl
        · rintro uuids ⟨⟩

theorem block_naming_itself_never_ends :
    ¬∀ (env : RenderEnv) (db : Store), Reachable NoBlocks (VariablesStep fun _ _ => True) db →
      ∀ value, ∃ fuel, replaceSection (env.over db) false fuel value ≠ .error .exhausted := by
  intro claim
  have posted : VariablesStep (fun _ _ => True) initialStore oneBlock :=
    .post (rootContext 14) blockRequest fun _ _ => trivial
  have put : VariablesStep (fun _ _ => True) oneBlock loopedBlock :=
    .put (loopRequest (unaryId 15)) fun _ _ _ => trivial
  have reached : Reachable NoBlocks (VariablesStep fun _ _ => True) loopedBlock :=
    .step (.step (.start noBlocks_initialStore) posted) put
  obtain ⟨fuel, ends⟩ := claim loopEnv loopedBlock reached (.obj blockReference)
  apply ends
  unfold replaceSection
  dsimp only
  rw [(loop_exhausted fuel).2]
  rfl

end Owprov
