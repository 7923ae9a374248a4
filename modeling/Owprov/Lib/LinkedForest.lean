import Mathlib.Data.Multiset.Count
import Owprov.Lib.Acyclic

/-!
# Forests linked in both directions

Every node names its parent, and every parent lists its children.  The two directions are
kept in step by separate writes: one sets the parent of a node, the others add it to a
list of children or remove it from one.  The module gives the conditions under which
adding a leaf, removing a leaf and moving a node keep the two directions consistent, and
under which the parent relation stays acyclic.
-/

universe u

namespace LinkedForest

open AcyclicRelation

/-- The two directions of links at a node. -/
@[ext]
structure Links (κ : Type u) where
  parent : Option κ
  children : Multiset κ

/-- The nodes that exist, with their links. -/
abbrev Forest (κ : Type u) := κ → Option (Links κ)

variable {κ : Type u}

/-- The first element is a node whose parent is the second. -/
def ParentEdge (forest : Forest κ) (a b : κ) : Prop :=
  ∃ links, forest a = some links ∧ links.parent = some b

/-- The first element is a node that lists the second as a child. -/
def ChildEdge (forest : Forest κ) (a b : κ) : Prop :=
  ∃ links, forest a = some links ∧ b ∈ links.children

variable [DecidableEq κ]

/-- A node occurs once among the children of its parent, and every listed child is a node
with that parent. -/
structure Consistent (forest : Forest κ) : Prop where
  listed : ∀ a b, ParentEdge forest a b →
    ∃ links, forest b = some links ∧ links.children.count a = 1
  owned : ∀ a b, ChildEdge forest a b → ParentEdge forest b a

/-- Child edges are reversed parent edges. -/
theorem Consistent.childEdge_iff {forest : Forest κ} (consistent : Consistent forest) (a b : κ) :
    ChildEdge forest a b ↔ ParentEdge forest b a := by
  constructor
  · exact consistent.owned a b
  · intro edge
    obtain ⟨links, found, once⟩ := consistent.listed b a edge
    exact ⟨links, found, Multiset.count_pos.mp (by omega)⟩

theorem Consistent.childEdge_acyclic {forest : Forest κ} (consistent : Consistent forest)
    (acyclic : Acyclic (ParentEdge forest)) : Acyclic (ChildEdge forest) :=
  acyclic.swap.mono fun a b edge => consistent.owned a b edge

omit [DecidableEq κ] in
theorem not_parentEdge_of_none {forest : Forest κ} {a : κ} (missing : forest a = none) (b : κ) :
    ¬ ParentEdge forest a b := by
  rintro ⟨links, found, _⟩
  rw [missing] at found
  cases found

theorem Consistent.not_parentEdge_to_none {forest : Forest κ} (consistent : Consistent forest)
    {b : κ} (missing : forest b = none) (a : κ) : ¬ ParentEdge forest a b := by
  intro edge
  obtain ⟨links, found, _⟩ := consistent.listed a b edge
  rw [missing] at found
  cases found

/-! ## The single writes -/

/-- Set the parent of a node, whose children stay. -/
def setParent (forest : Forest κ) (a : κ) (parent : Option κ) : Forest κ :=
  Function.update forest a ((forest a).map fun links => { links with parent := parent })

/-- List a node among the children of another; an id that names no node changes nothing. -/
def addChild (forest : Forest κ) (b a : κ) : Forest κ :=
  Function.update forest b ((forest b).map fun links =>
    { links with children := if a ∈ links.children then links.children else a ::ₘ links.children })

/-- Remove a node from the children of another. -/
def removeChild (forest : Forest κ) (b a : κ) : Forest κ :=
  Function.update forest b ((forest b).map fun links =>
    { links with children := links.children.erase a })

/-- List a node among the children of its parent, when it has one. -/
def addToParent (forest : Forest κ) (parent : Option κ) (a : κ) : Forest κ :=
  parent.elim forest fun b => addChild forest b a

/-- Remove a node from the children of its parent, when it has one. -/
def removeFromParent (forest : Forest κ) (parent : Option κ) (a : κ) : Forest κ :=
  parent.elim forest fun b => removeChild forest b a

/-- A new node without children, linked to its parent. -/
def insertLeaf (forest : Forest κ) (a : κ) (parent : Option κ) : Forest κ :=
  addToParent (Function.update forest a (some { parent := parent, children := 0 })) parent a

/-- A node is taken out and unlinked from its parent. -/
def deleteLeaf (forest : Forest κ) (a : κ) (parent : Option κ) : Forest κ :=
  removeFromParent (Function.update forest a none) parent a

/-- A node gets a new parent, and both lists of children follow. -/
def move (forest : Forest κ) (a : κ) (old new : Option κ) : Forest κ :=
  addToParent (removeFromParent (setParent forest a new) old a) new a

/-! ## Parents after a write -/

theorem parentEdge_addChild {forest : Forest κ} {b a x y : κ} :
    ParentEdge (addChild forest b a) x y ↔ ParentEdge forest x y := by
  unfold ParentEdge addChild
  by_cases same : x = b
  · subst same
    simp [Option.map_eq_some_iff]
  · simp [Function.update_of_ne same]

theorem parentEdge_removeChild {forest : Forest κ} {b a x y : κ} :
    ParentEdge (removeChild forest b a) x y ↔ ParentEdge forest x y := by
  unfold ParentEdge removeChild
  by_cases same : x = b
  · subst same
    simp [Option.map_eq_some_iff]
  · simp [Function.update_of_ne same]

theorem parentEdge_addToParent {forest : Forest κ} {parent : Option κ} {a x y : κ} :
    ParentEdge (addToParent forest parent a) x y ↔ ParentEdge forest x y := by
  cases parent with
  | none => rfl
  | some b => exact parentEdge_addChild

theorem parentEdge_removeFromParent {forest : Forest κ} {parent : Option κ} {a x y : κ} :
    ParentEdge (removeFromParent forest parent a) x y ↔ ParentEdge forest x y := by
  cases parent with
  | none => rfl
  | some b => exact parentEdge_removeChild

theorem parentEdge_setParent {forest : Forest κ} {a x y : κ} {parent : Option κ} :
    ParentEdge (setParent forest a parent) x y ↔
      if x = a then (forest a).isSome ∧ parent = some y else ParentEdge forest x y := by
  unfold ParentEdge setParent
  by_cases same : x = a
  · subst same
    cases found : forest x with
    | none => simp
    | some links => simp
  · simp [same]

theorem parentEdge_insertLeaf {forest : Forest κ} {a x y : κ} {parent : Option κ} :
    ParentEdge (insertLeaf forest a parent) x y ↔
      if x = a then parent = some y else ParentEdge forest x y := by
  rw [insertLeaf, parentEdge_addToParent]
  unfold ParentEdge
  by_cases same : x = a
  · subst same
    simp
  · simp [same]

theorem parentEdge_deleteLeaf {forest : Forest κ} {a x y : κ} {parent : Option κ} :
    ParentEdge (deleteLeaf forest a parent) x y ↔ x ≠ a ∧ ParentEdge forest x y := by
  rw [deleteLeaf, parentEdge_removeFromParent]
  unfold ParentEdge
  by_cases same : x = a
  · subst same
    simp
  · simp [same]

theorem parentEdge_move {forest : Forest κ} {a x y : κ} {old new : Option κ} :
    ParentEdge (move forest a old new) x y ↔
      if x = a then (forest a).isSome ∧ new = some y else ParentEdge forest x y := by
  rw [move, parentEdge_addToParent, parentEdge_removeFromParent, parentEdge_setParent]

/-! ## Acyclicity -/

/-- A new node has no children, so its parent edge closes no cycle. -/
theorem acyclic_insertLeaf {forest : Forest κ} (acyclic : Acyclic (ParentEdge forest))
    (consistent : Consistent forest) {a : κ} {parent : Option κ} (fresh : forest a = none)
    (differ : parent ≠ some a) : Acyclic (ParentEdge (insertLeaf forest a parent)) := by
  cases parent with
  | none =>
      refine acyclic.mono fun x y edge => ?_
      rw [parentEdge_insertLeaf] at edge
      split at edge
      · cases edge
      · exact edge
  | some b =>
      have apart : ¬ Relation.ReflTransGen (ParentEdge forest) b a := by
        intro path
        have equal := eq_of_reflTransGen_of_no_edge (consistent.not_parentEdge_to_none fresh) path
        exact differ (congrArg some equal)
      refine (acyclic.insert apart).mono fun x y edge => ?_
      rw [parentEdge_insertLeaf] at edge
      split at edge
      · cases edge
        exact Or.inr ⟨‹_›, rfl⟩
      · exact Or.inl edge

theorem acyclic_deleteLeaf {forest : Forest κ} (acyclic : Acyclic (ParentEdge forest)) {a : κ}
    {parent : Option κ} : Acyclic (ParentEdge (deleteLeaf forest a parent)) :=
  acyclic.mono fun _ _ edge => (parentEdge_deleteLeaf.mp edge).2

/-- Moving a node outside its own subtree closes no cycle. -/
theorem acyclic_move {forest : Forest κ} (acyclic : Acyclic (ParentEdge forest)) {a : κ}
    {old new : Option κ}
    (apart : ∀ b, new = some b → ¬ Relation.ReflTransGen (ParentEdge forest) b a) :
    Acyclic (ParentEdge (move forest a old new)) := by
  cases new with
  | none =>
      refine acyclic.mono fun x y edge => ?_
      rw [parentEdge_move] at edge
      split at edge
      · cases edge.2
      · exact edge
  | some b =>
      refine (acyclic.insert (apart b rfl)).mono fun x y edge => ?_
      rw [parentEdge_move] at edge
      split at edge
      · cases edge.2
        exact Or.inr ⟨‹_›, rfl⟩
      · exact Or.inl edge

/-- Moving a node keeps the paths to it. -/
theorem reflTransGen_move {forest : Forest κ} {a x : κ} {old new : Option κ}
    (path : Relation.ReflTransGen (ParentEdge forest) x a) :
    Relation.ReflTransGen (ParentEdge (move forest a old new)) x a := by
  induction path using Relation.ReflTransGen.head_induction_on with
  | refl => exact Relation.ReflTransGen.refl
  | @head x y edge _ ih =>
      rcases eq_or_ne x a with rfl | differ
      · exact Relation.ReflTransGen.refl
      · refine Relation.ReflTransGen.head ?_ ih
        rw [parentEdge_move, if_neg differ]
        exact edge

/-- Moving a node below another one closes a cycle exactly when the other one is in the
subtree of the node. -/
theorem acyclic_move_iff {forest : Forest κ} (acyclic : Acyclic (ParentEdge forest)) {a b : κ}
    {old : Option κ} (found : (forest a).isSome) :
    Acyclic (ParentEdge (move forest a old (some b))) ↔
      ¬ Relation.ReflTransGen (ParentEdge forest) b a := by
  constructor
  · intro still path
    have edge : ParentEdge (move forest a old (some b)) a b :=
      parentEdge_move.mpr (by rw [if_pos rfl]; exact ⟨found, rfl⟩)
    exact still a (Relation.TransGen.head' edge (reflTransGen_move path))
  · intro apart
    apply acyclic_move acyclic
    rintro _ ⟨⟩
    exact apart

/-! ## Consistency -/

/-- How often a node is listed as a child of another; not at all when the other is none. -/
def listings (forest : Forest κ) (b a : κ) : ℕ :=
  (forest b).elim 0 fun links => links.children.count a

/-- Consistency in terms of listings: a node is listed exactly once by its parent, which
exists, and not at all elsewhere. -/
theorem consistent_iff {forest : Forest κ} :
    Consistent forest ↔
      (∀ a b, ParentEdge forest a b → listings forest b a = 1) ∧
        ∀ a b, ¬ ParentEdge forest a b → listings forest b a = 0 := by
  constructor
  · intro consistent
    constructor
    · intro a b edge
      obtain ⟨links, found, once⟩ := consistent.listed a b edge
      simp [listings, found, once]
    · intro a b noEdge
      cases found : forest b with
      | none => simp [listings, found]
      | some links =>
          simp only [listings, found, Option.elim_some, Multiset.count_eq_zero]
          exact fun member => noEdge (consistent.owned b a ⟨links, found, member⟩)
  · rintro ⟨once, never⟩
    constructor
    · intro a b edge
      have listed := once a b edge
      cases found : forest b with
      | none => simp [listings, found] at listed
      | some links =>
          rw [listings, found, Option.elim_some] at listed
          exact ⟨links, rfl, listed⟩
    · rintro b a ⟨links, found, member⟩
      by_contra noEdge
      have zero := never a b noEdge
      rw [listings, found, Option.elim_some, Multiset.count_eq_zero] at zero
      exact zero member

theorem listings_addChild {forest : Forest κ} {b a x y : κ} (fresh : listings forest b a = 0)
    (found : (forest b).isSome) :
    listings (addChild forest b a) y x =
      if y = b ∧ x = a then 1 else listings forest y x := by
  unfold listings addChild at *
  by_cases same : y = b
  · subst same
    obtain ⟨links, found⟩ := Option.isSome_iff_exists.mp found
    simp only [found, Option.elim_some, Multiset.count_eq_zero] at fresh
    by_cases equal : x = a
    · subst equal
      simp [found, fresh]
    · simp [found, fresh, equal, Multiset.count_cons_of_ne equal]
  · simp [same]

theorem listings_removeChild {forest : Forest κ} {b a x y : κ} :
    listings (removeChild forest b a) y x =
      if y = b ∧ x = a then listings forest y x - 1 else listings forest y x := by
  unfold listings removeChild
  by_cases same : y = b
  · subst same
    cases found : forest y with
    | none => simp
    | some links =>
        by_cases equal : x = a
        · subst equal
          simp
        · simp [equal, Multiset.count_erase_of_ne equal]
  · simp [same]

theorem listings_setParent {forest : Forest κ} {a x y : κ} {parent : Option κ} :
    listings (setParent forest a parent) y x = listings forest y x := by
  unfold listings setParent
  by_cases same : y = a
  · subst same
    cases found : forest y <;> simp
  · simp [Function.update_of_ne same]

theorem isSome_addChild {forest : Forest κ} {b a x : κ} :
    (addChild forest b a x).isSome = (forest x).isSome := by
  unfold addChild
  by_cases same : x = b
  · subst same
    simp
  · simp [Function.update_of_ne same]

theorem isSome_removeChild {forest : Forest κ} {b a x : κ} :
    (removeChild forest b a x).isSome = (forest x).isSome := by
  unfold removeChild
  by_cases same : x = b
  · subst same
    simp
  · simp [Function.update_of_ne same]

theorem isSome_setParent {forest : Forest κ} {a x : κ} {parent : Option κ} :
    (setParent forest a parent x).isSome = (forest x).isSome := by
  unfold setParent
  by_cases same : x = a
  · subst same
    simp
  · simp [Function.update_of_ne same]

theorem isSome_addToParent {forest : Forest κ} {parent : Option κ} {a x : κ} :
    (addToParent forest parent a x).isSome = (forest x).isSome := by
  cases parent with
  | none => rfl
  | some b => exact isSome_addChild

theorem isSome_removeFromParent {forest : Forest κ} {parent : Option κ} {a x : κ} :
    (removeFromParent forest parent a x).isSome = (forest x).isSome := by
  cases parent with
  | none => rfl
  | some b => exact isSome_removeChild

theorem isSome_insertLeaf_of_ne {forest : Forest κ} {a x : κ} {parent : Option κ}
    (differ : x ≠ a) : (insertLeaf forest a parent x).isSome = (forest x).isSome := by
  rw [insertLeaf, isSome_addToParent, Function.update_of_ne differ]

theorem isSome_deleteLeaf_of_ne {forest : Forest κ} {a x : κ} {parent : Option κ}
    (differ : x ≠ a) : (deleteLeaf forest a parent x).isSome = (forest x).isSome := by
  rw [deleteLeaf, isSome_removeFromParent, Function.update_of_ne differ]

theorem isSome_move {forest : Forest κ} {a x : κ} {old new : Option κ} :
    (move forest a old new x).isSome = (forest x).isSome := by
  rw [move, isSome_addToParent, isSome_removeFromParent, isSome_setParent]

/-- It does not matter whether a node is unlinked from its parent before or after it is
taken out. -/
theorem update_none_removeFromParent {forest : Forest κ} {parent : Option κ} {a : κ} :
    Function.update (removeFromParent forest parent a) a none = deleteLeaf forest a parent := by
  cases parent with
  | none => rfl
  | some b =>
      funext x
      simp only [deleteLeaf, removeFromParent, Option.elim_some, removeChild]
      by_cases same : x = a
      · subst same
        by_cases isParent : x = b
        · subst isParent
          simp
        · simp [isParent]
      · by_cases isParent : x = b
        · subst isParent
          simp [same]
        · simp [same, isParent]

/-- A new leaf under an existing parent, or under none, keeps the links consistent. -/
theorem Consistent.insertLeaf {forest : Forest κ} (consistent : Consistent forest) {a : κ}
    {parent : Option κ} (fresh : forest a = none)
    (existing : ∀ b, parent = some b → (forest b).isSome) :
    Consistent (insertLeaf forest a parent) := by
  have notSelf : parent ≠ some a := by
    intro self
    have found := existing a self
    rw [fresh] at found
    cases found
  obtain ⟨once, never⟩ := consistent_iff.mp consistent
  have base : ∀ x y, listings (Function.update forest a (some ⟨parent, 0⟩)) y x =
      listings forest y x := by
    intro x y
    unfold listings
    by_cases same : y = a
    · subst same
      simp [fresh]
    · simp [Function.update_of_ne same]
  have fromFresh : ∀ y, listings forest y a = 0 :=
    fun y => never a y (not_parentEdge_of_none fresh y)
  have count : ∀ x y, listings (LinkedForest.insertLeaf forest a parent) y x =
      if x = a ∧ parent = some y then 1 else listings forest y x := by
    intro x y
    cases parent with
    | none => simpa [LinkedForest.insertLeaf, addToParent] using base x y
    | some b =>
        have differ : b ≠ a := fun equal => notSelf (congrArg some equal)
        rw [LinkedForest.insertLeaf, addToParent, Option.elim_some, listings_addChild]
        · rw [base]
          by_cases equal : y = b
          · subst equal
            simp
          · simp [equal, Ne.symm equal]
        · rw [base, fromFresh]
        · rw [Function.update_of_ne differ]
          exact existing b rfl
  rw [consistent_iff]
  constructor
  · intro x y edge
    rw [parentEdge_insertLeaf] at edge
    rw [count]
    split at edge
    · rename_i same
      rw [if_pos ⟨same, edge⟩]
    · rename_i other
      rw [if_neg fun both => other both.1]
      exact once x y edge
  · intro x y noEdge
    rw [parentEdge_insertLeaf] at noEdge
    rw [count]
    split at noEdge
    · rename_i same
      subst same
      rw [if_neg fun both => noEdge both.2]
      exact fromFresh y
    · rename_i other
      rw [if_neg fun both => other both.1]
      exact never x y noEdge

/-- Taking out a node without children keeps the links consistent. -/
theorem Consistent.deleteLeaf {forest : Forest κ} (consistent : Consistent forest) {a : κ}
    {links : Links κ} (found : forest a = some links) (leaf : links.children = 0) :
    Consistent (deleteLeaf forest a links.parent) := by
  obtain ⟨once, never⟩ := consistent_iff.mp consistent
  have base : ∀ x y, listings (Function.update forest a none) y x = listings forest y x := by
    intro x y
    unfold listings
    by_cases same : y = a
    · subst same
      simp [found, leaf]
    · simp [Function.update_of_ne same]
  have count : ∀ x y, listings (LinkedForest.deleteLeaf forest a links.parent) y x =
      if x = a ∧ links.parent = some y then listings forest y x - 1 else listings forest y x := by
    intro x y
    rw [LinkedForest.deleteLeaf]
    cases parent : links.parent with
    | none => simpa [removeFromParent] using base x y
    | some b =>
        rw [removeFromParent, Option.elim_some, listings_removeChild, base]
        by_cases equal : y = b
        · subst equal
          simp
        · simp [equal, Ne.symm equal]
  rw [consistent_iff]
  constructor
  · intro x y edge
    obtain ⟨other, edge⟩ := parentEdge_deleteLeaf.mp edge
    rw [count, if_neg fun both => other both.1]
    exact once x y edge
  · intro x y noEdge
    rw [parentEdge_deleteLeaf, not_and_or, not_not] at noEdge
    rw [count]
    by_cases same : x = a
    · subst same
      by_cases isParent : links.parent = some y
      · rw [if_pos ⟨rfl, isParent⟩, once x y ⟨links, found, isParent⟩]
      · rw [if_neg fun both => isParent both.2]
        apply never
        rintro ⟨links', found', parent'⟩
        rw [found, Option.some.injEq] at found'
        exact isParent (found' ▸ parent')
    · rw [if_neg fun both => same both.1]
      exact never x y (noEdge.resolve_left same)

/-- Moving a node to an existing parent, or to none, keeps the links consistent. -/
theorem Consistent.move {forest : Forest κ} (consistent : Consistent forest) {a : κ}
    {links : Links κ} {new : Option κ} (found : forest a = some links)
    (existing : ∀ b, new = some b → (forest b).isSome) :
    Consistent (move forest a links.parent new) := by
  obtain ⟨once, never⟩ := consistent_iff.mp consistent
  have unlinked : ∀ y, ParentEdge forest a y ↔ links.parent = some y := by
    intro y
    constructor
    · rintro ⟨links', found', parent⟩
      rw [found, Option.some.injEq] at found'
      exact found' ▸ parent
    · exact fun parent => ⟨links, found, parent⟩
  have removed : ∀ x y,
      listings (removeFromParent (setParent forest a new) links.parent a) y x =
        if x = a then 0 else listings forest y x := by
    intro x y
    cases parent : links.parent with
    | none =>
        rw [removeFromParent, Option.elim_none, listings_setParent]
        by_cases same : x = a
        · subst same
          rw [if_pos rfl]
          exact never x y fun edge => by
            rw [unlinked, parent] at edge
            cases edge
        · rw [if_neg same]
    | some b =>
        rw [removeFromParent, Option.elim_some, listings_removeChild, listings_setParent]
        by_cases same : x = a
        · subst same
          by_cases equal : y = b
          · subst equal
            rw [if_pos ⟨rfl, rfl⟩, if_pos rfl, once x y ((unlinked y).mpr parent)]
          · rw [if_neg fun both => equal both.1, if_pos rfl]
            exact never x y fun edge => by
              rw [unlinked, parent, Option.some.injEq] at edge
              exact equal edge.symm
        · rw [if_neg fun both => same both.2, if_neg same]
  have count : ∀ x y, listings (LinkedForest.move forest a links.parent new) y x =
      if x = a then (if new = some y then 1 else 0) else listings forest y x := by
    intro x y
    rw [LinkedForest.move]
    cases newParent : new with
    | none =>
        rw [addToParent, Option.elim_none]
        rw [newParent] at removed
        rw [removed]
        simp
    | some b =>
        rw [newParent] at removed
        have there : (removeFromParent (setParent forest a (some b)) links.parent a b).isSome := by
          have before : (setParent forest a (some b) b).isSome := by
            rw [isSome_setParent]
            exact existing b newParent
          cases links.parent with
          | none => exact before
          | some c => rwa [removeFromParent, Option.elim_some, isSome_removeChild]
        rw [addToParent, Option.elim_some, listings_addChild (by rw [removed, if_pos rfl]) there,
          removed]
        by_cases same : x = a
        · subst same
          by_cases equal : y = b
          · subst equal
            simp
          · simp [equal, Ne.symm equal]
        · rw [if_neg fun both => same both.2, if_neg same, if_neg same]
  rw [consistent_iff]
  constructor
  · intro x y edge
    rw [parentEdge_move] at edge
    rw [count]
    by_cases same : x = a
    · subst same
      rw [if_pos rfl] at edge
      rw [if_pos rfl, if_pos edge.2]
    · rw [if_neg same] at edge ⊢
      exact once x y edge
  · intro x y noEdge
    rw [parentEdge_move] at noEdge
    rw [count]
    by_cases same : x = a
    · subst same
      rw [if_pos rfl] at noEdge
      rw [if_pos rfl, if_neg]
      exact fun isNew => noEdge ⟨by simp [found], isNew⟩
    · rw [if_neg same] at noEdge ⊢
      exact never x y noEdge

end LinkedForest
