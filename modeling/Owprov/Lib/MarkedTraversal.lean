import Mathlib.Data.Finset.Card
import Mathlib.Data.Set.Lattice
import Mathlib.Data.List.Perm.Basic
import Mathlib.Logic.Relation

/-!
# Traversals that share a set of marks

A depth-first visit marks what it visits and does not enter what is marked.  When the marks
are also set for other reasons, what a sequence of visits and marks ends with depends on the
order: a mark that is set first keeps a later visit from going below it.  The sets between
which the result moves are those of the two extreme orders, all visits first and all marks
first.
-/

universe u v

namespace MarkedTraversal

section Reach

variable {α : Type u} (children : α → List α)

/-- An edge that ends at an unmarked element. -/
def Enters (marked : Set α) (a b : α) : Prop :=
  b ∈ children a ∧ b ∉ marked

/-- An element reached from one of the starts through unmarked elements only. -/
def EnteredFrom (marked : Set α) (starts : List α) (a : α) : Prop :=
  ∃ start ∈ starts, start ∉ marked ∧ Relation.ReflTransGen (Enters children marked) start a

variable {children} {starts : List α} {a : α}

theorem EnteredFrom.mono {fewer more : Set α} (sub : fewer ⊆ more)
    (entered : EnteredFrom children more starts a) : EnteredFrom children fewer starts a := by
  obtain ⟨start, member, unmarked, path⟩ := entered
  refine ⟨start, member, fun isMarked => unmarked (sub isMarked), ?_⟩
  refine Relation.ReflTransGen.mono ?_ _ _ path
  exact fun x y enters => ⟨enters.1, fun isMarked => enters.2 (sub isMarked)⟩

/-- What is closed under unmarked children and holds the starts holds what is entered. -/
theorem EnteredFrom.mem {marked : Set α} {result : Finset α}
    (holdsStarts : ∀ start ∈ starts, start ∈ result)
    (closed : ∀ a ∈ result, a ∉ marked → ∀ b ∈ children a, b ∈ result)
    (entered : EnteredFrom children marked starts a) : a ∈ result := by
  obtain ⟨start, member, unmarked, path⟩ := entered
  have inside : a ∈ result ∧ a ∉ marked := by
    induction path with
    | refl => exact ⟨holdsStarts start member, unmarked⟩
    | tail _ enters ih => exact ⟨closed _ ih.1 ih.2 _ enters.1, enters.2⟩
  exact inside.1

end Reach

section Visit

variable {α : Type u} [DecidableEq α] (children : α → List α)

/-- A visit from one element with some fuel. -/
def visit : ℕ → Finset α → α → Finset α
  | 0, marked, _ => marked
  | fuel + 1, marked, a =>
      if a ∈ marked then marked else (children a).foldl (visit fuel) (insert a marked)

/-- The marks after visits from some starts. -/
structure Visited (marked : Finset α) (starts : List α) (result : Finset α) : Prop where
  subset : marked ⊆ result
  holdsStarts : ∀ start ∈ starts, start ∈ result
  closed : ∀ a ∈ result, a ∉ marked → ∀ b ∈ children a, b ∈ result
  entered : ∀ a ∈ result, a ∉ marked → EnteredFrom children marked starts a

variable {children} {marked between result : Finset α} {a b : α} {starts : List α}

namespace Visited

omit [DecidableEq α] in
theorem nil (marked : Finset α) : Visited children marked [] marked where
  subset := Finset.Subset.refl marked
  holdsStarts := fun _ impossible => absurd impossible List.not_mem_nil
  closed := fun _ member fresh => absurd member fresh
  entered := fun _ member fresh => absurd member fresh

/-- A visit, and then visits from the other starts. -/
theorem cons (first : Visited children marked [a] between)
    (rest : Visited children between starts result) :
    Visited children marked (a :: starts) result where
  subset := first.subset.trans rest.subset
  holdsStarts := by
    intro start member
    rcases List.mem_cons.mp member with rfl | later
    · exact rest.subset (first.holdsStarts start (List.mem_singleton.mpr rfl))
    · exact rest.holdsStarts start later
  closed := by
    intro x member fresh y child
    by_cases early : x ∈ between
    · exact rest.subset (first.closed x early fresh y child)
    · exact rest.closed x member early y child
  entered := by
    intro x member fresh
    by_cases early : x ∈ between
    · obtain ⟨start, isStart, facts⟩ := first.entered x early fresh
      rw [List.mem_singleton] at isStart
      exact ⟨start, isStart ▸ List.mem_cons_self, facts⟩
    · have later := rest.entered x member early
      obtain ⟨start, isStart, facts⟩ := later.mono (Finset.coe_subset.mpr first.subset)
      exact ⟨start, List.mem_cons_of_mem _ isStart, facts⟩

/-- A visit of an unmarked element marks it and visits its children. -/
theorem enter (fresh : a ∉ marked)
    (below : Visited children (insert a marked) (children a) result) :
    Visited children marked [a] result where
  subset := (Finset.subset_insert a marked).trans below.subset
  holdsStarts := by
    intro start isStart
    rw [List.mem_singleton.mp isStart]
    exact below.subset (Finset.mem_insert_self a marked)
  closed := by
    intro x member unmarked y child
    by_cases isRoot : x = a
    · rw [isRoot] at child
      exact below.holdsStarts y child
    · refine below.closed x member ?_ y child
      simp [isRoot, unmarked]
  entered := by
    intro x member unmarked
    by_cases isRoot : x = a
    · exact ⟨a, List.mem_singleton.mpr rfl, by simpa using fresh, isRoot ▸ .refl⟩
    · have deeper := below.entered x member (by simp [isRoot, unmarked])
      obtain ⟨start, child, fresh', path⟩ := deeper.mono
        (Finset.coe_subset.mpr (Finset.subset_insert a marked))
      exact ⟨a, List.mem_singleton.mpr rfl, by simpa using fresh, .head ⟨child, fresh'⟩ path⟩

end Visited

/-! ### Fuel -/

variable (sources : Finset α)

theorem foldl_visit_of_visit {fuel : ℕ}
    (visits : ∀ (marked : Finset α) (a : α), (sources \ marked).card < fuel →
      Visited children marked [a] (visit children fuel marked a))
    (starts : List α) (marked : Finset α) (enough : (sources \ marked).card < fuel) :
    Visited children marked starts (starts.foldl (visit children fuel) marked) := by
  induction starts generalizing marked with
  | nil => exact Visited.nil marked
  | cons a starts ih =>
      have first := visits marked a enough
      refine first.cons (ih _ (lt_of_le_of_lt (Finset.card_le_card ?_) enough))
      exact Finset.sdiff_subset_sdiff (Finset.Subset.refl sources) first.subset

variable {sources}

/-- A visit is complete when its fuel exceeds the number of unmarked elements with
children: each call below another one has marked one of these. -/
theorem visit_visited (isSource : ∀ a, children a ≠ [] → a ∈ sources) {fuel : ℕ}
    (marked : Finset α) (a : α) (enough : (sources \ marked).card < fuel) :
    Visited children marked [a] (visit children fuel marked a) := by
  induction fuel generalizing marked a with
  | zero => exact absurd enough (Nat.not_lt_zero _)
  | succ fuel ih =>
      rw [visit]
      split
      · rename_i isMarked
        refine { Visited.nil marked with holdsStarts := ?_, entered := ?_ }
        · intro start isStart
          exact List.mem_singleton.mp isStart ▸ isMarked
        · exact fun x member fresh => absurd member fresh
      · rename_i fresh
        apply Visited.enter fresh
        by_cases leaf : children a = []
        · rw [leaf]
          exact Visited.nil _
        · apply foldl_visit_of_visit sources ih
          have fewer : (sources \ insert a marked).card < (sources \ marked).card := by
            apply Finset.card_lt_card
            refine ⟨Finset.sdiff_subset_sdiff (Finset.Subset.refl _) (Finset.subset_insert a _),
              fun back => ?_⟩
            have member := back (Finset.mem_sdiff.mpr ⟨isSource a leaf, fresh⟩)
            exact (Finset.mem_sdiff.mp member).2 (Finset.mem_insert_self a marked)
          omega

theorem foldl_visit_visited (isSource : ∀ a, children a ≠ [] → a ∈ sources) {fuel : ℕ}
    (enough : sources.card < fuel) (marked : Finset α) (starts : List α) :
    Visited children marked starts (starts.foldl (visit children fuel) marked) := by
  apply foldl_visit_of_visit sources
  · exact fun marked a => visit_visited isSource marked a
  · exact lt_of_le_of_lt (Finset.card_le_card Finset.sdiff_subset) enough

end Visit

/-! ## Marks and visits in one sequence -/

/-- Marked elements of two layers; the elements of the outer layer have roots in the
inner one. -/
structure Marks (ε : Type v) (α : Type u) where
  outer : Finset ε
  inner : Finset α

/-- One step of a sequence: bare marks, or an outer element to expand. -/
inductive Grant (ε : Type v) (α : Type u) where
  | mark (outer : Finset ε) (inner : Finset α)
  | expand (e : ε)

section Grants

variable {ε : Type v} {α : Type u}

/-- The outer elements that some step marks without expanding them. -/
def outerMarks (grants : List (Grant ε α)) : Set ε :=
  {e | ∃ outer inner, Grant.mark outer inner ∈ grants ∧ e ∈ outer}

/-- The inner elements that some step marks without entering them. -/
def innerMarks (grants : List (Grant ε α)) : Set α :=
  {a | ∃ outer inner, Grant.mark outer inner ∈ grants ∧ a ∈ inner}

/-- What is below an expanded outer element when nothing is marked before. -/
def BelowExpanded (children : α → List α) (roots : ε → List α) (grants : List (Grant ε α))
    (a : α) : Prop :=
  ∃ e, Grant.expand e ∈ grants ∧ EnteredFrom children ∅ (roots e) a

/-- What is below an expanded outer element when everything else is marked before. -/
def BelowUnmarked (children : α → List α) (roots : ε → List α) (grants : List (Grant ε α))
    (a : α) : Prop :=
  ∃ e, Grant.expand e ∈ grants ∧ e ∉ outerMarks grants ∧
    EnteredFrom children (innerMarks grants) (roots e) a

/-- What a sequence of steps does to the marks. -/
structure Granted (children : α → List α) (roots : ε → List α) (start : Marks ε α)
    (grants : List (Grant ε α)) (result : Marks ε α) : Prop where
  outer : ∀ e, e ∈ result.outer ↔
    e ∈ start.outer ∨ e ∈ outerMarks grants ∨ Grant.expand e ∈ grants
  kept : start.inner ⊆ result.inner
  marked : ∀ a ∈ innerMarks grants, a ∈ result.inner
  entered : ∀ a ∈ result.inner, a ∈ start.inner ∨ a ∈ innerMarks grants ∨
    ∃ e, Grant.expand e ∈ grants ∧ e ∉ start.outer ∧
      EnteredFrom children start.inner (roots e) a
  closed : ∀ a ∈ result.inner, a ∉ start.inner → a ∉ innerMarks grants →
    ∀ b ∈ children a, b ∈ result.inner
  expanded : ∀ e, Grant.expand e ∈ grants → e ∉ start.outer → e ∉ outerMarks grants →
    ∀ root ∈ roots e, root ∈ result.inner

@[simp] theorem outerMarks_nil : outerMarks ([] : List (Grant ε α)) = ∅ := by
  ext e
  simp [outerMarks]

@[simp] theorem innerMarks_nil : innerMarks ([] : List (Grant ε α)) = ∅ := by
  ext a
  simp [innerMarks]

@[simp] theorem outerMarks_mark (outer : Finset ε) (inner : Finset α)
    (grants : List (Grant ε α)) :
    outerMarks (Grant.mark outer inner :: grants) = ↑outer ∪ outerMarks grants := by
  ext e
  simp only [outerMarks, List.mem_cons, Grant.mark.injEq, Set.mem_ofPred_eq, Set.mem_union,
    Finset.mem_coe]
  constructor
  · rintro ⟨o, i, ⟨rfl, rfl⟩ | later, member⟩
    · exact .inl member
    · exact .inr ⟨o, i, later, member⟩
  · rintro (member | ⟨o, i, later, member⟩)
    · exact ⟨outer, inner, .inl ⟨rfl, rfl⟩, member⟩
    · exact ⟨o, i, .inr later, member⟩

@[simp] theorem innerMarks_mark (outer : Finset ε) (inner : Finset α)
    (grants : List (Grant ε α)) :
    innerMarks (Grant.mark outer inner :: grants) = ↑inner ∪ innerMarks grants := by
  ext a
  simp only [innerMarks, List.mem_cons, Grant.mark.injEq, Set.mem_ofPred_eq, Set.mem_union,
    Finset.mem_coe]
  constructor
  · rintro ⟨o, i, ⟨rfl, rfl⟩ | later, member⟩
    · exact .inl member
    · exact .inr ⟨o, i, later, member⟩
  · rintro (member | ⟨o, i, later, member⟩)
    · exact ⟨outer, inner, .inl ⟨rfl, rfl⟩, member⟩
    · exact ⟨o, i, .inr later, member⟩

@[simp] theorem outerMarks_expand (e : ε) (grants : List (Grant ε α)) :
    outerMarks (Grant.expand e :: grants) = outerMarks grants := by
  simp [outerMarks]

@[simp] theorem innerMarks_expand (e : ε) (grants : List (Grant ε α)) :
    innerMarks (Grant.expand e :: grants) = innerMarks grants := by
  simp [innerMarks]

section Run

variable [DecidableEq ε] [DecidableEq α]

/-- A marked outer element is not expanded. -/
def Marks.grant (children : α → List α) (roots : ε → List α) (fuel : ℕ)
    (marks : Marks ε α) : Grant ε α → Marks ε α
  | .mark outer inner => ⟨marks.outer ∪ outer, marks.inner ∪ inner⟩
  | .expand e =>
      if e ∈ marks.outer then marks
      else ⟨insert e marks.outer, (roots e).foldl (visit children fuel) marks.inner⟩

variable {children : α → List α} {roots : ε → List α} {start next result : Marks ε α}
  {grants : List (Grant ε α)}

namespace Granted

omit [DecidableEq ε] [DecidableEq α] in
theorem nil (start : Marks ε α) : Granted children roots start [] start where
  outer := by simp
  kept := Finset.Subset.refl _
  marked := by simp
  entered := fun _ member => .inl member
  closed := fun _ member fresh => absurd member fresh
  expanded := by simp

theorem mark {outer : Finset ε} {inner : Finset α}
    (rest : Granted children roots ⟨start.outer ∪ outer, start.inner ∪ inner⟩ grants result) :
    Granted children roots start (.mark outer inner :: grants) result where
  outer := by
    intro e
    rw [rest.outer e]
    simp only [Finset.mem_union, outerMarks_mark, Set.mem_union, Finset.mem_coe, List.mem_cons,
      reduceCtorEq, false_or]
    tauto
  kept := Finset.subset_union_left.trans rest.kept
  marked := by
    intro a isMarked
    rw [innerMarks_mark] at isMarked
    rcases isMarked with first | later
    · exact rest.kept (Finset.mem_union_right _ first)
    · exact rest.marked a later
  entered := by
    intro a member
    rw [innerMarks_mark]
    rcases rest.entered a member with early | later | ⟨e, isLater, unmarked, path⟩
    · rcases Finset.mem_union.mp early with old | first
      · exact .inl old
      · exact .inr (.inl (.inl first))
    · exact .inr (.inl (.inr later))
    · refine .inr (.inr ⟨e, List.mem_cons_of_mem _ isLater, ?_, path.mono ?_⟩)
      · exact fun old => unmarked (Finset.mem_union_left _ old)
      · exact Finset.coe_subset.mpr Finset.subset_union_left
  closed := by
    intro a member unseen unmarked
    rw [innerMarks_mark] at unmarked
    refine rest.closed a member ?_ fun later => unmarked (.inr later)
    rw [Finset.mem_union]
    rintro (old | first)
    · exact unseen old
    · exact unmarked (.inl first)
  expanded := by
    intro e isLater unseen unmarked
    rw [outerMarks_mark] at unmarked
    have later : Grant.expand e ∈ grants := by simpa using isLater
    refine rest.expanded e later ?_ fun other => unmarked (.inr other)
    rw [Finset.mem_union]
    rintro (old | first)
    · exact unseen old
    · exact unmarked (.inl first)

omit [DecidableEq ε] [DecidableEq α] in
/-- A step that expands a marked element does nothing. -/
theorem skip {e : ε} (seen : e ∈ start.outer)
    (rest : Granted children roots start grants result) :
    Granted children roots start (.expand e :: grants) result where
  outer := by
    intro other
    rw [rest.outer other]
    simp only [outerMarks_expand, List.mem_cons, Grant.expand.injEq]
    constructor
    · tauto
    · rintro (old | isMarked | rfl | later)
      · exact .inl old
      · exact .inr (.inl isMarked)
      · exact .inl seen
      · exact .inr (.inr later)
  kept := rest.kept
  marked := by
    rw [innerMarks_expand]
    exact rest.marked
  entered := by
    intro a member
    rw [innerMarks_expand]
    rcases rest.entered a member with old | isMarked | ⟨other, later, facts⟩
    · exact .inl old
    · exact .inr (.inl isMarked)
    · exact .inr (.inr ⟨other, List.mem_cons_of_mem _ later, facts⟩)
  closed := by
    rw [innerMarks_expand]
    exact rest.closed
  expanded := by
    intro other isStep unseen unmarked
    rw [outerMarks_expand] at unmarked
    rcases List.mem_cons.mp isStep with same | later
    · rw [Grant.expand.inj same] at unseen
      exact absurd seen unseen
    · exact rest.expanded other later unseen unmarked

theorem expand {e : ε} {inner : Finset α} (unseen : e ∉ start.outer)
    (visited : Visited children start.inner (roots e) inner)
    (rest : Granted children roots ⟨insert e start.outer, inner⟩ grants result) :
    Granted children roots start (.expand e :: grants) result where
  outer := by
    intro other
    rw [rest.outer other]
    simp only [Finset.mem_insert, outerMarks_expand, List.mem_cons, Grant.expand.injEq]
    tauto
  kept := visited.subset.trans rest.kept
  marked := by
    rw [innerMarks_expand]
    exact rest.marked
  entered := by
    intro a member
    rw [innerMarks_expand]
    rcases rest.entered a member with early | isMarked | ⟨other, later, fresh, path⟩
    · by_cases old : a ∈ start.inner
      · exact .inl old
      · exact .inr (.inr ⟨e, List.mem_cons_self, unseen, visited.entered a early old⟩)
    · exact .inr (.inl isMarked)
    · refine .inr (.inr ⟨other, List.mem_cons_of_mem _ later, ?_, path.mono ?_⟩)
      · exact fun old => fresh (Finset.mem_insert_of_mem old)
      · exact Finset.coe_subset.mpr visited.subset
  closed := by
    intro a member fresh unmarked b child
    rw [innerMarks_expand] at unmarked
    by_cases early : a ∈ inner
    · exact rest.kept (visited.closed a early fresh b child)
    · exact rest.closed a member early unmarked b child
  expanded := by
    intro other isStep fresh unmarked root isRoot
    rw [outerMarks_expand] at unmarked
    by_cases same : other = e
    · rw [same] at isRoot
      exact rest.kept (visited.holdsStarts root isRoot)
    · have later : Grant.expand other ∈ grants := by simpa [same] using isStep
      refine rest.expanded other later ?_ unmarked root isRoot
      simp [same, fresh]

end Granted

variable {sources : Finset α}

variable (roots) in
theorem granted_foldl (isSource : ∀ a, children a ≠ [] → a ∈ sources) {fuel : ℕ}
    (enough : sources.card < fuel) (grants : List (Grant ε α)) (start : Marks ε α) :
    Granted children roots start grants (grants.foldl (Marks.grant children roots fuel) start) := by
  induction grants generalizing start with
  | nil => exact Granted.nil start
  | cons step grants ih =>
      cases step with
      | mark outer inner => exact (ih _).mark
      | expand e =>
          rw [List.foldl_cons, Marks.grant]
          split
          · rename_i seen
            exact (ih _).skip seen
          · rename_i unseen
            exact (ih _).expand unseen (foldl_visit_visited isSource enough _ _)

/-! ## The order of the steps -/

/-- The marks after a sequence of steps. -/
def marksAfter (children : α → List α) (roots : ε → List α) (fuel : ℕ)
    (grants : List (Grant ε α)) : Marks ε α :=
  grants.foldl (Marks.grant children roots fuel) ⟨∅, ∅⟩

section Order

variable {fuel : ℕ} {other : List (Grant ε α)} (isSource : ∀ a, children a ≠ [] → a ∈ sources)
  (enough : sources.card < fuel)
include isSource enough

theorem mem_outer_marksAfter {e : ε} : e ∈ (marksAfter children roots fuel grants).outer ↔
    e ∈ outerMarks grants ∨ Grant.expand e ∈ grants := by
  have granted := granted_foldl roots isSource enough grants ⟨∅, ∅⟩
  simpa [marksAfter] using granted.outer e

theorem belowExpanded_of_mem {a : α} (member : a ∈ (marksAfter children roots fuel grants).inner) :
    a ∈ innerMarks grants ∨ BelowExpanded children roots grants a := by
  have granted := granted_foldl roots isSource enough grants ⟨∅, ∅⟩
  rcases granted.entered a member with impossible | isMarked | ⟨e, isStep, _, entered⟩
  · exact absurd impossible (Finset.notMem_empty a)
  · exact .inl isMarked
  · exact .inr ⟨e, isStep, entered.mono (Set.empty_subset _)⟩

theorem mem_of_belowUnmarked {a : α}
    (below : a ∈ innerMarks grants ∨ BelowUnmarked children roots grants a) :
    a ∈ (marksAfter children roots fuel grants).inner := by
  have granted := granted_foldl roots isSource enough grants ⟨∅, ∅⟩
  rcases below with isMarked | ⟨e, isStep, unmarked, entered⟩
  · exact granted.marked a isMarked
  · refine entered.mem (granted.expanded e isStep (Finset.notMem_empty e) unmarked) ?_
    exact fun x member fresh => granted.closed x member (Finset.notMem_empty x) fresh

variable (roots grants) in
/-- With all visits first, everything below an expanded element is marked. -/
theorem exists_perm_belowExpanded : ∃ other, other.Perm grants ∧
    ∀ a, BelowExpanded children roots grants a →
      a ∈ (marksAfter children roots fuel other).inner := by
  let isExpand : Grant ε α → Bool := fun step => step matches .expand _
  refine ⟨grants.filter isExpand ++ grants.filter fun step => !isExpand step,
    List.filter_append_perm isExpand grants, ?_⟩
  rintro a ⟨e, isStep, entered⟩
  have visits := granted_foldl roots isSource enough (grants.filter isExpand) ⟨∅, ∅⟩
  have noInner : innerMarks (grants.filter isExpand) = ∅ := by
    simp [innerMarks, isExpand]
  have noOuter : outerMarks (grants.filter isExpand) = ∅ := by
    simp [outerMarks, isExpand]
  have isVisit : Grant.expand e ∈ grants.filter isExpand :=
    List.mem_filter.mpr ⟨isStep, rfl⟩
  rw [marksAfter, List.foldl_append]
  refine (granted_foldl roots isSource enough _ _).kept (entered.mem ?_ ?_)
  · exact visits.expanded e isVisit (Finset.notMem_empty e) (noOuter ▸ Set.notMem_empty e)
  · exact fun x member _ =>
      visits.closed x member (Finset.notMem_empty x) (noInner ▸ Set.notMem_empty x)

variable (roots grants) in
/-- With all marks first, only what lies below an unmarked element is marked besides. -/
theorem exists_perm_belowUnmarked : ∃ other, other.Perm grants ∧
    ∀ a ∈ (marksAfter children roots fuel other).inner,
      a ∈ innerMarks grants ∨ BelowUnmarked children roots grants a := by
  let isMark : Grant ε α → Bool := fun step => step matches .mark _ _
  refine ⟨grants.filter isMark ++ grants.filter fun step => !isMark step,
    List.filter_append_perm isMark grants, ?_⟩
  intro a member
  rw [marksAfter, List.foldl_append] at member
  have marks := granted_foldl roots isSource enough (grants.filter isMark) ⟨∅, ∅⟩
  have sameInner : innerMarks (grants.filter isMark) = innerMarks grants := by
    simp [innerMarks, isMark]
  have sameOuter : outerMarks (grants.filter isMark) = outerMarks grants := by
    simp [outerMarks, isMark]
  have noVisit : ∀ e, Grant.expand e ∉ grants.filter isMark := by
    simp [isMark]
  rcases (granted_foldl roots isSource enough _ _).entered a member with
    early | impossible | ⟨e, isStep, unmarked, entered⟩
  · rcases marks.entered a early with impossible | isMarked | ⟨e, impossible, _⟩
    · exact absurd impossible (Finset.notMem_empty a)
    · exact .inl (sameInner ▸ isMarked)
    · exact absurd impossible (noVisit e)
  · simp [innerMarks, isMark] at impossible
  · refine .inr ⟨e, (List.mem_filter.mp isStep).1, ?_, entered.mono ?_⟩
    · rw [← sameOuter]
      exact fun isMarked => unmarked ((marks.outer e).mpr (.inr (.inl isMarked)))
    · rw [← sameInner]
      exact fun x isMarked => marks.marked x isMarked

omit [DecidableEq ε] [DecidableEq α] isSource enough in
theorem innerMarks_perm (perm : other.Perm grants) : innerMarks other = innerMarks grants := by
  simp [innerMarks, perm.mem_iff]

omit [DecidableEq ε] [DecidableEq α] isSource enough in
theorem outerMarks_perm (perm : other.Perm grants) : outerMarks other = outerMarks grants := by
  simp [outerMarks, perm.mem_iff]

theorem outer_marksAfter_perm (perm : other.Perm grants) :
    (marksAfter children roots fuel other).outer = (marksAfter children roots fuel grants).outer := by
  ext e
  rw [mem_outer_marksAfter isSource enough, mem_outer_marksAfter isSource enough,
    outerMarks_perm perm, perm.mem_iff]

variable (roots grants) in
/-- Apart from what is dropped, the inner marks depend on the order of the steps unless
whatever lies below an expanded element is marked in every order. -/
theorem inner_marksAfter_perm_iff (dropped : Set α) :
    (∀ other, other.Perm grants → ∀ a ∉ dropped,
      (a ∈ (marksAfter children roots fuel other).inner ↔
        a ∈ (marksAfter children roots fuel grants).inner)) ↔
    ∀ a ∉ dropped, BelowExpanded children roots grants a →
      a ∈ innerMarks grants ∨ BelowUnmarked children roots grants a := by
  constructor
  · intro same a kept below
    obtain ⟨visitsFirst, permV, all⟩ := exists_perm_belowExpanded roots grants isSource enough
    obtain ⟨marksFirst, permM, only⟩ := exists_perm_belowUnmarked roots grants isSource enough
    apply only
    rw [same marksFirst permM a kept, ← same visitsFirst permV a kept]
    exact all a below
  · intro settled
    have anyOrder : ∀ other, other.Perm grants → ∀ a ∉ dropped,
        (a ∈ (marksAfter children roots fuel other).inner ↔
          a ∈ innerMarks grants ∨ BelowUnmarked children roots grants a) := by
      intro other perm a kept
      have sameUnmarked : BelowUnmarked children roots other a ↔
          BelowUnmarked children roots grants a := by
        simp only [BelowUnmarked, innerMarks_perm perm, outerMarks_perm perm, perm.mem_iff]
      constructor
      · intro member
        rcases belowExpanded_of_mem isSource enough member with isMarked | ⟨e, isStep, entered⟩
        · exact .inl (innerMarks_perm perm ▸ isMarked)
        · exact settled a kept ⟨e, perm.mem_iff.mp isStep, entered⟩
      · intro below
        apply mem_of_belowUnmarked isSource enough
        rwa [innerMarks_perm perm, sameUnmarked]
    intro other perm a kept
    rw [anyOrder other perm a kept, anyOrder grants (List.Perm.refl _) a kept]

end Order

end Run

end Grants

end MarkedTraversal
