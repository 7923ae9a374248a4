import Mathlib.Data.List.Basic
import Mathlib.Data.List.Pairwise
import Mathlib.Data.List.TakeWhile

/-!
# Insertion by weight

A list is kept in the order of non-increasing weights: an element is inserted after everything
that weighs as much or more.  The place is found by a binary search for the first element that
fails a test, which is right as long as the elements that pass it come first.
-/

namespace WeightedInsertion

universe u

variable {α : Type u}

/-! ## Binary search -/

/-- The loop of `std::lower_bound`, on the `len` positions from `first` on. -/
def search (test : ℕ → Bool) : ℕ → ℕ → ℕ → ℕ
  | 0, first, _ => first
  | fuel + 1, first, len =>
      if len = 0 then
        first
      else if test (first + len / 2) then
        search test fuel (first + len / 2 + 1) (len - len / 2 - 1)
      else
        search test fuel first (len / 2)

/-- The position of the first element that fails a test. -/
def lowerBound (test : α → Bool) (items : List α) : ℕ :=
  search (fun i => (items[i]?).any test) items.length 0 items.length

/-- The search comes to the position where the test turns false. -/
theorem search_eq {test : ℕ → Bool} {turn fuel first len : ℕ} (enough : len ≤ fuel)
    (after : first ≤ turn) (before : turn ≤ first + len)
    (passed : ∀ i < turn, test i = true)
    (failed : ∀ i, turn ≤ i → i < first + len → test i = false) :
    search test fuel first len = turn := by
  induction fuel generalizing first len with
  | zero =>
      rw [search]
      omega
  | succ fuel ih =>
      rw [search]
      by_cases done : len = 0
      · rw [if_pos done]
        omega
      · rw [if_neg done]
        by_cases passes : first + len / 2 < turn
        · rw [if_pos (passed _ passes)]
          refine ih (by omega) (by omega) (by omega) fun i low high => ?_
          exact failed i low (by omega)
        · rw [if_neg (by simp [failed (first + len / 2) (by omega) (by omega)])]
          refine ih (by omega) after (by omega) fun i low high => ?_
          exact failed i low (by omega)

theorem lowerBound_eq_length_takeWhile {test : α → Bool} {items : List α}
    (partitioned : ∀ item ∈ items.dropWhile test, test item = false) :
    lowerBound test items = (items.takeWhile test).length := by
  have split := List.takeWhile_append_dropWhile (p := test) (l := items)
  have length := congrArg List.length split
  rw [List.length_append] at length
  refine search_eq le_rfl (Nat.zero_le _) (by omega) ?_ ?_
  · intro i inside
    have found : items[i]? = some (items.takeWhile test)[i] := by
      conv_lhs => rw [← split]
      rw [List.getElem?_append_left inside]
      exact List.getElem?_eq_getElem inside
    rw [found, Option.any_some]
    exact List.mem_takeWhile_imp (List.getElem_mem inside)
  · intro i outside inside
    have inDrop : i - (items.takeWhile test).length < (items.dropWhile test).length := by omega
    have found : items[i]? = some (items.dropWhile test)[i - (items.takeWhile test).length] := by
      conv_lhs => rw [← split]
      rw [List.getElem?_append_right outside]
      exact List.getElem?_eq_getElem inDrop
    rw [found, Option.any_some]
    exact partitioned _ (List.getElem_mem inDrop)

/-! ## Lists of non-increasing weight -/

section Weights

variable (weight : α → ℕ)

def Descending (items : List α) : Prop :=
  items.Pairwise fun a b => weight b ≤ weight a

/-- An element goes after everything that weighs as much or more. -/
def insert (items : List α) (added : α) : List α :=
  items.takeWhile (fun other => decide (weight added ≤ weight other)) ++
    added :: items.dropWhile fun other => decide (weight added ≤ weight other)

variable {weight} {items : List α} {added : α}

theorem lighter_of_mem_dropWhile (sorted : Descending weight items) {bound : ℕ} {item : α}
    (member : item ∈ items.dropWhile fun other => decide (bound ≤ weight other)) :
    weight item < bound := by
  induction items with
  | nil => cases member
  | cons head items ih =>
      obtain ⟨bounded, sorted⟩ := List.pairwise_cons.mp sorted
      by_cases heavy : bound ≤ weight head
      · rw [List.dropWhile_cons_of_pos (by simpa using heavy)] at member
        exact ih sorted member
      · rw [List.dropWhile_cons_of_neg (by simpa using heavy)] at member
        rcases List.mem_cons.mp member with rfl | member
        · omega
        · have lighter := bounded item member
          omega

theorem heavier_of_mem_takeWhile {bound : ℕ} {item : α}
    (member : item ∈ items.takeWhile fun other => decide (bound ≤ weight other)) :
    bound ≤ weight item := by
  simpa using List.mem_takeWhile_imp member

theorem insertIdx_append_length (front back : List α) (added : α) :
    (front ++ back).insertIdx front.length added = front ++ added :: back := by
  induction front with
  | nil => rfl
  | cons head front ih => rw [List.cons_append, List.length_cons, List.insertIdx_succ_cons, ih]; rfl

/-- On a sorted list the binary search finds the place to insert. -/
theorem insertIdx_lowerBound (sorted : Descending weight items) :
    items.insertIdx (lowerBound (fun other => decide (weight added ≤ weight other)) items) added =
      insert weight items added := by
  have partitioned : ∀ item ∈ items.dropWhile (fun other => decide (weight added ≤ weight other)),
      decide (weight added ≤ weight item) = false := by
    intro item member
    have lighter := lighter_of_mem_dropWhile sorted member
    exact decide_eq_false (by omega)
  rw [lowerBound_eq_length_takeWhile partitioned, insert]
  have split : items = items.takeWhile (fun other => decide (weight added ≤ weight other)) ++
      items.dropWhile (fun other => decide (weight added ≤ weight other)) :=
    List.takeWhile_append_dropWhile.symm
  have inserted := insertIdx_append_length
    (items.takeWhile fun other => decide (weight added ≤ weight other))
    (items.dropWhile fun other => decide (weight added ≤ weight other)) added
  rwa [← split] at inserted

/-- An element without weight goes to the end. -/
theorem insert_of_weight_eq_zero (weightless : weight added = 0) :
    insert weight items added = items ++ [added] := by
  have everything : ∀ item ∈ items, decide (weight added ≤ weight item) = true := by
    intro item _
    exact decide_eq_true (by omega)
  rw [insert, List.takeWhile_eq_self_iff.mpr everything, List.dropWhile_eq_nil_iff.mpr everything]

/-- Nothing gets lost where an element is inserted. -/
theorem insert_perm (items : List α) (added : α) :
    (insert weight items added).Perm (items ++ [added]) := by
  have whole : items.takeWhile (fun other => decide (weight added ≤ weight other)) ++
      items.dropWhile (fun other => decide (weight added ≤ weight other)) = items :=
    List.takeWhile_append_dropWhile
  have first : (insert weight items added).Perm (added :: items) := by
    conv_rhs => rw [← whole]
    exact List.perm_middle
  exact first.trans (List.perm_append_singleton added items).symm

theorem descending_insert (sorted : Descending weight items) :
    Descending weight (insert weight items added) := by
  unfold Descending insert
  rw [List.pairwise_append, List.pairwise_cons]
  refine ⟨sorted.sublist (List.takeWhile_sublist _), ⟨?_, ?_⟩, ?_⟩
  · intro item member
    exact (lighter_of_mem_dropWhile sorted member).le
  · exact sorted.sublist (List.dropWhile_sublist _)
  · intro first firstMem second secondMem
    have heavy := heavier_of_mem_takeWhile firstMem
    rcases List.mem_cons.mp secondMem with rfl | secondMem
    · exact heavy
    · exact (lighter_of_mem_dropWhile sorted secondMem).le.trans heavy

/-- Among the elements of one weight the inserted one is the last. -/
theorem filter_insert (sorted : Descending weight items) (w : ℕ) :
    (insert weight items added).filter (fun item => weight item = w) =
      items.filter (fun item => weight item = w) ++
        [added].filter (fun item => weight item = w) := by
  have split := List.takeWhile_append_dropWhile
    (p := fun other => decide (weight added ≤ weight other)) (l := items)
  conv_rhs => rw [← split, List.filter_append]
  rw [insert, List.filter_append]
  by_cases same : weight added = w
  · have nothing : (items.dropWhile fun other => decide (weight added ≤ weight other)).filter
        (fun item => weight item = w) = [] := by
      rw [List.filter_eq_nil_iff]
      intro item member
      have lighter := lighter_of_mem_dropWhile sorted member
      simp only [decide_eq_true_eq]
      omega
    rw [List.filter_cons_of_pos (by simpa using same), nothing,
      List.filter_cons_of_pos (by simpa using same)]
    simp
  · rw [List.filter_cons_of_neg (by simpa using same),
      List.filter_cons_of_neg (by simpa using same)]
    simp

/-! ## Insertions one after the other -/

theorem foldl_insert_perm (items more : List α) :
    (more.foldl (insert weight) items).Perm (items ++ more) := by
  induction more generalizing items with
  | nil => simp
  | cons added more ih =>
      rw [List.foldl_cons, List.append_cons]
      exact (ih _).trans ((insert_perm items added).append_right more)

theorem descending_foldl_insert (sorted : Descending weight items) (more : List α) :
    Descending weight (more.foldl (insert weight) items) := by
  induction more generalizing items with
  | nil => exact sorted
  | cons added more ih => exact ih (descending_insert sorted)

theorem filter_foldl_insert (sorted : Descending weight items) (more : List α) (w : ℕ) :
    (more.foldl (insert weight) items).filter (fun item => weight item = w) =
      items.filter (fun item => weight item = w) ++ more.filter (fun item => weight item = w) := by
  induction more generalizing items with
  | nil => simp
  | cons added more ih =>
      rw [List.foldl_cons, ih (descending_insert sorted), filter_insert sorted, List.append_assoc,
        ← List.filter_append, List.singleton_append]

end Weights

end WeightedInsertion
