import Mathlib.Data.List.Basic

/-!
# Visits of the rows of a list in pages

A program reads a list in pages of one size and shows each row to a visitor, which has a state of
its own and may end the visits.  The pages make no difference to what the visitor sees.
-/

namespace PagedVisits

universe u v

variable {σ : Type u} {α : Type v}

/-- The rows that were shown, whether the visitor ended the visits, and its state after them. -/
structure Visited (σ : Type u) (α : Type v) where
  shown : List α
  stopped : Bool
  state : σ

/-- The rows are shown in order, until the visitor answers `false`. -/
def visit (visitor : σ → α → Bool × σ) : σ → List α → Visited σ α
  | state, [] => ⟨[], false, state⟩
  | state, row :: rows =>
      match visitor state row with
      | (true, next) =>
          let later := visit visitor next rows
          { later with shown := row :: later.shown }
      | (false, next) => ⟨[row], true, next⟩

variable {visitor : σ → α → Bool × σ}

theorem visit_cons (state : σ) (row : α) (rows : List α) :
    visit visitor state (row :: rows) =
      if (visitor state row).1 then
        { visit visitor (visitor state row).2 rows with
          shown := row :: (visit visitor (visitor state row).2 rows).shown }
      else ⟨[row], true, (visitor state row).2⟩ := by
  rw [visit]
  rcases visitor state row with ⟨goesOn, next⟩
  cases goesOn <;> rfl

/-- The rows that are shown come first, and all are shown unless the visitor ends the visits. -/
theorem visit_shown (state : σ) (rows : List α) :
    (visit visitor state rows).shown <+: rows ∧
      ((visit visitor state rows).stopped = false → (visit visitor state rows).shown = rows) := by
  induction rows generalizing state with
  | nil => exact ⟨List.prefix_refl [], fun _ => rfl⟩
  | cons row rows ih =>
      rw [visit_cons]
      cases goesOn : (visitor state row).1 with
      | false => exact ⟨⟨rows, rfl⟩, nofun⟩
      | true =>
          obtain ⟨first, all⟩ := ih (visitor state row).2
          refine ⟨List.cons_prefix_cons.mpr ⟨rfl, first⟩, fun unstopped => ?_⟩
          exact congrArg (row :: ·) (all unstopped)

/-- The last row that is shown is the one that the visitor ends the visits at. -/
theorem visit_stopped {state : σ} {rows : List α} (stopped : (visit visitor state rows).stopped) :
    ∃ before row, (visit visitor state rows).shown = before ++ [row] ∧
      (visit visitor state before).stopped = false ∧
      (visitor (visit visitor state before).state row).1 = false := by
  induction rows generalizing state with
  | nil => cases stopped
  | cons row rows ih =>
      rw [visit_cons] at stopped ⊢
      cases goesOn : (visitor state row).1 with
      | false => exact ⟨[], row, rfl, rfl, goesOn⟩
      | true =>
          rw [goesOn] at stopped
          obtain ⟨before, last, shown, unstopped, ends⟩ := ih stopped
          refine ⟨row :: before, last, congrArg (row :: ·) shown, ?_, ?_⟩
          · rw [visit_cons, goesOn]
            exact unstopped
          · rw [visit_cons, goesOn]
            exact ends

theorem visit_append (state : σ) (rows later : List α) :
    visit visitor state (rows ++ later) =
      if (visit visitor state rows).stopped then visit visitor state rows
      else
        { visit visitor (visit visitor state rows).state later with
          shown := (visit visitor state rows).shown ++
            (visit visitor (visit visitor state rows).state later).shown } := by
  induction rows generalizing state with
  | nil => rfl
  | cons row rows ih =>
      rw [List.cons_append, visit_cons, visit_cons]
      cases (visitor state row).1 with
      | false => rfl
      | true =>
          rw [if_pos rfl, if_pos rfl, ih]
          cases (visit visitor (visitor state row).2 rows).stopped <;> rfl

/-! ## Pages -/

/-- Pages of `batch` rows are read and shown until one of them is not full. -/
def visitPages (read : ℕ → ℕ → List α) (visitor : σ → α → Bool × σ) (batch : ℕ) :
    ℕ → ℕ → σ → Option (Visited σ α)
  | 0, _, _ => none
  | fuel + 1, offset, state =>
      let page := read offset batch
      let visited := visit visitor state page
      if visited.stopped ∨ page.length < batch then
        some visited
      else
        (visitPages read visitor batch fuel (offset + batch) visited.state).map fun later =>
          { later with shown := visited.shown ++ later.shown }

variable {read : ℕ → ℕ → List α} {rows : List α} {batch : ℕ}

/-- Pages that are windows of one list show what the list shows. -/
theorem visitPages_eq_visit (window : ∀ offset count, read offset count =
      (rows.drop offset).take count) {fuel offset : ℕ}
    (enough : rows.length < offset + batch * fuel) (state : σ) (within : offset ≤ rows.length) :
    visitPages read visitor batch fuel offset state =
      some (visit visitor state (rows.drop offset)) := by
  induction fuel generalizing offset state with
  | zero => omega
  | succ fuel ih =>
      unfold visitPages
      rw [window]
      have size : ((rows.drop offset).take batch).length = min batch (rows.length - offset) := by
        rw [List.length_take, List.length_drop]
      by_cases short : ((rows.drop offset).take batch).length < batch
      · have all : (rows.drop offset).take batch = rows.drop offset :=
          List.take_of_length_le (by rw [List.length_drop]; omega)
        rw [if_pos (Or.inr short), all]
      · have pages : visit visitor state (rows.drop offset) =
            visit visitor state ((rows.drop offset).take batch ++ rows.drop (offset + batch)) := by
          rw [← List.drop_drop, List.take_append_drop]
        rw [pages, visit_append]
        by_cases stopped : (visit visitor state ((rows.drop offset).take batch)).stopped
        · rw [if_pos (Or.inl stopped), if_pos stopped]
        · have next : offset + batch ≤ rows.length := by omega
          have left : rows.length < offset + batch + batch * fuel := by
            rw [Nat.mul_succ] at enough
            omega
          rw [if_neg (not_or.mpr ⟨stopped, short⟩), if_neg stopped, ih left _ next,
            Option.map_some]

end PagedVisits
