import Owprov.Lib.PagedVisits

/-!
# Iteration over the records of a table

`ORM::DB::Iterate` reads the records that a condition selects in batches of fifty, in the one
order in which the database has them, and calls a function for each.
-/

namespace Owprov

open PagedVisits

section Iterate

variable {σ α : Type} (rows : List α) (holds : String → α → Bool)

/-- The rows of `select ... where`; the database decides what the text of a condition holds of. -/
def selectRows (whereClause : String) : List α :=
  if whereClause = "" then rows else rows.filter (holds whereClause)

/-- `GetRecords`: whether any rows were extracted from the range, and their records. -/
def getRecords (offset howMany : ℕ) (whereClause : String) : Bool × List α :=
  let records := ((selectRows rows holds whereClause).drop offset).take howMany
  (decide (records.length > 0), records)

/-- `Iterate` with a callback that has a state of its own. -/
def iterate (callback : σ → α → Bool × σ) (whereClause : String) :
    ℕ → ℕ → σ → Option (Visited σ α)
  | 0, _, _ => none
  | fuel + 1, offset, state =>
      match getRecords rows holds offset 50 whereClause with
      | (true, records) =>
          let visited := visit callback state records
          if visited.stopped then
            some visited
          else if records.length < 50 then
            some visited
          else
            (iterate callback whereClause fuel (offset + 50) visited.state).map fun later =>
              { later with shown := visited.shown ++ later.shown }
      | (false, _) => some ⟨[], false, state⟩

variable {rows holds}

/-- The batches are pages of the selected rows. -/
theorem iterate_eq_visitPages (callback : σ → α → Bool × σ) (whereClause : String)
    (fuel offset : ℕ) (state : σ) :
    iterate rows holds callback whereClause fuel offset state =
      visitPages (fun offset count => ((selectRows rows holds whereClause).drop offset).take count)
        callback 50 fuel offset state := by
  induction fuel generalizing offset state with
  | zero => rfl
  | succ fuel ih =>
      rw [iterate, visitPages, getRecords]
      cases read : ((selectRows rows holds whereClause).drop offset).take 50 with
      | nil => rfl
      | cons record records =>
          simp only [List.length_cons, Nat.succ_pos, gt_iff_lt, decide_true]
          by_cases stopped : (visit callback state (record :: records)).stopped
          · rw [if_pos stopped, if_pos (Or.inl stopped)]
          · rw [if_neg stopped]
            by_cases short : records.length + 1 < 50
            · rw [if_pos short, if_pos (Or.inr short)]
            · rw [if_neg short, if_neg (not_or.mpr ⟨stopped, short⟩), ih]

theorem length_selectRows (whereClause : String) :
    (selectRows rows holds whereClause).length ≤ rows.length := by
  unfold selectRows
  split
  · exact Nat.le_refl _
  · exact List.length_filter_le _ _

theorem iterate_eq_visit (callback : σ → α → Bool × σ) (whereClause : String) {fuel : ℕ} (state : σ)
    (enough : rows.length < 50 * fuel) :
    iterate rows holds callback whereClause fuel 0 state =
      some (visit callback state (selectRows rows holds whereClause)) := by
  have selected := @length_selectRows α rows holds whereClause
  have left : (selectRows rows holds whereClause).length < 0 + 50 * fuel := by omega
  rw [iterate_eq_visitPages]
  exact visitPages_eq_visit (fun _ _ => rfl) left state (Nat.zero_le _)

/-- The callback is called for each selected record once, in order, up to the first for which it
answers `false`. -/
theorem iterate_visits_once (callback : σ → α → Bool × σ) (whereClause : String) (fuel : ℕ)
    (state : σ) (enough : rows.length < 50 * fuel) :
    ∃ visited, iterate rows holds callback whereClause fuel 0 state = some visited ∧
      visited = visit callback state (selectRows rows holds whereClause) ∧
      visited.shown <+: selectRows rows holds whereClause ∧
      (visited.stopped = false → visited.shown = selectRows rows holds whereClause) ∧
      (visited.stopped → ∃ before record, visited.shown = before ++ [record] ∧
        (visit callback state before).stopped = false ∧
        (callback (visit callback state before).state record).1 = false) := by
  obtain ⟨first, all⟩ := @visit_shown σ α callback state (selectRows rows holds whereClause)
  exact ⟨_, iterate_eq_visit callback whereClause state enough, rfl, first, all, visit_stopped⟩

end Iterate

/-- A table of exactly one batch. -/
theorem iterate_fullBatch :
    ∃ visited, iterate (List.range 50) (fun _ _ => true) (fun calls _ => (true, calls + 1)) "" 2
        0 0 = some visited ∧ visited.shown = List.range 50 ∧ visited.state = 50 := by
  obtain ⟨visited, ran, same, -⟩ := @iterate_visits_once ℕ ℕ (List.range 50) (fun _ _ => true)
    (fun calls _ => (true, calls + 1)) "" 2 0 (by decide)
  exact ⟨visited, ran, by rw [same]; decide, by rw [same]; decide⟩

end Owprov
