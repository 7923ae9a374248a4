import Mathlib.Data.List.Induction
import Owprov.Lib.Table

/-!
# Repairs of the rows of a table

A program reads a table in pages, each from the table as it is by then, and repairs the rows that
it has read.  As long as the repair of a row leaves the rows after it alone, each row is visited
once.  Where rows assign values to the rows of another table, the last value stays, and assigning
the same values again changes nothing.
-/

namespace PagedRepairs

open RowTable

universe u v w

/-! ## Pages -/

section Pages

variable {σ : Type u} {α : Type v}

/-- Pages are read until one is not full, and each row of a page is visited. -/
def iterate (read : σ → List α) (visit : σ → α → σ) (batch : ℕ) : ℕ → ℕ → σ → Option σ
  | 0, _, _ => none
  | fuel + 1, offset, state =>
      let records := ((read state).drop offset).take batch
      let visited := records.foldl visit state
      if records.length < batch then
        some visited
      else
        iterate read visit batch fuel (offset + batch) visited

/-- Visiting a row leaves the rows after it alone. -/
def VisitsApart (read : σ → List α) (visit : σ → α → σ) : Prop :=
  ∀ state i row rest, (read state).drop i = row :: rest →
    (read (visit state row)).drop (i + 1) = rest

variable {read : σ → List α} {visit : σ → α → σ} {batch fuel offset : ℕ} {state : σ}

theorem drop_foldl_visit (apart : VisitsApart read visit) {records rest : List α} {i : ℕ}
    (there : (read state).drop i = records ++ rest) :
    (read (records.foldl visit state)).drop (i + records.length) = rest := by
  induction records generalizing state i with
  | nil => exact there
  | cons row records ih =>
      have after := ih (apart state i row (records ++ rest) there)
      rw [List.length_cons, List.foldl_cons, Nat.add_comm records.length 1, ← Nat.add_assoc]
      exact after

/-- Each row is visited once, in order. -/
theorem iterate_eq_foldl (apart : VisitsApart read visit)
    (enough : (read state).length - offset < batch * fuel) :
    iterate read visit batch fuel offset state =
      some (((read state).drop offset).foldl visit state) := by
  induction fuel generalizing offset state with
  | zero => exact absurd enough (Nat.not_lt_zero _)
  | succ fuel ih =>
      have size : ((read state).drop offset).length = (read state).length - offset :=
        List.length_drop
      unfold iterate
      dsimp only
      by_cases short : (((read state).drop offset).take batch).length < batch
      · have all : ((read state).drop offset).take batch = (read state).drop offset := by
          rw [List.length_take] at short
          exact List.take_of_length_le (by omega)
        rw [if_pos short, all]
      · rw [if_neg short]
        have full : (((read state).drop offset).take batch).length = batch := by
          rw [List.length_take] at short ⊢
          omega
        have pages : (read state).drop offset =
            ((read state).drop offset).take batch ++ ((read state).drop offset).drop batch :=
          (List.take_append_drop batch _).symm
        have rest := drop_foldl_visit apart pages
        rw [full] at rest
        have left := congrArg List.length rest
        rw [List.length_drop, List.length_drop, size] at left
        rw [List.length_take, size] at full
        rw [Nat.mul_succ] at enough
        rw [ih (by omega), rest, ← List.foldl_append, List.take_append_drop]

end Pages

/-! ## Rows -/

section Rows

variable {α : Type u} {κ : Type v} [Keyed α κ]

/-- Every row is repaired. -/
def mapRows (table : Table α) (repair : α → α) (keeps : ∀ row, key (repair row) = key row) :
    Table α where
  rows := table.rows.map repair
  distinct := by
    rw [List.map_map, show key ∘ repair = key from funext keeps]
    exact table.distinct

theorem mapRows_eq_self {table : Table α} {repair : α → α}
    {keeps : ∀ row, key (repair row) = key row}
    (sound : ∀ row ∈ table.rows, repair row = row) : mapRows table repair keeps = table := by
  apply Table.ext
  show table.rows.map repair = table.rows
  conv_rhs => rw [← List.map_id table.rows]
  exact List.map_congr_left sound

variable [DecidableEq κ] {table : Table α} {row new : α} {rest : List α}

theorem get?_mapRows {repair : α → α} {keeps : ∀ row, key (repair row) = key row} (k : κ) :
    (mapRows table repair keeps).get? k = (table.get? k).map repair := by
  unfold Table.get? mapRows
  rw [List.find?_map]
  simp only [Function.comp_def, keeps]

omit [DecidableEq κ] in
/-- The rows after a row have other keys. -/
theorem key_ne_of_drop {i : ℕ} (there : table.rows.drop i = row :: rest) :
    ∀ other ∈ rest, key other ≠ key row := by
  intro other member same
  have distinct : ((table.rows.drop i).map key).Nodup := by
    rw [List.map_drop]
    exact table.distinct.sublist (List.drop_sublist i _)
  rw [there, List.map_cons, List.nodup_cons] at distinct
  exact distinct.1 (List.mem_map.mpr ⟨other, member, same⟩)

theorem drop_succ_of_drop {i : ℕ} {rows : List α} (there : rows.drop i = row :: rest) :
    rows.drop (i + 1) = rest := by
  rw [← List.drop_drop, there]
  rfl

theorem drop_update {i : ℕ} (there : table.rows.drop i = row :: rest) (same : key new = key row) :
    (table.update new).rows.drop (i + 1) = rest := by
  show (table.rows.map fun other => if key other = key new then new else other).drop (i + 1) = rest
  rw [← List.map_drop, drop_succ_of_drop there]
  conv_rhs => rw [← List.map_id rest]
  apply List.map_congr_left
  intro other member
  rw [same, if_neg (key_ne_of_drop there other member)]
  rfl

/-- New versions of the last rows replace them; the rows before stay as they are. -/
theorem rows_foldl_update {done todo news : List α} (split : table.rows = done ++ todo)
    (same : news.map key = todo.map key) :
    (news.foldl Table.update table).rows = done ++ news := by
  induction news generalizing table done todo with
  | nil =>
      have nothing : todo = [] := List.map_eq_nil_iff.mp same.symm
      rw [List.foldl_nil, split, nothing]
  | cons new news ih =>
      cases todo with
      | nil => cases same
      | cons row todo =>
          rw [List.map_cons, List.map_cons, List.cons.injEq] at same
          have distinct := table.distinct
          rw [split, List.map_append, List.map_cons, List.nodup_append] at distinct
          obtain ⟨_, later, before⟩ := distinct
          have updated : (table.update new).rows = (done ++ [new]) ++ todo := by
            show table.rows.map (fun other => if key other = key new then new else other) = _
            rw [split, List.map_append, List.map_cons, same.1, if_pos rfl, List.append_assoc,
              List.singleton_append]
            congr 1
            · conv_rhs => rw [← List.map_id done]
              apply List.map_congr_left
              intro other member
              exact if_neg (before _ (List.mem_map_of_mem member) _ List.mem_cons_self)
            · congr 1
              conv_rhs => rw [← List.map_id todo]
              apply List.map_congr_left
              intro other member
              apply if_neg
              intro isSame
              exact (List.nodup_cons.mp later).1 (List.mem_map.mpr ⟨other, member, isSame⟩)
          rw [List.foldl_cons, ih updated same.2, List.append_assoc, List.singleton_append]

end Rows

/-! ## Repairs of one table of a database -/

section Repairs

variable {σ : Type w} {α : Type u} {κ : Type v} [Keyed α κ] [DecidableEq κ]

/-- A table of a database. -/
structure TableField (read : σ → Table α) (write : σ → Table α → σ) : Prop where
  read_write : ∀ state table, read (write state table) = table
  write_write : ∀ state table table', write (write state table) table' = write state table'
  write_read : ∀ state, write state (read state) = state

/-- A visit writes the repaired row unless there is nothing to repair. -/
structure Repairs (read : σ → Table α) (write : σ → Table α → σ) (repair : σ → α → α)
    (visit : σ → α → σ) : Prop extends TableField read write where
  keeps : ∀ state row, key (repair state row) = key row
  blind : ∀ state table, repair (write state table) = repair state
  leaves : ∀ state row, repair state row = row → visit state row = state
  writes : ∀ state row, repair state row ≠ row →
    visit state row = write state ((read state).update (repair state row))

variable {read : σ → Table α} {write : σ → Table α → σ} {repair : σ → α → α}
  {visit : σ → α → σ} {state : σ}

/-- A visitor that tells by a flag whether there is something to repair. -/
theorem Repairs.of_flag (field : TableField read write)
    (keeps : ∀ state row, key (repair state row) = key row)
    (blind : ∀ state table, repair (write state table) = repair state) {flag : σ → α → Bool}
    (sound_iff : ∀ state row, repair state row = row ↔ flag state row = false)
    (visits : ∀ state row, visit state row =
      if flag state row then write state ((read state).update (repair state row)) else state) :
    Repairs read write repair visit where
  toTableField := field
  keeps := keeps
  blind := blind
  leaves state row sound := by
    rw [visits, (sound_iff state row).mp sound, if_neg Bool.false_ne_true]
  writes state row unsound := by
    cases flagged : flag state row with
    | false => exact absurd ((sound_iff state row).mpr flagged) unsound
    | true => rw [visits, flagged, if_pos rfl]

theorem Repairs.visits_of_mem (repairs : Repairs read write repair visit) {row : α}
    (member : row ∈ (read state).rows) :
    visit state row = write state ((read state).update (repair state row)) := by
  by_cases sound : repair state row = row
  · rw [repairs.leaves state row sound, sound, Table.update_self member, repairs.write_read]
  · exact repairs.writes state row sound

theorem Repairs.visitsApart (repairs : Repairs read write repair visit) :
    VisitsApart (fun state => (read state).rows) visit := by
  intro state i row rest there
  have member : row ∈ (read state).rows :=
    List.mem_of_mem_drop (there ▸ List.mem_cons_self)
  show (read (visit state row)).rows.drop (i + 1) = rest
  rw [repairs.visits_of_mem member, repairs.read_write]
  exact drop_update there (repairs.keeps state row)

theorem Repairs.foldl_visit (repairs : Repairs read write repair visit) {todo : List α} {i : ℕ}
    (there : (read state).rows.drop i = todo) :
    todo.foldl visit state =
      write state ((todo.map (repair state)).foldl Table.update (read state)) := by
  induction todo generalizing state i with
  | nil => rw [List.foldl_nil, List.map_nil, List.foldl_nil, repairs.write_read]
  | cons row todo ih =>
      have member : row ∈ (read state).rows :=
        List.mem_of_mem_drop (there ▸ List.mem_cons_self)
      have after := repairs.visitsApart state i row todo there
      rw [List.foldl_cons, ih after, repairs.visits_of_mem member, repairs.blind,
        repairs.read_write, repairs.write_write, List.map_cons, List.foldl_cons]

/-- A pass over a table repairs each of its rows. -/
theorem Repairs.iterate (repairs : Repairs read write repair visit) {batch fuel : ℕ}
    (enough : (read state).rows.length < batch * fuel) :
    PagedRepairs.iterate (fun state => (read state).rows) visit batch fuel 0 state =
      some (write state (mapRows (read state) (repair state) (repairs.keeps state))) := by
  rw [iterate_eq_foldl repairs.visitsApart (by simpa using enough), List.drop_zero,
    repairs.foldl_visit (List.drop_zero)]
  congr 2
  apply Table.ext
  refine rows_foldl_update (List.nil_append _).symm ?_
  rw [List.map_map]
  exact List.map_congr_left fun row _ => repairs.keeps state row

end Repairs

/-! ## Assignments -/

section Assignments

variable {α : Type u} {κ : Type v} {β : Type w} [Keyed α κ] [DecidableEq κ]

/-- The rows get the values that are assigned to their keys, one after the other. -/
def assignAll (assign : β → α → α) (assignments : List (κ × β)) (table : Table α) : Table α :=
  assignments.foldl (fun table assignment => table.modify assignment.1 (assign assignment.2)) table

/-- The last value that is assigned to a key. -/
def lastAssigned (assignments : List (κ × β)) (k : κ) : Option β :=
  (assignments.reverse.find? fun assignment => assignment.1 = k).map Prod.snd

theorem lastAssigned_append_singleton (assignments : List (κ × β)) (assignment : κ × β) (k : κ) :
    lastAssigned (assignments ++ [assignment]) k =
      if assignment.1 = k then some assignment.2 else lastAssigned assignments k := by
  rw [lastAssigned, List.reverse_append, List.reverse_singleton, List.singleton_append,
    List.find?_cons]
  split <;> simp_all [lastAssigned]

theorem mem_of_lastAssigned {assignments : List (κ × β)} {k : κ} {value : β}
    (last : lastAssigned assignments k = some value) : (k, value) ∈ assignments := by
  obtain ⟨assignment, found, rfl⟩ := Option.map_eq_some_iff.mp last
  have isKey : assignment.1 = k := by simpa using List.find?_some found
  rw [← isKey]
  exact List.mem_reverse.mp (List.mem_of_find?_eq_some found)

theorem exists_lastAssigned {assignments : List (κ × β)} {k : κ} {value : β}
    (member : (k, value) ∈ assignments) : ∃ last, lastAssigned assignments k = some last := by
  apply Option.isSome_iff_exists.mp
  rw [lastAssigned, Option.isSome_map, List.find?_isSome]
  exact ⟨(k, value), List.mem_reverse.mpr member, by simp⟩

theorem rows_modify {table : Table α} {change : α → α}
    (keeps : ∀ row, key (change row) = key row) (k : κ) :
    (table.modify k change).rows =
      table.rows.map fun row => if key row = k then change row else row := by
  unfold Table.modify
  cases found : table.get? k with
  | none =>
      have missing := Table.get?_eq_none_iff.mp found
      conv_lhs => rw [← List.map_id table.rows]
      apply List.map_congr_left
      intro row member
      rw [if_neg fun same => missing (List.mem_map.mpr ⟨row, member, same⟩)]
      rfl
  | some old =>
      have isKey : key (change old) = k := (keeps old).trans (Table.key_of_get? found)
      apply List.map_congr_left
      intro row member
      rw [isKey]
      split
      case isTrue same =>
        have isOld := Table.get?_key_of_mem member
        rw [same, found] at isOld
        rw [Option.some.inj isOld]
      case isFalse differs => rfl

variable {assign : β → α → α} (keeps : ∀ value row, key (assign value row) = key row)
  (overwrites : ∀ value value' row, assign value (assign value' row) = assign value row)
include keeps overwrites

/-- The last value stays. -/
theorem rows_assignAll (assignments : List (κ × β)) (table : Table α) :
    (assignAll assign assignments table).rows = table.rows.map fun row =>
      ((lastAssigned assignments (key row)).map fun value => assign value row).getD row := by
  induction assignments using List.reverseRecOn with
  | nil =>
      show table.rows = table.rows.map id
      rw [List.map_id]
  | append_singleton assignments assignment ih =>
      rw [assignAll, List.foldl_append, List.foldl_cons, List.foldl_nil]
      rw [rows_modify (keeps assignment.2), show (assignments.foldl _ table).rows = _ from ih,
        List.map_map]
      apply List.map_congr_left
      intro row _
      rw [Function.comp_apply, lastAssigned_append_singleton]
      have sameKey : key (((lastAssigned assignments (key row)).map fun value =>
          assign value row).getD row) = key row := by
        cases lastAssigned assignments (key row) with
        | none => rfl
        | some value => exact keeps value row
      rw [sameKey]
      by_cases isKey : key row = assignment.1
      · rw [if_pos isKey, if_pos isKey.symm]
        cases lastAssigned assignments (key row) with
        | none => rfl
        | some value => exact overwrites assignment.2 value row
      · rw [if_neg isKey, if_neg (Ne.symm isKey)]

theorem assignAll_assignAll (assignments : List (κ × β)) (table : Table α) :
    assignAll assign assignments (assignAll assign assignments table) =
      assignAll assign assignments table := by
  apply Table.ext
  rw [rows_assignAll keeps overwrites, rows_assignAll keeps overwrites, List.map_map]
  apply List.map_congr_left
  intro row _
  rw [Function.comp_apply]
  cases last : lastAssigned assignments (key row) with
  | none =>
      rw [Option.map_none, Option.getD_none, last]
      rfl
  | some value =>
      rw [Option.map_some, Option.getD_some, keeps, last, Option.map_some, Option.getD_some,
        overwrites]

end Assignments

end PagedRepairs
