import Mathlib.Data.List.Count
import Mathlib.Logic.Function.Basic
import Owprov.Lib.Table

/-!
# Checking a key and then creating a record

Several processes create records in one store.  A process first checks that no record has its
key and creates the record in a later step.  The keys stay unique as long as no process creates
a record of a key that another one has created since the check.
-/

namespace CheckThenCreate

universe u v w

variable {σ : Type u} {κ : Type v} {ι : Type w} [DecidableEq κ] [DecidableEq ι]

/-- The store, the keys that the processes have checked, and whether a record of the key was
created since then. -/
structure State (σ : Type u) (κ : Type v) (ι : Type w) where
  store : σ
  held : ι → Option κ
  overtaken : ι → Bool

variable (count : σ → κ → ℕ)

/-- A record of a key that a process holds was created. -/
def overtakes (before after : σ) (held : Option κ) : Bool :=
  held.any fun k => count before k < count after k

/-- Some record was created. -/
def Creates (before after : σ) : Prop :=
  ∃ k, count before k < count after k

/-- A step of a process, which checks a key or writes.  With its write a process may create a
record of the key that it holds, when it is `allowed` to. -/
inductive Step (allowed : State σ κ ι → ι → Prop) : State σ κ ι → State σ κ ι → Prop
  | check {s : State σ κ ι} (p : ι) (key : Option κ)
      (free : ∀ k, key = some k → count s.store k = 0) :
      Step allowed s
        { s with
          held := Function.update s.held p key
          overtaken := Function.update s.overtaken p false }
  | write {s : State σ κ ι} (p : ι) (store : σ) (may : Creates count s.store store → allowed s p)
      (own : ∀ k, count store k ≤ count s.store k + if s.held p = some k then 1 else 0) :
      Step allowed s
        { store
          held := Function.update s.held p none
          overtaken := fun q => s.overtaken q || overtakes count s.store store (s.held q) }

/-- A process that is not overtaken holds a free key. -/
def Tracked (s : State σ κ ι) : Prop :=
  ∀ p k, s.held p = some k → s.overtaken p = false → count s.store k = 0

/-- No two records have the same key. -/
def Unique (s : State σ κ ι) : Prop :=
  ∀ k, count s.store k ≤ 1

variable {count} {allowed : State σ κ ι → ι → Prop} {s t : State σ κ ι}

omit [DecidableEq κ] [DecidableEq ι] in
theorem count_of_not_overtakes {before after : σ} {k : κ}
    (kept : overtakes count before after (some k) = false) (free : count before k = 0) :
    count after k = 0 := by
  rw [overtakes, Option.any_some, decide_eq_false_iff_not, free] at kept
  omega

theorem Tracked.step (tracked : Tracked count s) (moved : Step count allowed s t) :
    Tracked count t := by
  intro q k holds clear
  cases moved with
  | check p key free =>
      dsimp only at holds clear ⊢
      by_cases self : q = p
      · subst self
        rw [Function.update_self] at holds
        exact free k holds
      · rw [Function.update_of_ne self] at holds clear
        exact tracked q k holds clear
  | write p store may own =>
      dsimp only at holds clear ⊢
      have other : q ≠ p := by
        rintro rfl
        rw [Function.update_self] at holds
        cases holds
      rw [Function.update_of_ne other] at holds
      rw [holds, Bool.or_eq_false_iff] at clear
      exact count_of_not_overtakes clear.2 (tracked q k holds clear.1)

/-- Keys stay unique as long as only processes that are not overtaken create records. -/
theorem Unique.step (unique : Unique count s) (tracked : Tracked count s)
    (moved : Step count (fun s p => s.overtaken p = false) s t) : Unique count t := by
  cases moved with
  | check p key free => exact unique
  | write p store may own =>
      intro k
      have before := unique k
      have after := own k
      by_cases grown : count s.store k < count store k
      · have clear := may ⟨k, grown⟩
        by_cases holds : s.held p = some k
        · rw [if_pos holds, tracked p k holds clear] at after
          exact after
        · rw [if_neg holds] at after
          omega
      · dsimp only
        omega

end CheckThenCreate

/-! ## Writes to a column -/

namespace RowTable

variable {α : Type*} {κ : Type*} {β : Type*} [Keyed α κ] [DecidableEq κ]

/-- A new version of a row has the value of the row in a column. -/
def Backed (column : α → β) (table : Table α) (new : α) : Prop :=
  (table.get? (key new)).map column = some (column new)

/-- A write that enters at most one new value in a column and changes none. -/
inductive ColumnWrite (column : α → β) (table : Table α) (entered : β → Prop) : Table α → Prop
  | same : ColumnWrite column table entered table
  | insert {row : α} {table' : Table α} (inserted : table.insert? row = some table')
      (value : entered (column row)) : ColumnWrite column table entered table'
  | update {row : α} (backed : Backed column table row) :
      ColumnWrite column table entered (table.update row)

variable {column : α → β} {table table' : Table α} {entered : β → Prop}

theorem ColumnWrite.count_le [DecidableEq β] [DecidablePred entered]
    (write : ColumnWrite column table entered table') (value : β) :
    (table'.rows.map column).count value ≤
      (table.rows.map column).count value + if entered value then 1 else 0 := by
  cases write with
  | same => omega
  | insert inserted atRow =>
      rename_i row
      rw [Table.map_rows_insert? inserted, List.count_append, List.count_singleton]
      by_cases same : column row = value
      · exact Nat.le_of_eq (by rw [if_pos (beq_iff_eq.mpr same), if_pos (same ▸ atRow)])
      · rw [if_neg (mt beq_iff_eq.mp same)]
        omega
  | update backed =>
      rw [Table.map_rows_update]
      · omega
      · intro row found
        rw [Backed, found, Option.map_some] at backed
        exact Option.some.inj backed

/-- What backs a new version stays there. -/
theorem ColumnWrite.backed (write : ColumnWrite column table entered table') {new : α}
    (backed : Backed column table new) : Backed column table' new := by
  cases write with
  | same => exact backed
  | insert inserted atRow =>
      rw [Backed, Table.get?_insert? inserted]
      rename_i row
      have taken : key new ≠ key row := by
        intro equal
        rw [Backed, equal, Table.get?_key_of_insert? inserted] at backed
        cases backed
      rw [if_neg taken]
      exact backed
  | update others =>
      rw [Backed, Table.get?_update]
      rename_i row
      by_cases equal : key new = key row
      · rw [if_pos equal, Option.map_map]
        rw [Backed, ← equal] at others
        rw [← backed]
        obtain ⟨old, found, _⟩ := Option.map_eq_some_iff.mp backed
        rw [found] at others ⊢
        simpa using others.symm
      · rw [if_neg equal]
        exact backed

theorem backed_of_mem {row new : α} (member : row ∈ table.rows) (sameKey : key new = key row)
    (sameValue : column new = column row) : Backed column table new := by
  rw [Backed, sameKey, Table.get?_key_of_mem member, Option.map_some, sameValue]

end RowTable
