import Mathlib.Data.Multiset.AddSub

/-!
# Lists that follow a foreign key

Members name their owner in a column, and owners keep a list of their members.  The list is
written separately from the column: a member is added to one list and removed from another.
The module says when the lists are exact, and that moving a member, together with creating
and deleting members and owners, keeps them so.
-/

universe u v

namespace ForeignKeys

variable {κ : Type u} {ι : Type v} [DecidableEq κ] [DecidableEq ι]

/-- The owner that each member names, when it exists and names one. -/
abbrev Column (κ : Type u) (ι : Type v) := κ → Option ι

/-- The list of each owner that exists. -/
abbrev Lists (κ : Type u) (ι : Type v) := ι → Option (Multiset κ)

/-- Every list holds the members of its owner, each once, and members name existing
owners. -/
structure Exact (column : Column κ ι) (lists : Lists κ ι) : Prop where
  count : ∀ p list, lists p = some list → ∀ c, list.count c = if column c = some p then 1 else 0
  grounded : ∀ c p, column c = some p → (lists p).isSome

/-- List a member of an owner; an id that names no owner changes nothing. -/
def addTo (lists : Lists κ ι) (owner : Option ι) (c : κ) : Lists κ ι :=
  owner.elim lists fun p => Function.update lists p
    ((lists p).map fun list => if c ∈ list then list else c ::ₘ list)

/-- Take a member off the list of an owner. -/
def removeFrom (lists : Lists κ ι) (owner : Option ι) (c : κ) : Lists κ ι :=
  owner.elim lists fun p => Function.update lists p ((lists p).map fun list => list.erase c)

variable {column : Column κ ι} {lists : Lists κ ι}

theorem isSome_addTo (owner : Option ι) (c : κ) (p : ι) :
    (addTo lists owner c p).isSome = (lists p).isSome := by
  cases owner with
  | none => rfl
  | some q =>
      by_cases same : p = q
      · subst same
        simp [addTo]
      · simp [addTo, same]

theorem isSome_removeFrom (owner : Option ι) (c : κ) (p : ι) :
    (removeFrom lists owner c p).isSome = (lists p).isSome := by
  cases owner with
  | none => rfl
  | some q =>
      by_cases same : p = q
      · subst same
        simp [removeFrom]
      · simp [removeFrom, same]

theorem count_addTo {owner : Option ι} {c : κ} {p : ι} {list : Multiset κ}
    (found : addTo lists owner c p = some list) :
    ∃ old, lists p = some old ∧ ∀ x, list.count x =
      if owner = some p ∧ x = c then max 1 (old.count x) else old.count x := by
  cases owner with
  | none => exact ⟨list, found, fun x => by simp⟩
  | some q =>
      by_cases same : p = q
      · subst same
        simp only [addTo, Option.elim_some, Function.update_self] at found
        obtain ⟨old, isOld, rfl⟩ := Option.map_eq_some_iff.mp found
        refine ⟨old, isOld, fun x => ?_⟩
        by_cases equal : x = c
        · subst equal
          by_cases present : x ∈ old
          · have positive : 0 < old.count x := Multiset.count_pos.mpr present
            simp only [present, if_true, true_and]
            omega
          · simp [present]
        · by_cases present : c ∈ old
          · simp [present, equal]
          · simp [present, equal]
      · have differ : ¬ (some q = some p ∧ True) := by simp [Ne.symm same]
        simp only [addTo, Option.elim_some, Function.update_of_ne same] at found
        refine ⟨list, found, fun x => ?_⟩
        simp [Ne.symm same]

theorem count_removeFrom {owner : Option ι} {c : κ} {p : ι} {list : Multiset κ}
    (found : removeFrom lists owner c p = some list) :
    ∃ old, lists p = some old ∧ ∀ x, list.count x =
      if owner = some p ∧ x = c then old.count x - 1 else old.count x := by
  cases owner with
  | none => exact ⟨list, found, fun x => by simp⟩
  | some q =>
      by_cases same : p = q
      · subst same
        simp only [removeFrom, Option.elim_some, Function.update_self] at found
        obtain ⟨old, isOld, rfl⟩ := Option.map_eq_some_iff.mp found
        refine ⟨old, isOld, fun x => ?_⟩
        by_cases equal : x = c
        · subst equal
          simp
        · simp [equal, Multiset.count_erase_of_ne equal]
      · simp only [removeFrom, Option.elim_some, Function.update_of_ne same] at found
        refine ⟨list, found, fun x => ?_⟩
        simp [Ne.symm same]

/-! ## Lists whose members may name owners that are gone -/

/-- Every list holds the members of its owner, each once. -/
def Counted (column : Column κ ι) (lists : Lists κ ι) : Prop :=
  ∀ p list, lists p = some list → ∀ c, list.count c = if column c = some p then 1 else 0

namespace Counted

theorem move (counted : Counted column lists) (c : κ) (new : Option ι) :
    Counted (Function.update column c new) (addTo (removeFrom lists (column c) c) new c) := by
  intro p list found x
  obtain ⟨middle, isMiddle, added⟩ := count_addTo found
  obtain ⟨old, isOld, removed⟩ := count_removeFrom isMiddle
  have before := counted p old isOld x
  rw [added, removed]
  by_cases isMember : x = c
  · subst isMember
    rw [Function.update_self]
    by_cases here : column x = some p
    · by_cases there : new = some p
      · simp [here, there, before]
      · simp [here, there, before]
    · by_cases there : new = some p
      · simp [here, there, before]
      · simp [here, there, before]
  · rw [Function.update_of_ne isMember]
    simp [isMember, before]

/-- A member that is in no list, and is to be in none, is written alone. -/
theorem write (counted : Counted column lists) {c : κ} {new : Option ι}
    (unlisted : ∀ p, column c = some p → lists p = none)
    (unlisted' : ∀ p, new = some p → lists p = none) :
    Counted (Function.update column c new) lists := by
  intro p list found x
  rw [counted p list found x]
  by_cases isMember : x = c
  · subst isMember
    rw [Function.update_self]
    have before : column x ≠ some p := by
      intro named
      rw [unlisted p named] at found
      cases found
    have after : new ≠ some p := by
      intro named
      rw [unlisted' p named] at found
      cases found
    rw [if_neg before, if_neg after]
  · rw [Function.update_of_ne isMember]

/-- A list loses nothing when something that is no member is taken off. -/
theorem remove_of_ne (counted : Counted column lists) {owner : Option ι} {c : κ}
    (apart : ∀ p, owner = some p → column c ≠ some p) :
    Counted column (removeFrom lists owner c) := by
  intro p list found x
  obtain ⟨old, isOld, removed⟩ := count_removeFrom found
  rw [removed, counted p old isOld x]
  by_cases taken : owner = some p ∧ x = c
  · obtain ⟨isOwner, rfl⟩ := taken
    simp [apart p isOwner]
  · rw [if_neg taken]

/-- A new owner that no member names starts with an empty list. -/
theorem insertOwner (counted : Counted column lists) {p : ι}
    (unowned : ∀ c, column c ≠ some p) : Counted column (Function.update lists p (some 0)) := by
  intro q list found c
  by_cases same : q = p
  · subst same
    rw [Function.update_self] at found
    cases found
    simp [unowned c]
  · rw [Function.update_of_ne same] at found
    exact counted q list found c

/-- An owner goes away with its list. -/
theorem deleteOwner (counted : Counted column lists) (p : ι) :
    Counted column (Function.update lists p none) := by
  intro q list found c
  by_cases same : q = p
  · subst same
    rw [Function.update_self] at found
    cases found
  · rw [Function.update_of_ne same] at found
    exact counted q list found c

theorem mem_iff (counted : Counted column lists) {p : ι} {list : Multiset κ}
    (found : lists p = some list) (c : κ) : c ∈ list ↔ column c = some p := by
  rw [← Multiset.count_pos, counted p list found c]
  split <;> simp [*]

theorem nodup (counted : Counted column lists) {p : ι} {list : Multiset κ}
    (found : lists p = some list) : list.Nodup := by
  rw [Multiset.nodup_iff_count_le_one]
  intro c
  rw [counted p list found c]
  split <;> omega

end Counted

/-! ## Exact lists -/

theorem Exact.counted (exact : Exact column lists) : Counted column lists :=
  exact.count

/-- A member gets a new owner, or none, and both lists follow.  A member that did not exist
is created in this way, and one that loses its owner may be deleted. -/
theorem Exact.move (exact : Exact column lists) (c : κ) (new : Option ι)
    (existing : ∀ p, new = some p → (lists p).isSome) :
    Exact (Function.update column c new) (addTo (removeFrom lists (column c) c) new c) := by
  constructor
  case count => exact exact.counted.move c new
  case grounded =>
    intro x p isOwner
    rw [isSome_addTo, isSome_removeFrom]
    by_cases isMember : x = c
    · subst isMember
      rw [Function.update_self] at isOwner
      exact existing p isOwner
    · rw [Function.update_of_ne isMember] at isOwner
      exact exact.grounded x p isOwner

/-- A new owner starts with an empty list. -/
theorem Exact.insertOwner (exact : Exact column lists) {p : ι} (fresh : lists p = none) :
    Exact column (Function.update lists p (some 0)) := by
  have unowned : ∀ c, column c ≠ some p := by
    intro c isOwner
    have found := exact.grounded c p isOwner
    rw [fresh] at found
    cases found
  constructor
  case count => exact exact.counted.insertOwner unowned
  case grounded =>
    intro c q isOwner
    by_cases same : q = p
    · subst same
      simp
    · rw [Function.update_of_ne same]
      exact exact.grounded c q isOwner

/-- No member names an owner whose list is empty. -/
theorem Exact.unowned (exact : Exact column lists) {p : ι} (vacant : lists p = some 0) (c : κ) :
    column c ≠ some p := by
  intro isOwner
  have once := exact.count p 0 vacant c
  rw [if_pos isOwner, Multiset.count_zero] at once
  omega

/-- An owner that no member names may be deleted. -/
theorem Exact.deleteOwner (exact : Exact column lists) {p : ι}
    (unowned : ∀ c, column c ≠ some p) : Exact column (Function.update lists p none) := by
  constructor
  case count => exact exact.counted.deleteOwner p
  case grounded =>
    intro c q isOwner
    by_cases same : q = p
    · subst same
      exact absurd isOwner (unowned c)
    · rw [Function.update_of_ne same]
      exact exact.grounded c q isOwner

/-- Owners without members come and go. -/
inductive OwnersChange (lists lists' : Lists κ ι) : Prop
  | same : lists' = lists → OwnersChange lists lists'
  | opened (p : ι) : lists p = none → lists' = Function.update lists p (some 0) →
      OwnersChange lists lists'
  | closed (p : ι) : lists p = some 0 → lists' = Function.update lists p none →
      OwnersChange lists lists'

theorem Exact.changeOwners {lists' : Lists κ ι} (exact : Exact column lists)
    (change : OwnersChange lists lists') : Exact column lists' := by
  cases change with
  | same equal =>
      rw [equal]
      exact exact
  | opened p fresh equal =>
      rw [equal]
      exact exact.insertOwner fresh
  | closed p vacant equal =>
      rw [equal]
      exact exact.deleteOwner (exact.unowned vacant)

/-- A listed member names the owner, and a member that names an owner is listed once. -/
theorem Exact.mem_iff (exact : Exact column lists) {p : ι} {list : Multiset κ}
    (found : lists p = some list) (c : κ) : c ∈ list ↔ column c = some p :=
  exact.counted.mem_iff found c

theorem Exact.nodup (exact : Exact column lists) {p : ι} {list : Multiset κ}
    (found : lists p = some list) : list.Nodup :=
  exact.counted.nodup found

end ForeignKeys
