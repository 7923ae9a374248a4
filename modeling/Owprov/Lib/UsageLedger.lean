import Owprov.Lib.ForeignKeys

/-!
# Usage ledgers

Users refer to objects of several kinds, and every object keeps a ledger with one entry for
each of its users.  A ledger is written by hand when a user takes or drops a reference.  The
module says when the ledgers are exact, and which writes keep them so.  A user may refer to
an object that does not exist, and a ledger may hold text that is the entry of no user.
-/

universe u v w x

namespace UsageLedger

open ForeignKeys

variable {κ : Type u} {ρ : Type v} {ι : Type w} {ε : Type x}

/-- The objects of each kind that a user refers to. -/
abbrev Uses (κ : Type u) (ρ : Type v) (ι : Type w) := κ → ρ → List ι

/-- The ledger of each object, for each kind. -/
abbrev Ledgers (ρ : Type v) (ε : Type x) (ι : Type w) := ρ → Lists ε ι

section Lists

variable [DecidableEq ι] [DecidableEq ε]

/-- Enter a user with each of some objects. -/
def enterAll (lists : Lists ε ι) (objects : List ι) (e : ε) : Lists ε ι :=
  objects.foldl (fun lists p => addTo lists (some p) e) lists

/-- Strike a user off the ledgers of some objects. -/
def strikeAll (lists : Lists ε ι) (objects : List ι) (e : ε) : Lists ε ι :=
  objects.foldl (fun lists p => removeFrom lists (some p) e) lists

/-- The ledgers follow a user from the old to the new references. -/
def follow (lists : Lists ε ι) (old new : List ι) (e : ε) : Lists ε ι :=
  if old = new then lists else enterAll (strikeAll lists old e) new e

theorem count_enterAll {lists : Lists ε ι} {objects : List ι} {e : ε} {p : ι} {list : Multiset ε}
    (found : enterAll lists objects e p = some list) :
    ∃ old, lists p = some old ∧ ∀ x, list.count x =
      if p ∈ objects ∧ x = e then max 1 (old.count x) else old.count x := by
  induction objects generalizing lists with
  | nil => exact ⟨list, found, fun x => by simp⟩
  | cons object objects ih =>
      rw [enterAll, List.foldl_cons] at found
      obtain ⟨middle, isMiddle, later⟩ := ih found
      obtain ⟨old, isOld, first⟩ := count_addTo isMiddle
      refine ⟨old, isOld, fun x => ?_⟩
      rw [later, first]
      by_cases isEntry : x = e
      · by_cases here : object = p
        · subst here
          simp only [isEntry, and_self, and_true, if_true, List.mem_cons, true_or]
          split <;> omega
        · have apart : p ≠ object := Ne.symm here
          simp [isEntry, here, apart]
      · simp [isEntry]

theorem count_strikeAll {lists : Lists ε ι} {objects : List ι} {e : ε} {p : ι}
    {list : Multiset ε} (found : strikeAll lists objects e p = some list) :
    ∃ old, lists p = some old ∧ ∀ x, list.count x =
      if x = e then old.count x - objects.count p else old.count x := by
  induction objects generalizing lists with
  | nil => exact ⟨list, found, fun x => by simp⟩
  | cons object objects ih =>
      rw [strikeAll, List.foldl_cons] at found
      obtain ⟨middle, isMiddle, later⟩ := ih found
      obtain ⟨old, isOld, first⟩ := count_removeFrom isMiddle
      refine ⟨old, isOld, fun x => ?_⟩
      rw [later, first]
      by_cases isEntry : x = e
      · by_cases here : object = p
        · simp [isEntry, here]
          omega
        · simp [isEntry, here]
      · simp [isEntry]

end Lists

/-- Every ledger holds the entry of each user that refers to its object, once, and of no other
user. -/
def Exact [DecidableEq ι] [DecidableEq ε] (entry : κ → ε) (uses : Uses κ ρ ι)
    (ledgers : Ledgers ρ ε ι) : Prop :=
  ∀ r p list, ledgers r p = some list → ∀ c,
    list.count (entry c) = if p ∈ uses c r then 1 else 0

namespace Exact

variable [DecidableEq ι] [DecidableEq ε] {entry : κ → ε} {uses : Uses κ ρ ι}
  {ledgers : Ledgers ρ ε ι}

theorem mem_iff (exact : Exact entry uses ledgers) {r : ρ} {p : ι} {list : Multiset ε}
    (found : ledgers r p = some list) (c : κ) : entry c ∈ list ↔ p ∈ uses c r := by
  rw [← Multiset.count_pos, exact r p list found c]
  split <;> simp [*]

/-- An object that no user refers to is created, with the entry of no user. -/
theorem openLedger [DecidableEq ρ] (exact : Exact entry uses ledgers) {r : ρ} {p : ι}
    {list : Multiset ε} (unreferenced : ∀ c, p ∉ uses c r) (vacant : ∀ c, entry c ∉ list) :
    Exact entry uses
      (Function.update ledgers r (Function.update (ledgers r) p (some list))) := by
  intro r' p' list' found c
  by_cases sameKind : r' = r
  · subst sameKind
    rw [Function.update_self] at found
    by_cases sameObject : p' = p
    · subst sameObject
      rw [Function.update_self] at found
      obtain rfl := Option.some.inj found
      rw [if_neg (unreferenced c), Multiset.count_eq_zero]
      exact vacant c
    · rw [Function.update_of_ne sameObject] at found
      exact exact r' p' list' found c
  · rw [Function.update_of_ne sameKind] at found
    exact exact r' p' list' found c

/-- An object is deleted, whoever refers to it. -/
theorem closeLedger [DecidableEq ρ] (exact : Exact entry uses ledgers) (r : ρ) (p : ι) :
    Exact entry uses (Function.update ledgers r (Function.update (ledgers r) p none)) := by
  intro r' p' list' found c
  by_cases sameKind : r' = r
  · subst sameKind
    rw [Function.update_self] at found
    by_cases sameObject : p' = p
    · subst sameObject
      rw [Function.update_self] at found
      cases found
    · rw [Function.update_of_ne sameObject] at found
      exact exact r' p' list' found c
  · rw [Function.update_of_ne sameKind] at found
    exact exact r' p' list' found c

variable [DecidableEq κ]

/-- A user is struck off the ledgers of some objects, whether it refers to them or not, and
refers to the others from then on. -/
theorem strike (exact : Exact entry uses ledgers) (injective : Function.Injective entry) (c : κ)
    (objects : ρ → List ι) :
    Exact entry (Function.update uses c fun r => (uses c r).filter fun p => p ∉ objects r)
      fun r => strikeAll (ledgers r) (objects r) (entry c) := by
  intro r p list found x
  obtain ⟨old, isOld, struck⟩ := count_strikeAll found
  rw [struck, exact r p old isOld x]
  by_cases same : x = c
  · subst same
    rw [if_pos rfl, Function.update_self]
    by_cases struckOff : p ∈ objects r
    · have positive : 0 < (objects r).count p := List.count_pos_iff.mpr struckOff
      have gone : p ∉ (uses x r).filter fun q => q ∉ objects r := by simp [struckOff]
      rw [if_neg gone]
      split <;> omega
    · have never : (objects r).count p = 0 := List.count_eq_zero.mpr struckOff
      rw [never, Nat.sub_zero]
      simp [List.mem_filter, struckOff]
  · rw [if_neg (injective.ne same), Function.update_of_ne same]

/-- A user changes the references and the ledgers follow. -/
theorem move (exact : Exact entry uses ledgers) (injective : Function.Injective entry) (c : κ)
    (new : ρ → List ι) :
    Exact entry (Function.update uses c new)
      fun r => follow (ledgers r) (uses c r) (new r) (entry c) := by
  intro r p list found x
  dsimp only [follow] at found
  split at found
  · rename_i unchanged
    rw [exact r p list found x]
    by_cases same : x = c
    · rw [same, Function.update_self, unchanged]
    · rw [Function.update_of_ne same]
  · obtain ⟨middle, isMiddle, entered⟩ := count_enterAll found
    obtain ⟨old, isOld, struck⟩ := count_strikeAll isMiddle
    rw [entered, struck, exact r p old isOld x]
    by_cases same : x = c
    · subst same
      rw [Function.update_self, if_pos rfl]
      have cleared : (if p ∈ uses x r then 1 else 0) - (uses x r).count p = 0 := by
        split
        · rename_i referenced
          have := List.count_pos_iff.mpr referenced
          omega
        · omega
      rw [cleared]
      simp
    · rw [Function.update_of_ne same, if_neg (injective.ne same)]
      simp [injective.ne same]

/-- A user with references to objects that do not exist may drop or take them without a word
to the ledgers. -/
theorem rename (exact : Exact entry uses ledgers) (c : κ) (new : ρ → List ι)
    (kept : ∀ r p, (ledgers r p).isSome → (p ∈ new r ↔ p ∈ uses c r)) :
    Exact entry (Function.update uses c new) ledgers := by
  intro r p list found x
  rw [exact r p list found x]
  by_cases same : x = c
  · subst same
    simp only [Function.update_self, kept r p (Option.isSome_of_eq_some found)]
  · rw [Function.update_of_ne same]

end Exact

end UsageLedger
