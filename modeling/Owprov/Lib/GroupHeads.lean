import Mathlib.Data.Set.Insert

/-!
# Groups with one head

Elements belong to groups, and every group that has an element has exactly one head among
its elements.  The first element of a group has to be its head, a head leaves last, and an
element that is replaced keeps its office or hands it to nobody.
-/

universe u v

namespace GroupHeads

variable {α : Type u} {γ : Type v} (named : γ → Prop) (group : α → γ) (head : α → Prop)

/-- Every named group that has an element has exactly one head. -/
def OneHead (elements : Set α) : Prop :=
  ∀ g, named g → (∃ x ∈ elements, group x = g) → ∃! x, x ∈ elements ∧ group x = g ∧ head x

/-- A new version of an element keeps the office of the old one, unless nobody else is left in
the group, and is the head of a group that it opens. -/
structure Fits (elements : Set α) (old new : α) : Prop where
  stays : named (group old) → head old → group new = group old → head new
  leaves : named (group old) → head old → group new ≠ group old →
    ∀ x ∈ elements, group x = group old → x = old
  opens : named (group new) → (∀ x ∈ elements, group x ≠ group new) → head new

variable {named group head} {elements : Set α}

/-- Only the group and the office of the new version matter. -/
theorem Fits.congr {old new new' : α} (fits : Fits named group head elements old new)
    (sameGroup : group new' = group new) (sameHead : head new' ↔ head new) :
    Fits named group head elements old new' := by
  constructor
  case stays =>
    rw [sameGroup, sameHead]
    exact fits.stays
  case leaves =>
    rw [sameGroup]
    exact fits.leaves
  case opens =>
    rw [sameGroup, sameHead]
    exact fits.opens

theorem OneHead.eq_of_heads (one : OneHead named group head elements) {x y : α}
    (isNamed : named (group x)) (xMem : x ∈ elements) (yMem : y ∈ elements)
    (same : group y = group x) (xHead : head x) (yHead : head y) : y = x := by
  obtain ⟨h, _, unique⟩ := one (group x) isNamed ⟨x, xMem, rfl⟩
  rw [unique x ⟨xMem, rfl, xHead⟩, unique y ⟨yMem, same, yHead⟩]

/-- An element joins a group, as its head exactly when the group is empty. -/
theorem OneHead.insert (one : OneHead named group head elements) {x : α}
    (joins : named (group x) → (head x ↔ ∀ y ∈ elements, group y ≠ group x)) :
    OneHead named group head (Insert.insert x elements) := by
  intro g isNamed inhabited
  by_cases isGroup : group x = g
  · subst isGroup
    by_cases empty : ∀ y ∈ elements, group y ≠ group x
    · refine ⟨x, ⟨Set.mem_insert _ _, rfl, (joins isNamed).mpr empty⟩, ?_⟩
      rintro y ⟨rfl | member, same, _⟩
      · rfl
      · exact absurd same (empty y member)
    · have notHead : ¬ head x := fun isHead => empty ((joins isNamed).mp isHead)
      push Not at empty
      obtain ⟨y, member, same⟩ := empty
      obtain ⟨h, ⟨hMem, hGroup, isHead⟩, unique⟩ := one (group x) isNamed ⟨y, member, same⟩
      refine ⟨h, ⟨Set.mem_insert_of_mem _ hMem, hGroup, isHead⟩, ?_⟩
      rintro z ⟨rfl | zMem, zGroup, zHead⟩
      · exact absurd zHead notHead
      · exact unique z ⟨zMem, zGroup, zHead⟩
  · have before : ∃ y ∈ elements, group y = g := by
      obtain ⟨y, rfl | member, same⟩ := inhabited
      · exact absurd same isGroup
      · exact ⟨y, member, same⟩
    obtain ⟨h, ⟨hMem, hGroup, isHead⟩, unique⟩ := one g isNamed before
    refine ⟨h, ⟨Set.mem_insert_of_mem _ hMem, hGroup, isHead⟩, ?_⟩
    rintro z ⟨rfl | zMem, zGroup, zHead⟩
    · exact absurd zGroup isGroup
    · exact unique z ⟨zMem, zGroup, zHead⟩

/-- An element leaves its group, and a head only when nobody else is there. -/
theorem OneHead.remove (one : OneHead named group head elements) {x : α}
    (last : named (group x) → head x → ∀ y ∈ elements, group y = group x → y = x) :
    OneHead named group head (elements \ {x}) := by
  rintro g isNamed ⟨y, ⟨yMem, apart⟩, same⟩
  obtain ⟨h, ⟨hMem, hGroup, isHead⟩, unique⟩ := one g isNamed ⟨y, yMem, same⟩
  have stays : h ≠ x := by
    rintro rfl
    exact apart (last (hGroup ▸ isNamed) isHead y yMem (same.trans hGroup.symm))
  refine ⟨h, ⟨⟨hMem, stays⟩, hGroup, isHead⟩, ?_⟩
  rintro z ⟨⟨zMem, _⟩, zGroup, zHead⟩
  exact unique z ⟨zMem, zGroup, zHead⟩

/-- An element is replaced by a new version that meets no other head. -/
theorem OneHead.replace_iff (one : OneHead named group head elements) {old new : α}
    (oldMem : old ∈ elements)
    (noRival : named (group new) → head new → ∀ y ∈ elements, group y = group new → head y →
      y = old) :
    OneHead named group head (Insert.insert new (elements \ {old})) ↔
      Fits named group head elements old new := by
  constructor
  · intro after
    have rival : ∀ h ∈ elements, named (group old) → head old → group h = group old → head h →
        h = old :=
      fun h hMem isNamed isHead same hHead => one.eq_of_heads isNamed oldMem hMem same isHead hHead
    constructor
    case stays =>
      intro isNamed isHead same
      obtain ⟨h, ⟨rfl | ⟨hMem, apart⟩, hGroup, hHead⟩, _⟩ :=
        after (group old) isNamed ⟨new, Set.mem_insert _ _, same⟩
      · exact hHead
      · exact absurd (rival h hMem isNamed isHead hGroup hHead) apart
    case leaves =>
      intro isNamed isHead differ x xMem same
      by_contra apart
      obtain ⟨h, ⟨rfl | ⟨hMem, hApart⟩, hGroup, hHead⟩, _⟩ :=
        after (group old) isNamed ⟨x, Set.mem_insert_of_mem _ ⟨xMem, apart⟩, same⟩
      · exact differ hGroup
      · exact hApart (rival h hMem isNamed isHead hGroup hHead)
    case opens =>
      intro isNamed empty
      obtain ⟨h, ⟨rfl | ⟨hMem, _⟩, hGroup, hHead⟩, _⟩ :=
        after (group new) isNamed ⟨new, Set.mem_insert _ _, rfl⟩
      · exact hHead
      · exact absurd hGroup (empty h hMem)
  · intro fits g isNamed inhabited
    have present : ∃ h ∈ Insert.insert new (elements \ {old}), group h = g ∧ head h := by
      by_cases before : ∃ y ∈ elements, group y = g
      · obtain ⟨h, ⟨hMem, hGroup, isHead⟩, _⟩ := one g isNamed before
        by_cases isOld : h = old
        · subst isOld
          subst hGroup
          by_cases same : group new = group h
          · exact ⟨new, Set.mem_insert _ _, same, fits.stays isNamed isHead same⟩
          · obtain ⟨x, rfl | ⟨xMem, apart⟩, xGroup⟩ := inhabited
            · exact absurd xGroup same
            · exact absurd (fits.leaves isNamed isHead same x xMem xGroup) apart
        · exact ⟨h, Set.mem_insert_of_mem _ ⟨hMem, isOld⟩, hGroup, isHead⟩
      · push Not at before
        obtain ⟨x, rfl | ⟨xMem, _⟩, xGroup⟩ := inhabited
        · subst xGroup
          exact ⟨x, Set.mem_insert _ _, rfl, fits.opens isNamed before⟩
        · exact absurd xGroup (before x xMem)
    obtain ⟨h, hMem, hGroup, isHead⟩ := present
    refine ⟨h, ⟨hMem, hGroup, isHead⟩, ?_⟩
    rintro z ⟨zMem, zGroup, zHead⟩
    subst hGroup
    rcases hMem with rfl | ⟨hMem, hApart⟩
    · rcases zMem with rfl | ⟨zMem, zApart⟩
      · rfl
      · exact absurd (noRival isNamed isHead z zMem zGroup zHead) zApart
    · rcases zMem with rfl | ⟨zMem, _⟩
      · exact absurd (noRival (zGroup ▸ isNamed) zHead h hMem zGroup.symm isHead) hApart
      · exact one.eq_of_heads isNamed hMem zMem zGroup isHead zHead

end GroupHeads
