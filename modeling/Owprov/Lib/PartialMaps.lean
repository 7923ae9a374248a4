import Mathlib.Data.Set.Insert
import Mathlib.Data.Set.Subsingleton
import Mathlib.Order.BooleanAlgebra.Set

/-!
# Maps with optional values

A map is written at one key at a time.  The keys whose value has a property change at that key
only, and so no two values share what is read of them as long as each value that is written
reads like none of the others.
-/

namespace PartialMap

universe u v w

variable {ι : Type u} {α : Type v} {β : Type w}

/-- The keys whose value has a property. -/
def holders (property : α → Prop) (map : ι → Option α) : Set ι :=
  {i | ∃ a, map i = some a ∧ property a}

/-- No two keys have values that read the same. -/
def UniqueBy (read : α → β) (map : ι → Option α) : Prop :=
  ∀ value, (holders (fun a => read a = value) map).Subsingleton

variable {property : α → Prop} {read : α → β} {map : ι → Option α} {i : ι} {a : α}

theorem mem_holders : i ∈ holders property map ↔ ∃ a, map i = some a ∧ property a := Iff.rfl

section Update

variable [DecidableEq ι]

theorem holders_update_of_holds (property : α → Prop) (holds : property a) :
    holders property (Function.update map i (some a)) = insert i (holders property map) := by
  ext j
  rw [Set.mem_insert_iff, mem_holders, mem_holders]
  by_cases same : j = i
  · rw [same, Function.update_self]
    exact ⟨fun _ => Or.inl rfl, fun _ => ⟨a, rfl, holds⟩⟩
  · rw [Function.update_of_ne same]
    exact ⟨Or.inr, fun either => either.resolve_left same⟩

theorem holders_update_of_fails (property : α → Prop) (fails : ¬ property a) :
    holders property (Function.update map i (some a)) = holders property map \ {i} := by
  ext j
  rw [Set.mem_sdiff, Set.mem_singleton_iff, mem_holders, mem_holders]
  by_cases same : j = i
  · rw [same, Function.update_self]
    constructor
    · rintro ⟨b, found, holds⟩
      obtain rfl := Option.some.inj found
      exact absurd holds fails
    · rintro ⟨_, apart⟩
      exact absurd rfl apart
  · rw [Function.update_of_ne same]
    exact ⟨fun holds => ⟨holds, same⟩, fun both => both.1⟩

theorem holders_update_none :
    holders property (Function.update map i none) = holders property map \ {i} := by
  ext j
  rw [Set.mem_sdiff, Set.mem_singleton_iff, mem_holders, mem_holders]
  by_cases same : j = i
  · rw [same, Function.update_self]
    constructor
    · rintro ⟨b, found, _⟩
      cases found
    · rintro ⟨_, apart⟩
      exact absurd rfl apart
  · rw [Function.update_of_ne same]
    exact ⟨fun holds => ⟨holds, same⟩, fun both => both.1⟩

/-- A value is written without a clash exactly when no other key has one that reads the same. -/
theorem UniqueBy.update_some_iff (unique : UniqueBy read map) :
    UniqueBy read (Function.update map i (some a)) ↔
      holders (fun b => read b = read a) map ⊆ {i} := by
  constructor
  · intro written j holds
    have alike := written (read a)
    rw [holders_update_of_holds (fun b => read b = read a) rfl] at alike
    exact alike (Set.mem_insert_of_mem _ holds) (Set.mem_insert _ _)
  · intro apart value
    by_cases same : read a = value
    · rw [holders_update_of_holds (fun b => read b = value) same, ← same]
      exact Set.subsingleton_singleton.anti (Set.insert_subset (Set.mem_singleton _) apart)
    · rw [holders_update_of_fails (fun b => read b = value) same]
      exact (unique value).anti Set.sdiff_subset

theorem UniqueBy.update_none (unique : UniqueBy read map) (i : ι) :
    UniqueBy read (Function.update map i none) := by
  intro value
  rw [holders_update_none]
  exact (unique value).anti Set.sdiff_subset

end Update

end PartialMap
