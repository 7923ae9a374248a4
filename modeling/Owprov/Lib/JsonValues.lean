import Mathlib.Data.List.Basic
import Mathlib.Data.Int.Notation

/-!
# JSON values

The values that a JSON text stands for.  The members of an object are kept in the order of
their names, as an ordered map of them does.
-/

namespace JsonValues

/-- A JSON value; its numbers are integers. -/
inductive Value where
  | null
  | bool (value : Bool)
  | num (value : ℤ)
  | str (text : String)
  | arr (items : List Value)
  | obj (members : List (String × Value))

/-- Induction over the parts of a value: the items of an array and the members of an object. -/
theorem Value.parts_induction {P : Value → Prop}
    (plain : ∀ value, (∀ items, value ≠ .arr items) → (∀ members, value ≠ .obj members) → P value)
    (arr : ∀ items, (∀ item ∈ items, P item) → P (.arr items))
    (obj : ∀ members, (∀ member ∈ members, P member.2) → P (.obj members)) (value : Value) :
    P value :=
  match value with
  | .arr items => arr items fun item _ => Value.parts_induction plain arr obj item
  | .obj members => obj members fun member _ => Value.parts_induction plain arr obj member.2
  | .null => plain .null (fun _ => nofun) fun _ => nofun
  | .bool b => plain (.bool b) (fun _ => nofun) fun _ => nofun
  | .num n => plain (.num n) (fun _ => nofun) fun _ => nofun
  | .str text => plain (.str text) (fun _ => nofun) fun _ => nofun
termination_by sizeOf value
decreasing_by
  · have smaller := List.sizeOf_lt_of_mem ‹item ∈ items›
    simp only [Value.arr.sizeOf_spec]
    omega
  · have smaller := List.sizeOf_lt_of_mem ‹member ∈ members›
    obtain ⟨name, part⟩ := member
    simp only [Value.obj.sizeOf_spec, Prod.mk.sizeOf_spec] at smaller ⊢
    omega

/-- The members of an object. -/
abbrev Members := List (String × Value)

namespace Members

/-- A member is set under its name, in the place of an older one of that name. -/
def set (members : Members) (name : String) (value : Value) : Members :=
  match members with
  | [] => [(name, value)]
  | (other, old) :: rest =>
      if name = other then (name, value) :: rest
      else if name < other then (name, value) :: (other, old) :: rest
      else (other, old) :: set rest name value

theorem lookup_cons (name other : String) (value : Value) (rest : Members) :
    List.lookup other ((name, value) :: rest) =
      if other = name then some value else rest.lookup other := by
  rw [List.lookup_cons]
  by_cases same : other = name
  · simp [same]
  · rw [if_neg same, beq_eq_false_iff_ne.mpr same]

theorem lookup_set (members : Members) (name other : String) (value : Value) :
    (members.set name value).lookup other =
      if other = name then some value else members.lookup other := by
  induction members with
  | nil => rw [set, lookup_cons]
  | cons member rest ih =>
      obtain ⟨first, old⟩ := member
      unfold set
      by_cases sameFirst : name = first
      · rw [if_pos sameFirst, lookup_cons, lookup_cons, ← sameFirst]
        split <;> rfl
      · rw [if_neg sameFirst]
        by_cases before : name < first
        · rw [if_pos before, lookup_cons]
        · rw [if_neg before, lookup_cons, lookup_cons, ih]
          by_cases same : other = name
          · subst same
            rw [if_neg sameFirst, if_pos rfl, if_pos rfl]
          · simp only [if_neg same]

@[simp]
theorem lookup_set_self (members : Members) (name : String) (value : Value) :
    (members.set name value).lookup name = some value := by
  rw [lookup_set, if_pos rfl]

theorem lookup_set_of_ne (members : Members) {name other : String} (differ : other ≠ name)
    (value : Value) : (members.set name value).lookup other = members.lookup other := by
  rw [lookup_set, if_neg differ]

end Members

end JsonValues
