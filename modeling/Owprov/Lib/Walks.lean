import Mathlib.Computability.StateTransition

/-!
# Walks along a partial function

A recursion that goes on with at most one argument walks along a partial function.  What it
visits is what the function reaches.
-/

namespace Walks

open StateTransition

universe u

variable {α : Type u}

/-- What a walk visits with some fuel. -/
def walk (next : α → Option α) : ℕ → α → List α
  | 0, _ => []
  | fuel + 1, a =>
      match next a with
      | none => [a]
      | some b => a :: walk next fuel b

variable {next other : α → Option α} {a b : α}

theorem walk_succ (next : α → Option α) (fuel : ℕ) (a : α) :
    walk next (fuel + 1) a = a :: ((next a).map (walk next fuel)).getD [] := by
  rw [walk]
  cases next a <;> rfl

/-- Two functions that agree along the walk of one of them walk alike. -/
theorem reaches_congr (agree : ∀ x, Reaches next a x → next x = other x) :
    Reaches next a b ↔ Reaches other a b := by
  constructor
  · intro reached
    induction reached with
    | refl => exact .refl
    | tail before isNext ih => exact ih.tail (agree _ before ▸ isNext)
  · intro reached
    induction reached with
    | refl => exact .refl
    | tail _ isNext ih => exact ih.tail (show _ ∈ next _ from agree _ ih ▸ isNext)

end Walks
