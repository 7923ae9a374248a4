import Mathlib.Data.List.Basic

/-!
# Folds that keep what they reached

A loop over a list that ends with the first step that fails, and keeps the state that the steps
before it reached.
-/

namespace StoppedFold

universe u v w

variable {σ : Type u} {α : Type v} {ε : Type w}

/-- The state that is reached, and the failure that ended the loop. -/
def run (step : σ → α → Except ε σ) : σ → List α → σ × Option ε
  | state, [] => (state, none)
  | state, item :: items =>
      match step state item with
      | .ok next => run step next items
      | .error failure => (state, some failure)

variable {step : σ → α → Except ε σ} {state next : σ} {item : α} {items : List α} {failure : ε}

theorem run_cons_ok (stepped : step state item = .ok next) :
    run step state (item :: items) = run step next items := by
  rw [run, stepped]

theorem run_cons_error (failed : step state item = .error failure) :
    run step state (item :: items) = (state, some failure) := by
  rw [run, failed]

/-- What every step that is taken keeps holds of the state that is reached. -/
theorem run_invariant (P : σ → Prop) (start : P state)
    (keeps : ∀ s, P s → ∀ item ∈ items, ∀ t, step s item = .ok t → P t) :
    P (run step state items).1 := by
  induction items generalizing state with
  | nil => exact start
  | cons item items ih =>
      cases stepped : step state item with
      | error failure =>
          rw [run_cons_error stepped]
          exact start
      | ok next =>
          rw [run_cons_ok stepped]
          refine ih (keeps state start item (by simp) next stepped) fun s holds other member => ?_
          exact keeps s holds other (List.mem_cons_of_mem item member)

end StoppedFold
