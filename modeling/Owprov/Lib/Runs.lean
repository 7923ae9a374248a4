import Mathlib.Logic.Relation

/-!
# Runs of a system

A system starts in some states and moves by steps.  What holds at the start and is kept by
every step holds in every state that is reached; what no step changes stays the same for as
long as a run goes on.
-/

universe u v

namespace Runs

variable {σ : Type u}

/-- The states that a system reaches. -/
inductive Reachable (start : σ → Prop) (step : σ → σ → Prop) : σ → Prop
  | start {s : σ} : start s → Reachable start step s
  | step {s t : σ} : Reachable start step s → step s t → Reachable start step t

variable {start : σ → Prop} {step step' : σ → σ → Prop}

/-- The rule for invariants. -/
theorem Reachable.invariant {inv : σ → Prop} {s : σ} (reached : Reachable start step s)
    (initially : ∀ s, start s → inv s) (kept : ∀ s t, inv s → step s t → inv t) : inv s := by
  induction reached with
  | start isStart => exact initially _ isStart
  | step _ isStep ih => exact kept _ _ ih isStep

theorem Reachable.mono (weaker : ∀ s t, step s t → step' s t) {s : σ}
    (reached : Reachable start step s) : Reachable start step' s := by
  induction reached with
  | start isStart => exact .start isStart
  | step _ isStep ih => exact .step ih (weaker _ _ isStep)

/-- A run all of whose states have a property. -/
def RunWithin (step : σ → σ → Prop) (alive : σ → Prop) : σ → σ → Prop :=
  Relation.ReflTransGen fun s t => step s t ∧ alive s ∧ alive t

/-- What no step between two such states changes, as long as an invariant holds, is the same at
both ends of a run. -/
theorem RunWithin.constant_of_invariant {α : Type v} {alive inv : σ → Prop} {view : σ → α}
    {s t : σ} (run : RunWithin step alive s t) (initially : inv s)
    (invKept : ∀ s t, inv s → step s t → inv t)
    (kept : ∀ s t, inv s → step s t → alive s → alive t → view t = view s) :
    view t = view s := by
  have both : inv t ∧ view t = view s := by
    induction run with
    | refl => exact ⟨initially, rfl⟩
    | tail _ last ih =>
        exact ⟨invKept _ _ ih.1 last.1,
          (kept _ _ ih.1 last.1 last.2.1 last.2.2).trans ih.2⟩
  exact both.2

theorem RunWithin.constant {α : Type v} {alive : σ → Prop} {view : σ → α} {s t : σ}
    (run : RunWithin step alive s t)
    (kept : ∀ s t, step s t → alive s → alive t → view t = view s) : view t = view s := by
  induction run with
  | refl => rfl
  | tail _ last ih => exact (kept _ _ last.1 last.2.1 last.2.2).trans ih

end Runs
