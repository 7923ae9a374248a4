import Mathlib.Data.List.Basic

/-!
# Comparing two computations

One computation settles what another one gives: a value, and a failure of a settled kind, is
then the result of the other one too.  A failure of another kind says nothing about it.
-/

namespace SettledResults

universe u v w

variable {ε : Type u} {α : Type v} {β : Type v} {settled : ε → Prop}

/-- What the first computation gives is also given by the second one, unless it is a failure of
a kind that is not settled. -/
def Settles (settled : ε → Prop) (first second : Except ε α) : Prop :=
  match first with
  | .ok value => second = .ok value
  | .error failure => settled failure → second = .error failure

@[simp]
theorem settles_ok {value : α} {second : Except ε α} :
    Settles settled (.ok value) second ↔ second = .ok value :=
  Iff.rfl

@[simp]
theorem settles_error {failure : ε} {second : Except ε α} :
    Settles settled (.error failure) second ↔ (settled failure → second = .error failure) :=
  Iff.rfl

theorem Settles.refl (result : Except ε α) : Settles settled result result := by
  cases result with
  | ok value => rfl
  | error failure => exact fun _ => rfl

theorem settles_of_unsettled {failure : ε} (unsettled : ¬settled failure)
    (second : Except ε α) : Settles settled (.error failure) second :=
  fun isSettled => absurd isSettled unsettled

theorem Settles.eq_ok {first second : Except ε α} {value : α} (settles : Settles settled first second)
    (gives : first = .ok value) : second = .ok value := by
  rw [gives] at settles
  exact settles

theorem Settles.bind {first second : Except ε α} {firstNext secondNext : α → Except ε β}
    (settles : Settles settled first second)
    (next : ∀ value, Settles settled (firstNext value) (secondNext value)) :
    Settles settled (first >>= firstNext) (second >>= secondNext) := by
  cases first with
  | ok value =>
      rw [settles_ok.mp settles]
      exact next value
  | error failure =>
      intro isSettled
      rw [settles_error.mp settles isSettled]
      rfl

theorem Settles.foldlM {σ : Type v} {item : Type w} {first second : σ → item → Except ε σ}
    (items : List item) (state : σ)
    (settles : ∀ s, ∀ i ∈ items, Settles settled (first s i) (second s i)) :
    Settles settled (items.foldlM first state) (items.foldlM second state) := by
  induction items generalizing state with
  | nil => exact Settles.refl _
  | cons head items ih =>
      rw [List.foldlM_cons, List.foldlM_cons]
      refine (settles state head List.mem_cons_self).bind fun next => ?_
      exact ih next fun s i member => settles s i (List.mem_cons_of_mem head member)

/-! ## Failures that do not happen -/

section Avoiding

variable {failure : ε}

theorem bind_ne_error {first : Except ε α} {next : α → Except ε β}
    (start : first ≠ .error failure)
    (rest : ∀ value, first = .ok value → next value ≠ .error failure) :
    first >>= next ≠ .error failure := by
  cases first with
  | ok value => exact rest value rfl
  | error other =>
      intro failed
      exact start (congrArg Except.error (Except.error.inj failed))

theorem foldlM_ne_error {σ : Type v} {item : Type w} {step : σ → item → Except ε σ}
    (items : List item) (state : σ)
    (avoids : ∀ s, ∀ i ∈ items, step s i ≠ .error failure) :
    items.foldlM step state ≠ .error failure := by
  induction items generalizing state with
  | nil => rintro ⟨⟩
  | cons head items ih =>
      rw [List.foldlM_cons]
      refine bind_ne_error (avoids state head List.mem_cons_self) fun next _ => ?_
      exact ih next fun s i member => avoids s i (List.mem_cons_of_mem head member)

theorem Settles.ne_error {first second : Except ε α} (settles : Settles (· ≠ failure) first second)
    (avoids : first ≠ .error failure) : second ≠ .error failure := by
  cases first with
  | ok value =>
      rw [settles_ok.mp settles]
      rintro ⟨⟩
  | error other =>
      have differ : other ≠ failure := fun same => avoids (congrArg Except.error same)
      rw [settles_error.mp settles differ]
      exact avoids

end Avoiding

end SettledResults
