import Mathlib.Algebra.Order.Ring.Nat
import Mathlib.Tactic.Ring

/-!
# Counting in bytes

A loop whose counter is a byte: `for (i = first; i <= last; i += delta)`.  Where the sum does not
fit, the counter wraps, and a large increment counts down.
-/

namespace ByteSteps

/-- The values of the counter, unless the fuel runs out. -/
def steps (delta last : ℕ) : ℕ → ℕ → Option (List ℕ)
  | 0, _ => none
  | fuel + 1, i =>
      if i ≤ last then
        (steps delta last fuel ((i + delta) % 256)).map fun rest => i :: rest
      else
        some []

/-- The values of the counter without a loop: up from the first one, or down for an increment that
makes the counter wrap. -/
def Reaches (delta last first value : ℕ) : Prop :=
  if delta + last ≤ 255 then
    value ≤ last ∧ ∃ k, value = first + k * delta
  else
    ∃ k, first = value + k * (256 - delta)

variable {delta last : ℕ}

theorem exists_steps_up (positive : 0 < delta) (fits : delta + last ≤ 255) :
    ∀ fuel i : ℕ, 0 < fuel → last + 2 ≤ i + fuel → i ≤ last + delta →
      ∃ values, steps delta last fuel i = some values ∧
        ∀ value, value ∈ values ↔ value ≤ last ∧ ∃ k, value = i + k * delta := by
  intro fuel
  induction fuel with
  | zero => exact fun i none => absurd none (Nat.lt_irrefl 0)
  | succ fuel ih =>
      intro i _ enough small
      rw [steps]
      by_cases inside : i ≤ last
      · rw [if_pos inside, Nat.mod_eq_of_lt (by omega)]
        obtain ⟨values, found, member⟩ :=
          ih (i + delta) (by omega) (by omega) (by omega)
        refine ⟨i :: values, by rw [found]; rfl, fun value => ?_⟩
        rw [List.mem_cons, member]
        constructor
        · rintro (rfl | ⟨bounded, k, rfl⟩)
          · exact ⟨inside, 0, by omega⟩
          · exact ⟨bounded, k + 1, by ring⟩
        · rintro ⟨bounded, k, rfl⟩
          cases k with
          | zero => exact .inl (by omega)
          | succ k => exact .inr ⟨bounded, k, by ring⟩
      · rw [if_neg inside]
        refine ⟨[], rfl, fun value => ?_⟩
        constructor
        · exact fun member => (List.not_mem_nil member).elim
        · rintro ⟨bounded, k, rfl⟩
          omega

theorem exists_steps_down (byte : delta ≤ 255) (wraps : 255 < delta + last) (small : last ≤ 127) :
    ∀ fuel i : ℕ, i + 2 ≤ fuel → i ≤ last →
      ∃ values, steps delta last fuel i = some values ∧
        ∀ value, value ∈ values ↔ ∃ k, i = value + k * (256 - delta) := by
  intro fuel
  induction fuel with
  | zero => exact fun i none => absurd none (by omega)
  | succ fuel ih =>
      intro i enough inside
      rw [steps, if_pos inside]
      by_cases goesOn : 256 - delta ≤ i
      · have wrapped : (i + delta) % 256 = i - (256 - delta) := by omega
        rw [wrapped]
        obtain ⟨values, found, member⟩ :=
          ih (i - (256 - delta)) (by omega) (by omega)
        refine ⟨i :: values, by rw [found]; rfl, fun value => ?_⟩
        rw [List.mem_cons, member]
        constructor
        · rintro (rfl | ⟨k, later⟩)
          · exact ⟨0, by omega⟩
          · exact ⟨k + 1, by rw [Nat.succ_mul]; omega⟩
        · rintro ⟨k, isValue⟩
          cases k with
          | zero => exact .inl (by omega)
          | succ k => exact .inr ⟨k, by rw [Nat.succ_mul] at isValue; omega⟩
      · -- the next value is beyond the last one
        have beyond : ¬ (i + delta) % 256 ≤ last := by omega
        cases fuel with
        | zero => omega
        | succ fuel =>
            rw [steps, if_neg beyond]
            refine ⟨[i], rfl, fun value => ?_⟩
            rw [List.mem_singleton]
            constructor
            · rintro rfl
              exact ⟨0, by omega⟩
            · rintro ⟨k, isValue⟩
              cases k with
              | zero => omega
              | succ k =>
                  rw [Nat.succ_mul] at isValue
                  omega

/-- The loop ends, and its values are those that are reached. -/
theorem exists_steps (positive : 0 < delta) (byte : delta ≤ 255) (small : last ≤ 127) {first : ℕ}
    (inside : first ≤ last) :
    ∃ values, steps delta last 256 first = some values ∧
      ∀ value, value ∈ values ↔ Reaches delta last first value := by
  unfold Reaches
  by_cases fits : delta + last ≤ 255
  · obtain ⟨values, found, member⟩ :=
      exists_steps_up positive fits 256 first (by omega) (by omega) (by omega)
    exact ⟨values, found, fun value => by rw [member, if_pos fits]⟩
  · obtain ⟨values, found, member⟩ :=
      exists_steps_down byte (by omega) small 256 first (by omega) inside
    exact ⟨values, found, fun value => by rw [member, if_neg fits]⟩

theorem Reaches.le {first value : ℕ} (inside : first ≤ last)
    (reaches : Reaches delta last first value) : value ≤ last := by
  unfold Reaches at reaches
  split at reaches
  · exact reaches.1
  · obtain ⟨k, isFirst⟩ := reaches
    omega

theorem reaches_first {first : ℕ} (inside : first ≤ last) : Reaches delta last first first := by
  unfold Reaches
  split
  · exact ⟨inside, 0, by omega⟩
  · exact ⟨0, by omega⟩

end ByteSteps
