import Mathlib.Data.List.Infix
import Mathlib.Data.List.TakeWhile
import Mathlib.Data.Nat.Digits.Defs

/-!
# Numbers as digits of a fixed width

A number below `b ^ width` is the list of its `width` digits, the highest one first.  The numbers
whose digits start with given ones form an interval, and reversing the digits is a bijection that
turns a start into an end.
-/

namespace FixedDigits

/-- The lowest `width` digits of a number, the highest one first. -/
def fixedDigits (b : ℕ) : ℕ → ℕ → List ℕ
  | 0, _ => []
  | width + 1, n => fixedDigits b width (n / b) ++ [n % b]

/-- The number of a list of digits. -/
def valueOf (b : ℕ) (digits : List ℕ) : ℕ :=
  digits.foldl (fun value digit => b * value + digit) 0

section Digits

variable {b width n : ℕ}

@[simp] theorem length_fixedDigits (b width n : ℕ) : (fixedDigits b width n).length = width := by
  induction width generalizing n with
  | zero => rfl
  | succ width ih => rw [fixedDigits, List.length_append, ih, List.length_singleton]

theorem lt_of_mem_fixedDigits (positive : 0 < b) {digit : ℕ}
    (member : digit ∈ fixedDigits b width n) : digit < b := by
  induction width generalizing n with
  | zero => cases member
  | succ width ih =>
      rcases List.mem_append.mp member with higher | lowest
      · exact ih higher
      · rw [List.mem_singleton.mp lowest]
        exact Nat.mod_lt n positive

theorem valueOf_append_singleton (digits : List ℕ) (digit : ℕ) :
    valueOf b (digits ++ [digit]) = b * valueOf b digits + digit := by
  rw [valueOf, List.foldl_append]
  rfl

theorem valueOf_append (digits more : List ℕ) :
    valueOf b (digits ++ more) = valueOf b digits * b ^ more.length + valueOf b more := by
  induction more using List.reverseRecOn with
  | nil => simp [valueOf]
  | append_singleton more digit ih =>
      rw [← List.append_assoc, valueOf_append_singleton, ih, valueOf_append_singleton,
        List.length_append, List.length_singleton, pow_succ]
      ring

theorem valueOf_replicate_zero (count : ℕ) : valueOf b (List.replicate count 0) = 0 := by
  induction count with
  | zero => rfl
  | succ count ih => rw [List.replicate_succ', valueOf_append_singleton, ih, Nat.mul_zero]

theorem valueOf_fixedDigits (b width n : ℕ) : valueOf b (fixedDigits b width n) = n % b ^ width := by
  induction width generalizing n with
  | zero => rw [pow_zero, Nat.mod_one]; rfl
  | succ width ih =>
      rw [fixedDigits, valueOf_append_singleton, ih, pow_succ', Nat.mod_mul, Nat.add_comm]

theorem valueOf_lt {digits : List ℕ} (bounded : ∀ digit ∈ digits, digit < b) :
    valueOf b digits < b ^ digits.length := by
  induction digits using List.reverseRecOn with
  | nil => exact Nat.one_pos
  | append_singleton digits digit ih =>
      have lowest : digit < b := bounded digit (by simp)
      have higher := ih fun other member => bounded other (List.mem_append_left _ member)
      rw [valueOf_append_singleton, List.length_append, List.length_singleton, pow_succ']
      calc
        b * valueOf b digits + digit < b * valueOf b digits + b := by omega
        _ = b * (valueOf b digits + 1) := (Nat.mul_succ b _).symm
        _ ≤ b * b ^ digits.length := Nat.mul_le_mul_left b higher

theorem fixedDigits_valueOf {digits : List ℕ} (bounded : ∀ digit ∈ digits, digit < b) :
    fixedDigits b digits.length (valueOf b digits) = digits := by
  induction digits using List.reverseRecOn with
  | nil => rfl
  | append_singleton digits digit ih =>
      have lowest : digit < b := bounded digit (by simp)
      have positive : 0 < b := by omega
      have higher := ih fun other member => bounded other (List.mem_append_left _ member)
      rw [List.length_append, List.length_singleton, valueOf_append_singleton, fixedDigits,
        Nat.mul_add_div positive, Nat.div_eq_of_lt lowest, Nat.add_zero, higher,
        Nat.mul_add_mod, Nat.mod_eq_of_lt lowest]

theorem valueOf_injective {first second : List ℕ} (same : first.length = second.length)
    (boundedFirst : ∀ digit ∈ first, digit < b) (boundedSecond : ∀ digit ∈ second, digit < b) :
    valueOf b first = valueOf b second ↔ first = second := by
  constructor
  · intro values
    rw [← fixedDigits_valueOf boundedFirst, values, same, fixedDigits_valueOf boundedSecond]
  · rintro rfl
    rfl

/-- The digits from the highest down to a place are those of a quotient. -/
theorem fixedDigits_add (b first rest n : ℕ) :
    fixedDigits b (first + rest) n =
      fixedDigits b first (n / b ^ rest) ++ fixedDigits b rest n := by
  induction rest generalizing n with
  | zero => simp [fixedDigits]
  | succ rest ih =>
      rw [← Nat.add_assoc, fixedDigits, ih, fixedDigits, Nat.div_div_eq_div_mul, ← pow_succ',
        List.append_assoc]

theorem fixedDigits_eq_range (b width n : ℕ) :
    fixedDigits b width n = (List.range width).map fun i => n / b ^ (width - 1 - i) % b := by
  induction width generalizing n with
  | zero => rfl
  | succ width ih =>
      rw [fixedDigits, ih, List.range_succ, List.map_append, List.map_singleton]
      congr 1
      · apply List.map_congr_left
        intro i member
        have below : i < width := List.mem_range.mp member
        have places : width + 1 - 1 - i = (width - 1 - i) + 1 := by omega
        rw [places, Nat.div_div_eq_div_mul, pow_succ']
      · simp

/-- The digits of a number start with given ones exactly when it lies in their interval. -/
theorem isPrefix_fixedDigits_iff {digits : List ℕ} {rest : ℕ}
    (bounded : ∀ digit ∈ digits, digit < b) (small : n < b ^ (digits.length + rest)) :
    digits <+: fixedDigits b (digits.length + rest) n ↔
      valueOf b digits * b ^ rest ≤ n ∧ n < (valueOf b digits + 1) * b ^ rest := by
  have positive : 0 < b ^ rest := by
    rcases Nat.eq_zero_or_pos (b ^ rest) with zero | positive
    · rw [pow_add, zero, Nat.mul_zero] at small
      exact absurd small (Nat.not_lt_zero n)
    · exact positive
  have start : digits <+: fixedDigits b (digits.length + rest) n ↔
      digits = fixedDigits b digits.length (n / b ^ rest) := by
    rw [fixedDigits_add, List.prefix_iff_eq_take, List.take_left' (length_fixedDigits b _ _)]
  have value : digits = fixedDigits b digits.length (n / b ^ rest) ↔
      n / b ^ rest = valueOf b digits := by
    have quotient : n / b ^ rest < b ^ digits.length := by
      rw [Nat.div_lt_iff_lt_mul positive, ← pow_add]
      exact small
    constructor
    · intro same
      have values := congrArg (valueOf b) same
      rw [valueOf_fixedDigits, Nat.mod_eq_of_lt quotient] at values
      exact values.symm
    · intro same
      rw [same, fixedDigits_valueOf bounded]
  have multiple : (valueOf b digits + 1) * b ^ rest = valueOf b digits * b ^ rest + b ^ rest :=
    Nat.succ_mul _ _
  rw [start, value, Nat.div_eq_iff positive, multiple]
  omega

/-! ## Reversed digits -/

/-- The number whose digits are those of another one in reverse. -/
def reverseDigits (b width n : ℕ) : ℕ :=
  valueOf b (fixedDigits b width n).reverse

theorem reverse_fixedDigits_lt (positive : 0 < b) (width n : ℕ) :
    ∀ digit ∈ (fixedDigits b width n).reverse, digit < b :=
  fun _ member => lt_of_mem_fixedDigits positive (List.mem_reverse.mp member)

theorem reverseDigits_lt (positive : 0 < b) (width n : ℕ) : reverseDigits b width n < b ^ width := by
  have bound := valueOf_lt (reverse_fixedDigits_lt positive width n)
  rwa [List.length_reverse, length_fixedDigits] at bound

theorem fixedDigits_reverseDigits (positive : 0 < b) (width n : ℕ) :
    fixedDigits b width (reverseDigits b width n) = (fixedDigits b width n).reverse := by
  have digits := fixedDigits_valueOf (reverse_fixedDigits_lt positive width n)
  rwa [List.length_reverse, length_fixedDigits] at digits

theorem reverseDigits_reverseDigits (positive : 0 < b) (small : n < b ^ width) :
    reverseDigits b width (reverseDigits b width n) = n := by
  rw [reverseDigits, fixedDigits_reverseDigits positive, List.reverse_reverse, valueOf_fixedDigits,
    Nat.mod_eq_of_lt small]

theorem reverseDigits_injective (positive : 0 < b) {m : ℕ} (small : n < b ^ width)
    (smallOther : m < b ^ width) (same : reverseDigits b width n = reverseDigits b width m) :
    n = m := by
  rw [← reverseDigits_reverseDigits positive small, same,
    reverseDigits_reverseDigits positive smallOther]

theorem reverseDigits_valueOf {digits : List ℕ} (bounded : ∀ digit ∈ digits, digit < b) :
    reverseDigits b digits.length (valueOf b digits) = valueOf b digits.reverse := by
  rw [reverseDigits, fixedDigits_valueOf bounded]

end Digits

/-! ## Searching an interval in a sorted list -/

/-- The numbers of an interval stand together after its lower bound. -/
theorem takeWhile_dropWhile_eq_filter {numbers : List ℕ} {inside : ℕ → Bool} {low high : ℕ}
    (sorted : numbers.Pairwise (· < ·))
    (interval : ∀ n ∈ numbers, inside n = true ↔ low ≤ n ∧ n < high) :
    (numbers.dropWhile fun n => decide (n < low)).takeWhile inside = numbers.filter inside := by
  induction numbers with
  | nil => rfl
  | cons n numbers ih =>
      rw [List.pairwise_cons] at sorted
      have later := ih sorted.2 fun m member => interval m (List.mem_cons_of_mem n member)
      have here := interval n List.mem_cons_self
      by_cases below : n < low
      · have outside : ¬ inside n = true := fun isInside => by
          have := (here.mp isInside).1
          omega
        rw [List.dropWhile_cons_of_pos (by simpa using below), later,
          List.filter_cons_of_neg outside]
      · have kept : (numbers.dropWhile fun m => decide (m < low)) = numbers := by
          rw [List.dropWhile_eq_self_iff]
          intro nonempty
          have larger := sorted.1 _ (List.getElem_mem (by simpa using nonempty : 0 < numbers.length))
          simp only [decide_eq_true_eq]
          omega
        rw [List.dropWhile_cons_of_neg (by simpa using below)]
        by_cases isInside : inside n = true
        · rw [List.takeWhile_cons_of_pos isInside, List.filter_cons_of_pos isInside, ← later, kept]
        · have above : high ≤ n := by
            by_contra under
            exact isInside (here.mpr ⟨by omega, by omega⟩)
          have outside : ∀ m ∈ n :: numbers, ¬ inside m = true := by
            intro m member isIn
            have under := ((interval m member).mp isIn).2
            rcases List.mem_cons.mp member with rfl | isLater
            · omega
            · have larger := sorted.1 m isLater
              omega
          rw [List.takeWhile_cons_of_neg isInside, List.filter_eq_nil_iff.mpr outside]

end FixedDigits
