import Mathlib.Data.Nat.Bitwise
import Mathlib.Tactic.Ring

/-!
# Numbers written as words

A number is written as a list of words of one width, the most significant word first.  The
leading bits of two such numbers agree when the leading words do and, under a mask, the word
that the last bit falls into.
-/

namespace WordNumbers

variable {w : ℕ}

/-- The number that a list of words spells. -/
def number : List (BitVec w) → ℕ
  | [] => 0
  | first :: rest => first.toNat * 2 ^ (w * rest.length) + number rest

end WordNumbers
