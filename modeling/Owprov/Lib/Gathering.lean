import Mathlib.Logic.Relation
import Owprov.Lib.OptionLists

/-!
# Gathering along children

A recursion that collects values from a node and from everything below it.  It has a result
once the fuel is enough for the depth, and then the result holds exactly the values of what can
be reached.
-/

namespace Gathering

open OptionLists

variable {α β : Type}

/-- The values of a node and of those below it. -/
def gather (own : α → List β) (children : α → List α) : ℕ → α → Option (List β)
  | 0, _ => none
  | fuel + 1, a => do
      let below ← (children a).mapM (gather own children fuel)
      return own a ++ below.flatten

/-- A node is the other one or below it. -/
def Below (children : α → List α) : α → α → Prop :=
  Relation.ReflTransGen fun a b => b ∈ children a

variable {own : α → List β} {children : α → List α} {fuel : ℕ} {a b : α} {found : List β}

end Gathering
