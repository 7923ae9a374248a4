import Owprov.Lib.Table

/-!
# Back-references

The rows of a table list entries, and a write takes one entry back from a row, or removes a row
with all that it lists.  A bound for every key says how often its row may list the entry, so that
nothing is left of it after some writes: each of them raises the bound where it takes from.
-/

namespace RowTable

universe u v w

namespace Table

variable {α : Type u} {κ : Type v} {ε : Type w} [Keyed α κ] [DecidableEq κ] [DecidableEq ε]

/-- Every row lists an entry at most as often as its key allows. -/
def ListsAtMost (bound : κ → ℕ) (table : Table α) (entries : α → List ε) (e : ε) : Prop :=
  ∀ row ∈ table.rows, (entries row).count e ≤ bound (key row)

variable {bound : κ → ℕ} {table : Table α} {entries : α → List ε} {e : ε}

end Table

end RowTable
