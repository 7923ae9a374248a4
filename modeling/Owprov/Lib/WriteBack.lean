import Mathlib.Logic.Relation
import Owprov.Lib.TableView

/-!
# Tables whose rows are written back from copies

Rows are copied out of a table, and a copy may be written back later, when the row in the
table has changed or is gone.  A view of the rows is immutable when a copy that is written
back, perhaps with other columns changed, shows the view that it was copied with, and new rows
get keys that no row and no copy has.
-/

namespace RowTable

universe u v w

namespace Table

variable {α : Type u} {κ : Type v} {β : Type w} [Keyed α κ] [DecidableEq κ]

/-- A single write: a row with a fresh key and a valid view, a row or a held copy with its view
unchanged, or a deletion. -/
inductive Write (view : α → β) (valid : β → Prop) (held : α → Prop) (fresh : κ → Prop) :
    Table α → Table α → Prop
  | insert {table table' : Table α} {row : α} :
      fresh (key row) → valid (view row) → table.insert? row = some table' →
      Write view valid held fresh table table'
  | update {table : Table α} {copy new : α} :
      copy ∈ table.rows ∨ held copy → key new = key copy → view new = view copy →
      Write view valid held fresh table (table.update new)
  | delete {table : Table α} (k : κ) : Write view valid held fresh table (table.delete k)

/-- The rows and the copies with one key show one view, and it is valid. -/
structure Agreed (view : α → β) (valid : β → Prop) (held : α → Prop) (table : Table α) :
    Prop where
  valid : ∀ row, row ∈ table.rows ∨ held row → valid (view row)
  equal : ∀ row row', row ∈ table.rows ∨ held row → row' ∈ table.rows ∨ held row' →
    key row = key row' → view row = view row'

variable {view : α → β} {valid : β → Prop} {held held' : α → Prop} {fresh : κ → Prop}
    {table table' : Table α}

omit [DecidableEq κ] in
/-- Fewer copies agree as well. -/
theorem Agreed.mono (agreed : Agreed view valid held table)
    (fewer : ∀ row, held' row → row ∈ table.rows ∨ held row) : Agreed view valid held' table where
  valid row known := agreed.valid row (known.elim Or.inl (fewer row))
  equal row row' known known' :=
    agreed.equal row row' (known.elim Or.inl (fewer row)) (known'.elim Or.inl (fewer row'))

/-- What is known after a write: a row or copy of before, or a new row. -/
theorem Write.origin (write : Write view valid held fresh table table') {row : α}
    (known : row ∈ table'.rows ∨ held row) :
    (∃ copy, (copy ∈ table.rows ∨ held copy) ∧ key row = key copy ∧ view row = view copy) ∨
      (row ∈ table'.rows ∧ fresh (key row) ∧ valid (view row) ∧ table.get? (key row) = none) := by
  rcases known with member | isHeld
  · cases write with
    | insert isFresh isValid inserted =>
        rcases (mem_rows_insert? inserted).mp member with old | rfl
        · exact Or.inl ⟨row, Or.inl old, rfl, rfl⟩
        · exact Or.inr ⟨member, isFresh, isValid, get?_key_of_insert? inserted⟩
    | update known sameKey sameView =>
        rcases mem_rows_update member with rfl | old
        · exact Or.inl ⟨_, known, sameKey, sameView⟩
        · exact Or.inl ⟨row, Or.inl old, rfl, rfl⟩
    | delete k => exact Or.inl ⟨row, Or.inl (mem_rows_delete.mp member).1, rfl, rfl⟩
  · exact Or.inl ⟨row, Or.inr isHeld, rfl, rfl⟩

theorem Agreed.write (agreed : Agreed view valid held table)
    (apart : ∀ row, held row → ¬ fresh (key row))
    (write : Write view valid held fresh table table') : Agreed view valid held table' := by
  have noCopy : ∀ row copy : α, fresh (key row) → table.get? (key row) = none →
      (copy ∈ table.rows ∨ held copy) → key row ≠ key copy := by
    intro row copy isFresh free known sameKey
    rcases known with member | isHeld
    · rw [sameKey, get?_key_of_mem member] at free
      cases free
    · exact apart copy isHeld (sameKey ▸ isFresh)
  constructor
  case valid =>
    intro row known
    rcases write.origin known with ⟨copy, isCopy, _, views⟩ | ⟨_, _, isValid, _⟩
    · rw [views]
      exact agreed.valid copy isCopy
    · exact isValid
  case equal =>
    intro row row' known known' sameKey
    rcases write.origin known with ⟨copy, isCopy, keys, views⟩ | ⟨member, isFresh, _, free⟩
    · rcases write.origin known' with ⟨copy', isCopy', keys', views'⟩ | ⟨_, isFresh', _, free'⟩
      · rw [views, views']
        exact agreed.equal copy copy' isCopy isCopy' (by rw [← keys, ← keys', sameKey])
      · exact absurd (sameKey.symm.trans keys) (noCopy row' copy isFresh' free' isCopy)
    · rcases write.origin known' with ⟨copy', isCopy', keys', _⟩ | ⟨member', _, _, _⟩
      · exact absurd (sameKey.trans keys') (noCopy row copy' isFresh free isCopy')
      · rw [List.inj_on_of_nodup_map table'.distinct member member' sameKey]

theorem Agreed.writes (agreed : Agreed view valid held table)
    (apart : ∀ row, held row → ¬ fresh (key row))
    (writes : Relation.ReflTransGen (Write view valid held fresh) table table') :
    Agreed view valid held table' := by
  induction writes with
  | refl => exact agreed
  | tail _ last ih => exact ih.write apart last

/-- A row that is in the table after some writes was copied from a row of before or from a
copy, or is new. -/
theorem Write.origins
    (writes : Relation.ReflTransGen (Write view valid held fresh) table table') {row : α}
    (member : row ∈ table'.rows) :
    (∃ copy, (copy ∈ table.rows ∨ held copy) ∧ key row = key copy ∧ view row = view copy) ∨
      fresh (key row) := by
  induction writes generalizing row with
  | refl => exact Or.inl ⟨row, Or.inl member, rfl, rfl⟩
  | tail _ last ih =>
      rcases last.origin (Or.inl member) with ⟨copy, known, keys, views⟩ | ⟨_, isFresh, _, _⟩
      · rcases known with isRow | isHeld
        · rcases ih isRow with ⟨first, isFirst, keys', views'⟩ | isFresh
          · exact Or.inl ⟨first, isFirst, keys.trans keys', views.trans views'⟩
          · exact Or.inr (keys ▸ isFresh)
        · exact Or.inl ⟨copy, Or.inr isHeld, keys, views⟩
      · exact Or.inr isFresh

/-- Writes keep the view of every row that stays. -/
theorem Agreed.keepsView (agreed : Agreed view valid held table)
    (unused : ∀ row ∈ table.rows, ¬ fresh (key row))
    (writes : Relation.ReflTransGen (Write view valid held fresh) table table') :
    KeepsView view table table' := by
  intro k row row' before after
  have member := mem_of_get? before
  have keys : key row' = key row := (key_of_get? after).trans (key_of_get? before).symm
  rcases Write.origins writes (mem_of_get? after) with ⟨copy, known, sameKey, views⟩ | isFresh
  · rw [views]
    exact agreed.equal copy row known (Or.inl member) (sameKey.symm.trans keys)
  · exact absurd (keys ▸ isFresh) (unused row member)

end Table

end RowTable
