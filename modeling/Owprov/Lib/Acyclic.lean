import Mathlib.Data.Finset.Card
import Mathlib.Logic.Relation

/-!
# Acyclic relations and recursion along them

A relation is acyclic when no element reaches itself.  Adding one edge keeps a
relation acyclic as long as the target of the edge does not already reach its source,
which is the condition for moving a subtree.  Along an acyclic relation with finitely
many sources a recursive walk stops, whatever it does at each element.  A recursion that
goes to every target of an element stops exactly where every walk ends.
-/

universe u

namespace AcyclicRelation

variable {α : Type u} {edge other : α → α → Prop}

/-- No element reaches itself. -/
def Acyclic (edge : α → α → Prop) : Prop :=
  ∀ a, ¬ Relation.TransGen edge a a

theorem Acyclic.mono (acyclic : Acyclic edge) (sub : ∀ a b, other a b → edge a b) :
    Acyclic other :=
  fun a cycle => acyclic a (Relation.TransGen.mono sub a a cycle)

theorem Acyclic.swap (acyclic : Acyclic edge) : Acyclic (Function.swap edge) :=
  fun a cycle => acyclic a (Relation.transGen_swap.mp cycle)

/-- A path that may use the new edge either avoids it or uses it once. -/
private theorem transGen_insert {x y a b : α} (apart : ¬ Relation.ReflTransGen edge y x)
    (path : Relation.TransGen (fun a b => edge a b ∨ a = x ∧ b = y) a b) :
    Relation.TransGen edge a b ∨
      Relation.ReflTransGen edge a x ∧ Relation.ReflTransGen edge y b := by
  induction path with
  | single step =>
      rcases step with step | ⟨rfl, rfl⟩
      · exact Or.inl (Relation.TransGen.single step)
      · exact Or.inr ⟨Relation.ReflTransGen.refl, Relation.ReflTransGen.refl⟩
  | tail _ step ih =>
      rcases step with step | ⟨rfl, rfl⟩
      · rcases ih with old | ⟨before, after⟩
        · exact Or.inl (old.tail step)
        · exact Or.inr ⟨before, after.tail step⟩
      · rcases ih with old | ⟨_, after⟩
        · exact Or.inr ⟨old.to_reflTransGen, Relation.ReflTransGen.refl⟩
        · exact absurd after apart

/-- A new edge closes no cycle when its target does not reach its source. -/
theorem Acyclic.insert (acyclic : Acyclic edge) {x y : α}
    (apart : ¬ Relation.ReflTransGen edge y x) :
    Acyclic fun a b => edge a b ∨ a = x ∧ b = y := by
  intro a cycle
  rcases transGen_insert apart cycle with old | ⟨before, after⟩
  · exact acyclic a old
  · exact apart (after.trans before)

/-! ## New edges out of one element -/

section Replace

variable {x : α} {targets : α → Prop}

/-- The edges out of one element are replaced. -/
def replaceEdges (edge : α → α → Prop) (x : α) (targets : α → Prop) (a b : α) : Prop :=
  a = x ∧ targets b ∨ a ≠ x ∧ edge a b

/-- Before it comes to the element a path uses old edges alone. -/
theorem reflTransGen_of_replaceEdges {a : α}
    (path : Relation.ReflTransGen (replaceEdges edge x targets) a x) :
    Relation.ReflTransGen edge a x := by
  induction path using Relation.ReflTransGen.head_induction_on with
  | refl => exact Relation.ReflTransGen.refl
  | head step _ ih =>
      rcases step with ⟨rfl, -⟩ | ⟨-, old⟩
      · exact Relation.ReflTransGen.refl
      · exact Relation.ReflTransGen.head old ih

/-- A path uses old edges alone or goes on from the element to one of the targets. -/
private theorem transGen_replaceEdges {a b : α}
    (path : Relation.TransGen (replaceEdges edge x targets) a b) :
    Relation.TransGen edge a b ∨ ∃ t, targets t ∧
      Relation.ReflTransGen (replaceEdges edge x targets) a x ∧
      Relation.ReflTransGen (replaceEdges edge x targets) t b := by
  induction path with
  | single step =>
      rcases step with ⟨rfl, target⟩ | ⟨-, old⟩
      · exact Or.inr ⟨_, target, Relation.ReflTransGen.refl, Relation.ReflTransGen.refl⟩
      · exact Or.inl (Relation.TransGen.single old)
  | tail before step ih =>
      rcases ih with onlyOld | ⟨t, target, toX, fromT⟩
      · rcases step with ⟨rfl, target⟩ | ⟨-, old⟩
        · exact Or.inr ⟨_, target, before.to_reflTransGen, Relation.ReflTransGen.refl⟩
        · exact Or.inl (onlyOld.tail old)
      · exact Or.inr ⟨t, target, toX, fromT.tail step⟩

/-- New edges out of an element close no cycle when no target reached the element before. -/
theorem Acyclic.replace (acyclic : Acyclic edge)
    (apart : ∀ t, targets t → ¬ Relation.ReflTransGen edge t x) :
    Acyclic (replaceEdges edge x targets) := by
  intro a cycle
  rcases transGen_replaceEdges cycle with old | ⟨t, target, toX, fromT⟩
  · exact acyclic a old
  · exact apart t target (reflTransGen_of_replaceEdges (fromT.trans toX))

end Replace

/-- An element without incoming edges is reached only from itself. -/
theorem eq_of_reflTransGen_of_no_edge {a x : α} (unreached : ∀ b, ¬ edge b x)
    (path : Relation.ReflTransGen edge a x) : a = x := by
  rcases path.cases_tail with equal | ⟨b, _, last⟩
  · exact equal.symm
  · exact absurd last (unreached b)

/-! ## Recursion along an acyclic relation -/

section Rank

variable (edge) (sources : Finset α)

open Classical in
/-- The number of sources an element reaches, itself included. -/
noncomputable def rank (a : α) : ℕ :=
  (sources.filter fun b => Relation.ReflTransGen edge a b).card

theorem rank_le_card (a : α) : rank edge sources a ≤ sources.card := by
  classical
  exact Finset.card_le_card (Finset.filter_subset _ _)

variable {edge sources}

theorem Acyclic.rank_lt (acyclic : Acyclic edge) {a b : α} (source : a ∈ sources)
    (step : edge a b) : rank edge sources b < rank edge sources a := by
  classical
  apply Finset.card_lt_card
  rw [Finset.ssubset_iff_of_subset]
  · refine ⟨a, by simp [source, Relation.ReflTransGen.refl], ?_⟩
    rw [Finset.mem_filter]
    rintro ⟨_, back⟩
    exact acyclic a (Relation.TransGen.head' step back)
  · intro c member
    rw [Finset.mem_filter] at member ⊢
    exact ⟨member.1, Relation.ReflTransGen.head step member.2⟩

/-- A walk that needs one unit of fuel for each element on its way stops when its fuel
exceeds the number of sources. -/
theorem Acyclic.fuel_suffices (acyclic : Acyclic edge)
    (isSource : ∀ a b, edge a b → a ∈ sources) {stops : ℕ → α → Prop}
    (step : ∀ fuel a, (∀ b, edge a b → stops fuel b) → stops (fuel + 1) a) {fuel : ℕ}
    (enough : sources.card < fuel) (a : α) : stops fuel a := by
  have bounded : ∀ fuel a, rank edge sources a < fuel → stops fuel a := by
    intro fuel
    induction fuel with
    | zero => exact fun a impossible => absurd impossible (Nat.not_lt_zero _)
    | succ fuel ih =>
        intro a bound
        apply step
        intro b next
        have smaller := acyclic.rank_lt (isSource a b next) next
        exact ih b (by omega)
  exact bounded fuel a (lt_of_le_of_lt (rank_le_card edge sources a) enough)

/-- Every walk along an acyclic relation with finitely many sources ends. -/
theorem Acyclic.acc (acyclic : Acyclic edge) (isSource : ∀ a b, edge a b → a ∈ sources) (a : α) :
    Acc (Function.swap edge) a := by
  induction bound : rank edge sources a using Nat.strong_induction_on generalizing a with
  | _ n ih =>
      refine ⟨a, fun b next => ih _ ?_ b rfl⟩
      rw [← bound]
      exact acyclic.rank_lt (isSource a b next) next

end Rank

/-! ## Recursion that stops -/

/-- Fuel for each element of a list gives fuel for all of them. -/
theorem exists_fuel_of_forall (ends : ℕ → α → Prop) {items : List α}
    (mono : ∀ fuel more a, fuel ≤ more → ends fuel a → ends more a)
    (each : ∀ a ∈ items, ∃ fuel, ends fuel a) : ∃ fuel, ∀ a ∈ items, ends fuel a := by
  induction items with
  | nil => exact ⟨0, fun _ impossible => absurd impossible List.not_mem_nil⟩
  | cons a items ih =>
      obtain ⟨forHead, head⟩ := each a List.mem_cons_self
      obtain ⟨forTail, tail⟩ := ih fun b member => each b (List.mem_cons_of_mem _ member)
      refine ⟨max forHead forTail, fun b member => ?_⟩
      rcases List.mem_cons.mp member with rfl | later
      · exact mono _ _ b (Nat.le_max_left _ _) head
      · exact mono _ _ b (Nat.le_max_right _ _) (tail b later)

section Stops

variable (edge : α → α → Prop) (stops : ℕ → α → Prop) (zero : ∀ a, ¬ stops 0 a)
  (succ : ∀ fuel a, stops (fuel + 1) a ↔ ∀ b, edge a b → stops fuel b)
include zero succ

theorem stops_succ {fuel : ℕ} {a : α} (ends : stops fuel a) : stops (fuel + 1) a := by
  induction fuel generalizing a with
  | zero => exact absurd ends (zero a)
  | succ fuel ih =>
      rw [succ] at ends ⊢
      exact fun b next => ih (ends b next)

theorem stops_mono {fuel more : ℕ} {a : α} (enough : fuel ≤ more) (ends : stops fuel a) :
    stops more a := by
  induction enough with
  | refl => exact ends
  | step _ ih => exact stops_succ edge stops zero succ ih

theorem exists_stops_of_forall {targets : List α} (each : ∀ a ∈ targets, ∃ fuel, stops fuel a) :
    ∃ fuel, ∀ a ∈ targets, stops fuel a :=
  exists_fuel_of_forall stops (fun _ _ _ => stops_mono edge stops zero succ) each

/-- A recursion over finitely many targets at each element stops with some fuel where every
walk ends. -/
theorem exists_stops_iff_acc (finite : ∀ a, ∃ targets : List α, ∀ b, edge a b ↔ b ∈ targets)
    {a : α} : (∃ fuel, stops fuel a) ↔ Acc (Function.swap edge) a := by
  constructor
  · rintro ⟨fuel, ends⟩
    induction fuel generalizing a with
    | zero => exact absurd ends (zero a)
    | succ fuel ih => exact ⟨_, fun b next => ih ((succ fuel a).mp ends b next)⟩
  · intro accessible
    induction accessible with
    | intro a _ ih =>
        obtain ⟨targets, isTarget⟩ := finite a
        obtain ⟨fuel, ends⟩ := exists_stops_of_forall edge stops zero succ
          fun b member => ih b ((isTarget b).mpr member)
        exact ⟨fuel + 1, (succ fuel a).mpr fun b next => ends b ((isTarget b).mp next)⟩

end Stops

end AcyclicRelation
