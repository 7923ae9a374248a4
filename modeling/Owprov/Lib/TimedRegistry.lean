import Mathlib.Data.List.Induction
import Mathlib.Order.Lattice
import Owprov.Lib.Table

/-!
# Registries that forget

A map from keys to rows that are announced and withdrawn.  After each message a sweep may forget
rows.  What the registry holds in the end is told by the messages: a row is there when it was
announced, its key was not mentioned since, and no sweep since forgot it.
-/

universe u v

open RowTable

/-- A map whose rows stand in the order of their keys. -/
structure Registry (α : Type u) {κ : Type v} [Keyed α κ] [LinearOrder κ] where
  rows : List α
  ascending : rows.Pairwise fun earlier later => key earlier < key later

namespace Registry

variable {α : Type u} {κ : Type v} [Keyed α κ] [LinearOrder κ]

def empty : Registry α where
  rows := []
  ascending := .nil

/-- The row is entered, in the place of one with its key. -/
def put (registry : Registry α) (row : α) : Registry α where
  rows := registry.rows.filter (fun other => decide (key other < key row)) ++
    row :: registry.rows.filter (fun other => decide (key row < key other))
  ascending := by
    refine List.pairwise_append.mpr ⟨registry.ascending.filter _,
      List.pairwise_cons.mpr ⟨?_, registry.ascending.filter _⟩, ?_⟩
    · intro later member
      exact of_decide_eq_true (List.mem_filter.mp member).2
    · intro earlier isEarlier later isLater
      have below := of_decide_eq_true (List.mem_filter.mp isEarlier).2
      rcases List.mem_cons.mp isLater with rfl | above
      · exact below
      · exact below.trans (of_decide_eq_true (List.mem_filter.mp above).2)

/-- Only the rows with a property stay. -/
def keep (registry : Registry α) (stays : α → Bool) : Registry α where
  rows := registry.rows.filter stays
  ascending := registry.ascending.filter stays

def erase (registry : Registry α) (k : κ) : Registry α :=
  registry.keep fun row => key row != k

theorem mem_put {registry : Registry α} {row other : α} :
    other ∈ (registry.put row).rows ↔
      other = row ∨ other ∈ registry.rows ∧ key other ≠ key row := by
  simp only [put, List.mem_append, List.mem_cons, List.mem_filter, decide_eq_true_eq]
  constructor
  · rintro (⟨member, below⟩ | rfl | ⟨member, above⟩)
    · exact .inr ⟨member, below.ne⟩
    · exact .inl rfl
    · exact .inr ⟨member, above.ne'⟩
  · rintro (rfl | ⟨member, differs⟩)
    · exact .inr (.inl rfl)
    · rcases lt_or_gt_of_ne differs with below | above
      · exact .inl ⟨member, below⟩
      · exact .inr (.inr ⟨member, above⟩)

theorem mem_keep {registry : Registry α} {stays : α → Bool} {row : α} :
    row ∈ (registry.keep stays).rows ↔ row ∈ registry.rows ∧ stays row = true :=
  List.mem_filter

theorem mem_erase {registry : Registry α} {k : κ} {row : α} :
    row ∈ (registry.erase k).rows ↔ row ∈ registry.rows ∧ key row ≠ k := by
  rw [erase, mem_keep, bne_iff_ne]

end Registry

/-! ## Messages -/

namespace TimedRegistry

variable {α : Type u} {κ : Type v} [Keyed α κ] [LinearOrder κ]

/-- What a message says about a registry. -/
inductive Effect (α : Type u) (κ : Type v) where
  | announce (row : α)
  | withdraw (k : κ)
  | quiet

/-- The key that a message is about. -/
def Effect.About : Effect α κ → κ → Prop
  | .announce row, k => k = key row
  | .withdraw k', k => k = k'
  | .quiet, _ => False

def Effect.apply (registry : Registry α) : Effect α κ → Registry α
  | .announce row => registry.put row
  | .withdraw k => registry.erase k
  | .quiet => registry

/-- A message with what the sweep after it leaves alone. -/
structure Delivery (α : Type u) (κ : Type v) where
  effect : Effect α κ
  spares : α → Bool

def deliver (registry : Registry α) (delivery : Delivery α κ) : Registry α :=
  (delivery.effect.apply registry).keep delivery.spares

/-- The messages announce the row, do not mention its key again and never forget it. -/
def Announced (row : α) (deliveries : List (Delivery α κ)) : Prop :=
  ∃ before delivery after, deliveries = before ++ delivery :: after ∧
    delivery.effect = .announce row ∧
    (∀ later ∈ after, ¬ later.effect.About (key row)) ∧
    ∀ since ∈ delivery :: after, since.spares row = true

theorem mem_apply {registry : Registry α} {effect : Effect α κ} {row : α} :
    row ∈ (effect.apply registry).rows ↔
      effect = .announce row ∨ row ∈ registry.rows ∧ ¬ effect.About (key row) := by
  cases effect with
  | announce announced =>
      rw [Effect.apply, Registry.mem_put, Effect.announce.injEq, Effect.About,
        eq_comm (a := row)]
  | withdraw k => simp [Effect.apply, Registry.mem_erase, Effect.About]
  | quiet => simp [Effect.apply, Effect.About]

omit [LinearOrder κ] in
theorem announced_append_singleton {row : α} {deliveries : List (Delivery α κ)}
    {last : Delivery α κ} :
    Announced row (deliveries ++ [last]) ↔
      (last.effect = .announce row ∨ Announced row deliveries ∧ ¬ last.effect.About (key row)) ∧
        last.spares row = true := by
  constructor
  · rintro ⟨before, delivery, after, split, announces, unmentioned, spared⟩
    rcases List.eq_nil_or_concat after with rfl | ⟨earlier, final, rfl⟩
    · obtain ⟨_, same⟩ := List.append_inj' split rfl
      cases same
      exact ⟨.inl announces, spared _ List.mem_cons_self⟩
    · rw [List.concat_eq_append] at *
      have split' : deliveries ++ [last] = (before ++ delivery :: earlier) ++ [final] := by
        rw [split, List.append_assoc, List.cons_append]
      obtain ⟨rfl, same⟩ := List.append_inj' split' rfl
      cases same
      refine ⟨.inr ⟨⟨before, delivery, earlier, rfl, announces, ?_, ?_⟩, ?_⟩, ?_⟩
      · exact fun later member => unmentioned later (List.mem_append_left _ member)
      · intro since member
        refine spared since ?_
        rcases List.mem_cons.mp member with rfl | member
        · exact List.mem_cons_self
        · exact List.mem_cons_of_mem _ (List.mem_append_left _ member)
      · exact unmentioned _ (List.mem_append_right _ (List.mem_singleton_self _))
      · exact spared _ (List.mem_cons_of_mem _
          (List.mem_append_right _ (List.mem_singleton_self _)))
  · rintro ⟨announces | ⟨⟨before, delivery, after, rfl, announces, unmentioned, spared⟩, apart⟩,
      sparedLast⟩
    · refine ⟨deliveries, last, [], rfl, announces, by simp, ?_⟩
      intro since member
      rw [List.mem_singleton.mp member]
      exact sparedLast
    · refine ⟨before, delivery, after ++ [last], by simp, announces, ?_, ?_⟩
      · intro later member
        rcases List.mem_append.mp member with member | member
        · exact unmentioned later member
        · rw [List.mem_singleton.mp member]
          exact apart
      · intro since member
        rw [← List.cons_append] at member
        rcases List.mem_append.mp member with member | member
        · exact spared since member
        · rw [List.mem_singleton.mp member]
          exact sparedLast

/-- A registry that starts empty holds what the messages announced and nothing forgot. -/
theorem mem_run_iff {deliveries : List (Delivery α κ)} {row : α} :
    row ∈ (deliveries.foldl deliver Registry.empty).rows ↔ Announced row deliveries := by
  induction deliveries using List.reverseRecOn with
  | nil =>
      constructor
      · exact fun member => (List.not_mem_nil member).elim
      · rintro ⟨before, delivery, after, split, _⟩
        exact absurd split (by simp)
  | append_singleton deliveries last ih =>
      rw [List.foldl_append, List.foldl_cons, List.foldl_nil, deliver, Registry.mem_keep,
        mem_apply, ih, announced_append_singleton]

end TimedRegistry
