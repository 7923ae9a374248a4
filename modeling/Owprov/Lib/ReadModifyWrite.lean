import Mathlib.Data.List.FinRange
import Mathlib.Logic.Function.Basic
import Mathlib.Logic.Relation

/-!
# Interleaved read-modify-write calls

A call fetches a copy of what it is about, revises the copy and stores it.  Another call may
come in between.  Where every call stores while what it fetched is still current, the calls
together do what they do one after the other.
-/

universe u v w

namespace ReadModifyWrite

variable {σ : Type u} {ρ : Type v} {ι : Type w}

/-- A call on a shared store. -/
structure Call (σ : Type u) (ρ : Type v) where
  fetch : σ → Option ρ
  /-- A call need not have anything to store. -/
  revise : ρ → Option ρ
  store : ρ → σ → σ

/-- A call that nothing interrupts. -/
def Call.run (call : Call σ ρ) (s : σ) : σ :=
  match (call.fetch s).bind call.revise with
  | none => s
  | some row => call.store row s

/-- How far a call has come. -/
inductive Phase (ρ : Type v) where
  | waiting
  | holding (copy : ρ)
  | finished

/-- The phase of a call that has just fetched its copy. -/
def Call.fetched (call : Call σ ρ) (s : σ) : Phase ρ :=
  match call.fetch s with
  | none => .finished
  | some copy =>
      match call.revise copy with
      | none => .finished
      | some _ => .holding copy

/-- A shared store and the calls that work on it. -/
structure State (σ : Type u) (ρ : Type v) (ι : Type w) where
  store : σ
  phase : ι → Phase ρ

def State.initial (s : σ) : State σ ρ ι where
  store := s
  phase _ := .waiting

def State.Finished (state : State σ ρ ι) : Prop :=
  ∀ i, state.phase i = .finished

variable [DecidableEq ι]

/-- One call fetches or stores; a call that stores meets a condition on its copy and the
store. -/
inductive Step (calls : ι → Call σ ρ) (condition : Call σ ρ → ρ → σ → Prop) :
    State σ ρ ι → State σ ρ ι → Prop
  | fetch (state : State σ ρ ι) (i : ι) : state.phase i = .waiting →
      Step calls condition state
        { state with phase := Function.update state.phase i ((calls i).fetched state.store) }
  | store (state : State σ ρ ι) (i : ι) (copy row : ρ) : state.phase i = .holding copy →
      (calls i).revise copy = some row → condition (calls i) copy state.store →
      Step calls condition state
        { store := (calls i).store row state.store
          phase := Function.update state.phase i .finished }

/-- What a call would fetch is still what it fetched. -/
def Current (call : Call σ ρ) (copy : ρ) (s : σ) : Prop :=
  call.fetch s = some copy

/-- The calls one after the other. -/
def serially (calls : ι → Call σ ρ) (order : List ι) (s : σ) : σ :=
  order.foldl (fun s i => (calls i).run s) s

/-- The finished calls, in the order in which they took effect. -/
structure Linearized (calls : ι → Call σ ρ) (s : σ) (order : List ι) (state : State σ ρ ι) :
    Prop where
  nodup : order.Nodup
  mem_iff : ∀ i, i ∈ order ↔ state.phase i = .finished
  result : state.store = serially calls order s

variable {calls : ι → Call σ ρ} {condition : Call σ ρ → ρ → σ → Prop} {s : σ}
  {order : List ι} {state state' : State σ ρ ι}

omit [DecidableEq ι] in
theorem Linearized.initial (calls : ι → Call σ ρ) (s : σ) :
    Linearized calls s [] (State.initial s) where
  nodup := List.nodup_nil
  mem_iff i := by simp [State.initial]
  result := rfl

/-- A call that finishes is the last so far. -/
theorem Linearized.finish (linearized : Linearized calls s order state) {i : ι}
    (unfinished : state.phase i ≠ .finished) {store : σ}
    (effect : store = (calls i).run state.store) :
    Linearized calls s (order ++ [i])
      { store := store, phase := Function.update state.phase i .finished } where
  nodup := by
    rw [← List.concat_eq_append, List.nodup_concat]
    refine ⟨?_, linearized.nodup⟩
    rw [linearized.mem_iff i]
    exact unfinished
  mem_iff j := by
    by_cases same : j = i
    · simp [same]
    · simp [same, linearized.mem_iff j]
  result := by
    have before : state.store = order.foldl (fun s i => (calls i).run s) s := linearized.result
    rw [serially, List.foldl_append, ← before]
    exact effect

theorem Linearized.hold (linearized : Linearized calls s order state) {i : ι}
    (waiting : state.phase i = .waiting) {copy : ρ} :
    Linearized calls s order
      { state with phase := Function.update state.phase i (.holding copy) } where
  nodup := linearized.nodup
  mem_iff j := by
    by_cases same : j = i
    · subst same
      simp [linearized.mem_iff j, waiting]
    · simp [same, linearized.mem_iff j]
  result := linearized.result

theorem Linearized.step (linearized : Linearized calls s order state)
    (isStep : Step calls Current state state') : ∃ order', Linearized calls s order' state' := by
  cases isStep with
  | fetch i waiting =>
      have unfinished : state.phase i ≠ .finished := by
        rw [waiting]
        rintro ⟨⟩
      -- Without anything to store, the call takes effect with its fetch.
      cases fetched : (calls i).fetch state.store with
      | none =>
          have done : (calls i).fetched state.store = .finished := by
            simp only [Call.fetched, fetched]
          rw [done]
          exact ⟨_, linearized.finish unfinished (by simp only [Call.run, fetched, Option.bind_none])⟩
      | some copy =>
          cases revised : (calls i).revise copy with
          | none =>
              have done : (calls i).fetched state.store = .finished := by
                simp only [Call.fetched, fetched, revised]
              rw [done]
              exact ⟨_, linearized.finish unfinished
                (by simp only [Call.run, fetched, Option.bind_some, revised])⟩
          | some row =>
              have holds : (calls i).fetched state.store = .holding copy := by
                simp only [Call.fetched, fetched, revised]
              rw [holds]
              exact ⟨order, linearized.hold waiting⟩
  | store i copy row holding revised current =>
      have unfinished : state.phase i ≠ .finished := by
        rw [holding]
        rintro ⟨⟩
      have effect : (calls i).store row state.store = (calls i).run state.store := by
        have fetched : (calls i).fetch state.store = some copy := current
        simp only [Call.run, fetched, Option.bind_some, revised]
      exact ⟨_, linearized.finish unfinished effect⟩

theorem Linearized.steps (linearized : Linearized calls s order state)
    (run : Relation.ReflTransGen (Step calls Current) state state') :
    ∃ order', Linearized calls s order' state' := by
  induction run with
  | refl => exact ⟨order, linearized⟩
  | tail _ last ih =>
      obtain ⟨_, linearized'⟩ := ih
      exact linearized'.step last

/-- Calls whose copies are current when they store do what they do one after the other. -/
theorem serial_of_run {n : ℕ} {calls : Fin n → Call σ ρ} {state : State σ ρ (Fin n)}
    (run : Relation.ReflTransGen (Step calls Current) (State.initial s) state)
    (finished : state.Finished) :
    ∃ order : List (Fin n), order.Perm (List.finRange n) ∧
      state.store = serially calls order s := by
  obtain ⟨order, linearized⟩ := (Linearized.initial calls s).steps run
  refine ⟨order, ?_, linearized.result⟩
  rw [List.perm_ext_iff_of_nodup linearized.nodup (List.nodup_finRange n)]
  intro i
  simp [linearized.mem_iff i, finished i]

end ReadModifyWrite
