import Mathlib.Logic.Function.Basic

/-!
# A cache filled by readers and cleared by writers

Readers look a key up, read the database on a miss and store what they read; writers
change the database and clear the whole cache afterwards.  Every one of these is an
atomic step, and the steps of any number of processes interleave freely.  A third kind
of step changes the database and never clears.

The cache agrees with the database whenever nobody is at work, provided that no clear
runs while a reader holds a value the database no longer has and that the changes
without a clear spare every value that is cached or about to be.
-/

universe u v w x

namespace FillCache

/-- What a process is doing. -/
inductive Phase (κ : Type v) (ν : Type w) where
  /-- Nothing is in progress. -/
  | idle
  /-- A lookup of the key found nothing in the cache. -/
  | missed (k : κ)
  /-- The database was read and the cache is still to be filled. -/
  | fetched (k : κ) (value : ν)
  /-- The database was changed and the cache is still to be cleared. -/
  | wrote

/-- The database, the cache and the phase of every process. -/
structure State (σ : Type u) (κ : Type v) (ν : Type w) (ι : Type x) where
  db : σ
  cache : κ → Option ν
  phase : ι → Phase κ ν

/-- The atomic steps. -/
inductive Action (σ : Type u) (κ : Type v) (ι : Type x) where
  | lookup (p : ι) (k : κ)
  | fetch (p : ι)
  | fill (p : ι)
  | write (p : ι) (new : σ)
  | clear (p : ι)
  | quietWrite (new : σ)

variable {σ : Type u} {κ : Type v} {ν : Type w} {ι : Type x} [DecidableEq κ] [DecidableEq ι]
variable (query : σ → κ → Option ν)

/-- What one atomic step does.  `query` is what a reader finds in the database; a reader
that finds nothing stops without touching the cache. -/
inductive Step : State σ κ ν ι → Action σ κ ι → State σ κ ν ι → Prop where
  | hit {s : State σ κ ν ι} {p : ι} {k : κ} {value : ν} :
      s.phase p = .idle → s.cache k = some value → Step s (.lookup p k) s
  | miss {s : State σ κ ν ι} {p : ι} {k : κ} :
      s.phase p = .idle → s.cache k = none →
      Step s (.lookup p k) { s with phase := Function.update s.phase p (.missed k) }
  | fetchNone {s : State σ κ ν ι} {p : ι} {k : κ} :
      s.phase p = .missed k → query s.db k = none →
      Step s (.fetch p) { s with phase := Function.update s.phase p .idle }
  | fetchSome {s : State σ κ ν ι} {p : ι} {k : κ} {value : ν} :
      s.phase p = .missed k → query s.db k = some value →
      Step s (.fetch p) { s with phase := Function.update s.phase p (.fetched k value) }
  | fill {s : State σ κ ν ι} {p : ι} {k : κ} {value : ν} :
      s.phase p = .fetched k value →
      Step s (.fill p)
        { s with
          cache := Function.update s.cache k (some value)
          phase := Function.update s.phase p .idle }
  | write {s : State σ κ ν ι} {p : ι} {new : σ} :
      s.phase p = .idle ∨ s.phase p = .wrote →
      Step s (.write p new) { s with db := new, phase := Function.update s.phase p .wrote }
  | clear {s : State σ κ ν ι} {p : ι} :
      s.phase p = .wrote →
      Step s (.clear p)
        { s with cache := fun _ => none, phase := Function.update s.phase p .idle }
  | quietWrite {s : State σ κ ν ι} {new : σ} :
      Step s (.quietWrite new) { s with db := new }

/-- No process is at work. -/
def Quiescent (s : State σ κ ν ι) : Prop :=
  ∀ p, s.phase p = .idle

/-- Every cached value is what the database holds. -/
def Coherent (s : State σ κ ν ι) : Prop :=
  ∀ k value, s.cache k = some value → query s.db k = some value

/-- Some writer has still to clear the cache. -/
def ClearPending (s : State σ κ ν ι) : Prop :=
  ∃ p, s.phase p = .wrote

/-- A value that is in the cache or that a reader is about to put there. -/
def Held (s : State σ κ ν ι) (k : κ) (value : ν) : Prop :=
  s.cache k = some value ∨ ∃ p, s.phase p = .fetched k value

/-- The condition on the state before a step.  A clear leaves no reader behind that holds
an outdated value, and a change without a clear spares what is held, unless another clear
is still to come. -/
def Orderly (s : State σ κ ν ι) : Action σ κ ι → Prop
  | .clear p =>
      (∃ q, q ≠ p ∧ s.phase q = .wrote) ∨
        ∀ q k value, s.phase q = .fetched k value → query s.db k = some value
  | .quietWrite new =>
      ClearPending s ∨ ∀ k value, Held s k value → query s.db k = some value →
        query new k = some value
  | _ => True

/-- A run all of whose steps are orderly. -/
inductive OrderlyRun : State σ κ ν ι → State σ κ ν ι → Prop where
  | nil {s : State σ κ ν ι} : OrderlyRun s s
  | snoc {s t t' : State σ κ ν ι} {action : Action σ κ ι} :
      OrderlyRun s t → Orderly query t action → Step query t action t' → OrderlyRun s t'

/-- The invariant: without a pending clear, every held value is current. -/
def Current (s : State σ κ ν ι) : Prop :=
  ClearPending s ∨ ∀ k value, Held s k value → query s.db k = some value

variable {query}

omit [DecidableEq κ] [DecidableEq ι] in
theorem Current.coherent {s : State σ κ ν ι} (current : Current query s)
    (quiescent : Quiescent s) : Coherent query s := by
  rcases current with ⟨p, pending⟩ | held
  · rw [quiescent p] at pending
    cases pending
  · intro k value cached
    exact held k value (Or.inl cached)

omit [DecidableEq κ] in
/-- A pending clear is still pending after another process has moved. -/
theorem clearPending_update {s : State σ κ ν ι} {p : ι} {db : σ} {cache : κ → Option ν}
    {now : Phase κ ν} (notWrote : s.phase p ≠ .wrote) (pending : ClearPending s) :
    ClearPending { db := db, cache := cache, phase := Function.update s.phase p now } := by
  obtain ⟨q, wrote⟩ := pending
  refine ⟨q, ?_⟩
  have differ : q ≠ p := by
    rintro rfl
    exact notWrote wrote
  simpa [Function.update_of_ne differ] using wrote

omit [DecidableEq κ] in
/-- Moving one process to a phase that holds nothing adds no held value. -/
theorem held_of_held_update {s : State σ κ ν ι} {p : ι} {now : Phase κ ν} {k : κ} {value : ν}
    (holdsNothing : ∀ k value, now ≠ .fetched k value)
    (held : Held { s with phase := Function.update s.phase p now } k value) :
    Held s k value := by
  rcases held with cached | ⟨q, fetched⟩
  · exact Or.inl cached
  · by_cases same : q = p
    · subst same
      simp only [Function.update_self] at fetched
      exact absurd fetched (holdsNothing k value)
    · simp only [Function.update_of_ne same] at fetched
      exact Or.inr ⟨q, fetched⟩

/-- One orderly step keeps the invariant. -/
theorem Current.step {s s' : State σ κ ν ι} {action : Action σ κ ι}
    (current : Current query s) (orderly : Orderly query s action)
    (taken : Step query s action s') : Current query s' := by
  cases taken with
  | hit => exact current
  | @miss p k isIdle _ =>
      rcases current with pending | held
      · exact Or.inl (clearPending_update (by simp [isIdle]) pending)
      · exact Or.inr fun k value now =>
          held k value (held_of_held_update (by simp) now)
  | fetchNone missed _ =>
      rcases current with pending | held
      · exact Or.inl (clearPending_update (by simp [missed]) pending)
      · exact Or.inr fun k value now =>
          held k value (held_of_held_update (by simp) now)
  | @fetchSome p k value missed found =>
      rcases current with pending | held
      · exact Or.inl (clearPending_update (by simp [missed]) pending)
      · refine Or.inr fun k' value' now => ?_
        rcases now with cached | ⟨q, fetched⟩
        · exact held k' value' (Or.inl cached)
        · by_cases same : q = p
          · subst same
            simp only [Function.update_self, Phase.fetched.injEq] at fetched
            obtain ⟨rfl, rfl⟩ := fetched
            exact found
          · simp only [Function.update_of_ne same] at fetched
            exact held k' value' (Or.inr ⟨q, fetched⟩)
  | @fill p k value fetched =>
      rcases current with pending | held
      · exact Or.inl (clearPending_update (by simp [fetched]) pending)
      · refine Or.inr fun k' value' now => ?_
        rcases now with cached | ⟨q, stillFetched⟩
        · by_cases same : k' = k
          · subst same
            simp only [Function.update_self, Option.some.injEq] at cached
            subst cached
            exact held k' value (Or.inr ⟨p, fetched⟩)
          · simp only [Function.update_of_ne same] at cached
            exact held k' value' (Or.inl cached)
        · by_cases same : q = p
          · subst same
            simp at stillFetched
          · simp only [Function.update_of_ne same] at stillFetched
            exact held k' value' (Or.inr ⟨q, stillFetched⟩)
  | @write p => exact Or.inl ⟨p, Function.update_self ..⟩
  | @clear p =>
      rcases orderly with ⟨q, differ, wrote⟩ | fresh
      · exact Or.inl ⟨q, by simpa [Function.update_of_ne differ] using wrote⟩
      · refine Or.inr fun k value now => ?_
        rcases now with cached | ⟨q, fetched⟩
        · cases cached
        · by_cases same : q = p
          · subst same
            simp at fetched
          · simp only [Function.update_of_ne same] at fetched
            exact fresh q k value fetched
  | quietWrite =>
      rcases current with ⟨p, pending⟩ | held
      · exact Or.inl ⟨p, pending⟩
      · rcases orderly with ⟨p, pending⟩ | spared
        · exact Or.inl ⟨p, pending⟩
        · exact Or.inr fun k value now => spared k value now (held k value now)

/-- Every state of an orderly run keeps the invariant. -/
theorem OrderlyRun.current {s s' : State σ κ ν ι} (run : OrderlyRun query s s')
    (start : Current query s) : Current query s' := by
  induction run with
  | nil => exact start
  | snoc _ orderly taken ih => exact ih.step orderly taken

end FillCache
