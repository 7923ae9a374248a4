import Mathlib.Data.List.Basic

/-!
# Histories

A history is the list of the events so far, the newest first.  What is known at its end often
rests on the last event of some kind, or on an event of one kind after the last of another.
-/

namespace Histories

variable {ε : Type*}

/-- An event of one kind occurred, and none of another kind after it. -/
def Since (reset kind : ε → Prop) : List ε → Prop
  | [] => False
  | event :: history => kind event ∨ ¬ reset event ∧ Since reset kind history

/-- Every event of a kind met a condition on the history before it. -/
def Always (kind : ε → Prop) (condition : ε → List ε → Prop) : List ε → Prop
  | [] => True
  | event :: history => (kind event → condition event history) ∧ Always kind condition history

section Since

variable {reset kind : ε → Prop} {event : ε} {history : List ε}

theorem since_cons :
    Since reset kind (event :: history) ↔
      kind event ∨ ¬ reset event ∧ Since reset kind history :=
  Iff.rfl

theorem Since.here (isKind : kind event) : Since reset kind (event :: history) :=
  Or.inl isKind

theorem Since.later (since : Since reset kind history) (keeps : ¬ reset event) :
    Since reset kind (event :: history) :=
  Or.inr ⟨keeps, since⟩

/-- Events of no matter to either kind. -/
theorem since_append_of_silent {events : List ε}
    (silent : ∀ event ∈ events, ¬ reset event ∧ ¬ kind event) :
    Since reset kind (events ++ history) ↔ Since reset kind history := by
  induction events with
  | nil => rfl
  | cons event events ih =>
      obtain ⟨here, there⟩ := List.forall_mem_cons.mp silent
      rw [List.cons_append, since_cons, ih there]
      exact ⟨fun either => (either.resolve_left here.2).2, fun since => .inr ⟨here.1, since⟩⟩

theorem since_iff : Since reset kind history ↔
    ∃ newer event older, history = newer ++ event :: older ∧ kind event ∧
      ∀ later ∈ newer, ¬ reset later := by
  induction history with
  | nil => simp [Since]
  | cons first history ih =>
      rw [since_cons, ih]
      constructor
      · rintro (isKind | ⟨keeps, newer, event, older, rfl, isKind, kept⟩)
        · exact ⟨[], first, history, rfl, isKind, List.forall_mem_nil _⟩
        · exact ⟨first :: newer, event, older, rfl, isKind, List.forall_mem_cons.mpr ⟨keeps, kept⟩⟩
      · rintro ⟨newer, event, older, same, isKind, kept⟩
        cases newer with
        | nil =>
            obtain ⟨rfl, rfl⟩ := List.cons.inj same
            exact .inl isKind
        | cons later newer =>
            obtain ⟨rfl, rfl⟩ := List.cons.inj same
            obtain ⟨keeps, kept⟩ := List.forall_mem_cons.mp kept
            exact .inr ⟨keeps, newer, event, older, rfl, isKind, kept⟩

end Since

section Always

variable {kind : ε → Prop} {condition : ε → List ε → Prop} {history : List ε}

theorem Always.append {events : List ε} (always : Always kind condition history)
    (each : ∀ newer event older, events = newer ++ event :: older → kind event →
      condition event (older ++ history)) :
    Always kind condition (events ++ history) := by
  induction events with
  | nil => exact always
  | cons event events ih =>
      refine ⟨each [] event events rfl, ih fun newer later older same => ?_⟩
      exact each (event :: newer) later older (congrArg (event :: ·) same)

theorem Always.condition_of_eq {newer older : List ε} {event : ε}
    (always : Always kind condition history) (same : history = newer ++ event :: older)
    (isKind : kind event) : condition event older := by
  induction newer generalizing history with
  | nil =>
      subst same
      exact always.1 isKind
  | cons later newer ih =>
      subst same
      exact ih always.2 rfl

end Always

end Histories
