import Mathlib.Data.List.Infix
import Mathlib.Data.List.TakeWhile

/-!
# Classification by the first marker that occurs

A cascade is a list of entries, each with some markers and a value.  A text is
classified by the first entry one of whose markers occurs in it.  When a text is two
parts joined by a separator that no marker contains, the second part matters only
through the entries that stand before the first part's own entry.
-/

universe u v

namespace MarkerCascade

variable {α : Type u} {β : Type v} [DecidableEq α]

/-- Alternative markers and the value they stand for. -/
structure Entry (α : Type u) (β : Type v) where
  markers : List (List α)
  value : β

/-- One of the entry's markers is a contiguous part of the text. -/
def Entry.occursIn (entry : Entry α β) (text : List α) : Bool :=
  entry.markers.any fun marker => marker <:+: text

/-- The value of the first entry that occurs in the text. -/
def classify (cascade : List (Entry α β)) (text : List α) : Option β :=
  (cascade.find? fun entry => entry.occursIn text).map Entry.value

@[simp]
theorem classify_nil (text : List α) : classify ([] : List (Entry α β)) text = none := rfl

theorem classify_cons (entry : Entry α β) (cascade : List (Entry α β)) (text : List α) :
    classify (entry :: cascade) text =
      if entry.occursIn text then some entry.value else classify cascade text := by
  cases occurs : entry.occursIn text <;> simp [classify, occurs]

theorem occursIn_one (marker text : List α) (value : β) :
    (Entry.mk [marker] value).occursIn text = decide (marker <:+: text) := by
  simp [Entry.occursIn]

theorem occursIn_two (marker marker' text : List α) (value : β) :
    (Entry.mk [marker, marker'] value).occursIn text =
      (decide (marker <:+: text) || decide (marker' <:+: text)) := by
  simp [Entry.occursIn]

theorem value_mem_of_classify {cascade : List (Entry α β)} {text : List α} {value : β}
    (found : classify cascade text = some value) : value ∈ cascade.map Entry.value := by
  obtain ⟨entry, first, rfl⟩ := Option.map_eq_some_iff.mp found
  exact List.mem_map_of_mem (List.mem_of_find?_eq_some first)

/-- The entries before the first one that occurs in the text. -/
def before (cascade : List (Entry α β)) (text : List α) : List (Entry α β) :=
  cascade.takeWhile fun entry => !entry.occursIn text

/-- What the second part of a text puts in place of the classification of the first. -/
def overriding (cascade : List (Entry α β)) (first second : List α) : Option β :=
  classify (before cascade first) second

omit [DecidableEq α] in
/-- A marker without the separator lies on one side of it. -/
theorem infix_append_cons_iff {marker first second : List α} {separator : α}
    (free : separator ∉ marker) :
    marker <:+: first ++ separator :: second ↔ marker <:+: first ∨ marker <:+: second := by
  constructor
  · rw [List.infix_append_iff]
    rintro (inFirst | inRest | ⟨left, right, rfl, suffixFirst, prefixRest⟩)
    · exact Or.inl inFirst
    · rcases List.infix_cons_iff.mp inRest with startsHere | inSecond
      · cases marker with
        | nil => exact Or.inl (List.nil_infix)
        | cons head tail =>
            have same := (List.cons_prefix_cons.mp startsHere).1
            exact absurd (same ▸ List.mem_cons_self) free
      · exact Or.inr inSecond
    · cases right with
      | nil =>
          rw [List.append_nil]
          exact Or.inl suffixFirst.isInfix
      | cons head tail =>
          have same := (List.cons_prefix_cons.mp prefixRest).1
          exact absurd (by simp [same]) free
  · rintro (inFirst | inSecond)
    · exact inFirst.trans (List.prefix_append _ _).isInfix
    · exact inSecond.trans ((List.suffix_cons _ _).trans (List.suffix_append _ _)).isInfix

theorem Entry.occursIn_append_cons {entry : Entry α β} {first second : List α} {separator : α}
    (free : ∀ marker ∈ entry.markers, separator ∉ marker) :
    entry.occursIn (first ++ separator :: second) =
      (entry.occursIn first || entry.occursIn second) := by
  rw [Bool.eq_iff_iff]
  simp only [Entry.occursIn, List.any_eq_true, decide_eq_true_eq, Bool.or_eq_true]
  constructor
  · rintro ⟨marker, member, occurs⟩
    rcases (infix_append_cons_iff (free marker member)).mp occurs with inFirst | inSecond
    · exact Or.inl ⟨marker, member, inFirst⟩
    · exact Or.inr ⟨marker, member, inSecond⟩
  · rintro (⟨marker, member, occurs⟩ | ⟨marker, member, occurs⟩)
    · exact ⟨marker, member, (infix_append_cons_iff (free marker member)).mpr (Or.inl occurs)⟩
    · exact ⟨marker, member, (infix_append_cons_iff (free marker member)).mpr (Or.inr occurs)⟩

/-- The classification of a joined text is the override, or else that of the first part. -/
theorem classify_append_cons {cascade : List (Entry α β)} {first second : List α}
    {separator : α}
    (free : ∀ entry ∈ cascade, ∀ marker ∈ entry.markers, separator ∉ marker) :
    classify cascade (first ++ separator :: second) =
      (overriding cascade first second).or (classify cascade first) := by
  induction cascade with
  | nil => rfl
  | cons entry cascade ih =>
      have ih := ih fun other member => free other (List.mem_cons_of_mem _ member)
      have split : entry.occursIn (first ++ separator :: second) =
          (entry.occursIn first || entry.occursIn second) :=
        Entry.occursIn_append_cons (free entry List.mem_cons_self)
      unfold classify overriding before at ih ⊢
      cases inFirst : entry.occursIn first with
      | true => simp [split, inFirst, classify]
      | false =>
          cases inSecond : entry.occursIn second with
          | true => simp [split, inFirst, inSecond, classify]
          | false =>
              simpa [List.find?_cons, split, inFirst, inSecond, classify] using ih

/-- An entry before the first part's own differs from it in its value. -/
theorem classify_ne_of_overriding {cascade : List (Entry α β)}
    (distinct : (cascade.map Entry.value).Nodup) {first second : List α} {value : β}
    (overrides : overriding cascade first second = some value) :
    classify cascade first ≠ some value := by
  induction cascade with
  | nil => simp [classify]
  | cons entry cascade ih =>
      rw [List.map_cons, List.nodup_cons] at distinct
      unfold overriding before at overrides ih
      cases inFirst : entry.occursIn first with
      | true => simp [inFirst, classify] at overrides
      | false =>
          simp only [List.takeWhile_cons, inFirst, Bool.not_false, if_true, classify,
            List.find?_cons] at overrides ⊢
          cases inSecond : entry.occursIn second with
          | true =>
              simp only [inSecond, Option.map_some, Option.some.injEq] at overrides
              subst overrides
              intro equal
              obtain ⟨other, found, same⟩ := Option.map_eq_some_iff.mp equal
              exact distinct.1 (same ▸ List.mem_map_of_mem (List.mem_of_find?_eq_some found))
          | false =>
              rw [inSecond] at overrides
              exact ih distinct.2 overrides

/-- Two second parts lead to one classification exactly when they override alike. -/
theorem classify_append_cons_eq_iff {cascade : List (Entry α β)}
    (distinct : (cascade.map Entry.value).Nodup) {separator : α}
    (free : ∀ entry ∈ cascade, ∀ marker ∈ entry.markers, separator ∉ marker)
    (first left right : List α) :
    classify cascade (first ++ separator :: left) =
        classify cascade (first ++ separator :: right) ↔
      overriding cascade first left = overriding cascade first right := by
  rw [classify_append_cons free, classify_append_cons free]
  constructor
  · intro equal
    cases fromLeft : overriding cascade first left with
    | none =>
        cases fromRight : overriding cascade first right with
        | none => rfl
        | some value =>
            rw [fromLeft, fromRight, Option.none_or, Option.some_or] at equal
            exact absurd equal (classify_ne_of_overriding distinct fromRight)
    | some value =>
        cases fromRight : overriding cascade first right with
        | none =>
            rw [fromLeft, fromRight, Option.none_or, Option.some_or] at equal
            exact absurd equal.symm (classify_ne_of_overriding distinct fromLeft)
        | some other =>
            rw [fromLeft, fromRight, Option.some_or, Option.some_or] at equal
            exact equal
  · intro equal
    rw [equal]

end MarkerCascade
