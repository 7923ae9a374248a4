import Mathlib.Data.List.ReduceOption

/-!
# Lists of optional values

A list is mapped by a partial function, whose values may be missing: the whole is undefined
where one value is, and missing values are left out of the list.
-/

namespace OptionLists

section Defined

variable {α γ : Type} {h k : α → Option γ} {a : α} {items : List α} {zs : List γ}

theorem mapM_isSome (each : ∀ item ∈ items, (h item).isSome) : (items.mapM h).isSome := by
  induction items with
  | nil => rfl
  | cons item items ih =>
      have head := each item (by simp)
      have tail := ih fun other member => each other (by simp [member])
      obtain ⟨_, head⟩ := Option.isSome_iff_exists.mp head
      obtain ⟨_, tail⟩ := Option.isSome_iff_exists.mp tail
      simp [List.mapM_cons, head, tail]

theorem mapM_cons_eq_some (whole : (a :: items).mapM h = some zs) :
    ∃ z rest, h a = some z ∧ items.mapM h = some rest ∧ z :: rest = zs := by
  rw [List.mapM_cons] at whole
  cases head : h a with
  | none => simp [head] at whole
  | some z =>
      cases tail : items.mapM h with
      | none => simp [head, tail] at whole
      | some rest => exact ⟨z, rest, rfl, rfl, by simpa [head, tail] using whole⟩

theorem mapM_isSome_iff :
    (items.mapM h).isSome ↔ ∀ item ∈ items, (h item).isSome := by
  refine ⟨fun whole => ?_, mapM_isSome⟩
  induction items with
  | nil => simp
  | cons a items ih =>
      obtain ⟨zs, built⟩ := Option.isSome_iff_exists.mp whole
      obtain ⟨z, rest, head, tail, rfl⟩ := mapM_cons_eq_some built
      rw [List.forall_mem_cons]
      exact ⟨by rw [head]; rfl, ih (by rw [tail]; rfl)⟩

theorem mapM_map_eq_some {β : Type} {f : β → α} {z : β → γ} {sources : List β}
    (each : ∀ source ∈ sources, h (f source) = some (z source)) :
    (sources.map f).mapM h = some (sources.map z) := by
  induction sources with
  | nil => rfl
  | cons source sources ih =>
      rw [List.map_cons, List.mapM_cons, each source List.mem_cons_self,
        ih fun other member => each other (List.mem_cons_of_mem _ member)]
      rfl

theorem mapM_eq_of_forall (same : ∀ item ∈ items, h item = k item) :
    items.mapM h = items.mapM k := by
  induction items with
  | nil => rfl
  | cons a items ih =>
      rw [List.mapM_cons, List.mapM_cons, same a List.mem_cons_self,
        ih fun item member => same item (List.mem_cons_of_mem a member)]

theorem mem_of_mapM_eq_some (whole : items.mapM h = some zs) {z : γ} :
    z ∈ zs ↔ ∃ item ∈ items, h item = some z := by
  induction items generalizing zs with
  | nil =>
      obtain rfl : [] = zs := by simpa using whole
      simp
  | cons a items ih =>
      obtain ⟨first, rest, head, tail, rfl⟩ := mapM_cons_eq_some whole
      simp [ih tail, head, eq_comm]

end Defined

section Counted

variable {α β γ : Type} {f : α → Option β} {g : α → Option γ} {items : List α}

/-- When one function has values only where another has, and as many, it has them everywhere
there. -/
theorem isSome_of_length_filterMap (fewer : ∀ item ∈ items, (f item).isSome → (g item).isSome)
    (same : (items.filterMap f).length = (items.filterMap g).length) :
    ∀ item ∈ items, (g item).isSome → (f item).isSome := by
  induction items with
  | nil => nofun
  | cons a items ih =>
      rw [List.length_filterMap_eq_countP, List.length_filterMap_eq_countP, List.countP_cons,
        List.countP_cons] at same
      obtain ⟨own, others⟩ := List.forall_mem_cons.mp fewer
      have atMost := List.countP_mono_left others
      rw [List.length_filterMap_eq_countP, List.length_filterMap_eq_countP] at ih
      cases atF : f a with
      | none =>
          cases atG : g a with
          | none =>
              have rest := ih others (by simpa [atF, atG] using same)
              refine List.forall_mem_cons.mpr ⟨fun present => ?_, rest⟩
              rw [atG] at present
              cases present
          | some z =>
              have more : List.countP (fun item => (f item).isSome) items =
                  List.countP (fun item => (g item).isSome) items + 1 := by
                simpa [atF, atG] using same
              omega
      | some y =>
          have present := own (by rw [atF]; rfl)
          refine List.forall_mem_cons.mpr ⟨fun _ => by rw [atF]; rfl, ih others ?_⟩
          simpa [atF, present] using same

end Counted

section Missing

variable {α β : Type} {f g : α → Option (Option β)} {items : List α} {xs ys : List (Option β)}

/-- Two functions with the same missing values are equal on a list when the lists of their
values are, without the missing ones. -/
theorem eq_of_reduceOption_eq
    (first : items.mapM f = some xs) (second : items.mapM g = some ys)
    (missing : ∀ item ∈ items, f item = some none ↔ g item = some none)
    (same : xs.reduceOption = ys.reduceOption) : ∀ item ∈ items, f item = g item := by
  induction items generalizing xs ys with
  | nil => simp
  | cons a items ih =>
      obtain ⟨x, xs', atF, restF, rfl⟩ := mapM_cons_eq_some first
      obtain ⟨y, ys', atG, restG, rfl⟩ := mapM_cons_eq_some second
      have missingHere := missing a List.mem_cons_self
      rw [atF, atG, Option.some.injEq, Option.some.injEq] at missingHere
      have step : x = y ∧ xs'.reduceOption = ys'.reduceOption := by
        cases x with
        | none =>
            obtain rfl : y = none := missingHere.mp rfl
            exact ⟨rfl, by simpa using same⟩
        | some m =>
            cases y with
            | none => cases missingHere.mpr rfl
            | some n => simpa using same
      intro item member
      rcases List.mem_cons.mp member with rfl | later
      · rw [atF, atG, step.1]
      · exact ih restF restG (fun other isItem => missing other (List.mem_cons_of_mem a isItem))
          step.2 item later

theorem length_reduceOption_eq
    (first : items.mapM f = some xs) (second : items.mapM g = some ys)
    (missing : ∀ item ∈ items, f item = some none ↔ g item = some none) :
    xs.reduceOption.length = ys.reduceOption.length := by
  induction items generalizing xs ys with
  | nil =>
      obtain rfl : [] = xs := by simpa using first
      obtain rfl : [] = ys := by simpa using second
      rfl
  | cons a items ih =>
      obtain ⟨x, xs', atF, restF, rfl⟩ := mapM_cons_eq_some first
      obtain ⟨y, ys', atG, restG, rfl⟩ := mapM_cons_eq_some second
      have missingHere := missing a List.mem_cons_self
      rw [atF, atG, Option.some.injEq, Option.some.injEq] at missingHere
      have rest := ih restF restG fun item member => missing item (List.mem_cons_of_mem a member)
      cases x with
      | none =>
          obtain rfl : y = none := missingHere.mp rfl
          simpa using rest
      | some m =>
          cases y with
          | none => cases missingHere.mpr rfl
          | some n => simpa using rest

end Missing

end OptionLists
