import Mathlib.Algebra.Order.Ring.Int
import Mathlib.Data.List.Count

/-!
# Counting calls in fixed windows

A limiter admits a number of calls in a window that begins with a call and lasts for a period; the
next call after it begins the next window.  Any stretch of time as long as the period overlaps two
windows at most.  A window may be forgotten once it is over.
-/

namespace FixedWindow

/-- When the current window began and how many calls it has seen. -/
structure Window where
  start : ℤ
  count : ℕ
  deriving DecidableEq, Repr

/-- The window after a call. -/
def next (period now : ℤ) : Option Window → Window
  | none => { start := now, count := 1 }
  | some window =>
      if now - window.start < period then
        { window with count := window.count + 1 }
      else
        { start := now, count := 1 }

/-- The call is admitted. -/
def admits (period : ℤ) (limit : ℕ) (now : ℤ) : Option Window → Bool
  | none => true
  | some window => decide (now - window.start < period → window.count + 1 ≤ limit)

/-- What happens at a time. -/
inductive Event where
  | call
  | forget
  deriving DecidableEq, Repr

/-- The window and the times of the admitted calls after events, the last event first. -/
def after (period : ℤ) (limit : ℕ) : List (Event × ℤ) → Option Window × List ℤ
  | [] => (none, [])
  | (.call, now) :: earlier =>
      (some (next period now (after period limit earlier).1),
        if admits period limit now (after period limit earlier).1 then
          now :: (after period limit earlier).2
        else
          (after period limit earlier).2)
  | (.forget, _) :: earlier => (none, (after period limit earlier).2)

/-- The number of the admitted calls in a period. -/
def within (period first : ℤ) (admitted : List ℤ) : ℕ :=
  admitted.countP fun time => decide (first ≤ time ∧ time < first + period)

/-- The window is over. -/
def Over (period now : ℤ) (window : Option Window) : Prop :=
  ∀ w ∈ window, w.start + period ≤ now

/-- Time goes on, and only a window that is over is forgotten. -/
inductive Orderly (period : ℤ) (limit : ℕ) : List (Event × ℤ) → Prop
  | start : Orderly period limit []
  | step {event : Event} {now : ℤ} {earlier : List (Event × ℤ)}
      (orderly : Orderly period limit earlier) (later : ∀ past ∈ earlier, past.2 ≤ now)
      (isOver : event = .forget → Over period now (after period limit earlier).1) :
      Orderly period limit ((event, now) :: earlier)

/-! ## At most twice the limit -/

section Bounds

variable {period : ℤ} {limit bound : ℕ} {now last : ℤ} {window : Option Window}
  {admitted : List ℤ}

/-- What is known of the admitted calls by the current window: how many there are in a period that
begins after the window began, and in one in which it began. -/
structure Fits (period : ℤ) (bound : ℕ) (window : Window) (admitted : List ℤ) : Prop where
  counted : 1 ≤ window.count
  inside : ∀ first, window.start < first → within period first admitted ≤ min window.count bound
  across : ∀ first, first ≤ window.start → window.start < first + period →
    within period first admitted ≤ bound + min window.count bound

/-- The invariant, with the time of the last event. -/
structure Bounded (period : ℤ) (bound : ℕ) (window : Option Window) (last : ℤ)
    (admitted : List ℤ) : Prop where
  past : ∀ time ∈ admitted, time ≤ last
  twice : ∀ first, within period first admitted ≤ 2 * bound
  fits : ∀ w ∈ window, w.start ≤ last ∧ Fits period bound w admitted
  fresh : window = none → ∀ first, last < first + period → within period first admitted ≤ bound

theorem within_cons (first : ℤ) :
    within period first (now :: admitted) =
      within period first admitted + if first ≤ now ∧ now < first + period then 1 else 0 := by
  rw [within, List.countP_cons, within]
  simp only [decide_eq_true_eq]

theorem Bounded.later (bounded : Bounded period bound window last admitted) (later : last ≤ now) :
    Bounded period bound window now admitted where
  past time member := (bounded.past time member).trans later
  twice := bounded.twice
  fits w isWindow := ⟨(bounded.fits w isWindow).1.trans later, (bounded.fits w isWindow).2⟩
  fresh none first recent := bounded.fresh none first (later.trans_lt recent)

/-- Only calls of the window that is over are recent. -/
theorem Bounded.recent (bounded : Bounded period bound window now admitted)
    (isOver : Over period now window) {first : ℤ} (recent : now < first + period) :
    within period first admitted ≤ bound := by
  cases window with
  | none => exact bounded.fresh rfl first recent
  | some w =>
      have ended := isOver w rfl
      have inside := ((bounded.fits w rfl).2.inside first (by omega))
      omega

/-- A window that is over is forgotten. -/
theorem Bounded.forget (bounded : Bounded period bound window now admitted)
    (isOver : Over period now window) : Bounded period bound none now admitted where
  past := bounded.past
  twice := bounded.twice
  fits _ isWindow := by cases isWindow
  fresh _ _ recent := bounded.recent isOver recent

/-- A call in the window is counted, and admitted or not. -/
theorem Bounded.count {w : Window} (bounded : Bounded period bound (some w) now admitted)
    (open' : now - w.start < period) {admits : Bool}
    (limited : admits = true → w.count + 1 ≤ bound) :
    Bounded period bound (some { w with count := w.count + 1 }) now
      (if admits then now :: admitted else admitted) := by
  obtain ⟨began, counted, inside, across⟩ := bounded.fits w rfl
  cases admits with
  | false =>
      rw [if_neg Bool.false_ne_true]
      refine ⟨bounded.past, bounded.twice, ?_, fun none => by cases none⟩
      intro w' isWindow
      cases isWindow
      refine ⟨began, by simp, fun first later => ?_, fun first earlier within => ?_⟩
      · have := inside first later
        dsimp only
        omega
      · have := across first earlier within
        dsimp only
        omega
  | true =>
      have room := limited rfl
      rw [if_pos rfl]
      refine ⟨?_, fun first => ?_, ?_, fun none => by cases none⟩
      · intro time member
        rcases List.mem_cons.mp member with rfl | member
        · exact le_refl _
        · exact bounded.past time member
      · rw [within_cons]
        have := bounded.twice first
        split
        · rename_i hit
          by_cases later : w.start < first
          · have := inside first later
            omega
          · have := across first (by omega) (by omega)
            omega
        · omega
      · intro w' isWindow
        cases isWindow
        refine ⟨began, by simp, fun first later => ?_, fun first earlier hit => ?_⟩
        · have := inside first later
          rw [within_cons]
          dsimp only
          split <;> omega
        · have := across first earlier hit
          rw [within_cons]
          dsimp only
          split <;> omega

end Bounds

end FixedWindow
