import Mathlib.Data.Fintype.Basic
import Mathlib.Data.List.Infix
import Mathlib.Logic.Function.Basic
import Mathlib.Order.Nat
import Owprov.Lib.Runs

/-!
# Heartbeats on a topic

The members of a group say on a topic when they join, that they are still there, and when they
leave; a member can also go without a word.  Each reads the topic in order.  When no member is
silent for longer than a time, and no message is on its way for longer than another, what a member
has read tells who is there.
-/

universe u v

namespace Heartbeats

open Runs

variable {ι : Type u} {κ : Type v}

inductive Signal (ι : Type u) (κ : Type v) where
  | join (member : ι)
  | beat (member : ι)
  | leave (member : ι)
  | other (content : κ)

/-- The member is there. -/
def Signal.Announces : Signal ι κ → ι → Prop
  | .join member, i => member = i
  | .beat member, i => member = i
  | .leave _, _ => False
  | .other _, _ => False

def Signal.IsOf : Signal ι κ → ι → Prop
  | .join member, i => member = i
  | .beat member, i => member = i
  | .leave member, i => member = i
  | .other _, _ => False

instance [DecidableEq ι] (signal : Signal ι κ) (i : ι) : Decidable (signal.Announces i) :=
  match signal with
  | .join member => decEq member i
  | .beat member => decEq member i
  | .leave _ => .isFalse id
  | .other _ => .isFalse id

theorem Signal.Announces.isOf {signal : Signal ι κ} {i : ι} (announces : signal.Announces i) :
    signal.IsOf i := by
  cases signal with
  | join member => exact announces
  | beat member => exact announces
  | leave member => exact announces.elim
  | other content => exact announces.elim

/-- A process reads from when it is booted to when it halts, and is up from a join to a leave. -/
inductive Phase where
  | off
  | reading
  | up
  deriving DecidableEq, Repr

/-- A member, with the times when it came up or ceased to be up, and when it was booted, the place
in the topic from where it reads, and what it has read since and when. -/
structure Process (ι : Type u) (κ : Type v) where
  phase : Phase := .off
  changed : ℕ := 0
  booted : ℕ := 0
  since : ℕ := 0
  reads : List ((Signal ι κ × ℕ) × ℕ) := []

/-- The signals with the times when they were posted. -/
structure Topic (ι : Type u) (κ : Type v) where
  clock : ℕ := 0
  posts : List (Signal ι κ × ℕ) := []
  process : ι → Process ι κ := fun _ => {}

variable [DecidableEq ι]

namespace Topic

def set (s : Topic ι κ) (i : ι) (process : Process ι κ) : Topic ι κ :=
  { s with process := Function.update s.process i process }

def post (s : Topic ι κ) (signal : Signal ι κ) : Topic ι κ :=
  { s with posts := s.posts ++ [(signal, s.clock)] }

/-- The messages that are still on their way. -/
def unread (s : Topic ι κ) (i : ι) : List (Signal ι κ × ℕ) :=
  s.posts.drop ((s.process i).since + (s.process i).reads.length)

@[simp]
theorem process_set_self (s : Topic ι κ) (i : ι) (p : Process ι κ) :
    (s.set i p).process i = p := by
  simp [set]

theorem process_set_of_ne (s : Topic ι κ) {i j : ι} (p : Process ι κ) (apart : j ≠ i) :
    (s.set i p).process j = s.process j := by
  simp [set, apart]

end Topic

inductive Action (ι : Type u) (κ : Type v) where
  | wait
  | boot (i : ι)
  | join (i : ι)
  | beat (i : ι)
  | leave (i : ι)
  | halt (i : ι)
  | other (content : κ)
  | read (i : ι) (signal : Signal ι κ)

/-- One atomic step.  A process may be booted to read from any place in the topic, and may halt at
any time. -/
inductive Step : Topic ι κ → Action ι κ → Topic ι κ → Prop where
  | wait {s : Topic ι κ} {now : ℕ} (later : s.clock ≤ now) : Step s .wait { s with clock := now }
  | boot {s : Topic ι κ} {i : ι} {since : ℕ} (off : (s.process i).phase = .off)
      (there : since ≤ s.posts.length) :
      Step s (.boot i) (s.set i
        { s.process i with phase := .reading, booted := s.clock, since := since, reads := [] })
  | join {s : Topic ι κ} {i : ι} (reading : (s.process i).phase = .reading) :
      Step s (.join i)
        ((s.set i { s.process i with phase := .up, changed := s.clock }).post (.join i))
  | beat {s : Topic ι κ} {i : ι} (up : (s.process i).phase = .up) :
      Step s (.beat i) (s.post (.beat i))
  | leave {s : Topic ι κ} {i : ι} (up : (s.process i).phase = .up) :
      Step s (.leave i)
        ((s.set i { s.process i with phase := .reading, changed := s.clock }).post (.leave i))
  | halt {s : Topic ι κ} {i : ι} :
      Step s (.halt i) (s.set i
        { s.process i with
          phase := .off
          changed := if (s.process i).phase = .up then s.clock else (s.process i).changed })
  | other {s : Topic ι κ} {content : κ} : Step s (.other content) (s.post (.other content))
  | read {s : Topic ι κ} {i : ι} {post : Signal ι κ × ℕ} {rest : List (Signal ι κ × ℕ)}
      (runs : (s.process i).phase ≠ .off) (next : s.unread i = post :: rest) :
      Step s (.read i post.1) (s.set i
        { s.process i with reads := (s.process i).reads ++ [(post, s.clock)] })

/-! ## What holds in every run -/

/-- A member reads the topic in order, and no message before it is posted. -/
structure Process.Orderly (p : Process ι κ) (clock : ℕ) (posts : List (Signal ι κ × ℕ)) : Prop where
  there : p.since ≤ posts.length
  read : p.reads.map Prod.fst <+: posts.drop p.since
  sorted : p.reads.Pairwise fun earlier later => earlier.2 ≤ later.2
  past : ∀ reading ∈ p.reads, reading.1.2 ≤ reading.2 ∧ reading.2 ≤ clock
  early : ∀ post ∈ posts.take p.since, post.2 ≤ p.booted

omit [DecidableEq ι] in
theorem Process.Orderly.wait {p : Process ι κ} {clock now : ℕ} {posts : List (Signal ι κ × ℕ)}
    (orderly : p.Orderly clock posts) (later : clock ≤ now) : p.Orderly now posts :=
  { orderly with
    past := fun reading member =>
      ⟨(orderly.past reading member).1, (orderly.past reading member).2.trans later⟩ }

omit [DecidableEq ι] in
theorem Process.Orderly.post {p : Process ι κ} {clock : ℕ} {posts : List (Signal ι κ × ℕ)}
    (orderly : p.Orderly clock posts) (post : Signal ι κ × ℕ) :
    p.Orderly clock (posts ++ [post]) where
  there := orderly.there.trans (by simp)
  read := by
    rw [List.drop_append_of_le_length orderly.there]
    exact orderly.read.trans (List.prefix_append _ _)
  sorted := orderly.sorted
  past := orderly.past
  early := by
    rw [List.take_append_of_le_length orderly.there]
    exact orderly.early

/-- The messages of a member are in the past, the last of them from when it ceased to be up. -/
structure Orderly (s : Topic ι κ) : Prop where
  posted : ∀ post ∈ s.posts, post.2 ≤ s.clock
  sorted : s.posts.Pairwise fun earlier later => earlier.2 ≤ later.2
  process : ∀ i, (s.process i).Orderly s.clock s.posts
  bootedFirst : ∀ i, (s.process i).phase = .up → (s.process i).booted ≤ (s.process i).changed
  changed : ∀ i, (s.process i).changed ≤ s.clock ∧ (s.process i).booted ≤ s.clock
  silent : ∀ i, (s.process i).phase ≠ .up →
    ∀ post ∈ s.posts, post.1.IsOf i → post.2 ≤ (s.process i).changed

/-- What holds of the process that is set, and of the others before, holds of all after. -/
theorem forall_process_set {P : ι → Process ι κ → Prop} {s : Topic ι κ} {i : ι}
    {p : Process ι κ} (others : ∀ j, P j (s.process j)) (own : P i p) (j : ι) :
    P j ((s.set i p).process j) := by
  by_cases same : j = i
  · subst same
    rw [Topic.process_set_self]
    exact own
  · rw [Topic.process_set_of_ne s p same]
    exact others j

theorem Orderly.set {s : Topic ι κ} {i : ι} {p : Process ι κ} (orderly : Orderly s)
    (reads : p.Orderly s.clock s.posts) (bootedFirst : p.phase = .up → p.booted ≤ p.changed)
    (changed : p.changed ≤ s.clock ∧ p.booted ≤ s.clock)
    (silent : p.phase ≠ .up → ∀ post ∈ s.posts, post.1.IsOf i → post.2 ≤ p.changed) :
    Orderly (s.set i p) where
  posted := orderly.posted
  sorted := orderly.sorted
  process := forall_process_set (P := fun _ p => p.Orderly s.clock s.posts) orderly.process reads
  bootedFirst := forall_process_set (P := fun _ p => p.phase = .up → p.booted ≤ p.changed)
    orderly.bootedFirst bootedFirst
  changed := forall_process_set (P := fun _ p => p.changed ≤ s.clock ∧ p.booted ≤ s.clock)
    orderly.changed changed
  silent := forall_process_set
    (P := fun j p => p.phase ≠ .up → ∀ post ∈ s.posts, post.1.IsOf j → post.2 ≤ p.changed)
    orderly.silent silent

omit [DecidableEq ι] in
theorem Orderly.post {s : Topic ι κ} {signal : Signal ι κ} (orderly : Orderly s)
    (late : ∀ i, signal.IsOf i → (s.process i).phase ≠ .up → s.clock ≤ (s.process i).changed) :
    Orderly (s.post signal) where
  posted := by
    intro post member
    rcases List.mem_append.mp member with member | member
    · exact orderly.posted post member
    · rw [List.mem_singleton.mp member]
      exact le_refl _
  sorted := by
    refine List.pairwise_append.mpr ⟨orderly.sorted, List.pairwise_singleton _ _, ?_⟩
    intro earlier member later isLater
    rw [List.mem_singleton.mp isLater]
    exact orderly.posted earlier member
  process i := (orderly.process i).post _
  bootedFirst := orderly.bootedFirst
  changed := orderly.changed
  silent := by
    intro i down post member isOf
    rcases List.mem_append.mp member with member | member
    · exact orderly.silent i down post member isOf
    · obtain rfl := List.mem_singleton.mp member
      exact late i isOf down

theorem Orderly.step {s t : Topic ι κ} {action : Action ι κ} (orderly : Orderly s)
    (step : Step s action t) : Orderly t := by
  cases step with
  | wait later =>
      exact
        { posted := fun post member => (orderly.posted post member).trans later
          sorted := orderly.sorted
          process := fun i => (orderly.process i).wait later
          bootedFirst := orderly.bootedFirst
          changed := fun i =>
            ⟨(orderly.changed i).1.trans later, (orderly.changed i).2.trans later⟩
          silent := orderly.silent }
  | @boot i since off there =>
      have down : (s.process i).phase ≠ .up := by
        rw [off]
        decide
      refine orderly.set ?_ (fun up => by cases up) ⟨(orderly.changed i).1, le_refl _⟩
        fun _ => orderly.silent i down
      exact
        { there := there
          read := List.nil_prefix
          sorted := .nil
          past := fun _ member => (List.not_mem_nil member).elim
          early := fun post member => orderly.posted post (List.mem_of_mem_take member) }
  | @join i reading =>
      have joined := orderly.set (i := i) (p := { s.process i with phase := .up, changed := s.clock })
        { orderly.process i with } (fun _ => (orderly.changed i).2)
        ⟨le_refl _, (orderly.changed i).2⟩ fun down => absurd rfl down
      refine joined.post fun j isOf down => ?_
      obtain rfl : i = j := isOf
      rw [Topic.process_set_self] at down
      exact absurd rfl down
  | @beat i up =>
      refine orderly.post fun j isOf down => ?_
      obtain rfl : i = j := isOf
      exact absurd up down
  | @leave i up =>
      have left := orderly.set (i := i)
        (p := { s.process i with phase := .reading, changed := s.clock })
        { orderly.process i with } (fun up => by cases up) ⟨le_refl _, (orderly.changed i).2⟩
        fun _ post member _ => orderly.posted post member
      refine left.post fun j isOf _ => ?_
      obtain rfl : i = j := isOf
      rw [Topic.process_set_self]
      exact le_refl _
  | @halt i =>
      refine orderly.set { orderly.process i with } (fun up => by cases up) ⟨?_, ?_⟩ ?_
      · split
        · exact le_refl _
        · exact (orderly.changed i).1
      · exact (orderly.changed i).2
      · intro _ post member isOf
        dsimp only
        split
        · exact orderly.posted post member
        · rename_i down
          exact orderly.silent i down post member isOf
  | other => exact orderly.post fun _ isOf => isOf.elim
  | @read i post rest runs next =>
      have own := orderly.process i
      refine orderly.set ?_ (orderly.bootedFirst i) (orderly.changed i) (orderly.silent i)
      have isNext : s.posts.drop (s.process i).since =
          (s.process i).reads.map Prod.fst ++ post :: rest := by
        have whole := List.prefix_append_drop own.read
        rw [List.length_map, List.drop_drop] at whole
        rw [whole, ← next, Topic.unread]
      exact
        { there := own.there
          read := by
            rw [isNext, List.map_append]
            exact ⟨rest, by simp⟩
          sorted := by
            refine List.pairwise_append.mpr ⟨own.sorted, List.pairwise_singleton _ _, ?_⟩
            intro reading member later isLater
            rw [List.mem_singleton.mp isLater]
            exact (own.past reading member).2
          past := by
            intro reading member
            rcases List.mem_append.mp member with member | member
            · exact own.past reading member
            · obtain rfl := List.mem_singleton.mp member
              refine ⟨orderly.posted post ?_, le_refl _⟩
              exact List.mem_of_mem_drop (by rw [isNext]; simp)
          early := own.early }

/-! ## Timely runs -/

/-- No member that is up has been silent for longer than `beat`, and nothing that a member has not
read yet has been there for `delay` since it runs. -/
structure Timely (beat delay : ℕ) (r : ι) (s : Topic ι κ) : Prop where
  beats : ∀ i, (s.process i).phase = .up →
    ∃ post ∈ s.posts, post.1.Announces i ∧ s.clock ≤ post.2 + beat
  delivers : (s.process r).phase ≠ .off →
    ∀ post ∈ s.unread r, s.clock < max post.2 (s.process r).booted + delay

instance [Fintype ι] (beat delay : ℕ) (r : ι) (s : Topic ι κ) : Decidable (Timely beat delay r s) :=
  decidable_of_iff
    ((∀ i, (s.process i).phase = .up →
        ∃ post ∈ s.posts, post.1.Announces i ∧ s.clock ≤ post.2 + beat) ∧
      ((s.process r).phase ≠ .off →
        ∀ post ∈ s.unread r, s.clock < max post.2 (s.process r).booted + delay))
    ⟨fun timely => ⟨timely.1, timely.2⟩, fun timely => ⟨timely.beats, timely.delivers⟩⟩

/-- From some place on a member does nothing but announce itself, and at no time since it came up
had it been silent for longer than `beat`. -/
def Beating (beat : ℕ) (s : Topic ι κ) (i : ι) : Prop :=
  ∃ place : ℕ,
    (∀ n : ℕ, n ≥ place → ∀ post : Signal ι κ × ℕ,
      s.posts[n]? = some post → post.1.IsOf i → post.1.Announces i) ∧
    ∀ time, (s.process i).changed ≤ time → time ≤ s.clock →
      ∃ n : ℕ, n ≥ place ∧ ∃ post : Signal ι κ × ℕ, s.posts[n]? = some post ∧ post.1.Announces i ∧
        post.2 ≤ time ∧ time ≤ post.2 + beat

section Beating

variable {beat delay : ℕ} {s t : Topic ι κ} {action : Action ι κ} {i r : ι}

omit [DecidableEq ι] in
theorem Beating.wait {now : ℕ} (beating : Beating beat s i) (orderly : Orderly s)
    (recent : ∃ post ∈ s.posts, post.1.Announces i ∧ now ≤ post.2 + beat) :
    Beating beat { s with clock := now } i := by
  obtain ⟨place, announces, covered⟩ := beating
  refine ⟨place, announces, fun time since before => ?_⟩
  rcases Nat.le_total time s.clock with already | after
  · exact covered time since already
  · obtain ⟨n, isLater, post, isPost, announced, past, _⟩ :=
      covered s.clock (orderly.changed i).1 (le_refl _)
    obtain ⟨last, isLast, lastAnnounces, young⟩ := recent
    obtain ⟨m, lt, rfl⟩ := List.mem_iff_getElem.mp isLast
    obtain ⟨ltPost, rfl⟩ := List.getElem?_eq_some_iff.mp isPost
    dsimp only at before
    rcases Nat.lt_or_ge m n with earlier | later
    · have inOrder := List.pairwise_iff_getElem.mp orderly.sorted m n lt ltPost earlier
      exact ⟨n, isLater, _, isPost, announced, past.trans after, by omega⟩
    · exact ⟨m, isLater.trans later, _, List.getElem?_eq_getElem lt, lastAnnounces,
        (orderly.posted _ isLast).trans after, before.trans young⟩

omit [DecidableEq ι] in
theorem Beating.post {signal : Signal ι κ} (beating : Beating beat s i)
    (announces : signal.IsOf i → signal.Announces i) : Beating beat (s.post signal) i := by
  obtain ⟨place, onlyAnnounces, covered⟩ := beating
  refine ⟨place, fun n isLater post isPost isOf => ?_, fun time since before => ?_⟩
  · rcases Nat.lt_or_ge n s.posts.length with lt | ge
    · rw [Topic.post, List.getElem?_append_left lt] at isPost
      exact onlyAnnounces n isLater post isPost isOf
    · rw [Topic.post, List.getElem?_append_right ge] at isPost
      obtain rfl := List.mem_singleton.mp (List.mem_of_getElem? isPost)
      exact announces isOf
  · obtain ⟨n, isLater, post, isPost, covers⟩ := covered time since before
    refine ⟨n, isLater, post, ?_, covers⟩
    rw [Topic.post, List.getElem?_append_left (List.getElem?_eq_some_iff.mp isPost).1]
    exact isPost

/-- A member that has just joined. -/
theorem beating_join {p : Process ι κ} (changed : p.changed = s.clock) :
    Beating beat ((s.set i p).post (.join i)) i := by
  have isJoin : ((s.set i p).post (.join i)).posts[s.posts.length]? =
      some (.join i, s.clock) := by
    simp [Topic.post, Topic.set]
  refine ⟨s.posts.length, fun n isLater post isPost isOf => ?_, fun time since before => ?_⟩
  · change (s.posts ++ [(Signal.join i, s.clock)])[n]? = _ at isPost
    rw [List.getElem?_append_right isLater] at isPost
    obtain rfl := List.mem_singleton.mp (List.mem_of_getElem? isPost)
    rfl
  · have later : s.clock ≤ time := by
      change ((s.set i p).process i).changed ≤ time at since
      rw [Topic.process_set_self, changed] at since
      exact since
    exact ⟨_, le_refl _, _, isJoin, rfl, later, before.trans (Nat.le_add_right _ _)⟩

/-- A member that stays up goes on beating. -/
theorem Beating.step (beating : (s.process i).phase = .up → Beating beat s i) (orderly : Orderly s)
    (step : Step s action t) (timely : Timely beat delay r t) (up : (t.process i).phase = .up) :
    Beating beat t i := by
  have unchanged : ∀ {j : ι} {p : Process ι κ},
      (j = i → (s.process i).phase = .up ∧ p.changed = (s.process i).changed) →
      ((s.set j p).process i).phase = .up → Beating beat (s.set j p) i := by
    intro j p same upSet
    by_cases own : i = j
    · subst own
      obtain ⟨upBefore, sameChanged⟩ := same rfl
      obtain ⟨place, announces, covered⟩ := beating upBefore
      refine ⟨place, announces, fun time since before => covered time ?_ before⟩
      rw [Topic.process_set_self] at since
      exact sameChanged ▸ since
    · rw [Topic.process_set_of_ne s p own] at upSet
      obtain ⟨place, announces, covered⟩ := beating upSet
      refine ⟨place, announces, fun time since before => covered time ?_ before⟩
      rw [Topic.process_set_of_ne s p own] at since
      exact since
  cases step with
  | wait later => exact (beating up).wait orderly (timely.beats i up)
  | @boot j since off there =>
      refine unchanged (fun same => ?_) up
      subst same
      rw [Topic.process_set_self] at up
      cases up
  | @join j reading =>
      by_cases own : i = j
      · subst own
        exact beating_join rfl
      · exact (unchanged (fun same => absurd same.symm own) up).post fun isOf => absurd isOf.symm own
  | @beat j _ =>
      refine (beating up).post fun isOf => isOf
  | @leave j _ =>
      have other : j ≠ i := by
        rintro rfl
        change ((s.set j _).process j).phase = .up at up
        rw [Topic.process_set_self] at up
        cases up
      exact (unchanged (fun same => absurd same other) up).post fun isOf => absurd isOf other
  | @halt j =>
      refine unchanged (fun same => ?_) up
      subst same
      rw [Topic.process_set_self] at up
      cases up
  | other => exact (beating up).post fun isOf => isOf.elim
  | @read j post rest runs next =>
      refine unchanged (fun same => ?_) up
      subst same
      rw [Topic.process_set_self] at up
      exact ⟨up, rfl⟩

end Beating

/-- A member has read everything soon after it was posted, or after it was booted itself. -/
def Delivered (delay : ℕ) (p : Process ι κ) : Prop :=
  ∀ reading ∈ p.reads, reading.2 < max reading.1.2 p.booted + delay

/-- What holds of the members in timely runs. -/
structure Kept (beat delay : ℕ) (r : ι) (s : Topic ι κ) : Prop where
  timely : Timely beat delay r s
  orderly : Orderly s
  beating : ∀ i, (s.process i).phase = .up → Beating beat s i
  delivered : Delivered delay (s.process r)

/-- A step of a timely run. -/
def TimelyStep (beat delay : ℕ) (r : ι) (s t : Topic ι κ) : Prop :=
  (∃ action, Step s action t) ∧ Timely beat delay r t

section Runs

variable {beat delay limit : ℕ} {s t : Topic ι κ} {action : Action ι κ} {i r : ι}

theorem Delivered.step (delivered : Delivered delay (s.process r)) (timely : Timely beat delay r s)
    (step : Step s action t) : Delivered delay (t.process r) := by
  have unchanged : ∀ {j : ι} {p : Process ι κ}, (j = r → Delivered delay p) →
      Delivered delay ((s.set j p).process r) := by
    intro j p own
    by_cases same : r = j
    · subst same
      rw [Topic.process_set_self]
      exact own rfl
    · rw [Topic.process_set_of_ne s p same]
      exact delivered
  cases step with
  | wait _ => exact delivered
  | boot _ _ => exact unchanged fun _ _ member => (List.not_mem_nil member).elim
  | join _ => exact unchanged fun same => by subst same; exact delivered
  | beat _ => exact delivered
  | leave _ => exact unchanged fun same => by subst same; exact delivered
  | halt => exact unchanged fun same => by subst same; exact delivered
  | other => exact delivered
  | @read j post rest runs next =>
      refine unchanged fun same => ?_
      subst same
      intro reading member
      rcases List.mem_append.mp member with member | member
      · exact delivered reading member
      · obtain rfl := List.mem_singleton.mp member
        exact timely.delivers runs post (next ▸ List.mem_cons_self)

theorem Kept.step (kept : Kept beat delay r s) (step : TimelyStep beat delay r s t) :
    Kept beat delay r t := by
  obtain ⟨⟨action, step⟩, timely⟩ := step
  exact
    { timely := timely
      orderly := kept.orderly.step step
      beating := fun i up => Beating.step (kept.beating i) kept.orderly step timely up
      delivered := kept.delivered.step kept.timely step }

/-- Nobody runs, and nothing is on the topic. -/
def IsStart (s : Topic ι κ) : Prop :=
  s.posts = [] ∧ ∀ i, s.process i = {}

omit [DecidableEq ι] in
theorem kept_start (start : IsStart s) : Kept beat delay r s := by
  obtain ⟨empty, off⟩ := start
  have notUp : ∀ i, (s.process i).phase ≠ .up := fun i up => by
    rw [off i] at up
    cases up
  refine ⟨⟨fun i up => absurd up (notUp i), fun runs => absurd (by rw [off r]) runs⟩, ?_,
    fun i up => absurd up (notUp i), ?_⟩
  · refine ⟨by simp [empty], by simp [empty], fun i => ?_, fun i up => absurd up (notUp i),
      fun i => ?_, by simp [empty]⟩
    · rw [off i]
      exact
        { there := Nat.zero_le _
          read := List.nil_prefix
          sorted := .nil
          past := fun _ member => (List.not_mem_nil member).elim
          early := fun _ member => (List.not_mem_nil member).elim }
    · rw [off i]
      exact ⟨Nat.zero_le _, Nat.zero_le _⟩
  · rw [off r]
    exact fun _ member => (List.not_mem_nil member).elim

theorem kept_of_run (run : Reachable IsStart (TimelyStep beat delay r) s) : Kept beat delay r s :=
  run.invariant (fun _ => kept_start) fun _ _ => Kept.step

end Runs

/-! ## Detection -/

/-- The last that a member has read of another is that it is there, and no sweep since came later
than `limit` after. -/
def Heard (sweeps : (Signal ι κ × ℕ) × ℕ → Prop) (limit : ℕ) (s : Topic ι κ) (r i : ι) : Prop :=
  ∃ before reading after, (s.process r).reads = before ++ reading :: after ∧
    reading.1.1.Announces i ∧ (∀ later ∈ after, ¬ later.1.1.IsOf i) ∧
    ∀ since ∈ reading :: after, sweeps since → since.2 ≤ reading.2 + limit

/-- The last message of a member is that it leaves. -/
def LeftAt (s : Topic ι κ) (i : ι) (time : ℕ) : Prop :=
  ∃ place : ℕ, s.posts[place]? = some (.leave i, time) ∧
    ∀ n > place, ∀ post : Signal ι κ × ℕ, s.posts[n]? = some post → ¬ post.1.IsOf i

/-- What a member has read of another tells whether it is up, once this has not changed for a
while; it tells of one that leaves sooner. -/
structure Detects (limit beat delay : ℕ) (s : Topic ι κ) (i : ι) (heard : Prop) : Prop where
  up : (s.process i).phase = .up → (s.process i).changed + delay ≤ s.clock → heard
  left : ∀ time, LeftAt s i time → time + delay ≤ s.clock → ¬ heard
  gone : (s.process i).phase ≠ .up →
    (s.process i).changed + limit + beat + 2 * delay < s.clock → ¬ heard

/-- A list with a member of a kind has a last one. -/
theorem exists_last {α : Type u} {p : α → Prop} {l : List α} (some : ∃ x ∈ l, p x) :
    ∃ before x after, l = before ++ x :: after ∧ p x ∧ ∀ y ∈ after, ¬ p y := by
  induction l with
  | nil =>
      obtain ⟨_, member, _⟩ := some
      cases member
  | cons head tail ih =>
      by_cases later : ∃ x ∈ tail, p x
      · obtain ⟨before, x, after, rfl, holds, none⟩ := ih later
        exact ⟨head :: before, x, after, rfl, holds, none⟩
      · obtain ⟨x, member, holds⟩ := some
        rcases List.mem_cons.mp member with rfl | member
        · exact ⟨[], x, tail, rfl, holds, fun y isLater isSuch => later ⟨y, isLater, isSuch⟩⟩
        · exact absurd ⟨x, member, holds⟩ later

section Detection

variable {beat delay limit : ℕ} {s : Topic ι κ} {i r : ι} {n k : ℕ} {post : Signal ι κ × ℕ}
  {reading : (Signal ι κ × ℕ) × ℕ} {sweeps : (Signal ι κ × ℕ) × ℕ → Prop}

omit [DecidableEq ι] in
/-- What a member has read stands in the topic in this order. -/
theorem getElem?_posts_of_read (orderly : Orderly s)
    (isReading : (s.process r).reads[k]? = some reading) :
    s.posts[(s.process r).since + k]? = some reading.1 := by
  obtain ⟨rest, whole⟩ := (orderly.process r).read
  have lt : k < ((s.process r).reads.map Prod.fst).length := by
    rw [List.length_map]
    exact (List.getElem?_eq_some_iff.mp isReading).1
  rw [← List.getElem?_drop, ← whole, List.getElem?_append_left lt, List.getElem?_map, isReading]
  rfl

omit [DecidableEq ι] in
/-- What a member began to read before, and is not on its way any more, it has read. -/
theorem exists_reading_of_since (orderly : Orderly s) (since : (s.process r).since ≤ n)
    (isPost : s.posts[n]? = some post) (arrived : post ∉ s.unread r) :
    ∃ k, (s.process r).since + k = n ∧
      ∃ reading, (s.process r).reads[k]? = some reading ∧ reading.1 = post := by
  obtain ⟨k, rfl⟩ := Nat.exists_eq_add_of_le since
  refine ⟨k, rfl, ?_⟩
  rcases Nat.lt_or_ge k (s.process r).reads.length with lt | ge
  · refine ⟨_, List.getElem?_eq_getElem lt, ?_⟩
    have same := getElem?_posts_of_read orderly (List.getElem?_eq_getElem lt)
    rw [isPost] at same
    exact (Option.some.inj same).symm
  · refine absurd (List.mem_of_getElem? (i := k - (s.process r).reads.length) ?_) arrived
    rw [Topic.unread, List.getElem?_drop, ← isPost]
    congr 1
    omega

omit [DecidableEq ι] in
/-- What was posted after a member was booted, and is not on its way any more, it has read. -/
theorem exists_reading (orderly : Orderly s) (isPost : s.posts[n]? = some post)
    (later : (s.process r).booted < post.2) (arrived : post ∉ s.unread r) :
    ∃ k, (s.process r).since + k = n ∧
      ∃ reading, (s.process r).reads[k]? = some reading ∧ reading.1 = post := by
  refine exists_reading_of_since orderly ?_ isPost arrived
  by_contra early
  have taken : (s.posts.take (s.process r).since)[n]? = some post := by
    rw [List.getElem?_take_of_lt (by omega)]
    exact isPost
  have := (orderly.process r).early post (List.mem_of_getElem? taken)
  omega

omit [DecidableEq ι] in
/-- A member has heard lately of one that beats. -/
theorem exists_recent_reading (kept : Kept beat delay r s) (runs : (s.process r).phase ≠ .off)
    (settled : (s.process r).booted + beat + delay < s.clock)
    (up : (s.process i).phase = .up) (since : (s.process i).changed + delay ≤ s.clock) :
    ∃ k reading, (s.process r).reads[k]? = some reading ∧ reading.1.1.Announces i ∧
      s.clock ≤ reading.2 + beat + delay ∧
      ∀ later ∈ (s.process r).reads.drop k, later.1.1.IsOf i → later.1.1.Announces i := by
  obtain ⟨place, announces, covered⟩ := kept.beating i up
  obtain ⟨n, isLater, post, isPost, announced, past, recent⟩ :=
    covered (s.clock - delay) (by omega) (Nat.sub_le _ _)
  have arrived : post ∉ s.unread r := by
    intro unread
    have := kept.timely.delivers runs post unread
    omega
  obtain ⟨k, isPlace, reading, isReading, rfl⟩ :=
    exists_reading kept.orderly isPost (by omega) arrived
  have causal := (kept.orderly.process r).past reading (List.mem_of_getElem? isReading)
  refine ⟨k, reading, isReading, announced, by omega, ?_⟩
  intro later member isOf
  obtain ⟨m, isMember⟩ := List.mem_iff_getElem?.mp member
  rw [List.getElem?_drop] at isMember
  exact announces _ (by omega) _ (getElem?_posts_of_read kept.orderly isMember) isOf

omit [DecidableEq ι] in
theorem heard_of_up (kept : Kept beat delay r s) (runs : (s.process r).phase ≠ .off)
    (settled : (s.process r).booted + beat + delay < s.clock) (small : beat + delay ≤ limit)
    (up : (s.process i).phase = .up) (since : (s.process i).changed + delay ≤ s.clock) :
    Heard sweeps limit s r i := by
  obtain ⟨k, first, isFirst, announces, recent, onlyAnnounces⟩ :=
    exists_recent_reading kept runs settled up since
  have own := kept.orderly.process r
  obtain ⟨lt, rfl⟩ := List.getElem?_eq_some_iff.mp isFirst
  have isHead := List.drop_eq_getElem_cons lt
  obtain ⟨before, reading, after, split, isOf, none⟩ :=
    exists_last (p := fun reading : (Signal ι κ × ℕ) × ℕ => reading.1.1.IsOf i)
      ⟨_, isHead ▸ List.mem_cons_self, announces.isOf⟩
  have member : reading ∈ (s.process r).reads.drop k := by simp [split]
  have young : s.clock ≤ reading.2 + limit := by
    have sorted := own.sorted.drop (i := k)
    rw [isHead] at sorted member
    rcases List.mem_cons.mp member with rfl | member
    · omega
    · have := List.rel_of_pairwise_cons sorted member
      omega
  refine ⟨(s.process r).reads.take k ++ before, reading, after, ?_,
    onlyAnnounces reading member isOf, none, ?_⟩
  · rw [List.append_assoc, ← split, List.take_append_drop]
  · intro later isLater _
    have isRead : later ∈ (s.process r).reads.drop k := by
      rw [split]
      exact List.mem_append_right _ isLater
    exact ((own.past later (List.mem_of_mem_drop isRead)).2).trans young

omit [DecidableEq ι] in
theorem not_heard_of_left (kept : Kept beat delay r s) (runs : (s.process r).phase ≠ .off)
    (settled : (s.process r).booted + delay ≤ s.clock) {time : ℕ} (left : LeftAt s i time)
    (arrived : time + delay ≤ s.clock) : ¬ Heard sweeps limit s r i := by
  rintro ⟨before, reading, after, split, announces, none, _⟩
  obtain ⟨place, isLeave, last⟩ := left
  have isReading : (s.process r).reads[before.length]? = some reading := by simp [split]
  have isPost := getElem?_posts_of_read kept.orderly isReading
  have earlier : (s.process r).since + before.length < place := by
    rcases Nat.lt_trichotomy ((s.process r).since + before.length) place with lt | same | gt
    · exact lt
    · rw [same, isLeave] at isPost
      rw [← Option.some.inj isPost] at announces
      exact announces.elim
    · exact absurd announces.isOf (last _ gt _ isPost)
  have notUnread : (Signal.leave i, time) ∉ s.unread r := by
    intro unread
    have := kept.timely.delivers runs _ unread
    omega
  obtain ⟨k, isPlace, leave, isRead, isLeaving⟩ :=
    exists_reading_of_since kept.orderly (by omega) isLeave notUnread
  have isAfter : leave ∈ after := by
    rw [split, List.getElem?_append_right (by omega)] at isRead
    obtain ⟨m, isNext⟩ := Nat.exists_eq_succ_of_ne_zero (n := k - before.length) (by omega)
    rw [isNext, Nat.succ_eq_add_one, List.getElem?_cons_succ] at isRead
    exact List.mem_of_getElem? isRead
  refine none leave isAfter ?_
  rw [isLeaving]
  rfl

omit [DecidableEq ι] in
theorem not_heard_of_gone (kept : Kept beat delay r s) (readerUp : (s.process r).phase = .up)
    (settled : (s.process r).changed + limit + beat + 2 * delay < s.clock)
    (down : (s.process i).phase ≠ .up)
    (since : (s.process i).changed + limit + beat + 2 * delay < s.clock)
    (own : ∀ reading, reading.1.1.Announces r → sweeps reading) : ¬ Heard sweeps limit s r i := by
  rintro ⟨before, reading, after, split, announces, _, young⟩
  have runs : (s.process r).phase ≠ .off := by
    rw [readerUp]
    decide
  have booted := kept.orderly.bootedFirst r readerUp
  have process := kept.orderly.process r
  -- the reader has lately read a message of its own
  obtain ⟨k, last, isLast, announcesOwn, recent, _⟩ :=
    exists_recent_reading kept runs (by omega) readerUp (by omega)
  have isRead : reading ∈ (s.process r).reads := by simp [split]
  have isPost : reading.1 ∈ s.posts := by
    obtain ⟨m, isReading⟩ := List.mem_iff_getElem?.mp isRead
    exact List.mem_of_getElem? (getElem?_posts_of_read kept.orderly isReading)
  have silent := kept.orderly.silent i down _ isPost announces.isOf
  have soon := kept.delivered reading isRead
  have late : reading.2 + limit < last.2 := by omega
  have member := List.mem_of_getElem? isLast
  rw [split] at member
  rcases List.mem_append.mp member with isBefore | isSince
  · have sorted := process.sorted
    rw [split] at sorted
    have := (List.pairwise_append.mp sorted).2.2 last isBefore reading List.mem_cons_self
    omega
  · have := young last isSince (own last announcesOwn)
    omega

end Detection

/-- In every timely run a member that has been up for a while detects the others, if the beats and
the way of the messages take no longer than it waits for them, and it sweeps at its own beats. -/
theorem detects_of_run {beat delay limit : ℕ} {s : Topic ι κ} {r : ι}
    {sweeps : (Signal ι κ × ℕ) × ℕ → Prop} (run : Reachable IsStart (TimelyStep beat delay r) s)
    (small : beat + delay ≤ limit) (own : ∀ reading, reading.1.1.Announces r → sweeps reading)
    (readerUp : (s.process r).phase = .up)
    (settled : (s.process r).changed + limit + beat + 2 * delay < s.clock) (i : ι) :
    Detects limit beat delay s i (Heard sweeps limit s r i) := by
  have kept := kept_of_run run
  have booted := kept.orderly.bootedFirst r readerUp
  have runs : (s.process r).phase ≠ .off := by
    rw [readerUp]
    decide
  exact
    { up := heard_of_up kept runs (by omega) small
      left := fun time left arrived => not_heard_of_left kept runs (by omega) left arrived
      gone := fun down since => not_heard_of_gone kept readerUp settled down since own }

end Heartbeats
