import Mathlib.Data.List.Nodup
import Mathlib.Logic.Function.Basic
import Mathlib.Order.Nat
import Owprov.Lib.Runs

/-!
# The job controller

The handlers of the venues hand jobs to `JobController`.  Every two seconds its thread goes through
`jobs_` twice: it starts the jobs that wait, as long as more threads of the pool are free than in
use, and then takes out the jobs that are complete.  The jobs run and end in between.
-/

namespace Owprov

open Runs

/-- Where the thread of the controller is.  Both loops hold the mutex; the first knows whether the
pool had room when it began. -/
inductive ControllerPhase where
  | sleeping
  | starting (rest : List ℕ) (room : Bool)
  | sweeping (rest : List ℕ)

/-- The controller with its jobs by number, the jobs that have a thread, the jobs that were ever
added and those that were started, each in order, and how many loops that began with room have
ended. -/
structure JobServer where
  jobs : List ℕ := []
  started : ℕ → Bool := fun _ => false
  completed : ℕ → Bool := fun _ => false
  pool : List ℕ := []
  controller : ControllerPhase := .sleeping
  added : List ℕ := []
  runs : List ℕ := []
  roomy : ℕ := 0

namespace JobServer

/-- `Pool_.used() < Pool_.available()`. -/
def hasRoom (capacity : ℕ) (s : JobServer) : Bool :=
  decide (s.pool.length < capacity - s.pool.length)

/-- `Start`, and the thread of the pool. -/
def start (s : JobServer) (job : ℕ) : JobServer :=
  { s with
    started := Function.update s.started job true
    pool := s.pool ++ [job]
    runs := s.runs ++ [job] }

/-- The body of the first loop. -/
def visit (capacity : ℕ) (s : JobServer) (job : ℕ) : JobServer :=
  if !s.started job && s.hasRoom capacity then s.start job else s

/-- The body of the second loop. -/
def sweep (s : JobServer) (job : ℕ) : JobServer :=
  if s.completed job then { s with jobs := s.jobs.erase job } else s

def waiting (s : JobServer) : List ℕ :=
  s.jobs.filter fun job => !s.started job

end JobServer

/-- One atomic step of the controller, of a handler or of a job.  A job that throws ends without
being complete. -/
inductive JobStep (capacity : ℕ) : JobServer → JobServer → Prop where
  | addJob {s : JobServer} {job : ℕ} (unlocked : s.controller = .sleeping) (new : job ∉ s.added) :
      JobStep capacity s { s with jobs := s.jobs ++ [job], added := s.added ++ [job] }
  | wake {s : JobServer} (sleeping : s.controller = .sleeping) :
      JobStep capacity s { s with controller := .starting s.jobs (s.hasRoom capacity) }
  | visit {s : JobServer} {job : ℕ} {rest : List ℕ} {room : Bool}
      (starting : s.controller = .starting (job :: rest) room) :
      JobStep capacity s { s.visit capacity job with controller := .starting rest room }
  | turn {s : JobServer} {room : Bool} (visited : s.controller = .starting [] room) :
      JobStep capacity s
        { s with controller := .sweeping s.jobs, roomy := s.roomy + room.toNat }
  | sweep {s : JobServer} {job : ℕ} {rest : List ℕ}
      (sweeping : s.controller = .sweeping (job :: rest)) :
      JobStep capacity s { s.sweep job with controller := .sweeping rest }
  | sleep {s : JobServer} (swept : s.controller = .sweeping []) :
      JobStep capacity s { s with controller := .sleeping }
  | complete {s : JobServer} {job : ℕ} (runs : job ∈ s.pool) :
      JobStep capacity s { s with completed := Function.update s.completed job true }
  | leave {s : JobServer} {job : ℕ} (ends : job ∈ s.pool) :
      JobStep capacity s { s with pool := s.pool.erase job }

/-! ## Safety -/

/-- Every job is started at most once, at most half of the threads are in use, and a job that was
added is still there unless it is complete. -/
structure JobsSound (capacity : ℕ) (s : JobServer) : Prop where
  addedOnce : s.added.Nodup
  inOrder : s.jobs.Sublist s.added
  startedOnce : s.runs.Nodup
  isStarted : ∀ job, s.started job = true ↔ job ∈ s.runs
  runsAdded : s.runs ⊆ s.added
  poolOnce : s.pool.Nodup
  poolRuns : s.pool ⊆ s.runs
  few : 2 * s.pool.length ≤ capacity + 1
  completeRuns : ∀ job, s.completed job = true → job ∈ s.runs
  present : ∀ job ∈ s.added, job ∈ s.jobs ∨ s.completed job = true
  visiting : ∀ rest room, s.controller = .starting rest room → rest ⊆ s.jobs

section Safety

variable {capacity : ℕ} {s t : JobServer} {job : ℕ}

theorem JobsSound.start (sound : JobsSound capacity s) (added : job ∈ s.added)
    (waits : s.started job = false) (room : s.hasRoom capacity = true) :
    JobsSound capacity (s.start job) := by
  have new : job ∉ s.runs := fun runs => by
    rw [(sound.isStarted job).mpr runs] at waits
    cases waits
  have few : s.pool.length < capacity - s.pool.length := of_decide_eq_true room
  exact
    { sound with
      startedOnce := List.nodup_append.mpr ⟨sound.startedOnce, List.nodup_singleton job, by
        rintro other isRun later isJob rfl
        exact new (List.mem_singleton.mp isJob ▸ isRun)⟩
      isStarted := by
        intro other
        by_cases same : other = job
        · simp [JobServer.start, same]
        · simp [JobServer.start, same, sound.isStarted other]
      runsAdded := by
        intro other isRun
        rcases List.mem_append.mp isRun with isRun | isJob
        · exact sound.runsAdded isRun
        · exact List.mem_singleton.mp isJob ▸ added
      poolOnce := List.nodup_append.mpr ⟨sound.poolOnce, List.nodup_singleton job, by
        rintro other inPool later isJob rfl
        exact new (List.mem_singleton.mp isJob ▸ sound.poolRuns inPool)⟩
      poolRuns := List.append_subset.mpr
        ⟨List.subset_append_of_subset_left _ sound.poolRuns, List.subset_append_right _ _⟩
      few := by
        simp only [JobServer.start, List.length_append, List.length_singleton]
        omega
      completeRuns := fun other isComplete =>
        List.mem_append_left _ (sound.completeRuns other isComplete) }

theorem JobsSound.step (sound : JobsSound capacity s) (step : JobStep capacity s t) :
    JobsSound capacity t := by
  cases step with
  | @addJob job unlocked new =>
      exact
        { sound with
          addedOnce := List.nodup_append.mpr ⟨sound.addedOnce, List.nodup_singleton job, by
            rintro other isAdded later isJob rfl
            exact new (List.mem_singleton.mp isJob ▸ isAdded)⟩
          inOrder := sound.inOrder.append (.refl _)
          runsAdded := List.subset_append_of_subset_left _ sound.runsAdded
          present := by
            intro other isAdded
            rcases List.mem_append.mp isAdded with isAdded | isJob
            · exact (sound.present other isAdded).imp_left (List.mem_append_left _)
            · exact .inl (List.mem_append_right _ isJob)
          visiting := by
            intro rest room starting
            dsimp only at starting
            rw [unlocked] at starting
            cases starting }
  | wake sleeping =>
      refine { sound with visiting := ?_ }
      intro rest room starting
      cases starting
      exact List.Subset.refl _
  | @visit job rest room starting =>
      have isJob := sound.visiting _ _ starting
      have later : ∀ {u : JobServer}, u.jobs = s.jobs → ∀ rest' room',
          { u with controller := ControllerPhase.starting rest room }.controller =
            .starting rest' room' → rest' ⊆ u.jobs := by
        intro u same rest' room' visiting
        cases visiting
        rw [same]
        exact List.subset_of_cons_subset isJob
      unfold JobServer.visit
      split
      · rename_i starts
        rw [Bool.and_eq_true, Bool.not_eq_true'] at starts
        have added := sound.inOrder.subset (isJob List.mem_cons_self)
        exact { sound.start added starts.1 starts.2 with visiting := later rfl }
      · exact { sound with visiting := later rfl }
  | turn visited => exact { sound with visiting := fun rest room starting => by cases starting }
  | @sweep job rest sweeping =>
      unfold JobServer.sweep
      split
      · rename_i isComplete
        exact
          { sound with
            inOrder := (List.erase_sublist).trans sound.inOrder
            present := by
              intro other isAdded
              by_cases same : other = job
              · exact .inr (same ▸ isComplete)
              · exact (sound.present other isAdded).imp_left (List.mem_erase_of_ne same).mpr
            visiting := fun rest room starting => by cases starting }
      · exact { sound with visiting := fun rest room starting => by cases starting }
  | sleep swept => exact { sound with visiting := fun rest room starting => by cases starting }
  | @complete job runs =>
      exact
        { sound with
          completeRuns := by
            intro other isComplete
            by_cases same : other = job
            · rw [same]
              exact sound.poolRuns runs
            · dsimp only at isComplete
              rw [Function.update_of_ne same] at isComplete
              exact sound.completeRuns other isComplete
          present := by
            intro other isAdded
            refine (sound.present other isAdded).imp_right fun isComplete => ?_
            by_cases same : other = job
            · simp [same]
            · simp [same, isComplete] }
  | @leave job ends =>
      have fewer := List.length_erase_of_mem ends
      exact
        { sound with
          poolOnce := sound.poolOnce.erase job
          poolRuns := List.Subset.trans List.erase_subset sound.poolRuns
          few := by
            have := sound.few
            dsimp only
            omega }

/-- Nothing was added yet. -/
def IsIdle (s : JobServer) : Prop :=
  s = {}

theorem JobsSound.of_run (run : Reachable IsIdle (JobStep capacity) s) :
    JobsSound capacity s := by
  refine run.invariant (fun s idle => ?_) fun _ _ => JobsSound.step
  subst idle
  exact
    { addedOnce := .nil
      inOrder := .refl _
      startedOnce := .nil
      isStarted := by simp
      runsAdded := List.Subset.refl _
      poolOnce := .nil
      poolRuns := List.Subset.refl _
      few := by simp
      completeRuns := by simp
      present := by simp
      visiting := by simp }

end Safety

/-- In every run, whatever the handlers add and whenever jobs end, every job is started at most
once, no more than half of the threads are in use, and a job that was added is in the list, in its
place, until it is complete. -/
theorem jobs_sound_of_run {capacity : ℕ} {s : JobServer}
    (run : Reachable IsIdle (JobStep capacity) s) :
    s.runs.Nodup ∧ 2 * s.pool.length ≤ capacity + 1 ∧ s.jobs.Sublist s.added ∧
      ∀ job ∈ s.added, job ∈ s.jobs ∨ s.completed job = true ∧ job ∈ s.runs := by
  have sound := JobsSound.of_run run
  refine ⟨sound.startedOnce, sound.few, sound.inOrder, fun job isAdded => ?_⟩
  exact (sound.present job isAdded).imp_right fun isComplete =>
    ⟨isComplete, sound.completeRuns job isComplete⟩

/-- A job is started, ends and is taken out. -/
theorem sound_after_job : ∃ s : JobServer, s.jobs = [] ∧ s.runs = [7] ∧
    (s.runs.Nodup ∧ 2 * s.pool.length ≤ 16 + 1 ∧ s.jobs.Sublist s.added ∧
      ∀ job ∈ s.added, job ∈ s.jobs ∨ s.completed job = true ∧ job ∈ s.runs) := by
  have idle : Reachable IsIdle (JobStep 16) {} := .start rfl
  have added := idle.step (.addJob rfl (show 7 ∉ [] by decide))
  have awake := added.step (.wake rfl)
  have visited := awake.step (.visit rfl)
  have completed := visited.step (.complete (show 7 ∈ [7] by decide))
  have ended := completed.step (.leave (show 7 ∈ [7] by decide))
  have turned := ended.step (.turn rfl)
  have swept := turned.step (.sweep rfl)
  exact ⟨_, by decide, by decide, jobs_sound_of_run swept⟩

/-! ## Progress -/

/-- The jobs that wait before a job are fewer for every loop that began with room since.  In such a
loop an older job has already been started, or there is still room and all that wait are ahead. -/
def Advances (capacity bound ahead : ℕ) (s : JobServer) : Prop :=
  match s.controller with
  | .starting rest true =>
      s.roomy + ahead + 1 ≤ bound ∨
        s.roomy + ahead ≤ bound ∧ s.hasRoom capacity = true ∧
          s.waiting = rest.filter fun job => !s.started job
  | _ => s.roomy + ahead ≤ bound

/-- The job was started, or its turn comes nearer. -/
def ComesUp (capacity bound job : ℕ) (s : JobServer) : Prop :=
  job ∈ s.runs ∨ ∃ ahead behind, s.waiting = ahead ++ job :: behind ∧
    Advances capacity bound ahead.length s

section Progress

variable {capacity bound job other : ℕ} {s t : JobServer}

theorem waiting_start : (s.start other).waiting = s.waiting.filter (· != other) := by
  unfold JobServer.waiting JobServer.start
  rw [List.filter_filter]
  refine List.filter_congr fun job _ => ?_
  by_cases same : job = other <;> simp [same]

/-- An older job that is started is out of the way. -/
theorem exists_waiting_start {ahead behind : List ℕ} (waiting : s.waiting = ahead ++ job :: behind)
    (new : other ≠ job) : ∃ ahead' behind', (s.start other).waiting = ahead' ++ job :: behind' ∧
      ahead'.length ≤ ahead.length ∧ (other ∈ ahead → ahead'.length + 1 ≤ ahead.length) := by
  refine ⟨ahead.filter (· != other), behind.filter (· != other), ?_, List.length_filter_le _ _, ?_⟩
  · rw [waiting_start, waiting, List.filter_append,
      List.filter_cons_of_pos (by simpa using new.symm)]
  · intro member
    refine Nat.succ_le_of_lt (List.length_filter_lt_length_iff_exists.mpr ⟨other, member, ?_⟩)
    simp

theorem waiting_sweep (once : s.jobs.Nodup) (started : s.completed other → s.started other) :
    (s.sweep other).waiting = s.waiting := by
  unfold JobServer.sweep
  split
  · rename_i isComplete
    unfold JobServer.waiting
    dsimp only
    rw [once.erase_eq_filter, List.filter_filter]
    refine List.filter_congr fun job _ => ?_
    by_cases same : job = other
    · simp [same, started isComplete]
    · simp [same]
  · rfl

/-- What a step that is not of the controller leaves, or makes easier. -/
theorem Advances.mono {ahead : ℕ} (advances : Advances capacity bound ahead s)
    (controller : t.controller = s.controller) (roomy : t.roomy = s.roomy)
    (started : t.started = s.started) (waiting : t.waiting = s.waiting)
    (room : s.hasRoom capacity = true → t.hasRoom capacity = true) :
    Advances capacity bound ahead t := by
  unfold Advances at advances ⊢
  rw [controller, roomy, started, waiting]
  split
  · rename_i rest phase
    rw [phase] at advances
    exact advances.imp_right fun same => ⟨same.1, room same.2.1, same.2.2⟩
  · rename_i others
    split at advances
    · rename_i rest phase
      exact absurd phase (others rest)
    · exact advances

/-- The turn of a job comes nearer when an older one is visited in a loop that began with room. -/
theorem comesUp_visit {rest ahead behind : List ℕ} {room : Bool}
    (starting : s.controller = .starting (other :: rest) room)
    (waiting : s.waiting = ahead ++ job :: behind)
    (advances : Advances capacity bound ahead.length s) :
    ComesUp capacity bound job
      { s.visit capacity other with controller := .starting rest room } := by
  unfold Advances at advances
  rw [starting] at advances
  unfold JobServer.visit
  by_cases starts : (!s.started other && s.hasRoom capacity) = true
  · rw [if_pos starts]
    by_cases same : other = job
    · exact .inl (List.mem_append_right _ (List.mem_singleton.mpr same.symm))
    · obtain ⟨ahead', behind', isWaiting, fewer, older⟩ := exists_waiting_start waiting same
      refine .inr ⟨ahead', behind', isWaiting, ?_⟩
      cases room with
      | false =>
          change s.roomy + _ ≤ bound
          have : s.roomy + ahead.length ≤ bound := advances
          omega
      | true =>
          refine .inl ?_
          change s.roomy + _ + 1 ≤ bound
          rcases advances with advances | ⟨advances, _, all⟩
          · omega
          · rw [Bool.and_eq_true] at starts
            rw [List.filter_cons, if_pos starts.1, waiting] at all
            have isAhead : other ∈ ahead := by
              cases ahead with
              | nil => exact absurd (List.cons.inj all).1.symm same
              | cons first ahead =>
                  rw [← (List.cons.inj all).1]
                  exact List.mem_cons_self
            have := older isAhead
            omega
  · rw [if_neg starts]
    refine .inr ⟨ahead, behind, waiting, ?_⟩
    cases room with
    | false => exact advances
    | true =>
        rcases advances with advances | ⟨advances, isRoom, all⟩
        · exact .inl advances
        · rw [isRoom, Bool.and_true] at starts
          rw [List.filter_cons, if_neg starts] at all
          exact .inr ⟨advances, isRoom, all⟩

theorem ComesUp.step (sound : JobsSound capacity s) (comes : ComesUp capacity bound job s)
    (step : JobStep capacity s t) : ComesUp capacity bound job t := by
  rcases comes with started | ⟨ahead, behind, waiting, advances⟩
  · refine .inl ?_
    cases step with
    | visit _ =>
        unfold JobServer.visit
        split
        · exact List.mem_append_left _ started
        · exact started
    | sweep _ =>
        unfold JobServer.sweep
        split <;> exact started
    | _ => exact started
  · cases step with
    | @addJob new unlocked _ =>
        refine .inr ⟨ahead, behind ++ [new].filter fun job => !s.started job, ?_, ?_⟩
        · rw [← List.cons_append, ← List.append_assoc, ← waiting]
          exact List.filter_append _ _
        · unfold Advances at advances ⊢
          rw [unlocked] at advances
          dsimp only
          rw [unlocked]
          exact advances
    | wake sleeping =>
        refine .inr ⟨ahead, behind, waiting, ?_⟩
        unfold Advances at advances ⊢
        rw [sleeping] at advances
        cases room : s.hasRoom capacity with
        | false => exact advances
        | true => exact .inr ⟨advances, room, rfl⟩
    | visit starting => exact comesUp_visit starting waiting advances
    | @turn room visited =>
        refine .inr ⟨ahead, behind, waiting, ?_⟩
        unfold Advances at advances
        rw [visited] at advances
        cases room with
        | false => exact advances
        | true =>
            rcases advances with advances | ⟨_, _, none⟩
            · change s.roomy + 1 + ahead.length ≤ bound
              omega
            · rw [waiting] at none
              exact absurd none (by simp)
    | @sweep other rest sweeping =>
        have once := sound.inOrder.nodup sound.addedOnce
        have same : (s.sweep other).waiting = s.waiting := waiting_sweep once fun isComplete =>
          (sound.isStarted other).mpr (sound.completeRuns other isComplete)
        refine .inr ⟨ahead, behind, same.trans waiting, ?_⟩
        unfold Advances at advances
        rw [sweeping] at advances
        unfold JobServer.sweep
        split <;> exact advances
    | sleep swept =>
        refine .inr ⟨ahead, behind, waiting, ?_⟩
        unfold Advances at advances
        rw [swept] at advances
        exact advances
    | complete _ => exact .inr ⟨ahead, behind, waiting, advances.mono rfl rfl rfl rfl id⟩
    | @leave other ends =>
        refine .inr ⟨ahead, behind, waiting, advances.mono rfl rfl rfl rfl fun room => ?_⟩
        have few : s.pool.length < capacity - s.pool.length := of_decide_eq_true room
        have fewer := List.length_erase_of_mem ends
        refine decide_eq_true ?_
        dsimp only
        omega

end Progress

/-- Whatever is added and whenever jobs end, a job that waits has been started by the time that one
more loop has begun with room than there were jobs waiting before it. -/
theorem started_of_roomy {capacity job : ℕ} {s t : JobServer}
    (reached : Reachable IsIdle (JobStep capacity) s) (unlocked : s.controller = .sleeping)
    {ahead behind : List ℕ} (waits : s.waiting = ahead ++ job :: behind)
    (run : Relation.ReflTransGen (JobStep capacity) s t)
    (enough : s.roomy + ahead.length < t.roomy) : job ∈ t.runs := by
  have sound := JobsSound.of_run reached
  have initially : ComesUp capacity (s.roomy + ahead.length) job s := by
    refine .inr ⟨ahead, behind, waits, ?_⟩
    unfold Advances
    rw [unlocked]
  have comes : JobsSound capacity t ∧ ComesUp capacity (s.roomy + ahead.length) job t := by
    clear enough
    induction run with
    | refl => exact ⟨sound, initially⟩
    | tail _ last ih => exact ⟨ih.1.step last, ih.2.step ih.1 last⟩
  rcases comes.2 with started | ⟨ahead', behind', waiting, advances⟩
  · exact started
  · unfold Advances at advances
    split at advances
    · rcases advances with advances | ⟨advances, _⟩ <;> omega
    · omega

theorem first_job_started : ∃ t : JobServer, t.roomy = 1 ∧ 7 ∈ t.runs := by
  have idle : Reachable IsIdle (JobStep 16) {} := .start rfl
  have added := idle.step (.addJob rfl (show 7 ∉ [] by decide))
  have awake : JobStep 16 { jobs := [7], added := [7] } _ := .wake rfl
  have turned := ((Relation.ReflTransGen.single awake).tail (.visit rfl)).tail (.turn rfl)
  exact ⟨_, by decide, started_of_roomy added rfl (show _ = [] ++ 7 :: [] by decide) turned
    (by decide)⟩

end Owprov
