import MiniDrop.Server.AutoCollection
/-!
# Automatic collection is single-flight

A slot has at most one trigger row, and only the job that inserted it creates a task for it. Overlap
is tested by a count before the insert: as long as no job counts while another one of the same
target is between the two, at most one automatic task of a target is active.
-/
namespace MiniDrop.AutoCollection

open ScheduleTrigger Base List

variable {sid targetIP taskKind : String} {scheduledAt : Int} {s : Store} {w next : World}
  {action : Action}

/-- The job has claimed the slot and may still create a task. -/
def Job.claimed (sid : String) (scheduledAt : Int) (job : Job) : Bool :=
  job.producer = .schedule sid scheduledAt && [.checkDisk, .count, .create].contains job.stage

/-- The job has counted no active task of the target and is about to create one. -/
def Job.creates (targetIP taskKind : String) (job : Job) : Bool :=
  decide (job.targetIP = targetIP ∧ job.taskKind = taskKind) && job.stage = .create

/-- The job is about to count, and there is nothing to count. -/
def Job.passes (s : Store) (targetIP taskKind : String) (job : Job) : Bool :=
  decide (job.targetIP = targetIP ∧ job.taskKind = taskKind) && job.stage = .count &&
    !s.hasActive targetIP taskKind

/-- The task was created for the slot. -/
def Task.isFor (sid : String) (scheduledAt : Int) (task : Task) : Bool :=
  task.producer = some (.schedule sid scheduledAt)

/-- The task is an active one of the target, and was not requested. -/
def Task.flies (targetIP taskKind : String) (task : Task) : Bool :=
  decide (task.targetIP = targetIP ∧ task.taskKind = taskKind) && task.producer.isSome &&
    active task.status

/-! ## One step of a job -/

/-- The trigger rows after a step: a claim adds the row of its slot, which had none. -/
theorem Job.run_triggers (s : Store) (job : Job) (input : StepInput) (sid : String)
    (scheduledAt : Int) : let rows := s.triggers.countP (isFor sid scheduledAt)
    let out := Job.run s job input
    let left := out.store.triggers.countP (isFor sid scheduledAt)
    (left = rows ∨ left = 1 ∧ rows = 0) ∧
      out.next.countP (Job.claimed sid scheduledAt) +
        out.events.countP (Task.isFor sid scheduledAt) + rows ≤
        [job].countP (Job.claimed sid scheduledAt) + left := by
  obtain ⟨producer, ip, kind, stage⟩ := job
  cases stage with
  | claim =>
    cases producer with
    | schedule own slot =>
      simp only [Job.run]
      split
      · next fresh =>
        simp only [Bool.and_eq_true, Bool.not_eq_true', any_eq_false] at fresh
        by_cases same : own = sid ∧ slot = scheduledAt
        · obtain ⟨rfl, rfl⟩ := same
          have none : s.triggers.countP (isFor own slot) = 0 := countP_eq_zero.mpr fresh.2
          simp only [countP_append, none]
          simp [Job.at, Job.claimed, isFor]
        · simp [Job.at, Job.claimed, isFor, countP_append, same]
      · simp
    | sentinel => cases ok : input.ok <;> simp [Job.run, Job.at, Job.claimed, ok]
  | checkDisk => cases ok : input.ok <;> simp [Job.run, Job.at, Job.claimed, ok]
  | count =>
    simp only [Job.run]
    split
    · simp
    · split <;> simp [Job.at, Job.claimed]
  | create =>
    simp only [Job.run]
    split <;> simp [Job.at, Job.claimed, Job.task, Task.isFor]
  | record =>
    cases producer with
    | schedule =>
      simp only [Job.run]
      rw [countP_map, countP_congr (q := isFor sid scheduledAt) fun trigger _ => ?_]
      · simp
      · dsimp only [Function.comp_apply]
        split <;> rfl
    | sentinel => simp [Job.run]

/-- A job starts to create by passing the count, and then its task is active. -/
theorem Job.run_flights (s : Store) (job : Job) (input : StepInput) (targetIP taskKind : String) :
    (Job.run s job input).next.countP (Job.creates targetIP taskKind) +
        (Job.run s job input).store.tasks.countP (Task.flies targetIP taskKind) ≤
      [job].countP (Job.creates targetIP taskKind) + [job].countP (Job.passes s targetIP taskKind) +
        s.tasks.countP (Task.flies targetIP taskKind) := by
  obtain ⟨producer, ip, kind, stage⟩ := job
  cases stage with
  | claim =>
    cases producer <;> simp only [Job.run] <;> split <;> simp [Job.at, Job.creates]
  | checkDisk => cases ok : input.ok <;> simp [Job.run, Job.at, Job.creates, ok]
  | count =>
    simp only [Job.run]
    split
    · simp
    · split
      · simp [Job.at, Job.creates]
      · next clear =>
        by_cases same : ip = targetIP ∧ kind = taskKind
        · obtain ⟨rfl, rfl⟩ := same
          simp [Job.at, Job.creates, Job.passes, clear]
        · simp [Job.at, Job.creates, same]
  | create =>
    simp only [Job.run]
    split
    · by_cases same : ip = targetIP ∧ kind = taskKind
      · simp +arith [Job.at, Job.creates, Job.task, Task.flies, active, countP_append]
      · have other : ¬(Job.task ⟨producer, ip, kind, .create⟩ input.tid).flies targetIP
            taskKind = true := by
          simp [Job.task, Task.flies, same]
        simp [Job.at, Job.creates, countP_append, other]
    · simp [Job.at, Job.creates]
  | record => cases producer <;> simp [Job.run]

/-! ## Whole runs -/

/-- The claims of a slot, with the tasks created for it, do not outnumber its row. -/
structure Slots (w : World) : Prop where
  unique : ∀ sid scheduledAt, w.store.triggers.countP (isFor sid scheduledAt) ≤ 1
  claims : ∀ sid scheduledAt, w.jobs.countP (Job.claimed sid scheduledAt) +
    w.log.countP (Task.isFor sid scheduledAt) ≤ w.store.triggers.countP (isFor sid scheduledAt)

theorem Slots.step (slots : Slots w) (taken : step w action = some next) : Slots next := by
  cases action with
  | trigger =>
    cases taken
    refine ⟨slots.unique, fun sid scheduledAt => ?_⟩
    have same := slots.claims sid scheduledAt
    simp [countP_append, Job.claimed] at same ⊢
    exact same
  | advance index input =>
    obtain ⟨before, job, after, -, jobs, rfl⟩ := Pool.advance_eq_some taken
    constructor
    · intro sid scheduledAt
      have rows := (Job.run_triggers w.store job input sid scheduledAt).1
      have unique := slots.unique sid scheduledAt
      dsimp only at rows ⊢
      omega
    · intro sid scheduledAt
      have moved := (Job.run_triggers w.store job input sid scheduledAt).2
      have replaced := Pool.countP_replaced (Job.claimed sid scheduledAt) before job
        (Job.run w.store job input).next after
      have claims := slots.claims sid scheduledAt
      rw [jobs] at claims
      have logged : ((Job.run w.store job input).events ++ w.log).countP
          (Task.isFor sid scheduledAt) = _ :=
        countP_append
      dsimp only at moved ⊢
      omega
  | request | setStatus | delete =>
    cases taken
    exact ⟨slots.unique, slots.claims⟩

/-- A job counts only while no job of its target is about to create a task, and an automatic task
that has ended does not become active again. -/
def Alone (w : World) : Action → Prop
  | .advance index _ =>
      ∀ job ∈ w.jobs[index]?, job.passes w.store job.targetIP job.taskKind = true →
      ∀ other ∈ w.jobs, other.creates job.targetIP job.taskKind = false
  | .setStatus tid status => active status = true →
      ∀ task ∈ w.store.tasks, task.tid = tid → task.producer.isSome = true →
      active task.status = true
  | _ => True

instance (w : World) : DecidablePred (Alone w)
  | .advance _ _ => inferInstanceAs (Decidable (∀ job ∈ _, _))
  | .setStatus _ _ => inferInstanceAs (Decidable (_ → _))
  | .trigger _ _ _ | .request _ _ _ | .delete _ => inferInstanceAs (Decidable True)

/-- At most one job of a target is about to create a task or one automatic task of it is active. -/
def Flights (w : World) : Prop :=
  ∀ targetIP taskKind, w.jobs.countP (Job.creates targetIP taskKind) +
    w.store.tasks.countP (Task.flies targetIP taskKind) ≤ 1

theorem Flights.step (flights : Flights w) (alone : Alone w action)
    (taken : step w action = some next) : Flights next := by
  intro targetIP taskKind
  have before := flights targetIP taskKind
  cases action with
  | trigger =>
    cases taken
    simp [countP_append, Job.creates] at before ⊢
    exact before
  | advance index input =>
    obtain ⟨front, job, back, found, jobs, rfl⟩ := Pool.advance_eq_some taken
    have moved := Job.run_flights w.store job input targetIP taskKind
    have replaced := Pool.countP_replaced (Job.creates targetIP taskKind) front job
      (Job.run w.store job input).next back
    rw [← jobs] at replaced
    dsimp only
    by_cases passes : job.passes w.store targetIP taskKind = true
    · -- Nothing is active, and no other job is about to create.
      have test := passes
      simp only [Job.passes, Bool.and_eq_true, decide_eq_true_eq, Bool.not_eq_true'] at test
      obtain ⟨⟨⟨rfl, rfl⟩, counting⟩, clear⟩ := test
      have idle := countP_eq_zero.mpr fun other mem =>
        Bool.eq_false_iff.mp (alone job found passes other mem)
      have grounded : w.store.tasks.countP (Task.flies job.targetIP job.taskKind) = 0 := by
        refine countP_eq_zero.mpr fun task mem flies => ?_
        have inactive := any_eq_false.mp clear task mem
        simp only [Task.flies, Bool.and_eq_true, decide_eq_true_eq] at flies inactive
        exact inactive ⟨flies.1.1, flies.2⟩
      have most : [job].countP (Job.passes w.store job.targetIP job.taskKind) ≤ 1 :=
        countP_le_length
      omega
    · have none : [job].countP (Job.passes w.store targetIP taskKind) = 0 := by simp [passes]
      omega
  | request =>
    cases taken
    simp [countP_append, Task.flies] at before ⊢
    exact before
  | setStatus =>
    cases taken
    refine le_trans (Nat.add_le_add_left ?_ _) before
    rw [countP_map]
    refine countP_mono_left fun task mem flies => ?_
    simp only [Function.comp_apply, Task.flies, Bool.and_eq_true, decide_eq_true_eq] at flies ⊢
    split at flies
    · next own => exact ⟨flies.1, alone flies.2 task mem own flies.1.2⟩
    · exact flies
  | delete =>
    cases taken
    exact le_trans (Nat.add_le_add_left filter_sublist.countP_le _) before

/-- A slot creates at most one task in every run, and in a run whose jobs count alone at most one
automatic task of a target and kind is active at a time. -/
theorem automatic_single_flight {actions : List Action} {w : World}
    (reached : run step { store := {} } actions = some w) :
    (∀ sid scheduledAt, w.log.countP (Task.isFor sid scheduledAt) ≤ 1) ∧
      (Along step Alone { store := {} } actions →
        ∀ targetIP taskKind, w.store.tasks.countP (Task.flies targetIP taskKind) ≤ 1) := by
  constructor
  · intro sid scheduledAt
    have start : Slots { store := {} } := ⟨fun _ _ => Nat.zero_le _, fun _ _ => le_rfl⟩
    have slots := run_invariant (fun _ _ _ inv taken => inv.step taken) start reached
    have claims := slots.claims sid scheduledAt
    have unique := slots.unique sid scheduledAt
    omega
  · intro alone targetIP taskKind
    have start : Flights { store := {} } := fun _ _ => Nat.zero_le _
    have flights := run_invariant_along (fun _ _ _ inv allowed taken => inv.step allowed taken)
      start alone reached
    exact le_trans (Nat.le_add_left _ _) (flights targetIP taskKind)

/-- Two schedules of one target are due, and the second counts after the first has created its
task. -/
def inTurn : List Action :=
  [.trigger (.schedule "s1" 60) "10.0.0.1" "cpu", .trigger (.schedule "s2" 60) "10.0.0.1" "cpu",
    .advance 0 {}, .advance 0 {}, .advance 0 {}, .advance 0 { tid := "t1" }, .advance 1 {},
    .advance 1 {}, .advance 1 {}]

/-- In turn, one task is created. -/
theorem in_turn_single_flight : ∃ w, run step { store := {} } inTurn = some w ∧
    Along step Alone { store := {} } inTurn ∧ w.log.length = 1 ∧
      ∀ targetIP taskKind, w.store.tasks.countP (Task.flies targetIP taskKind) ≤ 1 := by
  obtain ⟨w, reached, one⟩ : ∃ w, run step { store := {} } inTurn = some w ∧ w.log.length = 1 :=
    exists_run (by decide)
  have alone : Along step Alone { store := {} } inTurn :=
    along_of_decide (by decide)
  exact ⟨w, reached, alone, one, (automatic_single_flight reached).2 alone⟩

/-- A schedule and a sentinel rule count at the same time, and both create a task. -/
theorem overlapping_counts_fly_twice :
    ∃ w, run step { store := {} }
      [.trigger (.schedule "s1" 60) "10.0.0.1" "cpu", .trigger (.sentinel "r1") "10.0.0.1" "cpu",
        .advance 0 {}, .advance 0 {}, .advance 1 {}, .advance 1 {}, .advance 0 {}, .advance 1 {},
          .advance 0 { tid := "t1" },
        .advance 1 { tid := "t2" }] = some w ∧
      w.store.tasks.countP (Task.flies "10.0.0.1" "cpu") = 2 :=
  exists_run (by decide)

end MiniDrop.AutoCollection
