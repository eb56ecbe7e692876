import MiniDrop.Verif.TaskStatus
/-!
# Delivery at most once

A dispatch reads that its task waits, records an attempt, calls the drop server and only then writes
that the task runs. A claim of an entry that is being processed, or the reconciler, can read the
task in between. In runs in which a task is read as waiting only while no dispatch of it is under
way, the drop server accepts one attempt of it at most.
-/
namespace MiniDrop

open Job TaskStore List Base TaskWorld TaskEvent

variable {task : HotmethodTask} {out : JobOutcome} {job : Job} {before after : List Job}

namespace Job

/-! ## The phases of a dispatch -/

/-- The task of a dispatch that is under way. -/
def dispatched : Job → Option HotmethodTask
  | .dispatching _ task _ => some task
  | .counted _ task _ _ _ => some task
  | .calling _ task _ => some task
  | .accepted _ task _ => some task
  | _ => none

/-- The dispatch of a task that the drop server has not answered yet. -/
def awaits (tid : String) : Job → Bool
  | .dispatching _ task _ => decide (task.tid = tid)
  | .counted _ task _ _ _ => decide (task.tid = tid)
  | .calling _ task _ => decide (task.tid = tid)
  | _ => false

/-- The dispatch of a task that the drop server has accepted, before the status write. -/
def marks (tid : String) : Job → Bool
  | .accepted _ task _ => decide (task.tid = tid)
  | _ => false

/-- The dispatch of a task is under way. -/
def dispatches (tid : String) (job : Job) : Bool := job.awaits tid || job.marks tid

/-- The status that a job has aggregated for a composite task. -/
def aggregate : Job → Option CompositeStatus
  | .saving _ aggregate _ => some aggregate
  | .readingParent _ aggregate _ => some aggregate
  | .movingParent _ aggregate _ => some aggregate
  | _ => none

variable {s : TaskStore} {input : StepInput} {job rest : Job} {tid : String}

theorem Next.dispatched_waiting (follows : Next s input job rest)
    (waiting : ∀ task, job.dispatched = some task → task.status = .created)
    (own : rest.dispatched = some task) : task.status = .created := by
  cases follows with
  | found trigger read created =>
    cases own
    exact created
  | counted | inserted | accepted => exact waiting task own
  | _ => cases own

theorem aggregateCompositeStatus_ne_created (mt : MultiTask) (children : List HotmethodTask) :
    (aggregateCompositeStatus mt children).status ≠ .created := by
  unfold aggregateCompositeStatus
  dsimp only
  split
  · exact nofun
  · cases mt.aggregationPolicy.getD .allRequired with
    | bestEffort | quorum | allRequired | dag =>
      dsimp only
      split_ifs <;> exact nofun

/-- The statuses that are aggregated are not that of a waiting task. -/
theorem Next.aggregate_ne (follows : Next s input job rest)
    (known : ∀ status, job.aggregate = some status → status.status ≠ .created)
    {status : CompositeStatus} (own : rest.aggregate = some status) : status.status ≠ .created := by
  cases follows with
  | aggregated mt =>
    cases own
    exact aggregateCompositeStatus_ne_created mt _
  | saved | differs => exact known status own
  | _ => cases own

end Job

/-- The drop server has accepted an attempt of a task. -/
def TaskEvent.accepts (tid : String) : TaskEvent → Bool
  | .attemptAccepted task _ => decide (task = tid)
  | _ => false

namespace Job

variable {s : TaskStore} {input : StepInput} {job rest : Job} {tid : String}

/-! ## What a step does to a dispatch -/

/-- An entry of the outbox is about to find that its task waits. -/
def ReadsWaiting (s : TaskStore) (tid : String) (job : Job) : Prop :=
  ∃ entry, job = .claimed entry ∧ entry.aggregateID = tid ∧ s.statusOf tid = some .created

/-- What is left of a job awaits the answer for a task only if the job did, or has just read that
the task waits. -/
theorem Next.awaits_before (follows : Next s input job rest) (awaiting : rest.awaits tid = true) :
    job.awaits tid = true ∨ ReadsWaiting s tid job := by
  cases follows with
  | @found entry task trigger read waiting =>
    have own : task.tid = tid := of_decide_eq_true awaiting
    have asked : entry.aggregateID = tid := (findTask_tid read).symm.trans own
    have held := statusOf_of_findTask read
    rw [asked, waiting] at held
    exact Or.inr ⟨entry, rfl, asked, held⟩
  | counted | inserted => exact Or.inl awaiting
  | _ => cases awaiting

theorem Tells.calling_of_accepts {event : TaskEvent} (tells : Tells s input job event)
    (accepts : event.accepts tid = true) :
    ∃ entry task attemptID, job = .calling entry task attemptID ∧ task.tid = tid := by
  cases tells with
  | accepted entry task attemptID | timedOut entry task attemptID =>
    exact ⟨entry, task, attemptID, rfl, of_decide_eq_true accepts⟩
  | _ => cases accepts

theorem run_next_length (s : TaskStore) (job : Job) (input : StepInput) :
    (run s job input).next.length ≤ 1 := by
  rcases (run_does s job input).next with nothing | ⟨rest, left, -⟩
  · rw [nothing]
    exact Nat.zero_le 1
  · rw [left]
    exact le_refl 1

/-- A test that only holds after a step if it held before is passed no more often after it. -/
theorem run_countP_le {test : Job → Bool}
    (before : ∀ rest, Next s input job rest → test rest = true → test job = true) :
    (run s job input).next.countP test ≤ [job].countP test := by
  rcases (run_does s job input).next with nothing | ⟨rest, left, follows⟩
  · rw [nothing]
    exact Nat.zero_le _
  · rw [left]
    by_cases passed : test rest = true
    · simp [passed, before rest follows passed]
    · simp [passed]

theorem calling_awaits (entry : Option Outbox) (task : HotmethodTask) (attemptID : Nat) :
    (run s (.calling entry task attemptID) input).next.countP (awaits tid) = 0 := by
  rcases (run_does s (.calling entry task attemptID) input).next with nothing | ⟨rest, left,
    follows⟩
  · rw [nothing]
    rfl
  · rw [left]
    cases follows <;> rfl

/-- Unless it reads that the task waits, a step leaves no more dispatches than there were. -/
theorem run_dispatches (input : StepInput) (unread : ¬ReadsWaiting s tid job) :
    (run s job input).next.countP (dispatches tid) ≤ [job].countP (dispatches tid) := by
  refine run_countP_le fun rest follows under => ?_
  rw [dispatches, Bool.or_eq_true] at under ⊢
  rcases under with awaiting | marking
  · rcases follows.awaits_before awaiting with own | reads
    · exact Or.inl own
    · exact absurd reads unread
  · left
    cases follows with
    | accepted => exact marking
    | _ => cases marking

/-- Unless it reads that the task waits, a step turns at most its own wait into an acceptance. -/
theorem run_awaits (input : StepInput) (unread : ¬ReadsWaiting s tid job) :
    (run s job input).next.countP (awaits tid) +
      (run s job input).events.countP (accepts tid) ≤ [job].countP (awaits tid) := by
  have left : (run s job input).next.countP (awaits tid) ≤ [job].countP (awaits tid) :=
    run_countP_le fun rest follows awaiting =>
      (follows.awaits_before awaiting).resolve_right unread
  rcases (run_does s job input).events with quiet | ⟨event, told, tells⟩
  · rw [quiet]
    exact left
  · by_cases accepts : event.accepts tid = true
    · obtain ⟨entry, task, attemptID, rfl, own⟩ := tells.calling_of_accepts accepts
      rw [calling_awaits, told]
      simp [accepts, awaits, own]
    · rw [told]
      simpa [accepts] using left

/-- An attempt that was accepted is to be marked, if its call does not time out. -/
theorem run_marks (answered : ∀ entry task attemptID, job = .calling entry task attemptID →
      task.tid = tid → ∀ message, input.grpc ≠ .timedOut message) :
    (run s job input).events.countP (accepts tid) ≤ (run s job input).next.countP (marks tid) := by
  rcases (run_does s job input).events with quiet | ⟨event, told, tells⟩
  · rw [quiet]
    exact Nat.zero_le _
  · by_cases accepts : event.accepts tid = true
    · rw [told]
      cases tells with
      | accepted entry task attemptID answer =>
        have own : task.tid = tid := of_decide_eq_true accepts
        simp [run, call, answer, marks, own, TaskEvent.accepts]
      | timedOut entry task attemptID answer =>
        exact absurd answer (answered entry task attemptID rfl (of_decide_eq_true accepts) _)
      | _ => cases accepts
    · rw [told]
      simp [accepts]

theorem ReadsWaiting.quiet (reads : ReadsWaiting s tid job) : (run s job input).events = [] := by
  obtain ⟨entry, rfl, -, -⟩ := reads
  rcases (run_does s (.claimed entry) input).events with quiet | ⟨event, -, tells⟩
  · exact quiet
  · cases tells

/-- After the status write of an accepted dispatch its task does not wait any more. -/
theorem run_started (marking : job.marks tid = true)
    (waiting : ∀ task, job.dispatched = some task → task.status = .created)
    (present : 0 < s.progress tid) : 1 < (run s job input).store.progress tid := by
  cases job with
  | accepted entry task msg =>
    have own : task.tid = tid := of_decide_eq_true marking
    subst own
    obtain ⟨status, held, -⟩ := status_of_progress present
    have after := statusOf_transition (s := s) task .running
      ("已下发到 drop_server, code=0 msg=" ++ msg) "apiserver" { beginTime := some input.now } input.now
      task.tid
    rw [waiting task rfl, held] at after
    change 1 < progress (transitionTaskStatus s task .running _ _ _ _).1 task.tid
    cases status with
    | created =>
      rw [if_pos ⟨rfl, rfl⟩] at after
      rw [progress_of_status after]
      decide
    | running | done | failed | uploading | canceled =>
      rw [if_neg (fun both => nomatch both.2)] at after
      rw [progress_of_status after]
      decide
  | _ => cases marking

end Job

/-! ## New jobs -/

namespace TaskStore

variable {s : TaskStore}

theorem findTask_of_mem (rows : (s.tasks.map (·.tid)).Nodup)
    (mem : task ∈ s.tasks) : s.findTask task.tid = some task :=
  find?_eq_of_nodup rows mem (decide_eq_true rfl) fun _ _ => of_decide_eq_true

/-- With one row for each task, few rows of a task pass any test. -/
theorem countP_rows_le (rows : (s.tasks.map (·.tid)).Nodup) (tid : String) :
    s.tasks.countP (fun task => decide (task.tid = tid)) ≤ 1 := by
  have once := nodup_iff_count_le_one.mp rows tid
  rw [count, countP_map] at once
  refine le_trans (countP_mono_left fun task _ own => ?_) once
  simpa using own

theorem isNew_iff {tids : List String} :
    s.isNew tids = true ↔ tids.Nodup ∧ ∀ tid ∈ tids, ∀ task ∈ s.tasks, task.tid ≠ tid := by
  unfold isNew findTask
  rw [Bool.and_eq_true, decide_eq_true_eq, all_eq_true]
  refine and_congr_right fun _ => forall₂_congr fun tid _ => ?_
  simp

theorem rows_append {rows : List HotmethodTask} (unique : (s.tasks.map (·.tid)).Nodup)
    (new : s.isNew (rows.map (·.tid)) = true) : ((s.tasks ++ rows).map (·.tid)).Nodup := by
  obtain ⟨apart, absent⟩ := isNew_iff.mp new
  rw [map_append, nodup_append]
  refine ⟨unique, apart, fun tid old other added => ?_⟩
  obtain ⟨task, mem, rfl⟩ := mem_map.mp old
  exact absent other added task mem

end TaskStore

namespace TaskAction

variable {s : TaskStore} {action : TaskAction} {out : JobOutcome}

variable (entered : action.enter s = some out)
include entered

theorem enter_marks (tid : String) : out.next.countP (marks tid) = 0 := by
  rw [countP_eq_zero]
  intro job new marking
  cases enters_of_mem entered new <;> cases marking

theorem enter_accepts (tid : String) : out.events.countP (accepts tid) = 0 := by
  obtain ⟨rows, adds⟩ := enter_adds entered
  rcases adds.told with quiet | ⟨other, told⟩
  · rw [quiet]
    rfl
  · rw [told]
    rfl

/-- The reconciler dispatches a task once, if it reads that the task waits for long. -/
theorem enter_awaits (unique : (s.tasks.map (·.tid)).Nodup) (tid : String) :
    out.next.countP (awaits tid) = 0 ∨
      (out.next.countP (awaits tid) = 1 ∧ ∃ now, action = .reconcile now ∧
        ∃ task ∈ s.tasks, task.tid = tid ∧ task.status = .created ∧
          task.createTime < now - 30 * 1000) := by
  by_cases none : ∀ job ∈ out.next, ¬job.awaits tid = true
  · exact Or.inl (countP_eq_zero.mpr none)
  · right
    simp only [not_forall, not_not] at none
    obtain ⟨job, new, awaiting⟩ := none
    cases enters_of_mem entered new with
    | @orphaned now task row waiting late =>
      have own : task.tid = tid := of_decide_eq_true awaiting
      refine ⟨le_antisymm ?_ (countP_pos_iff.mpr ⟨_, new, awaiting⟩),
        now, rfl, task, row, own, waiting, late⟩
      cases entered
      rw [countP_map]
      refine le_trans (countP_mono_left fun other _ passed => ?_)
        (le_trans (filter_sublist.countP_le) (countP_rows_le unique tid))
      simp only [Function.comp_apply] at passed
      split at passed
      · cases passed
      · exact passed
    | _ => cases awaiting

end TaskAction

/-! ## Whole runs -/

namespace TaskWorld

/-- What holds in every run: there is one row for each task, a dispatch has read its task as
waiting, and no status write makes a task wait again. -/
structure Ordered (w : TaskWorld) : Prop where
  unique : (w.store.tasks.map (·.tid)).Nodup
  waiting : ∀ job ∈ w.jobs, ∀ task, job.dispatched = some task → task.status = .created
  aggregates : ∀ job ∈ w.jobs, ∀ status, job.aggregate = some status → status.status ≠ .created
  onward : ∀ job ∈ w.jobs, ∀ tid fromStatus toStatus, job.Writes tid fromStatus toStatus →
    toStatus ≠ .created

variable {w next : TaskWorld} {action : TaskAction}

theorem Ordered.start {store : TaskStore} (unique : (store.tasks.map (·.tid)).Nodup) :
    Ordered { store } where
  unique := unique
  waiting _ mem := absurd mem not_mem_nil
  aggregates _ mem := absurd mem not_mem_nil
  onward _ mem := absurd mem not_mem_nil

theorem Ordered.advance (ordered : Ordered w)
    (jobs : w.jobs = before ++ job :: after) (input : StepInput) :
    Ordered (w.between before after (run w.store job input)) := by
  have mem : job ∈ w.jobs := jobs ▸ mem_append_right _ mem_cons_self
  constructor
  · rcases (run_does w.store job input).stores.rows with kept | ⟨_, _, _, _, _, _, _, inserted⟩
    · rw [kept.tids]
      exact ordered.unique
    · rw [(insertAttempt_beside inserted).1]
      exact ordered.unique
  · exact Pool.forall_replaced jobs ordered.waiting fun rest left task own =>
      (next_of_mem left).dispatched_waiting (ordered.waiting job mem) own
  · exact Pool.forall_replaced jobs ordered.aggregates fun rest left status own =>
      (next_of_mem left).aggregate_ne (ordered.aggregates job mem) own
  · refine Pool.forall_replaced jobs ordered.onward fun rest left tid fromStatus toStatus writes =>
      ?_
    rcases run_writes left writes with own | ⟨-, ⟨-, -, target⟩ | reads⟩
    · exact ordered.onward job mem tid fromStatus toStatus own
    · rintro rfl
      simp at target
    · obtain ⟨mt, aggregate, reply, rfl, -, rfl, -⟩ := reads
      exact ordered.aggregates _ mem aggregate rfl

theorem Ordered.enter (ordered : Ordered w)
    (entered : action.enter w.store = some out) : Ordered (w.enter out) := by
  constructor
  · obtain ⟨rows, adds⟩ := TaskAction.enter_adds entered
    show (out.store.tasks.map (·.tid)).Nodup
    rw [adds.tasks]
    exact rows_append ordered.unique adds.new
  · refine Pool.forall_enter ordered.waiting fun job new task own => ?_
    cases TaskAction.enters_of_mem entered new with
    | orphaned row waiting =>
      cases own
      exact waiting
    | _ => cases own
  · refine Pool.forall_enter ordered.aggregates fun job new status own => ?_
    cases TaskAction.enters_of_mem entered new <;> cases own
  · refine Pool.forall_enter ordered.onward fun job new tid fromStatus toStatus writes => ?_
    have forward := (TaskAction.enter_writes entered new writes).1
    rintro rfl
    rcases forward with terminal | ⟨-, same⟩ | ⟨-, same⟩
    · cases terminal
    · cases same
    · cases same

instance : (outcome : CreateOutcome) → Decidable (∀ message, outcome ≠ .timedOut message)
  | .timedOut message => isFalse fun never => never message rfl
  | .answered .. | .unreached .. => isTrue nofun

/-- The job reads the task as waiting only while no dispatch of it is under way, and its call for
the task does not time out after the drop server has accepted it. -/
def Excludes (tid : String) (w : TaskWorld) (input : StepInput) : Job → Prop
  | .claimed entry => entry.aggregateID = tid → w.store.statusOf tid = some .created →
      ∀ job ∈ w.jobs, job.dispatches tid = false
  | .calling _ task _ => task.tid = tid → ∀ message, input.grpc ≠ .timedOut message
  | _ => True

instance (tid : String) (w : TaskWorld) (input : StepInput) (job : Job) :
    Decidable (w.Excludes tid input job) := by
  induction job using Job.casesOn <;> dsimp only [Excludes] <;> infer_instance

/-- The task is read as waiting only while no dispatch of it is under way, and no call of it times
out after the drop server has accepted it. -/
def Exclusive (tid : String) (w : TaskWorld) : TaskAction → Prop
  | .advance index input => ∀ job ∈ w.jobs[index]?, w.Excludes tid input job
  | .reconcile now => ∀ task ∈ w.store.tasks, task.tid = tid → task.status = .created →
      task.createTime < now - 30 * 1000 → ∀ job ∈ w.jobs, job.dispatches tid = false
  | _ => True

instance (tid : String) (w : TaskWorld) (action : TaskAction) :
    Decidable (w.Exclusive tid action) := by
  induction action using TaskAction.casesOn <;> dsimp only [Exclusive] <;> infer_instance

/-- At most one dispatch of a task is under way, and none that could still be accepted after one
was. Once it was accepted, the task waits at most until that is written. -/
structure Single (tid : String) (w : TaskWorld) : Prop where
  one : w.jobs.countP (dispatches tid) ≤ 1
  once : w.jobs.countP (awaits tid) + w.log.countP (accepts tid) ≤ 1
  present : 0 < w.jobs.countP (dispatches tid) + w.log.countP (accepts tid) →
    0 < w.store.progress tid
  started : 0 < w.log.countP (accepts tid) → w.jobs.countP (marks tid) = 0 →
    1 < w.store.progress tid

variable {tid : String}

/-- Every dispatch that awaits an answer or was accepted is under way. -/
theorem countP_le_dispatches (tid : String) (jobs : List Job) :
    jobs.countP (awaits tid) ≤ jobs.countP (dispatches tid) ∧
      jobs.countP (marks tid) ≤ jobs.countP (dispatches tid) := by
  constructor
  · exact countP_mono_left fun job _ awaiting => by simp [dispatches, awaiting]
  · exact countP_mono_left fun job _ marking => by simp [dispatches, marking]

/-- While no dispatch is under way and the task waits, no attempt was accepted. -/
theorem Single.unaccepted (single : Single tid w)
    (idle : ∀ job ∈ w.jobs, job.dispatches tid = false)
    (waiting : w.store.statusOf tid = some .created) :
    w.jobs.countP (dispatches tid) = 0 ∧ w.log.countP (accepts tid) = 0 := by
  have none : w.jobs.countP (dispatches tid) = 0 := by
    rw [countP_eq_zero]
    intro job mem
    rw [idle job mem]
    decide
  have parts := countP_le_dispatches tid w.jobs
  have low : w.store.progress tid = 1 := progress_of_status waiting
  have late := single.started
  exact ⟨none, by omega⟩

section

variable (ordered : Ordered w)
include ordered

theorem Single.advance (single : Single tid w) {index : Nat} {input : StepInput}
    (exclusive : w.Exclusive tid (.advance index input))
    (found : w.jobs[index]? = some job) (jobs : w.jobs = before ++ job :: after) :
    Single tid (w.between before after (run w.store job input)) := by
  have mem : job ∈ w.jobs := jobs ▸ mem_append_right _ mem_cons_self
  have under := Pool.countP_replaced (dispatches tid) before job (run w.store job input).next after
  have awaiting := Pool.countP_replaced (awaits tid) before job (run w.store job input).next after
  have marking := Pool.countP_replaced (marks tid) before job (run w.store job input).next after
  rw [← jobs] at under awaiting marking
  have log : ((run w.store job input).events ++ w.log).countP (accepts tid) =
      (run w.store job input).events.countP (accepts tid) +
        w.log.countP (accepts tid) := countP_append
  have status := run_status w.store job input
  have onward : 1 < w.store.progress tid → 1 < (run w.store job input).store.progress tid :=
    status.progress_started (ordered.onward job mem tid)
  have parts := countP_le_dispatches tid w.jobs
  by_cases reads : Job.ReadsWaiting w.store tid job
  · -- The task waits and no dispatch is under way, so that this one is the first.
    obtain ⟨entry, rfl, asked, waiting⟩ := id reads
    have idle := single.unaccepted (exclusive _ found asked waiting) waiting
    have few := run_next_length w.store (.claimed entry) input
    have most (test : Job → Bool) : (run w.store (.claimed entry) input).next.countP test ≤ 1 :=
      le_trans countP_le_length few
    have quiet : (run w.store (.claimed entry) input).events.countP (accepts tid) = 0 := by
      rw [reads.quiet]
      rfl
    have present : 0 < (run w.store (.claimed entry) input).store.progress tid :=
      status.progress_pos (by rw [progress_of_status waiting]; decide)
    have mostUnder := most (dispatches tid)
    have mostAwaiting := most (awaits tid)
    constructor <;> dsimp only
    · omega
    · omega
    · exact fun _ => present
    · omega
  · have fewer := run_dispatches input reads
    have turned := run_awaits input reads
    have marked := run_marks (s := w.store) fun entry task attemptID same =>
      exclusive (.calling entry task attemptID) (same ▸ found)
    have one := single.one
    have once := single.once
    constructor <;> dsimp only
    · omega
    · omega
    · intro some
      apply status.progress_pos
      apply single.present
      omega
    · intro accepted unmarked
      by_cases marks : job.marks tid = true
      · exact Job.run_started marks (ordered.waiting job mem) (single.present (by omega))
      · have unmarkedJob : [job].countP (Job.marks tid) = 0 := by simp [marks]
        exact onward (single.started (by omega) (by omega))

theorem Single.enter (single : Single tid w) (exclusive : w.Exclusive tid action)
    (entered : action.enter w.store = some out) : Single tid (w.enter out) := by
  obtain ⟨rows, adds⟩ := TaskAction.enter_adds entered
  have onward := progress_grow adds.tasks tid
  have unmarked := TaskAction.enter_marks entered tid
  have unaccepted := TaskAction.enter_accepts entered tid
  have under : out.next.countP (dispatches tid) = out.next.countP (awaits tid) := by
    refine countP_congr fun job mem => ?_
    have unmarkedJob := countP_eq_zero.mp unmarked job mem
    simp [dispatches, unmarkedJob]
  have jobs (test : Job → Bool) :
      (w.enter out).jobs.countP test = w.jobs.countP test + out.next.countP test :=
    countP_append
  have log : (w.enter out).log.countP (accepts tid) =
      out.events.countP (accepts tid) + w.log.countP (accepts tid) :=
    countP_append
  have one := single.one
  have once := single.once
  have present := single.present
  have started := single.started
  have store : (w.enter out).store = out.store := rfl
  rcases TaskAction.enter_awaits entered ordered.unique tid with
    none | ⟨new, now, rfl, task, row, own, waiting, late⟩
  · constructor <;> simp only [jobs, log, store] <;> omega
  · have held : w.store.statusOf tid = some .created := by
      have read := statusOf_of_findTask (findTask_of_mem ordered.unique row)
      rw [own, waiting] at read
      exact read
    have idle := single.unaccepted (exclusive task row own waiting late) held
    have low : w.store.progress tid = 1 := progress_of_status held
    have parts := countP_le_dispatches tid w.jobs
    constructor <;> simp only [jobs, log, store] <;> omega

theorem Single.step (single : Single tid w) (exclusive : w.Exclusive tid action)
    (taken : step w action = some next) : Single tid next := by
  rcases step_cases taken with
    ⟨index, input, before, job, after, rfl, found, jobs, rfl⟩ | ⟨out, entered, rfl⟩
  · exact single.advance ordered exclusive found jobs
  · exact single.enter ordered exclusive entered

theorem Ordered.step (taken : step w action = some next) : Ordered next := by
  rcases step_cases taken with
    ⟨index, input, before, job, after, rfl, -, jobs, rfl⟩ | ⟨out, entered, rfl⟩
  · exact ordered.advance jobs input
  · exact ordered.enter entered

end

/-- At the start no dispatch is under way and nothing was accepted. -/
theorem Single.start (store : TaskStore) : Single tid { store } where
  one := Nat.zero_le 1
  once := Nat.zero_le 1
  present none := absurd none (Nat.lt_irrefl 0)
  started none := absurd none (Nat.lt_irrefl 0)

/-- In an exclusive run, from any tables with one row for each task and with no job under way at
first, the drop server accepts at most one attempt of a task. -/
theorem delivered_at_most_once (start : TaskStore) (unique : (start.tasks.map (·.tid)).Nodup)
    {actions : List TaskAction}
    (exclusive : Along step (Exclusive tid) { store := start } actions)
    (reached : run step { store := start } actions = some w) :
    w.log.countP (accepts tid) ≤ 1 := by
  let kept (v : TaskWorld) : Prop := v.Ordered ∧ Single tid v
  have both : kept w := run_invariant_along
    (fun _ _ _ held allowed taken => ⟨held.1.step taken, held.2.step held.1 allowed taken⟩)
    (show kept { store := start } from ⟨.start unique, .start start⟩) exclusive reached
  have once := both.2.once
  omega

/-- A task is claimed, refused by the drop server, claimed again and accepted; the reconciler finds
nothing to do. -/
def acceptedOnRetry : List TaskAction :=
  handedOut ++ [.advance 1 { grpc := .answered 429 "queue full" }] ++ steps 1 2 ++
    [.claim 20 [] 10000] ++ steps 1 5 ++ [.reconcile 90000, .advance 1 {}]

/-- The second attempt is the only one that is accepted. -/
theorem accepted_on_retry_once :
    (run step { store := {} } acceptedOnRetry).map (·.log) = some [.attemptAccepted "t" 2] ∧
      ∀ w, run step { store := {} } acceptedOnRetry = some w → w.log.countP (accepts "t") ≤ 1 :=
  ⟨by decide, fun _ reached => delivered_at_most_once {} nodup_nil
    (along_of_decide (by decide)) reached⟩

/-- Two dispatchers claim the same entry one after the other, and both read that the task waits. -/
def claimedTwice : List TaskAction :=
  [.create { tid := "t" } 0, .claim 20 [] 0, .claim 20 [] 1000, .advance 1 {}, .advance 2 {}] ++
    steps 1 2 ++ steps 2 2 ++ [.advance 1 {}, .advance 2 {}]

/-- The reconciler and a dispatcher read that the same task waits. -/
def claimedAndReconciled : List TaskAction :=
  [.create { tid := "t" } 0, .claim 20 [] 40000, .reconcile 40000] ++ steps 1 3 ++ steps 2 2 ++
    [.advance 1 {}, .advance 2 {}]

/-- The drop server accepts two attempts of the task. -/
theorem claimed_twice_accepted_twice :
    (run step { store := {} } claimedTwice).map (·.log) =
        some [.attemptAccepted "t" 2, .attemptAccepted "t" 1] ∧
      (run step { store := {} } claimedAndReconciled).map (·.log) =
        some [.attemptAccepted "t" 2, .attemptAccepted "t" 1] := by
  decide

end TaskWorld

end MiniDrop
