import MiniDrop.Analysis.Lease
import MiniDrop.Base.Tables
/-!
# What a lease protects

A statement on the row of a job takes effect only for the worker that holds its lease, so a run
whose lease was taken over can neither end the job nor make another job active. It can still report:
the marks on the row of the task ask for no lease. And a job is handed out again whenever its lease
has run out, however often it was tried, so that only the failures that workers report count against
its budget.
-/
namespace MiniDrop

open LeaseStore AnalysedTask LeaseRun List Base

variable {worker error text : String} {after : LeasedJob} {job : ClaimedJob} {now : Int}
  {retry : Bool}

/-! ## Rows -/

/-- What a step of a run does to the row of a job: the status and the owner stay, unless the worker
holds the lease and gives it up with an end of the job. -/
structure LeasedJob.Kept (worker : String) (jobID : Nat) (retry : Bool) (before after : LeasedJob) :
    Prop where
  id : after.id = before.id
  taskTID : after.taskTID = before.taskTID
  maxAttempts : after.maxAttempts = before.maxAttempts
  attempt : after.attempt = before.attempt
  lease : (after.status = before.status ∧ after.leaseOwner = before.leaseOwner) ∨
    (holds worker jobID before = true ∧ after.leaseOwner = "" ∧
      (after.status = .success ∨ after.status = .failed ∨ (after.status = .retry ∧ retry = true)))

namespace LeasedJob.Kept

variable {worker : String} {id : Nat} {retry : Bool} {a b c : LeasedJob}

/-- A row that is not touched. -/
theorem refl (row : LeasedJob) : Kept worker id retry row row :=
  ⟨rfl, rfl, rfl, rfl, .inl ⟨rfl, rfl⟩⟩

/-- A row that the worker does not hold keeps its status and its owner. -/
theorem of_not_holds (kept : Kept worker id retry a b) (free : holds worker id a = false) :
    b.status = a.status ∧ b.leaseOwner = a.leaseOwner := by
  rcases kept.lease with same | ⟨holds, -⟩
  · exact same
  · rw [free] at holds
    cases holds

/-- A later change may touch neither. -/
theorem trans_same (first : Kept worker id retry a b) (second : Kept worker id retry b c)
    (status : c.status = b.status) (owner : c.leaseOwner = b.leaseOwner) :
    Kept worker id retry a c := by
  refine ⟨second.id.trans first.id, second.taskTID.trans first.taskTID,
    second.maxAttempts.trans first.maxAttempts, second.attempt.trans first.attempt, ?_⟩
  rw [status, owner]
  exact first.lease

end LeasedJob.Kept

/-- What it does to the row of a task: a text that is there stays there. -/
structure AnalysedTask.Kept (before after : AnalysedTask) : Prop where
  tid : after.tid = before.tid
  text : before.statusInfo.isSome = true → after.statusInfo.isSome = true

namespace LeaseStore

variable {s t : LeaseStore} {worker : String} {id : Nat} {retry : Bool}

/-- What a step of a run does to both tables, row by row. -/
structure Keeps (worker : String) (id : Nat) (retry : Bool) (s t : LeaseStore) : Prop where
  jobs : Forall₂ (LeasedJob.Kept worker id retry) s.jobs t.jobs
  tasks : Forall₂ AnalysedTask.Kept s.tasks t.tasks

namespace Keeps

/-- A step that writes nothing. -/
theorem refl (s : LeaseStore) : Keeps worker id retry s s :=
  ⟨forall₂_same.mpr fun row _ => .refl row, forall₂_same.mpr fun _ _ => ⟨rfl, fun some => some⟩⟩

section

variable (keeps : Keeps worker id retry s t)
include keeps

/-- A statement on jobs that leaves the status and the owner alone. -/
theorem column (test : LeasedJob → Bool) (change : LeasedJob → LeasedJob)
    (same : ∀ row, LeasedJob.Kept worker id retry row (change row) ∧
      (change row).status = row.status ∧ (change row).leaseOwner = row.leaseOwner) :
    Keeps worker id retry s (t.updateJobs test change) := by
  refine ⟨forall₂_map_right_iff.mpr (keeps.jobs.imp fun before after kept => ?_), keeps.tasks⟩
  obtain ⟨second, status, owner⟩ := same after
  split
  · exact kept.trans_same second status owner
  · exact kept

/-- A statement on a task. -/
theorem task (tid : String) {change : AnalysedTask → AnalysedTask}
    (same : ∀ task, AnalysedTask.Kept task (change task)) :
    Keeps worker id retry s (t.updateTask tid change) := by
  refine ⟨keeps.jobs, forall₂_map_right_iff.mpr (keeps.tasks.imp fun before after kept => ?_)⟩
  split
  · exact ⟨(same after).tid.trans kept.tid, fun some => (same after).text (kept.text some)⟩
  · exact kept

/-- A report. -/
theorem report (tid : String) (status : Nat) (info : String) :
    Keeps worker id retry s (t.updateTask tid (report status info)) := by
  refine keeps.task tid fun task => ?_
  unfold AnalysedTask.report
  split
  · exact ⟨rfl, fun some => some⟩
  · exact ⟨rfl, fun some => Option.isSome_map.trans some⟩

/-- An end of a run. -/
theorem settle (tid : String) (status : Nat) (info : String) :
    Keeps worker id retry s (t.updateTask tid (settle status info)) :=
  keeps.task tid fun _ => ⟨rfl, fun _ => rfl⟩

end

/-- The worker gives up its lease with an end of the job. -/
theorem finish (s : LeaseStore) (status : AnalysisStatus) (error : String)
    (ends : status = .success ∨ status = .failed ∨ (status = .retry ∧ retry = true)) :
    Keeps worker id retry s (s.finish worker id status error) := by
  refine ⟨forall₂_map_right_iff.mpr (forall₂_same.mpr fun row _ => ?_),
    forall₂_same.mpr fun _ _ => ⟨rfl, fun some => some⟩⟩
  split
  · next holds => exact ⟨rfl, rfl, rfl, rfl, .inr ⟨holds, rfl, ends⟩⟩
  · exact .refl row

/-- `superseded_at` is neither. -/
theorem supersede (keeps : Keeps worker id retry s t) (other : Nat) (now : Int) :
    Keeps worker id retry s (t.supersede other now) :=
  keeps.column _ _ fun _ => ⟨⟨rfl, rfl, rfl, rfl, .inl ⟨rfl, rfl⟩⟩, rfl, rfl⟩

/-- The switch of the active job holds no lease. -/
theorem switch (keeps : Keeps worker id retry s t) (job : ClaimedJob) (now : Int) :
    Keeps worker id retry s (t.switchActiveJob job now) := by
  unfold switchActiveJob
  dsimp only
  split
  · exact keeps
  · split
    · exact keeps.supersede job.id now
    · refine task ?_ job.taskTID fun _ => ⟨rfl, fun some => some⟩
      split
      · exact keeps
      · exact keeps.supersede _ now

variable {job : ClaimedJob}

/-- The transaction of `finalize_success_tx`. -/
theorem success (done : s.finalizeSuccess worker job now = some t) :
    Keeps worker job.id retry s t := by
  unfold finalizeSuccess at done
  split at done
  · cases done
    exact ((finish s .success "" (.inl rfl)).switch job now).settle job.taskTID 2 "分析完成"
  · cases done

/-- The transaction of `finalize_failure_tx`. -/
theorem failure {again : Bool} (allowed : again = true → retry = true)
    (done : s.finalizeFailure worker job error again = some t) : Keeps worker job.id retry s t := by
  unfold finalizeFailure at done
  split at done
  · cases done
    refine (finish s _ error ?_).settle job.taskTID 3 (clip error)
    split
    · next yes => exact .inr (.inr ⟨rfl, allowed yes⟩)
    · exact .inr (.inl rfl)
  · cases done

/-- The numbers of the jobs stay. -/
theorem ids (keeps : Keeps worker id retry s t) : t.jobs.map (·.id) = s.jobs.map (·.id) := by
  rw [← forall₂_eq_eq_eq, forall₂_map_left_iff, forall₂_map_right_iff]
  exact keeps.jobs.flip.imp fun _ _ kept => kept.id

end Keeps

end LeaseStore

/-! ## Steps of a run -/

namespace LeaseRun

variable {cfg : LeaseConfig} {s : LeaseStore} {run later : LeaseRun} {input : LeaseInput}

/-- The end that the run is about to write lets the job be tried again. -/
def retries : LeaseRun → Bool
  | { stage := .failing _ retry, .. } => retry
  | { stage := .reporting _ _ retry _, .. } => retry
  | { stage := .releasing _ retry _, .. } => retry
  | _ => false

/-- What the run is about to write to the row of the task without a look at its lease. -/
def reports : LeaseRun → Option (Nat × String)
  | { stage := .marking, .. } => some (1, "分析中")
  | { stage := .reporting text _ _ _, .. } => some (3, text)
  | _ => none

/-- A report has a text. -/
def Speaks (run : LeaseRun) : Prop := ∀ report ∈ run.reports, report.2 ≠ ""

/-- A stage without a report. -/
theorem Speaks.silent (silent : run.reports = none) : run.Speaks := by
  intro report said
  rw [silent] at said
  cases said

/-- A report with a text. -/
theorem Speaks.reporting {last : Bool} (solid : text ≠ "") :
    ({ worker, job, stage := .reporting text error retry last } : LeaseRun).Speaks := by
  intro report said
  cases said
  exact solid

/-- What follows a step of a run. -/
structure Follows (cfg : LeaseConfig) (run later : LeaseRun) : Prop where
  worker : later.worker = run.worker
  job : later.job = run.job
  retries : later.retries = true → run.retries = true ∨ shouldRetry cfg run.job = true
  text : later.Speaks

/-- What the handlers leave: the tables as they were, and one stage to follow. -/
theorem handle_spec (cfg : LeaseConfig) (run : LeaseRun) (s : LeaseStore) (connected : Bool)
    (raised : Raised) :
    (run.handle cfg s connected raised).store = s ∧
      (run.handle cfg s connected raised).events = [] ∧
      ∀ later ∈ (run.handle cfg s connected raised).next, Follows cfg run later := by
  have goes (stage : RunStage)
      (retries : ({ run with stage } : LeaseRun).retries = true → shouldRetry cfg run.job = true)
      (speaks : ({ run with stage } : LeaseRun).Speaks) :
      ∀ later ∈ (run.goTo s stage).next, Follows cfg run later := by
    intro later mem
    rw [mem_singleton.mp mem]
    exact ⟨rfl, rfl, fun again => .inr (retries again), speaks⟩
  have errors (text : String) (retry : Bool) (allowed : retry = true →
      shouldRetry cfg run.job = true) : (run.raiseError s connected text retry).store = s ∧
        (run.raiseError s connected text retry).events = [] ∧
        ∀ later ∈ (run.raiseError s connected text retry).next, Follows cfg run later := by
    unfold raiseError
    split
    · exact ⟨rfl, rfl, goes _ allowed (.silent rfl)⟩
    · exact ⟨rfl, rfl, goes _ allowed (.reporting (by simp))⟩
  cases raised with
  | keyError => exact ⟨rfl, rfl, goes _ nofun (.reporting (by simp))⟩
  | exit =>
    dsimp only [handle]
    split
    · exact ⟨rfl, rfl, goes _ nofun (.silent rfl)⟩
    · exact ⟨rfl, rfl, goes _ (fun again => again) (.reporting (by simp))⟩
  | inputError text => exact errors text false nofun
  | analyzerError retryable text =>
    exact errors text _ fun again => (Bool.and_eq_true_iff.mp again).2
  | other text => exact errors text _ fun again => again

/-- What is left of the log and of the run after a step, and what it does to the tables. -/
structure Steps (cfg : LeaseConfig) (s : LeaseStore) (run : LeaseRun) (input : LeaseInput)
    (out : LeaseOutcome) : Prop where
  keeps : LeaseStore.Keeps run.worker run.job.id run.retries s out.store
  events : out.events = [] ∨
    (out.events = [.finalized run.job.id run.job.taskTID run.worker] ∧
      s.finalizeSuccess run.worker run.job input.now = some out.store)
  next : ∀ later ∈ out.next, Follows cfg run later

variable {stage : RunStage} {t : LeaseStore}

/-- The next stage, after a statement. -/
theorem Steps.goTo (retries : ({ run with stage } : LeaseRun).retries = true → run.retries = true)
    (speaks : ({ run with stage } : LeaseRun).Speaks)
    (keeps : LeaseStore.Keeps run.worker run.job.id run.retries s t) :
    Steps cfg s run input (run.goTo t stage) := by
  refine ⟨keeps, .inl rfl, fun later mem => ?_⟩
  rw [mem_singleton.mp mem]
  exact ⟨rfl, rfl, fun again => .inl (retries again), speaks⟩

/-- What is raised goes to the handlers. -/
theorem Steps.handle (connected : Bool) (raised : Raised) :
    Steps cfg s run input (run.handle cfg s connected raised) := by
  obtain ⟨store, events, next⟩ := handle_spec cfg run s connected raised
  refine ⟨?_, .inl events, next⟩
  rw [store]
  exact .refl s

/-- The next stage, or the handlers. -/
theorem Steps.proceed (connected : Bool) (quiet : ({ run with stage } : LeaseRun).retries = false)
    (speaks : ({ run with stage } : LeaseRun).Speaks) :
    Steps cfg s run input (run.proceed cfg s connected input stage) := by
  unfold LeaseRun.proceed
  split
  · exact .handle connected _
  · refine .goTo (fun again => ?_) speaks (.refl s)
    rw [quiet] at again
    cases again

/-- The run ends. -/
theorem Steps.finished (keeps : LeaseStore.Keeps run.worker run.job.id run.retries s t) :
    Steps cfg s run input { store := t } :=
  ⟨keeps, .inl rfl, forall_mem_nil _⟩

/-- **Every step of a run** writes what its lease allows, and is followed by a stage of the same
run. -/
theorem run_steps (cfg : LeaseConfig) (s : LeaseStore) (run : LeaseRun) (input : LeaseInput) :
    Steps cfg s run input (run.run cfg s input) := by
  obtain ⟨worker, job, stage⟩ := run
  cases stage with
  | starting => exact .proceed false rfl (.silent rfl)
  | connected =>
    refine .proceed true rfl fun report spoken => ?_
    cases spoken
    decide
  | analysing => exact .proceed true rfl (.silent rfl)
  | marking =>
    refine .goTo (fun again => by cases again) (.silent rfl) ?_
    split
    · exact .refl s
    · exact (LeaseStore.Keeps.refl s).report _ _ _
  | finalizing =>
    dsimp only [run]
    split
    · exact .handle true _
    · split
      · exact .handle true _
      · split
        · exact .handle true _
        · next done =>
          exact ⟨.success done, .inr ⟨rfl, done⟩, forall_mem_nil _⟩
  | completing =>
    refine .finished ?_
    split
    · exact .refl s
    · exact .finish s .success "" (.inl rfl)
  | failing =>
    dsimp only [run]
    split
    · exact .goTo (fun retried => retried) (.reporting (by simp)) (.refl s)
    · split
      · exact .goTo (fun retried => retried) (.reporting (by simp)) (.refl s)
      · next done => exact .finished (.failure (fun retried => retried) done)
  | reporting =>
    refine .goTo (fun retried => retried) (.silent rfl) ?_
    split
    · exact .refl s
    · exact (LeaseStore.Keeps.refl s).report _ _ _
  | releasing error =>
    dsimp only [run]
    split
    · split
      · exact .finished (.refl s)
      · exact .goTo (fun retried => retried) (.reporting (by simp)) (.refl s)
    · refine .finished (.finish s _ error ?_)
      split
      · next yes => exact .inr (.inr ⟨rfl, yes⟩)
      · exact .inr (.inl rfl)

/-- The step of a report writes it, unless it fails. -/
theorem run_reports {status : Nat} (reports : run.reports = some (status, text)) :
    (run.run cfg s input).store = if input.fails then s
      else s.updateTask run.job.taskTID (report status text) := by
  obtain ⟨worker, job, stage⟩ := run
  cases stage with
  | marking | reporting =>
    cases reports
    rfl
  | _ => cases reports

/-- A statement that finds no row. -/
theorem updateJobs_none {test : LeasedJob → Bool} (none : ∀ row ∈ s.jobs, test row = false)
    (change : LeasedJob → LeasedJob) : s.updateJobs test change = s := by
  have same : s.jobs.map (fun row => if test row then change row else row) = s.jobs := by
    conv_rhs => rw [← map_id' s.jobs]
    apply map_congr_left
    intro row stored
    rw [none row stored]
    rfl
  unfold updateJobs
  rw [same]

/-- Without the lease the job is not ended. -/
theorem finish_lost {id : Nat} {status : AnalysisStatus}
    (lost : ∀ row ∈ s.jobs, holds worker id row = false) : s.finish worker id status error = s :=
  updateJobs_none lost _

/-- **Without its lease, a run that does not report leaves the tables alone.** -/
theorem run_lost (lost : ∀ row ∈ s.jobs, holds run.worker run.job.id row = false)
    (quiet : run.reports = none) : (run.run cfg s input).store = s := by
  obtain ⟨worker, job, stage⟩ := run
  have unfinished : s.finishes worker job.id = false := by
    unfold finishes
    rw [countP_eq_zero.mpr fun row stored => by rw [lost row stored]; exact nofun]
    rfl
  have success (now : Int) : s.finalizeSuccess worker job now = none := by
    unfold finalizeSuccess
    rw [unfinished]
    rfl
  have failure (error : String) (retry : Bool) :
      s.finalizeFailure worker job error retry = none := by
    unfold finalizeFailure
    rw [unfinished]
    rfl
  have proceeds (connected : Bool) (stage' : RunStage) :
      (proceed cfg { worker, job, stage } s connected input stage').store = s := by
    unfold proceed
    split
    · exact (handle_spec cfg _ s connected _).1
    · rfl
  cases stage with
  | starting | connected | analysing => exact proceeds _ _
  | marking | reporting => cases quiet
  | finalizing =>
    dsimp only [run]
    rw [success]
    split
    · exact (handle_spec cfg _ s true _).1
    · split
      · exact (handle_spec cfg _ s true _).1
      · exact (handle_spec cfg _ s true _).1
  | completing =>
    dsimp only [run]
    rw [finish_lost lost]
    split
    · rfl
    · rfl
  | failing =>
    dsimp only [run]
    rw [failure]
    split
    · rfl
    · rfl
  | releasing =>
    dsimp only [run]
    rw [finish_lost lost]
    split
    · split
      · rfl
      · rfl
    · rfl

end LeaseRun

/-! ## The system -/

variable {s : LeaseStore} {now : Int} {row : LeasedJob}

/-- A row that was picked is one of the table, and can be claimed. -/
theorem LeaseStore.picked_some {locked : List Nat}
    (picked : s.picked now locked = some row) : row ∈ s.jobs ∧ claimable now row = true := by
  have listed := mem_filter.mp ((mem_orderBy _).mp (mem_of_mem_head? picked))
  exact ⟨listed.1, (Bool.and_eq_true_iff.mp listed.2).1⟩

/-- A row after a claim is the one that was claimed, or another one. -/
theorem LeaseStore.claimed_back {cfg : LeaseConfig}
    (stored : after ∈ (s.updateJobs (·.id = row.id) (claimedRow cfg worker now)).jobs) :
    (∃ found ∈ s.jobs, found.id = row.id ∧ after = claimedRow cfg worker now found) ∨
      (after ∈ s.jobs ∧ after.id ≠ row.id) := by
  obtain ⟨found, listed, rfl⟩ := mem_map.mp stored
  by_cases same : found.id = row.id
  · rw [if_pos (decide_eq_true same)]
    exact .inl ⟨found, listed, same, rfl⟩
  · rw [if_neg (by simpa using same)]
    exact .inr ⟨listed, same⟩

/-- A claim keeps the numbers of the jobs. -/
theorem LeaseStore.claimed_ids (s : LeaseStore) (cfg : LeaseConfig) (worker : String) (now : Int)
    (row : LeasedJob) :
    (s.updateJobs (·.id = row.id) (claimedRow cfg worker now)).jobs.map (·.id) =
      s.jobs.map (·.id) := by
  unfold updateJobs
  rw [map_map]
  apply map_congr_left
  intro found _
  show (if _ then _ else _ : LeasedJob).id = found.id
  split
  · rfl
  · rfl

namespace LeaseWorld

variable {cfg : LeaseConfig} {w next : LeaseWorld} {action : LeaseAction}

/-- What a step of the system is. -/
inductive Takes (cfg : LeaseConfig) (w : LeaseWorld) : LeaseAction → LeaseWorld → Prop
  | idle {now : Int} {locked : List Nat} (worker : String)
      (none : w.store.picked now locked = none) : Takes cfg w (.claim worker now locked) w
  | claim {worker : String} {now : Int} {locked : List Nat} {row : LeasedJob} (named : worker ≠ "")
      (free : w.busy worker = false) (picked : w.store.picked now locked = some row) :
      Takes cfg w (.claim worker now locked)
        (w.enter
          { store := w.store.updateJobs (·.id = row.id) (claimedRow cfg worker now)
            next := [{ worker, job := claimedJob row }]
            events := [.handed row.id worker] })
  | heartbeat {index : Nat} {run : LeaseRun} (now : Int) (found : w.jobs[index]? = some run) :
      Takes cfg w (.heartbeat index now)
        { w with store := w.store.heartbeat cfg run.worker run.job.id now }
  | advance {index : Nat} {input : LeaseInput} {run : LeaseRun} {next : LeaseWorld}
      (found : w.jobs[index]? = some run) (store : next.store = (run.run cfg w.store input).store)
      (log : next.log = (run.run cfg w.store input).events ++ w.log)
      (others : ∀ other ∈ next.jobs,
        other ∈ (run.run cfg w.store input).next ∨ other ∈ w.jobs.eraseIdx index) :
      Takes cfg w (.advance index input) next
  | crash (index : Nat) : Takes cfg w (.crash index) { w with jobs := w.jobs.eraseIdx index }

/-- Every step is one of these. -/
theorem step_takes (taken : w.step cfg action = some next) : Takes cfg w action next := by
  cases action with
  | claim worker now locked =>
    dsimp only [step] at taken
    split at taken
    · cases taken
    · next idle =>
      rw [not_or, Bool.not_eq_true] at idle
      unfold claimOne at taken
      cases picked : w.store.picked now locked with
      | none =>
        rw [picked] at taken
        cases taken
        exact .idle worker picked
      | some =>
        rw [picked] at taken
        cases taken
        exact .claim idle.1 idle.2 picked
  | heartbeat index now =>
    obtain ⟨run, found, rfl⟩ := Option.map_eq_some_iff.mp taken
    exact .heartbeat now found
  | advance =>
    obtain ⟨run, found, store, log, others⟩ := Pool.advance_beside taken
    exact .advance found store log others
  | crash index =>
    cases taken
    exact .crash index

/-- A heartbeat only extends a lease. -/
theorem heartbeat_keeps (cfg : LeaseConfig) (s : LeaseStore) (worker : String) (id : Nat)
    (retry : Bool) (now : Int) :
    LeaseStore.Keeps worker id retry s (s.heartbeat cfg worker id now) :=
  (LeaseStore.Keeps.refl s).column _ _ fun _ => ⟨⟨rfl, rfl, rfl, rfl, .inl ⟨rfl, rfl⟩⟩, rfl, rfl⟩

/-- The numbers of the jobs are different, and every run is one of a named worker, knows the task of
its job and reports a text. -/
structure Sane (w : LeaseWorld) : Prop where
  distinct : (w.store.jobs.map (·.id)).Nodup
  named : ∀ run ∈ w.jobs, run.worker ≠ ""
  task : ∀ run ∈ w.jobs, ∀ row ∈ w.store.jobs, row.id = run.job.id → row.taskTID = run.job.taskTID
  speaks : ∀ run ∈ w.jobs, run.Speaks

variable {s t : LeaseStore} {id : Nat} {tid worker info : String}

/-- Without runs there is nothing to know but the numbers. -/
theorem Sane.start (distinct : (s.jobs.map (·.id)).Nodup) : Sane { store := s } :=
  ⟨distinct, forall_mem_nil _, forall_mem_nil _, forall_mem_nil _⟩

/-- Every step keeps this. -/
theorem Sane.step (sane : w.Sane) (taken : w.step cfg action = some next) : next.Sane := by
  have kept {worker : String} {id : Nat} {retry : Bool} {t : LeaseStore}
      (keeps : LeaseStore.Keeps worker id retry w.store t) (run : LeaseRun) (there : run ∈ w.jobs) :
      ∀ row ∈ t.jobs, row.id = run.job.id → row.taskTID = run.job.taskTID := by
    intro row stored same
    obtain ⟨before, listed, kept⟩ := exists_left_of_mem keeps.jobs stored
    rw [kept.taskTID]
    exact sane.task run there before listed (kept.id.symm.trans same)
  cases step_takes taken with
  | idle => exact sane
  | @claim worker now locked row named free picked =>
    obtain ⟨there, -⟩ := picked_some picked
    refine ⟨?_, Pool.forall_enter sane.named (forall_mem_singleton.mpr named),
      fun run mem after stored same => ?_,
      Pool.forall_enter sane.speaks (forall_mem_singleton.mpr nofun)⟩
    · have ids := claimed_ids w.store cfg worker now row
      exact ids.symm ▸ sane.distinct
    · obtain ⟨found, listed, id, task⟩ : ∃ found ∈ w.store.jobs, after.id = found.id ∧
          after.taskTID = found.taskTID := by
        rcases claimed_back stored with ⟨found, listed, -, rfl⟩ | ⟨listed, -⟩
        · exact ⟨found, listed, rfl, rfl⟩
        · exact ⟨after, listed, rfl, rfl⟩
      rw [id] at same
      rw [task]
      rcases mem_append.mp mem with old | new
      · exact sane.task run old found listed same
      · rw [mem_singleton.mp new] at same ⊢
        rw [inj_on_of_nodup_map sane.distinct listed there same]
        rfl
  | @heartbeat index run now found =>
    have keeps := heartbeat_keeps cfg w.store run.worker run.job.id false now
    refine ⟨?_, sane.named, kept keeps, sane.speaks⟩
    rw [keeps.ids]
    exact sane.distinct
  | @advance index input run next found store log others =>
    have steps := run.run_steps cfg w.store input
    have there := mem_of_getElem? found
    refine ⟨?_, Pool.forall_beside others sane.named fun other new => ?_, ?_,
      Pool.forall_beside others sane.speaks fun other new => (steps.next other new).text⟩
    · rw [store, steps.keeps.ids]
      exact sane.distinct
    · rw [(steps.next other new).worker]
      exact sane.named run there
    · rw [store]
      refine Pool.forall_beside others (kept steps.keeps) fun other new => ?_
      rw [(steps.next other new).job]
      exact kept steps.keeps run there
  | crash =>
    exact ⟨sane.distinct, fun run mem => sane.named run (mem_of_mem_eraseIdx mem),
      fun run mem => sane.task run (mem_of_mem_eraseIdx mem),
      fun run mem => sane.speaks run (mem_of_mem_eraseIdx mem)⟩

/-! ## After a job has ended well -/

/-- What is known of a job that has ended well: nobody holds its lease, and its task has a text. -/
structure Ended (s : LeaseStore) (id : Nat) (tid : String) : Prop where
  stored : ∃ row ∈ s.jobs, row.id = id
  rows : ∀ row ∈ s.jobs, row.id = id → row.status = .success ∧ row.leaseOwner = "" ∧
    row.taskTID = tid
  tasks : ∀ task ∈ s.tasks, task.tid = tid → task.statusInfo.isSome = true

/-- No named worker holds the lease on a job that has ended. -/
theorem Ended.lost (ended : Ended s id tid)
    (named : worker ≠ "") : ∀ row ∈ s.jobs, holds worker id row = false := by
  intro row stored
  unfold holds
  by_cases same : row.id = id
  · rw [(ended.rows row stored same).2.1]
    simp [Ne.symm named]
  · simp [same]

/-- A step of a run leaves a job that has ended as it is. -/
theorem Ended.keeps {number : Nat} (ended : Ended s id tid) (named : worker ≠ "")
    (keeps : LeaseStore.Keeps worker number retry s t) : Ended t id tid := by
  constructor
  · obtain ⟨row, stored, same⟩ := ended.stored
    obtain ⟨after, listed, kept⟩ := exists_right_of_mem keeps.jobs stored
    exact ⟨after, listed, kept.id.trans same⟩
  · intro row stored same
    obtain ⟨before, listed, kept⟩ := exists_left_of_mem keeps.jobs stored
    have there := ended.rows before listed (kept.id.symm.trans same)
    have free : holds worker number before = false := by
      unfold holds
      rw [there.2.1]
      simp [Ne.symm named]
    obtain ⟨status, owner⟩ := kept.of_not_holds free
    rw [status, owner, kept.taskTID]
    exact there
  · intro task stored same
    obtain ⟨before, listed, kept⟩ := exists_left_of_mem keeps.tasks stored
    exact kept.text (ended.tasks before listed (kept.tid.symm.trans same))

/-- The transaction of a success ends its job. -/
theorem ended_of_success (distinct : (s.jobs.map (·.id)).Nodup)
    (task : ∀ row ∈ s.jobs, row.id = job.id → row.taskTID = job.taskTID)
    (done : s.finalizeSuccess worker job now = some t) : Ended t job.id job.taskTID := by
  have keeps : LeaseStore.Keeps worker job.id false s t := .success done
  unfold finalizeSuccess at done
  split at done
  · next finishes =>
    cases done
    -- Exactly one row is held, so the row of the job is the one that was held.
    have one : s.jobs.countP (holds worker job.id) = 1 := of_decide_eq_true finishes
    have some : 0 < s.jobs.countP (holds worker job.id) := by omega
    obtain ⟨held, listed, holds⟩ := countP_pos_iff.mp some
    have heldID : held.id = job.id := by
      unfold LeaseStore.holds at holds
      rw [Bool.and_eq_true, decide_eq_true_eq] at holds
      exact holds.1
    have finished : ∀ row ∈ (s.finish worker job.id .success "").jobs, row.id = job.id →
        row.status = .success ∧ row.leaseOwner = "" ∧ row.taskTID = job.taskTID := by
      intro row stored same
      obtain ⟨before, there, rfl⟩ := mem_map.mp stored
      have sameID : before.id = job.id := by
        split at same
        · exact same
        · exact same
      obtain rfl := inj_on_of_nodup_map distinct there listed (sameID.trans heldID.symm)
      rw [if_pos holds]
      exact ⟨rfl, rfl, task before there sameID⟩
    constructor
    · obtain ⟨after, there, kept⟩ := exists_right_of_mem keeps.jobs listed
      exact ⟨after, there, kept.id.trans heldID⟩
    · intro row stored same
      -- The switch of the active job holds no lease on the row.
      have keeps : LeaseStore.Keeps worker (row.id + 1) false (s.finish worker job.id .success "")
          ((s.finish worker job.id .success "").switchActiveJob job now) :=
        (LeaseStore.Keeps.refl _).switch job now
      obtain ⟨before, listed, kept⟩ := exists_left_of_mem keeps.jobs stored
      have free : LeaseStore.holds worker (row.id + 1) before = false := by
        unfold LeaseStore.holds
        rw [← kept.id]
        simp
      obtain ⟨status, owner⟩ := kept.of_not_holds free
      rw [status, owner, kept.taskTID]
      exact finished before listed (kept.id.symm.trans same)
    · intro task stored same
      obtain ⟨before, listed, rfl⟩ := mem_map.mp stored
      split
      · rfl
      · next other =>
        rw [if_neg other] at same
        exact absurd same other
  · cases done

/-- Every job that has ended well stays so. -/
def AllEnded (w : LeaseWorld) : Prop :=
  ∀ id tid worker, .finalized id tid worker ∈ w.log → Ended w.store id tid

/-- Every step keeps this, as no job that has ended can be claimed. -/
theorem AllEnded.step (ended : w.AllEnded) (sane : w.Sane) (taken : w.step cfg action = some next) :
    next.AllEnded := by
  intro id tid worker logged
  cases step_takes taken with
  | idle | crash => exact ended id tid worker logged
  | @claim claimant now locked row named free picked =>
    have before : Ended w.store id tid := by
      rcases mem_append.mp logged with new | old
      · cases mem_singleton.mp new
      · exact ended id tid worker old
    obtain ⟨there, claimable⟩ := picked_some picked
    refine ⟨?_, fun after stored same => ?_, before.tasks⟩
    · obtain ⟨old, listed, same⟩ := before.stored
      have ids := claimed_ids w.store cfg claimant now row
      have number : old.id ∈ w.store.jobs.map (·.id) := mem_map_of_mem listed
      rw [← ids] at number
      obtain ⟨after, there, equal⟩ := mem_map.mp number
      exact ⟨after, there, equal.trans same⟩
    rcases claimed_back stored with ⟨found, listed, found_id, rfl⟩ | ⟨listed, -⟩
    · have number : row.id = id := found_id.symm.trans same
      rw [LeaseStore.claimable, (before.rows row there number).1] at claimable
      cases claimable
    · exact before.rows after listed same
  | @heartbeat index run now found =>
    exact (ended id tid worker logged).keeps (sane.named run (mem_of_getElem? found))
      (heartbeat_keeps cfg w.store run.worker run.job.id false now)
  | @advance index input run next found store log others =>
    have steps := run.run_steps cfg w.store input
    have there := mem_of_getElem? found
    rw [log] at logged
    rw [store]
    rcases mem_append.mp logged with new | old
    · rcases steps.events with none | ⟨one, done⟩
      · rw [none] at new
        cases new
      · rw [one] at new
        cases mem_singleton.mp new
        exact ended_of_success sane.distinct (sane.task run there) done
    · exact (ended id tid worker old).keeps (sane.named run there) steps.keeps

/-- The run whose step an action is. -/
def runOf (w : LeaseWorld) : LeaseAction → Option LeaseRun
  | .advance index _ => w.jobs[index]?
  | .heartbeat index _ => w.jobs[index]?
  | _ => none

/-- The step writes to the row of the task without a look at the lease, and there is such a row. -/
def Unguarded (w : LeaseWorld) : LeaseAction → Prop
  | .advance index input =>
      ∃ run ∈ w.jobs[index]?, run.reports.isSome = true ∧ input.fails = false ∧
      ∃ task ∈ w.store.tasks, task.tid = run.job.taskTID
  | _ => False

/-- The status of the job, and the row of the task, are as they were. -/
def Harmless (id : Nat) (tid : String) (s t : LeaseStore) : Prop :=
  (t.jobs.filter (·.id = id)).map (·.status) = (s.jobs.filter (·.id = id)).map (·.status) ∧
    t.tasks.filter (·.tid = tid) = s.tasks.filter (·.tid = tid)

/-- A report with a text changes a row that has a text. -/
theorem report_ne {status : Nat} {task : AnalysedTask} (solid : info ≠ "")
    (text : task.statusInfo.isSome = true) : report status info task ≠ task := by
  intro same
  unfold report at same
  rw [if_neg solid] at same
  obtain ⟨old, some⟩ := Option.isSome_iff_exists.mp text
  have texts := congrArg statusInfo same
  rw [some] at texts
  dsimp only [Option.map_some] at texts
  have equal := Option.some.inj texts
  split at equal
  · next blank =>
    rw [blank] at equal
    exact solid equal
  · have lengths := congrArg String.length equal
    simp only [String.length_append] at lengths
    have more : ("; " : String).length = 2 := rfl
    omega

/-- A report to a task whose rows have texts leaves the rows alone only if there are none. -/
theorem report_same_iff (status : Nat) (solid : info ≠ "")
    (texts : ∀ task ∈ s.tasks, task.tid = tid → task.statusInfo.isSome = true) :
    (s.updateTask tid (report status info)).tasks.filter (·.tid = tid) =
        s.tasks.filter (·.tid = tid) ↔ ¬∃ task ∈ s.tasks, task.tid = tid := by
  have named (task : AnalysedTask) : (report status info task).tid = task.tid := by
    unfold report
    split
    · rfl
    · rfl
  have tested : ((fun task : AnalysedTask => decide (task.tid = tid)) ∘ fun task =>
      if task.tid = tid then report status info task else task) =
      fun task => decide (task.tid = tid) := by
    funext task
    dsimp only [Function.comp_apply]
    split
    · rw [named]
    · rfl
  have split : (s.updateTask tid (report status info)).tasks.filter (·.tid = tid) =
      (s.tasks.filter (·.tid = tid)).map (report status info) := by
    unfold updateTask
    rw [filter_map, tested]
    apply map_congr_left
    intro task listed
    rw [if_pos (of_decide_eq_true (mem_filter.mp listed).2)]
  rw [split]
  constructor
  · intro same some
    obtain ⟨task, stored, equal⟩ := some
    have listed : task ∈ s.tasks.filter (·.tid = tid) :=
      mem_filter.mpr ⟨stored, decide_eq_true equal⟩
    rw [← map_id (s.tasks.filter (·.tid = tid)), map_map] at same
    exact report_ne solid (texts task stored equal) (map_inj_left.mp same task listed)
  · intro none
    have empty : s.tasks.filter (·.tid = tid) = [] := by
      apply filter_eq_nil_iff.mpr
      intro task stored equal
      exact none ⟨task, stored, of_decide_eq_true equal⟩
    rw [empty]
    rfl

/-- Both invariants hold in every state that is reached. -/
theorem reached_sane (distinct : (s.jobs.map (·.id)).Nodup) {actions : List LeaseAction}
    (reached : run (step cfg) { store := s } actions = some w) : w.Sane ∧ w.AllEnded := by
  have kept : ∀ w action next, w.Sane ∧ w.AllEnded → step cfg w action = some next →
      next.Sane ∧ next.AllEnded := by
    intro w action next inv taken
    exact ⟨inv.1.step taken, inv.2.step inv.1 taken⟩
  refine run_invariant kept ⟨.start distinct, ?_⟩ reached
  exact fun _ _ _ logged => absurd logged not_mem_nil

/-- **A step of a run whose job has ended well under another worker is harmless exactly if it does
not write its report to the row of the task.** -/
theorem ended_job_harmless_iff (cfg : LeaseConfig) (s : LeaseStore)
    (distinct : (s.jobs.map (·.id)).Nodup) (actions : List LeaseAction) (w next : LeaseWorld)
    (action : LeaseAction) (run : LeaseRun)
    (reached : Base.run (step cfg) { store := s } actions = some w) (of : w.runOf action = some run)
    (finalized : ∃ tid worker, .finalized run.job.id tid worker ∈ w.log)
    (taken : w.step cfg action = some next) :
    Harmless run.job.id run.job.taskTID w.store next.store ↔ ¬w.Unguarded action := by
  obtain ⟨sane, allEnded⟩ := reached_sane distinct reached
  obtain ⟨tid, worker, logged⟩ := finalized
  have ended := allEnded _ tid worker logged
  have there : run ∈ w.jobs := by
    cases action with
    | advance | heartbeat => exact mem_of_getElem? of
    | claim | crash => cases of
  -- The task of the event is that of the job.
  obtain rfl : tid = run.job.taskTID := by
    obtain ⟨row, stored, same⟩ := ended.stored
    rw [← (ended.rows row stored same).2.2]
    exact sane.task run there row stored same
  have lost := ended.lost (sane.named run there)
  cases step_takes taken with
  | idle | claim | crash => cases of
  | @heartbeat index other now found =>
    obtain rfl := Option.some.inj (found.symm.trans of)
    have still : w.store.heartbeat cfg other.worker other.job.id now = w.store := by
      apply updateJobs_none
      intro row stored
      have free := lost row stored
      unfold holds at free
      rw [Bool.and_right_comm, free]
      rfl
    rw [still]
    exact ⟨fun _ written => written, fun _ => ⟨rfl, rfl⟩⟩
  | @advance index input other next found store log others =>
    obtain rfl := Option.some.inj (found.symm.trans of)
    rw [store]
    cases reports : other.reports with
    | none =>
      rw [run_lost lost reports]
      refine ⟨fun _ written => ?_, fun _ => ⟨rfl, rfl⟩⟩
      obtain ⟨run, present, speaks, -⟩ := written
      obtain rfl := Option.some.inj (found.symm.trans present)
      rw [reports] at speaks
      cases speaks
    | some report =>
      have solid := sane.speaks other there report reports
      obtain ⟨status, text⟩ := report
      rw [run_reports reports]
      have written : w.Unguarded (.advance index input) ↔
          input.fails = false ∧ ∃ task ∈ w.store.tasks, task.tid = other.job.taskTID := by
        constructor
        · intro wrote
          obtain ⟨run, present, -, commits, stored⟩ := wrote
          obtain rfl := Option.some.inj (found.symm.trans present)
          exact ⟨commits, stored⟩
        · intro ⟨commits, stored⟩
          exact ⟨other, found, by rw [reports]; rfl, commits, stored⟩
      rw [written]
      cases fails : input.fails with
      | true => exact ⟨fun _ wrote => absurd wrote.1 (by decide), fun _ => ⟨rfl, rfl⟩⟩
      | false =>
        have same := report_same_iff status solid ended.tasks
        constructor
        · intro harmless wrote
          exact same.mp harmless.2 wrote.2
        · intro unwritten
          exact ⟨rfl, same.mpr fun stored => unwritten ⟨rfl, stored⟩⟩

/-- One task with one job. -/
def takenOver : LeaseStore where
  jobs := [{ id := 1, taskTID := "t" }]
  tasks := [{ tid := "t" }]

/-- The first worker stops to extend its lease, the second claims the job and ends it well. -/
def takeOver : List LeaseAction :=
  [.claim "a" 0 [], .advance 0 {}, .advance 0 {}, .advance 0 {}, .claim "b" 400000 [],
    .advance 1 {}, .advance 1 {}, .advance 1 {}, .advance 1 {}, .advance 1 { now := 400001 }]

/-- The first worker then ends its analysis, and its transaction that would end the job is turned
away. -/
theorem taken_over_analysis_harmless :
    ∃ w next, run (step {}) { store := takenOver } (takeOver ++ [.advance 0 {}]) = some w ∧
      w.step {} (.advance 0 { now := 400002 }) = some next ∧
      (w.runOf (.advance 0 {})).map (fun run => (run.worker, run.stage)) = some ("a", .finalizing) ∧
      .finalized 1 "t" "b" ∈ w.log ∧ Harmless 1 "t" w.store next.store := by
  obtain ⟨w, reached, stage, logged, steps, known⟩ :
      ∃ w, run (step {}) { store := takenOver } (takeOver ++ [.advance 0 {}]) = some w ∧
        (w.runOf (.advance 0 {})).map (fun run => (run.worker, run.stage)) =
        some ("a", .finalizing) ∧
        .finalized 1 "t" "b" ∈ w.log ∧ (w.step {} (.advance 0 { now := 400002 })).isSome = true ∧
        (w.runOf (.advance 0 { now := 400002 })).map
          (fun run => (run.job.id, run.job.taskTID, run.reports)) = some (1, "t", none) :=
    exists_run (by decide)
  obtain ⟨next, taken⟩ := Option.isSome_iff_exists.mp steps
  obtain ⟨run, of, values⟩ := Option.map_eq_some_iff.mp known
  simp only [Prod.mk.injEq] at values
  obtain ⟨id, tid, silent⟩ := values
  have harmless := ended_job_harmless_iff {} takenOver (by decide) _ w next _ run reached of
    ⟨"t", "b", by rw [id]; exact logged⟩ taken
  rw [id, tid] at harmless
  refine ⟨w, next, reached, taken, stage, logged, harmless.mpr fun written => ?_⟩
  obtain ⟨other, found, speaks, -⟩ := written
  obtain rfl := Option.some.inj (of.symm.trans found)
  rw [silent] at speaks
  cases speaks

/-- It cannot end the job, which it does not hold any more, cannot fail it either, and reports
that. -/
theorem taken_over_worker_reports_failure :
    ∃ w, run (step {}) { store := takenOver }
        (takeOver ++ [.advance 0 {}, .advance 0 { now := 400002 }, .advance 0 {}]) = some w ∧
      .finalized 1 "t" "b" ∈ w.log ∧ (w.runOf (.advance 0 {})).map (·.worker) = some "a" ∧
      w.store.tasks.map (·.analysisStatus) = [2] ∧
      (w.step {} (.advance 0 {})).map (fun next => next.store.tasks.map (·.analysisStatus)) =
      some [3] :=
  exists_run (by decide)

end LeaseWorld

end MiniDrop
