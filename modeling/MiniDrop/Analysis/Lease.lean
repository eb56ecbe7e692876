import MiniDrop.Server.ArtifactStore
/-!
# Leases on analysis jobs

Workers claim the rows of `analysis_jobs` one at a time, run the analyser, and write the end of the
run to the row of the job and to the row of the task. A row can be claimed again when its lease has
run out. Every statement on the row of a job asks for the worker that holds its lease; several
statements on the row of the task ask for nothing. Between any two statements of a run others may
run, and a worker may stop anywhere.
-/
namespace MiniDrop

/-! ## Rows -/

/-- A row of `analysis_jobs`: the columns that workers read again. -/
structure LeasedJob where
  id : Nat
  taskTID : String
  status : AnalysisStatus := .pending
  attempt : Nat := 0
  maxAttempts : Option Nat := some 3
  attemptID : Nat := 0
  trigger : AnalysisTrigger := .initial
  leaseOwner : String := ""
  leaseExpiresAt : Option Int := none
  lastError : String := ""
  supersededAt : Option Int := none
  createdAt : Int := 0
  deriving DecidableEq

/-- The columns of `hotmethod_tasks` that the analysis writes. -/
structure AnalysedTask where
  tid : String
  analysisStatus : Nat := 0
  statusInfo : Option String := some ""
  activeAnalysisJobID : Option Nat := none

/-- Both tables. -/
structure LeaseStore where
  jobs : List LeasedJob := []
  tasks : List AnalysedTask := []

/-- `AnalysisJob`: a row as it was claimed. -/
structure ClaimedJob where
  id : Nat
  taskTID : String
  (attempt maxAttempts attemptID : Nat)
  trigger : AnalysisTrigger

/-- The settings of the daemon: `MAX_ANALYSIS_ATTEMPTS` and `LEASE_SECONDS`. -/
structure LeaseConfig where
  maxAnalysisAttempts : Nat := 3
  leaseSeconds : Int := 300

/-- `error[:1024]`. -/
def clip (text : String) : String := String.ofList (text.toList.take 1024)

def shouldRetry (cfg : LeaseConfig) (job : ClaimedJob) : Bool :=
  job.attempt < if job.maxAttempts = 0 then cfg.maxAnalysisAttempts else job.maxAttempts

namespace AnalysedTask

/-- The columns that `update_analysis_status` writes; a missing text stays missing. -/
def report (status : Nat) (info : String) (task : AnalysedTask) : AnalysedTask :=
  if info = "" then { task with analysisStatus := status }
  else
    { task with
      analysisStatus := status
      statusInfo := task.statusInfo.map fun old => if old = "" then info else old ++ "; " ++ info }

/-- The columns that the ends of a run write in their transaction. -/
def settle (status : Nat) (info : String) (task : AnalysedTask) : AnalysedTask :=
  { task with
    analysisStatus := status
    statusInfo := some
      (if task.statusInfo.getD "" = "" then info else task.statusInfo.getD "" ++ "; " ++ info) }

end AnalysedTask

namespace LeaseStore

variable (s : LeaseStore)

/-- An update of the jobs that pass a test. -/
def updateJobs (test : LeasedJob → Bool) (change : LeasedJob → LeasedJob) : LeaseStore :=
  { s with jobs := s.jobs.map fun row => if test row then change row else row }

/-- An update of the row of a task. -/
def updateTask (tid : String) (change : AnalysedTask → AnalysedTask) : LeaseStore :=
  { s with tasks := s.tasks.map fun row => if row.tid = tid then change row else row }

/-! ## `AnalysisLeaseClient` -/

/-- A job that can be claimed: it is pending, is to be tried again, or its lease has run out. -/
def claimable (now : Int) (row : LeasedJob) : Bool :=
  row.status = .pending || row.status = .retry ||
    (row.status = .running && row.leaseExpiresAt.any (· < now))

/-- The row that `claim_one` picks; rows that another transaction has locked are skipped. -/
def picked (now : Int) (locked : List Nat) : Option LeasedJob :=
  (Base.orderBy (·.createdAt)
    (s.jobs.filter fun row => claimable now row && !locked.contains row.id)).head?

/-- The row after it was claimed. -/
def claimedRow (cfg : LeaseConfig) (worker : String) (now : Int) (row : LeasedJob) : LeasedJob :=
  { row with
    status := .running
    leaseOwner := worker
    leaseExpiresAt := some (now + cfg.leaseSeconds * Time.second)
    attempt := row.attempt + 1 }

/-- What `claim_one` returns of a row. -/
def claimedJob (row : LeasedJob) : ClaimedJob where
  id := row.id
  taskTID := row.taskTID
  attempt := row.attempt + 1
  maxAttempts := row.maxAttempts.getD 3
  attemptID := row.attemptID
  trigger := row.trigger

def claimOne (cfg : LeaseConfig) (worker : String) (now : Int) (locked : List Nat) :
    Option (ClaimedJob × LeaseStore) :=
  (s.picked now locked).map fun row =>
    (claimedJob row, s.updateJobs (·.id = row.id) (claimedRow cfg worker now))

def heartbeat (cfg : LeaseConfig) (worker : String) (id : Nat) (now : Int) : LeaseStore :=
  s.updateJobs (fun row => row.id = id && row.status = .running && row.leaseOwner = worker)
    fun row =>
    { row with leaseExpiresAt := some (now + cfg.leaseSeconds * Time.second) }

/-- The worker holds the lease on the row. -/
def holds (worker : String) (id : Nat) (row : LeasedJob) : Bool :=
  row.id = id && row.leaseOwner = worker

/-- The update of `_finish`. -/
def finish (worker : String) (id : Nat) (status : AnalysisStatus) (error : String) : LeaseStore :=
  s.updateJobs (holds worker id) fun row =>
    { row with
      status
      leaseOwner := ""
      leaseExpiresAt := none
      lastError := if clip error = "" then row.lastError else clip error }

/-- The update of `_finish` was one of exactly one row. -/
def finishes (worker : String) (id : Nat) : Bool := s.jobs.countP (holds worker id) = 1

/-! ## The ends of a run -/

/-- `superseded_at` of a job, unless it is set. -/
def supersede (id : Nat) (now : Int) : LeaseStore :=
  s.updateJobs (fun row => row.id = id && row.supersededAt.isNone) fun row =>
    { row with supersededAt := some now }

/-- The active job of a task; 0 if there is none. -/
def activeJob (tid : String) : Nat :=
  ((s.tasks.find? (·.tid = tid)).bind (·.activeAnalysisJobID)).getD 0

/-- An earlier attempt comes late, and the active job stays. -/
def comesLate (job : ClaimedJob) (active : Nat) : Bool :=
  job.trigger = .initial && active ≠ 0 &&
    job.attemptID < ((s.jobs.find? (·.id = active)).map (·.attemptID)).getD 0

/-- `_switch_active_job_tx`. -/
def switchActiveJob (job : ClaimedJob) (now : Int) : LeaseStore :=
  let active := s.activeJob job.taskTID
  if active = job.id then s
  else if s.comesLate job active then s.supersede job.id now
  else
    (if active = 0 then s else s.supersede active now).updateTask job.taskTID fun task =>
      { task with activeAnalysisJobID := some job.id }

/-- `finalize_success_tx`; nothing if the lease is gone. -/
def finalizeSuccess (worker : String) (job : ClaimedJob) (now : Int) : Option LeaseStore :=
  if s.finishes worker job.id then
    some (((s.finish worker job.id .success "").switchActiveJob job now).updateTask job.taskTID
      (AnalysedTask.settle 2 "分析完成"))
  else none

/-- `finalize_failure_tx`; nothing if the lease is gone. -/
def finalizeFailure (worker : String) (job : ClaimedJob) (error : String) (retry : Bool) :
    Option LeaseStore :=
  if s.finishes worker job.id then
    some ((s.finish worker job.id (if retry then .retry else .failed) error).updateTask job.taskTID
      (AnalysedTask.settle 3 (clip error)))
  else none

end LeaseStore

/-! ## Runs -/

/-- What is raised while a job runs. -/
inductive Raised where
  /-- No analyser is registered, or anything else looks up a key in vain. -/
  | keyError (text : String)
  /-- `SystemExit`. -/
  | exit (code : Int)
  | inputError (text : String)
  | analyzerError (retryable : Bool) (text : String)
  | other (text : String)

/-- Where `run_job` is. -/
inductive RunStage where
  /-- It has no connection yet. -/
  | starting
  /-- It reads the task and looks for its analyser. -/
  | connected
  /-- It marks the task as being analysed. -/
  | marking
  | analysing
  /-- The transaction of `finalize_success_tx`. -/
  | finalizing
  /-- `complete` after an exit without an error. -/
  | completing
  /-- The transaction of `finalize_failure_tx`. -/
  | failing (error : String) (retry : Bool)
  /-- `update_analysis_status` on a connection of its own, with the text that is reported. -/
  | reporting (text error : String) (retry last : Bool)
  /-- `fail` on a connection of its own; the last one is not caught. -/
  | releasing (error : String) (retry last : Bool)
  deriving DecidableEq

/-- A run of a job by a worker. -/
structure LeaseRun where
  worker : String
  job : ClaimedJob
  stage : RunStage := .starting

/-- What a step is told: the time, whether its statement or transaction fails and with which text,
and what the code that it calls raises. -/
structure LeaseInput where
  now : Int := 0
  fails : Bool := false
  reason : String := ""
  raised : Option Raised := none

/-- What is written to the log. -/
inductive LeaseEvent where
  /-- `claim_one` has returned the job. -/
  | handed (id : Nat) (worker : String)
  /-- `finalize_success_tx` was committed. -/
  | finalized (id : Nat) (tid worker : String)
  deriving DecidableEq

/-- What one step leaves. -/
abbrev LeaseOutcome := Base.Outcome LeaseStore LeaseRun LeaseEvent

namespace LeaseRun

/-- The next stage. -/
def goTo (run : LeaseRun) (s : LeaseStore) (stage : RunStage) : LeaseOutcome :=
  { store := s, next := [{ run with stage }] }

/-- An error that was not caught before, with and without a connection. -/
def raiseError (run : LeaseRun) (s : LeaseStore) (connected : Bool) (text : String) (retry : Bool) :
    LeaseOutcome :=
  let error := "分析异常: " ++ text
  if connected then run.goTo s (.failing error retry)
  else run.goTo s (.reporting error error retry false)

/-- The handlers of `run_job`. -/
def handle (cfg : LeaseConfig) (run : LeaseRun) (s : LeaseStore) (connected : Bool) :
    Raised → LeaseOutcome
  | .keyError text =>
    let error := "未注册分析器: " ++ text
    run.goTo s (.reporting error error false true)
  | .exit code =>
    if code = 0 then run.goTo s .completing
    else
      let error := "分析失败: exit=" ++ toString code
      run.goTo s (.reporting error error (shouldRetry cfg run.job) true)
  | .inputError text => run.raiseError s connected text false
  | .analyzerError retryable text =>
    run.raiseError s connected text (retryable && shouldRetry cfg run.job)
  | .other text => run.raiseError s connected text (shouldRetry cfg run.job)

/-- The next stage, unless something is raised. -/
def proceed (cfg : LeaseConfig) (run : LeaseRun) (s : LeaseStore) (connected : Bool)
    (input : LeaseInput) (stage : RunStage) : LeaseOutcome :=
  match input.raised with
  | some raised => run.handle cfg s connected raised
  | none => run.goTo s stage

/-- The lease was lost before the transaction. -/
def leaseLost : String := "lease_owner 已变化"

/-- One step of `run_job`. -/
def run (cfg : LeaseConfig) (s : LeaseStore) (run : LeaseRun) (input : LeaseInput) : LeaseOutcome :=
  match run.stage with
  | .starting => run.proceed cfg s false input .connected
  | .connected => run.proceed cfg s true input .marking
  | .marking =>
    run.goTo (if input.fails then s else s.updateTask run.job.taskTID (AnalysedTask.report 1 "分析中"))
      .analysing
  | .analysing => run.proceed cfg s true input .finalizing
  | .finalizing =>
    match input.raised with
    | some raised => run.handle cfg s true raised
    | none =>
      if input.fails then run.handle cfg s true (.other input.reason)
      else
        match s.finalizeSuccess run.worker run.job input.now with
        | none => run.handle cfg s true (.other ("AnalysisJob 完成失败：" ++ leaseLost))
        | some done =>
          { store := done, events := [.finalized run.job.id run.job.taskTID run.worker] }
  | .completing =>
    { store := if input.fails then s else s.finish run.worker run.job.id .success "" }
  | .failing error retry =>
    let again (reason : String) := run.goTo s
      (.reporting (error ++ "; 完成失败: " ++ reason) error retry true)
    if input.fails then again input.reason
    else
      match s.finalizeFailure run.worker run.job error retry with
      | none => again ("AnalysisJob 失败标记未生效：" ++ leaseLost)
      | some done => { store := done }
  | .reporting text error retry last =>
    run.goTo (if input.fails then s else s.updateTask run.job.taskTID (AnalysedTask.report 3 text))
      (.releasing error retry last)
  | .releasing error retry last =>
    if input.fails then
      if last then { store := s }
      else run.goTo s (.reporting (error ++ "; 完成失败: " ++ input.reason) error retry true)
    else { store := s.finish run.worker run.job.id (if retry then .retry else .failed) error }

end LeaseRun

/-! ## The system -/

/-- The tables, the runs under way and the log. -/
abbrev LeaseWorld := Base.Pool LeaseStore LeaseRun LeaseEvent

/-- What can happen. -/
inductive LeaseAction where
  /-- A worker that runs nothing claims a job. -/
  | claim (worker : String) (now : Int) (locked : List Nat)
  | heartbeat (index : Nat) (now : Int)
  | advance (index : Nat) (input : LeaseInput)
  | crash (index : Nat)

namespace LeaseWorld

/-- The worker runs a job. -/
def busy (w : LeaseWorld) (worker : String) : Bool := w.jobs.any (·.worker = worker)

/-- One step of the system. -/
def step (cfg : LeaseConfig) (w : LeaseWorld) : LeaseAction → Option LeaseWorld
  | .claim worker now locked =>
    if worker = "" ∨ w.busy worker = true then none
    else
      match w.store.claimOne cfg worker now locked with
      | none => some w
      | some (job, s) =>
        some (w.enter { store := s, next := [{ worker, job }], events := [.handed job.id worker] })
  | .heartbeat index now =>
    (w.jobs[index]?).map fun run =>
      { w with store := w.store.heartbeat cfg run.worker run.job.id now }
  | .advance index input => w.advance (LeaseRun.run cfg) index input
  | .crash index => some { w with jobs := w.jobs.eraseIdx index }

end LeaseWorld

end MiniDrop
