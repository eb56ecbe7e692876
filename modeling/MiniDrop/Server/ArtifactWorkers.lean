import MiniDrop.Server.SymbolWorkers
/-!
# Artifacts, their writers and their cleaner

The system of everything that registers, analyses, pins and deletes the artifacts of tasks. An
action starts a job, is a transaction of its own, or lets one of the jobs take its next step. A job
that crashes is gone, with what it has done so far.
-/
namespace MiniDrop

/-- The jobs of all workers. -/
inductive ArtifactJob where
  | queue (job : QueueJob)
  | clean (job : CleanJob)
  | symbol (job : SymbolJob)

/-- The answers of all requests. -/
inductive ArtifactEvent where
  | notify (answered : NotifyAnswered)
  | symbol (answered : SymbolAnswered)

/-- What one step leaves. -/
abbrev ArtifactOutcome := Base.Outcome ArtifactStore ArtifactJob ArtifactEvent

/-- The tables, the jobs under way and the answers. -/
abbrev ArtifactWorld := Base.Pool ArtifactStore ArtifactJob ArtifactEvent

namespace ArtifactJob

/-- The outcome of a step of the queue. -/
def ofQueue (out : QueueOutcome) : ArtifactOutcome :=
  { store := out.store, next := out.next.map .queue, events := out.events.map .notify }

/-- The outcome of a step of the cleaner. -/
def ofClean (out : CleanOutcome) : ArtifactOutcome :=
  { store := out.store, next := out.next.map .clean }

/-- The outcome of a step of a symbol request. -/
def ofSymbol (out : SymbolOutcome) : ArtifactOutcome :=
  { store := out.store, next := out.next.map .symbol, events := out.events.map .symbol }

/-- One step. -/
def run (cfg : NotifyConfig) (s : ArtifactStore) (job : ArtifactJob) (input : WorkInput) :
    ArtifactOutcome :=
  match job with
  | .queue job => ofQueue (job.run cfg s input)
  | .clean job => ofClean (job.run cfg s input)
  | .symbol job => ofSymbol (job.run s input)

end ArtifactJob

/-! ## Requests -/

namespace ArtifactStore

variable (s : ArtifactStore)

/-- `NotifyTaskResult` up to its transaction; an error report writes no artifact. -/
def receiveNotify (cfg : NotifyConfig) (body : NotifyReq) : QueueOutcome :=
  match s.admitNotification cfg.layoutV2 body with
  | .error answer => { store := s, events := [{ req := body, code := answer.code }] }
  | .ok (task, req) =>
    if req.isError then { store := s, events := [{ req, code := 0 }] }
    else { store := s, next := [.notified req task] }

/-- `pollRunningTasks` has come to a task and looks for its object. -/
def receivePoll (cfg : NotifyConfig) (tid : String) (files : List (String × Int)) : QueueOutcome :=
  match s.findRawCollectionArtifact cfg tid files with
  | none => { store := s }
  | some (key, size) => { store := s, next := [.found tid key size] }

/-- `ReanalyzeTask` up to its look at the jobs in flight. -/
def receiveReanalyze (cfg : NotifyConfig) (tid : String) (attemptID : Nat) (requestedBy : String) :
    QueueOutcome :=
  match s.findTask tid with
  | none => { store := s }
  | some task =>
    if cfg.generations && cfg.connected && isTerminalTaskStatus task.status then
      { store := s
        next := [.reanalysis
          { tid, status := task.status, attemptID, pipeline := s.pipelineForTask tid,
            requestedBy }] }
    else { store := s }

/-- The worker that analyses changes the status of a job in flight. -/
def setAnalysisStatus (id : Nat) (status : AnalysisStatus) : ArtifactStore :=
  { s with
    analysisJobs := s.analysisJobs.map fun job =>
      if job.id = id ∧ job.status.inFlight = true then { job with status } else job }

/-- `reconcileLifecycle` for one row. -/
def setExpiry (id : Nat) (expiresAt retentionNotBefore : Option Int) : ArtifactStore :=
  s.updateArtifacts (fun row => row.id = id && row.live) fun row =>
    { row with expiresAt, retentionNotBefore }

/-- A row of the task is claimed by the cleaner. -/
def hasDeleting (tid : String) : Bool :=
  s.artifacts.any fun row => row.taskTID = tid && row.status = .deleting && row.live

/-- `PinTaskArtifacts`; nothing if the task is gone or a row of it is being deleted. -/
def pinTaskArtifacts (tid : String) (pin : Bool) : Option ArtifactStore :=
  if (s.findTask tid).isNone ∨ (pin = true ∧ s.hasDeleting tid = true) then none
  else
    some { s with
      pinned := if pin then tid :: s.pinned.filter (· ≠ tid) else s.pinned.filter (· ≠ tid) }

/-- `DeleteTask` up to the read of its artifacts. -/
def softDelete (task : HotmethodTask) : ArtifactStore :=
  { s with
    tasks := s.tasks.filter (·.tid ≠ task.tid)
    deletedTasks := s.deletedTasks ++ [task] }

end ArtifactStore

/-! ## The system -/

/-- What can happen. -/
inductive ArtifactAction where
  /-- Anything that other requests and workers do to tasks and attempts. No row of a task goes. -/
  | tasks (next : TaskStore)
  /-- An agent uploads an object. -/
  | upload (key : String) (object : TaskObject)
  | notify (body : NotifyReq)
  | poll (tid : String) (files : List (String × Int))
  | reanalyze (tid : String) (attemptID : Nat) (requestedBy : String)
  | analysis (id : Nat) (status : AnalysisStatus)
  | expiry (id : Nat) (expiresAt retentionNotBefore : Option Int)
  | pin (tid : String) (pins : Bool)
  /-- `processExpiredCandidates`, `processDeletingRetries` and `processBlobDeletingRetries`. -/
  | clean (now : Int) (limit : Nat)
  | cleanDeleting (now : Int) (limit : Nat)
  | cleanBlobs (now : Int) (limit : Nat)
  /-- `DeleteTask`. -/
  | deleteTask (tid : String)
  /-- `cleanupDeletedTaskArtifacts` for one task, and `DeleteTask` after its write. -/
  | cleanDeleted (tid : String) (sweeps : Bool)
  | checkKernel (req : KernelSymbolCheckReq)
  | uploadKernel (tid targetIP : String) (object : TaskObject) (packed now : Int)
  | uploadProgram (buildID : String) (object : TaskObject) (now : Int)
  | advance (index : Nat) (input : WorkInput)
  | crash (index : Nat)

/-- What a request does at once, and the jobs that it leaves; nothing for a step of a job. -/
def ArtifactAction.enter (cfg : NotifyConfig) (s : ArtifactStore) :
    ArtifactAction → Option ArtifactOutcome
  | .tasks next =>
    if s.tasks.all fun row => next.tasks.any (·.tid = row.tid) then
      some { store := { s with toTaskStore := next } }
    else none
  | .upload key object => some { store := s.putObject key object }
  | .notify body => some (ArtifactJob.ofQueue (s.receiveNotify cfg body))
  | .poll tid files => some (ArtifactJob.ofQueue (s.receivePoll cfg tid files))
  | .reanalyze tid attemptID requestedBy =>
    some (ArtifactJob.ofQueue (s.receiveReanalyze cfg tid attemptID requestedBy))
  | .analysis id status => some { store := s.setAnalysisStatus id status }
  | .expiry id expiresAt retentionNotBefore =>
    some { store := s.setExpiry id expiresAt retentionNotBefore }
  | .pin tid pins => (s.pinTaskArtifacts tid pins).map fun store => { store }
  | .clean now limit =>
    some { store := s, next := [.clean (.candidates (s.expiredCandidates now limit))] }
  | .cleanDeleting now limit =>
    some
      { store := s
        next := [.clean (.claiming { kind := .retry, rest := s.deletingCandidates now limit })] }
  | .cleanBlobs now limit =>
    some { store := s, next := [.clean (.retrying (s.deletingBlobs now limit))] }
  | .deleteTask tid => (s.findTask tid).map fun task => { store := s.softDelete task }
  | .cleanDeleted tid sweeps =>
    if s.taskDeleted tid then
      some
        { store := s
          next := [.clean (.claiming { kind := .taskDeleted tid sweeps, rest := s.taskRows tid })] }
    else none
  | .checkKernel req => some (ArtifactJob.ofSymbol (SymbolJob.check cfg s req))
  | .uploadKernel tid targetIP object packed now =>
    some (ArtifactJob.ofSymbol (SymbolJob.upload cfg s tid targetIP object packed now))
  | .uploadProgram buildID object now =>
    some (ArtifactJob.ofSymbol (SymbolJob.uploadProgram cfg s buildID object now))
  | .advance _ _ => none
  | .crash _ => none

/-- One step of the system. -/
def ArtifactWorld.step (cfg : NotifyConfig) (w : ArtifactWorld) :
    ArtifactAction → Option ArtifactWorld
  | .advance index input => w.advance (ArtifactJob.run cfg) index input
  | .crash index => some { w with jobs := w.jobs.eraseIdx index }
  | action => (action.enter cfg w.store).map w.enter

end MiniDrop
