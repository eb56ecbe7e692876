import MiniDrop.Server.RawObjects
/-!
# Who creates analysis jobs

Success notifications, the poller and requests for another analysis, each as the steps between which
others may run. A transaction is one step, apart from what it reads before it locks the row of the
task. A row that another transaction has inserted in the meantime is read again, since the insert
waits for that transaction.
-/
namespace MiniDrop

def pipelineAcceptsRaw (pipeline key : String) : Bool :=
  let lower := key.toLower
  if pipeline = "pprof" ∨ pipeline = "pprof_heap" then
    hasSuffix lower ".pb.gz" || hasSuffix lower "perf.data"
  else if pipeline = "bpf_histogram" then
    hasSuffix lower ".bpf" || hasSuffix lower "perf.data" || hasSuffix lower ".txt"
  else if pipeline = "memleak" then
    hasSuffix lower "memtrace.txt" || hasSuffix lower ".txt"
  else if pipeline = "java_async_profiler" ∨ pipeline = "java_heap" then
    hasSuffix lower "perf.data" || hasSuffix lower ".collapsed" || hasSuffix lower ".jfr"
  else hasSuffix lower "perf.data"

namespace ArtifactStore

variable (s : ArtifactStore)

def pipelineForTask (tid : String) : String :=
  (s.kindPipeline tid).getD (analysisPipelineForObject "perf.data")

/-- A raw object of a task that can be read. -/
def readyRaw (tid : String) (row : Artifact) : Bool :=
  row.taskTID = tid && row.kind = .raw && row.status = .ready && row.live

/-- `latestAttemptWithReadyRaw`; 0 if there is none. -/
def latestAttemptWithReadyRaw (tid : String) : Nat :=
  let ready := s.artifacts.filter fun row => readyRaw tid row && 0 < row.attemptID
  (((Base.orderBy (fun row : TaskAttempt => toLex (-(row.attemptSeq : Int), -(row.id : Int)))
    (s.attempts.filter fun attempt => ready.any (·.attemptID = attempt.id))).head?).map (·.id)).getD
    0

def readyRawIDsForAttempt (tid : String) (attemptID : Nat) : List Nat :=
  if attemptID = 0 then []
  else (Base.orderBy (·.id) (s.artifacts.filter fun row =>
    readyRaw tid row && row.attemptID = attemptID)).map (·.id)

def anyRawMatchesPipeline (rawIDs : List Nat) (pipeline : String) : Bool :=
  s.artifacts.any fun row => rawIDs.contains row.id && pipelineAcceptsRaw pipeline row.objectKey

/-- A job of the task is in flight. -/
def analysisInFlight (tid : String) : Bool :=
  s.analysisJobs.any fun job => job.taskTID = tid && job.status.inFlight

end ArtifactStore

/-- A request for another analysis, with the status and the pipeline of the task as they were
read. -/
structure Reanalysis where
  tid : String
  status : TaskStatus
  attemptID : Nat
  (pipeline requestedBy : String)

/-- The transaction of `ReanalyzeTask`; nothing if the task is gone or a job is in flight. -/
def ArtifactStore.commitReanalysis (s : ArtifactStore) (request : Reanalysis) (rawIDs : List Nat)
    (now : Int) : Option ArtifactStore :=
  if (s.findTask request.tid).isNone ∨ s.analysisInFlight request.tid = true then none
  else
    let generation := s.maxGeneration request.tid + 1
    (s.insertJob
      { taskTID := request.tid
        attemptID := request.attemptID
        generation
        pipeline := request.pipeline
        trigger := .manual
        requestedBy := request.requestedBy
        inputArtifactIDs := rawIDs
        createdAt := now }).map fun created =>
      { created with
        toTaskStore := created.addEvent request.tid (some request.status) request.status
          ("用户 " ++ request.requestedBy ++ " 发起人工重分析（generation " ++ toString generation ++ "）")
          "analysis_reanalyze" now }

/-! ## Jobs -/

/-- What is left to do. -/
inductive QueueJob where
  /-- A success notification that was admitted. -/
  | notified (req : NotifyReq) (task : HotmethodTask)
  /-- Its keys are no tombstones. -/
  | tested (req : NotifyReq) (task : HotmethodTask)
  /-- It has read what it needs for a job. -/
  | planned (req : NotifyReq) (task : HotmethodTask) (plan : QueuePlan)
  /-- It is committed. -/
  | answering (req : NotifyReq)
  /-- It came too late, and its objects are deleted. -/
  | late (req : NotifyReq) (keys : List String)
  /-- The poller has found a raw object. -/
  | found (tid key : String) (size : Int)
  | foundPlanned (tid key : String) (size : Int) (plan : QueuePlan)
  /-- A request for another analysis of a task that has ended. -/
  | reanalysis (request : Reanalysis)
  /-- No job was in flight. -/
  | choosing (request : Reanalysis)
  /-- The attempt was chosen. -/
  | owning (request : Reanalysis)
  /-- The attempt is one of the task. -/
  | listing (request : Reanalysis)
  | matching (request : Reanalysis) (rawIDs : List Nat)
  /-- One of the objects is fit for the pipeline. -/
  | creating (request : Reanalysis) (rawIDs : List Nat)

/-- The answers of `NotifyTaskResult`. -/
structure NotifyAnswered where
  req : NotifyReq
  code : Nat

/-- What a step is told: the time, and whether a transaction or a delete fails. -/
structure WorkInput where
  now : Int := 0
  fails : Bool := false

/-- What one step leaves. -/
abbrev QueueOutcome := Base.Outcome ArtifactStore QueueJob NotifyAnswered

namespace QueueJob

/-- Another transaction has inserted the row of the object since it was found missing. -/
def overtaken (s : ArtifactStore) (tid key : String) (plan : QueuePlan) : Bool :=
  plan.inputs.isNone && (s.findArtifact tid .raw (trimSpace key)).isSome

/-- One step. -/
def run (cfg : NotifyConfig) (s : ArtifactStore) (job : QueueJob) (input : WorkInput) :
    QueueOutcome :=
  match job with
  | .notified req task =>
    if s.tombstoned task.tid (ArtifactStore.testedKeys req) then
      { store := s, next := [.late req (if cfg.connected then ArtifactStore.lateKeys req else [])] }
    else { store := s, next := [.tested req task] }
  | .tested req task =>
    { store := s, next := [.planned req task (s.planAnalysis task.tid req.attemptID req.cosKey)] }
  | .planned req task plan =>
    if input.fails then { store := s, events := [{ req, code := 500 }] }
    else if overtaken s task.tid req.cosKey plan then { store := s, next := [.tested req task] }
    else
      match s.commitNotification cfg req task plan input.now with
      | none => { store := s, events := [{ req, code := 500 }] }
      | some done => { store := done, next := [.answering req] }
  | .answering req => { store := s, events := [{ req, code := 0 }] }
  | .late req [] => { store := s, events := [{ req, code := 409 }] }
  | .late req (key :: keys) =>
    { store := if input.fails then s else s.deleteObject key, next := [.late req keys] }
  | .found tid key size =>
    if trimSpace key = "" then { store := s }
    else { store := s, next := [.foundPlanned tid key size (s.planAnalysis tid 0 key)] }
  | .foundPlanned tid key size plan =>
    if input.fails then { store := s }
    else if overtaken s tid key plan then { store := s, next := [.found tid key size] }
    else { store := (s.queueAnalysis cfg.generations tid 0 key size plan input.now).getD s }
  | .reanalysis request =>
    if s.analysisInFlight request.tid then { store := s }
      else { store := s, next := [.choosing request] }
  | .choosing request =>
    let attemptID :=
      if request.attemptID = 0 then s.latestAttemptWithReadyRaw request.tid else request.attemptID
    if attemptID = 0 then { store := s }
      else { store := s, next := [.owning { request with attemptID }] }
  | .owning request =>
    if s.hasAttempt request.tid request.attemptID then { store := s, next := [.listing request] }
    else { store := s }
  | .listing request =>
    let rawIDs := s.readyRawIDsForAttempt request.tid request.attemptID
    if rawIDs = [] then { store := s } else { store := s, next := [.matching request rawIDs] }
  | .matching request rawIDs =>
    if s.anyRawMatchesPipeline rawIDs request.pipeline then
      { store := s, next := [.creating request rawIDs] }
    else { store := s }
  | .creating request rawIDs =>
    if input.fails then { store := s }
    else { store := (s.commitReanalysis request rawIDs input.now).getD s }

end QueueJob

end MiniDrop
