import MiniDrop.Server.ArtifactStore
import MiniDrop.Server.AttemptWorkers
/-!
# Registration of a result

A success notification tests its keys for tombstones, moves the task to done, registers the raw
object and its manifest, queues an analysis job, updates the row of the object and ends the attempt,
in one transaction. What it reads before it locks the row of the task is kept apart from what it
writes. `notifyTaskResult` is the whole request, with nothing else in between.
-/
namespace MiniDrop

/-- The switches of the configuration that matter here. -/
structure NotifyConfig where
  /-- `SingleShot.LayoutV2Enabled`. -/
  layoutV2 : Bool := false
  /-- `SingleShot.GenerationsEnabled`. -/
  generations : Bool := true
  /-- `StorageConnected`. -/
  connected : Bool := true

def analysisPipelineForObject (key : String) : String :=
  if hasSuffix key ".bpf" then "bpf_histogram" else "perf_flamegraph"

/-- The pipelines of `taskKindDefinitions`. -/
def taskKindPipelines : List (String × String) :=
  [("perf_cpu", "perf_flamegraph"), ("async_profiler_java", "perf_flamegraph"),
    ("go_pprof", "pprof"), ("go_pprof_heap", "pprof_heap"), ("ebpf_cpu", "bpf_histogram"),
    ("ebpf_io", "bpf_histogram"), ("ebpf_sched", "bpf_histogram"), ("java_heap", "java_heap"),
    ("python_py_spy", "perf_flamegraph"), ("python_memray", "memleak"),
    ("gperftools_cpu", "perf_flamegraph"), ("bolt_profile", "perf_flamegraph"),
    ("script_diagnostic", "script_diagnostic")]

/-- What `ensureAnalysisQueuedTx` has read when it locks the row of the task. -/
structure QueuePlan where
  pipeline : String
  /-- The attempt of the new job. -/
  attemptID : Nat
  /-- Its inputs, unless the row of the object is one that the transaction inserts. -/
  inputs : Option (List Nat)

namespace ArtifactStore

variable (s : ArtifactStore)

/-! ## Analysis jobs -/

/-- The pipeline of a task's kind, if it has one. -/
def kindPipeline (tid : String) : Option String :=
  ((s.findTask tid).bind fun _ => s.taskKinds.lookup tid).bind fun kind =>
    taskKindPipelines.lookup kind

/-- `resolveLatestTaskAttemptIDTx`; 0 if the task has none. -/
def resolveLatestTaskAttemptID (tid : String) : Nat :=
  (((Base.orderBy (fun row : TaskAttempt => toLex (-(row.attemptSeq : Int), -(row.id : Int)))
    (s.attempts.filter (·.taskTID = tid))).head?).map (·.id)).getD 0

/-- What `ensureAnalysisQueuedTx` reads before it locks the row of the task. -/
def planAnalysis (tid : String) (attemptID : Nat) (key : String) : QueuePlan where
  pipeline := (s.kindPipeline tid).getD (analysisPipelineForObject (trimSpace key))
  attemptID := if attemptID = 0 then s.resolveLatestTaskAttemptID tid else attemptID
  inputs := (s.findArtifact tid .raw (trimSpace key)).map fun row =>
    if row.live then [row.id] else []

/-- The highest generation of a task's jobs. -/
def maxGeneration (tid : String) : Nat :=
  ((s.analysisJobs.filter (·.taskTID = tid)).map (·.generation)).foldl max 0

/-- `INSERT` of a job: its generation is unique in its task. -/
def insertJob (job : AnalysisJob) : Option ArtifactStore :=
  if s.analysisJobs.any fun row => row.taskTID = job.taskTID ∧
    row.generation = job.generation then none
  else
    some { s with
      analysisJobs := s.analysisJobs ++ [{ job with id := s.nextJobID }]
      nextJobID := s.nextJobID + 1 }

/-- There is an initial job already: of the same attempt, if there are generations. -/
def hasInitialJob (generations : Bool) (tid pipeline : String) (attemptID : Nat) : Bool :=
  s.analysisJobs.any fun job =>
    job.taskTID = tid && job.pipeline = pipeline && job.trigger = .initial &&
      (!generations || job.attemptID = attemptID)

/-- The row of a raw object. -/
def rawRow (tid : String) (attemptID : Nat) (key : String) (size now : Int) : Artifact where
  taskTID := tid
  attemptID := attemptID
  kind := .raw
  objectKey := trimSpace key
  size := size
  createdAt := now

/-- The writes of `ensureAnalysisQueuedTx`; without a row of the task, or with a number that no
column holds, the transaction is rolled back. -/
def queueAnalysis (generations : Bool) (tid : String) (attemptID : Nat) (key : String) (size : Int)
    (plan : QueuePlan) (now : Int) : Option ArtifactStore :=
  if 2 ^ 63 ≤ attemptID then none
  else
    let inserted := s.insertArtifact (rawRow tid attemptID key size now)
    if (s.findTask tid).isNone then none
    else if inserted.hasInitialJob generations tid plan.pipeline plan.attemptID then some inserted
    else
      inserted.insertJob
        { taskTID := tid
          attemptID := plan.attemptID
          generation := if generations then inserted.maxGeneration tid + 1 else 1
          pipeline := plan.pipeline
          trigger := .initial
          inputArtifactIDs := plan.inputs.getD
            (((inserted.findLive tid .raw (trimSpace key)).map (·.id)).toList)
          createdAt := now }

/-! ## The transaction of a success notification -/

/-- `ensureManifestArtifactTx`. -/
def ensureManifestArtifact (tid : String) (attemptID : Nat) (key : String) (now : Int) :
    ArtifactStore :=
  if trimSpace key = "" then s
  else s.insertArtifact
    { taskTID := tid, attemptID, kind := .manifest, objectKey := trimSpace key, createdAt := now }

/-- The columns that a success notification writes to the row of its object. -/
def registeredRow (req : NotifyReq) (row : Artifact) : Artifact :=
  { row with
    size := if 0 < req.artifactSize then req.artifactSize else row.size
    sha256 := if req.artifactSHA256 ≠ "" then req.artifactSHA256 else row.sha256
    manifestKey := if req.manifestKey ≠ "" then req.manifestKey else row.manifestKey
    status := if req.incomplete then .uploading else .ready }

/-- `finishTaskAttemptForNotifyTx`: the attempt is ended, and the row of the object gets it. -/
def finishAttempt (req : NotifyReq) (tid : String) (artifactID : Option Nat) (now : Int) :
    ArtifactStore :=
  let ending := req.ending tid
  match s.chosenID ending with
  | none => s
  | some attemptID =>
    let attributed :=
      match artifactID with
      | none => s
      | some id => s.updateArtifacts (·.id = id) fun row => { row with attemptID }
    { attributed with toTaskStore := s.endAttemptID attemptID "" "" [req.cosKey] now }

/-- The last part: the row of the object under the key as it was sent, and the attempt. -/
def registerUpload (req : NotifyReq) (tid : String) (now : Int) : ArtifactStore :=
  match s.findLive tid .raw req.cosKey with
  | none => s.finishAttempt req tid none now
  | some row =>
    (s.updateArtifacts (·.id = row.id) (registeredRow req)).finishAttempt req tid (some row.id) now

/-- The status writes of a success notification, by the status that was read before. -/
def advanceTask (task : HotmethodTask) (now : Int) : ArtifactStore :=
  { s with
    toTaskStore :=
      if task.status = .done then s.toTaskStore
      else if task.status = .running then
        if s.statusOf task.tid = some .running then Job.uploadAndFinish s.toTaskStore task now
        else if s.statusOf task.tid = some .uploading then
          Job.advanceToDone s.toTaskStore task .uploading now
        else s.toTaskStore
      else Job.advanceToDone s.toTaskStore task task.status now }

/-- The keys that are tested for tombstones. -/
def testedKeys (req : NotifyReq) : List String :=
  req.cosKey :: if trimSpace req.manifestKey ≠ "" then [req.manifestKey] else []

/-- What the transaction of a success notification writes before it comes to the row of its
object. -/
def listNotification (cfg : NotifyConfig) (req : NotifyReq) (task : HotmethodTask)
    (plan : QueuePlan) (now : Int) : Option ArtifactStore :=
  ((s.advanceTask task now).queueAnalysis cfg.generations task.tid req.attemptID req.cosKey
      req.artifactSize plan now).map fun queued =>
    queued.ensureManifestArtifact task.tid req.attemptID req.manifestKey now

/-- What the transaction writes. -/
def commitNotification (cfg : NotifyConfig) (req : NotifyReq) (task : HotmethodTask)
    (plan : QueuePlan) (now : Int) : Option ArtifactStore :=
  (s.listNotification cfg req task plan now).map fun listed =>
    listed.registerUpload req task.tid now

/-- The objects that are deleted if one of the keys is a tombstone. -/
def lateKeys (req : NotifyReq) : List String :=
  [req.cosKey, req.manifestKey].filter fun key => trimSpace key ≠ ""

/-! ## The whole request -/

def refreshCompositeParent (s : TaskStore) (parent : String) (now : Int) : TaskStore :=
  match s.multiTasks.find? fun row => row.tid = parent && parent ≠ "" with
  | none => s
  | some mt =>
    let aggregate := aggregateCompositeStatus mt (Job.childrenOf s mt.tid)
    let saved := Job.saveAggregate s mt.tid aggregate
    match saved.findTask mt.tid with
    | none => saved
    | some row =>
      if row.status = aggregate.status then saved else Job.moveParent saved row aggregate now

/-- An answer, with the tables and objects after it, and what was written. -/
structure NotifyResult where
  answer : NotifyAnswer
  store : ArtifactStore
  /-- The artifacts that were inserted or updated, as they are at the end. -/
  written : List Artifact := []
  /-- The keys that were written to them. -/
  keys : List String := []
  /-- The objects that were deleted. -/
  removed : List String := []

/-- The error branch of `NotifyTaskResult`. -/
def notifyError (req : NotifyReq) (task : HotmethodTask) (now : Int) : NotifyResult :=
  let errorCode := if req.errorCode = "" then "TASK_EXECUTION_FAILED" else req.errorCode
  let ended := s.toTaskStore.finishTaskAttemptForNotify task.tid req.attemptID errorCode
    req.errorMessage [] now
  let failed := Job.failTask ended req.toTaskResultNotifyReq task now
  { answer := { code := 0 }
    store := { s with toTaskStore := refreshCompositeParent failed task.masterTaskTID now } }

/-- The success branch. -/
def notifySuccess (cfg : NotifyConfig) (req : NotifyReq) (task : HotmethodTask) (now : Int) :
    NotifyResult :=
  if s.tombstoned task.tid (testedKeys req) then
    let removed := if cfg.connected then lateKeys req else []
    { answer := { code := 409, message := "产物已进入删除墓碑，拒绝同 key 迟到上传" }
      store := removed.foldl deleteObject s
      removed }
  else
    let plan := s.planAnalysis task.tid req.attemptID req.cosKey
    match s.listNotification cfg req task plan now with
    | none => { answer := { code := 500, message := "处理采集结果通知失败: " }, store := s }
    | some listed =>
      let updated := (listed.findLive task.tid .raw req.cosKey).map (·.id)
      let done := listed.registerUpload req task.tid now
      { answer := { code := 0 }
        store := { done with
          toTaskStore := refreshCompositeParent done.toTaskStore task.masterTaskTID now }
        written := done.artifacts.filter fun row => s.nextArtifactID ≤ row.id ∨
          updated = some row.id
        keys := (listed.artifacts.filter (s.nextArtifactID ≤ ·.id)).map (·.objectKey) ++
          if updated.isSome ∧ req.manifestKey ≠ "" then [req.manifestKey] else [] }

def notifyTaskResult (cfg : NotifyConfig) (body : NotifyReq) (now : Int) : NotifyResult :=
  match s.admitNotification cfg.layoutV2 body with
  | .error answer => { answer, store := s }
  | .ok (task, req) =>
    if req.isError then s.notifyError req task now else s.notifySuccess cfg req task now

end ArtifactStore

end MiniDrop
