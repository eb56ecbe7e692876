import MiniDrop.Base.Tables
import MiniDrop.Server.Text
import Mathlib.Data.Prod.Lex
/-!
# Task rows

Tasks with their status log, the attempts to run them, the outbox of tasks to hand out, and
composite tasks, with the statements that read and write them. Status writes are guarded: they only
take place if the row still has the status that the writer expects. Times are milliseconds.
-/
namespace MiniDrop

/-! ## Rows -/

/-- `TaskStatusCreated` and the others. -/
inductive TaskStatus where
  | created
  | running
  | done
  | failed
  | uploading
  | canceled
  deriving DecidableEq

def isTerminalTaskStatus : TaskStatus → Bool
  | .done | .failed | .canceled => true
  | .created | .running | .uploading => false

/-- `model.HotmethodTask`: the columns that the status writers read or write. -/
structure HotmethodTask where
  tid : String
  status : TaskStatus
  statusInfo : String
  analysisStatus : Nat := 0
  targetIP : String := ""
  /-- The duration in `request_params`, in seconds, if the parameters can be read. -/
  duration : Option Int := some 0
  createTime : Int
  (beginTime endTime : Option Int := none)
  cancelRequested : Bool := false
  canceledAt : Option Int := none
  masterTaskTID : String := ""

/-- `model.TaskStatusEvent`; a new task has no status before. -/
structure TaskStatusEvent where
  tid : String
  fromStatus : Option TaskStatus
  toStatus : TaskStatus
  (reason source : String)
  sequence : Nat
  createdAt : Int

/-- `AttemptTriggerInitial` and the others. -/
inductive AttemptTrigger where
  | initial
  | recovery
  | userRetry

structure TaskAttempt where
  id : Nat
  taskTID : String
  attemptSeq : Nat
  trigger : AttemptTrigger
  agentIP : String
  beginTime : Int
  endTime : Option Int := none
  exitCode : Nat := 0
  (errorCode errorMessage : String := "")
  artifactKeys : List String := []

/-- `OutboxStatusPending` and the others. -/
inductive OutboxStatus where
  | pending
  | processing
  | deadLetter
  deriving DecidableEq

structure Outbox where
  id : Nat
  aggregateID : String
  event : String := "dispatch_task"
  /-- The payload can be read. -/
  readable : Bool := true
  status : OutboxStatus := .pending
  attempt : Nat := 0
  lastError : String := ""
  (nextAttemptAt lockedAt deadLetterAt publishedAt : Option Int := none)
  createdAt : Int

structure CompositeSummary where
  (total done failed canceled running created terminal required : Nat := 0)
  quorum : Int := 0

/-- `AggregationAllRequired` and the others. -/
inductive AggregationPolicy where
  | allRequired
  | bestEffort
  | quorum
  | dag

/-- `model.MultiTask`; a policy that is not set is `none`. -/
structure MultiTask where
  tid : String
  aggregationPolicy : Option AggregationPolicy
  quorum : Int
  status : TaskStatus := .running
  analysisStatus : Nat := 0
  summary : CompositeSummary := {}

/-- The tables. -/
structure TaskStore where
  tasks : List HotmethodTask := []
  events : List TaskStatusEvent := []
  attempts : List TaskAttempt := []
  outbox : List Outbox := []
  multiTasks : List MultiTask := []
  /-- The next identifier of an attempt. -/
  nextAttemptID : Nat := 1

/-! ## Error texts -/

/-- The messages of `errorCodeRegistry`. -/
def errorCodeMessages : List (String × String) :=
  [("AUTH_FORBIDDEN", "没有权限执行此操作"), ("TARGET_NOT_FOUND", "目标资源不存在"),
    ("AGENT_OFFLINE", "目标 Agent 当前离线"), ("AGENT_INCOMPATIBLE", "Agent 版本不兼容"),
    ("TASK_INVALID_ARGUMENT", "任务参数不合法"), ("TASK_QUEUE_FULL", "任务队列已满，请稍后重试"),
    ("RUNNER_NOT_AVAILABLE", "采集工具不可用"), ("RUNNER_PERMISSION_DENIED", "采集权限不足"),
    ("RUNNER_TIMEOUT", "采集超时"), ("TASK_CANCELED", "任务已取消"),
    ("TASK_EXECUTION_FAILED", "采集执行失败"), ("ARTIFACT_UPLOAD_FAILED", "产物上传失败"),
    ("ANALYSIS_CORRUPT_INPUT", "分析输入数据损坏"), ("ANALYSIS_UNSUPPORTED_FORMAT", "不支持的数据格式"),
    ("ANALYSIS_TIMEOUT", "分析超时"), ("DEPENDENCY_UNAVAILABLE", "依赖服务不可用"),
    ("STORAGE_LOW_DISK", "服务器磁盘可用空间不足，已拒绝新的采集")]

def formatErrorReason (code detail : String) : String :=
  match errorCodeMessages.lookup code with
  | none => detail
  | some message =>
    if detail = "" then "[" ++ code ++ "] " ++ message
    else "[" ++ code ++ "] " ++ message ++ "：" ++ detail

namespace TaskStore

variable (s : TaskStore)

/-! ## Status -/

/-- The row of a task. -/
def findTask (tid : String) : Option HotmethodTask := s.tasks.find? (·.tid = tid)

/-- The status of a task. -/
def statusOf (tid : String) : Option TaskStatus := (s.findTask tid).map (·.status)

/-- The other columns a status write can set. -/
structure Extra where
  (beginTime endTime : Option Int := none)
  analysisStatus : Option Nat := none
  canceledAt : Option Int := none

/-- A row with a new status and other columns. -/
def moveRow (row : HotmethodTask) (status : TaskStatus) (info : String) (extra : Extra) :
    HotmethodTask :=
  { row with
    status := status
    statusInfo := info
    beginTime := extra.beginTime <|> row.beginTime
    endTime := extra.endTime <|> row.endTime
    analysisStatus := extra.analysisStatus.getD row.analysisStatus
    cancelRequested := row.cancelRequested || extra.canceledAt.isSome
    canceledAt := extra.canceledAt <|> row.canceledAt }

/-- A guarded `UPDATE` of the status, if the row has one of the statuses, and whether it took
place. -/
def moveStatus (tid : String) (guards : List TaskStatus) (status : TaskStatus) (info : String)
    (extra : Extra) : TaskStore × Bool :=
  match s.statusOf tid with
  | none => (s, false)
  | some current =>
    if current ∈ guards then
      ({ s with
          tasks := s.tasks.map fun row =>
            if row.tid = tid then moveRow row status info extra else row },
        true)
    else (s, false)

/-- `nextTaskEventSequenceTx`. -/
def nextTaskEventSequence (tid : String) : Nat :=
  ((s.events.filter (·.tid = tid)).map (·.sequence)).foldl max 0 + 1

/-- An entry of the status log. -/
def addEvent (tid : String) (fromStatus : Option TaskStatus) (toStatus : TaskStatus)
    (reason source : String) (now : Int) : TaskStore :=
  { s with
    events := s.events ++
      [{ tid, fromStatus, toStatus, reason, source, sequence := s.nextTaskEventSequence tid,
         createdAt := now }] }

/-- `transitionTaskStatus` for a row that was read earlier, and whether it took place. The row stays
locked from the update to the entry in the status log. -/
def transitionTaskStatus (task : HotmethodTask) (toStatus : TaskStatus) (reason source : String)
    (extra : Extra) (now : Int) : TaskStore × Bool :=
  let reason := if reason = "" then "状态迁移" else reason
  let source := if source = "" then "apiserver" else source
  let (moved, took) := s.moveStatus task.tid [task.status] toStatus reason extra
  if took then (moved.addEvent task.tid (some task.status) toStatus reason source now, true)
  else (s, false)

/-! ## Attempts -/

/-- The number of attempts of a task. -/
def attemptCount (tid : String) : Nat := (s.attempts.filter (·.taskTID = tid)).length

/-- The insertion of `startTaskAttempt` after the attempts were counted; the sequence number of a
task is unique. -/
def insertAttempt (task : HotmethodTask) (trigger : AttemptTrigger) (count : Nat) (now : Int) :
    Option (TaskStore × Nat) :=
  if s.attempts.any fun row => row.taskTID = task.tid ∧ row.attemptSeq = count + 1 then none
  else
    some ({ s with
        attempts := s.attempts ++
          [{ id := s.nextAttemptID, taskTID := task.tid, attemptSeq := count + 1, trigger,
             agentIP := task.targetIP, beginTime := now }]
        nextAttemptID := s.nextAttemptID + 1 },
      s.nextAttemptID)

/-- The columns an attempt gets at its end. -/
def endAttempt (row : TaskAttempt) (errorCode message : String) (keys : List String) (now : Int) :
    TaskAttempt :=
  { row with
    endTime := some now
    errorCode := errorCode
    errorMessage := message
    exitCode := if errorCode = "" then 0 else 1
    artifactKeys := if keys = [] then row.artifactKeys else keys }

/-- The end of the attempt with an identifier. -/
def endAttemptID (id : Nat) (errorCode message : String) (keys : List String) (now : Int) :
    TaskStore :=
  { s with
    attempts := s.attempts.map fun row =>
      if row.id = id then endAttempt row errorCode message keys now else row }

def finishTaskAttempt (id : Nat) (errorCode message : String) (now : Int) : TaskStore :=
  if id = 0 then s else s.endAttemptID id errorCode message [] now

/-- The latest of some attempts: the highest sequence number, then the lowest identifier. -/
def latestOf (attempts : List TaskAttempt) : Option TaskAttempt :=
  (Base.orderBy (fun row : TaskAttempt => toLex (-(row.attemptSeq : Int), row.id)) attempts).head?

/-- The latest attempt of a task. -/
def latestAttempt (tid : String) : Option TaskAttempt :=
  latestOf (s.attempts.filter (·.taskTID = tid))

/-- `finishLatestTaskAttempt`: the latest attempt without an end. -/
def finishLatestTaskAttempt (tid errorCode message : String) (keys : List String) (now : Int) :
    TaskStore :=
  match latestOf (s.attempts.filter fun row => row.taskTID = tid ∧ row.endTime = none) with
  | none => s
  | some attempt => s.endAttemptID attempt.id errorCode message keys now

def finishTaskAttemptForNotify (tid : String) (attemptID : Nat) (errorCode message : String)
    (keys : List String) (now : Int) : TaskStore :=
  if attemptID ≠ 0 ∧ s.attempts.any (fun row => row.id = attemptID ∧ row.taskTID = tid) then
    s.endAttemptID attemptID errorCode message keys now
  else s.finishLatestTaskAttempt tid errorCode message keys now

/-! ## Outbox -/

/-- The entries `claimOutboxEntries` finds; rows that another claim has locked are skipped. -/
def dueOutbox (now : Int) (limit : Nat) (locked : List Nat) : List Outbox :=
  (Base.orderBy Outbox.createdAt (s.outbox.filter fun entry =>
    entry.publishedAt = none && entry.status ≠ .deadLetter &&
      (entry.nextAttemptAt.all (· ≤ now)) && !locked.contains entry.id)).take limit

/-- An entry of the outbox is changed. -/
def updateOutbox (id : Nat) (change : Outbox → Outbox) : TaskStore :=
  { s with outbox := s.outbox.map fun entry => if entry.id = id then change entry else entry }

/-- The columns a claim sets. -/
def claimEntry (now : Int) (entry : Outbox) : Outbox :=
  { entry with status := .processing, lockedAt := some now }

/-- The write of `claimOutboxEntries`. -/
def claimOutboxEntries (now : Int) (limit : Nat) (locked : List Nat) : TaskStore × List Outbox :=
  let entries := s.dueOutbox now limit locked
  ({ s with
      outbox := s.outbox.map fun entry =>
        if entry.id ∈ entries.map (·.id) then claimEntry now entry else entry },
    entries.map (claimEntry now))

def markOutboxPublished (entry : Outbox) (now : Int) : TaskStore :=
  s.updateOutbox entry.id fun row =>
    { row with
      publishedAt := some now, nextAttemptAt := none, status := .pending, lockedAt := none }

/-- The write of `retryOrFailOutbox` for another try. -/
def retryOutbox (entry : Outbox) (reason : String) (now : Int) : TaskStore :=
  s.updateOutbox entry.id fun row =>
    { row with
      attempt := entry.attempt + 1
      lastError := reason
      nextAttemptAt := some (now + 2 ^ entry.attempt * 2 * 1000)
      status := .pending
      lockedAt := none }

/-- The write of `retryOrFailOutbox` after the last try. -/
def deadLetterOutbox (entry : Outbox) (reason : String) (now : Int) : TaskStore :=
  s.updateOutbox entry.id fun row =>
    { row with
      attempt := entry.attempt + 1
      lastError := reason
      status := .deadLetter
      deadLetterAt := some now
      lockedAt := none }

/-- The outbox write of `CancelTask`. -/
def cancelOutbox (tid : String) (now : Int) : TaskStore :=
  { s with
    outbox := s.outbox.map fun entry =>
      if entry.aggregateID = tid ∧ entry.event = "dispatch_task" ∧ entry.publishedAt = none then
        { entry with
          publishedAt := some now, status := .pending, lastError := "任务已取消，跳过下发" }
      else entry }

end TaskStore

/-! ## Composite tasks -/

/-- The counts over the children. -/
def compositeSummary (mt : MultiTask) (children : List HotmethodTask) : CompositeSummary where
  total := children.length
  required := children.length
  quorum := mt.quorum
  done := children.countP (·.status = .done)
  failed := children.countP (·.status = .failed)
  canceled := children.countP (·.status = .canceled)
  running := children.countP fun child => child.status = .running || child.status = .uploading
  created := children.countP (·.status = .created)
  terminal := children.countP fun child => isTerminalTaskStatus child.status

/-- A status with its analysis status. -/
structure CompositeStatus where
  status : TaskStatus
  analysisStatus : Nat
  summary : CompositeSummary

def aggregateCompositeStatus (mt : MultiTask) (children : List HotmethodTask) : CompositeStatus :=
  let counted := compositeSummary mt children
  if counted.total = 0 then ⟨.failed, 3, counted⟩
  else
    let quorum : Int := if mt.quorum ≤ 0 then ((counted.total + 1) / 2 : Nat) else mt.quorum
    let summary := { counted with quorum }
    match mt.aggregationPolicy.getD .allRequired with
    | .bestEffort =>
      if summary.terminal < summary.total then ⟨.running, 0, summary⟩
      else if 0 < summary.done then ⟨.done, 2, summary⟩
      else ⟨.failed, 3, summary⟩
    | .quorum =>
      if quorum ≤ summary.done then ⟨.done, 2, summary⟩
      else if summary.terminal = summary.total ∨
          (summary.done : Int) + summary.total - summary.terminal < quorum then
        ⟨.failed, 3, summary⟩
      else ⟨.running, 0, summary⟩
    | .allRequired | .dag =>
      if 0 < summary.failed ∨ 0 < summary.canceled then ⟨.failed, 3, summary⟩
      else if summary.done = summary.total then ⟨.done, 2, summary⟩
      else ⟨.running, 0, summary⟩

end MiniDrop
