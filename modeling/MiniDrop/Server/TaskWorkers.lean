import MiniDrop.Base.Pool
import MiniDrop.Base.Runs
import MiniDrop.Server.TaskStore
/-!
# The status writers of tasks

Outbox dispatchers, the startup reconciler, the poller, notifications, cancels and composite tasks
work on the same rows. Each of them is a job that advances by one read, one guarded write or one
call at a time, in any order, and keeps what it has read. What the outside decides at a step is its
input. The log tells what the drop server and the clients have seen, the latest first.
-/
namespace MiniDrop

open Base

/-- What the drop server and the clients have seen. -/
inductive TaskEvent where
  /-- An error notification was received. -/
  | errorNotified (tid : String)
  /-- A success notification was answered with code 0, and the status of the task at that time. -/
  | successAnswered (tid : String) (status : Option TaskStatus)
  /-- The drop server has accepted an attempt with code 0. -/
  | attemptAccepted (tid : String) (attemptID : Nat)
  /-- A `CancelTask` request for an attempt has got to the drop server. -/
  | cancelDelivered (tid : String) (attemptID : Nat)
  /-- `TaskService.CancelTask` has returned `cancel_requested = true`. -/
  | cancelReturned (tid : String)
  deriving DecidableEq

/-- How a `CreateTask` call ends. -/
inductive CreateOutcome where
  | answered (code : Nat) (msg : String)
  /-- The call fails before it gets to the drop server. -/
  | unreached (message : String)
  /-- The call times out after the drop server has accepted the task. -/
  | timedOut (message : String)

/-- What the outside decides at a step. -/
structure StepInput where
  now : Int := 0
  /-- `GrpcConnected`. -/
  connected : Bool := true
  grpc : CreateOutcome := .answered 0 "ok"
  /-- A `CancelTask` call gets to the drop server. -/
  delivered : Bool := true
  /-- `findRawCollectionArtifact` finds an object. -/
  found : Bool := false
  /-- The transaction of a success notification is not rolled back, for a deleted artifact or an
  error. -/
  commits : Bool := true

/-- `TaskResultNotifyReq`: the fields that matter for the status. -/
structure TaskResultNotifyReq where
  taskID : String
  (errorMessage errorCode : String := "")
  attemptID : Nat := 0
  cosKey : String := ""

/-- The notification is one of an error. -/
def TaskResultNotifyReq.isError (req : TaskResultNotifyReq) : Bool :=
  trimSpace req.errorMessage ≠ ""

/-- What is left to do of a worker's task, with what it has read. -/
inductive Job where
  /-- `recordTaskStatusEvent`, first its sequence number. -/
  | recordEvent (tid : String) (toStatus : TaskStatus) (reason source : String)
  | insertEvent (tid : String) (toStatus : TaskStatus) (reason source : String) (sequence : Nat)
  /-- `processOutboxEntry`. -/
  | claimed (entry : Outbox)
  /-- `dispatchTask`; without an entry for the startup reconciler. -/
  | dispatching (entry : Option Outbox) (task : HotmethodTask) (trigger : AttemptTrigger)
  | counted (entry : Option Outbox) (task : HotmethodTask) (trigger : AttemptTrigger) (count : Nat)
      (connected : Bool)
  | calling (entry : Option Outbox) (task : HotmethodTask) (attemptID : Nat)
  | accepted (entry : Option Outbox) (task : HotmethodTask) (msg : String)
  | callFailed (entry : Option Outbox) (task : HotmethodTask) (attemptID : Nat)
      (errorCode message : String)
  | publishing (entry : Outbox)
  /-- `retryOrFailOutbox`. -/
  | retrying (entry : Outbox) (task : HotmethodTask) (reason : String)
  | exhausted (entry : Outbox) (task : HotmethodTask) (reason : String)
  | deadLetter (entry : Outbox) (reason : String)
  /-- The reconciler gives a task up. -/
  | abandoning (task : HotmethodTask) (reason : String)
  /-- `NotifyTaskResult` after it has read the task and checked the request. -/
  | notified (req : TaskResultNotifyReq) (task : HotmethodTask)
  | notifyFailing (req : TaskResultNotifyReq) (task : HotmethodTask) (endTime : Int)
  | notifyReread (req : TaskResultNotifyReq) (task : HotmethodTask)
  | notifyAdvance (req : TaskResultNotifyReq) (task : HotmethodTask)
  | notifySkip (req : TaskResultNotifyReq) (task : HotmethodTask)
  /-- `compositeChildrenPayload` for a parent, and the success notification to answer after it. -/
  | refreshing (parent : String) (reply : Option String)
  | aggregating (mt : MultiTask) (reply : Option String)
  | saving (mt : MultiTask) (aggregate : CompositeStatus) (reply : Option String)
  | readingParent (mt : MultiTask) (aggregate : CompositeStatus) (reply : Option String)
  | movingParent (parent : HotmethodTask) (aggregate : CompositeStatus) (reply : Option String)
  | answering (reply : Option String)
  /-- `TaskService.CancelTask` after it has read the task. -/
  | canceling (task : HotmethodTask) (now : Int)
  | cancelAttempt (task : HotmethodTask) (now : Int)
  | cancelEntries (task : HotmethodTask) (now : Int)
  | cancelLookup (task : HotmethodTask)
  | cancelCalling (task : HotmethodTask) (attemptID : Nat)
  | cancelReturning (task : HotmethodTask)
  /-- `pollRunningTasks` for one of the tasks it has read. -/
  | polled (task : HotmethodTask) (now : Int)

/-- What one step of a job leaves. -/
abbrev JobOutcome := Outcome TaskStore Job TaskEvent

namespace Job

/-! ## Dispatching -/

/-- `processOutboxEntry`: the entry is published if there is nothing to hand out. -/
def processOutboxEntry (s : TaskStore) (entry : Outbox) : JobOutcome :=
  if entry.event ≠ "dispatch_task" ∨ entry.readable = false then
    { store := s, next := [.publishing entry] }
  else
    match s.findTask entry.aggregateID with
    | none => { store := s, next := [.publishing entry] }
    | some task =>
      if task.status ≠ .created then { store := s, next := [.publishing entry] }
      else
        let trigger := if task.masterTaskTID ≠ "" then .userRetry else .initial
        { store := s, next := [.dispatching (some entry) task trigger] }

/-- The first statement of a dispatch: without a connection the reconciler gives up, and a
dispatcher still records the attempt. -/
def startDispatch (s : TaskStore) (entry : Option Outbox) (task : HotmethodTask)
    (trigger : AttemptTrigger) (connected : Bool) : JobOutcome :=
  if connected = false ∧ entry = none then
    { store := s
      next := [.abandoning task
        (formatErrorReason "DEPENDENCY_UNAVAILABLE" "Server 重启对账：gRPC 仍未连接，任务无法下发")] }
  else { store := s, next := [.counted entry task trigger (s.attemptCount task.tid) connected] }

/-- What follows a dispatch that did not succeed: the reconciler leaves the task alone. -/
def afterFailure (entry : Option Outbox) (task : HotmethodTask) (reason : String) : List Job :=
  match entry with
  | none => []
  | some entry => [.retrying entry task reason]

/-- The second statement of a dispatch: the attempt gets its row. -/
def recordAttempt (s : TaskStore) (entry : Option Outbox) (task : HotmethodTask)
    (trigger : AttemptTrigger) (count : Nat) (connected : Bool) (now : Int) : JobOutcome :=
  let unconnected := "gRPC 未连接，任务无法下发到 drop_server"
  match s.insertAttempt task trigger count now with
  | none =>
    { store := s
      next := afterFailure entry task
        (if connected then "创建任务尝试记录: duplicate key" else unconnected) }
  | some (inserted, attemptID) =>
    if connected then { store := inserted, next := [.calling entry task attemptID] }
    else
      { store := inserted
        next := [.callFailed entry task attemptID "DEPENDENCY_UNAVAILABLE" unconnected] }

/-- The `CreateTask` call. -/
def call (s : TaskStore) (entry : Option Outbox) (task : HotmethodTask) (attemptID : Nat) :
    CreateOutcome → JobOutcome
  | .answered 0 msg =>
    { store := s, next := [.accepted entry task msg],
      events := [.attemptAccepted task.tid attemptID] }
  | .answered (code + 1) msg =>
    { store := s
      next := [.callFailed entry task attemptID "TASK_EXECUTION_FAILED"
        ("drop_server 拒绝任务: code=" ++ toString (code + 1) ++ " msg=" ++ msg)] }
  | .unreached message =>
    { store := s
      next := [.callFailed entry task attemptID "DEPENDENCY_UNAVAILABLE"
        ("gRPC 下发失败: " ++ message)] }
  | .timedOut message =>
    { store := s
      next := [.callFailed entry task attemptID "DEPENDENCY_UNAVAILABLE" ("gRPC 下发失败: " ++ message)]
      events := [.attemptAccepted task.tid attemptID] }

/-- The status write after the call. -/
def markRunning (s : TaskStore) (entry : Option Outbox) (task : HotmethodTask) (msg : String)
    (now : Int) : JobOutcome :=
  { store := (s.transitionTaskStatus task .running ("已下发到 drop_server, code=0 msg=" ++ msg)
      "apiserver" { beginTime := some now } now).1
    next :=
      match entry with
      | none => []
      | some entry => [.publishing entry] }

/-- `retryOrFailOutbox`: another try later, or after the third the task fails. -/
def retryOrFail (s : TaskStore) (entry : Outbox) (task : HotmethodTask) (reason : String)
    (now : Int) : JobOutcome :=
  if 3 ≤ entry.attempt + 1 then
    { store := s.finishLatestTaskAttempt task.tid "DEPENDENCY_UNAVAILABLE" reason [] now
      next := [.exhausted entry task reason] }
  else { store := s.retryOutbox entry reason now }

/-! ## Notifications -/

/-- What a success notification does after its status writes, in the same transaction. -/
def register (s : TaskStore) (req : TaskResultNotifyReq) (task : HotmethodTask) (now : Int) :
    JobOutcome :=
  { store := s.finishTaskAttemptForNotify task.tid req.attemptID "" "" [req.cosKey] now
    next := [.refreshing task.masterTaskTID (some task.tid)] }

/-- The text of the first status write of a success notification. -/
def uploadedInfo : String := "采集产物已上传，等待登记完成"

/-- The text of the second one. -/
def doneInfo : String := "采集产物已上传，任务完成"

/-- The second status write of a success notification, with the status it came from. -/
def advanceToDone (s : TaskStore) (task : HotmethodTask) (fromStatus : TaskStatus) (now : Int) :
    TaskStore :=
  let (moved, took) := s.moveStatus task.tid [.running, .uploading] .done doneInfo
    { endTime := some now }
  if took then moved.addEvent task.tid (some fromStatus) .done doneInfo "drop_server_notify" now
  else s

/-- Both status writes: the row stays locked between them. -/
def uploadAndFinish (s : TaskStore) (task : HotmethodTask) (now : Int) : TaskStore :=
  let moved := (s.moveStatus task.tid [.running] .uploading uploadedInfo {}).1
  advanceToDone
    (moved.addEvent task.tid (some .running) .uploading uploadedInfo "drop_server_notify" now)
    task .uploading now

/-- The transaction of a success notification: what it does depends on the status that was read
before. If the first guarded write misses, it goes on with another read. -/
def notifySuccess (s : TaskStore) (req : TaskResultNotifyReq) (task : HotmethodTask) (now : Int) :
    JobOutcome :=
  if task.status = .done then register s req task now
  else if task.status = .running then
    if s.statusOf task.tid = some .running then register (uploadAndFinish s task now) req task now
    else { store := s, next := [.notifyReread req task] }
  else register (advanceToDone s task task.status now) req task now

/-- The status write of an error notification, by the status that was read before. -/
def failTask (s : TaskStore) (req : TaskResultNotifyReq) (task : HotmethodTask) (endTime : Int) :
    TaskStore :=
  let errorCode := if req.errorCode = "" then "TASK_EXECUTION_FAILED" else req.errorCode
  match task.status with
  | .canceled => s
  | .failed =>
    { s with
      tasks := s.tasks.map fun row =>
        if row.tid = task.tid then { row with analysisStatus := 3 } else row }
  | _ =>
    (s.transitionTaskStatus task .failed (formatErrorReason errorCode req.errorMessage)
      "drop_server_notify" { endTime := some endTime, analysisStatus := some 3 } endTime).1

/-- `NotifyTaskResult` after its checks. -/
def notify (s : TaskStore) (req : TaskResultNotifyReq) (task : HotmethodTask) (input : StepInput) :
    JobOutcome :=
  if req.isError then
    let errorCode := if req.errorCode = "" then "TASK_EXECUTION_FAILED" else req.errorCode
    { store := s.finishTaskAttemptForNotify task.tid req.attemptID errorCode req.errorMessage []
        input.now
      next := [.notifyFailing req task input.now] }
  else if input.commits then notifySuccess s req task input.now
  else { store := s }

/-! ## Composite tasks -/

/-- The row of a composite task is read; a task without a parent has none. -/
def readMultiTask (s : TaskStore) (parent : String) (reply : Option String) : JobOutcome :=
  match s.multiTasks.find? fun row => row.tid = parent && parent ≠ "" with
  | none => { store := s, next := [.answering reply] }
  | some mt => { store := s, next := [.aggregating mt reply] }

/-- The children of a composite task, the oldest first. -/
def childrenOf (s : TaskStore) (tid : String) : List HotmethodTask :=
  orderBy HotmethodTask.createTime (s.tasks.filter (·.masterTaskTID = tid))

/-- The write of `compositeChildrenPayload` to its own table. -/
def saveAggregate (s : TaskStore) (tid : String) (aggregate : CompositeStatus) : TaskStore :=
  { s with
    multiTasks := s.multiTasks.map fun row =>
      if row.tid = tid then
        { row with
          status := aggregate.status, analysisStatus := aggregate.analysisStatus,
          summary := aggregate.summary }
      else row }

/-- The parent is read; it is written only if its status differs. -/
def readParent (s : TaskStore) (mt : MultiTask) (aggregate : CompositeStatus)
    (reply : Option String) : JobOutcome :=
  match s.findTask mt.tid with
  | none => { store := s, next := [.answering reply] }
  | some parent =>
    if parent.status = aggregate.status then { store := s, next := [.answering reply] }
    else { store := s, next := [.movingParent parent aggregate reply] }

/-- The status write to the parent. -/
def moveParent (s : TaskStore) (parent : HotmethodTask) (aggregate : CompositeStatus) (now : Int) :
    TaskStore :=
  (s.transitionTaskStatus parent aggregate.status
    ("复合任务聚合状态更新：" ++ toString aggregate.summary.done ++ "/" ++
      toString aggregate.summary.total ++ " 子任务成功")
    "composite" { analysisStatus := some aggregate.analysisStatus } now).1

/-! ## Polling -/

/-- `pollRunningTasks` for one task, with the begin and the duration that were read. -/
def pollTask (s : TaskStore) (task : HotmethodTask) (now : Int) (found : Bool) : TaskStore :=
  match task.beginTime, task.duration with
  | some beginTime, some duration =>
    let uploadStart := beginTime + duration * 1000
    if task.status = .running ∧ uploadStart ≤ now then
      (s.transitionTaskStatus task .uploading "采集窗口结束，等待 Agent 上传产物" "task_poller" {} now).1
    else if task.status = .uploading then
      if found then
        (s.transitionTaskStatus task .done doneInfo "task_poller" { endTime := some now } now).1
      else if uploadStart + 30 * 1000 < now then
        (s.transitionTaskStatus task .failed
          (formatErrorReason "TASK_EXECUTION_FAILED" "上传等待窗口结束，未收到采集产物")
          "task_poller" { endTime := some now, analysisStatus := some 3 } now).1
      else s
    else s
  | _, _ => s

/-! ## One step -/

/-- The status write of `CancelTask`; a status that was changed meanwhile ends the request. -/
def cancel (s : TaskStore) (task : HotmethodTask) (now : Int) : JobOutcome :=
  let (moved, took) := s.transitionTaskStatus task .canceled "用户请求取消任务" "apiserver_cancel"
    { canceledAt := some now, endTime := some now } now
  if took then { store := moved, next := [.cancelAttempt task now] } else { store := s }

/-- One step of a job. -/
def run (s : TaskStore) (job : Job) (input : StepInput) : JobOutcome :=
  match job with
  | .recordEvent tid toStatus reason source =>
    { store := s
      next := [.insertEvent tid toStatus reason source (s.nextTaskEventSequence tid)] }
  | .insertEvent tid toStatus reason source sequence =>
    { store := { s with
      events := s.events ++
        [{ tid, fromStatus := none, toStatus, reason, source, sequence, createdAt := input.now }]
        } }
  | .claimed entry => processOutboxEntry s entry
  | .dispatching entry task trigger => startDispatch s entry task trigger input.connected
  | .counted entry task trigger count connected =>
    recordAttempt s entry task trigger count connected input.now
  | .calling entry task attemptID => call s entry task attemptID input.grpc
  | .accepted entry task msg => markRunning s entry task msg input.now
  | .callFailed entry task attemptID errorCode message =>
    { store := s.finishTaskAttempt attemptID errorCode message input.now
      next := afterFailure entry task message }
  | .publishing entry => { store := s.markOutboxPublished entry input.now }
  | .retrying entry task reason => retryOrFail s entry task reason input.now
  | .exhausted entry task reason =>
    { store := (s.transitionTaskStatus task .failed
        (formatErrorReason "DEPENDENCY_UNAVAILABLE" reason) "outbox_dispatcher" {} input.now).1
      next := [.deadLetter entry reason] }
  | .deadLetter entry reason => { store := s.deadLetterOutbox entry reason input.now }
  | .abandoning task reason =>
    { store := (s.transitionTaskStatus task .failed reason "startup_reconciler" {} input.now).1 }
  | .notified req task => notify s req task input
  | .notifyFailing req task endTime =>
    { store := failTask s req task endTime, next := [.refreshing task.masterTaskTID none] }
  | .notifyReread req task =>
    { store := s
      next :=
        if s.statusOf task.tid = some .uploading then [.notifyAdvance req task]
        else [.notifySkip req task] }
  | .notifyAdvance req task =>
    if input.commits then register (advanceToDone s task .uploading input.now) req task input.now
    else { store := s }
  | .notifySkip req task =>
    if input.commits then register s req task input.now else { store := s }
  | .refreshing parent reply => readMultiTask s parent reply
  | .aggregating mt reply =>
    { store := s, next := [.saving mt (aggregateCompositeStatus mt (childrenOf s mt.tid)) reply] }
  | .saving mt aggregate reply =>
    { store := saveAggregate s mt.tid aggregate, next := [.readingParent mt aggregate reply] }
  | .readingParent mt aggregate reply => readParent s mt aggregate reply
  | .movingParent parent aggregate reply =>
    { store := moveParent s parent aggregate input.now, next := [.answering reply] }
  | .answering none => { store := s }
  | .answering (some tid) =>
    { store := s, events := [.successAnswered tid (s.statusOf tid)] }
  | .canceling task now => cancel s task now
  | .cancelAttempt task now =>
    { store := s.finishLatestTaskAttempt task.tid "TASK_CANCELED" "用户请求取消任务" [] now
      next := [.cancelEntries task now] }
  | .cancelEntries task now =>
    { store := s.cancelOutbox task.tid now, next := [.cancelLookup task] }
  | .cancelLookup task =>
    { store := s
      next :=
        if input.connected then
          [.cancelCalling task (((s.latestAttempt task.tid).map (·.id)).getD 0)]
        else [.cancelReturning task] }
  | .cancelCalling task attemptID =>
    { store := s
      next := [.cancelReturning task]
      events := if input.delivered then [.cancelDelivered task.tid attemptID] else [] }
  | .cancelReturning task => { store := s, events := [.cancelReturned task.tid] }
  | .polled task now => { store := pollTask s task now input.found }

end Job

/-! ## The system -/

/-- What a new task is made of. -/
structure NewTask where
  tid : String
  targetIP : String := ""
  /-- The duration in its parameters, if they can be read. -/
  duration : Option Int := some 0
  masterTaskTID : String := ""

/-- What can happen. -/
inductive TaskAction where
  /-- `createTaskWithOutbox`, and a job that records the creation as `CreateTask` and `RetryTask`
  do; for a schedule or a detection, which record nothing, this job never advances. -/
  | create (new : NewTask) (now : Int)
  /-- `CreateCompositeTask`. -/
  | createComposite (tid targetIP : String) (policy : AggregationPolicy) (quorum : Int)
      (children : List NewTask) (now : Int)
  /-- `claimOutboxEntries`; other claims may hold some rows at that time. -/
  | claim (limit : Nat) (locked : List Nat) (now : Int)
  /-- The read of `reconcileOrphanedTasks`. -/
  | reconcile (now : Int)
  /-- The read of `NotifyTaskResult`, for a request that passes its checks. -/
  | notify (req : TaskResultNotifyReq)
  /-- `compositeChildrenPayload` for a client. -/
  | listChildren (tid : String)
  /-- The read of `CancelTask`. -/
  | cancel (tid : String) (now : Int)
  /-- The read of `pollRunningTasks`. -/
  | poll (now : Int)
  /-- The next step of a job. -/
  | advance (index : Nat) (input : StepInput)

namespace TaskStore

/-- The row of a new task. -/
def newRow (new : NewTask) (info : String) (now : Int) : HotmethodTask where
  tid := new.tid
  status := .created
  statusInfo := info
  targetIP := new.targetIP
  duration := new.duration
  createTime := now
  masterTaskTID := new.masterTaskTID

/-- The row of a new entry in the outbox. -/
def newEntry (s : TaskStore) (offset : Nat) (tid : String) (now : Int) : Outbox where
  id := s.outbox.length + 1 + offset
  aggregateID := tid
  createdAt := now

/-- The rows of a new task and its entry in the outbox. -/
def createTask (s : TaskStore) (new : NewTask) (now : Int) : TaskStore :=
  { s with
    tasks := s.tasks ++ [newRow new "任务已创建，等待下发" now]
    outbox := s.outbox ++ [s.newEntry 0 new.tid now] }

/-- The rows of a new composite task, its children and their entries in the outbox. -/
def createComposite (s : TaskStore) (tid targetIP : String) (policy : AggregationPolicy)
    (quorum : Int) (children : List NewTask) (now : Int) : TaskStore :=
  { s with
    tasks := s.tasks ++
      { tid, status := .running, statusInfo := "复合任务已展开，等待子任务完成", targetIP, createTime := now } ::
        children.zipIdx.map fun (child, index) =>
          newRow { child with masterTaskTID := tid } "复合任务子任务已创建，等待下发" (now + index)
    multiTasks := s.multiTasks ++
      [{ tid, aggregationPolicy := some policy, quorum
         summary := { total := children.length, running := children.length,
                      required := children.length, quorum } }]
    outbox := s.outbox ++ children.zipIdx.map fun (child, index) => s.newEntry index child.tid now }

/-- A task that is not there yet can be created. -/
def isNew (s : TaskStore) (tids : List String) : Bool :=
  tids.Nodup && tids.all fun tid => (s.findTask tid).isNone

end TaskStore

/-- What a request or the start of a worker's round leaves. -/
def TaskAction.enter (s : TaskStore) : TaskAction → Option JobOutcome
  | .create new now =>
    if s.isNew [new.tid] then
      some { store := s.createTask new now
             next := [.recordEvent new.tid .created "任务已创建，等待下发" "apiserver"] }
    else none
  | .createComposite tid targetIP policy quorum children now =>
    if s.isNew (tid :: children.map (·.tid)) then
      some { store := s.createComposite tid targetIP policy quorum children now
             next := .recordEvent tid .running "复合任务已展开，等待子任务完成" "composite" ::
               children.map fun child =>
                 .recordEvent child.tid .created "复合任务子任务已创建，等待下发" "composite" }
    else none
  | .claim limit locked now =>
    let (claimed, entries) := s.claimOutboxEntries now limit locked
    some { store := claimed, next := entries.map .claimed }
  | .reconcile now =>
    some { store := s
           next := (s.tasks.filter fun task =>
               task.status = .created && task.createTime < now - 30 * 1000).map fun task =>
             if task.duration = none then
               .abandoning task
                 (formatErrorReason "TASK_INVALID_ARGUMENT" "Server 重启对账：任务参数无法解析")
             else .dispatching none task .recovery }
  | .notify req =>
    match s.findTask req.taskID with
    | none => some { store := s }
    | some task =>
      if req.isError then
        some { store := s, next := [.notified req task], events := [.errorNotified task.tid] }
      else if trimSpace req.cosKey = "" then some { store := s }
      else some { store := s, next := [.notified req task] }
  | .listChildren tid => some { store := s, next := [.refreshing tid none] }
  | .cancel tid now =>
    match s.findTask tid with
    | none => some { store := s }
    | some task =>
      if isTerminalTaskStatus task.status then some { store := s }
      else some { store := s, next := [.canceling task now] }
  | .poll now =>
    some { store := s
           next := (s.tasks.filter fun task =>
               task.status = .running || task.status = .uploading).map fun task =>
             .polled task now }
  | .advance _ _ => none

/-- The tables, the jobs under way and the log. -/
abbrev TaskWorld := Pool TaskStore Job TaskEvent

/-- One step of the system. -/
def TaskWorld.step (w : TaskWorld) : TaskAction → Option TaskWorld
  | .advance index input => w.advance Job.run index input
  | action => (action.enter w.store).map w.enter

end MiniDrop
