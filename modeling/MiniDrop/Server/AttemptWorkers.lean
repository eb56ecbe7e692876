import MiniDrop.Server.NotifyKeys
/-!
# How attempts are ended

The functions that end an attempt choose the row with one statement and write it with the next, in a
transaction that locks nothing in between. Here these two are steps of their own; everything else is
a step as before. A notification comes with its whole request and passes its checks when it enters.
-/
namespace MiniDrop

/-- What a job records at the end of an attempt; without an identifier it is the latest one that is
not ended yet. -/
structure AttemptEnd where
  tid : String
  attemptID : Nat := 0
  (errorCode message : String := "")
  keys : List String := []

/-- The end that a success notification records. -/
abbrev TaskResultNotifyReq.ending (req : TaskResultNotifyReq) (tid : String) : AttemptEnd :=
  { tid, attemptID := req.attemptID, keys := [req.cosKey] }

namespace Job

/-- The end that a notification records. -/
def endingOf (req : TaskResultNotifyReq) (task : HotmethodTask) : AttemptEnd :=
  if req.isError then
    { tid := task.tid, attemptID := req.attemptID
      errorCode := if req.errorCode = "" then "TASK_EXECUTION_FAILED" else req.errorCode
      message := req.errorMessage }
  else req.ending task.tid

/-- The end that the next step of a job records, through `finishTaskAttemptForNotify` or
`finishLatestTaskAttempt`. -/
def ending : Job → Option AttemptEnd
  | .notified req task => some (endingOf req task)
  | .notifyAdvance req task | .notifySkip req task => some (req.ending task.tid)
  | .retrying entry task reason =>
    if 3 ≤ entry.attempt + 1 then
      some { tid := task.tid, errorCode := "DEPENDENCY_UNAVAILABLE", message := reason }
    else none
  | .cancelAttempt task _ =>
    some { tid := task.tid, errorCode := "TASK_CANCELED", message := "用户请求取消任务" }
  | _ => none

/-- What a success notification does besides, if its transaction is not rolled back, and whether it
gets as far as the attempt. -/
def notifySuccessRest (s : TaskStore) (req : TaskResultNotifyReq) (task : HotmethodTask)
    (now : Int) : Bool × JobOutcome :=
  let answer : List Job := [.refreshing task.masterTaskTID (some task.tid)]
  if task.status = .done then (true, { store := s, next := answer })
  else if task.status = .running then
    if s.statusOf task.tid = some .running then
      (true, { store := uploadAndFinish s task now, next := answer })
    else (false, { store := s, next := [.notifyReread req task] })
  else (true, { store := advanceToDone s task task.status now, next := answer })

/-- What a job that ends an attempt does besides in the same step, and whether it gets as far as the
attempt. -/
def rest (s : TaskStore) (job : Job) (input : StepInput) : Bool × JobOutcome :=
  match job with
  | .notified req task =>
    if req.isError then (true, { store := s, next := [.notifyFailing req task input.now] })
    else if input.commits then notifySuccessRest s req task input.now
    else (false, { store := s })
  | .notifyAdvance _ task =>
    if input.commits then
      (true,
        { store := advanceToDone s task .uploading input.now
          next := [.refreshing task.masterTaskTID (some task.tid)] })
    else (false, { store := s })
  | .notifySkip _ task =>
    if input.commits then
      (true, { store := s, next := [.refreshing task.masterTaskTID (some task.tid)] })
    else (false, { store := s })
  | .retrying entry task reason => (true, { store := s, next := [.exhausted entry task reason] })
  | .cancelAttempt task now => (true, { store := s, next := [.cancelEntries task now] })
  | _ => (false, run s job input)

/-- The time that is recorded as the end. -/
def endedAt (job : Job) (input : StepInput) : Int :=
  match job with
  | .cancelAttempt _ now => now
  | _ => input.now

end Job

namespace TaskStore

variable (s : TaskStore)

/-- The latest attempt of a task that is not ended. -/
def latestOpenID (tid : String) : Option Nat :=
  (latestOf (s.attempts.filter fun row => row.taskTID = tid ∧ row.endTime = none)).map (·.id)

/-- The attempt that the two lookups choose, if nothing happens in between. -/
def chosenID (ending : AttemptEnd) : Option Nat :=
  if ending.attemptID ≠ 0 ∧ s.hasAttempt ending.tid ending.attemptID = true then
    some ending.attemptID
  else s.latestOpenID ending.tid

/-- The write to the attempt that was chosen. -/
def endChosen (target : Option Nat) (ending : AttemptEnd) (now : Int) : TaskStore :=
  match target with
  | none => s
  | some id => s.endAttemptID id ending.errorCode ending.message ending.keys now

end TaskStore

/-- A job of the status writers, with what it has found of the attempt that it is about to end. -/
inductive AttemptJob where
  | whole (job : Job)
  /-- There is no attempt of the task with the identifier, and the latest one is looked up. -/
  | unmatched (job : Job) (ending : AttemptEnd)
  /-- The attempt was chosen. -/
  | chosen (job : Job) (ending : AttemptEnd) (target : Option Nat)

/-- What one step leaves. -/
abbrev AttemptOutcome := Base.Outcome TaskStore AttemptJob TaskEvent

namespace AttemptJob

/-- The outcome of a step of the status writers. -/
def lift (out : JobOutcome) : AttemptOutcome :=
  { store := out.store, next := out.next.map .whole, events := out.events }

/-- The first statement: the attempt with the identifier, or the latest one. -/
def choose (s : TaskStore) (job : Job) (ending : AttemptEnd) : AttemptOutcome :=
  if ending.attemptID = 0 then
    { store := s, next := [.chosen job ending (s.latestOpenID ending.tid)] }
  else if s.hasAttempt ending.tid ending.attemptID then
    { store := s, next := [.chosen job ending (some ending.attemptID)] }
  else { store := s, next := [.unmatched job ending] }

/-- One step. -/
def run (s : TaskStore) (job : AttemptJob) (input : StepInput) : AttemptOutcome :=
  match job with
  | .whole job =>
    match job.ending with
    | none => lift (Job.run s job input)
    | some ending => choose s job ending
  | .unmatched job ending =>
    { store := s, next := [.chosen job ending (s.latestOpenID ending.tid)] }
  | .chosen job ending target =>
    let (ends, out) := job.rest s input
    lift { out with
      store := if ends then out.store.endChosen target ending (job.endedAt input) else out.store }

end AttemptJob

/-! ## The system -/

/-- What can happen. -/
inductive AttemptAction where
  /-- Anything but a notification or a step of a job. -/
  | task (action : TaskAction)
  /-- A notification with its request, in one of the layouts. -/
  | notify (layoutV2 : Bool) (req : NotifyReq)
  | advance (index : Nat) (input : StepInput)

/-- The jobs that a notification starts. -/
def NotifyReq.enterAttempt (s : TaskStore) (layoutV2 : Bool) (req : NotifyReq) : AttemptOutcome :=
  match s.admitNotification layoutV2 req with
  | .error _ => { store := s }
  | .ok (task, req) =>
    { store := s
      next := [.whole (.notified req.toTaskResultNotifyReq task)]
      events := if req.isError then [.errorNotified task.tid] else [] }

/-- The tables, the jobs under way and the log. -/
abbrev AttemptWorld := Base.Pool TaskStore AttemptJob TaskEvent

/-- One step of the system. -/
def AttemptWorld.step (w : AttemptWorld) : AttemptAction → Option AttemptWorld
  | .task (.notify _) => none
  | .task action => (action.enter w.store).map fun out => w.enter (AttemptJob.lift out)
  | .notify layoutV2 req => some (w.enter (req.enterAttempt w.store layoutV2))
  | .advance index input => w.advance AttemptJob.run index input

end MiniDrop
