import MiniDrop.Base.Pool
import MiniDrop.Base.Runs
import MiniDrop.Server.TaskStore
/-!
# Automatic collection

Schedules and sentinel rules create collection tasks. Workers of any number of API servers do so at
a time, and a job is one of them between two statements. A schedule claims its slot, a rule looks at
its cooldown; then both look at the disk, count the active tasks of their target and insert a task.
-/
namespace MiniDrop.AutoCollection

/-- What creates a task: `executeScheduledTaskAt` or `triggerDetectionDiagnosis`. -/
inductive Producer where
  | schedule (sid : String) (scheduledAt : Int)
  | sentinel (ruleSID : String)
  deriving DecidableEq

/-- `model.HotmethodTask`, with its producer; a task of a request has none. -/
structure Task where
  (tid targetIP taskKind : String)
  status : TaskStatus := .created
  producer : Option Producer := none

/-- The statuses of the overlap count. -/
def active (status : TaskStatus) : Bool := [.created, .running, .uploading].contains status

structure ScheduleTrigger where
  scheduleID : String
  scheduledAt : Int
  status : String := "claimed"
  childTID : String := ""

/-- The row of a slot. -/
def ScheduleTrigger.isFor (sid : String) (scheduledAt : Int) (trigger : ScheduleTrigger) : Bool :=
  trigger.scheduleID = sid && trigger.scheduledAt = scheduledAt

/-- The tables. -/
structure Store where
  tasks : List Task := []
  triggers : List ScheduleTrigger := []

/-- `detectionHasActiveTask`, and the same count of `executeScheduledTaskAt`. -/
def Store.hasActive (s : Store) (targetIP taskKind : String) : Bool :=
  s.tasks.any fun task => task.targetIP = targetIP && task.taskKind = taskKind && active task.status

/-- What a job does next. -/
inductive Stage where
  | claim
  | checkDisk
  | count
  | create
  | record (status childTID : String)
  deriving DecidableEq

/-- A worker between two statements. -/
structure Job where
  producer : Producer
  (targetIP taskKind : String)
  stage : Stage := .claim

/-- What a step gets from outside: whether its statement or test succeeds, and a generated id. -/
structure StepInput where
  ok : Bool := true
  tid : String := ""

/-- The job with its next step. -/
def Job.at (job : Job) (stage : Stage) : List Job := [{ job with stage }]

/-- The task that a job inserts. -/
def Job.task (job : Job) (tid : String) : Task where
  tid := tid
  targetIP := job.targetIP
  taskKind := job.taskKind
  producer := some job.producer

/-- One step of a job. -/
def Job.run (s : Store) (job : Job) (input : StepInput) : Base.Outcome Store Job Task :=
  match job.stage with
  | .claim =>
    match job.producer with
    | .schedule sid scheduledAt =>
      -- `claimScheduleTrigger`: the insert does nothing on a conflict, and without the lock it is
      -- not tried.
      if input.ok && !s.triggers.any (·.isFor sid scheduledAt) then
        { store := { s with triggers := s.triggers ++ [{ scheduleID := sid, scheduledAt }] }
          next := job.at .checkDisk }
      else { store := s }
    | .sentinel _ => { store := s, next := if input.ok then job.at .checkDisk else [] }
  | .checkDisk =>
    { store := s, next := job.at (if input.ok then .count else .record "skipped_low_disk" "") }
  | .count =>
    if !input.ok then { store := s }
    else if s.hasActive job.targetIP job.taskKind then
      { store := s, next := job.at (.record "skipped_overlap" "") }
    else { store := s, next := job.at .create }
  | .create =>
    -- `createTaskWithOutbox`: the ids of tasks are unique.
    if input.ok && !s.tasks.any (·.tid = input.tid) then
      { store := { s with tasks := s.tasks ++ [job.task input.tid] }
        next := job.at (.record "created" input.tid)
        events := [job.task input.tid] }
    else { store := s, next := job.at (.record "failed" "") }
  | .record status childTID =>
    match job.producer with
    | .schedule sid scheduledAt =>
      { store := { s with triggers := s.triggers.map fun trigger =>
          if input.ok && trigger.isFor sid scheduledAt then { trigger with status, childTID }
            else trigger } }
    | .sentinel _ => { store := s }

/-- The tables, the workers, and the tasks they have created. -/
abbrev World := Base.Pool Store Job Task

/-- What happens: a schedule worker, a cron callback or a sentinel evaluation starts, a job takes a
step, or other code inserts, updates or deletes a task. -/
inductive Action where
  | trigger (producer : Producer) (targetIP taskKind : String)
  | advance (index : Nat) (input : StepInput)
  | request (tid targetIP taskKind : String)
  | setStatus (tid : String) (status : TaskStatus)
  | delete (tid : String)

/-- One step. -/
def step (w : World) : Action → Option World
  | .trigger producer targetIP taskKind =>
    some { w with jobs := w.jobs ++ [{ producer, targetIP, taskKind }] }
  | .advance index input => w.advance Job.run index input
  | .request tid targetIP taskKind =>
    some { w with store.tasks := w.store.tasks ++ [{ tid, targetIP, taskKind }] }
  | .setStatus tid status =>
    let write := fun task : Task => if task.tid = tid then { task with status } else task
    some { w with store.tasks := w.store.tasks.map write }
  | .delete tid => some { w with store.tasks := w.store.tasks.filter fun task => task.tid ≠ tid }

end MiniDrop.AutoCollection
