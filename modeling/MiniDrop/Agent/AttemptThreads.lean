import MiniDrop.Base.Runs
/-!
# Attempts on an agent

The heartbeat thread takes tasks and cancel requests from the answers of the server, the worker
collects and the upload thread delivers results. They share two queues and the tracker of attempts,
each behind its own lock, so that every call on one of these is a step of its own.
-/
namespace MiniDrop.Agent

structure AttemptStatus where
  taskID : String
  attemptID : UInt64
  deriving DecidableEq

structure AttemptTracker where
  (running completed : List AttemptStatus := [])
  cancelRequested : List String := []

namespace AttemptTracker

def key (attempt : AttemptStatus) : String := attempt.taskID ++ "#" ++ toString attempt.attemptID

def markRunning (t : AttemptTracker) (attempt : AttemptStatus) : AttemptTracker :=
  if attempt ∈ t.running ∨ attempt ∈ t.completed then t
  else { t with running := t.running ++ [attempt] }

/-- `AttemptTracker::MarkCompleted`: more than 50 attempts are not remembered. -/
def markCompleted (t : AttemptTracker) (attempt : AttemptStatus) : AttemptTracker :=
  let completed := if attempt ∈ t.completed then t.completed else t.completed ++ [attempt]
  { running := t.running.filter (· ≠ attempt)
    completed := if completed.length > 50 then completed.tail else completed
    cancelRequested := t.cancelRequested.filter (· ≠ key attempt) }

def requestCancel (t : AttemptTracker) (attempt : AttemptStatus) : AttemptTracker :=
  { t with cancelRequested := t.cancelRequested.insert (key attempt) }

end AttemptTracker

/-- What the heartbeat thread does next with an answer. -/
inductive HeartbeatStep where
  /-- It takes the next cancel request, or sends the next heartbeat. -/
  | idle
  /-- A task was delivered. -/
  | received (attempt : AttemptStatus)
  | pushing (attempt : AttemptStatus)
  /-- A cancel request was not found in the queue. -/
  | checking (attempt : AttemptStatus)
  | requesting (attempt : AttemptStatus)
  | confirming (attempt : AttemptStatus)
  deriving DecidableEq

/-- What the agent did. -/
inductive AttemptEvent where
  /-- The worker took an attempt from the queue. -/
  | started (attempt : AttemptStatus)
  /-- A heartbeat listed these as `completed_attempts`. -/
  | reported (completed : List AttemptStatus)
  deriving DecidableEq

/-- The three threads and what they share. -/
structure AttemptThreads where
  tracker : AttemptTracker := {}
  queue : List AttemptStatus := []
  heartbeat : HeartbeatStep := .idle
  /-- The cancel requests of the answer that are left. -/
  cancels : List AttemptStatus := []
  /-- What the worker collects. -/
  executing : Option AttemptStatus := none
  uploads : List AttemptStatus := []
  /-- The result that the upload thread has at hand, and whether it was delivered. -/
  uploading : Option (AttemptStatus × Bool) := none
  /-- The latest event first. -/
  log : List AttemptEvent := []

/-- What can happen. -/
inductive ThreadAction where
  /-- A heartbeat is sent. Its answer, if there is one, has a task at most and cancel requests. -/
  | beat (answer : Option (Option AttemptStatus × List AttemptStatus))
  /-- The next call of the heartbeat thread for the answer. -/
  | handle
  /-- `TaskQueue::WaitPop` by the worker. -/
  | start
  /-- The worker pushes its result. -/
  | finish
  /-- `UploadQueue::WaitPop` by the upload thread. -/
  | upload
  /-- `NotifyResult` succeeds, or was tried for the last time. -/
  | notify (delivered : Bool)
  /-- `MarkCompleted` after the delivery. -/
  | complete
  deriving DecidableEq

namespace AttemptThreads

/-- A call of `HeartbeatThread::Loop` for an answer. -/
def handle (w : AttemptThreads) : Option AttemptThreads :=
  match w.heartbeat with
  | .idle =>
    match w.cancels with
    | [] => none
    | attempt :: cancels =>
      -- `TaskQueue::CancelQueued`.
      if attempt ∈ w.queue then
        some { w with queue := w.queue.erase attempt, heartbeat := .confirming attempt, cancels }
      else some { w with heartbeat := .checking attempt, cancels }
  | .received attempt =>
    some { w with tracker := w.tracker.markRunning attempt, heartbeat := .pushing attempt }
  | .pushing attempt => some { w with queue := w.queue ++ [attempt], heartbeat := .idle }
  | .checking attempt =>
    some { w with
      heartbeat := if attempt ∈ w.tracker.running then .requesting attempt
        else .confirming attempt }
  | .requesting attempt =>
    some { w with tracker := w.tracker.requestCancel attempt, heartbeat := .idle }
  | .confirming attempt =>
    some { w with tracker := w.tracker.markCompleted attempt, heartbeat := .idle }

/-- One step. -/
def step (w : AttemptThreads) : ThreadAction → Option AttemptThreads
  | .beat answer =>
    if w.heartbeat = .idle ∧ w.cancels = [] then
      let (task, cancels) := answer.getD (none, [])
      some { w with
        heartbeat := (task.map .received).getD .idle
        cancels
        log := .reported w.tracker.completed :: w.log }
    else none
  | .handle => w.handle
  | .start =>
    match w.executing, w.queue with
    | none, attempt :: queue =>
      some { w with queue, executing := some attempt, log := .started attempt :: w.log }
    | _, _ => none
  | .finish =>
    w.executing.map fun attempt => { w with executing := none, uploads := w.uploads ++ [attempt] }
  | .upload =>
    match w.uploading, w.uploads with
    | none, attempt :: uploads => some { w with uploads, uploading := some (attempt, false) }
    | _, _ => none
  | .notify delivered =>
    match w.uploading with
    | some (attempt, false) =>
      some { w with uploading := if delivered then some (attempt, true) else none }
    | _ => none
  | .complete =>
    match w.uploading with
    | some (attempt, true) =>
      some { w with tracker := w.tracker.markCompleted attempt, uploading := none }
    | _ => none

end AttemptThreads

end MiniDrop.Agent
