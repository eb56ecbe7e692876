import MiniDrop.Drop.Snapshot
/-!
# Requests to the drop server

The API server creates and cancels tasks, agents send heartbeats and get at most one task and the
attempts to cancel in return, and the process is restarted from a file of saved records.
-/
namespace MiniDrop.Drop

open Base (Bytes)

/-- The answer to `CreateTask`. -/
structure CreateTaskReply where
  code : Nat
  msg : String

/-- The answer to `CancelTask`. -/
structure CancelTaskReply where
  msg : String
  (canceled alreadyTerminal : Bool)

/-- The answer to a heartbeat: the task handed out, if any, and the attempts to cancel. -/
structure HeartbeatReply where
  task : Option TaskDesc
  cancelAttempts : List (Bytes × UInt64)

namespace DropState

variable (s : DropState)

def createTask (checkedAt enteredAt : ClockMs) (targetIP : Bytes) (task : TaskDesc) :
    DropState × CreateTaskReply :=
  let (next, result) := s.enqueueTask checkedAt enteredAt targetIP task
  (next, if result.ok then ⟨0, "ok"⟩ else ⟨429, result.message⟩)

/-- `ControlServiceImpl::CancelTask`: the queue first, and the agent if nothing was queued. -/
def cancelRequest (targetIP taskID : Bytes) (attemptID : UInt64) : DropState × CancelTaskReply :=
  let (next, queuedCanceled) := s.cancelTask targetIP taskID attemptID
  let alreadyTerminal := s.isAttemptCompleted (taskAttemptKey taskID attemptID)
  let relayed := !queuedCanceled && !alreadyTerminal && targetIP ≠ []
  (if relayed then next.requestCancel targetIP taskID attemptID else next,
    { msg :=
        if alreadyTerminal then "attempt already terminal"
        else if queuedCanceled then "queued task canceled"
        else if relayed then
          "cancel request relayed to agent, will take effect within grace period on next heartbeat"
        else "task not found"
      canceled := queuedCanceled || relayed
      alreadyTerminal })

/-- `HealthCheckServiceImpl::Do`: completed attempts first, then the next task, then the cancels. -/
def heartbeat (now : ClockMs) (ip : Bytes) (completed : List (Bytes × UInt64)) :
    DropState × HeartbeatReply :=
  let marked := completed.foldl (fun s attempt => s.markAttemptCompleted attempt.1 attempt.2) s
  let (next, task) := marked.popNextDispatchableTask now ip
  (next, { task, cancelAttempts := next.collectCancelAttempts ip })

end DropState

/-- What can happen to the queue. -/
inductive DropAction where
  | create (checkedAt enteredAt : ClockMs) (targetIP : Bytes) (task : TaskDesc)
  | cancel (targetIP taskID : Bytes) (attemptID : UInt64)
  | heartbeat (now : ClockMs) (ip : Bytes) (completed : List (Bytes × UInt64))
  | restart (clock : Nat → ClockMs) (bytes : Bytes)

/-- The state after one request, or after a restart from a file. -/
def DropState.act (codec : TaskCodec) (s : DropState) : DropAction → DropState
  | .create checkedAt enteredAt targetIP task => (s.createTask checkedAt enteredAt targetIP task).1
  | .cancel targetIP taskID attemptID => (s.cancelRequest targetIP taskID attemptID).1
  | .heartbeat now ip completed => (s.heartbeat now ip completed).1
  | .restart clock bytes => restoreTasks codec clock bytes {}

/-- The states a server can reach from an empty start. -/
def Reachable (codec : TaskCodec) (s : DropState) : Prop :=
  ∃ actions : List DropAction, actions.foldl (DropState.act codec) {} = s

end MiniDrop.Drop
