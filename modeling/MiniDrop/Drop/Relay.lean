import MiniDrop.Base.Runs
import MiniDrop.Drop.Services
/-!
# A drop server over its restarts

The server with its snapshot file, and a record of what its clients were told: the cancels that it
accepted and the answers to the heartbeats, the latest first.
-/
namespace MiniDrop.Drop

open Base (Bytes)

/-- A task and its attempt. -/
abbrev Attempt := Bytes × UInt64

/-- The key of an attempt. -/
def attemptKey (attempt : Attempt) : Bytes := taskAttemptKey attempt.1 attempt.2

/-- What a client was told. -/
inductive RelayEvent where
  /-- `CancelTask` for an address and an attempt returned `canceled = true`. -/
  | canceled (ip : Bytes) (attempt : Attempt)
  /-- A heartbeat of an address that reported completed attempts, the attempt it was handed, and the
  attempts it was told to cancel. -/
  | heartbeat (ip : Bytes) (reported : List Attempt) (dispatched : Option Attempt)
      (cancelAttempts : List Attempt)
  deriving DecidableEq

/-- The server, its file and what it has told. -/
structure RelayWorld where
  drop : DropState := {}
  /-- The snapshot file, once it is written. -/
  file : Option Bytes := none
  /-- The latest event first. -/
  log : List RelayEvent := []

/-- What can happen. -/
inductive RelayAction where
  | create (checkedAt enteredAt : ClockMs) (targetIP : Bytes) (task : TaskDesc)
  | cancel (targetIP taskID : Bytes) (attemptID : UInt64)
  | heartbeat (now : ClockMs) (ip : Bytes) (completed : List Attempt)
  /-- The file is written, in some order of the addresses. -/
  | snapshot (entries : Queues)
  /-- The process ends and is started again. -/
  | restart (clock : Nat → ClockMs)

/-- The state of a process that is started with a file. -/
def startDrop (codec : TaskCodec) (clock : Nat → ClockMs) : Option Bytes → DropState
  | none => {}
  | some bytes => restoreTasks codec clock bytes {}

/-- One step. -/
def RelayWorld.step (codec : TaskCodec) (w : RelayWorld) : RelayAction → Option RelayWorld
  | .create checkedAt enteredAt targetIP task =>
    some { w with drop := (w.drop.createTask checkedAt enteredAt targetIP task).1 }
  | .cancel targetIP taskID attemptID =>
    let (drop, reply) := w.drop.cancelRequest targetIP taskID attemptID
    some { w with
      drop
      log := if reply.canceled then .canceled targetIP (taskID, attemptID) :: w.log else w.log }
  | .heartbeat now ip completed =>
    let (drop, reply) := w.drop.heartbeat now ip completed
    let dispatched := reply.task.map fun task => (task.taskID, task.attemptID)
    some { w with drop, log := .heartbeat ip completed dispatched reply.cancelAttempts :: w.log }
  | .snapshot entries =>
    if entries.isPerm w.drop.tasks then some { w with file := some (snapshotTasks codec entries) }
    else none
  | .restart clock => some { w with drop := startDrop codec clock w.file }

/-! ## What a cancel promises -/

/-- The attempt was handed to the address after its cancel was accepted there, and has not been
reported as completed since. -/
def Outstanding (ip : Bytes) (attempt : Attempt) : List RelayEvent → Prop
  | [] => False
  | .canceled _ _ :: past => Outstanding ip attempt past
  | .heartbeat beatIP reported dispatched _ :: past =>
    (beatIP = ip ∧ dispatched = some attempt ∧ .canceled ip attempt ∈ past) ∨
      (Outstanding ip attempt past ∧ attempt ∉ reported)

/-- The answer to a heartbeat lists every attempt whose cancel was accepted for the address, if it
hands out the attempt, or if the attempt was handed out before and is not completed. -/
def Lists (past : List RelayEvent) : RelayEvent → Prop
  | .canceled _ _ => True
  | .heartbeat ip reported dispatched cancelAttempts =>
    ∀ attempt : Attempt, attempt.2 ≠ 0 → .canceled ip attempt ∈ past →
      dispatched = some attempt ∨ (Outstanding ip attempt past ∧ attempt ∉ reported) →
      attempt ∈ cancelAttempts

/-- No accepted cancel was lost: every answer lists what it has to. -/
def CancelsKept : List RelayEvent → Prop
  | [] => True
  | event :: past => Lists past event ∧ CancelsKept past

end MiniDrop.Drop
