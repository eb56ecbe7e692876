import MiniDrop.Base.Bytes
import MiniDrop.Base.Keyed
import MiniDrop.Base.Tables
import Mathlib.Data.Prod.Lex
/-!
# The task queue of the drop server

The drop server keeps, for each agent address, a queue of tasks to hand out with the next
heartbeats, the set of attempts an agent has reported as completed, and for each address the
attempts whose cancellation still has to be relayed. All operations run under one lock.

Strings are byte strings, and machine integers have their widths: `int` is 32 bits, the times are 64
bits, both signed.
-/
namespace MiniDrop.Drop

open Base

/-- `hotmethod::TaskDesc`: the fields the queue reads, and the others as one value. -/
structure TaskDesc where
  taskID : Bytes := []
  attemptID : UInt64 := 0
  deadlineUnixMs : BitVec 64 := 0
  resourceBudget : Bytes := []
  /-- The fields that are only carried along. -/
  others : Bytes := []
  deriving DecidableEq

structure QueuedTask where
  task : TaskDesc := {}
  priority : BitVec 32 := 0
  (deadlineUnixMs enqueuedUnixMs : BitVec 64 := 0)
  canceled : Bool := false
  deriving DecidableEq

/-- The queues by the addresses of their agents. -/
abbrev Queues := List (Bytes × List QueuedTask)

/-- A reading of `now_unix_ms`: milliseconds since the epoch. A clock at the epoch itself is left
out, as the restore takes an entry time of zero for a missing one. -/
abbrev ClockMs := { ms : BitVec 64 // ms ≠ 0 }

/-- The maps of the server, in some iteration order. -/
structure DropState where
  /-- `tasks_`. -/
  tasks : Queues := []
  /-- `completed_attempts_`. -/
  completedAttempts : List Bytes := []
  /-- `pending_cancels_`. -/
  pendingCancels : List (Bytes × List Bytes) := []

/-! ## Keys -/

/-- `task_attempt_key`: the task, a number sign, and the attempt in decimal digits. -/
def taskAttemptKey (taskID : Bytes) (attemptID : UInt64) : Bytes :=
  taskID ++ 35 :: decimal attemptID.toNat

/-- The key of a task. -/
def TaskDesc.key (task : TaskDesc) : Bytes := taskAttemptKey task.taskID task.attemptID

/-- A key taken apart at its last number sign, as `collect_cancel_attempts_locked` does. -/
def parseAttemptKey (key : Bytes) : Option (Bytes × UInt64) :=
  let backwards := key.reverse
  match backwards.dropWhile (· ≠ 35) with
  | [] => none
  | _ :: taskBackwards =>
    some (taskBackwards.reverse,
      UInt64.ofNat (ofDecimal (backwards.takeWhile (· ≠ 35)).reverse))

/-- A key gives back the task and the attempt it was made of. -/
theorem parseAttemptKey_key (taskID : Bytes) (attemptID : UInt64) :
    parseAttemptKey (taskAttemptKey taskID attemptID) = some (taskID, attemptID) := by
  have reversed : (taskAttemptKey taskID attemptID).reverse =
      (decimal attemptID.toNat).reverse ++ 35 :: taskID.reverse := by
    simp [taskAttemptKey]
  have digits : ∀ byte ∈ (decimal attemptID.toNat).reverse, decide (byte ≠ 35) = true := by
    intro byte mem
    have range := decimal_digits (List.mem_reverse.mp mem)
    rw [decide_eq_true_eq]
    intro same
    rw [same] at range
    exact absurd range.1 (by decide)
  unfold parseAttemptKey
  rw [reversed]
  dsimp only
  rw [List.dropWhile_append_of_pos digits, List.takeWhile_append_of_pos digits]
  simp [ofDecimal_decimal]

/-- Different attempts have different keys. -/
theorem taskAttemptKey_injective {taskID otherID : Bytes} {attemptID otherAttempt : UInt64}
    (same : taskAttemptKey taskID attemptID = taskAttemptKey otherID otherAttempt) :
    taskID = otherID ∧ attemptID = otherAttempt := by
  have parsed := congrArg parseAttemptKey same
  rw [parseAttemptKey_key, parseAttemptKey_key] at parsed
  simpa using parsed

/-! ## Priorities -/

/-- The rest of a string from the first occurrence of a pattern on. -/
def findFrom (pattern : Bytes) : Bytes → Option Bytes
  | [] => if pattern = [] then some [] else none
  | byte :: rest =>
    if pattern.isPrefixOf (byte :: rest) then some (byte :: rest) else findFrom pattern rest

/-- `isspace` in the C locale. -/
def isSpaceByte (byte : UInt8) : Bool := byte = 32 || (9 ≤ byte && byte ≤ 13)

/-- `isdigit`. -/
def isDigitByte (byte : UInt8) : Bool := 48 ≤ byte && byte ≤ 57

/-- The bytes of the key `"priority"` with its quotes. -/
def priorityKey : Bytes := [34, 112, 114, 105, 111, 114, 105, 116, 121, 34]

/-- `infer_priority`: the integer after the key `"priority"` in the resource budget, or zero. The
value is computed in 32 bits. -/
def inferPriority (task : TaskDesc) : BitVec 32 :=
  match findFrom priorityKey task.resourceBudget with
  | none => 0
  | some fromKey =>
    match fromKey.dropWhile (· ≠ 58) with
    | [] => 0
    | _ :: afterColon =>
      let value := afterColon.dropWhile fun byte => isSpaceByte byte || byte = 34
      let negative := value.head? = some 45
      let digits := (if negative then value.drop 1 else value).takeWhile isDigitByte
      let number := digits.foldl
        (fun number byte => number * 10 + BitVec.ofNat 32 (byte.toNat - 48)) (0 : BitVec 32)
      if negative then -number else number

/-! ## Queues -/

def maxQueueLengthPerAgent : Nat := 1000

/-- The order of a queue: falling priority, then rising deadline with none last, then the time of
entry. -/
def QueuedTask.rank (item : QueuedTask) : Int ×ₗ Bool ×ₗ Int ×ₗ Int :=
  toLex (-item.priority.toInt, toLex (item.deadlineUnixMs = 0,
    toLex (item.deadlineUnixMs.toInt, item.enqueuedUnixMs.toInt)))

/-- `stable_sort` of a queue. -/
def sortQueue (queue : List QueuedTask) : List QueuedTask := orderBy QueuedTask.rank queue

/-- The queue of an address; empty when there is none. -/
def queueOf (tasks : Queues) (ip : Bytes) : List QueuedTask :=
  (tasks.lookup ip).getD []

structure EnqueueResult where
  (ok duplicate : Bool := false)
  message : String := ""

/-- A deadline that has passed; zero and negative values are none. -/
def expired (deadline now : BitVec 64) : Bool := 0 < deadline.toInt && deadline.toInt ≤ now.toInt

/-- A new queue entry for a task. -/
def newItem (now : ClockMs) (task : TaskDesc) : QueuedTask where
  task := task
  priority := inferPriority task
  deadlineUnixMs := task.deadlineUnixMs
  enqueuedUnixMs := now.val

namespace DropState

variable (s : DropState)

/-- `is_attempt_completed_locked`. -/
def isAttemptCompleted (key : Bytes) : Bool := s.completedAttempts.contains key

/-- `enqueue_task_locked`. The clock is read once for the deadline and once for the entry. -/
def enqueueTask (checkedAt enteredAt : ClockMs) (targetIP : Bytes) (task : TaskDesc) :
    DropState × EnqueueResult :=
  let queue := queueOf s.tasks targetIP
  if task.taskID = [] then (s, { message := "task_id is required" })
  else if expired task.deadlineUnixMs checkedAt.val then (s,
    { message := "task deadline has expired" })
  else if s.isAttemptCompleted task.key then
    (s, { ok := true, duplicate := true, message := "attempt already completed" })
  else if queue.any (·.task.key = task.key) then
    (s, { ok := true, duplicate := true, message := "duplicate queued attempt" })
  else if queue.length ≥ maxQueueLengthPerAgent then (s, { message := "agent queue is full" })
  else
    ({ s with tasks := upsert s.tasks targetIP (sortQueue (queue ++ [newItem enteredAt task])) },
      { ok := true, message := "ok" })

/-- The item is one that a cancel of the attempt means; attempt zero means all attempts. -/
def cancels (taskID : Bytes) (attemptID : UInt64) (item : QueuedTask) : Bool :=
  item.task.taskID = taskID && (attemptID = 0 || item.task.attemptID = attemptID)

/-- The `applyCancel` closure of `cancel_task_locked`. -/
def applyCancel (taskID : Bytes) (attemptID : UInt64) (queue : List QueuedTask) : List QueuedTask :=
  queue.map fun item =>
    if cancels taskID attemptID item then { item with canceled := true } else item

/-- The queues a cancel looks at: that of its address, or all when it has none. -/
def cancelScope (targetIP ip : Bytes) : Bool := targetIP = [] || ip = targetIP

/-- `cancel_task_locked`. -/
def cancelTask (targetIP taskID : Bytes) (attemptID : UInt64) : DropState × Bool :=
  ({ s with
      tasks := s.tasks.map fun (ip, queue) =>
        (ip, if cancelScope targetIP ip then applyCancel taskID attemptID queue else queue) },
    s.tasks.any fun (ip, queue) => cancelScope targetIP ip && queue.any (cancels taskID attemptID))

/-- The keys of a pending set. -/
def pendingOf (ip : Bytes) : List Bytes := (s.pendingCancels.lookup ip).getD []

/-- `request_cancel_locked`. -/
def requestCancel (targetIP taskID : Bytes) (attemptID : UInt64) : DropState :=
  let key := taskAttemptKey taskID attemptID
  let keys := s.pendingOf targetIP
  { s with
    pendingCancels := place s.pendingCancels targetIP
      (if keys.contains key then keys else keys ++ [key]) }

/-- `mark_attempt_completed_locked`: the attempt leaves all pending sets, and an empty set goes. -/
def markAttemptCompleted (taskID : Bytes) (attemptID : UInt64) : DropState :=
  let key := taskAttemptKey taskID attemptID
  { s with
    completedAttempts :=
      if s.completedAttempts.contains key then s.completedAttempts else key :: s.completedAttempts
    pendingCancels := (s.pendingCancels.map fun (ip, keys) => (ip, keys.filter (· ≠ key))).filter
      fun entry => entry.2 ≠ [] }

/-- `collect_cancel_attempts_locked`. -/
def collectCancelAttempts (ip : Bytes) : List (Bytes × UInt64) :=
  (s.pendingOf ip).filterMap parseAttemptKey

/-- An item the pop passes over. -/
def skips (now : BitVec 64) (item : QueuedTask) : Bool :=
  item.canceled || expired item.deadlineUnixMs now || s.isAttemptCompleted item.task.key

/-- `pop_next_dispatchable_task_locked`: an emptied queue is erased. -/
def popNextDispatchableTask (now : ClockMs) (ip : Bytes) : DropState × Option TaskDesc :=
  match s.tasks.lookup ip with
  | none => (s, none)
  | some queue =>
    match queue.dropWhile (s.skips now.val) with
    | [] => ({ s with tasks := release s.tasks ip }, none)
    | item :: rest =>
      ({ s with
          tasks :=
            if rest = [] then release s.tasks ip
            else upsert s.tasks ip rest },
        some item.task)

end DropState

end MiniDrop.Drop
