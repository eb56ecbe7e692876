import MiniDrop.Drop.TaskQueue
/-!
# Snapshots of the task queue

A snapshot is a sequence of records without any framing: the address with its length, the serialized
task with its length, then priority, deadline, time of entry and the canceled flag. The reader stops
at the first record whose lengths make no sense or that ends too early. A task that does not parse
is passed over, and metadata that ends too early is put back and replaced by defaults.
-/
namespace MiniDrop.Drop

open Base (Bytes leBytes leValue splitBytes)

/-- The serialization of tasks, which is assumed to be read back. -/
structure TaskCodec where
  serialize : TaskDesc → Bytes
  parse : Bytes → Option TaskDesc
  roundTrip : ∀ task, parse (serialize task) = some task

/-! ## Writing -/

/-- The metadata after the serialized task. -/
def metadataBytes (item : QueuedTask) : Bytes :=
  -- A 32-bit priority is widened with its sign.
  leBytes 8 (item.priority.signExtend 64).toNat ++ leBytes 8 item.deadlineUnixMs.toNat ++
    leBytes 8 item.enqueuedUnixMs.toNat ++ [if item.canceled then 1 else 0]

/-- The bytes before the metadata. -/
def headerBytes (ip taskBytes : Bytes) : Bytes :=
  leBytes 4 ip.length ++ ip ++ leBytes 4 taskBytes.length ++ taskBytes

/-- One record, with the task as the given bytes. -/
def recordBytes (ip taskBytes : Bytes) (item : QueuedTask) : Bytes :=
  headerBytes ip taskBytes ++ metadataBytes item

/-- An address with an item of its queue. -/
abbrev Record := Bytes × QueuedTask

/-- The records of a map, in its iteration order. -/
def recordsOf (tasks : Queues) : List Record :=
  tasks.flatMap fun (ip, queue) => queue.map fun item => (ip, item)

/-- `snapshot_tasks_to_disk`. -/
def snapshotTasks (codec : TaskCodec) (tasks : Queues) : Bytes :=
  (recordsOf tasks).flatMap fun (ip, item) => recordBytes ip (codec.serialize item.task) item

/-! ## Reading -/

/-- `read_i64` on a variable that is zero: the bytes there are, and whether they are enough. -/
def readI64 (bytes : Bytes) : BitVec 64 × Bool :=
  (BitVec.ofNat 64 (leValue (bytes.take 8)), decide (8 ≤ bytes.length))

/-- The metadata of a record: the item's columns, and the bytes after the metadata. If a field is
cut short the reader goes back to the start of the metadata; columns read so far keep what was
read. -/
def readMetadata (task : TaskDesc) (bytes : Bytes) : QueuedTask × Bytes :=
  let (priority, hasPriority) := readI64 bytes
  let (deadline, hasDeadline) := readI64 (bytes.drop 8)
  let (enqueued, hasEnqueued) := readI64 (bytes.drop 16)
  if ¬hasPriority then ({ task }, bytes)
  else if ¬hasDeadline then ({ task, deadlineUnixMs := deadline }, bytes)
  else if ¬hasEnqueued then
    ({ task, deadlineUnixMs := deadline, enqueuedUnixMs := enqueued }, bytes)
  else
    let item : QueuedTask :=
      { task, priority := priority.setWidth 32, deadlineUnixMs := deadline,
        enqueuedUnixMs := enqueued }
    match bytes.drop 24 with
    | [] => (item, bytes)
    | canceled :: rest => ({ item with canceled := canceled ≠ 0 }, rest)

/-- Columns that are zero are derived again. -/
def completeItem (now : ClockMs) (item : QueuedTask) : QueuedTask :=
  { item with
    enqueuedUnixMs := if item.enqueuedUnixMs = 0 then now.val else item.enqueuedUnixMs
    deadlineUnixMs :=
      if item.deadlineUnixMs = 0 then item.task.deadlineUnixMs else item.deadlineUnixMs
    priority := if item.priority = 0 then inferPriority item.task else item.priority }

/-- The entry of a restored item: not without a task, not when completed, not twice, not in a full
queue. -/
def placeItem (s : DropState) (ip : Bytes) (item : QueuedTask) : DropState :=
  let queue := queueOf s.tasks ip
  if item.task.taskID = [] ∨ s.isAttemptCompleted item.task.key then s
  else if queue.any (·.task.key = item.task.key) ∨ queue.length ≥ maxQueueLengthPerAgent then s
  else { s with tasks := Base.upsert s.tasks ip (sortQueue (queue ++ [item])) }

/-- The address and the task bytes at the front of the input, if they make sense. -/
def readHeader (bytes : Bytes) : Option ((Bytes × Bytes) × Bytes) := do
  let (ipLen, bytes) ← splitBytes 4 bytes
  if leValue ipLen = 0 ∨ leValue ipLen > 1024 then none
  let (ip, bytes) ← splitBytes (leValue ipLen) bytes
  let (taskLen, bytes) ← splitBytes 4 bytes
  if leValue taskLen = 0 ∨ leValue taskLen > 10 * 1024 * 1024 then none
  let (taskBytes, bytes) ← splitBytes (leValue taskLen) bytes
  some ((ip, taskBytes), bytes)

/-- The loop of `restore_tasks_from_disk`. Every round takes bytes from the input, so the length of
the input bounds the rounds. -/
def restoreLoop (codec : TaskCodec) (clock : Nat → ClockMs) : Nat → Bytes → DropState → DropState
  | 0, _, s => s
  | rounds + 1, bytes, s =>
    match readHeader bytes with
    | none => s
    | some ((ip, taskBytes), bytes) =>
      match codec.parse taskBytes with
      -- The metadata of a task that does not parse is not passed over.
      | none => restoreLoop codec clock rounds bytes s
      | some task =>
        let (item, bytes) := readMetadata task bytes
        restoreLoop codec clock rounds bytes (placeItem s ip (completeItem (clock rounds) item))

/-- `restore_tasks_from_disk`. -/
def restoreTasks (codec : TaskCodec) (clock : Nat → ClockMs) (bytes : Bytes) (s : DropState) :
    DropState :=
  restoreLoop codec clock (bytes.length + 1) bytes s

end MiniDrop.Drop
