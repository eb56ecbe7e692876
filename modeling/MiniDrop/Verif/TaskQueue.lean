import MiniDrop.Drop.Services
import Mathlib.Data.List.TakeWhile
/-!
# What every reachable task queue satisfies

Queues are sorted and not empty, hold an attempt at most once and at most a thousand items, and
every item has the metadata that reading it back from a file would derive. Every request keeps this,
and a restart establishes it from any bytes at all.
-/
namespace MiniDrop.Drop

open Base List
open List

variable {queue : List QueuedTask} {item : QueuedTask}

/-- The metadata of an item is settled: what is zero stays zero when it is derived again. -/
structure QueuedTask.Complete (item : QueuedTask) : Prop where
  named : item.task.taskID ≠ []
  entered : item.enqueuedUnixMs ≠ 0
  deadline : item.deadlineUnixMs = 0 → item.task.deadlineUnixMs = 0
  priority : item.priority = 0 → inferPriority item.task = 0

/-- The invariant of one queue. -/
structure QueueSound (queue : List QueuedTask) : Prop where
  filled : queue ≠ []
  sorted : queue.Pairwise fun a b => a.rank ≤ b.rank
  keys : (queue.map (·.task.key)).Nodup
  short : queue.length ≤ maxQueueLengthPerAgent
  items : ∀ item ∈ queue, item.Complete

/-- The invariant of all queues. -/
structure TasksSound (tasks : Queues) : Prop where
  addresses : (tasks.map Prod.fst).Nodup
  queues : ∀ entry ∈ tasks, QueueSound entry.2

/-! ## Queues -/

/-- A part of a sound queue. -/
theorem QueueSound.sublist {fewer : List QueuedTask} (sound : QueueSound queue)
    (part : fewer.Sublist queue) (filled : fewer ≠ []) : QueueSound fewer where
  filled := filled
  sorted := sound.sorted.sublist part
  keys := sound.keys.sublist (part.map _)
  short := Nat.le_trans part.length_le sound.short
  items := fun item mem => sound.items item (part.subset mem)

/-- A new entry comes into a queue with room. -/
theorem queueSound_insert (sound : queue = [] ∨ QueueSound queue) (complete : item.Complete)
    (fresh : ∀ queued ∈ queue, queued.task.key ≠ item.task.key)
    (room : queue.length < maxQueueLengthPerAgent) : QueueSound (sortQueue (queue ++ [item])) := by
  have perm := orderBy_perm QueuedTask.rank (queue ++ [item])
  have keys : (queue.map (·.task.key)).Nodup := by
    rcases sound with rfl | sound
    · exact nodup_nil
    · exact sound.keys
  have items : ∀ queued ∈ queue, queued.Complete := by
    rcases sound with rfl | sound
    · exact forall_mem_nil _
    · exact sound.items
  refine ⟨?_, orderBy_pairwise _ _, ?_, ?_, ?_⟩
  · intro empty
    have length := perm.length_eq
    rw [show orderBy QueuedTask.rank (queue ++ [item]) = [] from empty] at length
    simp at length
  · refine (perm.map (·.task.key)).nodup_iff.mpr ?_
    exact nodup_map_concat keys fresh
  · have length := perm.length_eq
    rw [length_append, length_singleton] at length
    change (orderBy QueuedTask.rank (queue ++ [item])).length ≤ _
    omega
  · intro queued mem
    rcases mem_append.mp ((mem_orderBy _).mp mem) with old | new
    · exact items queued old
    · rw [mem_singleton.mp new]
      exact complete

/-- A cancel leaves a queue sound. -/
theorem QueueSound.applyCancel (sound : QueueSound queue) (taskID : Bytes)
    (attemptID : UInt64) : QueueSound (DropState.applyCancel taskID attemptID queue) := by
  let mark : QueuedTask → QueuedTask := fun item =>
    if DropState.cancels taskID attemptID item then { item with canceled := true } else item
  have kept (item : QueuedTask) : (mark item).rank = item.rank ∧ (mark item).task = item.task := by
    simp only [mark]
    split <;> exact ⟨rfl, rfl⟩
  change QueueSound (queue.map mark)
  refine ⟨fun empty => sound.filled (map_eq_nil_iff.mp empty), ?_, ?_, ?_, ?_⟩
  · refine pairwise_map.mpr (sound.sorted.imp fun {a b} order => ?_)
    rw [(kept a).1, (kept b).1]
    exact order
  · have same : (queue.map mark).map (·.task.key) = queue.map (·.task.key) := by
      rw [map_map]
      exact map_congr_left fun item _ => congrArg TaskDesc.key (kept item).2
    rw [same]
    exact sound.keys
  · rw [length_map]
    exact sound.short
  · intro marked mem
    obtain ⟨item, itemIn, rfl⟩ := mem_map.mp mem
    have complete := sound.items item itemIn
    simp only [mark]
    split
    · exact ⟨complete.named, complete.entered, complete.deadline, complete.priority⟩
    · exact complete

/-! ## Maps of queues -/

/-- The queue of an address is empty or stored. -/
theorem queueOf_cases (tasks : Queues) (ip : Bytes) :
    queueOf tasks ip = [] ∨ (ip, queueOf tasks ip) ∈ tasks := by
  unfold queueOf
  cases found : tasks.lookup ip with
  | none => exact Or.inl rfl
  | some => exact Or.inr (mem_of_lookup found)

section Maps

variable {tasks : Queues}

section

variable (sound : TasksSound tasks)
include sound

/-- The queue of an address is empty or sound. -/
theorem TasksSound.queue_cases (ip : Bytes) :
    queueOf tasks ip = [] ∨ QueueSound (queueOf tasks ip) := by
  rcases queueOf_cases tasks ip with empty | mem
  · exact Or.inl empty
  · exact Or.inr (sound.queues _ mem)

/-- A sound queue is stored. -/
theorem TasksSound.upsert (ip : Bytes)
    (queueSound : QueueSound queue) : TasksSound (upsert tasks ip queue) where
  addresses := upsert_nodup sound.addresses ip queue
  queues := by
    intro entry mem
    rcases mem_upsert mem with rfl | ⟨old, -⟩
    · exact queueSound
    · exact sound.queues entry old

/-- A queue is dropped. -/
theorem TasksSound.release (ip : Bytes) : TasksSound (release tasks ip) where
  addresses := release_nodup sound.addresses ip
  queues := fun entry mem => sound.queues entry (mem_release.mp mem).1

end

/-- The queue that was stored. -/
theorem queueOf_upsert_self {ip : Bytes} (addresses : (tasks.map Prod.fst).Nodup) :
    queueOf (upsert tasks ip queue) ip = queue := by
  rw [queueOf, lookup_upsert_self addresses, Option.getD_some]

/-- The queues of other addresses. -/
theorem queueOf_upsert_of_ne {ip other : Bytes} (differs : other ≠ ip) :
    queueOf (upsert tasks ip queue) other = queueOf tasks other := by
  rw [queueOf, queueOf, lookup_upsert_of_ne differs]

/-- No queue. -/
theorem tasksSound_nil : TasksSound [] :=
  ⟨nodup_nil, forall_mem_nil _⟩

end Maps

/-! ## Requests -/

variable {s : DropState}

/-- A task that is created leaves the state alone, or stands in its queue as a new attempt. -/
theorem createTask_cases (checkedAt enteredAt : ClockMs) (ip : Bytes) (task : TaskDesc) :
    (s.createTask checkedAt enteredAt ip task).1 = s ∨
      task.taskID ≠ [] ∧ task.key ∉ s.completedAttempts ∧
        (∀ item ∈ queueOf s.tasks ip, item.task.key ≠ task.key) ∧
        (queueOf s.tasks ip).length < maxQueueLengthPerAgent ∧
        (s.createTask checkedAt enteredAt ip task).1 = { s with
            tasks := upsert s.tasks ip
              (sortQueue (queueOf s.tasks ip ++ [newItem enteredAt task])) } := by
  change (s.enqueueTask checkedAt enteredAt ip task).1 = s ∨ _ ∧ _ ∧ _ ∧ _ ∧
    (s.enqueueTask checkedAt enteredAt ip task).1 = _
  unfold DropState.enqueueTask
  dsimp only
  split_ifs with unnamed late done duplicate full
  · exact .inl rfl
  · exact .inl rfl
  · exact .inl rfl
  · exact .inl rfl
  · exact .inl rfl
  · refine .inr ⟨unnamed, fun completed => done (contains_iff_mem.mpr completed), ?_,
      not_le.mp full, rfl⟩
    intro queued mem same
    exact duplicate (any_eq_true.mpr ⟨queued, mem, decide_eq_true same⟩)

section

variable (sound : TasksSound s.tasks)
include sound

/-- `CreateTask` keeps the queues sound. -/
theorem createTask_sound (checkedAt enteredAt : ClockMs) (targetIP : Bytes) (task : TaskDesc) :
    TasksSound (s.createTask checkedAt enteredAt targetIP task).1.tasks := by
  rcases createTask_cases (s := s) checkedAt enteredAt targetIP task with
    same | ⟨named, -, fresh, room, next⟩
  · rw [same]
    exact sound
  · rw [next]
    exact sound.upsert targetIP (queueSound_insert (sound.queue_cases targetIP)
      ⟨named, enteredAt.property, id, id⟩ fresh room)

/-- So does a cancel of a queued task. -/
theorem cancelTask_sound (targetIP taskID : Bytes) (attemptID : UInt64) :
    TasksSound (s.cancelTask targetIP taskID attemptID).1.tasks := by
  refine ⟨?_, fun entry mem => ?_⟩
  · have same : (s.cancelTask targetIP taskID attemptID).1.tasks.map Prod.fst =
        s.tasks.map Prod.fst := by
      simp only [DropState.cancelTask, map_map]
      exact map_congr_left fun _ _ => rfl
    rw [same]
    exact sound.addresses
  · obtain ⟨old, oldIn, rfl⟩ := mem_map.mp mem
    dsimp only
    split
    · exact (sound.queues old oldIn).applyCancel taskID attemptID
    · exact sound.queues old oldIn

/-- So does a request to cancel. -/
theorem cancelRequest_sound (targetIP taskID : Bytes)
    (attemptID : UInt64) : TasksSound (s.cancelRequest targetIP taskID attemptID).1.tasks := by
  unfold DropState.cancelRequest
  dsimp only
  split <;> exact cancelTask_sound sound targetIP taskID attemptID

/-- So does the pop. -/
theorem popNextDispatchableTask_sound (now : ClockMs) (ip : Bytes) :
    TasksSound (s.popNextDispatchableTask now ip).1.tasks := by
  unfold DropState.popNextDispatchableTask
  split
  · exact sound
  · next queue found =>
    have queueSound := sound.queues _ (mem_of_lookup found)
    split
    · exact sound.release ip
    · next item rest left =>
      split
      · exact sound.release ip
      · next more =>
        refine sound.upsert ip (queueSound.sublist ?_ more)
        have part := dropWhile_sublist (l := queue) (s.skips now.val)
        rw [left] at part
        exact (sublist_cons_self item rest).trans part

/-- What a pop hands out, and what it leaves. -/
theorem popNextDispatchableTask_eq (now : ClockMs) (ip : Bytes) :
    let left := (queueOf s.tasks ip).dropWhile (s.skips now.val)
    let out := s.popNextDispatchableTask now ip
    out.2 = left.head?.map (·.task) ∧ queueOf out.1.tasks ip = left.tail ∧
      (∀ other, other ≠ ip → queueOf out.1.tasks other = queueOf s.tasks other) ∧
      out.1.pendingCancels = s.pendingCancels ∧ out.1.completedAttempts = s.completedAttempts := by
  have gone : queueOf (release s.tasks ip) ip = [] := by
    rw [queueOf, lookup_release_self]
    rfl
  have beside : ∀ other, other ≠ ip → queueOf (release s.tasks ip) other =
      queueOf s.tasks other := by
    intro other differs
    rw [queueOf, queueOf, lookup_release_of_ne differs]
  unfold DropState.popNextDispatchableTask
  cases found : s.tasks.lookup ip with
  | none => simp [queueOf, found]
  | some queue =>
    have own : queueOf s.tasks ip = queue := by
      rw [queueOf, found]
      rfl
    rw [own]
    dsimp only
    cases left : queue.dropWhile (s.skips now.val) with
    | nil => exact ⟨rfl, gone, beside, rfl, rfl⟩
    | cons item rest =>
      dsimp only
      by_cases last : rest = []
      · rw [if_pos last]
        exact ⟨rfl, last ▸ gone, beside, rfl, rfl⟩
      · rw [if_neg last]
        exact ⟨rfl, queueOf_upsert_self sound.addresses, fun _ => queueOf_upsert_of_ne, rfl, rfl⟩

end

/-- Completed attempts are not in the queues. -/
theorem markAll_tasks (completed : List (Bytes × UInt64)) (s : DropState) :
    (completed.foldl (fun s attempt => s.markAttemptCompleted attempt.1 attempt.2) s).tasks =
      s.tasks := by
  induction completed generalizing s with
  | nil => rfl
  | cons attempt rest ih => rw [foldl_cons, ih]; rfl

/-- So does a heartbeat. -/
theorem heartbeat_sound (sound : TasksSound s.tasks) (now : ClockMs) (ip : Bytes)
    (completed : List (Bytes × UInt64)) : TasksSound (s.heartbeat now ip completed).1.tasks := by
  refine popNextDispatchableTask_sound ?_ now ip
  rw [markAll_tasks]
  exact sound

/-! ## Restarts -/

/-- A restored entry with a task is complete. -/
theorem completeItem_complete (now : ClockMs) (named : item.task.taskID ≠ []) :
    (completeItem now item).Complete := by
  refine ⟨named, ?_, ?_, ?_⟩
  · simp only [completeItem]
    split
    · exact now.property
    · next nonzero => exact nonzero
  all_goals
    simp only [completeItem]
    split
    · exact id
    · next nonzero => exact fun zero => absurd zero nonzero

/-- Placing an entry keeps the queues sound. -/
theorem placeItem_sound (sound : TasksSound s.tasks) (now : ClockMs) (ip : Bytes)
    (item : QueuedTask) : TasksSound (placeItem s ip (completeItem now item)).tasks := by
  unfold placeItem
  dsimp only
  split_ifs with refused skipped
  · exact sound
  · exact sound
  · rw [not_or] at refused skipped
    refine sound.upsert ip (queueSound_insert (sound.queue_cases ip)
      (completeItem_complete now refused.1) ?_ (not_le.mp skipped.2))
    intro queued mem same
    exact skipped.1 (any_eq_true.mpr ⟨queued, mem, decide_eq_true same⟩)

/-- So does the loop of the restore. -/
theorem restoreLoop_sound (codec : TaskCodec) (clock : Nat → ClockMs) (rounds : Nat) (bytes : Bytes)
    (sound : TasksSound s.tasks) : TasksSound (restoreLoop codec clock rounds bytes s).tasks := by
  induction rounds generalizing bytes s with
  | zero => exact sound
  | succ rounds ih =>
    rw [restoreLoop]
    split
    · exact sound
    · split
      · exact ih _ sound
      · exact ih _ (placeItem_sound sound _ _ _)

/-- Every call keeps the queues sound. -/
theorem act_sound (codec : TaskCodec) (sound : TasksSound s.tasks) (action : DropAction) :
    TasksSound (s.act codec action).tasks := by
  cases action with
  | create checkedAt enteredAt targetIP task =>
    exact createTask_sound sound checkedAt enteredAt targetIP task
  | cancel targetIP taskID attemptID => exact cancelRequest_sound sound targetIP taskID attemptID
  | heartbeat now ip completed => exact heartbeat_sound sound now ip completed
  | restart clock bytes => exact restoreLoop_sound codec clock _ bytes tasksSound_nil

/-- The queues of every reachable state are sound. -/
theorem reachable_sound {codec : TaskCodec} (reachable : Reachable codec s) :
    TasksSound s.tasks := by
  obtain ⟨actions, rfl⟩ := reachable
  suffices general : ∀ start : DropState, TasksSound start.tasks →
      TasksSound (actions.foldl (DropState.act codec) start).tasks from general {} tasksSound_nil
  induction actions with
  | nil => exact fun _ sound => sound
  | cons action rest ih => exact fun start sound => ih _ (act_sound codec sound action)

/-! ## The calls under the lock -/

/-- The calls of the server on its maps, with the readings of the clock they make. -/
inductive QueueCall where
  | enqueue (checkedAt enteredAt : ClockMs) (targetIP : Bytes) (task : TaskDesc)
  | cancel (targetIP taskID : Bytes) (attemptID : UInt64)
  | complete (taskID : Bytes) (attemptID : UInt64)
  | pop (now : ClockMs) (ip : Bytes)
  | restore (clock : Nat → ClockMs) (bytes : Bytes)

/-- The call of a function of the queues. -/
def QueueCall.run (codec : TaskCodec) (s : DropState) : QueueCall → DropState
  | .enqueue checkedAt enteredAt targetIP task =>
    (s.enqueueTask checkedAt enteredAt targetIP task).1
  | .cancel targetIP taskID attemptID => (s.cancelTask targetIP taskID attemptID).1
  | .complete taskID attemptID => s.markAttemptCompleted taskID attemptID
  | .pop now ip => (s.popNextDispatchableTask now ip).1
  | .restore clock bytes => restoreTasks codec clock bytes s

/-- It keeps the queues sound. -/
theorem QueueCall.run_sound (codec : TaskCodec) (sound : TasksSound s.tasks) (call : QueueCall) :
    TasksSound (call.run codec s).tasks := by
  cases call with
  | enqueue checkedAt enteredAt targetIP task =>
    exact createTask_sound sound checkedAt enteredAt targetIP task
  | cancel targetIP taskID attemptID => exact cancelTask_sound sound targetIP taskID attemptID
  | complete => exact sound
  | pop now ip => exact popNextDispatchableTask_sound sound now ip
  | restore clock bytes => exact restoreLoop_sound codec clock _ bytes sound

/-- A pop hands out the first item that is not canceled, expired or completed; it leaves the items
after that one, and the other queues. -/
def DropState.PopsFirst (s : DropState) (now : ClockMs) (ip : Bytes) : Prop :=
  let out := s.popNextDispatchableTask now ip
  (∀ other, other ≠ ip → queueOf out.1.tasks other = queueOf s.tasks other) ∧
    ((∃ passed item rest, queueOf s.tasks ip = passed ++ item :: rest ∧
        (∀ other ∈ passed, s.skips now.val other = true) ∧ s.skips now.val item = false ∧
        out.2 = some item.task ∧ queueOf out.1.tasks ip = rest) ∨
      (∀ item ∈ queueOf s.tasks ip, s.skips now.val item = true) ∧ out.2 = none ∧
        queueOf out.1.tasks ip = [])

/-- The pop takes the first entry of the order that can be handed out. -/
theorem TasksSound.popsFirst (sound : TasksSound s.tasks) (now : ClockMs) (ip : Bytes) :
    s.PopsFirst now ip := by
  obtain ⟨task, queue, others, -⟩ := popNextDispatchableTask_eq sound now ip
  refine ⟨others, ?_⟩
  cases left : (queueOf s.tasks ip).dropWhile (s.skips now.val) with
  | nil =>
    rw [left] at task queue
    exact .inr ⟨dropWhile_eq_nil_iff.mp left, task, queue⟩
  | cons item rest =>
    have kept := head?_dropWhile_not (s.skips now.val) (queueOf s.tasks ip)
    rw [left] at task queue kept
    refine .inl ⟨(queueOf s.tasks ip).takeWhile (s.skips now.val), item, rest, ?_,
      fun _ => mem_takeWhile_imp, kept, task, queue⟩
    rw [← left, takeWhile_append_dropWhile]

/-- After any calls from the empty state, with any readings of the clock, each queue is short, holds
each attempt once and is in order, and a pop hands out the first item that can be handed out. -/
theorem queues_and_pops (codec : TaskCodec) (calls : List QueueCall) :
    let s := calls.foldl (QueueCall.run codec) {}
    ∀ ip, (queueOf s.tasks ip).length ≤ maxQueueLengthPerAgent ∧
      ((queueOf s.tasks ip).map (·.task.key)).Nodup ∧
      (queueOf s.tasks ip).Pairwise (fun a b => a.rank ≤ b.rank) ∧
      ∀ now, s.PopsFirst now ip := by
  intro s ip
  have sound : TasksSound s.tasks :=
    foldlRecOn (motive := fun s : DropState => TasksSound s.tasks) calls _ tasksSound_nil
      fun _ sound call _ => call.run_sound codec sound
  rcases sound.queue_cases ip with empty | queue
  · rw [empty]
    exact ⟨Nat.zero_le _, nodup_nil, .nil, fun now => sound.popsFirst now ip⟩
  · exact ⟨queue.short, queue.keys, queue.sorted, fun now => sound.popsFirst now ip⟩

end MiniDrop.Drop
