import MiniDrop.Server.TaskWorkers
/-!
# Reads and guarded writes of task rows

What a guarded write does to the status of every task, and which writes leave the rows of tasks
alone.
-/
namespace MiniDrop

open List

variable {row : HotmethodTask} {t : TaskStore}

namespace TaskStore

variable {s : TaskStore} {tid other : String}

/-! ## Guarded writes -/

/-- What is found under an identifier has it. -/
theorem findTask_tid (found : s.findTask tid = some row) : row.tid = tid := by
  have := find?_some (show s.tasks.find? (·.tid = tid) = some row from found)
  simpa using this

/-- The status of a row that is found. -/
theorem statusOf_of_findTask (found : s.findTask tid = some row) :
    s.statusOf tid = some row.status := by
  rw [statusOf, found, Option.map_some]

/-- Rewriting rows under their identifiers. -/
theorem findTask_map (change : HotmethodTask → HotmethodTask)
    (keeps : ∀ row, (change row).tid = row.tid) :
    ({ s with tasks := s.tasks.map change } : TaskStore).findTask tid =
      (s.findTask tid).map change := by
  unfold findTask
  rw [find?_map, Function.comp_def]
  simp only [keeps]

/-- The status is read from the rows alone. -/
theorem statusOf_congr (same : t.tasks = s.tasks) (tid : String) :
    t.statusOf tid = s.statusOf tid := by
  unfold statusOf findTask
  rw [same]

/-- A guarded statement moves the status of its task if the guard holds, and no other one. -/
theorem statusOf_moveStatus (tid : String) (guards : List TaskStatus) (status : TaskStatus)
    (info : String) (extra : Extra) (other : String) :
    (s.moveStatus tid guards status info extra).1.statusOf other =
      if other = tid ∧ (s.statusOf tid).any (· ∈ guards) then some status
        else s.statusOf other := by
  unfold moveStatus
  cases current : s.statusOf tid with
  | none => simp
  | some held =>
    by_cases guarded : held ∈ guards
    · have keeps (row : HotmethodTask) :
          (if row.tid = tid then moveRow row status info extra else row).tid = row.tid := by
        split <;> rfl
      simp only [if_pos guarded, statusOf, findTask_map _ keeps, Option.map_map]
      by_cases own : other = tid
      · subst own
        obtain ⟨row, found, -⟩ := Option.map_eq_some_iff.mp current
        simp [found, findTask_tid found, guarded, moveRow]
      · rw [if_neg (by simp [own])]
        refine Option.map_congr fun row found => ?_
        simp [findTask_tid found, own]
    · simp [guarded]

/-- It takes a row exactly if the guard holds. -/
theorem moveStatus_took (tid : String) (guards : List TaskStatus) (status : TaskStatus)
    (info : String) (extra : Extra) :
    (s.moveStatus tid guards status info extra).2 = (s.statusOf tid).any (· ∈ guards) := by
  unfold moveStatus
  cases s.statusOf tid with
  | none => rfl
  | some held =>
    by_cases guarded : held ∈ guards <;> simp [guarded]

/-- The guard is a status that it lists. -/
theorem guarded_iff {guards : List TaskStatus} :
    (s.statusOf tid).any (· ∈ guards) = true ↔ ∃ held ∈ guards, s.statusOf tid = some held := by
  cases s.statusOf tid <;> simp

/-- `transitionTaskStatus` moves the task that still has the status that was read. -/
theorem statusOf_transition (task : HotmethodTask) (toStatus : TaskStatus) (reason source : String)
    (extra : Extra) (now : Int) (tid : String) :
    (s.transitionTaskStatus task toStatus reason source extra now).1.statusOf tid =
      if task.tid = tid ∧ s.statusOf tid = some task.status then some toStatus
      else s.statusOf tid := by
  unfold transitionTaskStatus
  simp only [moveStatus_took]
  by_cases guarded : s.statusOf task.tid = some task.status
  · rw [if_pos (by simp [guarded])]
    change (s.moveStatus task.tid [task.status] toStatus _ extra).1.statusOf tid = _
    rw [statusOf_moveStatus]
    by_cases own : task.tid = tid
    · subst own
      simp [guarded]
    · simp [own, Ne.symm own]
  · rw [if_neg, if_neg]
    · rintro ⟨rfl, same⟩
      exact guarded same
    · rw [guarded_iff]
      simpa using guarded

/-- A transition succeeds exactly if the status is the one that was read. -/
theorem transition_took (task : HotmethodTask) (toStatus : TaskStatus) (reason source : String)
    (extra : Extra) (now : Int) :
    (s.transitionTaskStatus task toStatus reason source extra now).2 = true ↔
      s.statusOf task.tid = some task.status := by
  have took : ((s.statusOf task.tid).any (· ∈ [task.status])) = true ↔
      s.statusOf task.tid = some task.status := by
    rw [guarded_iff]
    simp
  unfold transitionTaskStatus
  simp only [moveStatus_took]
  split
  · next guarded => exact ⟨fun _ => took.mp guarded, fun _ => rfl⟩
  · next missed => exact ⟨nofun, fun held => absurd (took.mpr held) missed⟩

/-! ## Other writes -/

/-- A new attempt leaves the tasks and the log alone. -/
theorem insertAttempt_beside {task : HotmethodTask} {trigger : AttemptTrigger} {count id : Nat}
    {now : Int} (inserted : s.insertAttempt task trigger count now = some (t, id)) :
    t.tasks = s.tasks ∧ t.events = s.events := by
  unfold insertAttempt at inserted
  split at inserted
  · cases inserted
  · cases inserted
    exact ⟨rfl, rfl⟩

/-- A step that leaves the attempts alone. -/
structure SameAttempts (s t : TaskStore) : Prop where
  attempts : t.attempts = s.attempts
  number : t.nextAttemptID = s.nextAttemptID

namespace SameAttempts

variable {s t u : TaskStore}

/-- Nothing happens. -/
theorem refl (s : TaskStore) : SameAttempts s s := ⟨rfl, rfl⟩

/-- One step after another. -/
theorem trans (first : SameAttempts s t) (second : SameAttempts t u) : SameAttempts s u :=
  ⟨second.attempts.trans first.attempts, second.number.trans first.number⟩

end SameAttempts

end TaskStore

/-- A poll writes no status, or that of a task which it has found running or uploading. -/
theorem Job.pollTask_cases (s : TaskStore) (task : HotmethodTask) (now : Int) (found : Bool) :
    pollTask s task now found = s ∨ ∃ toStatus reason extra,
      pollTask s task now found =
        (s.transitionTaskStatus task toStatus reason "task_poller" extra now).1 ∧
      ((task.status = .running ∧ toStatus = .uploading) ∨
        (task.status = .uploading ∧ (toStatus = .done ∨ toStatus = .failed))) := by
  unfold pollTask
  split
  · dsimp only
    split
    · next due => exact .inr ⟨_, _, _, rfl, .inl ⟨due.1, rfl⟩⟩
    · split
      · next uploading =>
        split
        · exact .inr ⟨_, _, _, rfl, .inr ⟨uploading, .inl rfl⟩⟩
        · split
          · exact .inr ⟨_, _, _, rfl, .inr ⟨uploading, .inr rfl⟩⟩
          · exact .inl rfl
      · exact .inl rfl
  · exact .inl rfl

/-- What identifies an attempt. -/
def TaskAttempt.key (row : TaskAttempt) : Nat × String × Nat :=
  (row.id, row.taskTID, row.attemptSeq)

namespace TaskStore

/-- Only columns of tasks and the status log are written. -/
def WritesTasks (s t : TaskStore) : Prop :=
  ∃ tasks events, tasks.map HotmethodTask.tid = s.tasks.map HotmethodTask.tid ∧
    t = { s with tasks, events }

namespace WritesTasks

variable {s t u : TaskStore} {task : HotmethodTask} {tid info reason source : String}
  {guards : List TaskStatus} {status : TaskStatus} {extra : Extra} {now : Int}

/-- Nothing happens. -/
theorem refl (s : TaskStore) : WritesTasks s s := ⟨s.tasks, s.events, rfl, rfl⟩

/-- One step after another. -/
theorem trans (first : WritesTasks s t) (second : WritesTasks t u) : WritesTasks s u := by
  obtain ⟨tasks, events, tids, rfl⟩ := first
  obtain ⟨later, log, same, rfl⟩ := second
  exact ⟨later, log, same.trans tids, rfl⟩

/-- Rows are rewritten under their identifiers. -/
theorem of_map (change : HotmethodTask → HotmethodTask)
    (keeps : ∀ row, (change row).tid = row.tid) :
    WritesTasks s { s with tasks := s.tasks.map change } := by
  refine ⟨s.tasks.map change, s.events, ?_, rfl⟩
  rw [map_map]
  exact map_congr_left fun row _ => keeps row

/-- An entry of the log. -/
theorem record {toStatus : TaskStatus} {origin : Option TaskStatus} (first : WritesTasks s t) :
    WritesTasks s (t.addEvent tid origin toStatus reason source now) :=
  first.trans ⟨t.tasks, _, rfl, rfl⟩

/-- A guarded statement. -/
theorem move : WritesTasks s (s.moveStatus tid guards status info extra).1 := by
  unfold moveStatus
  split
  · exact refl s
  · split
    · refine of_map _ fun row => ?_
      split <;> rfl
    · exact refl s

/-- A transition. -/
theorem transition :
    WritesTasks s (s.transitionTaskStatus task status reason source extra now).1 := by
  unfold transitionTaskStatus
  dsimp only
  generalize (if reason = "" then "状态迁移" else reason) = text
  split
  · exact move.record
  · exact refl s

/-- The transitions to the end. -/
theorem advance : WritesTasks s (Job.advanceToDone s task status now) := by
  unfold Job.advanceToDone
  dsimp only
  split
  · exact move.record
  · exact refl s

/-- An upload is noted and the task is done. -/
theorem upload : WritesTasks s (Job.uploadAndFinish s task now) := move.record.trans advance

/-- A failure. -/
theorem fail {req : TaskResultNotifyReq} : WritesTasks s (Job.failTask s req task now) := by
  unfold Job.failTask
  dsimp only
  split
  · exact refl s
  · refine of_map _ fun row => ?_
    split <;> rfl
  · exact transition

/-- What the poller finds. -/
theorem poll {found : Bool} : WritesTasks s (Job.pollTask s task now found) := by
  rcases Job.pollTask_cases s task now found with same | ⟨toStatus, reason, extra, same, -⟩
  · rw [same]
    exact refl s
  · rw [same]
    exact transition

/-- The attempts stay. -/
theorem sameAttempts (writes : WritesTasks s t) : SameAttempts s t := by
  obtain ⟨tasks, events, -, rfl⟩ := writes
  exact ⟨rfl, rfl⟩

end WritesTasks

/-- Attempts are ended, and nothing else is written. -/
def EndsAttempts (s t : TaskStore) : Prop :=
  ∃ attempts, attempts.map TaskAttempt.key = s.attempts.map TaskAttempt.key ∧
    t = { s with attempts }

namespace EndsAttempts

variable {s t : TaskStore} {id : Nat} {tid errorCode message : String} {keys : List String}
  {now : Int}

/-- Nothing happens. -/
theorem refl (s : TaskStore) : EndsAttempts s s := ⟨s.attempts, rfl, rfl⟩

/-- The attempt with a number ends. -/
theorem byID : EndsAttempts s (s.endAttemptID id errorCode message keys now) := by
  refine ⟨_, ?_, rfl⟩
  rw [map_map]
  refine map_congr_left fun row _ => ?_
  simp only [Function.comp_apply]
  split <;> rfl

/-- The attempt of a call ends. -/
theorem call : EndsAttempts s (s.finishTaskAttempt id errorCode message now) := by
  unfold finishTaskAttempt
  split
  · exact refl s
  · exact byID

/-- The latest attempt ends. -/
theorem latest : EndsAttempts s (s.finishLatestTaskAttempt tid errorCode message keys now) := by
  unfold finishLatestTaskAttempt
  split
  · exact refl s
  · exact byID

/-- The attempt of a notification ends. -/
theorem notify :
    EndsAttempts s (s.finishTaskAttemptForNotify tid id errorCode message keys now) := by
  unfold finishTaskAttemptForNotify
  split
  · exact byID
  · exact latest

/-- The tasks stay. -/
theorem tasks (ends : EndsAttempts s t) : t.tasks = s.tasks := by
  obtain ⟨attempts, -, rfl⟩ := ends
  rfl

/-- The log stays. -/
theorem events (ends : EndsAttempts s t) : t.events = s.events := by
  obtain ⟨attempts, -, rfl⟩ := ends
  rfl

end EndsAttempts

end TaskStore

/-! ## What keeps its rows -/

/-- There are the same tasks and the same attempts. -/
structure KeepsRows (s t : TaskStore) : Prop where
  tids : t.tasks.map (·.tid) = s.tasks.map (·.tid)
  attempts : t.attempts.map TaskAttempt.key = s.attempts.map TaskAttempt.key

namespace KeepsRows

variable {s t u : TaskStore}

/-- Other tables. -/
theorem of_eq (tasks : t.tasks = s.tasks) (attempts : t.attempts = s.attempts) : KeepsRows s t := by
  constructor
  · rw [tasks]
  · rw [attempts]

/-- One step after another. -/
theorem trans (first : KeepsRows s t) (second : KeepsRows t u) : KeepsRows s u := by
  constructor
  · exact second.tids.trans first.tids
  · exact second.attempts.trans first.attempts

/-- Writes to the tasks. -/
theorem of_writes (writes : s.WritesTasks t) : KeepsRows s t := by
  obtain ⟨tasks, events, tids, rfl⟩ := writes
  exact ⟨tids, rfl⟩

/-- Ends of attempts. -/
theorem of_ends (ends : s.EndsAttempts t) : KeepsRows s t := by
  obtain ⟨attempts, keys, rfl⟩ := ends
  exact ⟨rfl, keys⟩

/-- A notification of a success. -/
theorem notifySuccess (req : TaskResultNotifyReq) (task : HotmethodTask) (now : Int) :
    KeepsRows s (Job.notifySuccess s req task now).store := by
  unfold Job.notifySuccess Job.register
  split
  · exact of_ends .notify
  · split
    · split
      · exact (of_writes .upload).trans (of_ends .notify)
      · exact of_eq rfl rfl
    · exact (of_writes .advance).trans (of_ends .notify)

end KeepsRows

end MiniDrop
