import MiniDrop.Verif.TaskSteps
/-!
# What a job can do to a status

A job writes a status only under the guard of what it has read. For each job this says which status
writes are still to come from it, and how they come about. Everything about statuses over whole runs
is derived from these facts.
-/
namespace MiniDrop

open TaskStore List

variable {toStatus fromStatus : TaskStatus} {job : Job} {tid : String}

/-! ## The writes that are to come -/

/-- The status write of an error notification of a task. -/
def FailsTask (task : HotmethodTask) (tid : String) (fromStatus toStatus : TaskStatus) : Prop :=
  task.tid = tid ∧ task.status = fromStatus ∧ fromStatus ≠ .canceled ∧ fromStatus ≠ .failed ∧
    toStatus = .failed

/-- The status writes of a success notification of a task. -/
def FinishesTask (task : HotmethodTask) (tid : String) (fromStatus toStatus : TaskStatus) : Prop :=
  task.tid = tid ∧ (fromStatus = .running ∨ fromStatus = .uploading) ∧ toStatus = .done

/-- A write from the status that was read to one of some others. -/
def MovesTask (task : HotmethodTask) (targets : List TaskStatus) (tid : String)
    (fromStatus toStatus : TaskStatus) : Prop :=
  task.tid = tid ∧ task.status = fromStatus ∧ toStatus ∈ targets

/-- The status writes that a job, or what is left of it, may still make. -/
def Job.Writes : Job → String → TaskStatus → TaskStatus → Prop
  | .dispatching _ task _ => MovesTask task [.running, .failed]
  | .counted _ task _ _ _ => MovesTask task [.running, .failed]
  | .calling _ task _ => MovesTask task [.running, .failed]
  | .accepted _ task _ => MovesTask task [.running]
  | .callFailed _ task _ _ _ => MovesTask task [.failed]
  | .retrying _ task _ => MovesTask task [.failed]
  | .exhausted _ task _ => MovesTask task [.failed]
  | .abandoning task _ => MovesTask task [.failed]
  | .notified req task => if req.isError then FailsTask task else FinishesTask task
  | .notifyFailing _ task _ => FailsTask task
  | .notifyReread _ task => FinishesTask task
  | .notifyAdvance _ task => FinishesTask task
  | .movingParent parent aggregate _ => MovesTask parent [aggregate.status]
  | .canceling task _ => MovesTask task [.canceled]
  | .polled task _ => fun tid fromStatus toStatus =>
      task.tid = tid ∧ task.status = fromStatus ∧
        ((fromStatus = .running ∧ toStatus = .uploading) ∨
          (fromStatus = .uploading ∧ (toStatus = .done ∨ toStatus = .failed)))
  | _ => fun _ _ _ => False

/-- The status of a task stays, or the job makes one of its writes. -/
def StatusStep (s t : TaskStore) (writes : String → TaskStatus → TaskStatus → Prop) : Prop :=
  ∀ tid, t.statusOf tid = s.statusOf tid ∨
    ∃ fromStatus toStatus, writes tid fromStatus toStatus ∧ s.statusOf tid = some fromStatus ∧
      t.statusOf tid = some toStatus

section Steps

variable {s t : TaskStore} {writes : String → TaskStatus → TaskStatus → Prop}

/-- The rows stay. -/
theorem StatusStep.same (same : t.tasks = s.tasks) : StatusStep s t writes :=
  fun tid => .inl (statusOf_congr same tid)

/-- A transition that is allowed. -/
theorem StatusStep.transition (task : HotmethodTask) (toStatus : TaskStatus)
    (reason source : String) (extra : TaskStore.Extra) (now : Int)
    (allowed : ∀ tid, task.tid = tid → writes tid task.status toStatus) :
    StatusStep s (s.transitionTaskStatus task toStatus reason source extra now).1 writes := by
  intro tid
  rw [statusOf_transition]
  split
  · next moved => exact .inr ⟨task.status, toStatus, allowed tid moved.1, moved.2, rfl⟩
  · exact .inl rfl

/-- The rows stay afterwards. -/
theorem StatusStep.then (step : StatusStep s t writes) {u : TaskStore} (same : u.tasks = t.tasks) :
    StatusStep s u writes := by
  intro tid
  rw [statusOf_congr same tid]
  exact step tid

end Steps

namespace Job

variable {s : TaskStore}

/-- The transitions to the end take a task that runs or uploads to its end. -/
theorem statusOf_advanceToDone (task : HotmethodTask) (fromStatus : TaskStatus) (now : Int)
    (tid : String) :
    (advanceToDone s task fromStatus now).statusOf tid =
      if task.tid = tid ∧ (s.statusOf tid = some .running ∨ s.statusOf tid = some .uploading) then
        some .done
      else s.statusOf tid := by
  unfold advanceToDone
  simp only [moveStatus_took]
  by_cases unfinished : s.statusOf task.tid = some .running ∨ s.statusOf task.tid = some .uploading
  · rw [if_pos (by rcases unfinished with held | held <;> simp [held])]
    change (s.moveStatus task.tid [.running, .uploading] .done _ _).1.statusOf tid = _
    rw [statusOf_moveStatus]
    by_cases own : task.tid = tid
    · subst own
      rcases unfinished with held | held <;> simp [held]
    · simp [own, Ne.symm own]
  · rw [if_neg, if_neg]
    · rintro ⟨rfl, held⟩
      exact unfinished held
    · rw [guarded_iff]
      simpa using unfinished

/-- They write that the task is done. -/
theorem advanceToDone_status (task : HotmethodTask) (fromStatus : TaskStatus) (now : Int) :
    StatusStep s (advanceToDone s task fromStatus now) (FinishesTask task) := by
  intro tid
  rw [statusOf_advanceToDone]
  split
  · next moved =>
    obtain ⟨own, running | uploading⟩ := moved
    · exact .inr ⟨.running, .done, ⟨own, .inl rfl, rfl⟩, running, rfl⟩
    · exact .inr ⟨.uploading, .done, ⟨own, .inr rfl, rfl⟩, uploading, rfl⟩
  · exact .inl rfl

/-- An upload that is noted ends the task. -/
theorem statusOf_uploadAndFinish (task : HotmethodTask) (now : Int)
    (running : s.statusOf task.tid = some .running) (tid : String) :
    (uploadAndFinish s task now).statusOf tid =
      if task.tid = tid then some .done else s.statusOf tid := by
  have uploaded (other : String) :
      ((s.moveStatus task.tid [.running] .uploading uploadedInfo {}).1.addEvent task.tid
        (some .running) .uploading uploadedInfo "drop_server_notify" now).statusOf other =
      if task.tid = other then some .uploading else s.statusOf other := by
    change (s.moveStatus task.tid [.running] .uploading uploadedInfo {}).1.statusOf other = _
    rw [statusOf_moveStatus]
    by_cases own : task.tid = other
    · subst own
      simp [running]
    · simp [own, Ne.symm own]
  unfold uploadAndFinish
  rw [statusOf_advanceToDone, uploaded]
  by_cases own : task.tid = tid
  · simp [own]
  · simp [own]

/-- A notification of a success writes that its task is done. -/
theorem notifySuccess_status (req : TaskResultNotifyReq) (task : HotmethodTask) (now : Int) :
    StatusStep s (notifySuccess s req task now).store (FinishesTask task) := by
  have registered (t : TaskStore) : (register t req task now).store.tasks = t.tasks :=
    TaskStore.EndsAttempts.notify.tasks
  unfold notifySuccess
  split
  · exact StatusStep.same (registered s)
  · split
    · split
      · next running =>
        refine StatusStep.then (fun tid => ?_) (registered _)
        rw [statusOf_uploadAndFinish task now running]
        split
        · next own =>
          subst own
          exact .inr ⟨.running, .done, ⟨rfl, .inl rfl, rfl⟩, running, rfl⟩
        · exact .inl rfl
      · exact StatusStep.same rfl
    · exact StatusStep.then (advanceToDone_status task task.status now) (registered _)

/-- A notification of a failure writes that its task has failed. -/
theorem failTask_status (req : TaskResultNotifyReq) (task : HotmethodTask) (endTime : Int) :
    StatusStep s (failTask s req task endTime) (FailsTask task) := by
  unfold failTask
  cases read : task.status with
  | canceled => exact StatusStep.same rfl
  | failed =>
    intro tid
    left
    have keeps (row : HotmethodTask) :
        (if row.tid = task.tid then { row with analysisStatus := 3 } else row).tid = row.tid := by
      split <;> rfl
    simp only [statusOf, findTask_map _ keeps, Option.map_map]
    refine Option.map_congr fun row _ => ?_
    simp only [Function.comp_apply]
    split <;> rfl
  | created | running | done | uploading =>
    refine StatusStep.transition task _ _ _ _ _ fun tid own => ?_
    rw [read]
    exact ⟨own, read, by decide, by decide, rfl⟩

/-- The poller writes what it finds. -/
theorem pollTask_status (task : HotmethodTask) (now readAt : Int) (found : Bool) :
    StatusStep s (pollTask s task now found) (Job.polled task readAt).Writes := by
  rcases pollTask_cases s task now found with same | ⟨toStatus, reason, extra, same, targets⟩
  · rw [same]
    exact StatusStep.same rfl
  · rw [same]
    exact StatusStep.transition task _ _ _ _ _ fun tid own => ⟨own, rfl, targets⟩

/-! ## One step -/

/-- A job writes its target. -/
theorem writes_of_target {task : HotmethodTask}
    (writes : job.target = some (task, toStatus)) : job.Writes task.tid task.status toStatus := by
  cases job with
  | accepted | exhausted | abandoning | movingParent | canceling =>
    cases writes
    exact ⟨rfl, rfl, mem_singleton_self _⟩
  | _ => cases writes

/-- **Every step of a job** writes what the job may write. -/
theorem run_status (s : TaskStore) (job : Job) (input : StepInput) :
    StatusStep s (run s job input).store job.Writes := by
  have stored := (run_does s job input).stores
  generalize (run s job input).store = t at stored ⊢
  cases stored with
  | kept _ tasks => exact .same tasks
  | recorded _ _ _ _ _ tasks => exact .same tasks
  | inserted _ _ row => exact .same ((insertAttempt_beside row).1)
  | callEnded => exact .same TaskStore.EndsAttempts.call.tasks
  | exhausted | canceled => exact .same TaskStore.EndsAttempts.latest.tasks
  | moved _ _ _ _ writes => exact .transition _ _ _ _ _ _ fun _ own => own ▸ writes_of_target writes
  | refused | registered => exact .same TaskStore.EndsAttempts.notify.tasks
  | notified task success =>
    rw [Job.Writes, if_neg success]
    exact notifySuccess_status _ task input.now
  | failing req task endTime => exact failTask_status req task endTime
  | advanced _ task =>
    exact (advanceToDone_status task .uploading input.now).then TaskStore.EndsAttempts.notify.tasks
  | polled task now => exact pollTask_status task now now input.found

/-- A write that a job read the grounds for in this step: an entry found its task waiting, or the
parent of a composite task has another status. -/
def ReadsFor (s : TaskStore) (job : Job) (tid : String) (fromStatus toStatus : TaskStatus) : Prop :=
  s.statusOf tid = some fromStatus ∧
    (((∃ entry, job = .claimed entry) ∧ fromStatus = .created ∧
        toStatus ∈ [TaskStatus.running, .failed]) ∨
      ∃ mt aggregate reply, job = .readingParent mt aggregate reply ∧ mt.tid = tid ∧
        toStatus = aggregate.status ∧ fromStatus ≠ toStatus)

/-- The writes of what is left of a job are its own, or it has just read the grounds for them. -/
theorem run_writes {rest : Job} {input : StepInput} (mem : rest ∈ (run s job input).next)
    (writes : rest.Writes tid fromStatus toStatus) :
    job.Writes tid fromStatus toStatus ∨ ReadsFor s job tid fromStatus toStatus := by
  cases next_of_mem mem with
  | @found entry task trigger read waiting =>
    obtain ⟨own, same, target⟩ := writes
    have held := statusOf_of_findTask read
    rw [← findTask_tid read, own, same] at held
    exact .inr ⟨held, .inl ⟨⟨entry, rfl⟩, same.symm.trans waiting, target⟩⟩
  | @differs mt aggregate parent reply read other =>
    obtain ⟨own, same, target⟩ := writes
    have moved : toStatus = aggregate.status := mem_singleton.mp target
    have parentTID := findTask_tid read
    have held := statusOf_of_findTask read
    rw [← parentTID, own, same] at held
    refine .inr ⟨held, .inr ⟨mt, aggregate, reply, rfl, parentTID.symm.trans own, moved, ?_⟩⟩
    rw [moved, ← same]
    exact other
  | givenUp | refused | unconnected | failed =>
    obtain ⟨own, same, target⟩ := writes
    exact .inl ⟨own, same, mem_cons_of_mem _ target⟩
  | accepted =>
    obtain ⟨own, same, target⟩ := writes
    exact .inl ⟨own, same, mem_cons.mpr (.inl (mem_singleton.mp target))⟩
  | counted | inserted | retried | exhausted | uploading => exact .inl writes
  | failing _ _ isError =>
    left
    rw [Job.Writes, if_pos isError]
    exact writes
  | missed success =>
    left
    rw [Job.Writes, if_neg success]
    exact writes
  | _ => exact writes.elim

end Job

/-! ## New jobs -/

/-- A status goes forward: to the next one or to a terminal one. -/
def Forward (fromStatus toStatus : TaskStatus) : Prop :=
  isTerminalTaskStatus toStatus = true ∨ (fromStatus = .created ∧ toStatus = .running) ∨
    (fromStatus = .running ∧ toStatus = .uploading)

variable {s t : TaskStore} {rows : List HotmethodTask} {tid : String} {status : TaskStatus}
  {writes : String → TaskStatus → TaskStatus → Prop}

/-- New rows change no status. -/
theorem TaskStore.statusOf_grow (grown : t.tasks = s.tasks ++ rows)
    (held : s.statusOf tid = some status) : t.statusOf tid = some status := by
  unfold statusOf findTask at held ⊢
  obtain ⟨row, found, same⟩ := Option.map_eq_some_iff.mp held
  rw [grown, find?_append, found, Option.some_or, Option.map_some, same]

namespace TaskAction

variable {s : TaskStore} {action : TaskAction} {out : JobOutcome}

/-- The writes of a new job go forward. They are from a status that is not terminal, except for an
error notification that finds its task done. -/
theorem enter_writes (entered : action.enter s = some out) (mem : job ∈ out.next)
    (writes : job.Writes tid fromStatus toStatus) :
    Forward fromStatus toStatus ∧ (isTerminalTaskStatus fromStatus = false ∨
        ∃ req, action = .notify req ∧ req.isError = true ∧ req.taskID = tid ∧
          s.statusOf tid = some .done) := by
  cases enters_of_mem entered mem with
  | created | expanded | claimed | listed => exact writes.elim
  | orphaned row waiting =>
    obtain ⟨-, rfl, target⟩ := writes
    rw [waiting]
    rcases mem_cons.mp target with rfl | target
    · exact ⟨.inr (.inl ⟨rfl, rfl⟩), .inl rfl⟩
    · rw [mem_singleton.mp target]
      exact ⟨.inl rfl, .inl rfl⟩
  | unreadable now reason waiting =>
    obtain ⟨-, rfl, target⟩ := writes
    rw [waiting, mem_singleton.mp target]
    exact ⟨.inl rfl, .inl rfl⟩
  | @notified req task read =>
    rw [Job.Writes] at writes
    split at writes
    · next isError =>
      obtain ⟨own, same, uncanceled, unfailed, rfl⟩ := writes
      have requested := findTask_tid read
      refine ⟨.inl rfl, ?_⟩
      cases fromStatus with
      | created | running | uploading => exact .inl rfl
      | canceled => exact absurd rfl uncanceled
      | failed => exact absurd rfl unfailed
      | done =>
        refine .inr ⟨req, rfl, isError, requested.symm.trans own, ?_⟩
        rw [← own, requested, statusOf_of_findTask read, same]
    · obtain ⟨-, running | uploading, rfl⟩ := writes
      · exact ⟨.inl rfl, .inl (by rw [running]; rfl)⟩
      · exact ⟨.inl rfl, .inl (by rw [uploading]; rfl)⟩
  | canceling now read unfinished =>
    obtain ⟨-, rfl, target⟩ := writes
    rw [mem_singleton.mp target]
    exact ⟨.inl rfl, .inl unfinished⟩
  | polled =>
    obtain ⟨-, -, ⟨running, rfl⟩ | ⟨uploading, rfl | rfl⟩⟩ := writes
    · exact ⟨.inr (.inr ⟨running, rfl⟩), .inl (by rw [running]; rfl)⟩
    · exact ⟨.inl rfl, .inl (by rw [uploading]; rfl)⟩
    · exact ⟨.inl rfl, .inl (by rw [uploading]; rfl)⟩

end TaskAction

/-! ## How far a task has come -/

/-- How far a status has come: waiting, running, uploading, at its end. -/
def TaskStatus.rank : TaskStatus → Nat
  | .created => 1
  | .running => 2
  | .uploading => 3
  | .done | .failed | .canceled => 4

/-- The ends have the highest rank. -/
theorem TaskStatus.rank_terminal (terminal : isTerminalTaskStatus status = true) :
    status.rank = 4 := by
  cases status with
  | done | failed | canceled => rfl
  | created | running | uploading => cases terminal

/-- There is no higher rank. -/
theorem TaskStatus.rank_le (status : TaskStatus) : status.rank ≤ 4 := by
  cases status <;> decide

/-- A forward write lowers no rank. -/
theorem Forward.rank_le (forward : Forward fromStatus toStatus) :
    fromStatus.rank ≤ toStatus.rank := by
  rcases forward with terminal | ⟨rfl, rfl⟩ | ⟨rfl, rfl⟩
  · rw [TaskStatus.rank_terminal terminal]
    exact fromStatus.rank_le
  · decide
  · decide

/-- How far a task has come; nowhere, if there is none. -/
def TaskStore.progress (s : TaskStore) (tid : String) : Nat :=
  ((s.statusOf tid).map TaskStatus.rank).getD 0

/-- The progress of a task is the rank of its status. -/
theorem TaskStore.progress_of_status
    (held : s.statusOf tid = some status) : s.progress tid = status.rank := by
  rw [progress, held, Option.map_some, Option.getD_some]

/-- A task with some progress has a status. -/
theorem TaskStore.status_of_progress (somewhere : 0 < s.progress tid) :
    ∃ status, s.statusOf tid = some status ∧ s.progress tid = status.rank := by
  cases held : s.statusOf tid with
  | none =>
    rw [progress, held] at somewhere
    exact absurd somewhere (Nat.lt_irrefl 0)
  | some status => exact ⟨status, rfl, progress_of_status held⟩

section

variable (step : StatusStep s t writes)
include step

/-- Forward writes lower no progress. -/
theorem StatusStep.progress_le
    (forward : ∀ fromStatus toStatus, writes tid fromStatus toStatus →
      Forward fromStatus toStatus) :
    s.progress tid ≤ t.progress tid := by
  rcases step tid with same | ⟨fromStatus, toStatus, written, before, after⟩
  · rw [progress, progress, same]
  · rw [progress_of_status before, progress_of_status after]
    exact (forward fromStatus toStatus written).rank_le

/-- No write loses a task. -/
theorem StatusStep.progress_pos (present : 0 < s.progress tid) : 0 < t.progress tid := by
  rcases step tid with same | ⟨fromStatus, toStatus, -, -, after⟩
  · rw [progress, same]
    exact present
  · rw [progress_of_status after]
    cases toStatus <;> decide

/-- A task that does not wait any more never waits again, if no write is to that status. -/
theorem StatusStep.progress_started
    (onward : ∀ fromStatus toStatus, writes tid fromStatus toStatus → toStatus ≠ .created)
    (started : 1 < s.progress tid) : 1 < t.progress tid := by
  rcases step tid with same | ⟨fromStatus, toStatus, written, -, after⟩
  · rw [progress, same]
    exact started
  · rw [progress_of_status after]
    cases toStatus with
    | created => exact absurd rfl (onward fromStatus .created written)
    | running | uploading | done | failed | canceled => decide

end

/-- New rows lower no progress. -/
theorem TaskStore.progress_grow
    (grown : t.tasks = s.tasks ++ rows) (tid : String) : s.progress tid ≤ t.progress tid := by
  cases held : s.statusOf tid with
  | none =>
    rw [progress, held]
    exact Nat.zero_le _
  | some =>
    have after := statusOf_grow grown held
    rw [progress_of_status held, progress_of_status after]

/-! ## Sample runs -/

namespace TaskWorld

/-- The steps of a job at a position. -/
def steps (index count : Nat) : List TaskAction := replicate count (.advance index {})

/-- A task is created and claimed, and read as waiting. -/
def claimed : List TaskAction := [.create { tid := "t" } 0, .claim 20 [] 0, .advance 1 {}]

/-- It is handed out, until its attempt is to be called. -/
def handedOut : List TaskAction := claimed ++ steps 1 2

/-- The attempt has stored its samples. -/
def stored : TaskResultNotifyReq := { taskID := "t", cosKey := "t/perf.data" }

end TaskWorld

end MiniDrop
