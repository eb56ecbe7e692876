import MiniDrop.Verif.TaskStatus
/-!
# Accepted results

A success notification that is answered has brought its task to an end. That fails in two ways: the
notification has read the task before its dispatcher has written that it runs, and makes its own
write before that too; or an error notification has read the task as done in between and has its
write still to make. In runs without either, a task whose success was answered does not fail without
another error notification.
-/
namespace MiniDrop

open Job TaskStore Base List TaskWorld TaskAction

variable {fromStatus toStatus : TaskStatus}

/-! ## What a success notification does to its task -/

variable {s : TaskStore}

/-- A status that a task has come to and does not have is passed, unless it is an end. -/
theorem progress_passed {tid : String} {status : TaskStatus}
    (reached : status.rank ≤ s.progress tid) (moved : s.statusOf tid ≠ some status)
    (going : status.rank < 4) : status.rank < s.progress tid := by
  have positive : 0 < status.rank := by cases status <;> decide
  obtain ⟨now, held, rank⟩ := status_of_progress (by omega : 0 < s.progress tid)
  refine lt_of_le_of_ne reached fun same => moved (held.trans (congrArg some ?_))
  rw [rank] at same
  cases status <;> cases now <;>
    first | rfl | exact absurd same (by decide) | exact absurd going (by decide)

/-- The second status write of a success notification ends a task that runs or uploads. -/
theorem Job.advanceToDone_progress (task : HotmethodTask) (fromStatus : TaskStatus)
    (now : Int) (working : 2 ≤ s.progress task.tid) :
    (advanceToDone s task fromStatus now).progress task.tid = 4 := by
  have after := statusOf_advanceToDone (s := s) task fromStatus now task.tid
  obtain ⟨status, held, rank⟩ := status_of_progress (by omega : 0 < s.progress task.tid)
  cases status with
  | created =>
    have low : s.progress task.tid = 1 := rank
    omega
  | running | uploading =>
    rw [held, if_pos ⟨rfl, by simp⟩] at after
    exact progress_of_status after
  | done | failed | canceled =>
    rw [held, if_neg (by simp)] at after
    exact progress_of_status after

/-- What a success notification does after its status writes leaves the task where it is. -/
theorem Job.register_progress (s : TaskStore) (req : TaskResultNotifyReq) (task : HotmethodTask)
    (now : Int) (tid : String) : (register s req task now).store.progress tid = s.progress tid := by
  have same : (register s req task now).store.tasks = s.tasks :=
    TaskStore.EndsAttempts.notify.tasks
  rw [progress, progress, statusOf_congr same]

/-- A success notification that does not miss its first write ends its task, unless that is still
waiting. -/
theorem Job.notifySuccess_progress (req : TaskResultNotifyReq) {task : HotmethodTask}
    (now : Int) (known : task.status.rank ≤ s.progress task.tid)
    (unmoved : task.status = .running → s.statusOf task.tid = some .running)
    (started : task.status = .created → s.statusOf task.tid ≠ some .created) :
    (notifySuccess s req task now).store.progress task.tid = 4 := by
  have most : s.progress task.tid ≤ 4 := by
    unfold progress
    cases s.statusOf task.tid with
    | none => exact Nat.zero_le 4
    | some status => exact status.rank_le
  unfold notifySuccess
  split
  · next done =>
    rw [register_progress]
    rw [done] at known
    have end_le : 4 ≤ s.progress task.tid := known
    omega
  · split
    · next running =>
      rw [if_pos (unmoved running), register_progress]
      have done := statusOf_uploadAndFinish task now (unmoved running) task.tid
      rw [if_pos rfl] at done
      exact progress_of_status done
    · rw [register_progress]
      apply advanceToDone_progress
      -- Only a task that was read as waiting could still be waiting.
      cases read : task.status with
      | created =>
        rw [read] at known
        exact progress_passed known (started read) (by decide)
      | running | uploading | done | failed | canceled =>
        rw [read] at known
        exact le_trans (by decide) known

/-! ## What the jobs know -/

namespace Job

/-- The composite task whose row a job has read. -/
def parentTID : Job → Option String
  | .aggregating mt _ => some mt.tid
  | .saving mt _ _ => some mt.tid
  | .readingParent mt _ _ => some mt.tid
  | .movingParent parent _ _ => some parent.tid
  | _ => none

/-- The task whose success notification is to be answered. -/
def reply : Job → Option String
  | .refreshing _ reply => reply
  | .aggregating _ reply => reply
  | .saving _ _ reply => reply
  | .readingParent _ _ reply => reply
  | .movingParent _ _ reply => reply
  | .answering reply => reply
  | _ => none

/-- A success notification of a task knows that it has come so far at least. -/
def floor (tid : String) : Job → Nat
  | .notified req task => if ¬req.isError = true ∧ task.tid = tid then task.status.rank else 0
  | .notifyReread _ task => if task.tid = tid then 3 else 0
  | .notifyAdvance _ task => if task.tid = tid then 3 else 0
  | .notifySkip _ task => if task.tid = tid then 4 else 0
  | job => if job.reply = some tid then 4 else 0

/-- An error notification of a task has read it as done and has its status write still to make. -/
def failsDone (tid : String) : Job → Bool
  | .notified req task => req.isError && decide (task.tid = tid ∧ task.status = .done)
  | .notifyFailing _ task _ => decide (task.tid = tid ∧ task.status = .done)
  | _ => false

variable {s : TaskStore} {input : StepInput} {job rest : Job} {tid : String}

/-- A success notification that is about to be answered knows that its task is at its end. -/
theorem floor_answering (tid : String) : (answering (some tid)).floor tid = 4 := by
  simp [floor, reply]

variable (follows : Next s input job rest)
include follows

theorem Next.parentTID_ne (plain : ∀ mt ∈ s.multiTasks, mt.tid ≠ tid)
    (apart : job.parentTID ≠ some tid) : rest.parentTID ≠ some tid := by
  cases follows with
  | composite parent reply row => exact fun same => plain _ row (Option.some.inj same)
  | aggregated | saved => exact apart
  | differs reply read =>
    intro same
    apply apart
    rw [← same]
    exact congrArg some (findTask_tid read).symm
  | _ => exact fun same => nomatch same

/-- A status write from the end is one of an error notification that has read the task as done. -/
theorem Next.failsDone_of_writes (fails : job.failsDone tid = true)
    (writes : rest.Writes tid fromStatus toStatus) : rest.failsDone tid = true := by
  cases follows with
  | @failing req task endTime isError =>
    rw [failsDone, isError, Bool.true_and] at fails
    exact fails
  | missed success => simp [failsDone, success] at fails
  | registered | refreshed => exact writes.elim
  | _ => cases fails

theorem Next.failsDone_before (fails : rest.failsDone tid = true) : job.failsDone tid = true := by
  cases follows with
  | failing task endTime isError =>
    rw [failsDone, isError, Bool.true_and]
    exact fails
  | _ => cases fails

/-- What is left of a success notification still knows how far its task has come. -/
theorem Next.floor_le (known : job.floor tid ≤ s.progress tid)
    (onward : s.progress tid ≤ (run s job input).store.progress tid)
    (started : ∀ req task, job = .notified req task → ¬req.isError = true → task.tid = tid →
      task.status = .created → s.statusOf tid ≠ some .created) :
    rest.floor tid ≤ (run s job input).store.progress tid := by
  cases follows with
  | @missed req task success running moved =>
    by_cases own : task.tid = tid
    · subst own
      rw [floor, if_pos ⟨success, rfl⟩, running] at known
      rw [floor, if_pos rfl]
      exact le_trans (progress_passed known moved (by decide)) onward
    · rw [floor, if_neg own]
      exact Nat.zero_le _
  | @registered req task success commits unmoved =>
    by_cases own : task.tid = tid
    · subst own
      rw [floor, if_pos ⟨success, rfl⟩] at known
      have done := notifySuccess_progress req input.now known unmoved
        (started req task rfl success rfl)
      have ran : (run s (.notified req task) input).store =
          (notifySuccess s req task input.now).store := by
        rw [run, notify, if_neg success, if_pos commits]
      rw [ran, done]
      simp [floor, reply]
    · simp [floor, reply, own]
  | @uploading req task reread =>
    exact le_trans known onward
  | @ended req task reread =>
    by_cases own : task.tid = tid
    · subst own
      rw [floor, if_pos rfl] at known
      rw [floor, if_pos rfl]
      have reached : TaskStatus.uploading.rank ≤ s.progress task.tid := known
      exact le_trans (progress_passed reached reread (by decide)) onward
    · rw [floor, if_neg own]
      exact Nat.zero_le _
  | @advanced req task commits =>
    by_cases own : task.tid = tid
    · subst own
      rw [floor, if_pos rfl] at known
      have done := advanceToDone_progress (s := s) task .uploading input.now (by omega)
      have ran : (run s (.notifyAdvance req task) input).store =
          (register (advanceToDone s task .uploading input.now) req task input.now).store := by
        rw [run, if_pos commits]
      rw [ran, register_progress, done]
      simp [floor, reply]
    · simp [floor, reply, own]
  | @kept req task =>
    by_cases own : task.tid = tid
    · subst own
      rw [floor, if_pos rfl] at known
      have most : (refreshing task.masterTaskTID (some task.tid)).floor task.tid ≤ 4 := by
        simp [floor, reply]
      omega
    · simp [floor, reply, own]
  | alone | composite | aggregated | saved | same | differs | moved => exact le_trans known onward
  | _ => simp [floor, reply]

end Job

/-! ## Whole runs -/

/-- A success notification of a task was answered while the task was neither canceled nor failed,
and no error notification was received since then. -/
def ResultAccepted (tid : String) (log : List TaskEvent) : Prop :=
  ∃ later status earlier, log = later ++ .successAnswered tid (some status) :: earlier ∧
    status ≠ .canceled ∧ status ≠ .failed ∧ .errorNotified tid ∉ later

/-- With one more event in the log, the success was answered just now or before. -/
theorem ResultAccepted.of_cons {tid : String} {event : TaskEvent} {log : List TaskEvent}
    (accepted : ResultAccepted tid (event :: log)) :
    (∃ status, event = .successAnswered tid (some status) ∧ status ≠ .canceled ∧ status ≠ .failed) ∨
      (event ≠ .errorNotified tid ∧ ResultAccepted tid log) := by
  obtain ⟨later, status, earlier, same, uncanceled, unfailed, since⟩ := accepted
  cases later with
  | nil =>
    have first : event = .successAnswered tid (some status) := (cons.inj same).1
    exact Or.inl ⟨status, first, uncanceled, unfailed⟩
  | cons latest later =>
    obtain ⟨rfl, rest⟩ := cons.inj same
    right
    constructor
    · rintro rfl
      exact since mem_cons_self
    · exact ⟨later, status, earlier, rest, uncanceled, unfailed,
        fun mem => since (mem_cons_of_mem _ mem)⟩

namespace TaskWorld

/-- A success notification makes no status write while its task is still waiting, and is not
answered while an error notification that has read the task as done has its write still to make. -/
def Notifies (tid : String) (w : TaskWorld) : Job → Prop
  | .notified req task => ¬req.isError = true → task.tid = tid → task.status = .created →
      w.store.statusOf tid ≠ some .created
  | .answering answered => answered = some tid → ∀ job ∈ w.jobs, job.failsDone tid = false
  | _ => True

instance (tid : String) (w : TaskWorld) (job : Job) : Decidable (w.Notifies tid job) := by
  induction job using Job.casesOn <;> dsimp only [Notifies] <;> infer_instance

/-- The task is not a composite one, no success notification makes its status write while its task
is still waiting, and none is answered while an error notification that has read the task as done
has its status write still to make. -/
def Heeds (tid : String) (w : TaskWorld) (action : TaskAction) : Prop :=
  (∀ mt ∈ w.store.multiTasks, mt.tid ≠ tid) ∧
    match action with
    | .advance index _ => ∀ job ∈ w.jobs[index]?, w.Notifies tid job
    | _ => True

instance (tid : String) (w : TaskWorld) (action : TaskAction) : Decidable (w.Heeds tid action) := by
  induction action using TaskAction.casesOn <;> dsimp only [Heeds] <;> infer_instance

/-- What holds in every run that heeds a task. -/
structure Heeded (tid : String) (w : TaskWorld) : Prop where
  /-- No job works on the task as a composite one. -/
  apart : ∀ job ∈ w.jobs, job.parentTID ≠ some tid
  /-- The status writes to come go forward. -/
  forward : ∀ job ∈ w.jobs, ∀ fromStatus toStatus, job.Writes tid fromStatus toStatus →
    Forward fromStatus toStatus
  /-- Only error notifications that have read the task as done write from the end. -/
  final : ∀ job ∈ w.jobs, ∀ fromStatus toStatus, job.Writes tid fromStatus toStatus →
    isTerminalTaskStatus fromStatus = true → job.failsDone tid = true
  /-- The task has come as far as its success notifications know. -/
  known : ∀ job ∈ w.jobs, job.floor tid ≤ w.store.progress tid
  /-- A task whose result was accepted is done and nothing is under way that fails it. -/
  kept : ResultAccepted tid w.log →
    w.store.statusOf tid = some .done ∧ ∀ job ∈ w.jobs, job.failsDone tid = false

variable {tid : String} {w : TaskWorld} {job : Job} {input : StepInput} {action : TaskAction}

section

variable (heeded : Heeded tid w)
include heeded

/-- The writes of what is left of a job go forward, and are from the end only as before. -/
theorem Heeded.writes_next {rest : Job} (mem : job ∈ w.jobs)
    (left : rest ∈ (run w.store job input).next) (writes : rest.Writes tid fromStatus toStatus) :
    Forward fromStatus toStatus ∧
      (isTerminalTaskStatus fromStatus = true → rest.failsDone tid = true) := by
  rcases run_writes left writes with own | ⟨-, ⟨-, rfl, target⟩ | reads⟩
  · have forward := heeded.forward job mem fromStatus toStatus own
    refine ⟨forward, fun terminal => ?_⟩
    have fails := heeded.final job mem fromStatus toStatus own terminal
    exact (next_of_mem left).failsDone_of_writes fails writes
  · refine ⟨?_, fun terminal => by cases terminal⟩
    rcases mem_cons.mp target with rfl | target
    · exact Or.inr (Or.inl ⟨rfl, rfl⟩)
    · rw [mem_singleton.mp target]
      exact Or.inl rfl
  · obtain ⟨mt, aggregate, reply, rfl, own, -⟩ := reads
    exact absurd (congrArg some own) (heeded.apart _ mem)

/-- A done task that nothing under way fails stays so through the steps of jobs. -/
theorem Heeded.done_next (input : StepInput) (mem : job ∈ w.jobs)
    (done : w.store.statusOf tid = some .done)
    (safe : ∀ other ∈ w.jobs, other.failsDone tid = false) :
    (run w.store job input).store.statusOf tid = some .done ∧
      ∀ rest ∈ (run w.store job input).next, rest.failsDone tid = false := by
  constructor
  · rcases run_status w.store job input tid with same | ⟨fromStatus, toStatus, writes, read, -⟩
    · exact same.trans done
    · have own : fromStatus = .done := Option.some.inj (read.symm.trans done)
      have fails := heeded.final job mem fromStatus toStatus writes (by rw [own]; rfl)
      rw [safe job mem] at fails
      cases fails
  · intro rest left
    apply Bool.eq_false_iff.mpr
    intro fails
    have before := (next_of_mem left).failsDone_before fails
    rw [safe job mem] at before
    cases before

theorem Heeded.advance {index : Nat}
    (heeds : w.Heeds tid (.advance index input)) {before after : List Job}
    (found : w.jobs[index]? = some job) (jobs : w.jobs = before ++ job :: after) :
    Heeded tid (w.between before after (run w.store job input)) := by
  obtain ⟨plain, notifies⟩ := heeds
  have mem : job ∈ w.jobs := jobs ▸ mem_append_right _ mem_cons_self
  have onward : w.store.progress tid ≤ (run w.store job input).store.progress tid :=
    (run_status w.store job input).progress_le (heeded.forward job mem)
  constructor
  · exact Pool.forall_replaced jobs heeded.apart fun rest left =>
      (next_of_mem left).parentTID_ne plain (heeded.apart job mem)
  · exact Pool.forall_replaced jobs heeded.forward fun rest left _ _ writes =>
      (heeded.writes_next mem left writes).1
  · exact Pool.forall_replaced jobs heeded.final fun rest left _ _ writes =>
      (heeded.writes_next mem left writes).2
  · refine Pool.forall_replaced jobs
      (fun other old => le_trans (heeded.known other old) onward) fun rest left => ?_
    apply (next_of_mem left).floor_le (heeded.known job mem) onward
    intro req task same
    exact notifies (.notified req task) (same ▸ found)
  · intro accepted
    have all (done : w.store.statusOf tid = some .done)
        (safe : ∀ other ∈ w.jobs, other.failsDone tid = false) :
        (run w.store job input).store.statusOf tid = some .done ∧
          ∀ other ∈ before ++ (run w.store job input).next ++ after,
            other.failsDone tid = false := by
      have next := heeded.done_next input mem done safe
      exact ⟨next.1, Pool.forall_replaced jobs safe next.2⟩
    rcases (run_does w.store job input).events with nothing | ⟨event, told, tells⟩
    · dsimp only at accepted
      rw [nothing, nil_append] at accepted
      exact all (heeded.kept accepted).1 (heeded.kept accepted).2
    · dsimp only at accepted
      rw [told, singleton_append] at accepted
      rcases accepted.of_cons with ⟨status, rfl, uncanceled, unfailed⟩ | ⟨-, earlier⟩
      · -- The success is answered in this step: its task is at its end, and so it is done.
        obtain ⟨answering, now⟩ := tells.of_success
        have reached := heeded.known job mem
        rw [answering, floor_answering, progress_of_status now.symm] at reached
        have done : status = .done := by
          cases status with
          | done => rfl
          | canceled => exact absurd rfl uncanceled
          | failed => exact absurd rfl unfailed
          | created | running | uploading => exact absurd reached (by decide)
        exact all (done ▸ now.symm) (notifies (.answering (some tid)) (answering ▸ found) rfl)
      · exact all (heeded.kept earlier).1 (heeded.kept earlier).2

theorem Heeded.enter {out : JobOutcome}
    (entered : action.enter w.store = some out) : Heeded tid (w.enter out) := by
  obtain ⟨rows, adds⟩ := enter_adds entered
  have onward := progress_grow adds.tasks tid
  constructor
  · refine Pool.forall_enter heeded.apart fun job new => ?_
    cases enters_of_mem entered new <;> exact fun same => nomatch same
  · exact Pool.forall_enter heeded.forward fun job new _ _ writes =>
      (enter_writes entered new writes).1
  · refine Pool.forall_enter heeded.final fun job new fromStatus toStatus writes terminal => ?_
    rcases (enter_writes entered new writes).2 with unfinished | ⟨req, rfl, isError, -, -⟩
    · rw [unfinished] at terminal
      cases terminal
    · cases enters_of_mem entered new with
      | @notified _ task read =>
        rw [Job.Writes, if_pos isError] at writes
        obtain ⟨own, same, uncanceled, unfailed, -⟩ := writes
        have read_done : task.status = .done := by
          rw [same]
          cases fromStatus with
          | done => rfl
          | canceled => exact absurd rfl uncanceled
          | failed => exact absurd rfl unfailed
          | created | running | uploading => cases terminal
        rw [failsDone, isError, Bool.true_and, decide_eq_true_eq]
        exact ⟨own, read_done⟩
  · refine Pool.forall_enter (fun job old => le_trans (heeded.known job old) onward) fun job new =>
      ?_
    cases enters_of_mem entered new with
    | @notified req task read =>
      by_cases own : task.tid = tid
      · have held := statusOf_of_findTask read
        rw [← findTask_tid read, own] at held
        refine le_trans ?_ onward
        rw [floor, progress_of_status held]
        split
        · exact le_refl _
        · exact Nat.zero_le _
      · simp [floor, own]
    | _ => simp [floor, reply]
  · intro accepted
    have before : ResultAccepted tid w.log ∧ .errorNotified tid ∉ out.events := by
      change ResultAccepted tid (out.events ++ w.log) at accepted
      rcases adds.told with nothing | ⟨other, told⟩
      · rw [nothing] at accepted ⊢
        exact ⟨accepted, not_mem_nil⟩
      · rw [told] at accepted ⊢
        rcases accepted.of_cons with ⟨status, same, -⟩ | ⟨differs, earlier⟩
        · cases same
        · exact ⟨earlier, fun listed => differs (mem_singleton.mp listed).symm⟩
    have kept := heeded.kept before.1
    refine ⟨statusOf_grow adds.tasks kept.1,
      Pool.forall_enter kept.2 fun job new => Bool.eq_false_iff.mpr fun fails => ?_⟩
    -- A new error notification of the task would be in the log.
    cases enters_of_mem entered new with
    | @notified req task read =>
      rw [failsDone, Bool.and_eq_true, decide_eq_true_eq] at fails
      apply before.2
      simp only [TaskAction.enter, read, fails.1, if_true] at entered
      cases entered
      rw [fails.2.1]
      exact mem_singleton_self _
    | _ => cases fails

theorem Heeded.step {next : TaskWorld}
    (heeds : w.Heeds tid action) (taken : step w action = some next) : Heeded tid next := by
  rcases step_cases taken with
    ⟨index, input, before, job, after, rfl, found, jobs, rfl⟩ | ⟨out, entered, rfl⟩
  · exact heeded.advance heeds found jobs
  · exact heeded.enter entered

end

/-- In a run that heeds a task, from any tables and with no job under way at first, the task does
not fail after its result was accepted. -/
theorem accepted_result_kept (start : TaskStore) {tid : String} {actions : List TaskAction}
    {w : TaskWorld} (heeds : Along step (Heeds tid) { store := start } actions)
    (reached : run step { store := start } actions = some w)
    (accepted : ResultAccepted tid w.log) : w.store.statusOf tid ≠ some .failed := by
  have start_heeded : Heeded tid { store := start } := by
    constructor
    · exact forall_mem_nil _
    · exact forall_mem_nil _
    · exact forall_mem_nil _
    · exact forall_mem_nil _
    · rintro ⟨later, status, earlier, same, -⟩
      cases later <;> cases same
  have heeded : Heeded tid w := run_invariant_along
    (fun _ _ _ held allowed taken => held.step allowed taken) start_heeded heeds reached
  rw [(heeded.kept accepted).1]
  decide

/-- The attempt is accepted, and after that a success notification is answered. -/
def resultAfterCall : List TaskAction :=
  handedOut ++ steps 1 2 ++ [.notify stored] ++ steps 2 3 ++ [.poll 99000, .cancel "t" 99000]

/-- The accepted result stays. -/
theorem result_after_call_kept :
    (run step { store := {} } resultAfterCall).map (·.log) =
        some [.successAnswered "t" (some .done), .attemptAccepted "t" 1] ∧
      ∀ w, run step { store := {} } resultAfterCall = some w →
        ResultAccepted "t" w.log → w.store.statusOf "t" ≠ some .failed :=
  ⟨by decide, fun _ reached accepted => accepted_result_kept {}
    (along_of_decide (by decide)) reached accepted⟩

/-- A call times out after the attempt was accepted, and the entry of the outbox is tried again. -/
def timedOut : List TaskAction :=
  [.advance 1 { grpc := .timedOut "deadline exceeded" }] ++ steps 1 2

/-- The next attempt is to be called. -/
def claimedAgain (now : Int) : List TaskAction :=
  [.claim 20 [] now] ++ steps 1 3

/-- The success notification of an attempt whose call times out is answered before the entry is
tried again, and the later calls time out too. -/
def resultBeforeRetries : List TaskAction :=
  handedOut ++ [.advance 1 { grpc := .timedOut "deadline exceeded" }, .notify stored] ++
    steps 2 3 ++ steps 1 2 ++ claimedAgain 10000 ++ timedOut ++ claimedAgain 20000 ++ timedOut ++
    [.advance 1 {}]

/-- An error notification reads the task as done, and makes its write after the success notification
was answered. -/
def errorBeforeAnswer : List TaskAction :=
  handedOut ++ steps 1 2 ++ [.notify stored, .advance 2 {},
    .notify { taskID := "t", errorMessage := "exit 1" }] ++ steps 2 4

/-- An accepted result is lost after retries, and to an error notification that was received before
its answer. -/
theorem accepted_result_lost :
    (∃ w, run step { store := {} } resultBeforeRetries = some w ∧
        ResultAccepted "t" w.log ∧ w.store.statusOf "t" = some .failed) ∧
      ∃ w, run step { store := {} } errorBeforeAnswer = some w ∧
        ResultAccepted "t" w.log ∧ w.store.statusOf "t" = some .failed := by
  have retried : (run step { store := {} } resultBeforeRetries).map
      (fun w => (w.log, w.store.statusOf "t")) =
        some ([.attemptAccepted "t" 3, .attemptAccepted "t" 2, .successAnswered "t" (some .created),
          .attemptAccepted "t" 1], some .failed) := by decide
  have crossed : (run step { store := {} } errorBeforeAnswer).map
      (fun w => (w.log, w.store.statusOf "t")) =
        some ([.successAnswered "t" (some .done), .errorNotified "t", .attemptAccepted "t" 1],
          some .failed) := by decide
  obtain ⟨first, firstReached, firstLog⟩ := Option.map_eq_some_iff.mp retried
  obtain ⟨second, secondReached, secondLog⟩ := Option.map_eq_some_iff.mp crossed
  obtain ⟨firstLog, firstFailed⟩ := Prod.mk.inj firstLog
  obtain ⟨secondLog, secondFailed⟩ := Prod.mk.inj secondLog
  refine ⟨⟨first, firstReached, ?_, firstFailed⟩, second, secondReached, ?_, secondFailed⟩
  · rw [firstLog]
    exact ⟨[.attemptAccepted "t" 3, .attemptAccepted "t" 2], .created, _, rfl, by decide, by decide,
      by decide⟩
  · rw [secondLog]
    exact ⟨[], .done, _, rfl, by decide, by decide, by decide⟩

end TaskWorld

end MiniDrop
