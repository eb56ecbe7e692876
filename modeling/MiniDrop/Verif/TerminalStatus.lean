import MiniDrop.Verif.TaskStatus
/-!
# Terminal statuses over whole runs

A status write is guarded by what its worker has read, so a terminal status is only overwritten by a
worker that has read it and still wants another one. There are two: an error notification that finds
its task done, and a composite task whose children give another status than its own terminal one. In
runs in which neither is met, terminal statuses stay.
-/
namespace MiniDrop

open TaskWorld Base

variable {action : TaskAction}

namespace TaskWorld

/-- The children of a composite task that is at its end do not give it another status. -/
def AgreesWith (w : TaskWorld) : Job → Prop
  | .readingParent mt aggregate _ => ∀ status ∈ w.store.statusOf mt.tid,
      isTerminalTaskStatus status = true → aggregate.status = status
  | _ => True

instance (w : TaskWorld) (job : Job) : Decidable (w.AgreesWith job) := by
  induction job using Job.casesOn <;> dsimp only [AgreesWith] <;> infer_instance

/-- No error notification finds its task done, and no composite task that is at its end is found to
have another status by its children. -/
def Calm (w : TaskWorld) : TaskAction → Prop
  | .notify req => req.isError = true → w.store.statusOf req.taskID ≠ some .done
  | .advance index _ => ∀ job ∈ w.jobs[index]?, w.AgreesWith job
  | _ => True

instance (w : TaskWorld) (action : TaskAction) : Decidable (w.Calm action) := by
  induction action using TaskAction.casesOn <;> dsimp only [Calm] <;> infer_instance

/-- No job wants to write from a terminal status. -/
def Settled (w : TaskWorld) : Prop :=
  ∀ job ∈ w.jobs, ∀ tid fromStatus toStatus, job.Writes tid fromStatus toStatus →
    isTerminalTaskStatus fromStatus = false

theorem Settled.step {w next : TaskWorld} (settled : w.Settled)
    (calm : w.Calm action) (taken : step w action = some next) : next.Settled := by
  rcases step_cases taken with
    ⟨index, input, before, job, after, rfl, found, jobs, rfl⟩ | ⟨out, entered, rfl⟩
  · refine Pool.forall_replaced jobs settled fun rest left tid fromStatus toStatus writes => ?_
    rcases Job.run_writes left writes with own | ⟨held, ⟨-, rfl, -⟩ | reads⟩
    · exact settled job (List.mem_of_getElem? found) tid _ _ own
    · rfl
    · obtain ⟨mt, aggregate, reply, rfl, rfl, target, differs⟩ := reads
      refine Bool.eq_false_iff.mpr fun terminal => differs ?_
      rw [target]
      exact (calm _ found fromStatus held terminal).symm
  · refine Pool.forall_enter settled fun job new tid fromStatus toStatus writes => ?_
    rcases (TaskAction.enter_writes entered new writes).2 with unfinished | ⟨req, rfl, isError,
      rfl, done⟩
    · exact unfinished
    · exact absurd done (calm isError)

/-- While no job wants to write from a terminal status, a step leaves terminal statuses alone. -/
theorem Settled.keeps {w next : TaskWorld} (settled : w.Settled)
    (taken : TaskWorld.step w action = some next) {tid : String} {status : TaskStatus}
    (terminal : isTerminalTaskStatus status = true) (held : w.store.statusOf tid = some status) :
    next.store.statusOf tid = some status := by
  rcases step_cases taken with
    ⟨index, input, before, job, after, rfl, -, jobs, rfl⟩ | ⟨out, entered, rfl⟩
  · rcases Job.run_status w.store job input tid with same | ⟨fromStatus, toStatus, writes, read, -⟩
    · exact same.trans held
    · have mine := settled job (jobs ▸ List.mem_append_right _ List.mem_cons_self) tid _ _ writes
      rw [Option.some.inj (held.symm.trans read), mine] at terminal
      cases terminal
  · obtain ⟨rows, adds⟩ := TaskAction.enter_adds entered
    exact TaskStore.statusOf_grow adds.tasks held

/-- In a calm run, from any tables and with no job under way at first, a task that is at its end
keeps its status. -/
theorem terminal_status_kept (start : TaskStore) {first second : List TaskAction} {m w : TaskWorld}
    (calm : Along step Calm { store := start } (first ++ second))
    (reached : run step { store := start } first = some m)
    (later : run step m second = some w) {tid : String} {status : TaskStatus}
    (terminal : isTerminalTaskStatus status = true) (held : m.store.statusOf tid = some status) :
    w.store.statusOf tid = some status := by
  obtain ⟨calmFirst, calmSecond⟩ := along_append calm reached
  have settled : m.Settled :=
    run_invariant_along (fun _ _ _ kept allowed taken => kept.step allowed taken)
      (fun _ mem => absurd mem List.not_mem_nil) calmFirst reached
  let kept (v : TaskWorld) : Prop := v.Settled ∧ v.store.statusOf tid = some status
  have both : kept w := run_invariant_along
    (fun _ _ _ held allowed taken => ⟨held.1.step allowed taken,
    held.1.keeps taken terminal held.2⟩)
    (show kept m from ⟨settled, held⟩) calmSecond later
  exact both.2

/-- A task is created, handed out and accepted, and its result is registered. -/
def finishedTask : List TaskAction :=
  handedOut ++ steps 1 2 ++ [.notify stored, .advance 2 {}]

/-- A second result, a cancel and a round of the poller. -/
def afterwards : List TaskAction :=
  [.notify stored, .advance 3 {}, .cancel "t" 1, .poll 99000, .advance 3 {}, .advance 3 {}]

/-- The finished task stays done. -/
theorem finished_task_stays_done :
    (run step { store := {} } finishedTask).map (·.store.statusOf "t") = some (some .done) ∧
      ∀ m w, run step { store := {} } finishedTask = some m →
        m.store.statusOf "t" = some .done → run step m afterwards = some w →
        w.store.statusOf "t" = some .done :=
  ⟨by decide, fun _ _ reached held later => terminal_status_kept {}
    (along_of_decide (by decide)) reached later rfl held⟩

/-- An error notification arrives for the finished task. -/
def lateError : List TaskAction :=
  [.notify { taskID := "t", errorMessage := "exit 1" }, .advance 3 {}, .advance 3 {}]

/-- A composite task with one child is canceled, and then listed. -/
def listedAfterCancel : List TaskAction :=
  [.createComposite "p" "" .allRequired 0 [{ tid := "c" }] 0, .cancel "p" 1, .advance 2 {},
    .listChildren "p"] ++ steps 3 5

/-- The finished task becomes failed, and the canceled composite task runs again. -/
theorem late_error_overwrites :
    (run step { store := {} } (finishedTask ++ lateError)).map
        (·.store.statusOf "t") = some (some .failed) ∧
      (run step { store := {} } (listedAfterCancel.take 3)).map
        (·.store.statusOf "p") = some (some .canceled) ∧
      (run step { store := {} } listedAfterCancel).map
        (·.store.statusOf "p") = some (some .running) := by
  decide

end TaskWorld

end MiniDrop
