import MiniDrop.Drop.Relay
import MiniDrop.Verif.Snapshot
/-!
# Accepted cancels over whole runs

A cancel lives as a flag on a queued item, as a pending key, or in the completion of its attempt.
The flag is gone when the item is passed over and the pending keys are gone when the process ends,
so an attempt that is sent again, or comes back from an old file, can be handed out without its
cancel. In runs in which this does not happen every answer lists the cancels it has to.
-/
namespace MiniDrop.Drop

open Base List DropState RelayWorld

variable {attempt : Attempt} {ip : Bytes}

/-- The attempt cannot be handed to the address unnoticed: its cancel is pending there, or it is
completed, or every queued item of it has the flag. -/
def DropState.Guards (s : DropState) (ip : Bytes) (attempt : Attempt) : Prop :=
  attemptKey attempt ∈ s.pendingOf ip ∨ attemptKey attempt ∈ s.completedAttempts ∨
    ∀ item ∈ queueOf s.tasks ip, item.task.key = attemptKey attempt → item.canceled = true

/-- A guarded attempt stays guarded where pending keys and completions stay, and its items keep
their flags. -/
theorem DropState.Guards.mono {s t : DropState} (guards : s.Guards ip attempt)
    (pending : attemptKey attempt ∈ s.pendingOf ip → attemptKey attempt ∈ t.pendingOf ip)
    (completed : attemptKey attempt ∈ s.completedAttempts →
      attemptKey attempt ∈ t.completedAttempts)
    (queued : ∀ item ∈ queueOf t.tasks ip, item.task.key = attemptKey attempt →
      ∃ old ∈ queueOf s.tasks ip, old.task.key = attemptKey attempt ∧
      (old.canceled = true → item.canceled = true)) :
    t.Guards ip attempt := by
  refine guards.imp pending (Or.imp completed fun flagged item mem same => ?_)
  obtain ⟨old, listed, key, kept⟩ := queued item mem same
  exact kept (flagged old listed key)

/-! ## Completed attempts -/

section Completed

variable {s : DropState} {ip : Bytes} {attempt : Attempt} {key : Bytes}

theorem attemptKey_injective {other : Attempt} (same : attemptKey attempt = attemptKey other) :
    attempt = other := by
  have parts := taskAttemptKey_injective same
  exact Prod.ext parts.1 parts.2

theorem pendingOf_mark (pending : key ∈ s.pendingOf ip) (taskID : Bytes)
    (attemptID : UInt64) (other : key ≠ taskAttemptKey taskID attemptID) :
    key ∈ (s.markAttemptCompleted taskID attemptID).pendingOf ip := by
  unfold pendingOf markAttemptCompleted at *
  dsimp only
  generalize s.pendingCancels = table at pending
  induction table with
  | nil => exact pending
  | cons entry rest ih =>
    rw [lookup_cons] at pending
    rw [map_cons, filter_cons]
    by_cases own : ip = entry.1
    · -- The set of the address keeps the key, so it is not empty and stays.
      rw [own, beq_self_eq_true] at pending
      have kept : key ∈ entry.2.filter (· ≠ taskAttemptKey taskID attemptID) := by
        rw [mem_filter]
        exact ⟨pending, decide_eq_true other⟩
      have stays : entry.2.filter (· ≠ taskAttemptKey taskID attemptID) ≠ [] := ne_nil_of_mem kept
      rw [if_pos (decide_eq_true stays), lookup_cons, own, beq_self_eq_true]
      exact kept
    · have skips : (ip == entry.1) = false := beq_eq_false_iff_ne.mpr own
      rw [skips] at pending
      split
      · rw [lookup_cons, skips]
        exact ih pending
      · exact ih pending

theorem mem_completed_mark (taskID : Bytes) (attemptID : UInt64) :
    key ∈ (s.markAttemptCompleted taskID attemptID).completedAttempts ↔
      key = taskAttemptKey taskID attemptID ∨ key ∈ s.completedAttempts := by
  unfold markAttemptCompleted
  dsimp only
  split
  · next already => exact (or_iff_right_of_imp (· ▸ contains_iff_mem.mp already)).symm
  · exact mem_cons

theorem DropState.Guards.mark (guards : s.Guards ip attempt) (taskID : Bytes) (attemptID : UInt64) :
    (s.markAttemptCompleted taskID attemptID).Guards ip attempt := by
  by_cases own : attemptKey attempt = taskAttemptKey taskID attemptID
  · exact .inr (.inl ((mem_completed_mark taskID attemptID).mpr (.inl own)))
  · exact guards.mono (fun pending => pendingOf_mark pending taskID attemptID own)
      (fun completed => (mem_completed_mark taskID attemptID).mpr (.inr completed))
      fun item mem same => ⟨item, mem, same, id⟩

/-- The state after the completed attempts of a heartbeat. -/
def markAll (s : DropState) (reported : List Attempt) : DropState :=
  reported.foldl (fun s attempt => s.markAttemptCompleted attempt.1 attempt.2) s

theorem DropState.Guards.markAll (guards : s.Guards ip attempt) (reported : List Attempt) :
    (Drop.markAll s reported).Guards ip attempt := by
  induction reported generalizing s with
  | nil => exact guards
  | cons first rest ih => exact ih (guards.mark first.1 first.2)

/-- A pending cancel stays over a report that does not name its attempt. -/
theorem pendingOf_markAll (pending : attemptKey attempt ∈ s.pendingOf ip) {reported : List Attempt}
    (unnamed : attempt ∉ reported) : attemptKey attempt ∈ (markAll s reported).pendingOf ip := by
  induction reported generalizing s with
  | nil => exact pending
  | cons first rest ih =>
    have other : attemptKey attempt ≠ taskAttemptKey first.1 first.2 := fun same =>
      unnamed (attemptKey_injective same ▸ mem_cons_self)
    exact ih (pendingOf_mark pending first.1 first.2 other) fun later =>
      unnamed (mem_cons_of_mem _ later)

end Completed

/-! ## Requests -/

section Requests

variable {s : DropState} {ip : Bytes} {attempt : Attempt}

/-- What a pop leaves: no other pending keys and completions, and no new items. -/
theorem popNextDispatchableTask_spec (sound : TasksSound s.tasks) (now : ClockMs) (ip : Bytes) :
    let next := (s.popNextDispatchableTask now ip).1
    next.pendingCancels = s.pendingCancels ∧ next.completedAttempts = s.completedAttempts ∧
      ∀ other, ∀ item ∈ queueOf next.tasks other, item ∈ queueOf s.tasks other := by
  obtain ⟨-, queue, others, pending, completed⟩ := popNextDispatchableTask_eq sound now ip
  refine ⟨pending, completed, fun other item mem => ?_⟩
  by_cases own : other = ip
  · rw [own, queue] at mem
    rw [own]
    exact (dropWhile_sublist _).subset (mem_of_mem_tail mem)
  · rwa [others other own] at mem

variable {now : ClockMs} {task : TaskDesc} {key : Bytes} {completed : List Attempt}

/-- What a pop hands out was queued, is not flagged and not completed. -/
theorem popNextDispatchableTask_task (sound : TasksSound s.tasks)
    (popped : (s.popNextDispatchableTask now ip).2 = some task) :
    ∃ item ∈ queueOf s.tasks ip, item.task = task ∧ item.canceled = false ∧
      task.key ∉ s.completedAttempts := by
  obtain ⟨-, ⟨passed, item, rest, queue, -, kept, out, -⟩ | ⟨-, none, -⟩⟩ := sound.popsFirst now ip
  · obtain rfl : item.task = task := Option.some.inj (out.symm.trans popped)
    simp only [skips, Bool.or_eq_false_iff] at kept
    refine ⟨item, queue ▸ mem_append_right _ mem_cons_self, rfl, kept.1.1, fun completed => ?_⟩
    rw [isAttemptCompleted, contains_iff_mem.mpr completed] at kept
    exact absurd kept.2 (by decide)
  · rw [none] at popped
    cases popped

/-- A guarded attempt stays guarded when a task is created, if this task is of another attempt, or
one that is pending, completed or still queued. -/
theorem DropState.Guards.createTask (guards : s.Guards ip attempt) (sound : TasksSound s.tasks)
    (checkedAt enteredAt : ClockMs) (targetIP : Bytes) (task : TaskDesc)
    (careful : targetIP = ip → task.key = attemptKey attempt →
      task.key ∈ s.pendingOf ip ∨ task.key ∈ s.completedAttempts ∨
        ∃ item ∈ queueOf s.tasks ip, item.task.key = task.key) :
    (s.createTask checkedAt enteredAt targetIP task).1.Guards ip attempt := by
  rcases createTask_cases (s := s) checkedAt enteredAt targetIP task with
    same | ⟨-, uncompleted, fresh, -, next⟩
  · rw [same]
    exact guards
  · rw [next]
    by_cases own : targetIP = ip ∧ task.key = attemptKey attempt
    · obtain ⟨rfl, sameKey⟩ := own
      rcases careful rfl sameKey with pending | completed | ⟨item, mem, queued⟩
      · exact .inl (sameKey ▸ pending)
      · exact absurd completed uncompleted
      · exact absurd queued (fresh item mem)
    · refine guards.mono id id fun item mem sameKey => ⟨item, ?_, sameKey, id⟩
      by_cases here : ip = targetIP
      · rw [here, queueOf_upsert_self sound.addresses, sortQueue, mem_orderBy] at mem
        rcases mem_append.mp mem with old | new
        · exact here ▸ old
        · rw [mem_singleton.mp new] at sameKey
          exact absurd ⟨here.symm, sameKey⟩ own
      · rw [queueOf_upsert_of_ne here] at mem
        exact mem

section

variable (targetIP taskID : Bytes) (attemptID : UInt64)

theorem queueOf_cancelTask (ip : Bytes) :
    queueOf (s.cancelTask targetIP taskID attemptID).1.tasks ip = if cancelScope targetIP ip then
        applyCancel taskID attemptID (queueOf s.tasks ip)
      else queueOf s.tasks ip := by
  unfold cancelTask queueOf
  generalize s.tasks = tasks
  induction tasks with
  | nil => simp [applyCancel]
  | cons entry rest ih =>
    rw [map_cons, lookup_cons, lookup_cons]
    by_cases own : ip = entry.1
    · rw [own, beq_self_eq_true]
      rfl
    · have skips : (ip == entry.1) = false := beq_eq_false_iff_ne.mpr own
      rw [skips]
      exact ih

theorem mem_applyCancel {taskID : Bytes} {attemptID : UInt64} {queue : List QueuedTask}
    {item : QueuedTask} (mem : item ∈ applyCancel taskID attemptID queue) :
    ∃ old ∈ queue, item.task = old.task ∧ (old.canceled = true → item.canceled = true) ∧
      (cancels taskID attemptID old = true → item.canceled = true) := by
  obtain ⟨old, oldIn, rfl⟩ := mem_map.mp mem
  refine ⟨old, oldIn, ?_⟩
  split
  · exact ⟨rfl, fun _ => rfl, fun _ => rfl⟩
  · next misses => exact ⟨rfl, id, fun meant => absurd meant misses⟩

theorem DropState.Guards.cancelTask (guards : s.Guards ip attempt) :
    (s.cancelTask targetIP taskID attemptID).1.Guards ip attempt := by
  refine guards.mono id id fun item mem sameKey => ?_
  rw [queueOf_cancelTask] at mem
  split at mem
  · obtain ⟨old, oldIn, sameTask, kept, -⟩ := mem_applyCancel mem
    exact ⟨old, oldIn, sameTask ▸ sameKey, kept⟩
  · exact ⟨item, mem, sameKey, id⟩

theorem mem_pendingOf_requestCancel :
    key ∈ (s.requestCancel targetIP taskID attemptID).pendingOf ip ↔
      key ∈ s.pendingOf ip ∨ (ip = targetIP ∧ key = taskAttemptKey taskID attemptID) := by
  unfold requestCancel pendingOf
  by_cases own : ip = targetIP
  · subst own
    rw [lookup_place_self, Option.getD_some]
    split
    · next already =>
      exact (or_iff_left_of_imp (·.2 ▸ contains_iff_mem.mp already)).symm
    · rw [mem_append, mem_singleton]
      exact or_congr_right (and_iff_right rfl).symm
  · rw [lookup_place_of_ne own, or_iff_left fun both => own both.1]

theorem cancelRequest_guards :
    (s.cancelRequest targetIP taskID attemptID).1.Guards targetIP (taskID, attemptID) := by
  have queuedFlagged : ∀ item ∈ queueOf (s.cancelTask targetIP taskID attemptID).1.tasks targetIP,
      item.task.key = attemptKey (taskID, attemptID) → item.canceled = true := by
    intro item mem sameKey
    have inScope : cancelScope targetIP targetIP = true := by simp [cancelScope]
    rw [queueOf_cancelTask, if_pos inScope] at mem
    obtain ⟨old, -, sameTask, -, flagged⟩ := mem_applyCancel mem
    have parts := taskAttemptKey_injective sameKey
    apply flagged
    rw [cancels, ← sameTask, parts.1, parts.2]
    simp
  unfold cancelRequest
  dsimp only
  split
  · exact .inl ((mem_pendingOf_requestCancel targetIP taskID attemptID).mpr (.inr ⟨rfl, rfl⟩))
  · exact .inr (.inr queuedFlagged)

theorem DropState.Guards.cancelRequest (guards : s.Guards ip attempt) :
    (s.cancelRequest targetIP taskID attemptID).1.Guards ip attempt := by
  have queued := guards.cancelTask targetIP taskID attemptID
  unfold DropState.cancelRequest
  dsimp only
  split
  · exact queued.imp (fun pending => (mem_pendingOf_requestCancel targetIP taskID attemptID).mpr
      (.inl pending)) id
  · exact queued

theorem pendingOf_cancelRequest (pending : key ∈ s.pendingOf ip) :
    key ∈ (s.cancelRequest targetIP taskID attemptID).1.pendingOf ip := by
  unfold cancelRequest
  dsimp only
  split
  · exact (mem_pendingOf_requestCancel targetIP taskID attemptID).mpr (.inl pending)
  · exact pending

end

theorem pendingOf_createTask (checkedAt enteredAt : ClockMs) (targetIP : Bytes) (task : TaskDesc) :
    (s.createTask checkedAt enteredAt targetIP task).1.pendingOf ip = s.pendingOf ip := by
  rcases createTask_cases (s := s) checkedAt enteredAt targetIP task with same | ⟨-, -, -, -, next⟩
  · rw [same]
  · rw [next]
    rfl

/-- What a heartbeat leaves: the pending keys and completions after its report, and no new items. -/
theorem heartbeat_spec (sound : TasksSound s.tasks) (now : ClockMs) (beatIP : Bytes)
    (completed : List Attempt) : let next := (s.heartbeat now beatIP completed).1
    next.pendingCancels = (markAll s completed).pendingCancels ∧
      next.completedAttempts = (markAll s completed).completedAttempts ∧
      ∀ other, ∀ item ∈ queueOf next.tasks other,
          item ∈ queueOf (markAll s completed).tasks other := by
  refine popNextDispatchableTask_spec ?_ now beatIP
  rw [markAll_tasks]
  exact sound

theorem DropState.Guards.heartbeat (guards : s.Guards ip attempt) (sound : TasksSound s.tasks)
    (now : ClockMs) (beatIP : Bytes) (completed : List Attempt) :
    (s.heartbeat now beatIP completed).1.Guards ip attempt := by
  obtain ⟨samePending, sameCompleted, fewer⟩ := heartbeat_spec sound now beatIP completed
  refine (guards.markAll completed).mono ?_ ?_ fun item mem same =>
    ⟨item, fewer ip item mem, same, id⟩
  · unfold pendingOf
    rw [samePending]
    exact id
  · rw [sameCompleted]
    exact id

/-- A pending cancel stays over a heartbeat that does not report its attempt. -/
theorem pendingOf_heartbeat (pending : attemptKey attempt ∈ s.pendingOf ip)
    (sound : TasksSound s.tasks) (unnamed : attempt ∉ completed) (now : ClockMs) (beatIP : Bytes) :
    attemptKey attempt ∈ (s.heartbeat now beatIP completed).1.pendingOf ip := by
  unfold pendingOf
  rw [(heartbeat_spec sound now beatIP completed).1]
  exact pendingOf_markAll pending unnamed

theorem pendingOf_dispatched (guards : s.Guards ip attempt) (sound : TasksSound s.tasks)
    (popped : (s.heartbeat now ip completed).2.task = some task)
    (same : (task.taskID, task.attemptID) = attempt) :
    attemptKey attempt ∈ (s.heartbeat now ip completed).1.pendingOf ip := by
  obtain ⟨item, mem, rfl, unflagged, uncompleted⟩ :=
    popNextDispatchableTask_task (by rwa [markAll_tasks]) popped
  have sameKey : item.task.key = attemptKey attempt := by
    rw [← same]
    rfl
  unfold pendingOf
  rw [(heartbeat_spec sound now ip completed).1]
  rcases guards.markAll completed with pending | done | flagged
  · exact pending
  · exact absurd (sameKey ▸ done) uncompleted
  · have flag := flagged item mem sameKey
    rw [unflagged] at flag
    cases flag

end Requests

/-! ## Runs -/

namespace RelayWorld

variable {codec : TaskCodec} {w : RelayWorld}

/-- The steps that can lose a cancel are not taken: an attempt whose cancel was accepted for an
address is sent there again only while the cancel is pending, the attempt is completed, or an item
of it is still queued; and the process is started again only when no such attempt is outstanding and
the file brings back none of them without its flag. -/
def Careful (codec : TaskCodec) (w : RelayWorld) : RelayAction → Prop
  | .create _ _ targetIP task =>
    task.attemptID ≠ 0 → .canceled targetIP (task.taskID, task.attemptID) ∈ w.log →
      task.key ∈ w.drop.pendingOf targetIP ∨ task.key ∈ w.drop.completedAttempts ∨
        ∃ item ∈ queueOf w.drop.tasks targetIP, item.task.key = task.key
  | .restart clock =>
    ∀ ip (attempt : Attempt), attempt.2 ≠ 0 → .canceled ip attempt ∈ w.log →
      ¬Outstanding ip attempt w.log ∧
        ∀ item ∈ queueOf (startDrop codec clock w.file).tasks ip,
          item.task.key = attemptKey attempt → item.canceled = true
  | _ => True

/-- The invariant of careful runs. -/
structure Sound (w : RelayWorld) : Prop where
  tasks : TasksSound w.drop.tasks
  kept : CancelsKept w.log
  guarded : ∀ ip (attempt : Attempt), attempt.2 ≠ 0 → .canceled ip attempt ∈ w.log →
    w.drop.Guards ip attempt
  relayed : ∀ ip (attempt : Attempt), attempt.2 ≠ 0 → Outstanding ip attempt w.log →
    attemptKey attempt ∈ w.drop.pendingOf ip

theorem canceled_of_outstanding {log : List RelayEvent}
    (outstanding : Outstanding ip attempt log) : .canceled ip attempt ∈ log := by
  induction log with
  | nil => exact outstanding.elim
  | cons event past ih =>
    cases event with
    | canceled => exact mem_cons_of_mem _ (ih outstanding)
    | heartbeat =>
      rcases outstanding with ⟨-, -, accepted⟩ | ⟨earlier, -⟩
      · exact mem_cons_of_mem _ accepted
      · exact mem_cons_of_mem _ (ih earlier)

theorem startDrop_sound (codec : TaskCodec) (clock : Nat → ClockMs) (file : Option Bytes) :
    TasksSound (startDrop codec clock file).tasks := by
  cases file with
  | none => exact tasksSound_nil
  | some bytes => exact restoreLoop_sound codec clock _ bytes tasksSound_nil

/-- A heartbeat keeps the invariant: its answer lists what it has to. -/
theorem Sound.heartbeat (sound : w.Sound) (now : ClockMs) (ip : Bytes) (completed : List Attempt) :
    let (drop, reply) := w.drop.heartbeat now ip completed
    let dispatched := reply.task.map fun task => (task.taskID, task.attemptID)
    Sound { w with
      drop, log := .heartbeat ip completed dispatched reply.cancelAttempts :: w.log } := by
  let next := w.drop.heartbeat now ip completed
  -- What is handed out or was handed out before is pending when the answer is made.
  have pending : ∀ attempt : Attempt, attempt.2 ≠ 0 → .canceled ip attempt ∈ w.log →
      next.2.task.map (fun task => (task.taskID, task.attemptID)) = some attempt →
      attemptKey attempt ∈ next.1.pendingOf ip := by
    intro attempt positive accepted handed
    obtain ⟨task, popped, same⟩ := Option.map_eq_some_iff.mp handed
    exact pendingOf_dispatched (sound.guarded ip attempt positive accepted) sound.tasks popped same
  have still : ∀ other (attempt : Attempt), attempt.2 ≠ 0 → Outstanding other attempt w.log →
      attempt ∉ completed → attemptKey attempt ∈ next.1.pendingOf other := by
    intro other attempt positive outstanding unnamed
    exact pendingOf_heartbeat (sound.relayed other attempt positive outstanding) sound.tasks unnamed
      now ip
  refine ⟨heartbeat_sound sound.tasks now ip completed, ⟨?_, sound.kept⟩, ?_, ?_⟩
  · intro attempt positive accepted due
    refine mem_filterMap.mpr ⟨_, ?_, parseAttemptKey_key attempt.1 attempt.2⟩
    rcases due with handed | ⟨outstanding, unnamed⟩
    · exact pending attempt positive accepted handed
    · exact still ip attempt positive outstanding unnamed
  · intro other attempt positive accepted
    have earlier : .canceled other attempt ∈ w.log := by
      rcases mem_cons.mp accepted with impossible | earlier
      · cases impossible
      · exact earlier
    exact (sound.guarded other attempt positive earlier).heartbeat sound.tasks now ip completed
  · intro other attempt positive outstanding
    rcases outstanding with ⟨rfl, handed, accepted⟩ | ⟨earlier, unnamed⟩
    · exact pending attempt positive accepted handed
    · exact still other attempt positive earlier unnamed

theorem Sound.cancel (sound : w.Sound) (targetIP taskID : Bytes) (attemptID : UInt64) :
    let (drop, reply) := w.drop.cancelRequest targetIP taskID attemptID
    Sound { w with
      drop
      log := if reply.canceled then .canceled targetIP (taskID, attemptID) :: w.log
          else w.log } := by
  have queues := cancelRequest_sound sound.tasks targetIP taskID attemptID
  have guarded : ∀ ip (attempt : Attempt), attempt.2 ≠ 0 → .canceled ip attempt ∈ w.log →
      (w.drop.cancelRequest targetIP taskID attemptID).1.Guards ip attempt :=
    fun ip attempt positive accepted =>
      (sound.guarded ip attempt positive accepted).cancelRequest targetIP taskID attemptID
  have relayed : ∀ ip (attempt : Attempt), attempt.2 ≠ 0 → Outstanding ip attempt w.log →
      attemptKey attempt ∈ (w.drop.cancelRequest targetIP taskID attemptID).1.pendingOf ip :=
    fun ip attempt positive outstanding =>
      pendingOf_cancelRequest targetIP taskID attemptID
        (sound.relayed ip attempt positive outstanding)
  dsimp only
  split
  · refine ⟨queues, ⟨trivial, sound.kept⟩, ?_, relayed⟩
    intro ip attempt positive accepted
    rcases mem_cons.mp accepted with same | earlier
    · cases same
      exact cancelRequest_guards targetIP taskID attemptID
    · exact guarded ip attempt positive earlier
  · exact ⟨queues, sound.kept, guarded, relayed⟩

theorem Sound.step {next : RelayWorld} {action : RelayAction} (sound : w.Sound)
    (careful : w.Careful codec action) (taken : w.step codec action = some next) : next.Sound := by
  cases action with
  | create checkedAt enteredAt targetIP task =>
    cases taken
    refine ⟨createTask_sound sound.tasks checkedAt enteredAt targetIP task, sound.kept, ?_, ?_⟩
    · intro ip attempt positive accepted
      refine (sound.guarded ip attempt positive accepted).createTask sound.tasks checkedAt enteredAt
        targetIP task ?_
      rintro rfl sameKey
      obtain rfl : (task.taskID, task.attemptID) = attempt := attemptKey_injective sameKey
      exact careful positive accepted
    · intro ip attempt positive outstanding
      rw [pendingOf_createTask]
      exact sound.relayed ip attempt positive outstanding
  | cancel targetIP taskID attemptID =>
    cases taken
    exact sound.cancel targetIP taskID attemptID
  | heartbeat now ip completed =>
    cases taken
    exact sound.heartbeat now ip completed
  | snapshot =>
    simp only [RelayWorld.step, Option.ite_none_right_eq_some] at taken
    obtain ⟨-, same⟩ := taken
    cases same
    exact ⟨sound.tasks, sound.kept, sound.guarded, sound.relayed⟩
  | restart clock =>
    cases taken
    refine ⟨startDrop_sound codec clock w.file, sound.kept, ?_, ?_⟩
    · intro ip attempt positive accepted
      exact .inr (.inr (careful ip attempt positive accepted).2)
    · intro ip attempt positive outstanding
      exact absurd outstanding (careful ip attempt positive (canceled_of_outstanding outstanding)).1

theorem sound_fresh : Sound {} :=
  ⟨tasksSound_nil, trivial, fun _ _ _ accepted => absurd accepted not_mem_nil,
    fun _ _ _ outstanding => outstanding.elim⟩

/-- In every run of careful steps no accepted cancel is lost. -/
theorem careful_run_keeps_cancels (codec : TaskCodec) {actions : List RelayAction} {w : RelayWorld}
    (careful : Along (step codec) (Careful codec) {} actions)
    (reached : run (step codec) {} actions = some w) : CancelsKept w.log :=
  (run_invariant_along (fun _ _ _ sound allowed taken => sound.step allowed taken) sound_fresh
    careful reached).kept

/-- A check for careful steps: creations are compared with the log, and the process is started again
only before the first cancel. -/
def checkCareful (w : RelayWorld) : RelayAction → Bool
  | .create _ _ targetIP task =>
    w.log.all (· ≠ .canceled targetIP (task.taskID, task.attemptID)) ||
      (w.drop.pendingOf targetIP).contains task.key
  | .restart _ => w.log = []
  | _ => true

theorem careful_of_check (w : RelayWorld) (action : RelayAction)
    (passed : checkCareful w action = true) : w.Careful codec action := by
  cases action with
  | create =>
    intro _ accepted
    rcases (Bool.or_eq_true _ _).mp passed with unsent | pending
    · exact absurd rfl (of_decide_eq_true (all_eq_true.mp unsent _ accepted))
    · exact .inl (contains_iff_mem.mp pending)
  | cancel | heartbeat | snapshot => trivial
  | restart =>
    intro ip attempt _ accepted
    rw [of_decide_eq_true passed] at accepted
    cases accepted

/-- A task that survives a restart, is handed out, canceled, sent again and handed out again. -/
def resentWhilePending : List RelayAction :=
  let now := sampleNow
  let task : TaskDesc := { taskID := [97], attemptID := 1 }
  [.create now now [49] task,
    .snapshot [([49], [newItem now task])],
    .restart fun _ => now,
    .heartbeat now [49] [],
    .cancel [49] [97] 1,
    .create now now [49] task,
    .heartbeat now [49] [],
    .heartbeat now [49] [([97], 1)]]

/-- The second dispatch of this task lists its cancel. -/
theorem resent_while_pending_listed :
    (run (step markedCodec) {} resentWhilePending).map (·.log) =
        some [.heartbeat [49] [([97], 1)] none [], .heartbeat [49] [] (some ([97], 1)) [([97], 1)],
          .canceled [49] ([97], 1), .heartbeat [49] [] (some ([97], 1)) []] ∧
      ∀ w, run (step markedCodec) {} resentWhilePending = some w → CancelsKept w.log :=
  ⟨by decide, fun _ reached => careful_run_keeps_cancels markedCodec
    (along_of_check careful_of_check (by decide)) reached⟩

/-- A queued task is canceled, the next heartbeat passes over it, and it is sent again. -/
def resentAfterCancel : List RelayAction :=
  let now := sampleNow
  let task : TaskDesc := { taskID := [97], attemptID := 1 }
  [.create now now [49] task, .cancel [49] [97] 1, .heartbeat now [49] [],
    .create now now [49] task, .heartbeat now [49] []]

/-- A task is queued and saved, then canceled, and the process is started again. -/
def restartedAfterCancel : List RelayAction :=
  let now := sampleNow
  let task : TaskDesc := { taskID := [97], attemptID := 1 }
  [.create now now [49] task, .snapshot [([49], [newItem now task])], .cancel [49] [97] 1,
    .restart fun _ => now, .heartbeat now [49] []]

/-- Both runs hand out the canceled attempt without its cancel. -/
theorem resent_after_cancel_lost :
    let lost : List RelayEvent := [.heartbeat [49] [] (some ([97], 1)) [], .canceled [49] ([97], 1)]
    let lostLater : List RelayEvent := [.heartbeat [49] [] (some ([97], 1)) [],
      .heartbeat [49] [] none [], .canceled [49] ([97], 1)]
    (run (step markedCodec) {} resentAfterCancel).map (·.log) = some lostLater ∧
      ¬CancelsKept lostLater ∧
      (run (step markedCodec) {} restartedAfterCancel).map (·.log) = some lost ∧
      ¬CancelsKept lost := by
  refine ⟨by decide, fun kept => ?_, by decide, fun kept => ?_⟩
  · exact absurd (kept.1 ([97], 1) (by decide) (by decide) (.inl rfl)) not_mem_nil
  · exact absurd (kept.1 ([97], 1) (by decide) (by decide) (.inl rfl)) not_mem_nil

end RelayWorld

end MiniDrop.Drop
