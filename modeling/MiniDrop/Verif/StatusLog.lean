import MiniDrop.Verif.TaskStatus
import Mathlib.Data.List.Chain
import Mathlib.Data.List.Fold
import Mathlib.Data.List.MinMax
/-!
# The status log as a history

A guarded status write leaves an entry with the status it found and the next sequence number while
the row stays locked, so the entries of a task follow each other. The creation of a task is recorded
only after its row can be seen, and the second write of a success notification takes any of two
statuses while its entry names the one that was read before. In runs in which the creation is
recorded first and the notification has read the status that it finds, the log is exact.
-/
namespace MiniDrop

open TaskStore List Base Job

variable {job : Job}

namespace TaskStore

variable {s t u : TaskStore} {tid : String}

/-! ## Entries that follow each other -/

/-- One entry after another: a later number, from the status that the earlier one has left. -/
def Follows (earlier later : TaskStatusEvent) : Prop :=
  earlier.sequence < later.sequence ∧ later.fromStatus = some earlier.toStatus

/-- The entries of a task follow each other and end in a status. -/
structure Exact (s : TaskStore) (tid : String) (status : TaskStatus) : Prop where
  chained : (s.changes tid).IsChain Follows
  ends : (s.changes tid).getLast?.map (·.toStatus) = some status

theorem changes_congr (events : t.events = s.events) (tid : String) :
    t.changes tid = s.changes tid := by
  unfold changes
  rw [events]

variable {entry : TaskStatusEvent} {fromStatus status : TaskStatus} {rows : List HotmethodTask}

theorem Exact.congr (log : s.Exact tid status) (same : t.changes tid = s.changes tid) :
    t.Exact tid status := by
  constructor
  · rw [same]
    exact log.chained
  · rw [same]
    exact log.ends

theorem changes_append (events : t.events = s.events ++ [entry]) (tid : String) : t.changes tid =
      if entry.tid = tid ∧ entry.fromStatus ≠ some entry.toStatus then s.changes tid ++ [entry]
      else s.changes tid := by
  unfold changes
  rw [events, filter_append, filter_cons, filter_nil]
  by_cases own : entry.tid = tid ∧ entry.fromStatus ≠ some entry.toStatus
  · rw [if_pos own, if_pos (decide_eq_true own)]
  · rw [if_neg own, if_neg (fun passes => own (of_decide_eq_true passes)), append_nil]

/-- The next sequence number of a task is above those in its log. -/
theorem sequence_lt_next (mem : entry ∈ s.changes tid) :
    entry.sequence < s.nextTaskEventSequence tid := by
  have listed := mem_filter.mp mem
  have own : entry.tid = tid := (of_decide_eq_true listed.2).1
  have inTask : entry ∈ s.events.filter (·.tid = tid) :=
    mem_filter.mpr ⟨listed.1, decide_eq_true own⟩
  unfold nextTaskEventSequence
  rw [foldl_eq_foldr]
  exact Nat.lt_succ_of_le (le_max_of_le (mem_map_of_mem inTask) le_rfl)

/-- An entry from the status at the end, with the next number, leaves the log exact. -/
theorem Exact.add (log : s.Exact tid fromStatus) (events : t.events = s.events ++ [entry])
    (own : entry.tid = tid) (origin : entry.fromStatus = some fromStatus)
    (numbered : entry.sequence = s.nextTaskEventSequence tid) : t.Exact tid entry.toStatus := by
  have after := changes_append events tid
  by_cases same : fromStatus = entry.toStatus
  · rw [if_neg fun change => change.2 (origin.trans (congrArg some same))] at after
    exact same ▸ log.congr after
  · rw [if_pos ⟨own, fun equal => same (Option.some.inj (origin.symm.trans equal))⟩] at after
    constructor
    · rw [after]
      apply isChain_append.mpr
      refine ⟨log.chained, isChain_singleton _, fun last atEnd next atHead => ?_⟩
      have ended : last.toStatus = fromStatus := by
        have ends := log.ends
        rw [Option.mem_def.mp atEnd] at ends
        exact Option.some.inj ends
      have isEntry : entry = next := by simpa using atHead
      rw [← isEntry]
      constructor
      · rw [numbered]
        exact sequence_lt_next (mem_of_getLast? atEnd)
      · rw [origin, ended]
    · rw [after, getLast?_append, getLast?_singleton, Option.some_or, Option.map_some]

theorem Exact.first (entry : TaskStatusEvent) (empty : s.changes tid = [])
    (events : t.events = s.events ++ [entry]) (own : entry.tid = tid)
    (origin : entry.fromStatus = none) : t.Exact tid entry.toStatus := by
  have after := changes_append events tid
  rw [if_pos ⟨own, by rw [origin]; exact nofun⟩, empty, nil_append] at after
  constructor
  · rw [after]
    exact isChain_singleton _
  · rw [after]
    rfl

section

variable (log : s.Exact tid status)
include log

theorem Exact.increasing : (s.changes tid).Pairwise fun a b => a.sequence < b.sequence := by
  have trans : IsTrans TaskStatusEvent fun a b => a.sequence < b.sequence :=
    ⟨fun _ _ _ => Nat.lt_trans⟩
  exact isChain_iff_pairwise.mp (log.chained.imp fun _ _ follows => follows.1)

theorem Exact.history_eq : s.history tid = s.changes tid :=
  List.Pairwise.insertionSort_eq (log.increasing.imp Nat.le_of_lt)

theorem Exact.sequences_nodup : ((s.changes tid).map (·.sequence)).Nodup :=
  log.increasing.map _ fun _ _ less => Nat.ne_of_lt less

end

/-! ## New rows -/

/-- A row that is added has its own status, if there was no task of that name. -/
theorem statusOf_new (tasks : t.tasks = s.tasks ++ rows)
    (nodup : (rows.map (·.tid)).Nodup) {row : HotmethodTask} (mem : row ∈ rows)
    (fresh : s.statusOf row.tid = none) : t.statusOf row.tid = some row.status := by
  have absent : s.tasks.find? (·.tid = row.tid) = none := Option.map_eq_none_iff.mp fresh
  have found : rows.find? (·.tid = row.tid) = some row :=
    find?_eq_of_nodup nodup mem (decide_eq_true rfl) fun _ _ => of_decide_eq_true
  unfold statusOf findTask
  rw [tasks, find?_append, absent, Option.none_or, found, Option.map_some]

theorem statusOf_old (tasks : t.tasks = s.tasks ++ rows) (old : tid ∉ rows.map (·.tid)) :
    t.statusOf tid = s.statusOf tid := by
  have absent : rows.find? (·.tid = tid) = none := by
    apply find?_eq_none.mpr
    intro row mem own
    exact old (of_decide_eq_true own ▸ mem_map_of_mem mem)
  unfold statusOf findTask
  rw [tasks, find?_append, absent, Option.or_none]

/-! ## Recorded writes -/

/-- Nothing happens to the statuses and the log, or the status of one task is written and recorded,
or one of these after another. An honest record names the status that was found. -/
inductive Moved (honest : Prop) (tid : String) : TaskStore → TaskStore → Prop
  | same {s t : TaskStore} (statuses : ∀ other, t.statusOf other = s.statusOf other)
      (events : t.events = s.events) : Moved honest tid s t
  | written {s t : TaskStore} {fromStatus : TaskStatus} {entry : TaskStatusEvent}
      (held : s.statusOf tid = some fromStatus)
      (statuses : ∀ other,
        t.statusOf other = if other = tid then some entry.toStatus else s.statusOf other)
      (events : t.events = s.events ++ [entry]) (own : entry.tid = tid)
      (origin : honest → entry.fromStatus = some fromStatus)
      (numbered : entry.sequence = s.nextTaskEventSequence tid) : Moved honest tid s t
  | trans {s t u : TaskStore} (first : Moved honest tid s t) (second : Moved honest tid t u) :
      Moved honest tid s u

variable {honest : Prop}

theorem Moved.of_eq (tasks : t.tasks = s.tasks) (events : t.events = s.events) :
    Moved honest tid s t :=
  .same (fun other => statusOf_congr tasks other) events

section

variable (moved : Moved honest tid s t)
include moved

/-- An honest write keeps the log of its task exact. -/
theorem Moved.exact (sure : honest) (held : s.statusOf tid = some status)
    (log : s.Exact tid status) : ∃ after, t.statusOf tid = some after ∧ t.Exact tid after := by
  induction moved generalizing status with
  | same statuses events =>
    exact ⟨status, (statuses tid).trans held, log.congr (changes_congr events tid)⟩
  | @written s t fromStatus entry found statuses events own origin numbered =>
    have same : fromStatus = status := Option.some.inj (found.symm.trans held)
    refine ⟨entry.toStatus, ?_, log.add events own ((origin sure).trans (congrArg some same))
      numbered⟩
    rw [statuses tid, if_pos rfl]
  | trans _ _ first second =>
    obtain ⟨between, reached, kept⟩ := first held log
    exact second reached kept

/-- A recorded write keeps the statuses and the entries of the other tasks. -/
theorem Moved.frame {other : String} (different : other ≠ tid) :
    t.statusOf other = s.statusOf other ∧ t.changes other = s.changes other := by
  induction moved with
  | same statuses events => exact ⟨statuses other, changes_congr events other⟩
  | written held statuses events own =>
    constructor
    · rw [statuses other, if_neg different]
    · rw [changes_append events, if_neg fun change => different (change.1.symm.trans own)]
  | trans _ _ first second => exact ⟨second.1.trans first.1, second.2.trans first.2⟩

/-- No task comes or goes. -/
theorem Moved.isSome (other : String) : (t.statusOf other).isSome = (s.statusOf other).isSome := by
  induction moved with
  | same statuses => rw [statuses]
  | written held statuses =>
    rw [statuses]
    split
    · next own => rw [own, held, Option.isSome_some, Option.isSome_some]
    · rfl
  | trans _ _ first second => exact second.trans first

theorem Moved.known (known : ∀ entry ∈ s.events, (s.statusOf entry.tid).isSome) :
    ∀ entry ∈ t.events, (t.statusOf entry.tid).isSome := by
  induction moved with
  | same statuses events =>
    intro entry mem
    rw [statuses]
    exact known entry (events ▸ mem)
  | @written s t fromStatus entry held statuses events own origin numbered =>
    intro other mem
    rw [statuses]
    split
    · rfl
    · next different =>
      rw [events] at mem
      cases mem_append.mp mem with
      | inl old => exact known other old
      | inr new => exact absurd (mem_singleton.mp new ▸ own) different
  | trans _ _ first second => exact second (first known)

end

theorem moveStatus_events (tid : String) (guards : List TaskStatus) (status : TaskStatus)
    (info : String) (extra : Extra) :
    (s.moveStatus tid guards status info extra).1.events = s.events := by
  unfold moveStatus
  split
  · rfl
  · split <;> rfl

/-- A guarded write with its record. -/
theorem Moved.move {guards : List TaskStatus} {found : TaskStatus}
    (held : s.statusOf tid = some found) (guarded : found ∈ guards)
    (named : honest → fromStatus = found)
    (toStatus : TaskStatus) (info : String) (extra : Extra) (reason source : String) (now : Int) :
    Moved honest tid s ((s.moveStatus tid guards toStatus info extra).1.addEvent tid
      (some fromStatus) toStatus reason source now) := by
  have log := moveStatus_events (s := s) tid guards toStatus info extra
  apply Moved.written held _ (congrArg (· ++ [_]) log) rfl (fun sure => congrArg some (named sure))
  · show nextTaskEventSequence _ _ = _
    unfold nextTaskEventSequence
    rw [log]
  · intro other
    show (s.moveStatus tid guards toStatus info extra).1.statusOf other = _
    rw [statusOf_moveStatus, held]
    by_cases own : other = tid
    · rw [if_pos own, if_pos ⟨own, decide_eq_true guarded⟩]
    · rw [if_neg own, if_neg fun both => own both.1]

theorem Moved.transition (task : HotmethodTask) (toStatus : TaskStatus) (reason source : String)
    (extra : Extra) (now : Int) :
    Moved honest task.tid s (s.transitionTaskStatus task toStatus reason source extra now).1 := by
  unfold transitionTaskStatus
  dsimp only
  generalize (if reason = "" then "状态迁移" else reason) = text
  split
  · next took =>
    rw [moveStatus_took, guarded_iff] at took
    obtain ⟨held, guarded, current⟩ := took
    rw [mem_singleton.mp guarded] at current
    exact .move current (mem_singleton_self _) (fun _ => rfl) _ _ _ _ _ _
  · exact .of_eq rfl rfl

end TaskStore

namespace Job

variable {s : TaskStore} {honest : Prop}

/-- The second status write of a success notification, if its entry names the status it finds. -/
theorem advanceToDone_moved (task : HotmethodTask) (fromStatus : TaskStatus) (now : Int)
    (read : honest → s.statusOf task.tid = some .running ∨ s.statusOf task.tid = some .uploading →
      s.statusOf task.tid = some fromStatus) :
    TaskStore.Moved honest task.tid s (advanceToDone s task fromStatus now) := by
  unfold advanceToDone
  dsimp only
  split
  · next took =>
    rw [moveStatus_took, guarded_iff] at took
    obtain ⟨held, guarded, current⟩ := took
    refine .move current guarded (fun sure => ?_) _ _ _ _ _ _
    have named := read sure (by simpa [current] using guarded)
    exact Option.some.inj (named.symm.trans current)
  · exact .of_eq rfl rfl

theorem uploadAndFinish_moved (task : HotmethodTask) (now : Int)
    (running : s.statusOf task.tid = some .running) :
    TaskStore.Moved honest task.tid s (uploadAndFinish s task now) := by
  have first : TaskStore.Moved honest task.tid s _ := .move running (mem_singleton_self _)
    (fun _ => rfl) .uploading uploadedInfo {} uploadedInfo "drop_server_notify" now
  have between : ((s.moveStatus task.tid [.running] .uploading uploadedInfo {}).1.addEvent task.tid
      (some .running) .uploading uploadedInfo "drop_server_notify" now).statusOf task.tid =
        some .uploading := by
    show (s.moveStatus task.tid [.running] .uploading uploadedInfo {}).1.statusOf task.tid = _
    rw [statusOf_moveStatus, running]
    exact if_pos ⟨rfl, by decide⟩
  exact first.trans (advanceToDone_moved task .uploading now fun _ _ => between)

/-- What a success notification registers leaves statuses and log alone. -/
theorem register_moved (req : TaskResultNotifyReq) (task : HotmethodTask) (now : Int)
    (tid : String) : TaskStore.Moved honest tid s (register s req task now).store :=
  .of_eq (EndsAttempts.notify (s := s)).tasks EndsAttempts.notify.events

/-- The status that the second write of a success notification names is the one that it finds. -/
def ReadsHeld (s : TaskStore) : Job → Prop
  | .notified req task => req.isError = false → task.status ≠ .running →
      s.statusOf task.tid = some .running ∨ s.statusOf task.tid = some .uploading →
      s.statusOf task.tid = some task.status
  | .notifyAdvance _ task => s.statusOf task.tid ≠ some .running
  | _ => True

instance (s : TaskStore) (job : Job) : Decidable (job.ReadsHeld s) := by
  induction job using Job.casesOn <;> dsimp only [ReadsHeld] <;> infer_instance

theorem notifySuccess_moved (req : TaskResultNotifyReq) (task : HotmethodTask) (now : Int)
    (read : honest → task.status ≠ .running →
      s.statusOf task.tid = some .running ∨ s.statusOf task.tid = some .uploading →
      s.statusOf task.tid = some task.status) :
    TaskStore.Moved honest task.tid s (notifySuccess s req task now).store := by
  unfold notifySuccess
  split
  · exact register_moved req task now _
  · split
    · split
      · next running =>
          exact (uploadAndFinish_moved task now running).trans (register_moved req task now _)
      · exact .of_eq rfl rfl
    · next other =>
      exact (advanceToDone_moved task task.status now fun sure => read sure other).trans
        (register_moved req task now _)

theorem failTask_moved (req : TaskResultNotifyReq) (task : HotmethodTask) (endTime : Int) :
    TaskStore.Moved honest task.tid s (failTask s req task endTime) := by
  have step := failTask_status (s := s) req task endTime
  unfold failTask at step ⊢
  cases read : task.status with
  | canceled => exact .of_eq rfl rfl
  | failed =>
    rw [read] at step
    refine .same (fun other => ?_) rfl
    cases step other with
    | inl same => exact same
    | inr written =>
      obtain ⟨fromStatus, toStatus, ⟨-, held, -, unfailed, -⟩, -⟩ := written
      exact absurd (held.symm.trans read) unfailed
  | created | running | done | uploading => exact .transition _ _ _ _ _ _

theorem pollTask_moved (task : HotmethodTask) (now : Int) (found : Bool) :
    TaskStore.Moved honest task.tid s (pollTask s task now found) := by
  rcases pollTask_cases s task now found with same | ⟨toStatus, reason, extra, same, -⟩
  · rw [same]
    exact .of_eq rfl rfl
  · rw [same]
    exact .transition _ _ _ _ _ _

/-! ## One step -/

theorem moves_of_target {task : HotmethodTask} {toStatus : TaskStatus}
    (writes : job.target = some (task, toStatus)) : job.moves = some task := by
  cases job with
  | accepted | exhausted | abandoning | movingParent | canceling =>
    cases writes
    rfl
  | _ => cases writes

/-- What a step does to the statuses and the log, apart from the record of a creation: nothing, or a
recorded write to the task of the job. -/
theorem Stores.moves {t : TaskStore} {input : StepInput} (stored : Stores s input job t)
    (other : job.records = none) : t.tasks = s.tasks ∧ t.events = s.events ∨
      ∃ task, job.moves = some task ∧ TaskStore.Moved (job.ReadsHeld s) task.tid s t := by
  have ended (ends : s.EndsAttempts t) : t.tasks = s.tasks ∧ t.events = s.events :=
    ⟨ends.tasks, ends.events⟩
  cases stored with
  | kept _ tasks _ events => exact .inl ⟨tasks, events⟩
  | recorded => cases other
  | inserted _ _ row => exact .inl (insertAttempt_beside row)
  | callEnded => exact .inl (ended .call)
  | exhausted | canceled => exact .inl (ended .latest)
  | moved _ _ _ _ writes => exact .inr ⟨_, moves_of_target writes, .transition _ _ _ _ _ _⟩
  | refused | registered => exact .inl (ended .notify)
  | @notified req task success =>
    exact .inr ⟨task, if_neg success, notifySuccess_moved req task input.now
      fun read => read (Bool.eq_false_iff.mpr success)⟩
  | failing req task endTime => exact .inr ⟨task, rfl, failTask_moved req task endTime⟩
  | advanced req task =>
    have advanced := advanceToDone_moved (s := s) task .uploading input.now
      fun (read : s.statusOf task.tid ≠ some .running) unfinished => unfinished.resolve_left read
    exact .inr ⟨task, rfl, advanced.trans (register_moved req task input.now _)⟩
  | polled task now => exact .inr ⟨task, rfl, pollTask_moved task now input.found⟩

theorem next_records {input : StepInput} (other : job.records = none) :
    (run s job input).next.filterMap records = [] := by
  apply filterMap_eq_nil_iff.mpr
  intro rest mem
  cases next_of_mem mem with
  | numbered => cases other
  | _ => rfl

end Job

theorem TaskStore.fresh_of_isNew {s : TaskStore} {tids : List String} (new : s.isNew tids = true) :
    tids.Nodup ∧ ∀ tid ∈ tids, s.statusOf tid = none := by
  unfold isNew at new
  rw [Bool.and_eq_true, all_eq_true] at new
  refine ⟨of_decide_eq_true new.1, fun tid mem => ?_⟩
  rw [statusOf, Option.isNone_iff_eq_none.mp (new.2 tid mem), Option.map_none]

/-! ## Whole runs -/

namespace TaskWorld

/-- The creation of the task is recorded before its status is written, and the second write of a
success notification for it finds the status that it has read. -/
def RecordsFirst (tid : String) (w : TaskWorld) : LogAction → Prop
  | .task (.advance index _) => ∀ job ∈ w.jobs[index]?, ∀ task ∈ job.moves, task.tid = tid →
      job.ReadsHeld w.store ∧ tid ∉ w.unrecorded.map Prod.fst
  | _ => True

instance (tid : String) (w : TaskWorld) (action : LogAction) :
    Decidable (RecordsFirst tid w action) := by
  cases action with
  | note => exact .isTrue trivial
  | task action =>
    induction action using TaskAction.casesOn <;> dsimp only [RecordsFirst] <;> infer_instance

/-- The log of a task is exact once its creation is recorded, and empty before. -/
structure Logged (tid : String) (w : TaskWorld) : Prop where
  known : ∀ entry ∈ w.store.events, (w.store.statusOf entry.tid).isSome
  once : (w.unrecorded.map Prod.fst).Nodup
  listed : ∀ pair ∈ w.unrecorded, (w.store.statusOf pair.1).isSome
  pending : ∀ status, (tid, status) ∈ w.unrecorded →
    w.store.statusOf tid = some status ∧ w.store.changes tid = []
  recorded : ∀ status, w.store.statusOf tid = some status →
    tid ∉ w.unrecorded.map Prod.fst → w.store.Exact tid status

variable {w next : TaskWorld}

variable {before after : List Job} {input : StepInput} {name tid reason source : String}
  {status : TaskStatus} {sequence : Nat} {now : Int}

section

variable {left : List (String × TaskStatus)} (unrecorded : next.unrecorded = left)
  (known : ∀ entry ∈ next.store.events, (next.store.statusOf entry.tid).isSome)
  (once : (left.map Prod.fst).Nodup) (listed : ∀ pair ∈ left, (next.store.statusOf pair.1).isSome)
include unrecorded known once listed

/-- The log of the task is as it has to be. -/
theorem Logged.of_own (own : ∀ status, ((name, status) ∈ left →
      next.store.statusOf name = some status ∧ next.store.changes name = []) ∧
    (next.store.statusOf name = some status → name ∉ left.map Prod.fst →
      next.store.Exact name status)) : Logged name next := by
  subst unrecorded
  exact ⟨known, once, listed, fun status => (own status).1, fun status => (own status).2⟩

/-- The log of the task is as it was. -/
theorem Logged.of_same (logged : Logged name w)
    (current : next.store.statusOf name = w.store.statusOf name)
    (changes : next.store.changes name = w.store.changes name)
    (same : ∀ status, (name, status) ∈ left ↔ (name, status) ∈ w.unrecorded) :
    Logged name next := by
  refine .of_own unrecorded known once listed fun status => ⟨fun mem => ?_, fun held recorded => ?_⟩
  · rw [current, changes]
    exact logged.pending status ((same status).mp mem)
  · refine (logged.recorded status (current ▸ held) fun pending => recorded ?_).congr changes
    obtain ⟨pair, mem, rfl⟩ := mem_map.mp pending
    exact mem_map_of_mem ((same pair.2).mpr mem)

end

section

variable (logged : Logged name w)
include logged

/-- A job that records no creation writes to one task, if to any. -/
theorem Logged.work (jobs : w.jobs = before ++ job :: after) (other : job.records = none)
    (first : ∀ task, job.moves = some task → task.tid = name →
      job.ReadsHeld w.store ∧ name ∉ w.unrecorded.map Prod.fst) :
    Logged name (w.between before after (run w.store job input)) := by
  have unrecorded : (before ++ (run w.store job input).next ++ after).filterMap records =
      w.unrecorded := by
    rw [unrecorded, jobs, filterMap_append, filterMap_append, next_records other,
      append_nil, filterMap_append, filterMap_cons_none other]
  rcases (run_does w.store job input).stores.moves other with ⟨tasks, events⟩ | ⟨task, moves, moved⟩
  · have statuses (other : String) := statusOf_congr tasks other
    refine .of_same unrecorded (fun entry mem => ?_) logged.once (fun pair mem => ?_) logged
      (statuses name) (changes_congr events name) fun _ => .rfl
    · exact (statuses entry.tid).symm ▸ logged.known entry (events ▸ mem)
    · exact (statuses pair.1).symm ▸ logged.listed pair mem
  · have listed : ∀ pair ∈ w.unrecorded, ((run w.store job input).store.statusOf pair.1).isSome :=
      fun pair mem => (moved.isSome pair.1).trans (logged.listed pair mem)
    by_cases own : name = task.tid
    · obtain ⟨read, recorded⟩ := first task moves own.symm
      subst own
      refine .of_own unrecorded (moved.known logged.known) logged.once listed
        fun status => ⟨fun mem => absurd (mem_map_of_mem mem) recorded, fun held _ => ?_⟩
      · have present := (moved.isSome task.tid).symm.trans (Option.isSome_of_eq_some held)
        obtain ⟨current, found⟩ := Option.isSome_iff_exists.mp present
        obtain ⟨reached, after, exact⟩ :=
          moved.exact read found (logged.recorded current found recorded)
        exact Option.some.inj (after.symm.trans held) ▸ exact
    · obtain ⟨current, changes⟩ := moved.frame own
      exact .of_same unrecorded (moved.known logged.known) logged.once listed logged current changes
        fun _ => .rfl

theorem Logged.number (jobs : w.jobs = before ++ .recordEvent tid status reason source :: after) :
    Logged name { store := w.store
                  jobs := before ++
                    (run w.store (.recordEvent tid status reason source) input).next ++ after
                  log := w.log } := by
  refine .of_same ?_ logged.known logged.once logged.listed logged rfl rfl fun _ => .rfl
  unfold unrecorded
  rw [jobs, filterMap_append, filterMap_append, filterMap_append, append_assoc]
  rfl

/-- The creation of a task is recorded. -/
theorem Logged.record
    (jobs : w.jobs = before ++ .insertEvent tid status reason source sequence :: after) :
    Logged name { store := { w.store with
                    events := w.store.events ++
                      [{ tid, fromStatus := none, toStatus := status, reason, source, sequence,
                         createdAt := now }] }
                  jobs := before ++ [] ++ after
                  log := w.log } := by
  have listed : w.unrecorded =
      before.filterMap records ++ (tid, status) :: after.filterMap records := by
    rw [unrecorded, jobs, filterMap_append]
    rfl
  have left : (before ++ [] ++ after).filterMap records =
      before.filterMap records ++ after.filterMap records := by
    rw [append_nil, filterMap_append]
  obtain ⟨fresh, once⟩ : tid ∉ (before.filterMap records ++ after.filterMap records).map Prod.fst ∧
      ((before.filterMap records ++ after.filterMap records).map Prod.fst).Nodup := by
    have nodup := logged.once
    rw [listed, map_append, map_cons] at nodup
    rw [map_append]
    exact nodup_cons.mp (nodup_middle.mp nodup)
  have mine : (tid, status) ∈ w.unrecorded := listed ▸ mem_append_right _ mem_cons_self
  let entry : TaskStatusEvent := ⟨tid, none, status, reason, source, sequence, now⟩
  have known : ∀ other ∈ w.store.events ++ [entry], (w.store.statusOf other.tid).isSome :=
    forall_mem_append.mpr ⟨logged.known, forall_mem_singleton.mpr (logged.listed _ mine)⟩
  have rows : ∀ pair ∈ before.filterMap records ++ after.filterMap records,
      (w.store.statusOf pair.1).isSome := by
    refine fun pair mem => logged.listed pair (listed ▸ ?_)
    exact (mem_append.mp mem).elim (mem_append_left _) fun later =>
      mem_append_right _ (mem_cons_of_mem _ later)
  by_cases own : name = tid
  · subst own
    obtain ⟨created, empty⟩ := logged.pending status mine
    refine .of_own left known once rows
      fun current => ⟨fun mem => absurd (mem_map_of_mem mem) fresh, fun held _ => ?_⟩
    rw [Option.some.inj (held.symm.trans created)]
    exact TaskStore.Exact.first entry empty rfl rfl rfl
  · refine .of_same left known once rows logged rfl ?_ fun current => ?_
    · rw [changes_append (s := w.store) rfl, if_neg fun change => own change.1.symm]
    · simp [listed, own]

/-- New tasks are not recorded. -/
theorem Logged.enter {action : TaskAction} {out : JobOutcome}
    (entered : action.enter w.store = some out) : Logged name (w.enter out) := by
  obtain ⟨rows, tasks, -, events, new, records, -⟩ := TaskAction.enter_adds entered
  obtain ⟨nodup, free⟩ := fresh_of_isNew new
  have unrecorded : unrecorded (w.enter out) =
      w.unrecorded ++ rows.map fun row => (row.tid, row.status) := by
    rw [← records]
    exact filterMap_append
  have unused (tid : String) (new : tid ∈ rows.map (·.tid)) : tid ∉ w.unrecorded.map Prod.fst := by
    intro pending
    obtain ⟨pair, mem, rfl⟩ := mem_map.mp pending
    have held := logged.listed pair mem
    rw [free pair.1 new] at held
    cases held
  have kept {tid : String} (held : (w.store.statusOf tid).isSome) :
      (out.store.statusOf tid).isSome := by
    obtain ⟨status, held⟩ := Option.isSome_iff_exists.mp held
    exact Option.isSome_of_eq_some (statusOf_grow tasks held)
  have known : ∀ entry ∈ out.store.events, (out.store.statusOf entry.tid).isSome :=
    fun entry mem => kept (logged.known entry (events ▸ mem))
  have once : ((w.unrecorded ++ rows.map fun row => (row.tid, row.status)).map Prod.fst).Nodup := by
    rw [map_append, map_map]
    refine nodup_append.mpr ⟨logged.once, nodup, ?_⟩
    rintro tid pending other new rfl
    exact unused tid new pending
  have listed : ∀ pair ∈ w.unrecorded ++ rows.map fun row => (row.tid, row.status),
      (out.store.statusOf pair.1).isSome := by
    refine forall_mem_append.mpr ⟨fun pair mem => kept (logged.listed pair mem),
      forall_mem_map.mpr fun row mem => ?_⟩
    exact Option.isSome_of_eq_some
      (statusOf_new tasks nodup mem (free row.tid (mem_map_of_mem mem)))
  have changes : out.store.changes name = w.store.changes name := changes_congr events name
  by_cases own : name ∈ rows.map (·.tid)
  · refine .of_own unrecorded known once listed
      fun status => ⟨fun mem => ?_, fun _ recorded => absurd ?_ recorded⟩
    · rcases mem_append.mp mem with old | new
      · exact absurd (mem_map_of_mem old) (unused name own)
      · obtain ⟨row, added, same⟩ := mem_map.mp new
        cases same
        refine ⟨statusOf_new tasks nodup added (free row.tid own), changes.trans ?_⟩
        refine filter_eq_nil_iff.mpr fun entry logEntry mine => ?_
        have held := logged.known entry logEntry
        rw [(of_decide_eq_true mine).1, free row.tid own] at held
        cases held
    · rw [map_append, map_map]
      exact mem_append_right _ own
  · refine .of_same unrecorded known once listed logged (statusOf_old tasks own) changes
      fun status => ?_
    rw [mem_append, or_iff_left]
    intro new
    obtain ⟨row, added, same⟩ := mem_map.mp new
    exact own (mem_map.mpr ⟨row, added, congrArg Prod.fst same⟩)

theorem Logged.note (task : (w.store.statusOf tid).isSome) :
    Logged name { w with store := w.store.addNote tid status reason source sequence now } := by
  have changes : (w.store.addNote tid status reason source sequence now).changes name =
      w.store.changes name := by
    rw [changes_append (s := w.store) rfl, if_neg fun change => change.2 rfl]
  refine .of_same rfl ?_ logged.once logged.listed logged rfl changes fun _ => .rfl
  exact forall_mem_append.mpr ⟨logged.known, forall_mem_singleton.mpr task⟩

/-- Every step in which the creation of the task is recorded first keeps its log exact. -/
theorem Logged.step {action : LogAction} (first : RecordsFirst name w action)
    (taken : w.logStep action = some next) : Logged name next := by
  cases action with
  | note =>
    simp only [logStep, Option.ite_none_right_eq_some] at taken
    cases taken.2
    exact logged.note taken.1.1
  | task =>
    cases step_cases taken with
    | inl worked =>
      obtain ⟨index, input, before, job, after, rfl, found, jobs, rfl⟩ := worked
      cases records : job.records with
      | none => exact logged.work jobs records (first job found)
      | some =>
        cases job with
        | recordEvent => exact logged.number jobs
        | insertEvent => exact logged.record jobs
        | _ => cases records
    | inr entered =>
      obtain ⟨out, entered, rfl⟩ := entered
      exact logged.enter entered

end

/-- In a run from empty tables in which the creation of a task is recorded before its status is
written and a success notification for it finds the status that it has read: the entries that change
the status of the task have different sequence numbers, follow each other in that order and end in
the status of the task. Until its creation is recorded there are none. -/
theorem history_exact {actions : List LogAction} {w : TaskWorld} {tid : String}
    (first : Along logStep (RecordsFirst tid) { store := {} } actions)
    (reached : run logStep { store := {} } actions = some w) {status : TaskStatus}
    (held : w.store.statusOf tid = some status) :
    (tid ∈ w.unrecorded.map Prod.fst → w.store.history tid = []) ∧
      (tid ∉ w.unrecorded.map Prod.fst → ((w.store.history tid).map (·.sequence)).Nodup ∧
          (w.store.history tid).IsChain (fun earlier later =>
            later.fromStatus = some earlier.toStatus) ∧
          (w.store.history tid).getLast?.map (·.toStatus) = some status) := by
  have start : Logged tid { store := {} } :=
    ⟨forall_mem_nil _, nodup_nil, forall_mem_nil _, fun _ mem => absurd mem not_mem_nil,
      fun _ held => nomatch held⟩
  have logged : Logged tid w :=
    run_invariant_along (fun _ _ _ kept allowed taken => kept.step allowed taken) start first
      reached
  constructor
  · intro pending
    obtain ⟨pair, mem, rfl⟩ := mem_map.mp pending
    unfold history
    rw [(logged.pending pair.2 mem).2]
    rfl
  · intro recorded
    have log := logged.recorded status held recorded
    rw [log.history_eq]
    exact ⟨log.sequences_nodup, log.chained.imp fun _ _ follows => follows.2, log.ends⟩

/-- A task is created and recorded, and handed out step by step. -/
def recordedFirst (count : Nat) : List TaskAction :=
  [.create { tid := "t" } 0, .advance 0 {}, .advance 0 {}, .claim 20 [] 0] ++ steps 0 count

/-- Steps of the status writers. -/
def ofTasks (actions : List TaskAction) : List LogAction := actions.map .task

/-- It is accepted, its result is registered, and its files are pinned. -/
def recordedTask : List LogAction :=
  ofTasks (recordedFirst 5 ++ [.notify stored, .advance 1 {}]) ++
    [.note "t" .done "固定全部产物" "artifact_pin" 5 1]

/-- Its log is exact. -/
theorem recorded_task_history :
    (run logStep { store := {} } recordedTask).map (fun w =>
        (w.store.statusOf "t", (w.store.history "t").map fun entry =>
          (entry.sequence, entry.fromStatus, entry.toStatus))) =
      some (some .done, [(1, none, .created), (2, some .created, .running),
        (3, some .running, .uploading), (4, some .uploading, .done)]) ∧
      ∀ w, run logStep { store := {} } recordedTask = some w →
        w.store.statusOf "t" = some .done → "t" ∉ w.unrecorded.map Prod.fst →
        (w.store.history "t").getLast?.map (·.toStatus) = some .done :=
  ⟨by decide, fun _ reached held recorded => ((history_exact
    (along_of_decide (by decide)) reached held).2 recorded).2.2⟩

/-- A task is handed out before its creation is recorded. -/
def recordedLate : List LogAction :=
  ofTasks (claimed ++ steps 1 4 ++ steps 0 2)

/-- A task is handed out between the two statements that record its creation. -/
def recordedBetween : List LogAction :=
  ofTasks ([.create { tid := "t" } 0, .advance 0 {}, .claim 20 [] 0] ++ steps 1 5 ++
    [.advance 0 {}])

/-- A notification reads its task before the dispatcher has written that it runs. -/
def notifiedEarly : List LogAction :=
  ofTasks (recordedFirst 4 ++ [.notify stored, .advance 0 {}, .advance 1 {}])

/-- The log ends in a status that the task does not have, two entries have one number, and an entry
does not start where the one before has ended. -/
theorem history_not_exact :
    (run logStep { store := {} } recordedLate).map (fun w =>
        (w.store.statusOf "t", (w.store.history "t").map fun entry =>
          (entry.sequence, entry.fromStatus, entry.toStatus))) =
      some (some .running, [(1, some .created, .running), (2, none, .created)]) ∧
    (run logStep { store := {} } recordedBetween).map (fun w =>
        (w.store.history "t").map fun entry => entry.sequence) = some [1, 1] ∧
    (run logStep { store := {} } notifiedEarly).map (fun w =>
        (w.store.history "t").map fun entry => (entry.sequence, entry.fromStatus, entry.toStatus)) =
      some [(1, none, .created), (2, some .created, .running), (3, some .created, .done)] := by
  decide

end TaskWorld

end MiniDrop
