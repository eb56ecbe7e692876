import MiniDrop.Server.StatusLog
import MiniDrop.Verif.TaskRows
/-!
# What one step can do

For each job, what may be left of it after a step and what the step writes to the log; for each
request and each round of a worker, the jobs that enter. Every invariant over whole runs is derived
from these relations.
-/
namespace MiniDrop

open List

variable {input : StepInput} {job : Job}

namespace Job

variable {s : TaskStore}

/-! ## What is left of a job -/

/-- What may be left of a job after a step. -/
inductive Next (s : TaskStore) (input : StepInput) : Job → Job → Prop
  | numbered (tid toStatus reason source) : Next s input (.recordEvent tid toStatus reason source)
      (.insertEvent tid toStatus reason source (s.nextTaskEventSequence tid))
  | skipped (entry) : Next s input (.claimed entry) (.publishing entry)
  | found {entry task} (trigger)
      (read : s.findTask entry.aggregateID = some task) (waiting : task.status = .created) :
    Next s input (.claimed entry) (.dispatching (some entry) task trigger)
  | givenUp (entry task trigger reason) :
      Next s input (.dispatching entry task trigger) (.abandoning task reason)
  | counted (entry task trigger connected) : Next s input (.dispatching entry task trigger)
      (.counted entry task trigger (s.attemptCount task.tid) connected)
  | refused (entry task trigger count connected reason) :
    Next s input (.counted (some entry) task trigger count connected) (.retrying entry task reason)
  | inserted (entry) {task trigger count} (connected) {stored attemptID}
      (row : s.insertAttempt task trigger count input.now = some (stored, attemptID)) :
    Next s input (.counted entry task trigger count connected) (.calling entry task attemptID)
  | unconnected (entry task trigger count connected attemptID errorCode message) :
    Next s input (.counted entry task trigger count connected)
      (.callFailed entry task attemptID errorCode message)
  | accepted (entry task attemptID) {msg} (answer : input.grpc = .answered 0 msg) :
    Next s input (.calling entry task attemptID) (.accepted entry task msg)
  | failed (entry task attemptID errorCode message) :
    Next s input (.calling entry task attemptID)
    (.callFailed entry task attemptID errorCode message)
  | published (entry task msg) : Next s input (.accepted (some entry) task msg) (.publishing entry)
  | retried (entry task attemptID errorCode message) :
    Next s input (.callFailed (some entry) task attemptID errorCode message)
    (.retrying entry task message)
  | exhausted (entry task reason) :
    Next s input (.retrying entry task reason) (.exhausted entry task reason)
  | dead (entry task reason) :
    Next s input (.exhausted entry task reason) (.deadLetter entry reason)
  | failing {req} (task endTime)
      (isError : req.isError = true) :
      Next s input (.notified req task) (.notifyFailing req task endTime)
  | missed {req task} (success : ¬req.isError = true)
      (running : task.status = .running) (moved : s.statusOf task.tid ≠ some .running) :
    Next s input (.notified req task) (.notifyReread req task)
  | registered {req task} (success : ¬req.isError = true) (commits : input.commits = true)
      (unmoved : task.status = .running → s.statusOf task.tid = some .running) :
    Next s input (.notified req task) (.refreshing task.masterTaskTID (some task.tid))
  | refreshed (req task endTime) :
    Next s input (.notifyFailing req task endTime) (.refreshing task.masterTaskTID none)
  | uploading (req) {task} (reread : s.statusOf task.tid = some .uploading) :
    Next s input (.notifyReread req task) (.notifyAdvance req task)
  | ended (req) {task} (reread : s.statusOf task.tid ≠ some .uploading) :
    Next s input (.notifyReread req task) (.notifySkip req task)
  | advanced (req task) (commits : input.commits = true) :
    Next s input (.notifyAdvance req task) (.refreshing task.masterTaskTID (some task.tid))
  | kept (req task) :
    Next s input (.notifySkip req task) (.refreshing task.masterTaskTID (some task.tid))
  | alone (parent reply) : Next s input (.refreshing parent reply) (.answering reply)
  | composite (parent) {mt} (reply) (row : mt ∈ s.multiTasks) :
    Next s input (.refreshing parent reply) (.aggregating mt reply)
  | aggregated (mt reply) : Next s input (.aggregating mt reply)
      (.saving mt (aggregateCompositeStatus mt (childrenOf s mt.tid)) reply)
  | saved (mt aggregate reply) :
    Next s input (.saving mt aggregate reply) (.readingParent mt aggregate reply)
  | same (mt aggregate reply) : Next s input (.readingParent mt aggregate reply) (.answering reply)
  | differs {mt aggregate parent} (reply) (read : s.findTask mt.tid = some parent)
      (other : parent.status ≠ aggregate.status) :
    Next s input (.readingParent mt aggregate reply) (.movingParent parent aggregate reply)
  | moved (parent aggregate reply) :
    Next s input (.movingParent parent aggregate reply) (.answering reply)
  | canceled {task} (now) (held : s.statusOf task.tid = some task.status) :
    Next s input (.canceling task now) (.cancelAttempt task now)
  | attemptEnded (task now) : Next s input (.cancelAttempt task now) (.cancelEntries task now)
  | entriesEnded (task now) : Next s input (.cancelEntries task now) (.cancelLookup task)
  | lookedUp (task) : Next s input (.cancelLookup task)
      (.cancelCalling task (((s.latestAttempt task.tid).map (·.id)).getD 0))
  | uncalled (task) (offline : input.connected = false) :
    Next s input (.cancelLookup task) (.cancelReturning task)
  | called (task attemptID) : Next s input (.cancelCalling task attemptID) (.cancelReturning task)

/-! ## What a job does to the store -/

/-- The status that a job writes to the task it has read, if that is all it writes. -/
def target : Job → Option (HotmethodTask × TaskStatus)
  | .accepted _ task _ => some (task, .running)
  | .exhausted _ task _ | .abandoning task _ => some (task, .failed)
  | .movingParent parent aggregate _ => some (parent, aggregate.status)
  | .canceling task _ => some (task, .canceled)
  | _ => none

/-- What a step of a job may make of the store. -/
inductive Stores (s : TaskStore) (input : StepInput) : Job → TaskStore → Prop
  | kept (job : Job) {t} (tasks : t.tasks = s.tasks) (attempts : s.SameAttempts t)
      (events : t.events = s.events) : Stores s input job t
  | recorded (tid toStatus reason source sequence)
      {t} (tasks : t.tasks = s.tasks) (attempts : s.SameAttempts t) :
    Stores s input (.insertEvent tid toStatus reason source sequence) t
  | inserted (entry) {task trigger count} (connected) {t attemptID}
      (row : s.insertAttempt task trigger count input.now = some (t, attemptID)) :
    Stores s input (.counted entry task trigger count connected) t
  | callEnded (entry task attemptID errorCode message) :
        Stores s input (.callFailed entry task attemptID errorCode message)
        (s.finishTaskAttempt attemptID errorCode message input.now)
  | exhausted {entry} (task reason) (late : 3 ≤ entry.attempt + 1) :
    Stores s input (.retrying entry task reason)
      (s.finishLatestTaskAttempt task.tid "DEPENDENCY_UNAVAILABLE" reason [] input.now)
  | canceled (task now) : Stores s input (.cancelAttempt task now)
      (s.finishLatestTaskAttempt task.tid "TASK_CANCELED" "用户请求取消任务" [] now)
  | moved {job : Job} {task toStatus} (reason source extra now)
      (writes : job.target = some (task, toStatus)) :
    Stores s input job (s.transitionTaskStatus task toStatus reason source extra now).1
  | refused {req} (task errorCode)
      (isError : req.isError = true) : Stores s input (.notified req task)
        (s.finishTaskAttemptForNotify task.tid req.attemptID errorCode req.errorMessage
        [] input.now)
  | notified {req} (task) (success : ¬req.isError = true) :
    Stores s input (.notified req task) (notifySuccess s req task input.now).store
  | failing (req task endTime) :
    Stores s input (.notifyFailing req task endTime) (failTask s req task endTime)
  | advanced (req task) : Stores s input (.notifyAdvance req task)
      (register (advanceToDone s task .uploading input.now) req task input.now).store
  | registered (req task) :
    Stores s input (.notifySkip req task) (register s req task input.now).store
  | polled (task now) : Stores s input (.polled task now) (pollTask s task now input.found)

/-! ## What a job tells -/

/-- What a step of a job may write to the log. -/
inductive Tells (s : TaskStore) (input : StepInput) : Job → TaskEvent → Prop
  | accepted (entry task attemptID) {msg} (answer : input.grpc = .answered 0 msg) :
    Tells s input (.calling entry task attemptID) (.attemptAccepted task.tid attemptID)
  | timedOut (entry task attemptID) {message} (answer : input.grpc = .timedOut message) :
    Tells s input (.calling entry task attemptID) (.attemptAccepted task.tid attemptID)
  | answered (tid) : Tells s input (.answering (some tid)) (.successAnswered tid (s.statusOf tid))
  | delivered (task attemptID) (reached : input.delivered = true) :
    Tells s input (.cancelCalling task attemptID) (.cancelDelivered task.tid attemptID)
  | returned (task) : Tells s input (.cancelReturning task) (.cancelReturned task.tid)

/-! ## One step -/

/-- What a step of a job does: what it makes of the store, what is left of the job, and what it
tells. -/
structure Does (s : TaskStore) (input : StepInput) (job : Job) (out : JobOutcome) : Prop where
  stores : Stores s input job out.store
  next : out.next = [] ∨ ∃ rest, out.next = [rest] ∧ Next s input job rest
  events : out.events = [] ∨ ∃ event, out.events = [event] ∧ Tells s input job event

theorem run_does (s : TaskStore) (job : Job) (input : StepInput) :
    Does s input job (run s job input) := by
  have kept : Stores s input job s := .kept job rfl (.refl s) rfl
  have ends {t : TaskStore} (stores : Stores s input job t) : Does s input job { store := t } :=
    ⟨stores, .inl rfl, .inl rfl⟩
  have goes {t : TaskStore} {rest : Job} (stores : Stores s input job t)
      (next : Next s input job rest) : Does s input job { store := t, next := [rest] } :=
    ⟨stores, .inr ⟨rest, rfl, next⟩, .inl rfl⟩
  cases job with
  | recordEvent => exact goes kept (.numbered _ _ _ _)
  | insertEvent => exact ends (.recorded _ _ _ _ _ rfl ⟨rfl, rfl⟩)
  | publishing | deadLetter => exact ends (.kept _ rfl ⟨rfl, rfl⟩ rfl)
  | abandoning => exact ends (.moved _ _ _ _ rfl)
  | polled => exact ends (.polled _ _)
  | exhausted => exact goes (.moved _ _ _ _ rfl) (.dead _ _ _)
  | notifyFailing => exact goes (.failing _ _ _) (.refreshed _ _ _)
  | aggregating => exact goes kept (.aggregated _ _)
  | saving => exact goes (.kept _ rfl ⟨rfl, rfl⟩ rfl) (.saved _ _ _)
  | movingParent => exact goes (.moved _ _ _ _ rfl) (.moved _ _ _)
  | cancelAttempt => exact goes (.canceled _ _) (.attemptEnded _ _)
  | cancelEntries => exact goes (.kept _ rfl ⟨rfl, rfl⟩ rfl) (.entriesEnded _ _)
  | claimed entry =>
    dsimp only [run, processOutboxEntry]
    split
    · exact goes kept (.skipped entry)
    · split
      · exact goes kept (.skipped entry)
      · next task read =>
        split
        · exact goes kept (.skipped entry)
        · next waiting => exact goes kept (.found _ read (not_not.mp waiting))
  | dispatching entry task trigger =>
    dsimp only [run, startDispatch]
    split
    · exact goes kept (.givenUp entry task trigger _)
    · exact goes kept (.counted entry task trigger input.connected)
  | counted entry task trigger count connected =>
    dsimp only [run, recordAttempt]
    split
    · cases entry with
      | none => exact ends kept
      | some entry => exact goes kept (.refused entry task trigger count connected _)
    · next row =>
      split
      · exact goes (.inserted entry connected row) (.inserted entry connected row)
      · exact goes (.inserted entry connected row)
          (.unconnected entry task trigger count connected _ _ _)
  | calling entry task id =>
    dsimp only [run]
    cases answer : input.grpc with
    | answered code =>
      cases code with
      | zero =>
        exact ⟨kept, .inr ⟨_, rfl, .accepted entry task id answer⟩,
          .inr ⟨_, rfl, .accepted entry task id answer⟩⟩
      | succ => exact goes kept (.failed entry task id _ _)
    | unreached => exact goes kept (.failed entry task id _ _)
    | timedOut =>
      exact ⟨kept, .inr ⟨_, rfl, .failed entry task id _ _⟩,
        .inr ⟨_, rfl, .timedOut entry task id answer⟩⟩
  | accepted entry task msg =>
    cases entry with
    | none => exact ends (.moved _ _ _ _ rfl)
    | some entry => exact goes (.moved _ _ _ _ rfl) (.published entry task msg)
  | callFailed entry task id code message =>
    cases entry with
    | none => exact ends (.callEnded _ _ _ _ _)
    | some entry => exact goes (.callEnded _ _ _ _ _) (.retried entry task id code message)
  | retrying entry task reason =>
    dsimp only [run, retryOrFail]
    split
    · next late => exact goes (.exhausted task reason late) (.exhausted entry task reason)
    · exact ends (.kept _ rfl ⟨rfl, rfl⟩ rfl)
  | notified req task =>
    dsimp only [run, notify]
    split
    · next isError => exact goes (.refused task _ isError) (.failing task input.now isError)
    · next success =>
      split
      · next commits =>
        have stores : Stores s input (.notified req task) _ := .notified task success
        unfold notifySuccess at stores ⊢
        split
        · next done =>
          have other : task.status ≠ .running := fun running =>
            absurd (done.symm.trans running) (by decide)
          rw [if_pos done] at stores
          exact goes stores (.registered success commits fun running => absurd running other)
        · next undone =>
          rw [if_neg undone] at stores
          split
          · next running =>
            rw [if_pos running] at stores
            split
            · next unmoved =>
              rw [if_pos unmoved] at stores
              exact goes stores (.registered success commits fun _ => unmoved)
            · next moved => exact goes kept (.missed success running moved)
          · next other =>
            rw [if_neg other] at stores
            exact goes stores (.registered success commits fun running => absurd running other)
      · exact ends kept
  | notifyReread req task =>
    refine ⟨kept, ?_, .inl rfl⟩
    by_cases reread : s.statusOf task.tid = some .uploading
    · exact .inr ⟨_, if_pos reread, .uploading req reread⟩
    · exact .inr ⟨_, if_neg reread, .ended req reread⟩
  | notifyAdvance req task =>
    dsimp only [run]
    split
    · next commits => exact goes (.advanced req task) (.advanced req task commits)
    · exact ends kept
  | notifySkip req task =>
    dsimp only [run]
    split
    · exact goes (.registered req task) (.kept req task)
    · exact ends kept
  | refreshing parent reply =>
    dsimp only [run, readMultiTask]
    split
    · exact goes kept (.alone parent reply)
    · next found => exact goes kept (.composite parent reply (mem_of_find?_eq_some found))
  | readingParent mt aggregate reply =>
    dsimp only [run, readParent]
    split
    · exact goes kept (.same mt aggregate reply)
    · next parent read =>
      split
      · exact goes kept (.same mt aggregate reply)
      · next other => exact goes kept (.differs reply read other)
  | answering reply =>
    cases reply with
    | none => exact ends kept
    | some tid => exact ⟨kept, .inl rfl, .inr ⟨_, rfl, .answered tid⟩⟩
  | canceling task now =>
    dsimp only [run, cancel]
    split
    · next took =>
      exact goes (.moved _ _ _ _ rfl)
        (.canceled now ((TaskStore.transition_took _ _ _ _ _ _).mp took))
    · exact ends kept
  | cancelLookup task =>
    refine ⟨kept, ?_, .inl rfl⟩
    by_cases online : input.connected = true
    · exact .inr ⟨_, if_pos online, .lookedUp task⟩
    · exact .inr ⟨_, if_neg online, .uncalled task (Bool.eq_false_iff.mpr online)⟩
  | cancelCalling task id =>
    refine ⟨kept, .inr ⟨_, rfl, .called task id⟩, ?_⟩
    by_cases reached : input.delivered = true
    · exact .inr ⟨_, if_pos reached, .delivered task id reached⟩
    · exact .inl (if_neg reached)
  | cancelReturning task => exact ⟨kept, .inl rfl, .inr ⟨_, rfl, .returned task⟩⟩

theorem next_of_mem {rest : Job} (mem : rest ∈ (run s job input).next) : Next s input job rest :=
  Base.of_mem_atMostOne (run_does s job input).next mem

/-- A step keeps the tasks and the attempts, unless a dispatch records its attempt. -/
theorem Stores.rows {t : TaskStore} (stored : Stores s input job t) :
    KeepsRows s t ∨ ∃ entry task trigger count connected attemptID,
        job = .counted entry task trigger count connected ∧
        s.insertAttempt task trigger count input.now = some (t, attemptID) := by
  cases stored with
  | kept _ tasks attempts => exact .inl (.of_eq tasks attempts.attempts)
  | recorded _ _ _ _ _ tasks attempts => exact .inl (.of_eq tasks attempts.attempts)
  | inserted entry connected row => exact .inr ⟨entry, _, _, _, connected, _, rfl, row⟩
  | callEnded => exact .inl (.of_ends .call)
  | exhausted | canceled => exact .inl (.of_ends .latest)
  | moved => exact .inl (.of_writes .transition)
  | refused | registered => exact .inl (.of_ends .notify)
  | notified => exact .inl (.notifySuccess _ _ _)
  | failing => exact .inl (.of_writes .fail)
  | advanced => exact .inl ((KeepsRows.of_writes .advance).trans (.of_ends .notify))
  | polled => exact .inl (.of_writes .poll)

theorem Tells.of_success {tid : String} {status : Option TaskStatus}
    (tells : Tells s input job (.successAnswered tid status)) :
    job = .answering (some tid) ∧ status = s.statusOf tid := by
  generalize same : TaskEvent.successAnswered tid status = event at tells
  cases tells with
  | answered =>
    cases same
    exact ⟨rfl, rfl⟩
  | _ => cases same

theorem tells_of_mem {event : TaskEvent}
    (mem : event ∈ (run s job input).events) : Tells s input job event :=
  Base.of_mem_atMostOne (run_does s job input).events mem

end Job

/-! ## New jobs -/

namespace TaskAction

/-- The jobs that may enter with an action. -/
inductive Enters (s : TaskStore) : TaskAction → Job → Prop
  | created (new now reason source) :
    Enters s (.create new now) (.recordEvent new.tid .created reason source)
  | expanded (tid targetIP policy quorum children now child status reason source) :
    Enters s (.createComposite tid targetIP policy quorum children now)
      (.recordEvent child status reason source)
  | claimed (limit locked now entry) : Enters s (.claim limit locked now) (.claimed entry)
  | orphaned {now task} (row : task ∈ s.tasks)
      (waiting : task.status = .created) (late : task.createTime < now - 30 * 1000) :
    Enters s (.reconcile now) (.dispatching none task .recovery)
  | unreadable (now) {task} (reason)
      (waiting : task.status = .created) : Enters s (.reconcile now) (.abandoning task reason)
  | notified {req task}
      (read : s.findTask req.taskID = some task) : Enters s (.notify req) (.notified req task)
  | listed (tid) : Enters s (.listChildren tid) (.refreshing tid none)
  | canceling {tid} (now) {task} (read : s.findTask tid = some task)
      (unfinished : isTerminalTaskStatus task.status = false) :
    Enters s (.cancel tid now) (.canceling task now)
  | polled (now) {task} (row : task ∈ s.tasks)
      (working : task.status = .running ∨ task.status = .uploading) :
    Enters s (.poll now) (.polled task now)

variable {s : TaskStore} {action : TaskAction} {out : JobOutcome}

theorem enters_of_mem (entered : action.enter s = some out) (mem : job ∈ out.next) :
    Enters s action job := by
  cases action with
  | create new now =>
    simp only [enter, Option.ite_none_right_eq_some] at entered
    cases entered.2
    rw [mem_singleton.mp mem]
    exact .created new now _ _
  | createComposite tid targetIP policy quorum children now =>
    simp only [enter, Option.ite_none_right_eq_some] at entered
    cases entered.2
    rcases mem_cons.mp mem with rfl | child
    · exact .expanded tid targetIP policy quorum children now _ _ _ _
    · obtain ⟨new, -, rfl⟩ := mem_map.mp child
      exact .expanded tid targetIP policy quorum children now _ _ _ _
  | claim limit locked now =>
    cases entered
    obtain ⟨entry, -, rfl⟩ := mem_map.mp mem
    exact .claimed limit locked now entry
  | reconcile now =>
    cases entered
    obtain ⟨task, orphan, rfl⟩ := mem_map.mp mem
    obtain ⟨row, late⟩ := mem_filter.mp orphan
    simp only [Bool.and_eq_true, decide_eq_true_eq] at late
    split
    · exact .unreadable now _ late.1
    · exact .orphaned row late.1 late.2
  | notify =>
    simp only [enter] at entered
    split at entered
    · cases entered
      cases mem
    · next task read =>
      split at entered
      · cases entered
        rw [mem_singleton.mp mem]
        exact .notified read
      · split at entered
        · cases entered
          cases mem
        · cases entered
          rw [mem_singleton.mp mem]
          exact .notified read
  | listChildren tid =>
    cases entered
    rw [mem_singleton.mp mem]
    exact .listed tid
  | cancel tid now =>
    simp only [enter] at entered
    split at entered
    · cases entered
      cases mem
    · next task read =>
      split at entered
      · cases entered
        cases mem
      · next unfinished =>
        cases entered
        rw [mem_singleton.mp mem]
        exact .canceling now read (Bool.eq_false_iff.mpr unfinished)
  | poll now =>
    cases entered
    obtain ⟨task, working, rfl⟩ := mem_map.mp mem
    obtain ⟨row, status⟩ := mem_filter.mp working
    simp only [Bool.or_eq_true, decide_eq_true_eq] at status
    exact .polled now row status
  | advance => cases entered

theorem rows_children (children : List NewTask) (tid info : String) (now : Int) :
    (children.zipIdx.map fun (child, index) =>
      TaskStore.newRow { child with masterTaskTID := tid } info (now + index)).map
        (fun row => (row.tid, row.status)) =
      children.map fun child => (child.tid, TaskStatus.created) := by
  rw [map_map]
  conv_rhs => rw [← zipIdx_map_fst 0 children, map_map]
  rfl

/-- What an action adds to the store: the rows of new tasks, whose creation is to be recorded. -/
structure Adds (s : TaskStore) (out : JobOutcome) (rows : List HotmethodTask) : Prop where
  tasks : out.store.tasks = s.tasks ++ rows
  attempts : s.SameAttempts out.store
  log : out.store.events = s.events
  new : s.isNew (rows.map (·.tid)) = true
  records : out.next.filterMap Job.records = rows.map fun row => (row.tid, row.status)
  told : out.events = [] ∨ ∃ tid, out.events = [.errorNotified tid]

theorem Adds.only_errors {rows : List HotmethodTask} (adds : Adds s out rows) :
    ∀ event ∈ out.events, ∃ tid, event = .errorNotified tid := by
  intro event new
  rcases adds.told with none | ⟨tid, told⟩
  · rw [none] at new
    cases new
  · rw [told] at new
    exact ⟨tid, mem_singleton.mp new⟩

/-- An action adds rows of new tasks at most. It tells nothing, or that an error notification was
received. -/
theorem enter_adds (entered : action.enter s = some out) : ∃ rows, Adds s out rows := by
  have unchanged {out : JobOutcome} (tasks : out.store.tasks = s.tasks)
      (attempts : s.SameAttempts out.store) (log : out.store.events = s.events)
      (nothing : ∀ job ∈ out.next, job.records = none)
      (told : out.events = [] ∨ ∃ tid, out.events = [.errorNotified tid]) :
          ∃ rows, Adds s out rows :=
    ⟨[], by rw [tasks, append_nil], attempts, log, rfl, filterMap_eq_nil_iff.mpr nothing, told⟩
  have others := fun job (mem : job ∈ out.next) => enters_of_mem entered mem
  cases action with
  | create =>
    simp only [enter, Option.ite_none_right_eq_some] at entered
    cases entered.2
    exact ⟨[_], rfl, ⟨rfl, rfl⟩, rfl, entered.1, rfl, .inl rfl⟩
  | createComposite tid targetIP policy quorum children now =>
    simp only [enter, Option.ite_none_right_eq_some] at entered
    cases entered.2
    have rows := rows_children children tid "复合任务子任务已创建，等待下发" now
    refine ⟨_ :: _, rfl, ⟨rfl, rfl⟩, rfl, ?_, ?_, .inl rfl⟩
    · have tids := map_map.symm.trans ((congrArg (map Prod.fst) rows).trans map_map)
      exact (congrArg (fun rest => s.isNew (tid :: rest)) tids).trans entered.1
    · show (tid, TaskStatus.running) :: filterMap Job.records (children.map _) =
        (tid, TaskStatus.running) :: map _ (map _ children.zipIdx)
      rw [rows, filterMap_map]
      exact congrArg _ (congrFun
        (filterMap_eq_map (f := fun child : NewTask => (child.tid, TaskStatus.created))) children)
  | claim | reconcile | listChildren | poll =>
    cases entered
    apply unchanged rfl ⟨rfl, rfl⟩ rfl ?_ (.inl rfl)
    intro job mem
    cases others job mem <;> rfl
  | notify | cancel =>
    have nothing : ∀ job ∈ out.next, job.records = none := by
      intro job mem
      cases others job mem
      rfl
    simp only [enter] at entered
    -- Only a notification of an error tells the log, and nothing is stored.
    repeat' split at entered
    all_goals
      cases entered
      exact unchanged rfl (.refl s) rfl nothing (by first | exact .inl rfl | exact .inr ⟨_, rfl⟩)
  | advance => cases entered

end TaskAction

/-! ## Steps of the system -/

/-- A step is one of a job, with the jobs before and after it, or lets new jobs enter. -/
theorem TaskWorld.step_cases {w next : TaskWorld} {action : TaskAction}
    (taken : TaskWorld.step w action = some next) :
    (∃ index input before job after, action = .advance index input ∧
        w.jobs[index]? = some job ∧ w.jobs = before ++ job :: after ∧
        next = w.between before after (Job.run w.store job input)) ∨
      ∃ out, action.enter w.store = some out ∧ next = w.enter out := by
  cases action with
  | advance index input =>
    obtain ⟨before, job, after, found, jobs, same⟩ := Base.Pool.advance_eq_some taken
    exact .inl ⟨index, input, before, job, after, rfl, found, jobs, same⟩
  | _ =>
    simp only [TaskWorld.step] at taken
    obtain ⟨out, entered, same⟩ := Option.map_eq_some_iff.mp taken
    exact .inr ⟨out, entered, same.symm⟩

end MiniDrop
