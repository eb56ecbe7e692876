import MiniDrop.Verif.Delivery
/-!
# The latest attempt of a task

`CancelTask` names the attempt with the highest sequence number. In an exclusive run that is the one
attempt of the task that the drop server is called for, or has accepted.
-/
namespace MiniDrop

open Base List TaskStore Job

variable {trigger : AttemptTrigger} {task : HotmethodTask} {attemptID count : Nat} {t : TaskStore}

namespace TaskStore

variable {s t : TaskStore} {tid : String} {attemptID : Nat}

/-! ## Sequence numbers -/

/-- The attempts of a task with their sequence numbers. -/
def attemptsOf (s : TaskStore) (tid : String) : List (Nat × Nat) :=
  (s.attempts.filter (·.taskTID = tid)).map fun row => (row.id, row.attemptSeq)

/-- All other attempts of the task have lower sequence numbers. -/
def IsLatest (s : TaskStore) (tid : String) (attemptID : Nat) : Prop :=
  ∃ seq, (attemptID, seq) ∈ s.attemptsOf tid ∧
    ∀ other ∈ s.attemptsOf tid, other.1 ≠ attemptID → other.2 < seq

/-- The count is the number of the attempts. -/
theorem attemptCount_eq (s : TaskStore) (tid : String) :
    s.attemptCount tid = (s.attemptsOf tid).length := by
  rw [attemptsOf, length_map, attemptCount]

/-- The attempts of a task, from the keys of all rows. -/
theorem attemptsOf_eq_keys (s : TaskStore) (tid : String) : s.attemptsOf tid =
      ((s.attempts.map TaskAttempt.key).filter (fun key => key.2.1 = tid)).map
        fun key => (key.1, key.2.2) := by
  rw [attemptsOf, filter_map, map_map]
  rfl

/-- A new attempt is the last of its task. -/
theorem insertAttempt_attemptsOf {now : Int}
    (inserted : s.insertAttempt task trigger count now = some (t, attemptID)) (tid : String) :
    t.attemptsOf tid =
      if task.tid = tid then s.attemptsOf tid ++ [(attemptID, count + 1)]
        else s.attemptsOf tid := by
  unfold insertAttempt at inserted
  split at inserted
  · cases inserted
  · cases inserted
    unfold attemptsOf
    by_cases own : task.tid = tid
    · simp [own]
    · simp [own]

/-- The lookup finds the latest attempt. -/
theorem IsLatest.lookup (latest : s.IsLatest tid attemptID) :
    ((s.latestAttempt tid).map (·.id)).getD 0 = attemptID := by
  obtain ⟨seq, listed, lower⟩ := latest
  obtain ⟨row, mem, same⟩ := mem_map.mp listed
  obtain ⟨rowID, rowSeq⟩ := Prod.mk.inj same
  let order := fun row : TaskAttempt => toLex (-(row.attemptSeq : Int), row.id)
  have rowIn : row ∈ orderBy order (s.attempts.filter (·.taskTID = tid)) :=
    (mem_orderBy order).mpr mem
  have sorted := orderBy_pairwise order (s.attempts.filter (·.taskTID = tid))
  change (((orderBy order (s.attempts.filter (·.taskTID = tid))).head?).map (·.id)).getD 0 = _
  cases ordered : orderBy order (s.attempts.filter (·.taskTID = tid)) with
  | nil =>
    rw [ordered] at rowIn
    cases rowIn
  | cons first =>
    rw [ordered] at rowIn sorted
    have firstIn : first ∈ s.attempts.filter (·.taskTID = tid) :=
      (mem_orderBy order).mp (ordered ▸ mem_cons_self)
    by_contra differs
    have below := lower _ (mem_map.mpr ⟨first, firstIn, rfl⟩) differs
    -- The first row has the highest number, so that it is not below the latest one.
    have least : order first ≤ order row := by
      rcases mem_cons.mp rowIn with rfl | later
      · exact le_refl _
      · exact (pairwise_cons.mp sorted).1 row later
    rw [Prod.Lex.toLex_le_toLex] at least
    omega

end TaskStore

namespace Job

variable {s : TaskStore} {input : StepInput} {job rest : Job} {tid : String} {count attemptID : Nat}

/-! ## What a dispatch knows of the attempts -/

/-- The number of attempts that a dispatch of a task has counted. -/
def countFor (tid : String) : Job → Option Nat
  | .counted _ task _ count _ => if task.tid = tid then some count else none
  | _ => none

/-- The attempt of a task that the drop server is called for. -/
def callFor (tid : String) : Job → Option Nat
  | .calling _ task attemptID => if task.tid = tid then some attemptID else none
  | _ => none

/-- A job that has counted awaits its call. -/
theorem awaits_of_countFor (counted : job.countFor tid = some count) : job.awaits tid = true := by
  cases job with
  | counted =>
    simp only [countFor, Option.ite_none_right_eq_some] at counted
    exact decide_eq_true counted.1
  | _ => cases counted

/-- So does one that is about to call. -/
theorem awaits_of_callFor (calls : job.callFor tid = some attemptID) : job.awaits tid = true := by
  cases job with
  | calling =>
    simp only [callFor, Option.ite_none_right_eq_some] at calls
    exact decide_eq_true calls.1
  | _ => cases calls

/-- A job that awaits its call dispatches the task. -/
theorem dispatches_of_awaits (awaiting : job.awaits tid = true) : job.dispatches tid = true := by
  rw [dispatches, awaiting, Bool.true_or]

/-- The attempts of a task stay as they are, unless a dispatch of it records another one. -/
theorem run_attemptsOf (s : TaskStore) (job : Job) (input : StepInput) (tid : String) :
    (run s job input).store.attemptsOf tid = s.attemptsOf tid ∨
      ∃ count attemptID, job.countFor tid = some count ∧
        (run s job input).store.attemptsOf tid = s.attemptsOf tid ++ [(attemptID, count + 1)] := by
  rcases (run_does s job input).stores.rows with kept | ⟨entry, task, trigger, count, connected, id,
    rfl, inserted⟩
  · left
    rw [attemptsOf_eq_keys, attemptsOf_eq_keys, kept.attempts]
  · rw [insertAttempt_attemptsOf inserted tid]
    by_cases own : task.tid = tid
    · rw [if_pos own]
      exact Or.inr ⟨count, id, if_pos own, rfl⟩
    · rw [if_neg own]
      exact Or.inl rfl

/-- The step that inserts the attempt. -/
theorem run_inserted (entry : Option Outbox) (connected : Bool) {stored : TaskStore}
    (row : s.insertAttempt task trigger count input.now = some (stored, attemptID)) :
    (run s (.counted entry task trigger count connected) input).store = stored := by
  simp only [run, recordAttempt, row]
  split <;> rfl

/-- A count is one of the attempts that are there. -/
theorem Next.countFor_eq (follows : Next s input job rest)
    (counted : rest.countFor tid = some count) :
    count = s.attemptCount tid ∧ job.countFor tid = none := by
  cases follows with
  | counted =>
    simp only [countFor, Option.ite_none_right_eq_some, Option.some.injEq] at counted
    exact ⟨counted.1 ▸ counted.2.symm, rfl⟩
  | _ => cases counted

/-- What is left of a dispatch calls the drop server for the attempt that it has just recorded. -/
theorem Next.callFor_eq (follows : Next s input job rest)
    (calls : rest.callFor tid = some attemptID) : ∃ count, job.countFor tid = some count ∧
      (run s job input).store.attemptsOf tid = s.attemptsOf tid ++ [(attemptID, count + 1)] := by
  cases follows with
  | @inserted entry task trigger count connected stored id row =>
    simp only [callFor, Option.ite_none_right_eq_some, Option.some.injEq] at calls
    obtain ⟨own, rfl⟩ := calls
    refine ⟨count, if_pos own, ?_⟩
    rw [run_inserted entry connected row, insertAttempt_attemptsOf row tid, if_pos own]
  | _ => cases calls

/-- An acceptance is told by the job that made the call. -/
theorem Tells.callFor_of_accepted (tells : Tells s input job (.attemptAccepted tid attemptID)) :
    job.callFor tid = some attemptID := by
  generalize same : TaskEvent.attemptAccepted tid attemptID = event at tells
  cases tells with
  | accepted | timedOut =>
    cases same
    exact if_pos rfl
  | _ => cases same

end Job

/-! ## Whole runs -/

/-- The attempts of a task are numbered at most by their count. -/
def TaskStore.Numbered (s : TaskStore) (tid : String) : Prop :=
  ∀ attempt ∈ s.attemptsOf tid, attempt.2 ≤ (s.attemptsOf tid).length

variable {s : TaskStore}

/-- An attempt that gets the number after the count is the latest one. -/
theorem TaskStore.isLatest_append {tid : String}
    (numbered : s.Numbered tid) (counted : count = s.attemptCount tid)
    (added : t.attemptsOf tid = s.attemptsOf tid ++ [(attemptID, count + 1)]) :
    t.IsLatest tid attemptID ∧ t.Numbered tid := by
  rw [attemptCount_eq] at counted
  have bound : ∀ other ∈ t.attemptsOf tid, other = (attemptID, count + 1) ∨ other.2 ≤ count := by
    intro other mem
    rw [added] at mem
    rcases mem_append.mp mem with old | new
    · exact Or.inr (counted ▸ numbered other old)
    · exact Or.inl (mem_singleton.mp new)
  constructor
  · refine ⟨count + 1, ?_, fun other mem differs => ?_⟩
    · rw [added]
      exact mem_append_right _ (mem_singleton_self _)
    · rcases bound other mem with rfl | low
      · exact absurd rfl differs
      · omega
  · intro other mem
    have length : (t.attemptsOf tid).length = count + 1 := by
      rw [added, length_append, ← counted]
      rfl
    rcases bound other mem with rfl | low
    · exact length.ge
    · omega

namespace TaskWorld

variable {w next : TaskWorld} {action : TaskAction} {tid : String}

/-- In an exclusive run the attempt that the drop server is called for, or has accepted, is the
latest one of its task. -/
structure Current (tid : String) (w : TaskWorld) : Prop where
  numbered : w.store.Numbered tid
  counted : ∀ job ∈ w.jobs, ∀ count, job.countFor tid = some count →
    count = w.store.attemptCount tid
  calls : ∀ job ∈ w.jobs, ∀ attemptID, job.callFor tid = some attemptID →
    w.store.IsLatest tid attemptID
  accepted : ∀ attemptID, .attemptAccepted tid attemptID ∈ w.log → w.store.IsLatest tid attemptID

/-- The attempts of the task are all that matters. -/
theorem isLatest_congr {s : TaskStore} (same : t.attemptsOf tid = s.attemptsOf tid)
    (latest : s.IsLatest tid attemptID) : t.IsLatest tid attemptID := by
  unfold IsLatest
  rw [same]
  exact latest

/-- A step of a job keeps this. -/
theorem Current.advance (single : Single tid w) (current : Current tid w) (input : StepInput)
    {before after : List Job} {job : Job} (jobs : w.jobs = before ++ job :: after) :
    Current tid (w.between before after (run w.store job input)) := by
  have mem : job ∈ w.jobs := jobs ▸ mem_append_right _ mem_cons_self
  have one := single.one
  have once := single.once
  rcases run_attemptsOf w.store job input tid with same | ⟨count, id, counts, added⟩
  · -- The attempts of the task stay as they are.
    have count : (run w.store job input).store.attemptCount tid = w.store.attemptCount tid := by
      rw [attemptCount_eq, attemptCount_eq, same]
    constructor <;> dsimp only
    · unfold Numbered
      rw [same]
      exact current.numbered
    · rw [count]
      exact Pool.forall_replaced jobs current.counted fun rest left number counted =>
        ((next_of_mem left).countFor_eq counted).1
    · refine Pool.forall_replaced jobs (fun other old attemptID calls =>
        isLatest_congr same (current.calls other old attemptID calls))
          fun rest left attemptID calls => ?_
      obtain ⟨number, counts, added⟩ := (next_of_mem left).callFor_eq calls
      rw [same] at added
      have lengths := congrArg length added
      simp at lengths
    · intro attemptID listed
      rcases mem_append.mp listed with new | old
      · have calls := (tells_of_mem new).callFor_of_accepted
        exact isLatest_congr same (current.calls job mem attemptID calls)
      · exact isLatest_congr same (current.accepted attemptID old)
  · -- A dispatch of the task records its attempt: no other one is under way, and none was accepted.
    have awaiting := awaits_of_countFor counts
    have alone : ∀ other ∈ before ++ after, ¬other.awaits tid = true := by
      intro other beside otherAwaits
      have two := Pool.two_le_countP (dispatches_of_awaits awaiting) beside
        (dispatches_of_awaits otherAwaits)
      rw [← jobs] at two
      omega
    have unaccepted : ∀ attemptID, .attemptAccepted tid attemptID ∉ w.log := by
      intro attemptID listed
      have waits : 0 < w.jobs.countP (awaits tid) := countP_pos_iff.mpr ⟨job, mem, awaiting⟩
      have accepts : 0 < w.log.countP (TaskEvent.accepts tid) :=
        countP_pos_iff.mpr ⟨_, listed, decide_eq_true rfl⟩
      omega
    have latest := isLatest_append current.numbered (current.counted job mem count counts) added
    constructor <;> dsimp only
    · exact latest.2
    · intro other otherIn number counted
      rcases Pool.mem_beside otherIn with left | beside
      · rw [((next_of_mem left).countFor_eq counted).2] at counts
        cases counts
      · exact absurd (awaits_of_countFor counted) (alone other beside)
    · intro other otherIn attemptID calls
      rcases Pool.mem_beside otherIn with left | beside
      · obtain ⟨number, own, recorded⟩ := (next_of_mem left).callFor_eq calls
        exact (isLatest_append current.numbered (current.counted job mem number own) recorded).1
      · exact absurd (awaits_of_callFor calls) (alone other beside)
    · intro attemptID listed
      rcases mem_append.mp listed with new | old
      · have calls := (tells_of_mem new).callFor_of_accepted
        cases job with
        | counted => cases calls
        | _ => cases counts
      · exact absurd old (unaccepted attemptID)

variable {w next : TaskWorld} {action : TaskAction} {tid : String}

/-- New jobs keep this. -/
theorem Current.enter (current : Current tid w) {out : JobOutcome}
    (entered : action.enter w.store = some out) : Current tid (w.enter out) := by
  obtain ⟨rows, adds⟩ := TaskAction.enter_adds entered
  have same : out.store.attemptsOf tid = w.store.attemptsOf tid := by
    rw [attemptsOf, adds.attempts.attempts]
    rfl
  constructor
  · unfold Numbered
    rw [show (w.enter out).store = out.store from rfl, same]
    exact current.numbered
  · rw [show (w.enter out).store = out.store from rfl, attemptCount_eq, same, ← attemptCount_eq]
    refine Pool.forall_enter current.counted fun job new count counted => ?_
    cases TaskAction.enters_of_mem entered new <;> cases counted
  · refine Pool.forall_enter (fun job old attemptID calls =>
      isLatest_congr same (current.calls job old attemptID calls)) fun job new attemptID calls => ?_
    cases TaskAction.enters_of_mem entered new <;> cases calls
  · intro attemptID listed
    rcases mem_append.mp listed with new | old
    · obtain ⟨other, told⟩ := adds.only_errors _ new
      cases told
    · exact isLatest_congr same (current.accepted attemptID old)

/-- Every step keeps this. -/
theorem Current.step (single : Single tid w) (current : Current tid w)
    (taken : TaskWorld.step w action = some next) : Current tid next := by
  rcases step_cases taken with
    ⟨index, input, before, job, after, rfl, -, jobs, rfl⟩ | ⟨out, entered, rfl⟩
  · exact current.advance single input jobs
  · exact current.enter entered

/-- Without jobs there is nothing to know but the numbers. -/
theorem Current.start {store : TaskStore} (numbered : store.Numbered tid) :
    Current tid { store } where
  numbered := numbered
  counted _ mem := absurd mem not_mem_nil
  calls _ mem := absurd mem not_mem_nil
  accepted _ listed := absurd listed not_mem_nil

end TaskWorld

end MiniDrop
