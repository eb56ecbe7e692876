import MiniDrop.Verif.Attempts
/-!
# Cancels reach the attempts they are for

`CancelTask` writes the status, looks up the latest attempt and calls the drop server for it. A
dispatch that has read the task as waiting records its attempt after that lookup, and nothing names
it. In runs in which the status is not written between the read of a dispatch and its attempt, every
attempt that is ever accepted is named by a cancel that the drop server gets. One that comes before
the attempt stays in `pending_cancels_` and goes to the agent with its heartbeats.
-/
namespace MiniDrop

open Job Base List TaskWorld TaskStore

namespace Job

variable {s : TaskStore} {input : StepInput} {job rest : Job} {tid : String} {attemptID : Nat}

/-! ## The phases of a cancel -/

/-- A dispatch of a task that has read it as waiting and has no attempt yet. -/
def prepares (tid : String) : Job → Bool
  | .dispatching _ task _ => decide (task.tid = tid)
  | .counted _ task _ _ _ => decide (task.tid = tid)
  | _ => false

/-- A cancel of a task after its status write. -/
def cancels (tid : String) : Job → Bool
  | .cancelAttempt task _ => decide (task.tid = tid)
  | .cancelEntries task _ => decide (task.tid = tid)
  | .cancelLookup task => decide (task.tid = tid)
  | .cancelCalling task _ => decide (task.tid = tid)
  | .cancelReturning task => decide (task.tid = tid)
  | _ => false

/-- The attempt of a task that a cancel is about to name. -/
def namesFor (tid : String) : Job → Option Nat
  | .cancelCalling task attemptID => if task.tid = tid then some attemptID else none
  | _ => none

/-- A cancel of a task that is about to return. -/
def returns (tid : String) : Job → Bool
  | .cancelReturning task => decide (task.tid = tid)
  | _ => false

theorem awaits_of_prepares (preparing : job.prepares tid = true) : job.awaits tid = true := by
  cases job with
  | dispatching | counted => exact preparing
  | _ => cases preparing

theorem prepares_of_countFor {count : Nat} (counted : job.countFor tid = some count) :
    job.prepares tid = true := by
  cases job with
  | counted =>
    simp only [countFor, Option.ite_none_right_eq_some] at counted
    exact decide_eq_true counted.1
  | _ => cases counted

/-- A cancel that names an attempt is one after its status write. -/
theorem cancels_of_namesFor (names : job.namesFor tid = some attemptID) :
    job.cancels tid = true := by
  cases job with
  | cancelCalling =>
    simp only [namesFor, Option.ite_none_right_eq_some] at names
    exact decide_eq_true names.1
  | _ => cases names

/-- A cancel that is about to return is one after its status write. -/
theorem cancels_of_returns (returning : job.returns tid = true) : job.cancels tid = true := by
  cases job with
  | cancelReturning => exact returning
  | _ => cases returning

section

variable (follows : Next s input job rest)
include follows

/-- What is left of a dispatch has no attempt yet only if the dispatch had none, or has just read
that the task waits. -/
theorem Next.prepares_before (preparing : rest.prepares tid = true) :
    job.prepares tid = true ∨ ReadsWaiting s tid job := by
  have awaiting := follows.awaits_before (awaits_of_prepares preparing)
  cases follows with
  | found => exact .inr (awaiting.resolve_left (fun own => nomatch own))
  | counted => exact .inl preparing
  | _ => cases preparing

theorem Next.cancels_before (canceling : rest.cancels tid = true) : job.cancels tid = true ∨
      ∃ task now, job = .canceling task now ∧ task.tid = tid ∧
      s.statusOf tid = some task.status := by
  cases follows with
  | @canceled task now held =>
    have own : task.tid = tid := of_decide_eq_true canceling
    exact .inr ⟨task, now, rfl, own, own ▸ held⟩
  | attemptEnded | entriesEnded | lookedUp | uncalled | called => exact .inl canceling
  | _ => cases canceling

theorem Next.namesFor_eq (names : rest.namesFor tid = some attemptID) :
    job.countFor tid = none ∧ ∀ latest, s.IsLatest tid latest → attemptID = latest := by
  cases follows with
  | lookedUp =>
    simp only [namesFor, Option.ite_none_right_eq_some, Option.some.injEq] at names
    obtain ⟨own, rfl⟩ := names
    refine ⟨rfl, fun latest isLatest => ?_⟩
    rw [own]
    exact isLatest.lookup
  | _ => cases names

/-- A cancel returns after it has named an attempt, unless there is no connection. -/
theorem Next.returns_before (returning : rest.returns tid = true) :
    (∃ attemptID, job.namesFor tid = some attemptID) ∨
      ∃ task, job = .cancelLookup task ∧ task.tid = tid ∧ input.connected = false := by
  cases follows with
  | called task attemptID =>
    have own : task.tid = tid := of_decide_eq_true returning
    exact .inl ⟨attemptID, if_pos own⟩
  | uncalled task offline => exact .inr ⟨task, rfl, of_decide_eq_true returning, offline⟩
  | _ => cases returning

end

theorem Tells.returns_of_returned (tells : Tells s input job (.cancelReturned tid)) :
    job.returns tid = true := by
  generalize same : TaskEvent.cancelReturned tid = event at tells
  cases tells with
  | returned =>
    cases same
    exact decide_eq_true rfl
  | _ => cases same

theorem run_delivered (names : job.namesFor tid = some attemptID)
    (reached : input.delivered = true) :
    (run s job input).events = [.cancelDelivered tid attemptID] := by
  cases job with
  | cancelCalling =>
    simp only [namesFor, Option.ite_none_right_eq_some, Option.some.injEq] at names
    simp [run, reached, names.1, names.2]
  | _ => cases names

theorem run_canceled {task : HotmethodTask} {now : Int}
    (held : s.statusOf task.tid = some task.status) :
    1 < (run s (.canceling task now) input).store.progress task.tid := by
  dsimp only [run, cancel]
  rw [if_pos ((transition_took _ _ _ _ _ _).mpr held)]
  refine (progress_of_status ((statusOf_transition ..).trans (if_pos ⟨rfl, held⟩))).symm ▸ ?_
  decide

end Job

/-! ## The log -/

/-- Every accepted attempt of a task is named by a cancel that the drop server got, before the
attempt or after it. -/
def CancelsDelivered (tid : String) (log : List TaskEvent) : Prop :=
  ∀ attemptID, .attemptAccepted tid attemptID ∈ log → .cancelDelivered tid attemptID ∈ log

/-! ## Whole runs -/

namespace TaskWorld

variable {w next : TaskWorld} {action : TaskAction} {tid : String}

/-- A cancel of the task makes its status write only while no dispatch of it has read it as waiting
and has no attempt yet; there is a connection when the attempt is looked up; and the drop server
gets the cancel. -/
def Cancels (tid : String) (w : TaskWorld) (input : StepInput) : Job → Prop
  | .canceling task _ => task.tid = tid → w.store.statusOf tid = some task.status →
      ∀ job ∈ w.jobs, job.prepares tid = false
  | .cancelLookup task => task.tid = tid → input.connected = true
  | .cancelCalling task _ => task.tid = tid → input.delivered = true
  | _ => True

instance (tid : String) (w : TaskWorld) (input : StepInput) (job : Job) :
    Decidable (w.Cancels tid input job) := by
  induction job using Job.casesOn <;> dsimp only [Cancels] <;> infer_instance

/-- The run is exclusive, and cancels of the task get through. -/
def Careful (tid : String) (w : TaskWorld) (action : TaskAction) : Prop :=
  w.Exclusive tid action ∧
    match action with
    | .advance index input => ∀ job ∈ w.jobs[index]?, w.Cancels tid input job
    | _ => True

instance (tid : String) (w : TaskWorld) (action : TaskAction) :
    Decidable (w.Careful tid action) := by
  induction action using TaskAction.casesOn <;> dsimp only [Careful] <;> infer_instance

/-- After the status write of a cancel the task does not wait and no dispatch of it has no attempt
yet. The cancel names the latest attempt. When it returns, all accepted attempts are named, and so
is the one that the drop server is called for. -/
structure Sealed (tid : String) (w : TaskWorld) : Prop where
  closed : (∃ job ∈ w.jobs, job.cancels tid = true) ∨ .cancelReturned tid ∈ w.log →
    1 < w.store.progress tid ∧ ∀ job ∈ w.jobs, job.prepares tid = false
  named : ∀ job ∈ w.jobs, ∀ attemptID, job.namesFor tid = some attemptID →
    ∀ latest, w.store.IsLatest tid latest → attemptID = latest
  covered : (∃ job ∈ w.jobs, job.returns tid = true) ∨ .cancelReturned tid ∈ w.log →
    CancelsDelivered tid w.log ∧ ∀ job ∈ w.jobs, ∀ attemptID, job.callFor tid = some attemptID →
      .cancelDelivered tid attemptID ∈ w.log

theorem not_readsWaiting {job : Job} (started : 1 < w.store.progress tid) :
    ¬Job.ReadsWaiting w.store tid job := by
  rintro ⟨entry, -, -, waiting⟩
  rw [progress_of_status waiting] at started
  exact absurd started (by decide)

section Advance

variable {index : Nat} {input : StepInput} {before after : List Job} {job : Job} {attemptID : Nat}

theorem Careful.delivers (careful : w.Careful tid (.advance index input))
    (found : w.jobs[index]? = some job) (names : job.namesFor tid = some attemptID) :
    input.delivered = true := by
  cases job with
  | cancelCalling task named =>
    simp only [namesFor, Option.ite_none_right_eq_some] at names
    exact careful.2 _ found names.1
  | _ => cases names

/-- A cancel that has made its status write had made it before, or makes it now. -/
theorem Sealed.closed_advance (ordered : Ordered w) (closing : Sealed tid w)
    (careful : w.Careful tid (.advance index input)) (found : w.jobs[index]? = some job)
    (jobs : w.jobs = before ++ job :: after)
    (under : (∃ other ∈ before ++ (run w.store job input).next ++ after, other.cancels tid = true) ∨
      .cancelReturned tid ∈ (run w.store job input).events ++ w.log) :
    1 < (run w.store job input).store.progress tid ∧
      ∀ other ∈ before ++ (run w.store job input).next ++ after, other.prepares tid = false := by
  have mem : job ∈ w.jobs := jobs ▸ mem_append_right _ mem_cons_self
  -- Either the status was written before, or in this step.
  have either : ((∃ other ∈ w.jobs, other.cancels tid = true) ∨ .cancelReturned tid ∈ w.log) ∨
      ∃ task now, job = .canceling task now ∧ task.tid = tid ∧
        w.store.statusOf tid = some task.status := by
    rcases under with ⟨other, otherIn, canceling⟩ | listed
    · rcases Pool.mem_replaced job otherIn with left | old
      · rcases (next_of_mem left).cancels_before canceling with own | fresh
        · exact .inl (.inl ⟨job, mem, own⟩)
        · exact .inr fresh
      · exact .inl (.inl ⟨other, jobs ▸ old, canceling⟩)
    · rcases mem_append.mp listed with new | old
      · have returning := (tells_of_mem new).returns_of_returned
        exact .inl (.inl ⟨job, mem, cancels_of_returns returning⟩)
      · exact .inl (.inr old)
  have started : 1 < (run w.store job input).store.progress tid := by
    rcases either with earlier | ⟨task, now, rfl, rfl, held⟩
    · exact (run_status w.store job input).progress_started (ordered.onward job mem tid)
        (closing.closed earlier).1
    · exact run_canceled held
  have unprepared : ∀ other ∈ w.jobs, other.prepares tid = false := by
    rcases either with earlier | ⟨task, now, same, own, held⟩
    · exact (closing.closed earlier).2
    · exact careful.2 (.canceling task now) (same ▸ found) own held
  have unread : ¬Job.ReadsWaiting w.store tid job := by
    rcases either with earlier | ⟨task, now, rfl, -, -⟩
    · exact not_readsWaiting (closing.closed earlier).1
    · rintro ⟨entry, same, -⟩
      cases same
  refine ⟨started, Pool.forall_replaced jobs unprepared fun rest left =>
    Bool.eq_false_iff.mpr fun preparing => ?_⟩
  rcases (next_of_mem left).prepares_before preparing with own | reads
  · rw [unprepared job mem] at own
    cases own
  · exact unread reads

theorem Sealed.named_advance (closing : Sealed tid w) (jobs : w.jobs = before ++ job :: after)
    {other : Job} (otherIn : other ∈ before ++ (run w.store job input).next ++ after)
    (names : other.namesFor tid = some attemptID) {latest : Nat}
    (isLatest : (run w.store job input).store.IsLatest tid latest) : attemptID = latest := by
  have mem : job ∈ w.jobs := jobs ▸ mem_append_right _ mem_cons_self
  have unchanged (uncounted : job.countFor tid = none) : w.store.IsLatest tid latest := by
    rcases run_attemptsOf w.store job input tid with same | ⟨count, id, counts, -⟩
    · exact isLatest_congr same.symm isLatest
    · rw [uncounted] at counts
      cases counts
  rcases Pool.mem_replaced job otherIn with left | old
  · obtain ⟨uncounted, exact⟩ := (next_of_mem left).namesFor_eq names
    exact exact latest (unchanged uncounted)
  · have otherOld : other ∈ w.jobs := jobs ▸ old
    have unprepared := (closing.closed (.inl ⟨other, otherOld, cancels_of_namesFor names⟩)).2
    refine closing.named other otherOld attemptID names latest (unchanged ?_)
    cases counts : job.countFor tid with
    | none => rfl
    | some =>
      have preparing := prepares_of_countFor counts
      rw [unprepared job mem] at preparing
      cases preparing

/-- A cancel that returns has named every accepted attempt, and no other is accepted after that. -/
theorem Sealed.covered_advance (current : Current tid w) (closing : Sealed tid w)
    (careful : w.Careful tid (.advance index input)) (found : w.jobs[index]? = some job)
    (jobs : w.jobs = before ++ job :: after)
    (under : (∃ other ∈ before ++ (run w.store job input).next ++ after, other.returns tid = true) ∨
      .cancelReturned tid ∈ (run w.store job input).events ++ w.log) :
    CancelsDelivered tid ((run w.store job input).events ++ w.log) ∧
      ∀ other ∈ before ++ (run w.store job input).next ++ after, ∀ attemptID,
        other.callFor tid = some attemptID →
          .cancelDelivered tid attemptID ∈ (run w.store job input).events ++ w.log := by
  have mem : job ∈ w.jobs := jobs ▸ mem_append_right _ mem_cons_self
  -- Either the cancel was delivered before, or in this step.
  have either : ((∃ other ∈ w.jobs, other.returns tid = true) ∨ .cancelReturned tid ∈ w.log) ∨
      ∃ attemptID, job.namesFor tid = some attemptID := by
    rcases under with ⟨other, otherIn, returning⟩ | listed
    · rcases Pool.mem_replaced job otherIn with left | old
      · rcases (next_of_mem left).returns_before returning with names | ⟨task, same, own, offline⟩
        · exact .inr names
        · have online := careful.2 (.cancelLookup task) (same ▸ found) own
          rw [offline] at online
          cases online
      · exact .inl (.inl ⟨other, jobs ▸ old, returning⟩)
    · rcases mem_append.mp listed with new | old
      · exact .inl (.inl ⟨job, mem, (tells_of_mem new).returns_of_returned⟩)
      · exact .inl (.inr old)
  have unprepared : ∀ other ∈ w.jobs, other.prepares tid = false := by
    refine (closing.closed ?_).2
    rcases either with (⟨other, otherIn, returning⟩ | listed) | ⟨attemptID, names⟩
    · exact .inl ⟨other, otherIn, cancels_of_returns returning⟩
    · exact .inr listed
    · exact .inl ⟨job, mem, cancels_of_namesFor names⟩
  -- The attempts that were accepted or are called for are named by now: there is no other than the
  -- latest one, which the cancel of this step names.
  have told : (∀ accepted, .attemptAccepted tid accepted ∈ w.log →
        .cancelDelivered tid accepted ∈ (run w.store job input).events ++ w.log) ∧
      ∀ other ∈ w.jobs, ∀ called, other.callFor tid = some called →
        .cancelDelivered tid called ∈ (run w.store job input).events ++ w.log := by
    rcases either with earlier | ⟨attemptID, names⟩
    · obtain ⟨accepted, called⟩ := closing.covered earlier
      exact ⟨fun id listed => mem_append_right _ (accepted id listed),
        fun other otherIn id calls => mem_append_right _ (called other otherIn id calls)⟩
    · rw [run_delivered names (careful.delivers found names)]
      have named {latest : Nat} (isLatest : w.store.IsLatest tid latest) :
          .cancelDelivered tid latest ∈ [.cancelDelivered tid attemptID] ++ w.log :=
        closing.named job mem attemptID names latest isLatest ▸ mem_cons_self
      exact ⟨fun id listed => named (current.accepted id listed),
        fun other otherIn id calls => named (current.calls other otherIn id calls)⟩
  constructor
  · intro attemptID listed
    rcases mem_append.mp listed with new | old
    · exact told.2 job mem attemptID (tells_of_mem new).callFor_of_accepted
    · exact told.1 attemptID old
  · refine Pool.forall_replaced jobs told.2 fun rest left attemptID calls => ?_
    obtain ⟨count, counts, -⟩ := (next_of_mem left).callFor_eq calls
    have preparing := prepares_of_countFor counts
    rw [unprepared job mem] at preparing
    cases preparing

end Advance

theorem Sealed.enter (ordered : Ordered w) (closing : Sealed tid w) {out : JobOutcome}
    (entered : action.enter w.store = some out) : Sealed tid (w.enter out) := by
  obtain ⟨rows, adds⟩ := TaskAction.enter_adds entered
  have onward := progress_grow adds.tasks tid
  have same : out.store.attemptsOf tid = w.store.attemptsOf tid := by
    rw [attemptsOf, adds.attempts.attempts]
    rfl
  have quiet := adds.only_errors
  have returned : .cancelReturned tid ∈ (w.enter out).log → .cancelReturned tid ∈ w.log := by
    intro listed
    rcases mem_append.mp listed with new | old
    · obtain ⟨other, told⟩ := quiet _ new
      cases told
    · exact old
  -- The reconciler does not find a task that does not wait.
  have unawaited (started : 1 < w.store.progress tid) : ∀ job ∈ out.next,
      job.awaits tid = false := by
    intro job new
    apply Bool.eq_false_iff.mpr
    intro awaiting
    rcases TaskAction.enter_awaits entered ordered.unique tid with
      none | ⟨-, now, -, task, row, own, waiting, -⟩
    · exact countP_eq_zero.mp none job new awaiting
    · have read := statusOf_of_findTask (findTask_of_mem ordered.unique row)
      rw [own, waiting] at read
      rw [progress_of_status read] at started
      exact absurd started (by decide)
  constructor
  · intro under
    have earlier : (∃ job ∈ w.jobs, job.cancels tid = true) ∨ .cancelReturned tid ∈ w.log := by
      rcases under with ⟨job, mem, canceling⟩ | listed
      · rcases mem_append.mp mem with old | new
        · exact .inl ⟨job, old, canceling⟩
        · cases TaskAction.enters_of_mem entered new <;> cases canceling
      · exact .inr (returned listed)
    obtain ⟨started, unprepared⟩ := closing.closed earlier
    refine ⟨lt_of_lt_of_le started onward, Pool.forall_enter unprepared fun job new =>
      Bool.eq_false_iff.mpr fun preparing => ?_⟩
    have awaiting := awaits_of_prepares preparing
    rw [unawaited started job new] at awaiting
    cases awaiting
  · refine Pool.forall_enter (fun job old attemptID names latest isLatest =>
      closing.named job old attemptID names latest (isLatest_congr same.symm isLatest))
      fun job new attemptID names => ?_
    cases TaskAction.enters_of_mem entered new <;> cases names
  · intro under
    have earlier : (∃ job ∈ w.jobs, job.returns tid = true) ∨ .cancelReturned tid ∈ w.log := by
      rcases under with ⟨job, mem, returning⟩ | listed
      · rcases mem_append.mp mem with old | new
        · exact .inl ⟨job, old, returning⟩
        · cases TaskAction.enters_of_mem entered new <;> cases returning
      · exact .inr (returned listed)
    have started : 1 < w.store.progress tid := by
      refine (closing.closed ?_).1
      rcases earlier with ⟨job, mem, returning⟩ | listed
      · exact .inl ⟨job, mem, cancels_of_returns returning⟩
      · exact .inr listed
    obtain ⟨delivered, called⟩ := closing.covered earlier
    refine ⟨fun attemptID listed => ?_, Pool.forall_enter (fun job old attemptID calls =>
      mem_append_right _ (called job old attemptID calls)) fun job new attemptID calls => ?_⟩
    · rcases mem_append.mp listed with new | old
      · obtain ⟨other, told⟩ := quiet _ new
        cases told
      · exact mem_append_right _ (delivered attemptID old)
    · have awaiting := awaits_of_callFor calls
      rw [unawaited started job new] at awaiting
      cases awaiting

theorem Sealed.step (ordered : Ordered w) (current : Current tid w) (closing : Sealed tid w)
    (careful : w.Careful tid action) (taken : step w action = some next) : Sealed tid next := by
  rcases step_cases taken with
    ⟨index, input, before, job, after, rfl, found, jobs, rfl⟩ | ⟨out, entered, rfl⟩
  · constructor
    · exact closing.closed_advance ordered careful found jobs
    · intro other otherIn attemptID names latest isLatest
      exact closing.named_advance jobs otherIn names isLatest
    · exact closing.covered_advance current careful found jobs
  · exact closing.enter ordered entered

theorem Sealed.start (store : TaskStore) : Sealed tid { store } where
  closed := by rintro (⟨_, mem, -⟩ | mem) <;> cases mem
  named _ mem := absurd mem not_mem_nil
  covered := by rintro (⟨_, mem, -⟩ | mem) <;> cases mem

/-- What a careful run keeps. -/
structure CarefulRun (tid : String) (w : TaskWorld) : Prop where
  ordered : w.Ordered
  single : Single tid w
  current : Current tid w
  closing : Sealed tid w

theorem CarefulRun.step (kept : CarefulRun tid w) (careful : w.Careful tid action)
    (taken : step w action = some next) : CarefulRun tid next where
  ordered := kept.ordered.step taken
  single := kept.single.step kept.ordered careful.1 taken
  current := kept.current.step kept.single taken
  closing := kept.closing.step kept.ordered kept.current careful taken

/-- In a careful run, from any tables with one row for each task and attempts that are numbered at
most by their count, and with no job under way at first: after a cancel of the task has returned,
every attempt that the drop server has accepted, before or after, is named by a cancel that it
got. -/
theorem canceled_attempts_named (start : TaskStore) (unique : (start.tasks.map (·.tid)).Nodup)
    (numbered : start.Numbered tid) {actions : List TaskAction}
    (careful : Along step (Careful tid) { store := start } actions)
    (reached : run step { store := start } actions = some w)
    (returned : .cancelReturned tid ∈ w.log) : CancelsDelivered tid w.log := by
  have first : CarefulRun tid { store := start } :=
    ⟨.start unique, .start start, .start numbered, .start start⟩
  have kept : CarefulRun tid w := run_invariant_along
    (fun _ _ _ held allowed taken => held.step allowed taken) first careful reached
  exact (kept.closing.covered (.inr returned)).1

/-- A cancel writes the status and names the attempt while the drop server is called for the
attempt, which it accepts after that. -/
def canceledWhileCalling : List TaskAction :=
  handedOut ++ [.cancel "t" 1] ++ steps 2 6 ++ steps 1 2

/-- The attempt is named before it is accepted. -/
theorem canceled_while_calling_named :
    (run step { store := {} } canceledWhileCalling).map (·.log) =
        some [.attemptAccepted "t" 1, .cancelReturned "t", .cancelDelivered "t" 1] ∧
      ∀ w, run step { store := {} } canceledWhileCalling = some w →
        .cancelReturned "t" ∈ w.log → CancelsDelivered "t" w.log :=
  ⟨by decide, fun _ reached returned => canceled_attempts_named {} nodup_nil (forall_mem_nil _)
    (along_of_decide (by decide)) reached returned⟩

/-- A dispatch reads the task as waiting, a cancel runs to its end, and the dispatch goes on. -/
def canceledBeforeAttempt : List TaskAction :=
  claimed ++ [.cancel "t" 1] ++ steps 2 6 ++ steps 1 3

/-- Two attempts of the task are accepted before a cancel. -/
def canceledAfterTwo : List TaskAction :=
  claimedTwice ++ [.advance 1 {}, .advance 2 {}, .cancel "t" 2000] ++ steps 3 6

/-- A cancel has returned and an attempt was accepted, and no delivered cancel names the attempt. -/
theorem canceled_attempt_unnamed :
    (∃ w, run step { store := {} } canceledBeforeAttempt = some w ∧ .cancelReturned "t" ∈ w.log ∧
        .attemptAccepted "t" 1 ∈ w.log ∧ .cancelDelivered "t" 1 ∉ w.log) ∧
      ∃ w, run step { store := {} } canceledAfterTwo = some w ∧ .cancelReturned "t" ∈ w.log ∧
        .attemptAccepted "t" 1 ∈ w.log ∧ .cancelDelivered "t" 1 ∉ w.log := by
  have early : (run step { store := {} } canceledBeforeAttempt).map (·.log) =
      some [.attemptAccepted "t" 1, .cancelReturned "t", .cancelDelivered "t" 0] := by decide
  have twice : (run step { store := {} } canceledAfterTwo).map (·.log) =
      some [.cancelReturned "t", .cancelDelivered "t" 2, .attemptAccepted "t" 2,
        .attemptAccepted "t" 1] := by decide
  obtain ⟨first, firstReached, firstLog⟩ := Option.map_eq_some_iff.mp early
  obtain ⟨second, secondReached, secondLog⟩ := Option.map_eq_some_iff.mp twice
  refine ⟨⟨first, firstReached, ?_⟩, second, secondReached, ?_⟩
  · rw [firstLog]
    decide
  · rw [secondLog]
    decide

end TaskWorld

end MiniDrop
