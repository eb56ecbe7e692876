import MiniDrop.Base.Keyed
import MiniDrop.Server.AttemptWorkers
import MiniDrop.Verif.Attempts
/-!
# Who changes an attempt

The row of an attempt is the evidence of one delivery. A notification that names an attempt of its
task writes that row only. One that names none chooses the latest attempt that is not ended, and
writes it with the next statement; the row it finds there is still the one it chose as long as
nothing else ends the attempt in between.
-/
namespace MiniDrop

open TaskStore.WritesTasks List Base Job

variable {made : AttemptEnd} {input : StepInput} {id : Nat} {tid : String}

/-! ## What a step does to the attempts -/

namespace TaskStore

variable {s t u : TaskStore}

/-- How a step changes the attempts: not at all, by a new row, or by the end of the attempt that it
names. -/
inductive AttemptsChange (s t : TaskStore) (ends : Option Nat) : Prop where
  | same (kept : SameAttempts s t)
  | added (row : TaskAttempt) (fresh : row.id = s.nextAttemptID)
      (attempts : t.attempts = s.attempts ++ [row]) (number : t.nextAttemptID = s.nextAttemptID + 1)
  | ended (id : Nat) (named : ends = some id) (change : TaskAttempt → TaskAttempt)
      (sameID : ∀ row, (change row).id = row.id)
      (sameTask : ∀ row, (change row).taskTID = row.taskTID)
      (attempts : t.attempts = s.attempts.map fun row => if row.id = id then change row else row)
      (number : t.nextAttemptID = s.nextAttemptID)

/-- The identifiers of the attempts are different, and the next one is above them. -/
structure AttemptIDs (s : TaskStore) : Prop where
  distinct : (s.attempts.map (·.id)).Nodup
  below : ∀ row ∈ s.attempts, row.id < s.nextAttemptID

namespace AttemptsChange

variable {ends : Option Nat}

theorem of_end (s : TaskStore) (id : Nat) (errorCode message : String) (keys : List String)
    (now : Int) : AttemptsChange s (s.endAttemptID id errorCode message keys now) (some id) :=
  .ended id rfl (fun row => endAttempt row errorCode message keys now) (fun _ => rfl)
    (fun _ => rfl) rfl rfl

theorem after (kept : SameAttempts s t) (change : AttemptsChange t u ends) :
    AttemptsChange s u ends := by
  cases change with
  | same later => exact .same (kept.trans later)
  | added row fresh attempts number =>
    refine .added row (fresh.trans kept.number) ?_ ?_
    · rw [attempts, kept.attempts]
    · rw [number, kept.number]
  | ended id named change sameID sameTask attempts number =>
    refine .ended id named change sameID sameTask ?_ (number.trans kept.number)
    rw [attempts, kept.attempts]

variable (change : AttemptsChange s t ends)
include change

/-- A row keeps its place, its number and its task, and all columns if the step does not end it. -/
theorem row_at {position : Nat} {row : TaskAttempt} (found : s.attempts[position]? = some row) :
    ∃ after, t.attempts[position]? = some after ∧ after.id = row.id ∧ after.taskTID = row.taskTID ∧
      (ends ≠ some row.id → after = row) := by
  cases change with
  | same kept =>
    rw [kept.attempts]
    exact ⟨row, found, rfl, rfl, fun _ => rfl⟩
  | added new fresh attempts =>
    rw [attempts, getElem?_append_left (List.getElem?_eq_some_iff.mp found).1]
    exact ⟨row, found, rfl, rfl, fun _ => rfl⟩
  | ended id named change sameID sameTask attempts =>
    rw [attempts, getElem?_map, found]
    refine ⟨_, rfl, ?_⟩
    dsimp only
    split
    · next same => exact ⟨sameID row, sameTask row, fun other => absurd (same ▸ named) other⟩
    · exact ⟨rfl, rfl, fun _ => rfl⟩

theorem hasAttempt (there : s.hasAttempt tid id = true) : t.hasAttempt tid id = true := by
  obtain ⟨row, mem, same⟩ := any_eq_true.mp there
  obtain ⟨position, found⟩ := getElem?_of_mem mem
  obtain ⟨after, kept, sameID, sameTask, -⟩ := change.row_at found
  refine any_eq_true.mpr ⟨after, mem_of_getElem? kept, ?_⟩
  rwa [sameID, sameTask]

theorem keeps_row {position : Nat} {row : TaskAttempt} (found : s.attempts[position]? = some row)
    (other : ends ≠ some row.id) : t.attempts[position]? = some row := by
  obtain ⟨after, kept, -, -, unchanged⟩ := change.row_at found
  rw [kept, unchanged other]

theorem stays_open (other : ends ≠ some id)
    (there : ∃ row ∈ s.attempts, row.id = id ∧ row.endTime = none) :
    ∃ row ∈ t.attempts, row.id = id ∧ row.endTime = none := by
  obtain ⟨row, mem, rfl, unended⟩ := there
  obtain ⟨position, found⟩ := getElem?_of_mem mem
  exact ⟨row, mem_of_getElem? (change.keeps_row found other), rfl, unended⟩

theorem ids (known : AttemptIDs s) : AttemptIDs t := by
  cases change with
  | same kept =>
    constructor
    · rw [kept.attempts]
      exact known.distinct
    · rw [kept.attempts, kept.number]
      exact known.below
  | added new fresh attempts number =>
    constructor
    · rw [attempts]
      refine nodup_map_concat known.distinct fun row listed same => ?_
      have bound := known.below row listed
      omega
    · rw [attempts, number, fresh.symm]
      refine forall_mem_append.mpr ⟨fun row old => ?_,
        forall_mem_singleton.mpr (Nat.lt_succ_self _)⟩
      have bound := known.below row old
      omega
  | ended id named change sameID sameTask attempts number =>
    have keeps : ∀ row : TaskAttempt, (if row.id = id then change row else row).id = row.id := by
      intro row
      split
      · exact sameID row
      · rfl
    constructor
    · rw [attempts, map_map]
      have same : (fun row : TaskAttempt => row.id) ∘
          (fun row => if row.id = id then change row else row) = fun row => row.id := funext keeps
      rw [same]
      exact known.distinct
    · intro row mem
      rw [attempts] at mem
      obtain ⟨old, listed, rfl⟩ := mem_map.mp mem
      rw [number, keeps]
      exact known.below old listed

end AttemptsChange

end TaskStore

/-! ## Notifications -/

namespace Job

variable {s : TaskStore} {job : Job}

/-- The notification that a job belongs to, with its task. -/
def notification : Job → Option (TaskResultNotifyReq × HotmethodTask)
  | .notified req task | .notifyFailing req task _ | .notifyReread req task
  | .notifyAdvance req task | .notifySkip req task => some (req, task)
  | _ => none

/-- An attempt is ended for a notification, by the identifier it carries, or else without one. -/
theorem ending_cases (ends : job.ending = some made) :
    (∃ req task, job.notification = some (req, task) ∧ made.tid = task.tid ∧
      made.attemptID = req.attemptID) ∨ job.notification = none ∧ made.attemptID = 0 := by
  cases job with
  | notified req task =>
    cases ends
    refine Or.inl ⟨req, task, rfl, ?_⟩
    unfold endingOf
    split
    · exact ⟨rfl, rfl⟩
    · exact ⟨rfl, rfl⟩
  | notifyAdvance req task =>
    cases ends
    exact Or.inl ⟨req, task, rfl, rfl, rfl⟩
  | notifySkip req task =>
    cases ends
    exact Or.inl ⟨req, task, rfl, rfl, rfl⟩
  | retrying =>
    simp only [ending] at ends
    split at ends
    · cases ends
      exact Or.inr ⟨rfl, rfl⟩
    · cases ends
  | cancelAttempt =>
    cases ends
    exact Or.inr ⟨rfl, rfl⟩
  | _ => cases ends

/-- The attempt whose failed call a job records. -/
def failedCall : Job → Option Nat
  | .callFailed _ _ attemptID _ _ => some attemptID
  | _ => none

/-- A step that ends no attempt through a choice records a failed call, adds an attempt or leaves
the attempts alone. -/
theorem Stores.attempts {t : TaskStore} {input : StepInput} (stored : Stores s input job t)
    (plain : job.ending = none) : s.AttemptsChange t job.failedCall := by
  cases stored with
  | kept _ _ attempts => exact .same attempts
  | recorded _ _ _ _ _ _ attempts => exact .same attempts
  | inserted _ _ row =>
    unfold TaskStore.insertAttempt at row
    split at row
    · cases row
    · cases row
      exact .added _ rfl rfl rfl
  | callEnded entry task attemptID errorCode message =>
    unfold TaskStore.finishTaskAttempt
    split
    · exact .same (.refl s)
    · exact .of_end s attemptID errorCode message [] input.now
  | exhausted task reason late =>
    rw [ending, if_pos late] at plain
    cases plain
  | canceled | refused | notified | advanced | registered => cases plain
  | moved => exact .same transition.sameAttempts
  | failing => exact .same fail.sameAttempts
  | polled => exact .same poll.sameAttempts

theorem rest_attempts (s : TaskStore) (input : StepInput)
    (ends : job.ending = some made) : s.SameAttempts (job.rest s input).2.store := by
  cases job with
  | notified =>
    simp only [rest]
    split
    · exact .refl s
    · split
      · unfold notifySuccessRest
        split
        · exact .refl s
        · split
          · split
            · exact upload.sameAttempts
            · exact .refl s
          · exact advance.sameAttempts
      · exact .refl s
  | notifyAdvance =>
    simp only [rest]
    split
    · exact advance.sameAttempts
    · exact .refl s
  | notifySkip =>
    simp only [rest]
    split
    · exact .refl s
    · exact .refl s
  | retrying | cancelAttempt => exact .refl s
  | _ => cases ends

end Job

/-! ## The two statements in one step -/

namespace TaskStore

variable {s t : TaskStore}

/-- The choice and the write, one after the other, are `finishTaskAttemptForNotify`. -/
theorem endChosen_chosenID (kept : SameAttempts s t) (ending : AttemptEnd) (now : Int) :
    t.endChosen (s.chosenID ending) ending now =
      t.finishTaskAttemptForNotify ending.tid ending.attemptID ending.errorCode ending.message
        ending.keys now := by
  have same : s.chosenID ending = t.chosenID ending := by
    unfold chosenID hasAttempt latestOpenID
    rw [kept.attempts]
  rw [same]
  unfold chosenID finishTaskAttemptForNotify finishLatestTaskAttempt hasAttempt latestOpenID
  split
  · rfl
  · generalize latestOf (t.attempts.filter fun row => row.taskTID = ending.tid ∧
      row.endTime = none) = latest
    cases latest with
    | none | some => rfl

/-- Without an identifier the choice and the write are `finishLatestTaskAttempt`. -/
theorem finishForNotify_zero (s : TaskStore) (tid errorCode message : String) (keys : List String)
    (now : Int) : s.finishTaskAttemptForNotify tid 0 errorCode message keys now =
      s.finishLatestTaskAttempt tid errorCode message keys now := by
  unfold finishTaskAttemptForNotify
  rw [if_neg fun both => both.1 rfl]

end TaskStore

/-- **The finer steps refine the status writers**: a job that chooses an attempt and writes it with
nothing in between does what it does in one step. -/
theorem AttemptJob.run_chosen (s : TaskStore) {job : Job}
    (ends : job.ending = some made) (input : StepInput) :
    run s (.chosen job made (s.chosenID made)) input = lift (Job.run s job input) := by
  have write (t : TaskStore) (kept : s.SameAttempts t) (now : Int) :=
    TaskStore.endChosen_chosenID kept made now
  cases job with
  | notified req task =>
    cases ends
    simp only [run, Job.rest, Job.run, Job.notify, Job.endedAt]
    by_cases failed : req.isError = true
    · simp only [if_pos failed, if_true, write s (.refl s)]
      simp only [Job.endingOf, if_pos failed]
    · simp only [if_neg failed]
      cases input.commits with
      | false => rfl
      | true =>
        simp only [if_true, Job.notifySuccessRest, Job.notifySuccess, Job.register]
        by_cases finished : task.status = .done
        · simp only [if_pos finished, if_true, write s (.refl s)]
          simp only [Job.endingOf, if_neg failed]
        · simp only [if_neg finished]
          by_cases running : task.status = .running
          · simp only [if_pos running]
            by_cases still : s.statusOf task.tid = some .running
            · simp only [if_pos still, if_true, write _ upload.sameAttempts]
              simp only [Job.endingOf, if_neg failed]
            · simp only [if_neg still, if_neg Bool.false_ne_true]
          · simp only [if_neg running, if_true, write _ advance.sameAttempts]
            simp only [Job.endingOf, if_neg failed]
  | notifyAdvance | notifySkip =>
    cases ends
    simp only [run, Job.rest, Job.run, Job.endedAt, Job.register]
    by_cases commits : input.commits = true
    · simp [if_pos commits, write _ advance.sameAttempts, write s (.refl s)]
    · simp only [if_neg commits, if_neg Bool.false_ne_true]
  | retrying =>
    simp only [Job.ending] at ends
    split at ends
    · next late =>
      cases ends
      simp only [run, Job.rest, Job.run, Job.endedAt, Job.retryOrFail, if_pos late, if_true,
        write s (.refl s), TaskStore.finishForNotify_zero]
    · cases ends
  | cancelAttempt =>
    cases ends
    simp [run, Job.rest, Job.run, Job.endedAt, write s (.refl s), TaskStore.finishForNotify_zero]
  | _ => cases ends

/-! ## Runs in which nothing interferes -/

namespace AttemptJob

/-- The attempt that the next step may end. -/
def ends : AttemptJob → Option Nat
  | .whole job => job.failedCall
  | .unmatched _ _ => none
  | .chosen _ _ target => target

/-- The notification that a job belongs to. -/
def notification : AttemptJob → Option (TaskResultNotifyReq × HotmethodTask)
  | .whole job | .unmatched job _ | .chosen job _ _ => job.notification

/-- A notification without an identifier has chosen the attempt, and has not ended it yet. -/
def holds (id : Nat) : AttemptJob → Bool
  | .chosen job _ target =>
    target = some id && job.notification.any fun (req, _) => req.attemptID = 0
  | _ => false

/-- What is known of a job while nothing interferes: the attempt that a notification carries is one
of its task, and the attempt that one without an identifier has chosen is not ended. -/
def Sound (s : TaskStore) : AttemptJob → Prop
  | .whole job => ∀ req task, job.notification = some (req, task) → req.attemptID ≠ 0 →
      s.hasAttempt task.tid req.attemptID = true
  | .unmatched _ _ => False
  | .chosen job ending target => job.ending = some ending ∧
      ∀ req task, job.notification = some (req, task) →
        (req.attemptID ≠ 0 → s.hasAttempt task.tid req.attemptID = true ∧
        target = some req.attemptID) ∧
        (req.attemptID = 0 → ∀ id, target = some id → ∃ row ∈ s.attempts, row.id = id ∧
          row.endTime = none)

variable {s t : TaskStore} {job : AttemptJob}

theorem run_attempts (sound : job.Sound s) (input : StepInput) :
    s.AttemptsChange (run s job input).store job.ends := by
  cases job with
  | whole =>
    simp only [run]
    split
    · next plain => exact (Job.run_does s _ input).stores.attempts plain
    · next made ends =>
      unfold choose
      repeat' split
      all_goals exact .same (.refl s)
  | unmatched => exact absurd sound id
  | chosen job made target =>
    have kept := rest_attempts s input sound.1
    simp only [run, lift]
    split
    · cases target with
      | none => exact .same kept
      | some id => exact .after kept (.of_end _ id _ _ _ _)
    · exact .same kept

/-- What is known of a job stays known if a step does not end the attempt that it has chosen. -/
theorem Sound.mono {ends : Option Nat} (sound : job.Sound s) (change : s.AttemptsChange t ends)
    (apart : ∀ id, ends = some id → job.holds id = false) : job.Sound t := by
  cases job with
  | whole => exact fun req task notifies named => change.hasAttempt (sound req task notifies named)
  | unmatched => exact sound
  | chosen =>
    refine ⟨sound.1, fun req task notifies => ⟨fun named => ?_, fun unnamed id chosen => ?_⟩⟩
    · obtain ⟨there, same⟩ := (sound.2 req task notifies).1 named
      exact ⟨change.hasAttempt there, same⟩
    · apply change.stays_open _ ((sound.2 req task notifies).2 unnamed id chosen)
      intro ended
      have free := apart id ended
      simp [holds, chosen, notifies, unnamed] at free

/-- The lookup of the latest attempt finds one that is not ended. -/
theorem latestOpenID_row (found : s.latestOpenID tid = some id) :
    ∃ row ∈ s.attempts, row.id = id ∧ row.taskTID = tid ∧ row.endTime = none := by
  obtain ⟨row, first, rfl⟩ := Option.map_eq_some_iff.mp found
  have mem := (mem_orderBy _).mp (mem_of_head? first)
  obtain ⟨listed, passes⟩ := mem_filter.mp mem
  exact ⟨row, listed, rfl, of_decide_eq_true passes⟩

/-- What follows a job of a notification belongs to the same one. -/
theorem notification_before {job rest : Job} (follows : Next s input job rest)
    {found : TaskResultNotifyReq × HotmethodTask} (notifies : rest.notification = some found) :
    job.notification = some found := by
  cases follows with
  | failing | missed | uploading | ended => exact notifies
  | _ => cases notifies

/-- The jobs that follow the writing step are those that follow the whole job. -/
theorem chosen_next {job : Job} (ends : job.ending = some made)
    (target : Option Nat) (input : StepInput) :
    (run s (.chosen job made target) input).next = (Job.run s job input).next.map .whole := by
  have whole := congrArg Outcome.next (run_chosen s ends input)
  exact whole

theorem Sound.next (sound : job.Sound s) {rest : AttemptJob}
    (mem : rest ∈ (run s job input).next) : rest.Sound (run s job input).store := by
  have change := run_attempts sound input
  cases job with
  | whole job =>
    simp only [run] at mem change ⊢
    cases made : job.ending with
    | none =>
      rw [made] at mem change
      obtain ⟨next, listed, rfl⟩ := mem_map.mp mem
      intro req task notifies named
      apply change.hasAttempt
      exact sound req task (notification_before (next_of_mem listed) notifies) named
    | some =>
      rw [made] at mem
      have columns := ending_cases made
      simp only [choose] at mem ⊢
      split at mem
      · next unnamed =>
        rw [mem_singleton.mp mem, if_pos unnamed]
        refine ⟨made, fun req task notifies => ⟨fun named => ?_, fun _ id chosen => ?_⟩⟩
        · rcases columns with ⟨_, _, same, _, number⟩ | ⟨other, _⟩
          · rw [notifies] at same
            cases same
            exact absurd (number.symm.trans unnamed) named
          · rw [notifies] at other
            cases other
        · obtain ⟨row, listed, own, -, open_⟩ := latestOpenID_row chosen
          exact ⟨row, listed, own, open_⟩
      · next named =>
        rcases columns with ⟨req, task, notifies, owner, number⟩ | ⟨_, unnamed⟩
        · have there := sound req task notifies (number ▸ named)
          rw [owner, number, if_pos there] at mem
          rw [mem_singleton.mp mem, if_neg named, owner, number, if_pos there]
          refine ⟨made, fun other row same => ?_⟩
          rw [notifies] at same
          cases same
          exact ⟨fun _ => ⟨there, rfl⟩, fun unnamed => absurd (number.trans unnamed) named⟩
        · exact absurd unnamed named
  | unmatched => exact absurd sound id
  | chosen =>
    rw [chosen_next sound.1] at mem
    obtain ⟨next, listed, rfl⟩ := mem_map.mp mem
    intro req task notifies named
    apply change.hasAttempt
    exact ((sound.2 req task (notification_before (next_of_mem listed) notifies)).1 named).1

end AttemptJob

namespace AttemptWorld

variable {w next : AttemptWorld} {action : AttemptAction}

/-- A step in which nothing interferes with a notification: one that carries an identifier comes for
an attempt of its task, and no other job ends the attempt that one without an identifier has chosen
and is about to end. -/
def Undisturbed (w : AttemptWorld) : AttemptAction → Prop
  | .task _ => True
  | .notify layoutV2 req => ∀ admitted ∈ (w.store.admitNotification layoutV2 req).toOption,
      admitted.2.attemptID ≠ 0 → w.store.hasAttempt admitted.1.tid admitted.2.attemptID = true
  | .advance index _ => ∀ job ∈ w.jobs[index]?, ∀ id ∈ job.ends,
      ∀ other ∈ w.jobs.eraseIdx index, other.holds id = false

instance (w : AttemptWorld) (action : AttemptAction) : Decidable (w.Undisturbed action) := by
  cases action <;> dsimp only [Undisturbed] <;> infer_instance

/-- What such a run keeps. -/
structure Evident (w : AttemptWorld) : Prop where
  ids : w.store.AttemptIDs
  sound : ∀ job ∈ w.jobs, job.Sound w.store

theorem Evident.advance (evident : Evident w) {index : Nat}
    (calm : w.Undisturbed (.advance index input))
    (taken : Pool.advance AttemptJob.run w index input = some next) : Evident next := by
  obtain ⟨job, found, store, -, jobs⟩ := Pool.advance_beside taken
  have sound := evident.sound job (mem_of_getElem? found)
  have change := AttemptJob.run_attempts sound input
  constructor
  · rw [store]
    exact change.ids evident.ids
  · intro other mem
    rw [store]
    rcases jobs other mem with new | old
    · exact sound.next new
    · have known := evident.sound other (mem_of_mem_eraseIdx old)
      exact known.mono change fun id ends => calm job found id ends other old

theorem Evident.enter (evident : Evident w) {out : AttemptOutcome}
    (kept : w.store.SameAttempts out.store) (new : ∀ job ∈ out.next, job.Sound w.store) :
    Evident (w.enter out) := by
  have change : w.store.AttemptsChange out.store none := .same kept
  constructor
  · exact change.ids evident.ids
  · intro job mem
    have known : job.Sound w.store := by
      rcases mem_append.mp mem with old | entered
      · exact evident.sound job old
      · exact new job entered
    apply known.mono change
    intro id ends
    cases ends

theorem Evident.step (evident : Evident w) (calm : w.Undisturbed action)
    (taken : w.step action = some next) : Evident next := by
  cases action with
  | advance => exact evident.advance calm taken
  | notify =>
    cases taken
    unfold NotifyReq.enterAttempt
    split
    · exact evident.enter (.refl _) (forall_mem_nil _)
    · next task sent admitted =>
      apply evident.enter (.refl _)
      intro job mem
      rw [mem_singleton.mp mem]
      intro other row notifies named
      cases notifies
      apply calm (task, sent) _ named
      rw [admitted]
      rfl
  | task action =>
    cases action with
    | notify => cases taken
    | _ =>
      simp only [AttemptWorld.step] at taken
      obtain ⟨out, entered, rfl⟩ := Option.map_eq_some_iff.mp taken
      obtain ⟨rows, adds⟩ := TaskAction.enter_adds entered
      apply evident.enter adds.attempts
      intro job mem
      obtain ⟨started, listed, rfl⟩ := mem_map.mp mem
      intro req task notifies
      have enters := TaskAction.enters_of_mem entered listed
      cases enters <;> cases notifies

/-- **A notification writes its own attempt**: in a run in which nothing interferes, a step of a
notification that carries an identifier changes no other attempt than the one of its task with that
identifier, and a step of one without changes no attempt that has an end. -/
theorem notification_keeps_attempts {actions : List AttemptAction}
    (calm : Along step Undisturbed { store := {} } actions)
    (reached : run step { store := {} } actions = some w) {index : Nat} {input : StepInput}
    {job : AttemptJob} (found : w.jobs[index]? = some job) {req : TaskResultNotifyReq}
    {task : HotmethodTask} (notifies : job.notification = some (req, task))
    (taken : w.step (.advance index input) = some next) :
    ∀ (position : Nat) (row : TaskAttempt), w.store.attempts[position]? = some row →
      (req.attemptID ≠ 0 → ¬(row.id = req.attemptID ∧ row.taskTID = task.tid) →
        next.store.attempts[position]? = some row) ∧
      (req.attemptID = 0 → row.endTime ≠ none → next.store.attempts[position]? = some row) := by
  have start : Evident { store := {} } :=
    ⟨⟨nodup_nil, forall_mem_nil _⟩, forall_mem_nil _⟩
  have evident : Evident w :=
    run_invariant_along (fun _ _ _ known allowed one => known.step allowed one) start calm reached
  have sound := evident.sound job (mem_of_getElem? found)
  have change := AttemptJob.run_attempts sound input
  obtain ⟨same, found', store, -, -⟩ := Pool.advance_beside taken
  cases found.symm.trans found'
  rw [store]
  -- Two rows of one identifier are the same row.
  have only {first second : TaskAttempt} (listed : first ∈ w.store.attempts)
      (other : second ∈ w.store.attempts) (id : first.id = second.id) : first = second :=
    inj_on_of_nodup_map evident.ids.distinct listed other id
  intro position row at_position
  have mem := mem_of_getElem? at_position
  cases job with
  | whole job =>
    have kept := change.keeps_row at_position fun ends => by
      cases job with
      | callFailed => cases notifies
      | _ => cases ends
    exact ⟨fun _ _ => kept, fun _ _ => kept⟩
  | unmatched =>
    have kept := change.keeps_row at_position nofun
    exact ⟨fun _ _ => kept, fun _ _ => kept⟩
  | chosen =>
    refine ⟨fun named foreign => change.keeps_row at_position fun ends => ?_,
      fun unnamed ended => change.keeps_row at_position fun ends => ?_⟩
    · obtain ⟨there, chosen⟩ := (sound.2 req task notifies).1 named
      obtain ⟨own, listed, columns⟩ := any_eq_true.mp there
      have columns := of_decide_eq_true columns
      have id : row.id = req.attemptID := Option.some.inj (ends.symm.trans chosen)
      rw [only mem listed (id.trans columns.1.symm)] at foreign
      exact foreign columns
    · obtain ⟨open_, listed, id, unended⟩ := (sound.2 req task notifies).2 unnamed row.id ends
      rw [only listed mem id] at unended
      exact ended unended

/-- A task is handed out: its first attempt is under way. -/
def handedOut (tid : String) : List AttemptAction :=
  [.task (.create { tid } 0), .advance 0 {}, .advance 0 {}, .task (.claim 20 [] 0),
    .advance 0 {}, .advance 0 {}, .advance 0 {}, .advance 0 {}, .advance 0 {}, .advance 0 {}]

/-- The first of two attempts is canceled, and its agent reports that with its number. -/
def reportedCancel : List AttemptAction :=
  handedOut "t" ++ handedOut "u" ++ [.task (.cancel "t" 5), .advance 0 {}, .advance 0 {},
    .advance 0 {}, .notify false
    { taskID := "t", errorMessage := "killed", errorCode := "TASK_CANCELED", attemptID := 1 },
    .advance 1 {}]

/-- The late report writes the attempt it names and leaves the other one alone. -/
theorem late_report_keeps_attempts :
    ∃ w next, run step { store := {} } reportedCancel = some w ∧
      w.step (.advance 1 { now := 9 }) = some next ∧
      w.store.attempts.map (fun row => (row.id, row.endTime)) = [(1, some 5), (2, none)] ∧
      next.store.attempts[0]?.map (·.endTime) = some (some 9) ∧
      next.store.attempts[1]? = w.store.attempts[1]? := by
  obtain ⟨w, reached, rows, notifies, written⟩ :
      ∃ w, run step { store := {} } reportedCancel = some w ∧
      w.store.attempts.map (fun row => (row.id, row.endTime)) = [(1, some 5), (2, none)] ∧
      (w.jobs[1]?.bind AttemptJob.notification).map (fun found => found.1.attemptID) = some 1 ∧
      (w.step (.advance 1 { now := 9 })).map (fun next => next.store.attempts[0]?.map (·.endTime)) =
        some (some (some 9)) := exists_run (by decide)
  obtain ⟨⟨req, task⟩, found, named⟩ := Option.map_eq_some_iff.mp notifies
  obtain ⟨job, there, notifies⟩ := Option.bind_eq_some_iff.mp found
  obtain ⟨next, taken, written⟩ := Option.map_eq_some_iff.mp written
  have second : (w.store.attempts[1]?).map (fun row => (row.id, row.endTime)) = some (2, none) := by
    rw [← getElem?_map, rows]
    rfl
  obtain ⟨row, listed, values⟩ := Option.map_eq_some_iff.mp second
  have kept := notification_keeps_attempts (along_of_decide (by decide)) reached there notifies
    taken 1 row listed
  dsimp only at named
  have id : row.id = 2 := congrArg Prod.fst values
  have other : row.id ≠ req.attemptID := by
    rw [named, id]
    decide
  exact ⟨w, next, reached, taken, rows, written,
    (kept.1 (by rw [named]; decide) fun same => other same.1).trans listed.symm⟩

/-- A notification carries the number of no attempt of its task. -/
def strayNotification : List AttemptAction :=
  handedOut "t" ++ [.notify false { taskID := "t", attemptID := 7, cosKey := "t/perf.data" },
    .advance 0 {}, .advance 0 {}]

/-- The attempt is canceled after a notification without a number has chosen it. -/
def canceledMeanwhile : List AttemptAction :=
  handedOut "t" ++ [.notify false { taskID := "t", errorMessage := "perf failed" }, .advance 0 {},
    .task (.cancel "t" 5), .advance 1 {}, .advance 1 {}, .advance 1 {}]

/-- The number that a notification carries, and the attempts before and after its next step, each
with its end and its error. -/
structure Notice where
  number : Nat
  (before after : List (Nat × Option Int × String))
  deriving DecidableEq

/-- The next step of the first job. -/
def noticed (actions : List AttemptAction) : Option Notice := do
  let ends (row : TaskAttempt) := (row.id, row.endTime, row.errorCode)
  let w ← run step { store := {} } actions
  let job ← w.jobs[0]?
  let (req, _) ← job.notification
  let next ← w.step (.advance 0 { now := 9 })
  some ⟨req.attemptID, w.store.attempts.map ends, next.store.attempts.map ends⟩

/-- The first notification carries number 7 and ends attempt 1; the second carries none and writes
an attempt that has an end. -/
theorem notification_writes_other_attempt :
    noticed strayNotification = some ⟨7, [(1, none, "")], [(1, some 9, "")]⟩ ∧
    noticed canceledMeanwhile =
      some ⟨0, [(1, some 5, "TASK_CANCELED")], [(1, some 9, "TASK_EXECUTION_FAILED")]⟩ := by
  decide

end AttemptWorld

end MiniDrop
