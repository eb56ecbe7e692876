import MiniDrop.Verif.Lease
/-!
# How often a job is handed out

The worker that reports a failure decides whether the job is tried again, from the attempt that it
was handed and from the attempts that the job has. A worker that stops reports nothing, and its job
is claimed again as soon as the lease has run out: nobody looks at the attempts there.
-/
namespace MiniDrop

open LeaseStore List

namespace LeaseWorld

variable {cfg : LeaseConfig} {w later : LeaseWorld} {action : LeaseAction} {id budget : Nat}

/-- A job was handed out. -/
def handsOut (id : Nat) : LeaseEvent → Bool
  | .handed job _ => job = id
  | .finalized .. => false

/-- How often a job was handed out. -/
def timesHanded (w : LeaseWorld) (id : Nat) : Nat := w.log.countP (handsOut id)

/-- What is known of the row of a job with a budget: it counts how often it was handed out, and
nothing is left to be tried without an attempt left. -/
structure Counted (budget handed : Nat) (row : LeasedJob) : Prop where
  max : row.maxAttempts = some budget
  attempt : row.attempt = handed
  left : row.status = .pending ∨ row.status = .retry → row.attempt < budget

/-- What is known of a run of that job: it knows the budget, it lets the job be tried again only
within it, and as long as it holds the lease it is the last attempt. -/
structure Within (budget : Nat) (s : LeaseStore) (run : LeaseRun) : Prop where
  max : run.job.maxAttempts = budget
  left : run.retries = true → run.job.attempt < budget
  last : ∀ row ∈ s.jobs, holds run.worker run.job.id row = true → run.job.attempt = row.attempt

/-- The row of the job and all of its runs. -/
structure Budgeted (id budget : Nat) (w : LeaseWorld) : Prop where
  rows : ∀ row ∈ w.store.jobs, row.id = id → Counted budget (w.timesHanded id) row
  runs : ∀ run ∈ w.jobs, run.job.id = id → Within budget w.store run

variable {worker : String} {number : Nat} {retry : Bool} {s t : LeaseStore} {run : LeaseRun}

theorem holds_back {owner : String} {before after : LeasedJob}
    (kept : LeasedJob.Kept worker number retry before after) (named : owner ≠ "")
    (holds : LeaseStore.holds owner id after = true) : LeaseStore.holds owner id before = true := by
  unfold LeaseStore.holds at holds ⊢
  rw [Bool.and_eq_true, decide_eq_true_eq, decide_eq_true_eq] at holds ⊢
  obtain ⟨same, owns⟩ := holds
  refine ⟨kept.id.symm.trans same, ?_⟩
  rcases kept.lease with ⟨-, owner_eq⟩ | ⟨-, empty, -⟩
  · exact owner_eq.symm.trans owns
  · exact absurd (owns.symm.trans empty) named

theorem Within.keeps (within : Within budget s run) (named : run.worker ≠ "")
    (keeps : LeaseStore.Keeps worker number retry s t) : Within budget t run := by
  refine ⟨within.max, within.left, fun after stored holds => ?_⟩
  obtain ⟨before, listed, kept⟩ := Base.exists_left_of_mem keeps.jobs stored
  rw [kept.attempt]
  exact within.last before listed (holds_back kept named holds)

/-- The row stays counted when a run takes a step that is within the budget if it is one of that
job. -/
theorem Counted.keeps {handed : Nat} (counted : ∀ row ∈ s.jobs, row.id = id →
    Counted budget handed row) (within : run.job.id = id → Within budget s run) (allowed :
    retry = true → run.retries = true)
    (keeps : LeaseStore.Keeps run.worker run.job.id retry s t) :
    ∀ row ∈ t.jobs, row.id = id → Counted budget handed row := by
  intro after stored same
  obtain ⟨before, listed, kept⟩ := Base.exists_left_of_mem keeps.jobs stored
  have there := counted before listed (kept.id.symm.trans same)
  refine ⟨kept.maxAttempts.trans there.max, kept.attempt.trans there.attempt, fun waits => ?_⟩
  rw [kept.attempt]
  rcases kept.lease with ⟨status, -⟩ | ⟨holds, -, success | failed | ⟨-, again⟩⟩
  · rw [status] at waits
    exact there.left waits
  · rw [success] at waits
    rcases waits with waits | waits
    · cases waits
    · cases waits
  · rw [failed] at waits
    rcases waits with waits | waits
    · cases waits
    · cases waits
  · -- The run holds the lease, so its attempt is the one on the row.
    have number : before.id = run.job.id := by
      unfold LeaseStore.holds at holds
      rw [Bool.and_eq_true, decide_eq_true_eq] at holds
      exact holds.1
    have own := within (number.symm.trans (kept.id.symm.trans same))
    rw [← own.last before listed holds]
    exact own.left (allowed again)

theorem Within.follows {after : LeaseRun} (within : Within budget s run) (positive : 0 < budget)
    (named : run.worker ≠ "") (next : LeaseRun.Follows cfg run after)
    (keeps : LeaseStore.Keeps run.worker run.job.id retry s t) : Within budget t after := by
  have still := within.keeps named keeps
  refine ⟨?_, fun again => ?_, fun row stored holds => ?_⟩
  · rw [next.job]
    exact within.max
  · rw [next.job]
    rcases next.retries again with before | retried
    · exact within.left before
    · unfold shouldRetry at retried
      rw [within.max, if_neg (Nat.ne_of_gt positive), decide_eq_true_eq] at retried
      exact retried
  · rw [next.job]
    rw [next.worker, next.job] at holds
    exact still.last row stored holds

theorem claimable_cases {now : Int} {row : LeasedJob} (claimable : claimable now row = true) :
    (row.status = .pending ∨ row.status = .retry) ∨ row.status = .running := by
  unfold LeaseStore.claimable at claimable
  simp only [Bool.or_eq_true, Bool.and_eq_true, decide_eq_true_eq] at claimable
  rcases claimable with waits | ⟨running, -⟩
  · exact Or.inl waits
  · exact Or.inr running

theorem timesHanded_claim (w : LeaseWorld) (row : LeasedJob) (worker : String) (s : LeaseStore)
    (runs : List LeaseRun) (id : Nat) :
    timesHanded (w.enter { store := s, next := runs, events := [.handed row.id worker] }) id =
      w.timesHanded id + if row.id = id then 1 else 0 := by
  show countP (handsOut id) (.handed row.id worker :: w.log) = _
  have one : handsOut id (.handed row.id worker) = decide (row.id = id) := rfl
  rw [countP_cons, one]
  by_cases same : row.id = id
  · rw [if_pos same, if_pos (decide_eq_true same)]
    rfl
  · rw [if_neg same, if_neg (by simpa using same)]
    rfl

theorem Budgeted.step (budgeted : Budgeted id budget w) (sane : w.Sane) (positive : 0 < budget)
    (taken : w.step cfg action = some later) : Budgeted id budget later := by
  cases step_takes taken with
  | idle => exact budgeted
  | crash =>
    exact ⟨budgeted.rows, fun run mem => budgeted.runs run (mem_of_mem_eraseIdx mem)⟩
  | @heartbeat index run now found =>
    have there := mem_of_getElem? found
    have keeps := heartbeat_keeps cfg w.store run.worker run.job.id false now
    have never : false = true → run.retries = true := nofun
    refine ⟨Counted.keeps budgeted.rows (budgeted.runs run there) never keeps,
      fun other mem same => ?_⟩
    exact (budgeted.runs other mem same).keeps (sane.named other mem) keeps
  | @advance index input run next found store log others =>
    have there := mem_of_getElem? found
    have steps := run.run_steps cfg w.store input
    have handed : later.timesHanded id = w.timesHanded id := by
      unfold timesHanded
      rw [log]
      rcases steps.events with none | ⟨one, -⟩
      · rw [none]
        rfl
      · rw [one]
        rfl
    constructor
    · rw [handed, store]
      exact Counted.keeps budgeted.rows (budgeted.runs run there) (fun again => again) steps.keeps
    · intro other mem same
      rw [store]
      rcases others other mem with new | beside
      · have follows := steps.next other new
        rw [follows.job] at same
        exact (budgeted.runs run there same).follows positive
          (sane.named run there) follows steps.keeps
      · have old := mem_of_mem_eraseIdx beside
        exact (budgeted.runs other old same).keeps (sane.named other old) steps.keeps
  | @claim worker now locked row named free picked =>
    obtain ⟨there, -⟩ := picked_some picked
    constructor
    · rw [timesHanded_claim]
      intro after stored same
      rcases claimed_back stored with ⟨found, listed, number, rfl⟩ | ⟨listed, other⟩
      · have counted := budgeted.rows found listed same
        rw [if_pos (number.symm.trans same)]
        refine ⟨counted.max, congrArg (· + 1) counted.attempt, fun waits => ?_⟩
        rcases waits with waits | waits
        · cases waits
        · cases waits
      · rw [if_neg fun number => other (same.trans number.symm)]
        exact budgeted.rows after listed same
    · intro run mem same
      rcases mem_append.mp mem with old | new
      · have within := budgeted.runs run old same
        refine ⟨within.max, within.left, fun after stored holds => ?_⟩
        rcases claimed_back stored with ⟨found, listed, number, rfl⟩ | ⟨listed, -⟩
        · -- The worker that claims runs nothing else.
          have owner : worker = run.worker := by
            unfold LeaseStore.holds at holds
            rw [Bool.and_eq_true, decide_eq_true_eq, decide_eq_true_eq] at holds
            exact holds.2
          have runs : w.busy worker = true := any_eq_true.mpr ⟨run, old, decide_eq_true owner.symm⟩
          rw [free] at runs
          cases runs
        · exact within.last after listed holds
      · cases mem_singleton.mp new
        have counted := budgeted.rows row there same
        refine ⟨?_, nofun, fun after stored holds => ?_⟩
        · show row.maxAttempts.getD 3 = budget
          rw [counted.max]
          rfl
        · rcases claimed_back stored with ⟨found, listed, number, rfl⟩ | ⟨-, other⟩
          · rw [inj_on_of_nodup_map sane.distinct listed there number]
            rfl
          · unfold LeaseStore.holds at holds
            rw [Bool.and_eq_true, decide_eq_true_eq] at holds
            exact absurd holds.1 other

/-- The claim is one of a job whose lease has run out and whose attempts are used up. -/
def Overdrawn (id : Nat) (w : LeaseWorld) : LeaseAction → Prop
  | .claim _ now locked => ∃ row ∈ w.store.picked now locked, row.id = id ∧ row.status = .running ∧
      row.maxAttempts.getD 3 ≤ row.attempt
  | _ => False

instance (id : Nat) (w : LeaseWorld) (action : LeaseAction) :
    Decidable (Overdrawn id w action) := by
  cases action <;> dsimp only [Overdrawn] <;> infer_instance

theorem timesHanded_le (taken : w.step cfg action = some later) :
    w.timesHanded id ≤ later.timesHanded id := by
  have grows : ∀ {events : List LeaseEvent}, later.log = events ++ w.log →
      w.timesHanded id ≤ later.timesHanded id := by
    intro events log
    unfold timesHanded
    rw [log, countP_append]
    omega
  cases step_takes taken with
  | idle | crash | heartbeat => exact Nat.le_refl _
  | advance _ _ log => exact grows log
  | claim => exact grows rfl

theorem step_within_iff (budgeted : Budgeted id budget w) (taken : w.step cfg action = some later) :
    later.timesHanded id ≤ budget ↔ w.timesHanded id ≤ budget ∧ ¬Overdrawn id w action := by
  have same (handed : later.timesHanded id = w.timesHanded id) (allowed : ¬Overdrawn id w action) :
      later.timesHanded id ≤ budget ↔ w.timesHanded id ≤ budget ∧ ¬Overdrawn id w action := by
    rw [handed]
    exact ⟨fun within => ⟨within, allowed⟩, And.left⟩
  cases step_takes taken with
  | crash | heartbeat => exact same rfl fun overdrawn => overdrawn
  | idle worker none =>
    refine same rfl fun overdrawn => ?_
    obtain ⟨row, picked, -⟩ := overdrawn
    rw [none] at picked
    cases picked
  | @advance index input run next found store log others =>
    refine same ?_ fun overdrawn => overdrawn
    unfold timesHanded
    rw [log]
    rcases (run.run_steps cfg w.store input).events with none | ⟨one, -⟩
    · rw [none]
      rfl
    · rw [one]
      rfl
  | @claim worker now locked row named free picked =>
    obtain ⟨there, claimable⟩ := picked_some picked
    by_cases number : row.id = id
    · have counted := budgeted.rows row there number
      have handed : w.timesHanded id = row.attempt := counted.attempt.symm
      have finished : Overdrawn id w (.claim worker now locked) ↔ row.status = .running ∧
          budget ≤ row.attempt := by
        constructor
        · intro overdrawn
          obtain ⟨found, chosen, -, running, used⟩ := overdrawn
          obtain rfl := Option.some.inj (picked.symm.trans chosen)
          rw [counted.max] at used
          exact ⟨running, used⟩
        · intro known
          refine ⟨row, picked, number, known.1, ?_⟩
          rw [counted.max]
          exact known.2
      rw [timesHanded_claim, if_pos number, finished, handed]
      rcases claimable_cases claimable with waits | running
      · have left := counted.left waits
        constructor
        · intro within
          exact ⟨by omega, fun known => by omega⟩
        · intro _
          omega
      · constructor
        · intro within
          exact ⟨by omega, fun known => by omega⟩
        · intro known
          have left : ¬budget ≤ row.attempt := fun used => known.2 ⟨running, used⟩
          omega
    · refine same ?_ fun overdrawn => ?_
      · rw [timesHanded_claim, if_neg number]
        rfl
      · obtain ⟨found, chosen, equal, -⟩ := overdrawn
        obtain rfl := Option.some.inj (picked.symm.trans chosen)
        exact number equal

/-- **A job is handed out no more often than it has attempts exactly if it is never claimed with its
attempts used up when its lease has run out.** -/
theorem handed_within_budget_iff (cfg : LeaseConfig) (s : LeaseStore)
    (distinct : (s.jobs.map (·.id)).Nodup) (job : LeasedJob) (stored : job ∈ s.jobs)
    (fresh : job.status = .pending ∧ job.attempt = 0) (budget : Nat)
    (max : job.maxAttempts = some budget) (positive : 1 ≤ budget) (actions : List LeaseAction)
    (w : LeaseWorld)
    (reached : Base.run (step cfg) { store := s } actions = some w) :
    w.timesHanded job.id ≤ budget ↔
      Base.Along (step cfg) (fun w action => ¬Overdrawn job.id w action)
        { store := s } actions := by
  have kept : ∀ w action later, w.Sane ∧ Budgeted job.id budget w → step cfg w action = some later →
      later.Sane ∧ Budgeted job.id budget later := by
    intro w action later inv taken
    exact ⟨inv.1.step taken, inv.2.step inv.1 positive taken⟩
  have start : Sane { store := s } ∧ Budgeted job.id budget { store := s } := by
    refine ⟨.start distinct, fun row listed same => ?_, forall_mem_nil _⟩
    obtain rfl := inj_on_of_nodup_map distinct listed stored same
    refine ⟨max, fresh.2, fun _ => ?_⟩
    omega
  constructor
  · intro within
    have back : ∀ w action later, step cfg w action = some later →
        later.timesHanded job.id ≤ budget → w.timesHanded job.id ≤ budget := by
      intro w action later taken bound
      exact Nat.le_trans (timesHanded_le taken) bound
    refine (Base.along_of_last kept back ?_ start reached within).1
    intro w action later inv taken bound
    exact ((step_within_iff inv.2 taken).mp bound).2
  · intro along
    have bounded : ∀ w action later,
        (w.Sane ∧ Budgeted job.id budget w) ∧ w.timesHanded job.id ≤ budget →
        ¬Overdrawn job.id w action →
        step cfg w action = some later →
        (later.Sane ∧ Budgeted job.id budget later) ∧ later.timesHanded job.id ≤ budget := by
      intro w action later inv allowed taken
      exact ⟨kept w action later inv.1 taken, (step_within_iff inv.1.2 taken).mpr ⟨inv.2, allowed⟩⟩
    exact (Base.run_invariant_along bounded ⟨start, Nat.zero_le _⟩ along reached).2

/-- One job that may be tried once. -/
def triedOnce : LeaseStore where
  jobs := [{ id := 1, taskTID := "t", maxAttempts := some 1 }]
  tasks := [{ tid := "t" }]

/-- It fails, and its last attempt was its only one. -/
def failsOnce : List LeaseAction :=
  [.claim "a" 0 [], .advance 0 {}, .advance 0 {}, .advance 0 {},
    .advance 0 { raised := some (.other "") }, .advance 0 {}, .claim "a" 400000 []]

/-- A job that fails once is handed out once. -/
theorem failed_job_handed_once :
    ∃ w, Base.run (step {}) { store := triedOnce } failsOnce = some w ∧ w.timesHanded 1 = 1 ∧
      w.timesHanded 1 ≤ 1 := by
  obtain ⟨w, reached, handed⟩ : ∃ w, Base.run (step {}) { store := triedOnce } failsOnce = some w ∧
      w.timesHanded 1 = 1 := Base.exists_run (by decide)
  have careful : Base.Along (step {}) (fun w action => ¬Overdrawn 1 w action)
      { store := triedOnce } failsOnce :=
    Base.along_of_decide (by decide)
  refine ⟨w, reached, handed, ?_⟩
  exact (handed_within_budget_iff {} triedOnce (by decide)
    { id := 1, taskTID := "t", maxAttempts := some 1 } (by decide) (by decide) 1 rfl (by decide)
    failsOnce w reached).mpr careful

/-- A worker that stops leaves the job to be handed out again and again. -/
theorem crashed_job_handed_again :
    ∃ w, Base.run (step {}) { store := triedOnce }
        [.claim "a" 0 [], .crash 0, .claim "a" 400000 [], .crash 0, .claim "a" 800000 []] = some w ∧
      w.store.jobs.map (·.maxAttempts) = [some 1] ∧ w.timesHanded 1 = 3 :=
  Base.exists_run (by decide)

end LeaseWorld

end MiniDrop
