import MiniDrop.Verif.ArtifactSteps
/-!
# Generations of analysis jobs

Every job gets the generation after the highest one of its task, under the lock on the row of the
task, so generations count up from 1. Whether a job is in flight is checked by requests for another
analysis only, and whether an object has a job already by its attempt only. So a task has one job in
flight and an object one initial job as long as an initial job is created for an object that was not
registered before, when no job of the task is in flight.
-/
namespace MiniDrop

open ArtifactStore ArtifactKind List Base Artifact

variable {id : Nat}

/-- The numbers from 1 up to a bound have the bound as their maximum. -/
theorem foldl_max_range (n : Nat) : (range' 1 n).foldl max 0 = n := by
  induction n with
  | zero => rfl
  | succ n ih =>
    rw [range'_concat, foldl_append, ih]
    show max n (1 + 1 * n) = n + 1
    omega

namespace ArtifactStore

variable {s t : ArtifactStore} {new job : AnalysisJob} {buried : Option Nat}

/-! ## The invariant -/

/-- The jobs of a task, in the order in which they were created. -/
def jobsOf (s : ArtifactStore) (tid : String) : List AnalysisJob :=
  s.analysisJobs.filter (·.taskTID = tid)

/-- Two jobs have inputs with the same key. -/
def ShareKey (s : ArtifactStore) (a b : AnalysisJob) : Prop :=
  ∃ row ∈ s.artifacts, ∃ other ∈ s.artifacts, row.id ∈ a.inputArtifactIDs ∧
    other.id ∈ b.inputArtifactIDs ∧ row.objectKey = other.objectKey
  deriving Decidable

/-- The generations of a task are 1, 2, … in the order of creation. -/
def GenerationsCount (s : ArtifactStore) : Prop :=
  ∀ tid, (s.jobsOf tid).map (·.generation) = range' 1 (s.jobsOf tid).length

/-- No two initial jobs have an input with the same key. -/
def InputsApart (s : ArtifactStore) : Prop :=
  s.analysisJobs.Pairwise fun a b => a.trigger = .initial → b.trigger = .initial → ¬s.ShareKey a b
  deriving Decidable

/-- A task has one job in flight at most. -/
def FlightAlone (s : ArtifactStore) : Prop :=
  ∀ tid, (s.jobsOf tid).countP (·.status.inFlight) ≤ 1

/-- The highest generation is the number of the jobs. -/
theorem GenerationsCount.maxGeneration (counts : s.GenerationsCount) (tid : String) :
    s.maxGeneration tid = (s.jobsOf tid).length := by
  have counted := counts tid
  unfold ArtifactStore.maxGeneration
  unfold jobsOf at counted ⊢
  rw [counted, foldl_max_range]

/-- The same jobs. -/
theorem jobsOf_same (jobs : t.analysisJobs = s.analysisJobs) (tid : String) :
    t.jobsOf tid = s.jobsOf tid := by
  unfold jobsOf
  rw [jobs]

/-- One more job. -/
theorem jobsOf_add (jobs : t.analysisJobs = s.analysisJobs ++ [new]) (tid : String) :
    t.jobsOf tid = s.jobsOf tid ++ if new.taskTID = tid then [new] else [] := by
  unfold jobsOf
  rw [jobs, filter_append]
  congr 1
  rw [filter_singleton]
  by_cases here : new.taskTID = tid
  · rw [if_pos here, decide_eq_true here, cond_true]
  · rw [if_neg here, decide_eq_false here, cond_false]

/-- Jobs that are rewritten. -/
theorem jobsOf_map {change : AnalysisJob → AnalysisJob}
    (jobs : t.analysisJobs = s.analysisJobs.map change)
    (keeps : ∀ job, (change job).taskTID = job.taskTID) (tid : String) :
    t.jobsOf tid = (s.jobsOf tid).map change := by
  unfold jobsOf
  rw [jobs, filter_map]
  congr 1
  apply filter_congr
  intro job _
  show decide ((change job).taskTID = tid) = _
  rw [keeps job]

/-- A job with the next generation. -/
theorem GenerationsCount.add (counts : s.GenerationsCount)
    (jobs : t.analysisJobs = s.analysisJobs ++ [new])
    (generation : new.generation = s.maxGeneration new.taskTID + 1) : t.GenerationsCount := by
  intro tid
  rw [jobsOf_add jobs]
  split
  · next here =>
    rw [counts.maxGeneration, here] at generation
    rw [map_append, counts tid, length_append, map_singleton, generation,
      length_singleton, range'_concat]
    congr 2
    omega
  · rw [append_nil]
    exact counts tid

/-- A new status of a job. -/
theorem GenerationsCount.status (counts : s.GenerationsCount) (id : Nat) (status : AnalysisStatus) :
    (s.setAnalysisStatus id status).GenerationsCount := by
  obtain ⟨change, jobs, keeps⟩ := s.setAnalysisStatus_jobs id status
  intro tid
  rw [jobsOf_map jobs fun job => (keeps job).1, map_map, length_map]
  have same : (s.jobsOf tid).map ((·.generation) ∘ change) = (s.jobsOf tid).map (·.generation) :=
    map_congr_left fun job _ => (keeps job).2.1
  rw [same]
  exact counts tid

/-- What holds of the inputs and of the jobs in flight. -/
structure Queued (s : ArtifactStore) : Prop where
  ids : s.ArtifactIDs
  own : ∀ job ∈ s.analysisJobs, job.trigger = .initial → ∀ id ∈ job.inputArtifactIDs,
    ∃ key, (id, job.taskTID, raw, key) ∈ s.artifacts.map ident
  apart : s.InputsApart
  alone : s.FlightAlone

variable (queued : s.Queued)
include queued

section

variable (grows : Grows buried s t)
include grows

/-- The row of an input was there before. -/
theorem Queued.input_row {row : Artifact} (mem : job ∈ s.analysisJobs)
    (initial : job.trigger = .initial) (stored : row ∈ t.artifacts)
    (input : row.id ∈ job.inputArtifactIDs) : ∃ before ∈ s.artifacts, before.ident = row.ident := by
  rcases grows.rows.back stored with ⟨before, listed, kept⟩ | ⟨-, above⟩
  · exact ⟨before, listed, kept.ident.symm⟩
  · obtain ⟨key, known⟩ := queued.own job mem initial row.id input
    obtain ⟨found, listed, ident⟩ := mem_map.mp known
    have id : found.id = row.id := congrArg Prod.fst ident
    have below := queued.ids.below found listed
    omega

/-- Rows that are new share no key between old jobs. -/
theorem Queued.still_apart :
    s.analysisJobs.Pairwise fun a b => a.trigger = .initial → b.trigger = .initial →
      ¬t.ShareKey a b := by
  apply queued.apart.imp_of_mem
  intro a b first second apart left right shared
  obtain ⟨row, stored, other, stored', input, input', key⟩ := shared
  obtain ⟨before, listed, ident⟩ := queued.input_row grows first left stored input
  obtain ⟨before', listed', ident'⟩ := queued.input_row grows second right stored' input'
  apply apart left right
  refine ⟨before, listed, before', listed', ?_, ?_, ?_⟩
  · rw [show before.id = row.id from congrArg Prod.fst ident]
    exact input
  · rw [show before'.id = other.id from congrArg Prod.fst ident']
    exact input'
  · rw [show before.objectKey = row.objectKey from congrArg (·.2.2.2) ident,
      show before'.objectKey = other.objectKey from congrArg (·.2.2.2) ident', key]

/-- The inputs of an old job stay its own. -/
theorem Queued.still_own (mem : job ∈ s.analysisJobs) (initial : job.trigger = .initial)
    (input : id ∈ job.inputArtifactIDs) :
    ∃ key, (id, job.taskTID, raw, key) ∈ t.artifacts.map ident := by
  obtain ⟨key, known⟩ := queued.own job mem initial id input
  obtain ⟨added, later⟩ := grows.rows.keys fun _ _ kept => kept.ident
  rw [later]
  exact ⟨key, mem_append_left _ known⟩

/-- No job is added. -/
theorem Queued.same_jobs (jobs : t.analysisJobs = s.analysisJobs) : t.Queued := by
  refine ⟨grows.ids queued.ids, ?_, ?_, ?_⟩
  · rw [jobs]
    exact fun job mem initial id input => queued.still_own grows mem initial input
  · unfold InputsApart
    rw [jobs]
    exact queued.still_apart grows
  · intro tid
    rw [jobsOf_same jobs]
    exact queued.alone tid

end

/-- A new status of a job. -/
theorem Queued.status (id : Nat) (status : AnalysisStatus) :
    (s.setAnalysisStatus id status).Queued := by
  obtain ⟨change, jobs, keeps⟩ := s.setAnalysisStatus_jobs id status
  refine ⟨⟨queued.ids.distinct, queued.ids.below⟩, ?_, ?_, ?_⟩
  · intro job mem initial input listed
    rw [jobs] at mem
    obtain ⟨before, there, rfl⟩ := mem_map.mp mem
    obtain ⟨task, -, trigger, inputs, -⟩ := keeps before
    rw [trigger] at initial
    rw [inputs] at listed
    rw [task]
    exact queued.own before there initial input listed
  · unfold InputsApart
    rw [jobs, pairwise_map]
    apply queued.apart.imp
    intro a b apart left right shared
    obtain ⟨-, -, triggerA, inputsA, -⟩ := keeps a
    obtain ⟨-, -, triggerB, inputsB, -⟩ := keeps b
    rw [triggerA] at left
    rw [triggerB] at right
    unfold ShareKey at shared
    rw [inputsA, inputsB] at shared
    exact apart left right shared
  · intro tid
    rw [jobsOf_map jobs fun job => (keeps job).1, countP_map]
    have fewer : (s.jobsOf tid).countP ((·.status.inFlight) ∘ change) ≤
        (s.jobsOf tid).countP (·.status.inFlight) :=
      countP_mono_left fun job _ flies => (keeps job).2.2.2.2 flies
    exact fewer.trans (queued.alone tid)

/-- A job is added while none of its task is in flight. -/
theorem Queued.add (grows : Grows none s t) (jobs : t.analysisJobs = s.analysisJobs ++ [new])
    (alone : s.analysisInFlight new.taskTID = false)
    (own : new.trigger = .initial → ∀ id ∈ new.inputArtifactIDs,
      ∃ key, (id, new.taskTID, raw, key) ∈ t.artifacts.map ident)
    (apart : new.trigger = .initial → ∀ job ∈ s.analysisJobs, job.trigger = .initial →
      ¬t.ShareKey job new) : t.Queued := by
  refine ⟨grows.ids queued.ids, ?_, ?_, ?_⟩
  · intro job mem initial id input
    rw [jobs] at mem
    rcases mem_append.mp mem with old | last
    · exact queued.still_own grows old initial input
    · obtain rfl := mem_singleton.mp last
      exact own initial id input
  · unfold InputsApart
    rw [jobs]
    apply pairwise_append.mpr
    refine ⟨queued.still_apart grows, pairwise_singleton _ _, ?_⟩
    intro job old other last left right
    obtain rfl := mem_singleton.mp last
    exact apart right job old left
  · intro tid
    rw [jobsOf_add jobs]
    split
    · next here =>
      have none : (s.jobsOf tid).countP (·.status.inFlight) = 0 := by
        apply countP_eq_zero.mpr
        intro job mem flies
        obtain ⟨old, task⟩ := mem_filter.mp mem
        have idle := any_eq_false.mp alone job old
        apply idle
        rw [here]
        simp [of_decide_eq_true task, flies]
      rw [countP_append, none, Nat.zero_add]
      exact countP_le_length
    · rw [append_nil]
      exact queued.alone tid

end ArtifactStore

/-! ## Jobs of the queue -/

/-- What a job is planned for. -/
structure Planning where
  (tid key : String)
  plan : QueuePlan

namespace QueueJob

/-- The plan of a transaction that may create an initial job. -/
def planning : QueueJob → Option Planning
  | .planned req task plan => some { tid := task.tid, key := req.cosKey, plan }
  | .foundPlanned tid key _ plan => some { tid, key, plan }
  | _ => none

/-- A plan with inputs was made when the row of the object was there. -/
def Recalls (s : ArtifactStore) (job : QueueJob) : Prop :=
  ∀ p ∈ job.planning, p.plan.inputs.isSome = true →
    ∃ id, (id, p.tid, raw, trimSpace p.key) ∈ s.artifacts.map ident

/-- An initial job is created only if no job of the task is in flight and no raw object is
registered under the key. -/
def First (cfg : NotifyConfig) (s : ArtifactStore) (job : QueueJob) : Prop :=
  ∀ p ∈ job.planning, overtaken s p.tid p.key p.plan = false →
    s.hasInitialJob cfg.generations p.tid p.plan.pipeline p.plan.attemptID = false →
    s.analysisInFlight p.tid = false ∧
      ∀ row ∈ s.artifacts, row.kind = .raw → row.objectKey ≠ trimSpace p.key
  deriving Decidable

variable {cfg : NotifyConfig} {s t : ArtifactStore} {job : QueueJob} {input : WorkInput}

/-- A job without a plan. -/
theorem Recalls.of_none (none : job.planning = none) : job.Recalls s := by
  intro p planned
  rw [none] at planned
  cases planned

/-- What a plan has found stays. -/
theorem Recalls.persists (recalls : job.Recalls s) {buried : Option Nat}
    (grows : ArtifactStore.Grows buried s t) : job.Recalls t := by
  intro p planned some
  obtain ⟨id, known⟩ := recalls p planned some
  obtain ⟨added, later⟩ := grows.rows.keys fun _ _ kept => kept.ident
  rw [later]
  exact ⟨id, mem_append_left _ known⟩

variable {tid key : String} {attemptID : Nat} {new : AnalysisJob}

/-- A plan with inputs has found its row. -/
theorem planAnalysis_recalls (some : (s.planAnalysis tid attemptID key).inputs.isSome = true) :
    ∃ id, (id, tid, raw, trimSpace key) ∈ s.artifacts.map Artifact.ident := by
  unfold planAnalysis at some
  rw [Option.isSome_map] at some
  obtain ⟨row, found⟩ := Option.isSome_iff_exists.mp some
  have named := find?_some found
  simp only [Artifact.named, Bool.and_eq_true, decide_eq_true_eq] at named
  refine ⟨row.id, mem_map.mpr ⟨row, mem_of_find?_eq_some found, ?_⟩⟩
  unfold Artifact.ident
  rw [named.1.1, named.1.2, named.2]

/-- A step leaves plans that have found their rows. -/
theorem run_recalls : ∀ later ∈ (job.run cfg s input).next, later.Recalls s := by
  intro later mem
  cases run_next mem with
  | plan | look =>
    intro p planned
    rw [← Option.some.inj planned]
    exact planAnalysis_recalls
  | _ =>
    exact .of_none rfl

/-- A job is created for a plan or on request. -/
theorem Creates.cases (creates : job.Creates cfg s new) :
    (∃ p ∈ job.planning, overtaken s p.tid p.key p.plan = false ∧
        new.InitialFor cfg.generations s p.tid p.plan) ∨
      ∃ request rawIDs, new.ManualFor s request rawIDs := by
  cases job with
  | planned | foundPlanned => exact Or.inl ⟨_, rfl, creates⟩
  | creating request rawIDs => exact Or.inr ⟨request, rawIDs, creates⟩
  | _ =>
    cases creates

/-- It gets the next generation. -/
theorem Creates.generation (creates : job.Creates cfg s new)
    (generations : cfg.generations = true) : new.generation = s.maxGeneration new.taskTID + 1 := by
  rcases creates.cases with ⟨p, -, -, initial⟩ | ⟨request, rawIDs, manual⟩
  · rw [initial.generation, generations, initial.task]
    rfl
  · rw [manual.generation, manual.task]

/-- The row of a queued analysis is registered. -/
theorem queueAnalysis_row {generations : Bool} {size now : Int}
    {plan : QueuePlan} (absent : s.findArtifact tid .raw (trimSpace key) = none)
    (queued : s.queueAnalysis generations tid attemptID key size plan now = some t) :
    (s.nextArtifactID, tid, raw, trimSpace key) ∈ t.artifacts.map ident := by
  obtain ⟨artifacts, -, -⟩ := queueAnalysis_some queued
  have added : s.addedRow (rawRow tid attemptID key size now) =
      [{ rawRow tid attemptID key size now with id := s.nextArtifactID }] := by
    unfold addedRow
    rw [show s.findArtifact (rawRow tid attemptID key size now).taskTID
      (rawRow tid attemptID key size now).kind
      (rawRow tid attemptID key size now).objectKey = none from absent]
    rfl
  rw [artifacts, insertArtifact_artifacts, added, map_append]
  exact mem_append_right _ (mem_singleton_self _)

/-- So is that of a job that was planned. -/
theorem Writes.row (writes : job.Writes cfg s t) {p : Planning} (planned : p ∈ job.planning)
    (absent : s.findArtifact p.tid .raw (trimSpace p.key) = none)
    (changed : t.analysisJobs ≠ s.analysisJobs) :
    (s.nextArtifactID, p.tid, raw, trimSpace p.key) ∈ t.artifacts.map ident := by
  cases writes with
  | same => exact absurd rfl changed
  | @commit req task plan now _ alone done =>
    obtain rfl := Option.some.inj planned
    obtain ⟨listed, listing, rfl⟩ := Option.map_eq_some_iff.mp done
    obtain ⟨queued, queueing, rfl⟩ := Option.map_eq_some_iff.mp listing
    have row := queueAnalysis_row (s := s.advanceTask task now) absent queueing
    obtain ⟨added, later⟩ :=
      (ArtifactStore.Extends.finish queued req task.tid now).grows.rows.keys fun _ _ kept =>
        kept.ident
    rw [later]
    exact mem_append_left _ row
  | queue alone done =>
    obtain rfl := Option.some.inj planned
    exact queueAnalysis_row absent done
  | drop | create => cases planned

/-- A new key is in no row. -/
theorem ident_of_new (new : ∀ row ∈ s.artifacts, row.kind = .raw → row.objectKey ≠ key) :
    (id, tid, raw, key) ∉ s.artifacts.map ident := by
  intro known
  obtain ⟨row, listed, ident⟩ := mem_map.mp known
  exact new row listed (congrArg (·.2.2.1) ident) (congrArg (·.2.2.2) ident)

/-- Nothing is found under a new key. -/
theorem absent_of_new (tid : String) (new : ∀ row ∈ s.artifacts, row.kind = .raw →
    row.objectKey ≠ key) : s.findArtifact tid .raw key = none := by
  apply find?_eq_none.mpr
  intro row listed named
  simp only [Artifact.named, Bool.and_eq_true, decide_eq_true_eq] at named
  exact new row listed named.1.2 named.2

/-- A job that comes first leaves the jobs apart. -/
theorem Creates.queued (creates : job.Creates cfg s new) (queued : s.Queued)
    (recalls : job.Recalls s) (first : job.First cfg s) (writes : job.Writes cfg s t)
    (grows : ArtifactStore.Grows none s t)
    (jobs : t.analysisJobs = s.analysisJobs ++ [new]) : t.Queued := by
  rcases creates.cases with ⟨p, planned, alone, initial⟩ | ⟨request, rawIDs, manual⟩
  · obtain ⟨idle, unknown⟩ := first p planned alone initial.first
    have absent := absent_of_new p.tid unknown
    have unplanned : p.plan.inputs = none := by
      cases inputs : p.plan.inputs with
      | none => rfl
      | some =>
        obtain ⟨id, known⟩ := recalls p planned (by rw [inputs]; rfl)
        exact absurd known (ident_of_new unknown)
    have inputs : new.inputArtifactIDs = [s.nextArtifactID] := by
      rw [initial.inputs, unplanned]
      rfl
    have changed : t.analysisJobs ≠ s.analysisJobs := by
      rw [jobs]
      simp
    have row := writes.row planned absent changed
    refine queued.add grows jobs ?_ ?_ ?_
    · rw [initial.task]
      exact idle
    · intro _ id input
      rw [inputs] at input
      rw [mem_singleton.mp input, initial.task]
      exact ⟨_, row⟩
    · -- An old input with the key would be a raw object under it.
      intro _ job mem trigger shared
      obtain ⟨one, stored, other, stored', input, input', key⟩ := shared
      obtain ⟨before, listed, ident⟩ := queued.input_row grows mem trigger stored input
      obtain ⟨known, own⟩ := queued.own job mem trigger one.id input
      obtain ⟨found, listed', ident'⟩ := mem_map.mp own
      have id' : found.id = before.id :=
        (congrArg Prod.fst ident').trans (congrArg Prod.fst ident).symm
      obtain rfl := inj_on_of_nodup_map queued.ids.distinct listed' listed id'
      have kind : found.kind = .raw := congrArg (·.2.2.1) ident'
      rw [inputs] at input'
      obtain ⟨fresh, there, same⟩ := mem_map.mp row
      have id : fresh.id = other.id := by
        rw [mem_singleton.mp input']
        exact congrArg Prod.fst same
      obtain rfl := inj_on_of_nodup_map (grows.ids queued.ids).distinct there stored' id
      apply unknown found listed kind
      calc found.objectKey = one.objectKey := congrArg (·.2.2.2) ident
        _ = fresh.objectKey := key
        _ = trimSpace p.key := congrArg (·.2.2.2) same
  · refine queued.add grows jobs ?_ ?_ ?_
    · rw [manual.task]
      exact manual.alone
    all_goals
      intro initial
      rw [manual.trigger] at initial
      cases initial

end QueueJob

/-! ## The system -/

/-- An initial job that a step creates is alone and the first of its object. -/
def ArtifactJob.First (cfg : NotifyConfig) (s : ArtifactStore) : ArtifactJob → Prop
  | .queue job => job.First cfg s
  | _ => True

instance (cfg : NotifyConfig) (s : ArtifactStore) : ∀ job : ArtifactJob, Decidable (job.First cfg s)
  | .queue job => inferInstanceAs (Decidable (job.First cfg s))
  | .clean _ | .symbol _ => .isTrue trivial

namespace ArtifactWorld

variable {cfg : NotifyConfig} {w next : ArtifactWorld} {action : ArtifactAction}

/-- An initial job is created only if no job of the task is in flight and no raw object is
registered under the key. -/
def CreatesFirst (cfg : NotifyConfig) (w : ArtifactWorld) : ArtifactAction → Prop
  | .advance index _ => ∀ job ∈ w.jobs[index]?, job.First cfg w.store
  | _ => True

instance (cfg : NotifyConfig) (w : ArtifactWorld) (action : ArtifactAction) :
    Decidable (w.CreatesFirst cfg action) := by
  cases action <;> dsimp only [CreatesFirst] <;> infer_instance

/-- Every step counts the generations on. -/
theorem generations_step (generations : cfg.generations = true) (counts : w.store.GenerationsCount)
    (taken : w.step cfg action = some next) : next.store.GenerationsCount := by
  have same {t : ArtifactStore} (jobs : t.analysisJobs = w.store.analysisJobs) :
      t.GenerationsCount := by
    intro tid
    rw [jobsOf_same jobs]
    exact counts tid
  rcases step_cases taken with ⟨out, entered, rfl⟩ | ⟨index, input, job, rfl, found, store, -⟩ |
    ⟨index, rfl, rfl⟩
  · rcases (ArtifactAction.enter_does entered).writes.jobs with ⟨jobs, -⟩ | ⟨id, status, set⟩
    · exact same jobs
    · show out.store.GenerationsCount
      rw [set]
      exact counts.status id status
  · rw [store]
    rcases job.run_jobs cfg w.store input with ⟨jobs, -⟩ | ⟨step, new, rfl, jobs, -, creates⟩
    · exact same jobs
    · exact counts.add jobs (creates.generation generations)
  · exact counts

/-- What holds in every state. -/
structure Queued (w : ArtifactWorld) : Prop where
  store : w.store.Queued
  recalls : ∀ job, .queue job ∈ w.jobs → job.Recalls w.store

/-- Every step keeps the jobs apart. -/
theorem Queued.step (queued : w.Queued) (first : w.CreatesFirst cfg action)
    (taken : w.step cfg action = some next) : next.Queued := by
  have grows := step_grows taken
  rcases step_cases taken with ⟨out, entered, rfl⟩ | ⟨index, input, job, rfl, found, store, -,
    others⟩ | ⟨index, rfl, rfl⟩
  · refine ⟨?_, fun job mem => ?_⟩
    · rcases (ArtifactAction.enter_does entered).writes.jobs with ⟨jobs, -⟩ | ⟨id, status, set⟩
      · exact queued.store.same_jobs grows jobs
      · show out.store.Queued
        rw [set]
        exact queued.store.status id status
    · rcases mem_append.mp mem with old | new
      · exact (queued.recalls job old).persists grows
      · cases (ArtifactAction.enter_does entered).next _ new with
        | notified | found | reanalysis => exact .of_none rfl
  · refine ⟨?_, fun other mem => ?_⟩
    · rcases job.run_jobs cfg w.store input with ⟨jobs, -⟩ | ⟨step, new, rfl, jobs, -, creates⟩
      · rw [← store] at jobs
        exact queued.store.same_jobs grows jobs
      · have writes := (step.run_does cfg w.store input).writes
        rw [store]
        exact creates.queued queued.store (queued.recalls step (mem_of_getElem? found))
          (first _ found) writes writes.grows jobs
    · rcases others _ mem with new | beside
      · obtain ⟨step, rfl, listed⟩ := ArtifactJob.next_of_mem new
        exact (QueueJob.run_recalls _ listed).persists grows
      · exact (queued.recalls other (mem_of_mem_eraseIdx beside)).persists grows
  · exact ⟨queued.store, fun job mem => queued.recalls job (mem_of_mem_eraseIdx mem)⟩

/-- **Generations of analysis jobs**: in every run the generations of a task count up from 1 in the
order of creation. If initial jobs are created only when no job of the task is in flight and no raw
object is registered under the key, no two initial jobs have an input with the same key, and a task
never has two jobs in flight. -/
theorem jobs_count_and_stay_apart (cfg : NotifyConfig) (generations : cfg.generations = true)
    (s : ArtifactStore) (counts : s.GenerationsCount) (queued : s.Queued)
    (actions : List ArtifactAction)
    (w : ArtifactWorld) (reached : run (step cfg) { store := s } actions = some w) :
    w.store.GenerationsCount ∧
      (Along (step cfg) (CreatesFirst cfg) { store := s } actions →
        w.store.InputsApart ∧ w.store.FlightAlone) := by
  refine ⟨?_, fun along => ?_⟩
  · have keeps : ∀ (w : ArtifactWorld) action next, w.store.GenerationsCount →
        w.step cfg action = some next → next.store.GenerationsCount :=
      fun _ _ _ counts taken => generations_step generations counts taken
    exact run_invariant keeps counts reached
  · have start : Queued { store := s } := ⟨queued, fun _ mem => absurd mem not_mem_nil⟩
    have last : w.Queued :=
      run_invariant_along (fun _ _ _ queued first taken => queued.step first taken) start
        along reached
    exact ⟨last.store.apart, last.store.alone⟩

/-- The second attempt of the task, which has ended or not. -/
def secondAttempt (status : TaskStatus) : TaskStore :=
  { uploadingStore true true with tasks := [{ uploadingTask with status }] }

/-- Two attempts report objects of their own, each when the job before has ended, and a user asks
for another analysis of the second one. -/
def analysedThrice : List ArtifactAction :=
  report { taskID := "t", cosKey := "t/1/perf.data" } ++
    [.analysis 1 .success, .tasks (secondAttempt .uploading)] ++
    report { taskID := "t", cosKey := "t/2/perf.data", attemptID := 2 } ++
    [.analysis 2 .success, .tasks (secondAttempt .done), .reanalyze "t" 0 "u"] ++ steps 0 6

/-- The three jobs count up and stay apart. -/
theorem three_jobs_stay_apart :
    (run (step {}) { store := uploadingTables }
        analysedThrice).map (fun w => w.store.analysisJobs.map fun job =>
          (job.generation, job.trigger, job.inputArtifactIDs, job.status)) =
        some [(1, .initial, [1], .success), (2, .initial, [2], .success),
          (3, .manual, [2], .pending)] ∧
      ∀ w, run (step {}) { store := uploadingTables } analysedThrice = some w →
        w.store.GenerationsCount ∧ w.store.InputsApart ∧ w.store.FlightAlone := by
  refine ⟨by decide +kernel, fun w reached => ?_⟩
  have queued : uploadingTables.Queued := by
    refine ⟨⟨nodup_nil, ?_⟩, ?_, List.Pairwise.nil, fun _ => Nat.zero_le 1⟩
    all_goals exact forall_mem_nil _
  have along : Along (step {}) (CreatesFirst {})
      { store := uploadingTables } analysedThrice :=
    along_of_decide (by decide +kernel)
  obtain ⟨counts, both⟩ :=
    jobs_count_and_stay_apart {} rfl _ (fun _ => rfl) queued analysedThrice w reached
  exact ⟨counts, both along⟩

/-- A second attempt reports the object of the first under the same key while its job is pending. -/
theorem jobs_overlap :
    ∃ w, run (step {}) { store := uploadingTables }
        (report perfData ++ [.tasks (secondAttempt .uploading)] ++
          report { perfData with attemptID := 2 }) = some w ∧
      w.store.analysisJobs.map (fun job => (job.generation, job.trigger, job.inputArtifactIDs,
        job.status)) = [(1, .initial, [1], .pending), (2, .initial, [1], .pending)] ∧
      ¬w.store.InputsApart ∧ ¬w.store.FlightAlone := by
  refine Exists.imp (fun w seen => ⟨seen.1, seen.2.1, seen.2.2.1,
    fun alone => seen.2.2.2 (alone "t")⟩) (exists_run (p := fun w =>
      w.store.analysisJobs.map (fun job => (job.generation, job.trigger, job.inputArtifactIDs,
        job.status)) = [(1, .initial, [1], .pending), (2, .initial, [1], .pending)] ∧
      ¬w.store.InputsApart ∧ ¬(w.store.jobsOf "t").countP (·.status.inFlight) ≤ 1) (by decide))

end ArtifactWorld

end MiniDrop
