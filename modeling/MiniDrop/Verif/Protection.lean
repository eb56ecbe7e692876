import MiniDrop.Verif.ArtifactSteps
/-!
# What the cleaner leaves alone

A round reads the inputs of the jobs in flight once, and claims its rows one after the other. What
it reads of the pinned tasks it checks again with each claim, under the lock on the row of the task.
So a pin that was granted holds, and an input of a job in flight is left alone as long as no job is
created for a row that a round is still to claim.
-/
namespace MiniDrop

open ArtifactStore List Base

variable {new : AnalysisJob} {after row : Artifact}

/-! ## Rows that a round is still to claim -/

/-- The rows of an expired round that nothing protects. -/
def Round.exposed (round : Round) : List Nat :=
  if round.kind = .expired then
    (round.rest.filter fun row =>
      !round.pinned.contains row.taskTID && !round.active.contains row.id).map (·.id)
  else []

namespace CleanJob

/-- The rows that are left for a job once it has read the inputs of the jobs in flight. -/
def exposed (job : CleanJob) : List Nat :=
  match job with
  | .shielded rows active => (rows.filter fun row => !active.contains row.id).map (·.id)
  | _ => (job.round.map Round.exposed).getD []

/-- The rows that a job has read and is still to claim. -/
def waiting (job : CleanJob) : List Artifact :=
  match job with
  | .candidates rows => rows
  | .shielded rows _ => rows
  | _ => (job.round.map Round.rest).getD []

variable {s t : ArtifactStore} {job later : CleanJob} {round : Round} {id : Nat}

theorem exposed_of_round (part : job.round = some round) : job.exposed = round.exposed := by
  cases job with
  | shielded => cases part
  | _ =>
    unfold exposed
    rw [part]
    rfl

theorem waiting_of_round (part : job.round = some round) : job.waiting = round.rest := by
  cases job with
  | candidates | shielded => cases part
  | _ =>
    unfold waiting
    rw [part]
    rfl

theorem cases_of_none (none : job.round = none) :
    (∃ rows, job = .candidates rows) ∨ (∃ rows active, job = .shielded rows active) ∨
      (job.exposed = [] ∧ job.waiting = []) := by
  cases job with
  | candidates rows => exact .inl ⟨rows, rfl⟩
  | shielded rows active => exact .inr (.inl ⟨rows, active, rfl⟩)
  | _ =>
    refine .inr (.inr ⟨?_, ?_⟩)
    · unfold exposed
      rw [none]
      rfl
    · unfold waiting
      rw [none]
      rfl

theorem mem_exposed : id ∈ round.exposed ↔ round.kind = .expired ∧
      ∃ row ∈ round.rest, row.id = id ∧ row.taskTID ∉ round.pinned ∧ row.id ∉ round.active := by
  unfold Round.exposed
  split
  · next kind => simp [kind, and_assoc, and_comm]
  · next kind => simp [kind]

/-- A step leaves no more rows than there were, unless it has just read the inputs. -/
theorem Follows.exposed (follows : job.Follows s later) (mem : id ∈ later.exposed) :
    id ∈ job.exposed ∨ id ∉ s.activeAnalysisJobInputIDs := by
  cases part : later.round with
  | some round =>
    rw [exposed_of_round part] at mem
    obtain ⟨kind, row, listed, same, unpinned, inactive⟩ := mem_exposed.mp mem
    rcases follows.round part with ⟨skipped, before⟩ | ⟨rows, active, rfl, rfl⟩
    · refine .inl ?_
      rw [exposed_of_round before]
      exact mem_exposed.mpr ⟨kind, row, mem_append_right _ listed, same, unpinned, inactive⟩
    · refine .inl (mem_map.mpr ⟨row, mem_filter.mpr ⟨listed, ?_⟩, same⟩)
      simpa using inactive
  | none =>
    rcases cases_of_none part with ⟨rows, rfl⟩ | ⟨rows, active, rfl⟩ | ⟨nothing, -⟩
    · cases mem
    · obtain ⟨rfl, rfl⟩ := follows.shielded
      obtain ⟨row, listed, rfl⟩ := mem_map.mp mem
      have inactive := (mem_filter.mp listed).2
      exact .inr (by simpa using inactive)
    · rw [nothing] at mem
      cases mem

theorem Follows.waiting (follows : job.Follows s later) (mem : row ∈ later.waiting) :
    row ∈ job.waiting := by
  cases part : later.round with
  | some round =>
    rw [waiting_of_round part] at mem
    rcases follows.round part with ⟨skipped, before⟩ | ⟨rows, active, rfl, rfl⟩
    · rw [waiting_of_round before]
      exact mem_append_right _ mem
    · exact mem
  | none =>
    rcases cases_of_none part with ⟨rows, rfl⟩ | ⟨rows, active, rfl⟩ | ⟨-, nothing⟩
    · generalize later_eq : CleanJob.candidates rows = later at follows
      cases follows with
      | @take before row rest claims =>
        have part := wayOf_round row (reasonOf before row) { before with rest }
        rw [← later_eq] at part
        cases part
      | failedBlob _ _ rest | droppedSymbols _ rest =>
        cases rest with
        | round | blobs => cases later_eq
      | _ => cases later_eq
    · obtain ⟨-, rfl⟩ := follows.shielded
      exact mem
    · rw [nothing] at mem
      cases mem

/-- What is known of a job: its rows were read from the table, and those of a retry are being
deleted. -/
structure Read (s : ArtifactStore) (job : CleanJob) : Prop where
  rows : ∀ row ∈ job.waiting, row.ident ∈ s.artifacts.map Artifact.ident
  retry : ∀ round, job.round = some round → round.kind = .retry → ∀ row ∈ round.rest,
    row.status = .deleting

theorem Read.persists (read : job.Read s) {buried : Option Nat}
    (grows : ArtifactStore.Grows buried s t) : job.Read t := by
  obtain ⟨added, later⟩ := grows.rows.keys fun _ _ kept => kept.ident
  refine ⟨fun row mem => ?_, read.retry⟩
  rw [later]
  exact mem_append_left _ (read.rows row mem)

theorem Read.follows (read : job.Read s) (follows : job.Follows s later) : later.Read s := by
  refine ⟨fun row mem => read.rows row (follows.waiting mem), fun round part kind row mem => ?_⟩
  rcases follows.round part with ⟨skipped, before⟩ | ⟨rows, active, -, rfl⟩
  · exact read.retry _ before kind row (mem_append_right _ mem)
  · cases kind

end CleanJob

namespace ArtifactStore

variable {s t : ArtifactStore} {test : Artifact → Bool} {change : Artifact → Artifact} {id : Nat}

theorem mem_update (stored : after ∈ (s.updateArtifacts test change).artifacts) :
    ∃ row ∈ s.artifacts, after = if test row then change row else row := by
  obtain ⟨row, listed, same⟩ := mem_map.mp stored
  exact ⟨row, listed, same.symm⟩

theorem mem_update_of_not (stored : row ∈ s.artifacts) (fails : test row = false) :
    row ∈ (s.updateArtifacts test change).artifacts := by
  refine mem_map.mpr ⟨row, stored, ?_⟩
  rw [fails]
  rfl

theorem active_same (jobs : t.analysisJobs = s.analysisJobs) :
    t.activeAnalysisJobInputIDs = s.activeAnalysisJobInputIDs := by
  unfold activeAnalysisJobInputIDs
  rw [jobs]

theorem active_add (jobs : t.analysisJobs = s.analysisJobs ++ [new])
    (active : id ∈ t.activeAnalysisJobInputIDs) :
    id ∈ s.activeAnalysisJobInputIDs ∨ id ∈ new.inputArtifactIDs := by
  obtain ⟨job, flies, input⟩ := mem_flatMap.mp active
  rw [jobs, filter_append] at flies
  rcases mem_append.mp flies with old | last
  · exact .inl (mem_flatMap.mpr ⟨job, old, input⟩)
  · rw [mem_singleton.mp (mem_filter.mp last).1] at input
    exact .inr input

theorem active_status (job : Nat) (status : AnalysisStatus)
    (active : id ∈ (s.setAnalysisStatus job status).activeAnalysisJobInputIDs) :
    id ∈ s.activeAnalysisJobInputIDs := by
  obtain ⟨change, jobs, keeps⟩ := s.setAnalysisStatus_jobs job status
  obtain ⟨after, flies, input⟩ := mem_flatMap.mp active
  obtain ⟨mem, flying⟩ := mem_filter.mp flies
  rw [jobs] at mem
  obtain ⟨before, listed, rfl⟩ := mem_map.mp mem
  obtain ⟨-, -, -, inputs, grounded⟩ := keeps before
  rw [inputs] at input
  exact mem_flatMap.mpr ⟨before, mem_filter.mpr ⟨listed, grounded flying⟩, input⟩

/-! ## Pinned tasks -/

/-- The task is pinned, and its row is there. -/
def Pinned (s : ArtifactStore) (tid : String) : Prop :=
  tid ∈ s.pinned ∧ (tid ∈ s.tasks.map (·.tid) ∨ tid ∈ s.deletedTasks.map (·.tid))

/-- The tasks and their pins are as they were. -/
def SamePins (s t : ArtifactStore) : Prop :=
  t.tasks.map (·.tid) = s.tasks.map (·.tid) ∧ t.deletedTasks = s.deletedTasks ∧ t.pinned = s.pinned

theorem Pinned.same {tid : String} (pinned : s.Pinned tid) (same : s.SamePins t) :
    t.Pinned tid := by
  unfold Pinned
  rw [same.1, same.2.1, same.2.2]
  exact pinned

theorem Pinned.protected {tid : String} (pinned : s.Pinned tid) (named : tid ≠ "") :
    s.claimProtected tid = true := by
  unfold claimProtected
  rw [decide_eq_true named, Bool.true_and, Bool.or_eq_true]
  rcases pinned.2 with alive | deleted
  · obtain ⟨task, listed, same⟩ := mem_map.mp alive
    refine .inr ?_
    rw [Bool.and_eq_true]
    refine ⟨find?_isSome.mpr ⟨task, listed, ?_⟩, contains_iff_mem.mpr pinned.1⟩
    simpa using same
  · obtain ⟨task, listed, same⟩ := mem_map.mp deleted
    exact .inl (any_eq_true.mpr ⟨task, listed, by simpa using same⟩)

end ArtifactStore

namespace CleanJob

variable {s t : ArtifactStore} {job : CleanJob} {round : Round} {row : Artifact}

theorem Writes.claims_exposed (writes : job.Writes s t) (keyed : s.ArtifactIDs)
    (part : job.round = some round) (kind : round.kind = .expired)
    (stored : row ∈ s.artifacts) (stored' : after ∈ t.artifacts) (same : after.id = row.id)
    (before : row.status ≠ .deleting) (claimed : after.status = .deleting) :
    row.id ∈ job.exposed := by
  have unchanged (found : Artifact) (listed : found ∈ s.artifacts) (ids : after.id = found.id) :
      found = row :=
    inj_on_of_nodup_map keyed.distinct listed stored (ids.symm.trans same)
  have updated {test : Artifact → Bool} {change : Artifact → Artifact}
      (stored' : after ∈ (s.updateArtifacts test change).artifacts)
      (keeps : ∀ found, (change found).id = found.id) :
      test row = true ∧ after = change row := by
    obtain ⟨found, listed, equal⟩ := mem_update stored'
    split at equal
    · next passes =>
      obtain rfl := unchanged found listed (by rw [equal, keeps])
      exact ⟨passes, equal⟩
    · obtain rfl := unchanged found listed (by rw [equal])
      rw [equal] at claimed
      exact absurd claimed before
  cases writes with
  | @claim _ head rest claims =>
    cases part
    obtain ⟨passes, -⟩ := updated stored' fun _ => rfl
    have id : row.id = head.id := by
      simp only [Bool.and_eq_true, decide_eq_true_eq] at passes
      exact passes.1.1
    rw [exposed_of_round rfl, id]
    refine mem_exposed.mpr ⟨kind, head, ?_, rfl, claims.unpinned, claims.inactive⟩
    rw [claims.next]
    exact mem_cons_self
  | fail =>
    obtain ⟨-, equal⟩ := updated stored' fun _ => rfl
    rw [equal] at claimed
    exact absurd claimed before
  | complete =>
    obtain ⟨-, equal⟩ := updated stored' fun _ => rfl
    rw [equal] at claimed
    cases claimed
  | _ =>
    obtain rfl := unchanged after stored' rfl
    exact absurd claimed before

/-- A round leaves the rows of a pinned task alone that are ready. -/
theorem Writes.leaves_pinned (writes : job.Writes s t) (keyed : s.ArtifactIDs) (read : job.Read s)
    (part : job.round = some round) (kind : round.kind = .expired ∨ round.kind = .retry)
    (pinned : s.Pinned row.taskTID) (named : row.taskTID ≠ "") (stored : row ∈ s.artifacts)
    (ready : row.status = .ready) : row ∈ t.artifacts := by
  have untouched (id : Nat) : (row.id = id && row.status = .deleting : Bool) = false := by
    rw [ready]
    exact Bool.and_false _
  cases writes with
  | @claim _ head rest claims =>
    cases part
    apply mem_update_of_not stored
    apply Bool.eq_false_of_not_eq_true
    intro passes
    simp only [Bool.and_eq_true, decide_eq_true_eq] at passes
    obtain ⟨⟨id, status⟩, -⟩ := passes
    have mem : head ∈ round.rest := by
      rw [claims.next]
      exact mem_cons_self
    rcases kind with expired | retry
    · -- The row as it was read is of the same task.
      have known := read.rows head (by rw [waiting_of_round rfl]; exact mem)
      obtain ⟨found, listed, ident⟩ := mem_map.mp known
      have same : found.id = row.id := (congrArg Prod.fst ident).trans id.symm
      obtain rfl := inj_on_of_nodup_map keyed.distinct listed stored same
      have task : found.taskTID = head.taskTID := congrArg (·.2.1) ident
      have closed := pinned.protected named
      rw [task, claims.unprotected expired] at closed
      cases closed
    · have deleting := read.retry round rfl retry head mem
      rw [← status, ready] at deleting
      cases deleting
  | fail | complete => exact mem_update_of_not stored (untouched _)
  | _ =>
    exact stored

end CleanJob

/-! ## Jobs that are created -/

/-- The inputs of the job that a step of the queue is to create. -/
def QueueJob.lists (cfg : NotifyConfig) (s : ArtifactStore) : QueueJob → List Nat
  | .planned req task plan =>
    if overtaken s task.tid req.cosKey plan ||
        s.hasInitialJob cfg.generations task.tid plan.pipeline plan.attemptID then []
    else plan.inputs.getD [s.nextArtifactID]
  | .foundPlanned tid key _ plan =>
    if overtaken s tid key plan ||
        s.hasInitialJob cfg.generations tid plan.pipeline plan.attemptID then []
    else plan.inputs.getD [s.nextArtifactID]
  | .creating request rawIDs => if s.analysisInFlight request.tid then [] else rawIDs
  | _ => []

theorem QueueJob.Creates.lists {cfg : NotifyConfig} {s : ArtifactStore} {job : QueueJob}
    (creates : job.Creates cfg s new) : new.inputArtifactIDs = job.lists cfg s := by
  cases job with
  | planned | foundPlanned =>
    dsimp only [QueueJob.lists]
    rw [creates.1, creates.2.first]
    exact creates.2.inputs
  | creating =>
    dsimp only [QueueJob.lists]
    rw [creates.alone]
    exact creates.inputs
  | _ =>
    cases creates

namespace ArtifactJob

/-- The inputs of the job that a step is to create. -/
def lists (cfg : NotifyConfig) (s : ArtifactStore) : ArtifactJob → List Nat
  | .queue job => job.lists cfg s
  | _ => []

/-- The rows that are left for a job of the cleaner. -/
def exposed : ArtifactJob → List Nat
  | .clean job => job.exposed
  | _ => []

/-- The round of a job of the cleaner. -/
def round : ArtifactJob → Option Round
  | .clean job => job.round
  | _ => none

theorem run_pins (cfg : NotifyConfig) (s : ArtifactStore) (job : ArtifactJob) (input : WorkInput) :
    s.SamePins (job.run cfg s input).store := by
  have beside {t : ArtifactStore} (same : ArtifactStore.Extends s t) : s.SamePins t :=
    ⟨same.beside.rows.tids, same.beside.deletedTasks, same.beside.pinned⟩
  cases job with
  | queue job =>
    show s.SamePins (job.run cfg s input).store
    have writes := (job.run_does cfg s input).writes
    generalize (job.run cfg s input).store = t at writes ⊢
    cases writes with
    | same | drop => exact ⟨rfl, rfl, rfl⟩
    | commit _ done => exact beside (.commit done)
    | queue _ done => exact beside (.queue done)
    | create done => exact beside (.reanalyse done)
  | clean job =>
    show s.SamePins (job.run cfg s input).store
    have writes := (job.run_does cfg s input).writes
    generalize (job.run cfg s input).store = t at writes ⊢
    cases writes with
    | _ => exact ⟨rfl, rfl, rfl⟩
  | symbol job => exact (job.run_keeps s input).2.2

end ArtifactJob

/-! ## The system -/

namespace ArtifactWorld

variable {cfg : NotifyConfig} {w next : ArtifactWorld} {action : ArtifactAction} {tid : String}

/-- The kind of the round whose step an action is. -/
def roundKind (w : ArtifactWorld) : ArtifactAction → Option RoundKind
  | .advance index _ => (w.jobs[index]?.bind ArtifactJob.round).map Round.kind
  | _ => none

/-- No job is created with an input that a round is still to claim, and has not read as an input of
a job in flight. -/
def CreatesUnexposed (cfg : NotifyConfig) (w : ArtifactWorld) : ArtifactAction → Prop
  | .advance index _ => ∀ job ∈ w.jobs[index]?, ∀ id ∈ job.lists cfg w.store, ∀ other ∈ w.jobs,
      id ∉ other.exposed
  | _ => True

instance (cfg : NotifyConfig) (w : ArtifactWorld) (action : ArtifactAction) :
    Decidable (w.CreatesUnexposed cfg action) := by
  induction action using ArtifactAction.casesOn <;> dsimp only [CreatesUnexposed] <;> infer_instance

/-- No row that a round is still to claim is an input of a job in flight. -/
def Shielded (w : ArtifactWorld) : Prop :=
  ∀ job, .clean job ∈ w.jobs → ∀ id ∈ job.exposed, id ∉ w.store.activeAnalysisJobInputIDs

theorem Shielded.step (shielded : w.Shielded) (creates : w.CreatesUnexposed cfg action)
    (taken : w.step cfg action = some next) : next.Shielded := by
  intro job mem id exposed active
  rcases step_cases taken with ⟨out, entered, rfl⟩ | ⟨index, input, step, rfl, found, store, -,
    others⟩ | ⟨index, rfl, rfl⟩
  · have before : id ∈ w.store.activeAnalysisJobInputIDs := by
      rcases (ArtifactAction.enter_does entered).writes.jobs with ⟨jobs, -⟩ | ⟨job, status, set⟩
      · rw [← active_same jobs]
        exact active
      · apply active_status job status
        rw [← set]
        exact active
    rcases mem_append.mp mem with old | new
    · exact shielded job old id exposed before
    · cases (ArtifactAction.enter_does entered).next _ new with
      | expired | blobs => exact absurd exposed not_mem_nil
      | deleting | deleted =>
        rw [CleanJob.exposed_of_round rfl] at exposed
        obtain ⟨kind, -⟩ := CleanJob.mem_exposed.mp exposed
        cases kind
  · rw [store] at active
    rcases others _ mem with new | beside
    · obtain ⟨step, rfl, listed⟩ := ArtifactJob.next_of_mem new
      have still : id ∈ w.store.activeAnalysisJobInputIDs := by
        rw [← active_same (step.run_does cfg w.store input).writes.jobs.1]
        exact active
      rcases (CleanJob.run_next listed).exposed exposed with before | inactive
      · exact shielded step (mem_of_getElem? found) id before still
      · exact inactive still
    · have there := mem_of_mem_eraseIdx beside
      rcases step.run_jobs cfg w.store input with ⟨jobs, -⟩ | ⟨queued, new, rfl, jobs, -, made⟩
      · rw [active_same jobs] at active
        exact shielded job there id exposed active
      · rcases active_add jobs active with old | input
        · exact shielded job there id exposed old
        · rw [made.lists] at input
          exact creates _ found id input (.clean job) there exposed
  · exact shielded job (mem_of_mem_eraseIdx mem) id exposed active

/-- What is known of the rounds. -/
structure Rounds (w : ArtifactWorld) : Prop where
  ids : w.store.ArtifactIDs
  read : ∀ job, .clean job ∈ w.jobs → job.Read w.store

/-- The jobs of a request that comes in have read rows of the table. -/
theorem enter_read {out : ArtifactOutcome} (entered : action.enter cfg w.store = some out) :
    ∀ job, .clean job ∈ out.next → job.Read w.store := by
  intro job mem
  have known {row : Artifact} (stored : row ∈ w.store.artifacts) :
      row.ident ∈ w.store.artifacts.map Artifact.ident := mem_map_of_mem stored
  cases (ArtifactAction.enter_does entered).next _ mem with
  | expired =>
    refine ⟨fun row waits => ?_, fun round part => by cases part⟩
    have listed := (mem_orderBy _).mp (mem_of_mem_take waits)
    exact known (mem_filter.mp listed).1
  | deleting now limit =>
    have listed {row : Artifact} (waits : row ∈ w.store.deletingCandidates now limit) :=
      mem_filter.mp ((mem_orderBy _).mp (mem_of_mem_take waits))
    refine ⟨fun row waits => known (listed waits).1, fun round part kind row waits => ?_⟩
    cases part
    have claimed := (listed waits).2
    simp only [Bool.and_eq_true, decide_eq_true_eq] at claimed
    exact claimed.1.2
  | blobs =>
    refine ⟨forall_mem_nil _, fun round part => by cases part⟩
  | deleted =>
    refine ⟨fun row waits => known (mem_filter.mp waits).1, fun round part kind => ?_⟩
    cases part
    cases kind

theorem Rounds.step (rounds : w.Rounds) (taken : w.step cfg action = some next) : next.Rounds := by
  have grows := step_grows taken
  refine ⟨grows.ids rounds.ids, fun job mem => ?_⟩
  rcases step_cases taken with ⟨out, entered, rfl⟩ | ⟨index, input, step, rfl, found, store, -,
    others⟩ | ⟨index, rfl, rfl⟩
  · rcases mem_append.mp mem with old | new
    · exact (rounds.read job old).persists grows
    · exact (enter_read entered job new).persists grows
  · rcases others _ mem with new | beside
    · obtain ⟨step, rfl, listed⟩ := ArtifactJob.next_of_mem new
      have read := rounds.read step (mem_of_getElem? found)
      exact (read.follows (CleanJob.run_next listed)).persists grows
    · exact (rounds.read job (mem_of_mem_eraseIdx beside)).persists grows
  · exact rounds.read job (mem_of_mem_eraseIdx mem)

theorem pinned_step (pinned : w.store.Pinned tid) (keeps : action ≠ .pin tid false)
    (taken : w.step cfg action = some next) : next.store.Pinned tid := by
  rcases step_cases taken with ⟨out, entered, rfl⟩ | ⟨index, input, step, rfl, -, store, -⟩ |
    ⟨index, rfl, rfl⟩
  · show out.store.Pinned tid
    have writes := (ArtifactAction.enter_does entered).writes
    generalize out.store = t at writes
    cases writes with
    | same | put | analysis | expiry => exact pinned
    | tasks tasks kept =>
      refine ⟨pinned.1, pinned.2.imp (fun alive => ?_) id⟩
      obtain ⟨task, listed, rfl⟩ := mem_map.mp alive
      obtain ⟨other, listed', equal⟩ := any_eq_true.mp (all_eq_true.mp kept task listed)
      exact mem_map.mpr ⟨other, listed', by simpa using equal⟩
    | @pin other pins _ done =>
      unfold pinTaskArtifacts at done
      split at done
      · cases done
      · cases done
        refine ⟨?_, pinned.2⟩
        by_cases here : tid = other
        · cases pins with
          | true =>
            rw [here]
            exact mem_cons_self
          | false => exact absurd (by rw [here]) keeps
        · have left : tid ∈ w.store.pinned.filter (· ≠ other) :=
            mem_filter.mpr ⟨pinned.1, by simpa using here⟩
          split
          · exact mem_cons_of_mem _ left
          · exact left
    | @delete other task found =>
      refine ⟨pinned.1, ?_⟩
      show tid ∈ (w.store.tasks.filter _).map _ ∨ tid ∈ (w.store.deletedTasks ++ [task]).map _
      rw [map_append]
      rcases pinned.2 with alive | deleted
      · by_cases here : tid = task.tid
        · rw [here]
          exact .inr (mem_append_right _ (mem_singleton_self _))
        · obtain ⟨row, listed, rfl⟩ := mem_map.mp alive
          exact .inl (mem_map_of_mem (mem_filter.mpr ⟨listed, by simpa using here⟩))
      · exact .inr (mem_append_left _ deleted)
  · rw [store]
    exact pinned.same (step.run_pins cfg w.store input)
  · exact pinned

theorem pinned_of_pin (taken : w.step cfg (.pin tid true) = some next) : next.store.Pinned tid := by
  obtain ⟨out, entered, rfl⟩ := Option.map_eq_some_iff.mp taken
  obtain ⟨store, done, rfl⟩ := Option.map_eq_some_iff.mp entered
  unfold pinTaskArtifacts at done
  split at done
  · cases done
  · next granted =>
    cases done
    refine ⟨mem_cons_self, .inl ?_⟩
    rw [not_or, Option.isNone_iff_eq_none] at granted
    obtain ⟨task, found⟩ := Option.ne_none_iff_exists'.mp granted.1
    exact mem_map.mpr ⟨task, mem_of_find?_eq_some found, by simpa using find?_some found⟩

theorem job_of_roundKind {kind : RoundKind} (step_of : w.roundKind action = some kind)
    (taken : w.step cfg action = some next) :
    ∃ job round, .clean job ∈ w.jobs ∧ job.round = some round ∧ round.kind = kind ∧
      job.Writes w.store next.store := by
  cases action with
  | advance index input =>
    obtain ⟨job, found, store, -, -⟩ := Pool.advance_beside taken
    obtain ⟨round, part, rfl⟩ := Option.map_eq_some_iff.mp step_of
    rw [found] at part
    cases job with
    | clean job =>
      refine ⟨job, round, mem_of_getElem? found, part, rfl, ?_⟩
      rw [store]
      exact (job.run_does cfg w.store input).writes
    | queue | symbol => cases part
  | _ => cases step_of

/-- **What the cleaner leaves alone**: in every run in which no job is created with an input that a
round is still to claim, no step of an expired round moves to deleting a row that is an input of a
job in flight. In every run, once a pin of a task was granted and until it is taken back, no step of
an expired round, or of a retry of one, touches a row of the task that is ready. -/
theorem inputs_and_pins_left_alone (cfg : NotifyConfig) (s : ArtifactStore) (keyed : s.ArtifactIDs)
    (actions : List ArtifactAction) (action : ArtifactAction) (w next : ArtifactWorld)
    (reached : run (step cfg) { store := s } actions = some w)
    (taken : w.step cfg action = some next) :
    (Along (step cfg) (CreatesUnexposed cfg) { store := s } actions →
        w.roundKind action = some .expired →
        ∀ row ∈ w.store.artifacts, ∀ after ∈ next.store.artifacts, after.id = row.id →
          row.status ≠ .deleting → after.status = .deleting →
          row.id ∉ w.store.activeAnalysisJobInputIDs) ∧
      ∀ before later tid, actions = before ++ .pin tid true :: later → .pin tid false ∉ later →
        tid ≠ "" → w.roundKind action = some .expired ∨ w.roundKind action = some .retry →
        ∀ row ∈ w.store.artifacts, row.taskTID = tid → row.status = .ready →
          row ∈ next.store.artifacts := by
  have start : Rounds { store := s } := ⟨keyed, fun _ mem => absurd mem not_mem_nil⟩
  have rounds : w.Rounds := run_invariant (fun _ _ _ rounds taken => rounds.step taken)
    start reached
  constructor
  · intro along expired row stored after stored' same ready claimed
    have none : Shielded { store := s } := fun _ mem => absurd mem not_mem_nil
    have shielded : w.Shielded :=
      run_invariant_along (fun _ _ _ shielded creates taken => shielded.step creates taken)
        none along reached
    obtain ⟨job, round, there, part, kind, writes⟩ := job_of_roundKind expired taken
    have exposed := writes.claims_exposed rounds.ids part kind stored stored' same ready claimed
    exact shielded job there row.id exposed
  · intro before later tid split keeps named kinds row stored task ready
    rw [split] at reached
    obtain ⟨w₁, -, rest⟩ := run_append.mp reached
    obtain ⟨w₂, pins, rest⟩ := run_cons.mp rest
    have each : ∀ action ∈ later, action ≠ .pin tid false := by
      intro action mem same
      rw [same] at mem
      exact keeps mem
    have along : Along (step cfg) (fun _ action => action ≠ .pin tid false) w₂ later :=
      along_of_mem each w₂
    have hold : ∀ (w : ArtifactWorld) action next, w.store.Pinned tid → action ≠ .pin tid false →
        w.step cfg action = some next → next.store.Pinned tid :=
      fun _ _ _ pinned keeps taken => pinned_step pinned keeps taken
    have pinned : w.store.Pinned tid := run_invariant_along hold (pinned_of_pin pins) along rest
    obtain ⟨kind, step_of, allowed⟩ :
        ∃ kind, w.roundKind action = some kind ∧ (kind = .expired ∨ kind = .retry) := by
      rcases kinds with expired | retry
      · exact ⟨_, expired, .inl rfl⟩
      · exact ⟨_, retry, .inr rfl⟩
    obtain ⟨job, round, there, part, rfl, writes⟩ := job_of_roundKind step_of taken
    subst task
    exact writes.leaves_pinned rounds.ids (rounds.read job there) part allowed pinned named
      stored ready

/-- A task with an object that was analysed and has expired, and a round that has read it. -/
def expiredRound : List ArtifactAction :=
  report perfData ++
    [.analysis 1 .success, .tasks { uploadingStore true false with
        tasks := [{ uploadingTask with status := .done }] },
      .expiry 1 (some 20) none, .clean 30 10] ++ steps 0 2

/-- The status of the rows, and the inputs of the jobs in flight. -/
def watched (w : ArtifactWorld) : List ArtifactStatus × List Nat :=
  (w.store.artifacts.map (·.status), w.store.activeAnalysisJobInputIDs)

/-- The task is pinned before the round comes to the row, which stays ready. -/
theorem pinned_row_left_alone :
    (run (step {}) { store := uploadingTables }
        (expiredRound ++ [.pin "t" true, .advance 0 {}])).map watched = some ([.ready], []) ∧
      ∀ w next, run (step {}) { store := uploadingTables }
          (expiredRound ++ [.pin "t" true]) = some w → w.step {} (.advance 0 {}) = some next →
        w.roundKind (.advance 0 {}) = some .expired →
        (∀ row ∈ w.store.artifacts, ∀ after ∈ next.store.artifacts, after.id = row.id →
          row.status ≠ .deleting → after.status = .deleting →
          row.id ∉ w.store.activeAnalysisJobInputIDs) ∧
        ∀ row ∈ w.store.artifacts, row.taskTID = "t" → row.status = .ready →
          row ∈ next.store.artifacts := by
  refine ⟨by decide, fun w next reached taken expired => ?_⟩
  have keyed : uploadingTables.ArtifactIDs :=
    ⟨nodup_nil, forall_mem_nil _⟩
  have along : Along (step {}) (CreatesUnexposed {})
      { store := uploadingTables }
      (expiredRound ++ [.pin "t" true]) :=
    along_of_decide (by decide)
  obtain ⟨inputs, pins⟩ := inputs_and_pins_left_alone {} _ keyed _
    (.advance 0 {}) w next reached taken
  exact ⟨inputs along expired, pins expiredRound [] "t" rfl not_mem_nil (by decide) (.inl expired)⟩

/-- A user asks for another analysis after the round has read the inputs of the jobs in flight, and
the round claims the input of the job that is pending. -/
theorem input_of_pending_job_claimed :
    (run (step {}) { store := uploadingTables }
        (expiredRound ++ .reanalyze "t" 0 "u" :: steps 1 6)).map
      (fun w => (w.watched, w.roundKind (.advance 0 {}))) = some (([.ready], [1]), some .expired) ∧
    (run (step {}) { store := uploadingTables }
        (expiredRound ++ .reanalyze "t" 0 "u" :: steps 1 6 ++ [.advance 0 {}])).map watched =
      some ([.deleting], [1]) := by
  constructor
  · decide +kernel
  · decide +kernel

end ArtifactWorld

end MiniDrop
