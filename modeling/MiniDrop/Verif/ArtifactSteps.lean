import MiniDrop.Verif.AnalysisInputs
import MiniDrop.Verif.CleanerSteps
import MiniDrop.Verif.NotifyNamespace
/-!
# What a step does

Each step of the queue of analyses, of a request for symbols and of a request that comes in, by what
it writes and by what follows it. Every invariant of the whole system goes over these cases.
-/
namespace MiniDrop

open ArtifactStore List

variable {input : WorkInput}

/-! ## Steps -/

/-- What a step of the queue writes. -/
inductive QueueJob.Writes (cfg : NotifyConfig) (s : ArtifactStore) : QueueJob → ArtifactStore → Prop
  | same (job) : Writes cfg s job s
  | commit {req task plan now t} (alone : overtaken s task.tid req.cosKey plan = false)
      (done : s.commitNotification cfg req task plan now = some t) :
      Writes cfg s (.planned req task plan) t
  | drop (req key keys) : Writes cfg s (.late req (key :: keys)) (s.deleteObject key)
  | queue {tid key size now plan t} (alone : overtaken s tid key plan = false)
      (done : s.queueAnalysis cfg.generations tid 0 key size plan now = some t) :
      Writes cfg s (.foundPlanned tid key size plan) t
  | create {request rawIDs now t}
      (done : s.commitReanalysis request rawIDs now = some t) :
      Writes cfg s (.creating request rawIDs) t

/-- What follows a step of the queue. -/
inductive QueueJob.Follows (s : ArtifactStore) : QueueJob → QueueJob → Prop
  | late (req task keys) : Follows s (.notified req task) (.late req keys)
  | pass (req task) (clear : s.tombstoned task.tid (testedKeys req) = false) :
      Follows s (.notified req task) (.tested req task)
  | plan (req task) : Follows s (.tested req task)
        (.planned req task (s.planAnalysis task.tid req.attemptID req.cosKey))
  | replan (req task plan) : Follows s (.planned req task plan) (.tested req task)
  | commit (req task plan) : Follows s (.planned req task plan) (.answering req)
  | drop (req key keys) : Follows s (.late req (key :: keys)) (.late req keys)
  | look (tid key size) :
      Follows s (.found tid key size) (.foundPlanned tid key size (s.planAnalysis tid 0 key))
  | relook (tid key size plan) : Follows s (.foundPlanned tid key size plan) (.found tid key size)
  | idle (request) : Follows s (.reanalysis request) (.choosing request)
  | choose (request attemptID) : Follows s (.choosing request) (.owning { request with attemptID })
  | own (request) : Follows s (.owning request) (.listing request)
  | list (request) : Follows s (.listing request)
        (.matching request (s.readyRawIDsForAttempt request.tid request.attemptID))
  | fit (request rawIDs) : Follows s (.matching request rawIDs) (.creating request rawIDs)

variable {cfg : NotifyConfig} {s : ArtifactStore} {action : ArtifactAction} {out : ArtifactOutcome}
  {w next : ArtifactWorld}

/-- What a step of the queue does: what it writes, and what follows it. Only a notification that was
committed is answered with success. -/
structure QueueJob.Does (cfg : NotifyConfig) (s : ArtifactStore) (job : QueueJob)
    (out : QueueOutcome) : Prop where
  writes : job.Writes cfg s out.store
  next : ∀ later ∈ out.next, job.Follows s later
  answers : ∀ answer ∈ out.events, answer.code = 0 → job = .answering answer.req

theorem QueueJob.run_does (cfg : NotifyConfig) (s : ArtifactStore) (job : QueueJob)
    (input : WorkInput) : job.Does cfg s (job.run cfg s input) := by
  have ends {t : ArtifactStore} (writes : job.Writes cfg s t) : job.Does cfg s { store := t } :=
    ⟨writes, forall_mem_nil _, forall_mem_nil _⟩
  have tells {answer : NotifyAnswered} (answers : answer.code = 0 → job = .answering answer.req) :
      job.Does cfg s { store := s, events := [answer] } :=
    ⟨.same _, forall_mem_nil _, forall_mem_singleton.mpr answers⟩
  have goes {t : ArtifactStore} {later : QueueJob} (writes : job.Writes cfg s t)
      (follows : job.Follows s later) : job.Does cfg s { store := t, next := [later] } :=
    ⟨writes, forall_mem_singleton.mpr follows, forall_mem_nil _⟩
  cases job with
  | notified req task =>
    dsimp only [run]
    split
    · exact goes (.same _) (.late req task _)
    · next clear => exact goes (.same _) (.pass req task (Bool.eq_false_of_not_eq_true clear))
  | tested req task => exact goes (.same _) (.plan req task)
  | planned req task plan =>
    dsimp only [run]
    split
    · exact tells nofun
    · split
      · exact goes (.same _) (.replan req task plan)
      · next alone =>
        split
        · exact tells nofun
        · next done =>
            exact goes (.commit (Bool.eq_false_of_not_eq_true alone) done) (.commit req task plan)
  | answering => exact tells fun _ => rfl
  | late req keys =>
    cases keys with
    | nil => exact tells nofun
    | cons key keys =>
      dsimp only [run]
      split
      · exact goes (.same _) (.drop req key keys)
      · exact goes (.drop req key keys) (.drop req key keys)
  | found tid key size =>
    dsimp only [run]
    split
    · exact ends (.same _)
    · exact goes (.same _) (.look tid key size)
  | foundPlanned tid key size plan =>
    dsimp only [run]
    split
    · exact ends (.same _)
    · split
      · exact goes (.same _) (.relook tid key size plan)
      · next alone =>
        cases queued : s.queueAnalysis cfg.generations tid 0 key size plan input.now with
        | none => exact ends (.same _)
        | some => exact ends (.queue (Bool.eq_false_of_not_eq_true alone) queued)
  | reanalysis request =>
    dsimp only [run]
    split
    · exact ends (.same _)
    · exact goes (.same _) (.idle request)
  | choosing request =>
    dsimp only [run]
    generalize (if request.attemptID = 0 then s.latestAttemptWithReadyRaw request.tid
      else request.attemptID) = attemptID
    split
    · exact ends (.same _)
    · exact goes (.same _) (.choose request attemptID)
  | owning request =>
    dsimp only [run]
    split
    · exact goes (.same _) (.own request)
    · exact ends (.same _)
  | listing request =>
    dsimp only [run]
    split
    · exact ends (.same _)
    · exact goes (.same _) (.list request)
  | matching request rawIDs =>
    dsimp only [run]
    split
    · exact goes (.same _) (.fit request rawIDs)
    · exact ends (.same _)
  | creating request rawIDs =>
    dsimp only [run]
    split
    · exact ends (.same _)
    · cases created : s.commitReanalysis request rawIDs input.now with
      | none => exact ends (.same _)
      | some => exact ends (.create created)

theorem QueueJob.run_next {job later : QueueJob}
    (mem : later ∈ (job.run cfg s input).next) : job.Follows s later :=
  (job.run_does cfg s input).next later mem

theorem QueueJob.Writes.grows {job : QueueJob} {t : ArtifactStore} (writes : job.Writes cfg s t) :
    ArtifactStore.Grows none s t := by
  cases writes with
  | same => exact .refl s
  | commit _ done => exact (Extends.commit done).grows
  | drop => exact .of_eq rfl rfl
  | queue _ done => exact (Extends.queue done).grows
  | create done => exact (Extends.reanalyse done).grows

/-- The registration of symbols leaves the jobs, the tasks and the pins as they are. -/
theorem SymbolJob.run_keeps (s : ArtifactStore) (job : SymbolJob) (input : WorkInput) :
    ArtifactStore.Grows none s (job.run s input).store ∧
      ((job.run s input).store.analysisJobs = s.analysisJobs ∧
        (job.run s input).store.nextJobID = s.nextJobID) ∧
      (job.run s input).store.tasks.map (·.tid) = s.tasks.map (·.tid) ∧
        (job.run s input).store.deletedTasks = s.deletedTasks ∧
        (job.run s input).store.pinned = s.pinned := by
  cases job with
  | touching | upserting | inserting => exact ⟨.of_eq rfl rfl, ⟨rfl, rfl⟩, rfl, rfl, rfl⟩
  | probing | probingLegacy =>
    dsimp only [run]
    split <;> exact ⟨.refl s, ⟨rfl, rfl⟩, rfl, rfl, rfl⟩
  | recording =>
    dsimp only [run]
    split
    · next done =>
      have extended := Extends.record done
      refine ⟨extended.grows, ?_, extended.beside.rows.tids, extended.beside.deletedTasks,
        extended.beside.pinned⟩
      obtain rfl | ⟨row, -, rfl⟩ | ⟨test, change, -, rfl⟩ := Extends.record_cases done
      · exact ⟨rfl, rfl⟩
      · exact insertArtifact_jobs s row
      · exact ⟨rfl, rfl⟩
    · exact ⟨.refl s, ⟨rfl, rfl⟩, rfl, rfl, rfl⟩

/-! ## Analysis jobs -/

/-- An initial job as a transaction with a plan creates it. -/
structure AnalysisJob.InitialFor (generations : Bool) (s : ArtifactStore) (tid : String)
    (plan : QueuePlan) (job : AnalysisJob) : Prop where
  id : job.id = s.nextJobID
  task : job.taskTID = tid
  attempt : job.attemptID = plan.attemptID
  pipeline : job.pipeline = plan.pipeline
  trigger : job.trigger = .initial
  status : job.status = .pending
  generation : job.generation = if generations then s.maxGeneration tid + 1 else 1
  inputs : job.inputArtifactIDs = plan.inputs.getD [s.nextArtifactID]
  first : s.hasInitialJob generations tid plan.pipeline plan.attemptID = false
  unique : ∀ other ∈ s.analysisJobs, other.taskTID = tid → other.generation ≠ job.generation

/-- A job of another analysis as its transaction creates it. -/
structure AnalysisJob.ManualFor (s : ArtifactStore) (request : Reanalysis) (rawIDs : List Nat)
    (job : AnalysisJob) : Prop where
  id : job.id = s.nextJobID
  task : job.taskTID = request.tid
  trigger : job.trigger = .manual
  status : job.status = .pending
  generation : job.generation = s.maxGeneration request.tid + 1
  inputs : job.inputArtifactIDs = rawIDs
  alone : s.analysisInFlight request.tid = false

/-- The job that a step of the queue creates. -/
def QueueJob.Creates (cfg : NotifyConfig) (s : ArtifactStore) (new : AnalysisJob) : QueueJob → Prop
  | .planned req task plan => overtaken s task.tid req.cosKey plan = false ∧
      new.InitialFor cfg.generations s task.tid plan
  | .foundPlanned tid key _ plan => overtaken s tid key plan = false ∧
      new.InitialFor cfg.generations s tid plan
  | .creating request rawIDs => new.ManualFor s request rawIDs
  | _ => False

namespace ArtifactStore

variable {s t : ArtifactStore} {now : Int} {plan : QueuePlan}

theorem insertJob_unique {job : AnalysisJob} (inserted : s.insertJob job = some t) :
    ∀ other ∈ s.analysisJobs, other.taskTID = job.taskTID → other.generation ≠ job.generation := by
  unfold insertJob at inserted
  split at inserted
  · cases inserted
  · next free =>
    intro other mem task same
    exact free (any_eq_true.mpr ⟨other, mem, decide_eq_true ⟨task, same⟩⟩)

theorem queueAnalysis_creates {generations : Bool} {tid : String} {attemptID : Nat} {key : String}
    {size : Int} (alone : QueueJob.overtaken s tid key plan = false)
    (queued : s.queueAnalysis generations tid attemptID key size plan now = some t) :
    (t.analysisJobs = s.analysisJobs ∧ t.nextJobID = s.nextJobID) ∨
      ∃ new : AnalysisJob, t.analysisJobs = s.analysisJobs ++ [new] ∧
        t.nextJobID = s.nextJobID + 1 ∧ new.InitialFor generations s tid plan := by
  obtain ⟨jobs, number⟩ := insertArtifact_jobs s (rawRow tid attemptID key size now)
  rcases queueAnalysis_cases queued with ⟨-, rfl⟩ | ⟨fresh, inserted⟩
  · exact .inl ⟨jobs, number⟩
  · have unique := insertJob_unique inserted
    have highest : (s.insertArtifact (rawRow tid attemptID key size now)).maxGeneration tid =
        s.maxGeneration tid := by
      unfold maxGeneration
      rw [jobs]
    rw [jobs] at unique
    rw [insertJob_some inserted]
    refine .inr ⟨_, by rw [jobs], by rw [number], ?_⟩
    refine ⟨number, rfl, rfl, rfl, rfl, rfl, congrArg (if generations then · + 1 else 1) highest,
      ?_, fresh, unique⟩
    -- Without a row at the time of the plan, the row is the one that is inserted.
    dsimp only [newJob]
    cases planned : plan.inputs with
    | some => rfl
    | none =>
      have absent : s.findArtifact tid .raw (trimSpace key) = none := by
        unfold QueueJob.overtaken at alone
        rw [planned] at alone
        exact Option.not_isSome_iff_eq_none.mp (by simpa using alone)
      have found := findLive_insertRaw s tid attemptID key size now
      rw [absent] at found
      obtain ⟨row, finds, pair⟩ := Option.map_eq_some_iff.mp found
      have id : row.id = s.nextArtifactID := congrArg Prod.fst pair
      rw [finds, Option.getD_none, Option.map_some, id]
      rfl

theorem commitNotification_creates {cfg : NotifyConfig} {req : NotifyReq} {task : HotmethodTask}
    (alone : QueueJob.overtaken s task.tid req.cosKey plan = false)
    (done : s.commitNotification cfg req task plan now = some t) :
    (t.analysisJobs = s.analysisJobs ∧ t.nextJobID = s.nextJobID) ∨
      ∃ new : AnalysisJob, t.analysisJobs = s.analysisJobs ++ [new] ∧
        t.nextJobID = s.nextJobID + 1 ∧ new.InitialFor cfg.generations s task.tid plan := by
  obtain ⟨listed, listing, rfl⟩ := Option.map_eq_some_iff.mp done
  obtain ⟨queued, queueing, rfl⟩ := Option.map_eq_some_iff.mp listing
  have manifest : (queued.ensureManifestArtifact task.tid req.attemptID req.manifestKey
      now).analysisJobs = queued.analysisJobs ∧
      (queued.ensureManifestArtifact task.tid req.attemptID req.manifestKey now).nextJobID =
        queued.nextJobID := by
    unfold ensureManifestArtifact
    split
    · exact ⟨rfl, rfl⟩
    · exact insertArtifact_jobs queued _
  obtain ⟨jobs, number⟩ := registerUpload_jobs
    (queued.ensureManifestArtifact task.tid req.attemptID req.manifestKey now) req task.tid now
  rw [jobs, number, manifest.1, manifest.2]
  rcases queueAnalysis_creates (s := s.advanceTask task now) alone queueing with same | ⟨new,
    created⟩
  · exact .inl same
  · obtain ⟨jobs, number, initial⟩ := created
    -- The status of the task is all that differs.
    exact .inr ⟨new, jobs, number, initial.id, initial.task, initial.attempt, initial.pipeline,
      initial.trigger, initial.status, initial.generation, initial.inputs, initial.first,
      initial.unique⟩

end ArtifactStore

theorem QueueJob.Writes.jobs {job : QueueJob} {t : ArtifactStore} (writes : job.Writes cfg s t) :
    (t.analysisJobs = s.analysisJobs ∧ t.nextJobID = s.nextJobID) ∨
      ∃ new, t.analysisJobs = s.analysisJobs ++ [new] ∧ t.nextJobID = s.nextJobID + 1 ∧
        job.Creates cfg s new := by
  cases writes with
  | same | drop => exact .inl ⟨rfl, rfl⟩
  | commit alone done =>
    refine (commitNotification_creates alone done).imp id fun created => ?_
    obtain ⟨new, jobs, number, initial⟩ := created
    exact ⟨new, jobs, number, alone, initial⟩
  | queue alone done =>
    refine (queueAnalysis_creates alone done).imp id fun created => ?_
    obtain ⟨new, jobs, number, initial⟩ := created
    exact ⟨new, jobs, number, alone, initial⟩
  | create done =>
    unfold commitReanalysis at done
    split at done
    · cases done
    · next free =>
      obtain ⟨made, inserted, rfl⟩ := Option.map_eq_some_iff.mp done
      rw [insertJob_some inserted]
      refine .inr ⟨_, rfl, rfl, rfl, rfl, rfl, rfl, rfl, rfl, ?_⟩
      exact Bool.eq_false_of_not_eq_true fun busy => free (.inr busy)

/-! ## The whole system -/

/-- The row that a step of a job buries. -/
def ArtifactJob.buries : ArtifactJob → Option Nat
  | .clean job => job.buries
  | _ => none

theorem ArtifactJob.run_grows (cfg : NotifyConfig) (s : ArtifactStore) (job : ArtifactJob)
    (input : WorkInput) : ArtifactStore.Grows job.buries s (job.run cfg s input).store := by
  cases job with
  | queue job | clean job => exact (job.run_does cfg s input).writes.grows
  | symbol job => exact (job.run_keeps s input).1

/-- The row that an action buries. -/
def ArtifactWorld.buries (w : ArtifactWorld) : ArtifactAction → Option Nat
  | .advance index _ => w.jobs[index]?.bind ArtifactJob.buries
  | _ => none

namespace ArtifactStore

/-- The jobs with a status that is set: only the status differs, and no job is in flight again. -/
theorem setAnalysisStatus_jobs (s : ArtifactStore) (id : Nat) (status : AnalysisStatus) :
    ∃ change : AnalysisJob → AnalysisJob,
      (s.setAnalysisStatus id status).analysisJobs = s.analysisJobs.map change ∧
        ∀ job, (change job).taskTID = job.taskTID ∧ (change job).generation = job.generation ∧
          (change job).trigger = job.trigger ∧
          (change job).inputArtifactIDs = job.inputArtifactIDs ∧
          ((change job).status.inFlight = true → job.status.inFlight = true) := by
  refine ⟨_, rfl, fun job => ?_⟩
  split
  · next both => exact ⟨rfl, rfl, rfl, rfl, fun _ => both.2⟩
  · exact ⟨rfl, rfl, rfl, rfl, fun flies => flies⟩

end ArtifactStore

/-- What a request writes when it comes in. -/
inductive ArtifactAction.Writes (s : ArtifactStore) : ArtifactAction → ArtifactStore → Prop
  | same (action : ArtifactAction) : Writes s action s
  | tasks (next : TaskStore)
      (kept : (s.tasks.all fun row => next.tasks.any (·.tid = row.tid)) = true) :
      Writes s (.tasks next) { s with toTaskStore := next }
  /-- All uploads. -/
  | put (action key object) : Writes s action (s.putObject key object)
  | analysis (id status) : Writes s (.analysis id status) (s.setAnalysisStatus id status)
  | expiry (id expiresAt retentionNotBefore) :
      Writes s (.expiry id expiresAt retentionNotBefore)
      (s.setExpiry id expiresAt retentionNotBefore)
  | pin {tid pins t} (done : s.pinTaskArtifacts tid pins = some t) : Writes s (.pin tid pins) t
  | delete {tid task} (found : s.findTask tid = some task) :
      Writes s (.deleteTask tid) (s.softDelete task)

/-- The job that a request starts. -/
inductive ArtifactJob.Starts (cfg : NotifyConfig) (s : ArtifactStore) :
    ArtifactAction → ArtifactJob → Prop
  | notified {body req task}
      (admission : s.admitNotification cfg.layoutV2 body = .ok (task, req))
      (success : req.isError = false) :
      Starts cfg s (.notify body) (.queue (.notified req task))
  | found (files tid key size) : Starts cfg s (.poll tid files) (.queue (.found tid key size))
  | reanalysis (tid requestedBy attemptID request) :
      Starts cfg s (.reanalyze tid attemptID requestedBy) (.queue (.reanalysis request))
  | expired (now limit) :
      Starts cfg s (.clean now limit) (.clean (.candidates (s.expiredCandidates now limit)))
  | deleting (now limit) : Starts cfg s (.cleanDeleting now limit)
        (.clean (.claiming { kind := .retry, rest := s.deletingCandidates now limit }))
  | blobs (now limit) :
      Starts cfg s (.cleanBlobs now limit) (.clean (.retrying (s.deletingBlobs now limit)))
  | deleted {tid} (sweeps) (gone : s.taskDeleted tid = true) :
      Starts cfg s (.cleanDeleted tid sweeps)
        (.clean (.claiming { kind := .taskDeleted tid sweeps, rest := s.taskRows tid }))
  | touching (sent) {sum row} (tid targetIP) (known : s.findKernel sum = some row) :
      Starts cfg s (.checkKernel sent) (.symbol (.touching tid targetIP row))
  | probing (sent req) : Starts cfg s (.checkKernel sent) (.symbol (.probing req))
  | upserting (tid targetIP object packed now) :
      Starts cfg s (.uploadKernel tid targetIP object packed now)
        (.symbol (.upserting (trimSpace tid)
          { sha256 := object.sha256, objectKey := kernelSymbolObjectKey object.sha256
            targetIP := trimSpace targetIP, sizeBytes := packed, createdAt := now, lastUsedAt :=
            some now }))
  | inserting (buildID object now) : Starts cfg s (.uploadProgram buildID object now)
      (.symbol (.inserting
        { buildID, objectKey := "symbols/" ++ buildID, sha256 := object.sha256, createdAt := now }))

/-- What a request that comes in does: what it writes, and the job that it starts. It is answered
with success only if it reports an error. -/
structure ArtifactAction.Does (cfg : NotifyConfig) (s : ArtifactStore) (action : ArtifactAction)
    (out : ArtifactOutcome) : Prop where
  writes : action.Writes s out.store
  next : ∀ job ∈ out.next, ArtifactJob.Starts cfg s action job
  answers : ∀ answer, .notify answer ∈ out.events → answer.code = 0 → answer.req.isError = true

section

variable (entered : action.enter cfg s = some out)
include entered

theorem ArtifactAction.enter_does : action.Does cfg s out := by
  have ends {t : ArtifactStore} (writes : action.Writes s t) : action.Does cfg s { store := t } :=
    ⟨writes, forall_mem_nil _, nofun⟩
  have tells {answer : NotifyAnswered} (answers : answer.code = 0 → answer.req.isError = true) :
      action.Does cfg s { store := s, events := [.notify answer] } := by
    refine ⟨.same _, forall_mem_nil _, fun other listed => ?_⟩
    cases mem_singleton.mp listed
    exact answers
  have goes {t : ArtifactStore} {job : ArtifactJob} (writes : action.Writes s t)
      (starts : ArtifactJob.Starts cfg s action job) :
      action.Does cfg s { store := t, next := [job] } :=
    ⟨writes, forall_mem_singleton.mpr starts, nofun⟩
  cases action with
  | tasks tasks =>
    dsimp only [enter] at entered
    split at entered
    · next kept =>
      cases entered
      exact ends (.tasks tasks kept)
    · cases entered
  | upload key object =>
    cases entered
    exact ends (.put _ key object)
  | notify =>
    cases entered
    unfold receiveNotify
    split
    · next refused =>
      refine tells fun success => ?_
      have code := admitNotification_error refused
      dsimp only at success
      omega
    · next admission =>
      split
      · next failed => exact tells fun _ => failed
      · next success =>
          exact goes (.same _) (.notified admission (Bool.eq_false_of_not_eq_true success))
  | poll tid files =>
    cases entered
    unfold receivePoll
    split
    · exact ends (.same _)
    · exact goes (.same _) (.found files tid _ _)
  | reanalyze tid attemptID requestedBy =>
    cases entered
    unfold receiveReanalyze
    split
    · exact ends (.same _)
    · split
      · exact goes (.same _) (.reanalysis tid requestedBy attemptID _)
      · exact ends (.same _)
  | analysis id status =>
    cases entered
    exact ends (.analysis id status)
  | expiry id expiresAt retentionNotBefore =>
    cases entered
    exact ends (.expiry id expiresAt retentionNotBefore)
  | pin =>
    obtain ⟨store, done, rfl⟩ := Option.map_eq_some_iff.mp entered
    exact ends (.pin done)
  | deleteTask =>
    obtain ⟨task, found, rfl⟩ := Option.map_eq_some_iff.mp entered
    exact ends (.delete found)
  | clean now limit =>
    cases entered
    exact goes (.same _) (.expired now limit)
  | cleanDeleting now limit =>
    cases entered
    exact goes (.same _) (.deleting now limit)
  | cleanBlobs now limit =>
    cases entered
    exact goes (.same _) (.blobs now limit)
  | cleanDeleted tid sweeps =>
    dsimp only [enter] at entered
    split at entered
    · next gone =>
      cases entered
      exact goes (.same _) (.deleted sweeps gone)
    · cases entered
  | checkKernel sent =>
    cases entered
    dsimp only [SymbolJob.check]
    split
    · exact ends (.same _)
    · split
      · next known => exact goes (.same _) (.touching sent _ _ known)
      · exact goes (.same _) (.probing sent _)
  | uploadKernel tid targetIP object packed now =>
    cases entered
    dsimp only [SymbolJob.upload]
    split
    · exact ends (.same _)
    · exact goes (.put ..) (.upserting tid targetIP object packed now)
  | uploadProgram buildID object now =>
    cases entered
    dsimp only [SymbolJob.uploadProgram]
    split
    · exact ends (.same _)
    · exact goes (.put ..) (.inserting buildID object now)
  | advance | crash => cases entered

end

theorem pinTaskArtifacts_some {t : ArtifactStore} {tid : String} {pin : Bool}
    (done : s.pinTaskArtifacts tid pin = some t) : ∃ pinned, t = { s with pinned } := by
  unfold pinTaskArtifacts at done
  split at done
  · cases done
  · exact ⟨_, (Option.some.inj done).symm⟩

namespace ArtifactAction.Writes

variable {t : ArtifactStore} (writes : action.Writes s t)
include writes

theorem grows : ArtifactStore.Grows none s t := by
  cases writes with
  | same => exact .refl s
  | tasks | put | analysis | delete => exact .of_eq rfl rfl
  | expiry => exact .update s _ _ fun _ _ => ⟨rfl, .inl rfl⟩
  | pin done =>
    obtain ⟨_, rfl⟩ := pinTaskArtifacts_some done
    exact .of_eq rfl rfl

/-- A request that comes in leaves the jobs alone, unless a job gets a status. -/
theorem jobs : (t.analysisJobs = s.analysisJobs ∧ t.nextJobID = s.nextJobID) ∨
    ∃ id status, t = s.setAnalysisStatus id status := by
  cases writes with
  | analysis id status => exact .inr ⟨id, status, rfl⟩
  | pin done =>
    obtain ⟨_, rfl⟩ := pinTaskArtifacts_some done
    exact .inl ⟨rfl, rfl⟩
  | _ => exact .inl ⟨rfl, rfl⟩

end ArtifactAction.Writes

theorem ArtifactJob.run_jobs (cfg : NotifyConfig) (s : ArtifactStore) (job : ArtifactJob)
    (input : WorkInput) :
    ((job.run cfg s input).store.analysisJobs = s.analysisJobs ∧
        (job.run cfg s input).store.nextJobID = s.nextJobID) ∨
      ∃ step new, job = .queue step ∧
        (job.run cfg s input).store.analysisJobs = s.analysisJobs ++ [new] ∧
        (job.run cfg s input).store.nextJobID = s.nextJobID + 1 ∧ step.Creates cfg s new := by
  cases job with
  | queue step =>
    refine (step.run_does cfg s input).writes.jobs.imp id fun created => ?_
    obtain ⟨new, jobs, number, creates⟩ := created
    exact ⟨step, new, rfl, jobs, number, creates⟩
  | clean step => exact .inl (step.run_does cfg s input).writes.jobs
  | symbol step => exact .inl (step.run_keeps s input).2.1

/-- What is left to do in the queue, by the cleaner or about symbols is left by a job of the same
kind. -/
theorem ArtifactJob.next_of_mem {job later : ArtifactJob}
    (left : later ∈ (job.run cfg s input).next) : match later with
    | .queue later => ∃ step, job = .queue step ∧ later ∈ (step.run cfg s input).next
    | .clean later => ∃ step, job = .clean step ∧ later ∈ (step.run cfg s input).next
    | .symbol later => ∃ step, job = .symbol step ∧ later ∈ (step.run s input).next := by
  cases job with
  | queue step | clean step | symbol step =>
    obtain ⟨rest, listed, rfl⟩ := mem_map.mp left
    exact ⟨step, rfl, listed⟩

/-- **What a step of the system is**: a request comes in, a job takes its next step beside the
others, or a job is gone. -/
theorem ArtifactWorld.step_cases (taken : w.step cfg action = some next) :
    (∃ out, action.enter cfg w.store = some out ∧ next = w.enter out) ∨
      (∃ index input job, action = .advance index input ∧ w.jobs[index]? = some job ∧
        next.store = (job.run cfg w.store input).store ∧
        next.log = (job.run cfg w.store input).events ++ w.log ∧
        ∀ other ∈ next.jobs, other ∈ (job.run cfg w.store input).next ∨
        other ∈ w.jobs.eraseIdx index) ∨
      ∃ index, action = .crash index ∧ next = { w with jobs := w.jobs.eraseIdx index } := by
  cases action with
  | advance index input =>
    obtain ⟨job, found, store, log, jobs⟩ := Base.Pool.advance_beside taken
    exact .inr (.inl ⟨index, input, job, rfl, found, store, log, jobs⟩)
  | crash index =>
    cases taken
    exact .inr (.inr ⟨index, rfl, rfl⟩)
  | _ =>
    dsimp only [step] at taken
    obtain ⟨out, entered, same⟩ := Option.map_eq_some_iff.mp taken
    exact .inl ⟨out, entered, same.symm⟩

theorem ArtifactWorld.step_grows (taken : w.step cfg action = some next) :
    ArtifactStore.Grows (w.buries action) w.store next.store := by
  rcases step_cases taken with ⟨out, entered, rfl⟩ | ⟨index, input, job, rfl, found, store, -⟩ |
    ⟨index, rfl, rfl⟩
  · exact (ArtifactAction.enter_does entered).writes.grows.weaken
  · rw [store, show w.buries (.advance index input) = job.buries by simp [buries, found]]
    exact job.run_grows cfg w.store input
  · exact .refl _

namespace ArtifactWorld

/-- The steps of a job at a position. -/
def steps (index count : Nat) : List ArtifactAction := replicate count (.advance index {})

/-- An attempt reports its object. -/
def report (body : NotifyReq) : List ArtifactAction := .notify body :: steps 0 4

end ArtifactWorld

end MiniDrop
