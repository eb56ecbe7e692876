import MiniDrop.Verif.ArtifactGrowth
/-!
# The inputs of an analysis job and their attempt

A job is made for the attempt that was sent, or else for the latest one. Its input is the row of the
object, and that row gets the attempt that the notification ends: the one that was sent if it is one
of the task, or else the latest one that is not ended. The poller ends none, and its rows have none.
-/
namespace MiniDrop

open List Base

variable {task : HotmethodTask} {generations : Bool} {attemptID : Nat} {row : Artifact}

namespace ArtifactStore

variable {s t : ArtifactStore} {tid : String} {req : NotifyReq}

/-! ## The job that is queued -/

variable {key : String} {size now : Int} {cfg : NotifyConfig}

/-- Queueing adds the job, unless there is an initial one already. -/
theorem queueAnalysis_jobs {plan : QueuePlan}
    (queued : s.queueAnalysis generations tid attemptID key size plan now = some t) :
    (s.hasInitialJob generations tid plan.pipeline plan.attemptID = true ∧
        t.analysisJobs = s.analysisJobs) ∨
      s.hasInitialJob generations tid plan.pipeline plan.attemptID = false ∧
        t.analysisJobs = s.analysisJobs ++
          [(s.insertArtifact (rawRow tid attemptID key size now)).newJob generations tid key
            plan now] := by
  have jobs := (insertArtifact_jobs s (rawRow tid attemptID key size now)).1
  rcases queueAnalysis_cases queued with ⟨there, rfl⟩ | ⟨fresh, inserted⟩
  · exact .inl ⟨there, jobs⟩
  · rw [insertJob_some inserted]
    exact .inr ⟨fresh, congrArg (· ++ [_]) jobs⟩

/-! ## Rows under a key -/

/-- A row of the object is found after it was inserted, if it is not a tombstone. -/
theorem findLive_insertRaw (s : ArtifactStore) (tid : String) (attemptID : Nat) (key : String)
    (size now : Int) :
    ((s.insertArtifact (rawRow tid attemptID key size now)).findLive tid .raw (trimSpace key)).map
        (fun row => (row.id, row.attemptID)) =
      match s.findArtifact tid .raw (trimSpace key) with
      | none => some (s.nextArtifactID, attemptID)
      | some _ => (s.findLive tid .raw (trimSpace key)).map fun row => (row.id, row.attemptID) := by
  have own (row : Artifact) (same : row = rawRow tid attemptID key size now) :
      s.findArtifact row.taskTID row.kind row.objectKey = s.findArtifact tid .raw (trimSpace key) :=
      same ▸ rfl
  rw [insertArtifact, own _ rfl]
  cases found : s.findArtifact tid .raw (trimSpace key) with
  | none =>
    have before := findLive_of_absent found
    unfold findLive at before ⊢
    simp only [Option.isSome_none, Bool.false_eq_true, if_false, find?_append, before]
    simp [Artifact.named, rawRow, Artifact.live]
  | some row => simp

theorem registerUpload_jobs (s : ArtifactStore) (req : NotifyReq) (tid : String) (now : Int) :
    (s.registerUpload req tid now).analysisJobs = s.analysisJobs ∧
      (s.registerUpload req tid now).nextJobID = s.nextJobID := by
  unfold registerUpload finishAttempt
  cases s.findLive tid .raw req.cosKey with
  | none | some =>
    dsimp only
    split
    · exact ⟨rfl, rfl⟩
    · exact ⟨rfl, rfl⟩

/-! ## The invariant -/

/-- The inputs of every job are rows of its attempt. -/
def InputsOwned (s : ArtifactStore) : Prop :=
  ∀ job ∈ s.analysisJobs, ∀ row ∈ s.artifacts, row.id ∈ job.inputArtifactIDs →
    row.attemptID = job.attemptID
  deriving Decidable

/-- What holds between the transactions. -/
structure Attributed (s : ArtifactStore) : Prop where
  ids : s.ArtifactIDs
  listed : ∀ job ∈ s.analysisJobs, ∀ id ∈ job.inputArtifactIDs, id < s.nextArtifactID
  own : s.InputsOwned

/-- It is kept if the rows that were there keep their attempts and a new job has inputs of its
own. -/
theorem Attributed.after (good : s.Attributed) (ids : t.ArtifactIDs)
    (grows : s.nextArtifactID ≤ t.nextArtifactID)
    (kept : ∀ row ∈ t.artifacts, row.id < s.nextArtifactID →
      ∃ before ∈ s.artifacts, before.id = row.id ∧ before.attemptID = row.attemptID)
    (jobs : ∀ job ∈ t.analysisJobs, job ∈ s.analysisJobs ∨ ∀ id ∈ job.inputArtifactIDs,
      ∃ row ∈ t.artifacts, row.id = id ∧ row.attemptID = job.attemptID) : t.Attributed := by
  refine ⟨ids, fun job mem id input => ?_, fun job mem row stored input => ?_⟩
  · rcases jobs job mem with old | own
    · have below := good.listed job old id input
      omega
    · obtain ⟨row, stored, rfl, -⟩ := own id input
      exact ids.below row stored
  · rcases jobs job mem with old | own
    · obtain ⟨before, there, same, attempt⟩ := kept row stored (good.listed job old row.id input)
      rw [← attempt]
      apply good.own job old before there
      rw [same]
      exact input
    · obtain ⟨other, there, same, attempt⟩ := own row.id input
      rw [inj_on_of_nodup_map ids.distinct stored there same.symm]
      exact attempt

/-! ## A notification -/

/-- The attempt of the job that a notification queues. -/
def jobAttempt (s : ArtifactStore) (tid : String) (attemptID : Nat) : Nat :=
  if attemptID = 0 then s.resolveLatestTaskAttemptID tid else attemptID

/-- A success notification attributes its object to the attempt of its job: no blanks stand around
the key; the attempt that was sent is one of the task, or none was sent and the latest one is not
ended; and a row of the object that is there has that attempt already. -/
@[mk_iff]
structure NotifyAttributes (s : ArtifactStore) (req : NotifyReq) (tid : String) : Prop where
  plain : trimSpace req.cosKey = req.cosKey
  attempt : (req.attemptID ≠ 0 ∧ s.hasAttempt tid req.attemptID = true) ∨
    (req.attemptID = 0 ∧ s.latestOpenID tid = some (s.resolveLatestTaskAttemptID tid))
  there : ∀ row ∈ s.findArtifact tid .raw req.cosKey, row.attemptID = s.jobAttempt tid req.attemptID

instance (s : ArtifactStore) (req : NotifyReq) (tid : String) :
    Decidable (s.NotifyAttributes req tid) :=
  decidable_of_iff' _ (notifyAttributes_iff s req tid)

theorem NotifyAttributes.chosen (meets : s.NotifyAttributes req tid) :
    s.chosenID (req.ending tid) =
      some (s.jobAttempt tid req.attemptID) := by
  unfold TaskStore.chosenID jobAttempt
  rcases meets.attempt with named | ⟨zero, latest⟩
  · rw [if_pos named, if_neg named.1]
  · rw [if_neg (fun both => both.1 zero), if_pos zero, latest]

theorem findLive_of_untombed {keys : List String}
    (clear : s.tombstoned tid keys = false) (tested : key ∈ keys)
    (found : s.findArtifact tid .raw key = some row) :
    row.live = true ∧ s.findLive tid .raw key = some row := by
  have passes := find?_some found
  have mem := mem_of_find?_eq_some found
  simp only [Artifact.named, Bool.and_eq_true, decide_eq_true_eq] at passes
  have live : row.live = true := by
    have test := any_eq_false.mp clear row mem
    unfold Artifact.live
    cases deleted : row.deletedAt with
    | none => rfl
    | some =>
      exfalso
      apply test
      simp [passes, tested, deleted]
  refine ⟨live, ?_⟩
  obtain ⟨named, before, after, split, others⟩ := find?_eq_some_iff_append.mp found
  apply find?_eq_some_iff_append.mpr
  refine ⟨by rw [named, live]; rfl, before, after, split, fun other early => ?_⟩
  have fails := others other early
  rw [Bool.not_eq_true'] at fails ⊢
  rw [fails, Bool.false_and]

/-- The inputs of the job: the row of the object, if it is not a tombstone. -/
theorem newJob_inputs (s t : ArtifactStore) (generations : Bool) (tid : String) (attemptID : Nat)
    (key : String) (size now : Int) (rows : t.artifacts = s.artifacts)
    (number : t.nextArtifactID = s.nextArtifactID) :
    ((t.insertArtifact (rawRow tid attemptID key size now)).newJob generations tid key
        (s.planAnalysis tid attemptID key) now).inputArtifactIDs =
      match s.findArtifact tid .raw (trimSpace key) with
      | none => [s.nextArtifactID]
      | some row => if row.live then [row.id] else [] := by
  have same : t.findArtifact tid .raw (trimSpace key) =
      s.findArtifact tid .raw (trimSpace key) := by
    unfold findArtifact
    rw [rows]
  have inserted := findLive_insertRaw t tid attemptID key size now
  rw [same] at inserted
  unfold newJob planAnalysis
  cases found : s.findArtifact tid .raw (trimSpace key) with
  | none =>
    rw [found] at inserted
    obtain ⟨row, finds, pair⟩ := Option.map_eq_some_iff.mp inserted
    have id : row.id = t.nextArtifactID := congrArg Prod.fst pair
    rw [finds, Option.map_none, Option.getD_none, Option.map_some, id, number]
    rfl
  | some => rfl

section Notification

variable {cfg : NotifyConfig} {task : HotmethodTask} {now : Int} {plan : QueuePlan}

theorem listNotification_jobs (listing : s.listNotification cfg req task plan now = some t) :
    (s.hasInitialJob cfg.generations task.tid plan.pipeline plan.attemptID = true ∧
        t.analysisJobs = s.analysisJobs) ∨
      s.hasInitialJob cfg.generations task.tid plan.pipeline plan.attemptID = false ∧
        t.analysisJobs = s.analysisJobs ++ [((s.advanceTask task now).insertArtifact
            (rawRow task.tid req.attemptID req.cosKey req.artifactSize now)).newJob cfg.generations
              task.tid req.cosKey plan now] := by
  obtain ⟨queued, queueing, rfl⟩ := Option.map_eq_some_iff.mp listing
  have manifest : (queued.ensureManifestArtifact task.tid req.attemptID req.manifestKey
      now).analysisJobs = queued.analysisJobs := by
    unfold ensureManifestArtifact
    split
    · rfl
    · exact (insertArtifact_jobs queued _).1
  rw [manifest]
  exact queueAnalysis_jobs queueing

/-- A success notification that meets the condition keeps the inputs of all jobs with their
attempts. -/
theorem Attributed.commit (good : s.Attributed)
    (clear : s.tombstoned task.tid (testedKeys req) = false)
    (meets : s.NotifyAttributes req task.tid)
    (listing : s.listNotification cfg req task
      (s.planAnalysis task.tid req.attemptID req.cosKey) now = some t) :
    (t.registerUpload req task.tid now).Attributed := by
  have extended : Extends s (t.registerUpload req task.tid now) :=
    .commit (Option.map_eq_some_iff.mpr ⟨t, listing, rfl⟩)
  obtain ⟨rows, kept⟩ := listNotification_artifacts listing
  have settles := registerUpload_artifacts t req task.tid now
  have chosen : t.chosenID (req.ending task.tid) =
      some (s.jobAttempt task.tid req.attemptID) := by
    rw [← meets.chosen]
    unfold TaskStore.chosenID TaskStore.hasAttempt TaskStore.latestOpenID
    rw [kept.attempts]
  rw [chosen] at settles
  have plain := meets.plain
  -- A row that was there and is updated had the attempt of the job before.
  have before (row : Artifact) (found : s.findLive task.tid .raw req.cosKey = some row) :
      row.attemptID = s.jobAttempt task.tid req.attemptID := by
    cases there : s.findArtifact task.tid .raw req.cosKey with
    | none =>
      rw [findLive_of_absent there] at found
      cases found
    | some =>
      have live := (findLive_of_untombed clear mem_cons_self there).2
      rw [live] at found
      cases found
      exact meets.there row there
  refine good.after (extended.grows.ids good.ids) extended.grows.number ?_ ?_
  · intro row stored below
    rw [settles] at stored
    obtain ⟨old, listed, rfl⟩ := mem_map.mp stored
    rw [settled_id] at below
    rw [rows, append_assoc] at listed
    rcases mem_append.mp listed with there | new
    · refine ⟨old, there, (settled_id ..).symm, ?_⟩
      rw [settled_attemptID]
      split
      · next hit =>
        rcases updated_cases good.ids rows hit with ⟨found, finding, same, -⟩ | ⟨_, _, _, fresh⟩
        · have named := (named_of_findLive finding).1
          obtain rfl : found = old := inj_on_of_nodup_map good.ids.distinct named there same
          exact before found finding
        · omega
      · rfl
    · have above := (mem_newRows new).1
      omega
  · intro job mem
    rw [(registerUpload_jobs t req task.tid now).1] at mem
    rcases listNotification_jobs listing with ⟨-, same⟩ | ⟨-, added⟩
    · exact .inl (same ▸ mem)
    · rw [added] at mem
      refine (mem_append.mp mem).imp_right fun new id input => ?_
      rw [mem_singleton.mp new] at input ⊢
      rw [newJob_inputs s (s.advanceTask task now) cfg.generations task.tid req.attemptID
        req.cosKey req.artifactSize now rfl rfl, plain] at input
      show ∃ row ∈ (t.registerUpload req task.tid now).artifacts, row.id = id ∧
        row.attemptID = s.jobAttempt task.tid req.attemptID
      rw [settles]
      rcases newRaw_cases s req task.tid now with ⟨there, -⟩ | ⟨absent, single⟩
      · rw [plain] at there
        obtain ⟨first, found⟩ := Option.ne_none_iff_exists'.mp there
        obtain ⟨live, finds⟩ := findLive_of_untombed clear mem_cons_self found
        rw [found] at input
        dsimp only at input
        rw [if_pos live] at input
        have listed : first ∈ t.artifacts := by
          rw [rows]
          exact mem_append_left _ (mem_append_left _ (named_of_findLive finds).1)
        refine ⟨_, mem_map_of_mem listed, (settled_id ..).trans (mem_singleton.mp input).symm, ?_⟩
        rw [settled_attemptID]
        split
        · rfl
        · exact before first finds
      · rw [plain] at absent
        rw [absent] at input
        have fresh : { rawRow task.tid req.attemptID req.cosKey req.artifactSize now with
            id := s.nextArtifactID } ∈ t.artifacts := by
          rw [rows, single]
          simp
        have hit : (t.findLive task.tid .raw req.cosKey).map (·.id) = some s.nextArtifactID := by
          rw [findLive_listed rows, findLive_of_absent absent, Option.none_or, if_pos plain, single]
          rfl
        refine ⟨_, mem_map_of_mem fresh, (settled_id ..).trans (mem_singleton.mp input).symm, ?_⟩
        rw [settled_attemptID, hit, if_pos rfl]
        rfl

theorem foldl_deleteObject (keys : List String) (s : ArtifactStore) :
    keys.foldl deleteObject s = { s with objects := keys.foldl release s.objects } := by
  induction keys generalizing s with
  | nil => rfl
  | cons key rest ih => exact ih (s.deleteObject key)

theorem Attributed.notify (good : s.Attributed) {body : NotifyReq}
    (meets : ∀ passed ∈ (s.admitNotification cfg.layoutV2 body).toOption, passed.2.isError = false →
      s.tombstoned passed.1.tid (testedKeys passed.2) = false →
      s.NotifyAttributes passed.2 passed.1.tid) :
    (s.notifyTaskResult cfg body now).store.Attributed := by
  unfold notifyTaskResult
  cases admission : s.admitNotification cfg.layoutV2 body with
  | error => exact good
  | ok passed =>
    obtain ⟨task, req⟩ := passed
    rw [admission] at meets
    have meets := meets (task, req) rfl
    dsimp only at meets ⊢
    cases failed : req.isError with
    | true => exact ⟨⟨good.ids.distinct, good.ids.below⟩, good.listed, good.own⟩
    | false =>
      rw [if_neg nofun]
      unfold notifySuccess
      cases late : s.tombstoned task.tid (testedKeys req) with
      | true =>
        dsimp only
        rw [foldl_deleteObject]
        exact ⟨⟨good.ids.distinct, good.ids.below⟩, good.listed, good.own⟩
      | false =>
        rw [if_neg nofun]
        dsimp only
        split
        · exact good
        · next listed listing =>
          have done := good.commit late (meets failed late) listing
          exact ⟨⟨done.ids.distinct, done.ids.below⟩, done.listed, done.own⟩

end Notification

/-! ## The poller -/

/-- The poller attributes the object it has found to the attempt of its job: there is an initial job
of the latest attempt already, or a row of the object with that attempt, or no row and no
attempt. -/
def QueueAttributes (s : ArtifactStore) (cfg : NotifyConfig) (tid key : String) : Prop :=
  s.hasInitialJob cfg.generations tid (s.planAnalysis tid 0 key).pipeline
      (s.resolveLatestTaskAttemptID tid) = true ∨
    ((s.findArtifact tid .raw (trimSpace key)).map (·.attemptID)).getD 0 =
      s.resolveLatestTaskAttemptID tid

/-- Queueing without an attempt keeps the inputs of all jobs with their attempts. -/
theorem Attributed.queue (good : s.Attributed) (meets : s.QueueAttributes cfg tid key) :
    (s.ensureAnalysisQueued cfg tid key size now).Attributed := by
  unfold ensureAnalysisQueued
  split
  · exact good
  · cases queueing : s.queueAnalysis cfg.generations tid 0 key size
      (s.planAnalysis tid 0 key) now with
    | none => exact good
    | some t =>
      rw [Option.getD_some]
      obtain ⟨rows, -, -⟩ := queueAnalysis_some queueing
      have extended := Extends.queue queueing
      rw [insertArtifact_artifacts] at rows
      refine good.after (extended.grows.ids good.ids) extended.grows.number
        (fun row stored below => ?_) fun job mem => ?_
      · -- The rows that were there are as they were, and the new one has the next number.
        refine ⟨row, ?_, rfl, rfl⟩
        rw [rows] at stored
        refine (mem_append.mp stored).resolve_right fun new => ?_
        obtain ⟨-, rfl⟩ := mem_addedRow.mp new
        exact absurd below (lt_irrefl _)
      · rcases queueAnalysis_jobs queueing with ⟨-, same⟩ | ⟨fresh, added⟩
        · exact .inl (same ▸ mem)
        · rw [added] at mem
          refine (mem_append.mp mem).imp_right fun new id input => ?_
          rw [mem_singleton.mp new] at input ⊢
          have attempt := meets.resolve_left fun there =>
            Bool.false_ne_true (fresh.symm.trans there)
          rw [newJob_inputs s s cfg.generations tid 0 key size now rfl rfl] at input
          show ∃ row ∈ t.artifacts, row.id = id ∧ row.attemptID = s.resolveLatestTaskAttemptID tid
          rw [rows]
          cases found : s.findArtifact tid .raw (trimSpace key) with
          | none =>
            rw [found] at attempt input
            have added : s.addedRow (rawRow tid 0 key size now) =
                [{ rawRow tid 0 key size now with id := s.nextArtifactID }] :=
              if_neg (Option.not_isSome_iff_eq_none.mpr found)
            rw [added]
            exact ⟨_, mem_append_right _ (mem_singleton_self _), (mem_singleton.mp input).symm,
              attempt⟩
          | some first =>
            rw [found] at attempt input
            dsimp only at input
            split at input
            · exact ⟨first, mem_append_left _ (mem_of_find?_eq_some found),
                (mem_singleton.mp input).symm, attempt⟩
            · cases input

/-- What is read for the job does not depend on the status of the task. -/
theorem QueueAttributes.moved {tasks : TaskStore}
    (meets : s.QueueAttributes cfg tid key) (writes : s.toTaskStore.WritesTasks tasks) :
    ({ s with toTaskStore := tasks } : ArtifactStore).QueueAttributes cfg tid key := by
  have exists_ : (tasks.findTask tid).isSome = (s.findTask tid).isSome := by
    have present (store : TaskStore) :
        (store.findTask tid).isSome = (store.tasks.map (·.tid)).any (· = tid) := by
      unfold TaskStore.findTask
      rw [Bool.eq_iff_iff, find?_isSome]
      simp
    rw [present, present, (KeepsRows.of_writes writes).tids]
  have kind : ({ s with toTaskStore := tasks } : ArtifactStore).kindPipeline tid =
      s.kindPipeline tid := by
    unfold kindPipeline
    cases left : tasks.findTask tid with
    | none =>
      have none : s.findTask tid = none := by
        apply Option.not_isSome_iff_eq_none.mp
        rw [← exists_, left]
        exact nofun
      rw [none]
    | some =>
      rw [left] at exists_
      obtain ⟨before, found⟩ := Option.isSome_iff_exists.mp exists_.symm
      rw [found]
      rfl
  have latest : ({ s with toTaskStore := tasks } : ArtifactStore).resolveLatestTaskAttemptID tid =
      s.resolveLatestTaskAttemptID tid := by
    unfold resolveLatestTaskAttemptID
    rw [writes.sameAttempts.attempts]
  unfold QueueAttributes planAnalysis at meets ⊢
  rw [latest]
  rw [kind]
  exact meets

/-- A poll that meets the condition keeps the inputs of all jobs with their attempts. -/
theorem Attributed.poll (good : s.Attributed) {files : List (String × Int)}
    (meets : ∀ found ∈ s.findRawCollectionArtifact cfg task.tid files, task.status = .uploading →
      s.QueueAttributes cfg task.tid found.1) : (s.pollTask cfg task files now).Attributed := by
  have moved (tasks : TaskStore) : ({ s with toTaskStore := tasks } : ArtifactStore).Attributed :=
    ⟨⟨good.ids.distinct, good.ids.below⟩, good.listed, good.own⟩
  unfold pollTask
  dsimp only
  split
  · next key size _ _ found =>
    split
    · next uploading =>
      apply (moved _).queue
      exact (meets (key, size) found uploading).moved .poll
    · exact moved _
  · exact moved _

/-! ## Runs -/

/-- The action attributes what it lists to the attempt of its job. -/
def Attributes (cfg : NotifyConfig) (s : ArtifactStore) : ResultAction → Prop
  | .tasks _ => True
  | .upload _ _ => True
  | .notify body _ =>
    ∀ passed ∈ (s.admitNotification cfg.layoutV2 body).toOption, passed.2.isError = false →
      s.tombstoned passed.1.tid (testedKeys passed.2) = false →
      s.NotifyAttributes passed.2 passed.1.tid
  | .poll task files _ =>
    ∀ found ∈ s.findRawCollectionArtifact cfg task.tid files, task.status = .uploading →
      s.QueueAttributes cfg task.tid found.1

theorem Attributed.step {action : ResultAction} (good : s.Attributed)
    (meets : s.Attributes cfg action) (taken : s.resultStep cfg action = some t) :
    t.Attributed := by
  cases action with
  | tasks | upload =>
    cases taken
    exact ⟨⟨good.ids.distinct, good.ids.below⟩, good.listed, good.own⟩
  | notify =>
    cases taken
    exact good.notify meets
  | poll =>
    cases taken
    exact good.poll meets

/-- **The inputs of every analysis job are artifacts of its attempt**, after every transaction of a
run in which each notification and each poll attributes what it lists to the attempt of its job. -/
theorem analysis_inputs_owned (cfg : NotifyConfig) (s t : ArtifactStore)
    (actions : List ResultAction) (good : s.Attributed)
    (meets : Along (resultStep cfg) (Attributes cfg) s actions)
    (reached : run (resultStep cfg) s actions = some t) : t.InputsOwned := by
  have keeps : ∀ s action t, Attributed s → Attributes cfg s action →
      resultStep cfg s action = some t → Attributed t := fun _ _ _ good meets taken =>
      good.step meets taken
  exact (run_invariant_along keeps good meets reached).own

instance (cfg : NotifyConfig) (s : ArtifactStore) (action : ResultAction) :
    Decidable (s.Attributes cfg action) := by
  cases action <;> dsimp only [Attributes, QueueAttributes] <;> infer_instance

/-- The attempts of a task: the first is ended or not, the second is there or not. -/
def attemptsOf (ended second : Bool) : List TaskAttempt :=
  { id := 1, taskTID := "t", attemptSeq := 1, trigger := .initial, agentIP := "a", beginTime := 0
    endTime := if ended then some 5 else none } ::
  if second then
    [{ id := 2, taskTID := "t", attemptSeq := 2, trigger := .userRetry, agentIP := "a",
       beginTime := 6 }]
  else []

/-- A task that is uploading. -/
def uploadingTask : HotmethodTask :=
  { tid := "t", status := .uploading, statusInfo := "", createTime := 0, beginTime := some 0 }

/-- The tables with that task and its attempts. -/
def uploadingStore (ended second : Bool) : TaskStore :=
  { tasks := [uploadingTask], attempts := attemptsOf ended second, nextAttemptID := 3 }

/-- All tables before the first report. -/
def uploadingTables : ArtifactStore := { toTaskStore := uploadingStore false false }

/-- The report of the first attempt. -/
def perfData : NotifyReq := { taskID := "t", cosKey := "t/perf.data" }

/-- The first attempt reports its object without a number, and the second one another object with
its number. -/
def reportedTwice : List ResultAction :=
  [.notify perfData 5, .tasks (uploadingStore true true),
    .notify { taskID := "t", cosKey := "t/2/perf.data", attemptID := 2 } 9]

/-- Both jobs have inputs of their own. -/
theorem reported_inputs_owned :
    (run (resultStep {}) uploadingTables reportedTwice).map
        (fun t => t.analysisJobs.map fun job => (job.attemptID, job.inputArtifactIDs)) =
        some [(1, [1]), (2, [2])] ∧
      ∀ t, run (resultStep {}) uploadingTables reportedTwice = some t →
        t.InputsOwned := by
  refine ⟨by decide, fun t reached => ?_⟩
  have nothing : uploadingTables.Attributed :=
    ⟨⟨nodup_nil, forall_mem_nil _⟩, forall_mem_nil _, forall_mem_nil _⟩
  apply analysis_inputs_owned {} _ t reportedTwice nothing _ reached
  exact along_of_decide (by decide)

/-- The poller queues a job of the latest attempt for a row without an attempt. A second attempt
that uploads to the same key takes the row of the first, which stays the input of the first job. -/
theorem analysis_inputs_not_owned :
    (run (resultStep {})
        { toTaskStore := uploadingStore false false,
          objects := [("t/perf.data", { sha256 := "x" })] }
        [.poll uploadingTask [] 5]).map
      (fun t => (t.analysisJobs.map fun job => (job.attemptID, job.inputArtifactIDs),
        t.artifacts.map fun row => (row.id, row.attemptID), decide t.InputsOwned)) =
        some ([(1, [1])], [(1, 0)], false) ∧
    (run (resultStep {}) uploadingTables [.notify perfData 5, .tasks (uploadingStore true true),
          .notify { perfData with attemptID := 2 } 9]).map
      (fun t => (t.analysisJobs.map fun job => (job.attemptID, job.inputArtifactIDs),
        t.artifacts.map fun row => (row.id, row.attemptID), decide t.InputsOwned)) =
        some ([(1, [1]), (2, [1])], [(1, 2)], false) := by
  constructor
  · decide
  · decide

end ArtifactStore

end MiniDrop
