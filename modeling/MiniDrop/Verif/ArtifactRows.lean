import MiniDrop.Server.NotifyResult
import MiniDrop.Verif.AttemptEvidence
/-!
# The rows that a notification writes

What each statement of the transaction of a success notification does to the artifacts: it adds a
row of the object and one of the manifest unless they are there, and updates the row that it finds
under the key as it was sent.
-/
namespace MiniDrop

open Base List

/-! ## The attempt of a row -/

namespace TaskStore

variable {s : TaskStore} {tid : String} {id : Nat}

/-- Some attempt of the task is not ended. -/
def hasOpenAttempt (s : TaskStore) (tid : String) : Bool :=
  s.attempts.any fun row => row.taskTID = tid ∧ row.endTime = none

/-- The lookup of the latest open attempt finds one exactly if there is one. -/
theorem latestOpenID_isSome : (s.latestOpenID tid).isSome = s.hasOpenAttempt tid := by
  unfold latestOpenID latestOf hasOpenAttempt
  rw [Option.isSome_map, Bool.eq_iff_iff, any_eq_true, isSome_head?, ne_eq,
    eq_nil_iff_forall_not_mem]
  simp [mem_orderBy]

theorem hasAttempt_of_latestOpenID (found : s.latestOpenID tid = some id) :
    s.hasAttempt tid id = true := by
  obtain ⟨row, listed, own, task, -⟩ := AttemptJob.latestOpenID_row found
  exact any_eq_true.mpr ⟨row, listed, decide_eq_true ⟨own, task⟩⟩

theorem hasAttempt_of_chosenID {ending : AttemptEnd} (found : s.chosenID ending = some id) :
    s.hasAttempt ending.tid id = true := by
  unfold chosenID at found
  split at found
  · next named =>
    cases found
    exact named.2
  · exact hasAttempt_of_latestOpenID found

/-- An attempt is chosen exactly if the number is that of one of the task, or one is open. -/
theorem chosenID_isSome (ending : AttemptEnd) : (s.chosenID ending).isSome = true ↔
    (ending.attemptID ≠ 0 ∧ s.hasAttempt ending.tid ending.attemptID = true) ∨
      s.hasOpenAttempt ending.tid = true := by
  unfold chosenID
  split
  · next named => exact ⟨fun _ => Or.inl named, fun _ => rfl⟩
  · next unnamed =>
    rw [latestOpenID_isSome]
    exact ⟨Or.inr, fun either => either.resolve_left unnamed⟩

end TaskStore

namespace ArtifactStore

variable {s t : ArtifactStore} {tid : String} {req : NotifyReq} {row : Artifact}

/-- The identifiers of the artifacts are different, and the next one is above them. -/
structure ArtifactIDs (s : ArtifactStore) : Prop where
  distinct : (s.artifacts.map (·.id)).Nodup
  below : ∀ row ∈ s.artifacts, row.id < s.nextArtifactID

/-- The row that an insert adds, if any. -/
def addedRow (s : ArtifactStore) (row : Artifact) : List Artifact :=
  if (s.findArtifact row.taskTID row.kind row.objectKey).isSome then []
  else [{ row with id := s.nextArtifactID }]

theorem mem_addedRow {new : Artifact} : new ∈ s.addedRow row ↔
    s.findArtifact row.taskTID row.kind row.objectKey = none ∧
    new = { row with id := s.nextArtifactID } := by
  cases found : s.findArtifact row.taskTID row.kind row.objectKey <;> simp [addedRow, found]

theorem insertArtifact_artifacts (s : ArtifactStore) (row : Artifact) :
    (s.insertArtifact row).artifacts = s.artifacts ++ s.addedRow row := by
  unfold insertArtifact addedRow
  split
  · exact (append_nil _).symm
  · rfl

theorem insertArtifact_next (s : ArtifactStore) (row : Artifact) :
    (s.insertArtifact row).nextArtifactID = s.nextArtifactID + (s.addedRow row).length := by
  unfold insertArtifact addedRow
  split
  · rfl
  · rfl

theorem insertArtifact_tasks (s : ArtifactStore) (row : Artifact) :
    (s.insertArtifact row).toTaskStore = s.toTaskStore := by
  unfold insertArtifact
  split
  · rfl
  · rfl

theorem insertArtifact_jobs (s : ArtifactStore) (row : Artifact) :
    (s.insertArtifact row).analysisJobs = s.analysisJobs ∧
      (s.insertArtifact row).nextJobID = s.nextJobID := by
  unfold insertArtifact
  split
  · exact ⟨rfl, rfl⟩
  · exact ⟨rfl, rfl⟩

theorem insertJob_some {job : AnalysisJob} (inserted : s.insertJob job = some t) :
    t = { s with
      analysisJobs := s.analysisJobs ++ [{ job with id := s.nextJobID }]
      nextJobID := s.nextJobID + 1 } := by
  unfold insertJob at inserted
  split at inserted
  · cases inserted
  · exact (Option.some.inj inserted).symm

variable {key : String} {now : Int} {plan : QueuePlan} {kind : ArtifactKind}

/-- The job that the transaction inserts. -/
def newJob (s : ArtifactStore) (generations : Bool) (tid key : String) (plan : QueuePlan)
    (now : Int) : AnalysisJob where
  id := s.nextJobID
  taskTID := tid
  attemptID := plan.attemptID
  generation := if generations then s.maxGeneration tid + 1 else 1
  pipeline := plan.pipeline
  trigger := .initial
  inputArtifactIDs := plan.inputs.getD (((s.findLive tid .raw (trimSpace key)).map (·.id)).toList)
  createdAt := now

variable {generations : Bool} {attemptID : Nat} {size : Int}

/-- Queueing inserts the row of the object, and the job unless there is an initial one. -/
theorem queueAnalysis_cases
    (queued : s.queueAnalysis generations tid attemptID key size plan now = some t) :
    (s.hasInitialJob generations tid plan.pipeline plan.attemptID = true ∧
        t = s.insertArtifact (rawRow tid attemptID key size now)) ∨
      s.hasInitialJob generations tid plan.pipeline plan.attemptID = false ∧
        (s.insertArtifact (rawRow tid attemptID key size now)).insertJob
          ((s.insertArtifact (rawRow tid attemptID key size now)).newJob generations tid key
            plan now) = some t := by
  have initial : (s.insertArtifact (rawRow tid attemptID key size now)).hasInitialJob
      generations tid plan.pipeline plan.attemptID =
      s.hasInitialJob generations tid plan.pipeline plan.attemptID := by
    unfold hasInitialJob
    rw [(insertArtifact_jobs s _).1]
  unfold queueAnalysis at queued
  split at queued
  · cases queued
  · dsimp only at queued
    split at queued
    · cases queued
    · rw [initial] at queued
      split at queued
      · next there => exact .inl ⟨there, (Option.some.inj queued).symm⟩
      · next fresh => exact .inr ⟨Bool.eq_false_of_not_eq_true fresh, queued⟩

theorem queueAnalysis_some
    (queued : s.queueAnalysis generations tid attemptID key size plan now = some t) :
    t.artifacts = (s.insertArtifact (rawRow tid attemptID key size now)).artifacts ∧
      t.nextArtifactID = (s.insertArtifact (rawRow tid attemptID key size now)).nextArtifactID ∧
      t.toTaskStore = s.toTaskStore := by
  rcases queueAnalysis_cases queued with ⟨-, rfl⟩ | ⟨-, inserted⟩
  · exact ⟨rfl, rfl, insertArtifact_tasks s _⟩
  · rw [insertJob_some inserted]
    exact ⟨rfl, rfl, insertArtifact_tasks s _⟩

theorem advanceTask_writes (s : ArtifactStore) (task : HotmethodTask) (now : Int) :
    s.toTaskStore.WritesTasks (s.advanceTask task now).toTaskStore := by
  unfold advanceTask
  split
  · exact .refl _
  · split
    · split
      · exact .upload
      · split
        · exact .advance
        · exact .refl _
    · exact .advance

/-- The row of an artifact after the last part of the transaction, if that has found it. -/
def settled (req : NotifyReq) (updated chosen : Option Nat) (row : Artifact) : Artifact :=
  if updated = some row.id then
    { registeredRow req row with attemptID := chosen.getD row.attemptID }
  else row

theorem registerUpload_artifacts (s : ArtifactStore) (req : NotifyReq) (tid : String) (now : Int) :
    (s.registerUpload req tid now).artifacts =
      s.artifacts.map (settled req ((s.findLive tid .raw req.cosKey).map (·.id))
        (s.chosenID (req.ending tid))) := by
  unfold registerUpload finishAttempt
  cases s.findLive tid .raw req.cosKey with
  | none =>
    have same : settled req none
        (s.chosenID (req.ending tid)) = id :=
      funext fun row => if_neg nofun
    dsimp only [Option.map_none]
    rw [same, map_id]
    split
    · rfl
    · rfl
  | some found =>
    have chosen : (s.updateArtifacts (·.id = found.id) (registeredRow req)).toTaskStore.chosenID
        (req.ending tid) =
        s.chosenID (req.ending tid) := rfl
    dsimp only [Option.map_some]
    rw [chosen]
    cases s.chosenID (req.ending tid)
    all_goals
      simp only [updateArtifacts, map_map]
      refine map_congr_left fun row _ => ?_
      by_cases same : row.id = found.id
      · simp [settled, same, registeredRow]
      · simp [settled, same, Ne.symm same]

/-! ## The rows before the last part -/

/-- The row of a manifest. -/
def manifestRow (tid : String) (attemptID : Nat) (key : String) (now : Int) : Artifact where
  taskTID := tid
  attemptID := attemptID
  kind := .manifest
  objectKey := trimSpace key
  createdAt := now

/-- The row of the object, if it is new. -/
def newRaw (s : ArtifactStore) (req : NotifyReq) (tid : String) (now : Int) : List Artifact :=
  s.addedRow (rawRow tid req.attemptID req.cosKey req.artifactSize now)

/-- The row of the manifest, if there is one and it is new. -/
def newManifest (s : ArtifactStore) (req : NotifyReq) (tid : String) (now : Int) : List Artifact :=
  if trimSpace req.manifestKey = "" ∨
      (s.findArtifact tid .manifest (trimSpace req.manifestKey)).isSome = true then []
  else
    [{ manifestRow tid req.attemptID req.manifestKey now with
        id := s.nextArtifactID + (s.newRaw req tid now).length }]

theorem findArtifact_append_kind {rows : List Artifact}
    (extended : t.artifacts = s.artifacts ++ rows) (other : ∀ row ∈ rows, row.kind ≠ kind) :
    t.findArtifact tid kind key = s.findArtifact tid kind key := by
  unfold findArtifact
  rw [extended, find?_append]
  have none : rows.find? (Artifact.named tid kind key) = none := by
    apply find?_eq_none.mpr
    intro row mem
    simp [Artifact.named, other row mem]
  rw [none, Option.or_none]

theorem listNotification_artifacts {cfg : NotifyConfig} {task : HotmethodTask}
    (listing : s.listNotification cfg req task plan now = some t) :
    t.artifacts = s.artifacts ++ s.newRaw req task.tid now ++ s.newManifest req task.tid now ∧
      s.toTaskStore.SameAttempts t.toTaskStore := by
  obtain ⟨queued, queueing, rfl⟩ := Option.map_eq_some_iff.mp listing
  obtain ⟨artifacts, number, tasks⟩ := queueAnalysis_some queueing
  have kept := (advanceTask_writes s task now).sameAttempts
  rw [insertArtifact_artifacts] at artifacts
  rw [insertArtifact_next] at number
  have rawRows : queued.artifacts = s.artifacts ++ s.newRaw req task.tid now := artifacts
  have rawNumber : queued.nextArtifactID = s.nextArtifactID + (s.newRaw req task.tid now).length :=
    number
  have same : queued.findArtifact task.tid .manifest (trimSpace req.manifestKey) =
      s.findArtifact task.tid .manifest (trimSpace req.manifestKey) := by
    apply findArtifact_append_kind rawRows
    intro row mem
    obtain ⟨-, rfl⟩ := mem_addedRow.mp mem
    exact nofun
  unfold ensureManifestArtifact newManifest
  split
  · next blank =>
    rw [if_pos (Or.inl blank), append_nil]
    exact ⟨rawRows, tasks ▸ kept⟩
  · next solid =>
    refine ⟨?_, ?_⟩
    · rw [insertArtifact_artifacts, rawRows]
      congr 1
      unfold addedRow
      rw [same, rawNumber]
      split
      · next there => rw [if_pos (Or.inr there)]
      · next absent =>
        rw [if_neg (not_or.mpr ⟨solid, absent⟩)]
        rfl
    · rw [insertArtifact_tasks, tasks]
      exact kept

theorem mem_newManifest : row ∈ s.newManifest req tid now ↔
    (trimSpace req.manifestKey ≠ "" ∧
        s.findArtifact tid .manifest (trimSpace req.manifestKey) = none) ∧
      row = { manifestRow tid req.attemptID req.manifestKey now with
        id := s.nextArtifactID + (s.newRaw req tid now).length } := by
  by_cases blank : trimSpace req.manifestKey = ""
  · simp [newManifest, blank]
  · cases found : s.findArtifact tid .manifest (trimSpace req.manifestKey) <;>
      simp [newManifest, blank, found]

/-- The new rows are rows of the task, with the number that was sent. -/
theorem mem_newRows (mem : row ∈ s.newRaw req tid now ++ s.newManifest req tid now) :
    s.nextArtifactID ≤ row.id ∧ row.taskTID = tid ∧ row.attemptID = req.attemptID := by
  rcases mem_append.mp mem with raw | manifest
  · obtain ⟨-, rfl⟩ := mem_addedRow.mp raw
    exact ⟨le_refl _, rfl, rfl⟩
  · obtain ⟨-, rfl⟩ := mem_newManifest.mp manifest
    exact ⟨Nat.le_add_right _ _, rfl, rfl⟩

/-- The last part of the transaction finds the row that was there, or else the new row of the object
if its key has no blanks around it. -/
theorem findLive_listed
    (listed : t.artifacts = s.artifacts ++ s.newRaw req tid now ++ s.newManifest req tid now) :
    t.findLive tid .raw req.cosKey = (s.findLive tid .raw req.cosKey).or
        (if trimSpace req.cosKey = req.cosKey then (s.newRaw req tid now).head? else none) := by
  have manifest : (s.newManifest req tid now).find?
      (fun row => Artifact.named tid .raw req.cosKey row && row.live) = none := by
    apply find?_eq_none.mpr
    intro row mem
    obtain ⟨-, rfl⟩ := mem_newManifest.mp mem
    simp [Artifact.named, manifestRow]
  unfold findLive
  rw [listed, find?_append, find?_append, manifest, Option.or_none]
  congr 1
  unfold newRaw addedRow
  split
  · simp
  · by_cases plain : trimSpace req.cosKey = req.cosKey
    · simp [Artifact.named, rawRow, Artifact.live, plain]
    · simp [Artifact.named, rawRow, plain]

/-- The last part of the transaction keeps the identifier of a row. -/
@[simp] theorem settled_id (req : NotifyReq) (updated chosen : Option Nat) (row : Artifact) :
    (settled req updated chosen row).id = row.id := by
  unfold settled
  split
  · rfl
  · rfl

@[simp] theorem settled_taskTID (req : NotifyReq) (updated chosen : Option Nat) (row : Artifact) :
    (settled req updated chosen row).taskTID = row.taskTID := by
  unfold settled
  split
  · rfl
  · rfl

theorem settled_attemptID (req : NotifyReq) (updated chosen : Option Nat) (row : Artifact) :
    (settled req updated chosen row).attemptID =
      if updated = some row.id then chosen.getD row.attemptID else row.attemptID := by
  unfold settled
  split
  · rfl
  · rfl

theorem newRaw_cases (s : ArtifactStore) (req : NotifyReq) (tid : String) (now : Int) :
    (s.findArtifact tid .raw (trimSpace req.cosKey) ≠ none ∧ s.newRaw req tid now = []) ∨
      s.findArtifact tid .raw (trimSpace req.cosKey) = none ∧
        s.newRaw req tid now = [{ rawRow tid req.attemptID req.cosKey req.artifactSize now with
          id := s.nextArtifactID }] := by
  unfold newRaw addedRow
  split
  · next there => exact Or.inl ⟨Option.isSome_iff_ne_none.mp there, rfl⟩
  · next absent => exact Or.inr ⟨Option.not_isSome_iff_eq_none.mp absent, rfl⟩

theorem named_of_findLive (found : s.findLive tid kind key = some row) :
    row ∈ s.artifacts ∧ row.taskTID = tid ∧ row.kind = kind ∧ row.objectKey = key ∧
    row.live = true := by
  have passes := find?_some found
  simp only [Artifact.named, Bool.and_eq_true, decide_eq_true_eq] at passes
  exact ⟨mem_of_find?_eq_some found, passes.1.1.1, passes.1.1.2, passes.1.2, passes.2⟩

theorem findLive_of_absent
    (absent : s.findArtifact tid kind key = none) : s.findLive tid kind key = none := by
  apply find?_eq_none.mpr
  intro row mem
  have other := find?_eq_none.mp absent row mem
  rw [Bool.and_eq_true]
  exact fun both => other both.1

/-- The row of the object that is updated: the one that was there, or the new one. -/
theorem updated_cases (keyed : s.ArtifactIDs)
    (listed : t.artifacts = s.artifacts ++ s.newRaw req tid now ++ s.newManifest req tid now)
    {id : Nat} (updated : (t.findLive tid .raw req.cosKey).map (·.id) = some id) :
    (∃ row, s.findLive tid .raw req.cosKey = some row ∧ row.id = id ∧ id < s.nextArtifactID) ∨
      s.findLive tid .raw req.cosKey = none ∧ trimSpace req.cosKey = req.cosKey ∧
        s.findArtifact tid .raw (trimSpace req.cosKey) = none ∧ id = s.nextArtifactID := by
  obtain ⟨found, finding, rfl⟩ := Option.map_eq_some_iff.mp updated
  rw [findLive_listed listed] at finding
  cases before : s.findLive tid .raw req.cosKey with
  | some row =>
    rw [before, Option.some_or] at finding
    obtain rfl := Option.some.inj finding
    exact Or.inl ⟨row, rfl, rfl, keyed.below row (named_of_findLive before).1⟩
  | none =>
    rw [before, Option.none_or] at finding
    split at finding
    · next plain =>
      rcases newRaw_cases s req tid now with ⟨-, empty⟩ | ⟨absent, single⟩
      · rw [empty] at finding
        cases finding
      · rw [single] at finding
        cases finding
        exact Or.inr ⟨rfl, plain, absent, rfl⟩
    · cases finding

/-! ## Identifiers -/

namespace ArtifactIDs

theorem insert (keyed : s.ArtifactIDs) (row : Artifact) : (s.insertArtifact row).ArtifactIDs := by
  unfold insertArtifact
  split
  · exact keyed
  · constructor
    · exact nodup_map_concat keyed.distinct fun old mem => Nat.ne_of_lt (keyed.below old mem)
    · refine forall_mem_append.mpr ⟨fun old mem => ?_,
        forall_mem_singleton.mpr (Nat.lt_succ_self _)⟩
      exact Nat.lt_succ_of_lt (keyed.below old mem)

theorem of_map (keyed : s.ArtifactIDs) {change : Artifact → Artifact}
    (keeps : ∀ row ∈ s.artifacts, (change row).id = row.id)
    (rows : t.artifacts = s.artifacts.map change)
    (number : t.nextArtifactID = s.nextArtifactID) : t.ArtifactIDs := by
  constructor
  · have same : t.artifacts.map (·.id) = s.artifacts.map (·.id) := by
      rw [rows, map_map]
      exact map_congr_left keeps
    rw [same]
    exact keyed.distinct
  · intro row mem
    rw [rows] at mem
    obtain ⟨before, listed, rfl⟩ := mem_map.mp mem
    rw [keeps before listed, number]
    exact keyed.below before listed

end ArtifactIDs

end ArtifactStore

end MiniDrop
