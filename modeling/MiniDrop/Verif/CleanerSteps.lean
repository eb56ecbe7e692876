import MiniDrop.Verif.ArtifactGrowth
/-!
# What a step of the cleaner does

Each step of a round, by what it writes and by what follows it.
-/
namespace MiniDrop

namespace CleanJob

/-! ## What a job is about -/

/-- The row that a step buries. -/
def buries : CleanJob → Option Nat
  | .completing row _ _ => some row.id
  | .releasing row _ _ _ => some row.id
  | _ => none

/-- The object that a step deletes. -/
def removes : CleanJob → Option String
  | .removing row _ _ => some row.objectKey
  | .removingShared row _ _ => some row.objectKey
  | .removingStray row _ _ => some row.objectKey
  | .removingBlob blob _ _ => some blob.objectKey
  | .sweeping keys => keys.head?
  | _ => none

/-- The round that goes on after a blob. -/
def restRound : CleanRest → Option Round
  | .round round => some round
  | .blobs _ => none

/-- The round that a job is part of. -/
def round : CleanJob → Option Round
  | .claiming round => some round
  | .removing _ _ round => some round
  | .completing _ _ round => some round
  | .counting _ _ round => some round
  | .removingShared _ _ round => some round
  | .droppingKey _ _ round => some round
  | .readingBlob _ _ _ round => some round
  | .removingStray _ _ round => some round
  | .releasing _ _ _ round => some round
  | .claimingBlob _ _ round => some round
  | .removingBlob _ _ rest => restRound rest
  | .buryingBlob _ _ rest => restRound rest
  | .droppingKernel _ rest => restRound rest
  | .droppingSymbols _ rest => restRound rest
  | .candidates _ | .shielded _ _ | .retrying _ | .restoring _ _ | .knowing _ | .listingObjects _ _
  | .sweeping _ => none

/-- A row of a round is claimed: nothing protects it, and it is as it was read. -/
structure Claims (s : ArtifactStore) (round : Round) (row : Artifact) (rest : List Artifact) :
    Prop where
  next : round.rest = row :: rest
  unpinned : row.taskTID ∉ round.pinned
  inactive : row.id ∉ round.active
  unprotected : round.kind = .expired → s.claimProtected row.taskTID = false
  same : s.claims row = true

/-! ## Writes -/

/-- What a step writes. -/
inductive Writes (s : ArtifactStore) : CleanJob → ArtifactStore → Prop
  | same (job) : Writes s job s
  | claim {round row rest} (claims : Claims s round row rest) :
      Writes s (.claiming round) (s.claimArtifact row)
  | fail {job} (row error now) (key : job.removes = some row.objectKey) :
      Writes s job (s.failArtifactDeletion row error now)
  | remove {job key} (removes : job.removes = some key) : Writes s job (s.deleteObject key)
  | complete {job id} (reason now) (buries : job.buries = some id) :
      Writes s job (s.completeArtifactDeletion id reason now)
  | dropKey (row reason round) :
      Writes s (.droppingKey row reason round) (s.dropKernelKey row.objectKey)
  | claimBlob {blobID reason round blob} (unreferenced : s.unreferencedBlob blobID = some blob) :
      Writes s (.claimingBlob blobID reason round) (s.claimBlob blobID)
  | failBlob (blob reason rest now) :
      Writes s (.removingBlob blob reason rest) (s.failBlobDeletion blob now)
  | bury (blob reason rest now) :
      Writes s (.buryingBlob blob reason rest) (s.tombstoneBlob blob.id reason now)
  | dropKernel (blobID rest) : Writes s (.droppingKernel blobID rest) (s.dropKernelBlob blobID)
  | dropSymbols (blobID rest) : Writes s (.droppingSymbols blobID rest) (s.dropSymbolBlob blobID)
  | restore (blobID blobs) : Writes s (.restoring blobID blobs) (s.restoreBlob blobID)

/-! ## What follows -/

/-- What follows a step. -/
inductive Follows (s : ArtifactStore) : CleanJob → CleanJob → Prop
  | shield (rows) : Follows s (.candidates rows) (.shielded rows s.activeAnalysisJobInputIDs)
  | start (rows active) : Follows s (.shielded rows active)
        (.claiming { kind := .expired, rest := rows, active, pinned := s.pinnedTaskSet })
  | pass {round row rest} (next : round.rest = row :: rest) :
      Follows s (.claiming round) (.claiming { round with rest })
  | take {round row rest} (claims : Claims s round row rest) :
      Follows s (.claiming round) (wayOf row (reasonOf round row) { round with rest })
  | finished {round} (tid) (next : round.rest = []) : Follows s (.claiming round) (.knowing tid)
  | fail {job} {row : Artifact} {round} (key : job.removes = some row.objectKey)
      (part : job.round = some round) : Follows s job (.claiming round)
  | removed (row reason round) :
      Follows s (.removing row reason round) (.completing row reason round)
  | completed (row reason round) : Follows s (.completing row reason round) (.claiming round)
  | shared {row} (reason round) (others : 0 < s.otherRefs row) :
      Follows s (.counting row reason round) (.completing row reason round)
  | last {row} (reason round) (alone : s.otherRefs row = 0) :
      Follows s (.counting row reason round) (.removingShared row reason round)
  | removedShared (row reason round) :
      Follows s (.removingShared row reason round) (.droppingKey row reason round)
  | dropped (row reason round) :
      Follows s (.droppingKey row reason round) (.completing row reason round)
  | stray {blobID} (row reason round) (missing : s.findBlob blobID = none) :
      Follows s (.readingBlob row blobID reason round) (.removingStray row reason round)
  | buried {blobID blob} (row reason round) (found : s.findBlob blobID = some blob)
      (dead : (blob.deletedAt.isSome || blob.status = .deleted) = true) :
      Follows s (.readingBlob row blobID reason round) (.completing row reason round)
  | held {blobID blob} (row reason round) (found : s.findBlob blobID = some blob)
      (live : (blob.deletedAt.isSome || blob.status = .deleted) = false) :
      Follows s (.readingBlob row blobID reason round) (.releasing row blobID reason round)
  | removedStray (row reason round) :
      Follows s (.removingStray row reason round) (.completing row reason round)
  | released (row blobID reason round) :
      Follows s (.releasing row blobID reason round) (.claimingBlob blobID reason round)
  | referenced (blobID reason round) :
      Follows s (.claimingBlob blobID reason round) (.claiming round)
  | unreferenced {blobID blob} (reason round)
      (unreferenced : s.unreferencedBlob blobID = some blob) :
      Follows s (.claimingBlob blobID reason round) (.removingBlob blob reason (.round round))
  | failedBlob (blob reason rest) : Follows s (.removingBlob blob reason rest) (resume rest)
  | removedBlob (blob reason rest) :
      Follows s (.removingBlob blob reason rest) (.buryingBlob blob reason rest)
  | buriedBlob (blob reason rest) :
      Follows s (.buryingBlob blob reason rest) (.droppingKernel blob.id rest)
  | droppedKernel (blobID rest) :
      Follows s (.droppingKernel blobID rest) (.droppingSymbols blobID rest)
  | droppedSymbols (blobID rest) : Follows s (.droppingSymbols blobID rest) (resume rest)
  | reuse {blob} (blobs) (referenced : 0 < s.countBlobRefs blob.id) :
      Follows s (.retrying (blob :: blobs)) (.restoring blob.id blobs)
  | retry {blob} (blobs) (unreferenced : s.countBlobRefs blob.id = 0) :
      Follows s (.retrying (blob :: blobs)) (.removingBlob blob blob.deleteReason (.blobs blobs))
  | restored (blobID blobs) : Follows s (.restoring blobID blobs) (.retrying blobs)
  | know (tid) : Follows s (.knowing tid)
        (.listingObjects tid ((s.artifacts.filter (·.taskTID = tid)).map (·.objectKey)))
  | list (tid known) : Follows s (.listingObjects tid known)
        (.sweeping (((s.listObjects tid).map (·.1)).filter fun key =>
          key ≠ "" && !known.contains key && !isKernelSymbolObjectKey key))
  | swept (key keys) : Follows s (.sweeping (key :: keys)) (.sweeping keys)

variable {cfg : NotifyConfig} {s : ArtifactStore} {row : Artifact} {job later : CleanJob}
  {input : WorkInput}

theorem claims_of_tests {round : Round} {rest : List Artifact} (next : round.rest = row :: rest)
    (free : ¬(round.pinned.contains row.taskTID || round.active.contains row.id) = true)
    (open_ : ¬(round.kind = .expired ∧ s.claimProtected row.taskTID = true))
    (same : s.claims row = true) :
    Claims s round row rest := by
  rw [Bool.or_eq_true, not_or] at free
  refine ⟨next, ?_, ?_, fun kind => ?_, same⟩
  · intro mem
    exact free.1 (List.contains_iff_mem.mpr mem)
  · intro mem
    exact free.2 (List.contains_iff_mem.mpr mem)
  · exact Bool.eq_false_of_not_eq_true fun closed => open_ ⟨kind, closed⟩

/-- What a step does: what it writes, and what follows it. -/
structure Does (s : ArtifactStore) (job : CleanJob) (out : CleanOutcome) : Prop where
  writes : job.Writes s out.store
  next : ∀ later ∈ out.next, job.Follows s later

theorem run_does (cfg : NotifyConfig) (s : ArtifactStore) (job : CleanJob) (input : WorkInput) :
    job.Does s (job.run cfg s input) := by
  have ends {t : ArtifactStore} (writes : job.Writes s t) : job.Does s { store := t } :=
    ⟨writes, List.forall_mem_nil _⟩
  have goes {t : ArtifactStore} {later : CleanJob} (writes : job.Writes s t)
    (follows : job.Follows s later) :
      job.Does s { store := t, next := [later] } := ⟨writes, List.forall_mem_singleton.mpr follows⟩
  have remove {row : Artifact} {round : Round} {next : CleanJob}
      (key : job.removes = some row.objectKey) (part : job.round = some round)
      (follows : job.Follows s next) :
      job.Does s (removeObject cfg s row round next input) := by
    unfold removeObject
    split
    · exact goes (.fail row _ _ key) (.fail key part)
    · exact goes (.remove key) follows
  cases job with
  | candidates rows => exact goes (.same _) (.shield rows)
  | shielded rows active => exact goes (.same _) (.start rows active)
  | claiming =>
    dsimp only [run]
    split
    · next next =>
      unfold finish
      split
      · split
        · exact goes (.same _) (.finished _ next)
        · exact ends (.same _)
      · exact ends (.same _)
    · next row rest next =>
      unfold claimNext
      split
      · exact goes (.same _) (.pass next)
      · next free =>
        split
        · exact goes (.same _) (.pass next)
        · next open_ =>
          split
          · next same =>
            have claims := claims_of_tests next free open_ same
            exact goes (.claim claims) (.take claims)
          · exact goes (.same _) (.pass next)
  | removing row reason round => exact remove rfl rfl (.removed row reason round)
  | completing row reason round =>
    exact goes (.complete reason input.now rfl) (.completed row reason round)
  | counting row reason round =>
    dsimp only [run]
    split
    · next others => exact goes (.same _) (.shared reason round others)
    · next alone => exact goes (.same _) (.last reason round (by omega))
  | removingShared row reason round => exact remove rfl rfl (.removedShared row reason round)
  | droppingKey row reason round =>
    exact goes (.dropKey row reason round) (.dropped row reason round)
  | readingBlob row blobID reason round =>
    dsimp only [run]
    split
    · next missing => exact goes (.same _) (.stray row reason round missing)
    · next blob found =>
      split
      · next dead => exact goes (.same _) (.buried row reason round found dead)
      · next live =>
          exact goes (.same _) (.held row reason round found (Bool.eq_false_of_not_eq_true live))
  | removingStray row reason round =>
    dsimp only [run]
    split
    · exact remove rfl rfl (.removedStray row reason round)
    · exact goes (.same _) (.removedStray row reason round)
  | releasing row blobID reason round =>
    exact goes (.complete reason input.now rfl) (.released row blobID reason round)
  | claimingBlob blobID reason round =>
    dsimp only [run]
    split
    · exact goes (.same _) (.referenced blobID reason round)
    · next unreferenced =>
        exact goes (.claimBlob unreferenced) (.unreferenced reason round unreferenced)
  | removingBlob blob reason rest =>
    dsimp only [run]
    split
    · exact goes (.failBlob blob reason rest input.now) (.failedBlob blob reason rest)
    · exact goes (.remove rfl) (.removedBlob blob reason rest)
  | buryingBlob blob reason rest =>
    exact goes (.bury blob reason rest input.now) (.buriedBlob blob reason rest)
  | droppingKernel blobID rest => exact goes (.dropKernel blobID rest) (.droppedKernel blobID rest)
  | droppingSymbols blobID rest =>
    exact goes (.dropSymbols blobID rest) (.droppedSymbols blobID rest)
  | retrying blobs =>
    cases blobs with
    | nil => exact ends (.same _)
    | cons blob blobs =>
      dsimp only [run]
      split
      · next referenced => exact goes (.same _) (.reuse blobs referenced)
      · next unreferenced => exact goes (.same _) (.retry blobs (by omega))
  | restoring blobID blobs => exact goes (.restore blobID blobs) (.restored blobID blobs)
  | knowing tid => exact goes (.same _) (.know tid)
  | listingObjects tid known => exact goes (.same _) (.list tid known)
  | sweeping keys =>
    cases keys with
    | nil => exact ends (.same _)
    | cons key keys =>
      dsimp only [run]
      split
      · exact goes (.same _) (.swept key keys)
      · exact goes (.remove rfl) (.swept key keys)

theorem run_next (mem : later ∈ (job.run cfg s input).next) : job.Follows s later :=
  (job.run_does cfg s input).next later mem

theorem Writes.grows {t : ArtifactStore} (writes : job.Writes s t) :
    ArtifactStore.Grows job.buries s t := by
  cases writes with
  | same => exact .refl s
  | claim | fail => exact .update s _ _ fun _ _ => ⟨rfl, Or.inl rfl⟩
  | complete reason now buries =>
    rw [buries]
    exact .complete s _ reason now
  | _ => exact .of_eq rfl rfl

theorem Writes.jobs {t : ArtifactStore} (writes : job.Writes s t) :
    t.analysisJobs = s.analysisJobs ∧ t.nextJobID = s.nextJobID := by
  cases writes with
  | _ => exact ⟨rfl, rfl⟩

/-! ## Rounds -/

theorem wayOf_round (row : Artifact) (reason : String) (round : Round) :
    (wayOf row reason round).round = some round := by
  unfold wayOf
  split
  · rfl
  · split
    · rfl
    · rfl

theorem resume_round (rest : CleanRest) : (resume rest).round = restRound rest := by
  cases rest with
  | round | blobs => rfl

/-- A round goes on with fewer rows, or starts with what protects rows. -/
theorem Follows.round {round : Round} (follows : job.Follows s later)
    (part : later.round = some round) :
    (∃ skipped, job.round = some { round with rest := skipped ++ round.rest }) ∨
      ∃ rows active, job = .shielded rows active ∧
        round = { kind := .expired, rest := rows, active, pinned := s.pinnedTaskSet } := by
  have same (before : job.round = some round) :
      (∃ skipped, job.round = some { round with rest := skipped ++ round.rest }) ∨
        ∃ rows active, job = .shielded rows active ∧
          round = { kind := .expired, rest := rows, active, pinned := s.pinnedTaskSet } :=
    Or.inl ⟨[], before⟩
  cases follows with
  | start rows active =>
    cases part
    exact Or.inr ⟨rows, active, rfl, rfl⟩
  | @pass before row rest next =>
    cases part
    refine Or.inl ⟨[row], ?_⟩
    show some before = some { before with rest := row :: rest }
    rw [← next]
  | @take before row rest claims =>
    rw [wayOf_round] at part
    cases part
    refine Or.inl ⟨[row], ?_⟩
    show some before = some { before with rest := row :: rest }
    rw [← claims.next]
  | fail _ before =>
    cases part
    exact same before
  | failedBlob _ _ rest | droppedSymbols _ rest =>
    rw [resume_round] at part
    exact same part
  | removed | completed | shared | last | removedShared | dropped | stray | buried | held
      | removedStray
  | released | referenced | unreferenced | removedBlob | buriedBlob | droppedKernel =>
    exact same part
  | _ => cases part

theorem Follows.shielded {rows : List Artifact} {active : List Nat}
    (follows : job.Follows s (.shielded rows active)) :
    active = s.activeAnalysisJobInputIDs ∧ job = .candidates rows := by
  generalize later_eq : CleanJob.shielded rows active = later at follows
  cases follows with
  | shield =>
    cases later_eq
    exact ⟨rfl, rfl⟩
  | @take before row rest claims =>
    have part := wayOf_round row (reasonOf before row) { before with rest }
    rw [← later_eq] at part
    cases part
  | failedBlob _ _ rest | droppedSymbols _ rest =>
    cases rest with
    | round | blobs => cases later_eq
  | _ => cases later_eq

end CleanJob

end MiniDrop
