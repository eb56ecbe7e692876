import MiniDrop.Server.AnalysisQueue
/-!
# The cleaner of artifacts

A round of the cleaner reads the rows that may go, claims them one after the other, and takes each
claimed row through one of three ways of deletion: the object of its own, a blob that rows share, or
a shared file of kernel symbols. Between any two of its statements others may run. A row whose
object could not be deleted stays claimed and is tried again later.
-/
namespace MiniDrop

def deleteReasonExpired : String := "expired"

def deleteReasonStaleUploading : String := "stale_uploading"

def deleteReasonTaskDeleted : String := "task_deleted"

/-- Why a round was started. -/
inductive RoundKind where
  /-- `processExpiredCandidates`. -/
  | expired
  /-- `processDeletingRetries`. -/
  | retry
  /-- `taskDeletedArtifacts`; a request to delete the task also sweeps objects without a row. -/
  | taskDeleted (tid : String) (sweeps : Bool)
  deriving DecidableEq

/-- The rest of a round: the rows as they were read, and what protects rows. -/
structure Round where
  kind : RoundKind
  rest : List Artifact
  active : List Nat := []
  pinned : List String := []

/-- What follows the deletion of a blob. -/
inductive CleanRest where
  | round (round : Round)
  | blobs (blobs : List StorageBlob)

namespace ArtifactStore

variable (s : ArtifactStore)

/-! ## What a round reads -/

/-- The task of a row was deleted. -/
def taskDeleted (tid : String) : Bool := s.deletedTasks.any (·.tid = tid)

/-- Rows by `expires_at` and identifier; a row that does not expire comes last. -/
def expiryOrder (rows : List Artifact) : List Artifact :=
  Base.orderBy (fun row => toLex (row.expiresAt.isNone, toLex (row.expiresAt.getD 0, row.id))) rows

/-- `lifecycleCandidateIDs`, rows that have expired. -/
def expiredCandidates (now : Int) (limit : Nat) : List Artifact :=
  (expiryOrder (s.artifacts.filter fun row =>
    row.live && row.retentionNotBefore.all (· ≤ now) && !s.taskDeleted row.taskTID &&
      !s.pinned.contains row.taskTID &&
      (((row.status = .ready || row.status = .failed) && row.expiresAt.any (· ≤ now)) ||
        (row.status = .uploading && (s.statusOf row.taskTID).any isTerminalTaskStatus &&
          row.createdAt ≤ now - Time.hour)))).take limit

/-- `lifecycleCandidateIDs`, rows that are claimed. -/
def deletingCandidates (now : Int) (limit : Nat) : List Artifact :=
  (expiryOrder (s.artifacts.filter fun row =>
    row.live && row.status = .deleting && row.nextDeleteAttemptAt.all (· ≤ now))).take limit

/-- The rows of `taskDeletedArtifacts`. -/
def taskRows (tid : String) : List Artifact :=
  s.artifacts.filter fun row => row.taskTID = tid && row.live && row.status ≠ .deleting

/-- The blobs of `processBlobDeletingRetries`. -/
def deletingBlobs (now : Int) (limit : Nat) : List StorageBlob :=
  (Base.orderBy (·.id) (s.blobs.filter fun blob =>
    blob.status = .deleting && blob.deletedAt.isNone &&
      blob.nextDeleteAttemptAt.all (· ≤ now))).take limit

def activeAnalysisJobInputIDs : List Nat :=
  (s.analysisJobs.filter (·.status.inFlight)).flatMap (·.inputArtifactIDs)

def pinnedTaskSet : List String := s.pinned.filter fun tid => (s.findTask tid).isSome

/-! ## Statements -/

/-- The check of `claimArtifactForDeletion` on the row of the task. -/
def claimProtected (tid : String) : Bool :=
  tid ≠ "" && (s.taskDeleted tid || ((s.findTask tid).isSome && s.pinned.contains tid))

/-- The update of `claimArtifactForDeletion` takes place: the row is as it was read. -/
def claims (row : Artifact) : Bool :=
  s.artifacts.any fun found => found.id = row.id && found.status = row.status && found.live

/-- The update of `claimArtifactForDeletion`. -/
def claimArtifact (row : Artifact) : ArtifactStore :=
  s.updateArtifacts (fun found => found.id = row.id && found.status = row.status && found.live)
    fun found =>
      { found with status := .deleting, nextDeleteAttemptAt := none, lastDeleteError := "" }

def completeArtifactDeletion (id : Nat) (reason : String) (now : Int) : ArtifactStore :=
  s.updateArtifacts (fun found => found.id = id && found.status = .deleting) fun found =>
    { found with
      status := .deleted
      deletedAt := some now
      deleteReason := reason
      nextDeleteAttemptAt := none
      lastDeleteError := "" }

def failArtifactDeletion (row : Artifact) (error : String) (now : Int) : ArtifactStore :=
  s.updateArtifacts (fun found => found.id = row.id && found.status = .deleting) fun found =>
    { found with
      deleteAttempts := row.deleteAttempts + 1
      lastDeleteError := error
      nextDeleteAttemptAt := some (now + deleteBackoff (row.deleteAttempts + 1)) }

/-- The row of the blob, if it is ready and nothing refers to it. -/
def unreferencedBlob (id : Nat) : Option StorageBlob :=
  s.blobs.find? fun blob =>
    blob.id = id && blob.status = .ready && blob.deletedAt.isNone && s.countBlobRefs id = 0

/-- The update of `claimUnreferencedBlobDeletion`. -/
def claimBlob (id : Nat) : ArtifactStore :=
  s.updateBlobs (fun blob => blob.id = id && blob.status = .ready && blob.deletedAt.isNone)
    fun blob => { blob with status := .deleting, nextDeleteAttemptAt := none }

def tombstoneBlob (id : Nat) (reason : String) (now : Int) : ArtifactStore :=
  s.updateBlobs (fun blob => blob.id = id && blob.status = .deleting) fun blob =>
    { blob with
      status := .deleted
      deletedAt := some now
      deleteReason := if reason = "" then deleteReasonExpired else reason
      nextDeleteAttemptAt := none }

def failBlobDeletion (blob : StorageBlob) (now : Int) : ArtifactStore :=
  s.updateBlobs (fun found => found.id = blob.id && found.status = .deleting) fun found =>
    { found with
      deleteAttempts := blob.deleteAttempts + 1
      nextDeleteAttemptAt := some (now + deleteBackoff (blob.deleteAttempts + 1)) }

/-- A blob that has references again is ready again. -/
def restoreBlob (id : Nat) : ArtifactStore :=
  s.updateBlobs (fun blob => blob.id = id && blob.status = .deleting)
    fun blob => { blob with status := .ready, deleteAttempts := 0 }

/-- The delete of `kernel_symbol_files` by key. -/
def dropKernelKey (key : String) : ArtifactStore :=
  { s with kernelFiles := s.kernelFiles.filter (·.objectKey ≠ key) }

/-- The delete of `kernel_symbol_files` by blob. -/
def dropKernelBlob (id : Nat) : ArtifactStore :=
  { s with kernelFiles := s.kernelFiles.filter (·.blobID ≠ some id) }

/-- The delete of `symbol_files` by blob. -/
def dropSymbolBlob (id : Nat) : ArtifactStore :=
  { s with symbolFiles := s.symbolFiles.filter (·.blobID ≠ some id) }

/-- The other rows with the key of a row: the count of `processClaimedKernelSymbolDeletion`. -/
def otherRefs (row : Artifact) : Nat :=
  s.artifacts.countP fun found => found.objectKey = row.objectKey && found.id ≠ row.id && found.live

end ArtifactStore

/-! ## Jobs -/

/-- What is left of a round. -/
inductive CleanJob where
  /-- The rows that have expired were read. -/
  | candidates (rows : List Artifact)
  /-- So were the inputs of the jobs in flight. -/
  | shielded (rows : List Artifact) (active : List Nat)
  /-- The next row is claimed. -/
  | claiming (round : Round)
  /-- `processClaimedDeletion`, the object of the row. -/
  | removing (row : Artifact) (reason : String) (round : Round)
  | completing (row : Artifact) (reason : String) (round : Round)
  /-- `processClaimedKernelSymbolDeletion`. -/
  | counting (row : Artifact) (reason : String) (round : Round)
  | removingShared (row : Artifact) (reason : String) (round : Round)
  | droppingKey (row : Artifact) (reason : String) (round : Round)
  /-- `processClaimedBlobDeletion`. -/
  | readingBlob (row : Artifact) (blobID : Nat) (reason : String) (round : Round)
  | removingStray (row : Artifact) (reason : String) (round : Round)
  | releasing (row : Artifact) (blobID : Nat) (reason : String) (round : Round)
  | claimingBlob (blobID : Nat) (reason : String) (round : Round)
  | removingBlob (blob : StorageBlob) (reason : String) (rest : CleanRest)
  | buryingBlob (blob : StorageBlob) (reason : String) (rest : CleanRest)
  | droppingKernel (blobID : Nat) (rest : CleanRest)
  | droppingSymbols (blobID : Nat) (rest : CleanRest)
  /-- `processBlobDeletingRetries`. -/
  | retrying (blobs : List StorageBlob)
  | restoring (blobID : Nat) (blobs : List StorageBlob)
  /-- `cleanupTaskArtifacts`, the objects without a row. -/
  | knowing (tid : String)
  | listingObjects (tid : String) (known : List String)
  | sweeping (keys : List String)

/-- What one step leaves; nobody is answered. -/
abbrev CleanOutcome := Base.Outcome ArtifactStore CleanJob Empty

namespace CleanJob

/-- After a blob. -/
def resume : CleanRest → CleanJob
  | .round round => .claiming round
  | .blobs blobs => .retrying blobs

/-- The reason that is recorded for a row. -/
def reasonOf (round : Round) (row : Artifact) : String :=
  match round.kind with
  | .expired => if row.status = .uploading then deleteReasonStaleUploading else deleteReasonExpired
  | .retry => if row.deleteReason = "" then deleteReasonExpired else row.deleteReason
  | .taskDeleted _ _ => deleteReasonTaskDeleted

/-- `processClaimedDeletion`: the way in which a row is deleted. -/
def wayOf (row : Artifact) (reason : String) (round : Round) : CleanJob :=
  match row.blobID with
  | some (id + 1) => .readingBlob row (id + 1) reason round
  | _ =>
    if isKernelSymbolObjectKey row.objectKey then .counting row reason round
    else .removing row reason round

/-- The end of a round. -/
def finish (cfg : NotifyConfig) (kind : RoundKind) : List CleanJob :=
  match kind with
  | .taskDeleted tid true => if cfg.connected then [.knowing tid] else []
  | _ => []

/-- The next row of a round. -/
def claimNext (s : ArtifactStore) (round : Round) (row : Artifact) (rest : List Artifact) :
    CleanOutcome :=
  let later := { round with rest }
  if round.pinned.contains row.taskTID || round.active.contains row.id then
    { store := s, next := [.claiming later] }
  else if round.kind = .expired ∧ s.claimProtected row.taskTID = true then
    { store := s, next := [.claiming later] }
  else if s.claims row then
    { store := s.claimArtifact row, next := [wayOf row (reasonOf round row) later] }
  else { store := s, next := [.claiming later] }

/-- A delete of the object of a row, and what follows it. -/
def removeObject (cfg : NotifyConfig) (s : ArtifactStore) (row : Artifact) (round : Round)
    (next : CleanJob) (input : WorkInput) : CleanOutcome :=
  if cfg.connected = false ∨ input.fails = true then
    { store := s.failArtifactDeletion row
        (if cfg.connected then "delete failed" else "object storage is disconnected") input.now
      next := [.claiming round] }
  else { store := s.deleteObject row.objectKey, next := [next] }

/-- One step. -/
def run (cfg : NotifyConfig) (s : ArtifactStore) (job : CleanJob) (input : WorkInput) :
    CleanOutcome :=
  match job with
  | .candidates rows => { store := s, next := [.shielded rows s.activeAnalysisJobInputIDs] }
  | .shielded rows active =>
    { store := s,
      next := [.claiming { kind := .expired, rest := rows, active, pinned := s.pinnedTaskSet }] }
  | .claiming round =>
    match round.rest with
    | [] => { store := s, next := finish cfg round.kind }
    | row :: rest => claimNext s round row rest
  | .removing row reason round => removeObject cfg s row round (.completing row reason round) input
  | .completing row reason round =>
    { store := s.completeArtifactDeletion row.id reason input.now, next := [.claiming round] }
  | .counting row reason round =>
    if 0 < s.otherRefs row then { store := s, next := [.completing row reason round] }
    else { store := s, next := [.removingShared row reason round] }
  | .removingShared row reason round =>
    removeObject cfg s row round (.droppingKey row reason round) input
  | .droppingKey row reason round =>
    { store := s.dropKernelKey row.objectKey, next := [.completing row reason round] }
  | .readingBlob row blobID reason round =>
    match s.findBlob blobID with
    | none => { store := s, next := [.removingStray row reason round] }
    | some blob =>
      if blob.deletedAt.isSome || blob.status = .deleted then
        { store := s, next := [.completing row reason round] }
      else { store := s, next := [.releasing row blobID reason round] }
  | .removingStray row reason round =>
    if cfg.connected then removeObject cfg s row round (.completing row reason round) input
    else { store := s, next := [.completing row reason round] }
  | .releasing row blobID reason round =>
    { store := s.completeArtifactDeletion row.id reason input.now
      next := [.claimingBlob blobID reason round] }
  | .claimingBlob blobID reason round =>
    match s.unreferencedBlob blobID with
    | none => { store := s, next := [.claiming round] }
    | some blob =>
      { store := s.claimBlob blobID, next := [.removingBlob blob reason (.round round)] }
  | .removingBlob blob reason rest =>
    if cfg.connected = false ∨ input.fails = true then
      { store := s.failBlobDeletion blob input.now, next := [resume rest] }
    else { store := s.deleteObject blob.objectKey, next := [.buryingBlob blob reason rest] }
  | .buryingBlob blob reason rest =>
    { store := s.tombstoneBlob blob.id reason input.now, next := [.droppingKernel blob.id rest] }
  | .droppingKernel blobID rest =>
    { store := s.dropKernelBlob blobID, next := [.droppingSymbols blobID rest] }
  | .droppingSymbols blobID rest => { store := s.dropSymbolBlob blobID, next := [resume rest] }
  | .retrying [] => { store := s }
  | .retrying (blob :: blobs) =>
    if 0 < s.countBlobRefs blob.id then { store := s, next := [.restoring blob.id blobs] }
    else { store := s, next := [.removingBlob blob blob.deleteReason (.blobs blobs)] }
  | .restoring blobID blobs => { store := s.restoreBlob blobID, next := [.retrying blobs] }
  | .knowing tid =>
    { store := s
      next := [.listingObjects tid ((s.artifacts.filter (·.taskTID = tid)).map (·.objectKey))] }
  | .listingObjects tid known =>
    { store := s
      next := [.sweeping (((s.listObjects tid).map (·.1)).filter fun key =>
        key ≠ "" && !known.contains key && !isKernelSymbolObjectKey key)] }
  | .sweeping [] => { store := s }
  | .sweeping (key :: keys) =>
    { store := if input.fails then s else s.deleteObject key, next := [.sweeping keys] }

end CleanJob

end MiniDrop
