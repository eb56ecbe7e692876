import MiniDrop.Server.Receipts
/-!
# Reclaiming what the raw blocks have taken over

Once raw blocks answer all queries, passes delete what they replaced: `pqReclaimStaging` the batches
that still have a minute object, `pqReclaimV1Blocks` the v1 blocks past the rollback window,
`pqRunFineRowGC` old rows.
Metadata goes first, in a transaction; the object follows, and its deletion may fail.
-/
namespace MiniDrop

open Base

/-- The settings the two passes read; zero stands for the default. -/
structure ReclaimConfig where
  /-- `pqModeOf() == "enforce"`. -/
  enforce : Bool := true
  (stagingMinutesRetention v1RollbackWindowHours v1DeleteBatch : Int := 0)

/-- The circumstances of a pass: the clock, the settings, and which object deletions succeed. -/
structure ReclaimContext where
  now : Int
  config : ReclaimConfig := {}
  deleteWorks : String → Bool := fun _ => true

/-- The creation time before which a batch may be reclaimed. -/
def ReclaimContext.stagingCutoff (ctx : ReclaimContext) : Int :=
  let minutes := ctx.config.stagingMinutesRetention
  ctx.now - (if minutes ≤ 0 then 120 else minutes) * Time.minute

/-- The bucket end before which a v1 block may be reclaimed. -/
def ReclaimContext.rollbackCutoff (ctx : ReclaimContext) : Int :=
  let hours := ctx.config.v1RollbackWindowHours
  ctx.now - (if hours ≤ 0 then 24 else hours) * Time.hour

section Staging

variable (s : Store) (cutoff : Int)

/-- The uncompacted batches past the retention, oldest first. -/
def Store.stagingCandidates : List ProfileBatch :=
  (orderBy (·.createdAt) (s.batches.filter fun batch =>
    decide (batch.blockID = "") && decide (batch.createdAt < cutoff))).take 200

/-- The uncompacted batches of an object. -/
def Store.stagingRefs (objectKey : String) : List ProfileBatch :=
  s.batches.filter fun batch =>
    decide (batch.objectKey = objectKey) && decide (batch.blockID = "")

/-- All batches of the object are old enough and have a receipt for each of their signals. -/
def Store.stagingAdmits (objectKey : String) : Bool :=
  !(s.stagingRefs objectKey).isEmpty && (s.stagingRefs objectKey).all fun ref =>
    decide (ref.createdAt < cutoff) && s.pqBatchCoveredByValidatedRaw ref

/-- The transaction on the batches of one object. -/
def Store.removeRefs (refs : List ProfileBatch) : Store :=
  { s with
    windows := s.windows.filter fun window => decide (window.batchBID ∉ refs.map (·.bid))
    batches := s.batches.filter fun batch => decide (batch.id ∉ refs.map (·.id)) }

/-- One candidate: its object's batches, then the object. -/
def reclaimObject (works : String → Bool) (s : Store) (batch : ProfileBatch) : Store :=
  if s.stagingAdmits cutoff batch.objectKey then
    let refs := s.stagingRefs batch.objectKey
    (s.removeRefs refs).deleteSource (works batch.objectKey) ((refs.map (·.bid)).headD "")
      batch.sessionSID batch.objectKey
  else s

/-- The candidate loop; each object is looked at once. -/
def reclaimCandidates (works : String → Bool) : List String → Store → List ProfileBatch → Store
  | _, s, [] => s
  | seen, s, batch :: rest =>
    if batch.objectKey = "" ∨ batch.objectKey ∈ seen then reclaimCandidates works seen s rest
    else reclaimCandidates works (batch.objectKey :: seen) (reclaimObject cutoff works s batch) rest

end Staging

def pqReclaimStaging (ctx : ReclaimContext) (s : Store) : Store :=
  if ctx.config.enforce then
    reclaimCandidates ctx.stagingCutoff ctx.deleteWorks [] s
      (s.stagingCandidates ctx.stagingCutoff)
  else s

/-- An active v1 block with the given identifier. -/
def activeProfileBlock (blockID : String) (block : ContinuousProfileBlock) : Bool :=
  decide (block.blockID = blockID) && decide (block.status = .active)

/-- The transaction of `deleteContinuousBlock`: the removed batches go with their window rows (the
foreign key cascades), and the block must still be active to become `deleting`. -/
def Store.markDeleting (s : Store) (blockID : String) (removedBIDs : List String) : Option Store :=
  let s := s.removeBatches removedBIDs
  if (s.profileBlocks.filter (activeProfileBlock blockID)).length = 1 then
    some { s with profileBlocks := s.profileBlocks.map fun block =>
      if activeProfileBlock blockID block then { block with status := .deleting } else block }
  else none

/-- The end of `deleteContinuousBlockObjectAndRow`: the row of a deleted object. -/
def Store.dropDeletingBlock (s : Store) (blockID : String) : Store :=
  { s with profileBlocks := s.profileBlocks.filter fun block =>
      !(decide (block.blockID = blockID) && decide (block.status = .deleting)) }

def deleteContinuousBlock (works : String → Bool) (s : Store) (block : ContinuousProfileBlock)
    (removedBIDs : List String) : Store :=
  match s.markDeleting block.blockID removedBIDs with
  | none => s
  | some marked =>
    if works block.objectKey then
      (marked.deleteObject block.objectKey).dropDeletingBlock block.blockID
    else marked

def Store.pqV1BlockCoveredByValidatedRaw (s : Store) (blockID : String) : Bool :=
  decide (blockID ≠ "") && (s.batches.filter fun batch => batch.blockID = blockID).all
    fun batch => s.pqBatchCoveredByValidatedRaw batch

/-- The active v1 blocks past the rollback window, oldest first. -/
def Store.v1Candidates (s : Store) (cutoff : Int) (limit : Nat) : List ContinuousProfileBlock :=
  (orderBy (·.bucketStart) (s.profileBlocks.filter fun block =>
    decide (block.status = .active) && decide (block.bucketEnd < cutoff))).take limit

/-- One v1 block of the pass. Its batches keep their rows. -/
def reclaimV1Block (works : String → Bool) (s : Store) (block : ContinuousProfileBlock) : Store :=
  if s.pqV1BlockCoveredByValidatedRaw block.blockID then deleteContinuousBlock works s block []
  else s

/-- How many v1 blocks one pass looks at. -/
def ReclaimContext.v1Limit (ctx : ReclaimContext) : Nat :=
  if ctx.config.v1DeleteBatch ≤ 0 then 200 else ctx.config.v1DeleteBatch.toNat

def pqReclaimV1Blocks (ctx : ReclaimContext) (s : Store) : Store :=
  (s.v1Candidates ctx.rollbackCutoff ctx.v1Limit).foldl (reclaimV1Block ctx.deleteWorks) s

/-- The settings of the fine-row clean-up; a number below one stands for the default. -/
structure FineGCContext where
  now : Int
  (hotMetadataRetentionMinutes fineRowGCBatch : Int := 0)
  (enforced connected : Bool := true)
  (claimed deleteWorks : String → Bool := fun _ => true)

variable (ctx : FineGCContext) (s : Store)

def FineGCContext.cutoff : Int :=
  let minutes := ctx.hotMetadataRetentionMinutes
  ctx.now - (if minutes ≤ 0 then 120 else minutes) * Time.minute

/-- A row held by another is skipped; only an uncompacted batch takes its object along. -/
def Store.pqFineGCRemoveBatch (batch : ProfileBatch) : Store :=
  match s.batches.find? fun row => row.bid = batch.bid && ctx.claimed row.bid with
  | none => s
  | some locked =>
    let rest := s.removeBatches [locked.bid]
    if locked.blockID = "" ∧ locked.objectKey ≠ "" ∧ ctx.connected then
      rest.deleteSource (ctx.deleteWorks locked.objectKey) locked.bid locked.sessionSID
        locked.objectKey
    else rest

def fineGCCandidate (batch : ProfileBatch) : Store :=
  if (s.pqFineGCCandidateBlockReason batch ctx.cutoff).isNone && ctx.enforced then
    s.pqFineGCRemoveBatch ctx batch
  else s

def pqRunFineRowGC : Store :=
  ((orderBy (·.createdAt) (s.batches.filter (·.createdAt < ctx.cutoff))).take
    (if ctx.fineRowGCBatch ≤ 0 then 1000 else ctx.fineRowGCBatch.toNat)).foldl
    (fineGCCandidate ctx) s

def Store.pqCountOrphanWindows : Nat := s.windows.countP (·.batchBID ∉ s.batches.map (·.bid))

end MiniDrop
