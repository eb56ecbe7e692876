import Mathlib.Data.Prod.Lex
import MiniDrop.Base.Spans
import MiniDrop.Server.Store
/-!
# Migration receipts and the fine-row clean-up

A registered raw block leaves one receipt for each source batch. The clean-up workers read the
receipts to decide that a batch is no longer needed: the staging reclaim asks for one receipt per
signal, the fine-row clean-up also for receipts that cover every window row of the batch.
-/
namespace MiniDrop

open Base

/-- The receipt of one member of a raw block. -/
def receiptOf (tenant : String) (signal : LedgerSignal) (blockID : String)
    (bucketStart bucketEnd : Int) (member : ContinuousParquetBlockMember) :
    ContinuousMigrationReceipt where
  tenant := tenant
  sourceKind := member.sourceKind
  sourceRef := member.sourceRef
  sessionSID := member.sessionSID
  signalType := signal
  blockID := blockID
  bucketStart := bucketStart
  bucketEnd := bucketEnd
  startTime := member.startTime
  endTime := member.endTime
  sampleCount := member.sampleCount
  valueTotal := member.valueTotal
  rowCount := member.rowCount

/-- Insert, or replace the receipt of the same source and block. -/
def upsertReceipt (receipts : List ContinuousMigrationReceipt)
    (receipt : ContinuousMigrationReceipt) : List ContinuousMigrationReceipt :=
  let same := fun old : ContinuousMigrationReceipt => decide
    (old.sourceKind = receipt.sourceKind ∧ old.sourceRef = receipt.sourceRef ∧
      old.blockID = receipt.blockID)
  if receipts.any same then receipts.map fun old => if same old then receipt else old
  else receipts ++ [receipt]

/-- `pqPersistMigrationReceiptsTx`: members that are not named batches leave no receipt. -/
def pqPersistMigrationReceiptsTx (tenant : String) (signal : LedgerSignal) (blockID : String)
    (bucketStart bucketEnd : Int) (members : List ContinuousParquetBlockMember)
    (receipts : List ContinuousMigrationReceipt) : List ContinuousMigrationReceipt :=
  ((members.filter fun member => member.sourceKind = "batch" && member.sourceRef ≠ "").map
    (receiptOf tenant signal blockID bucketStart bucketEnd)).foldl upsertReceipt receipts

/-- `pqPassedMigrationReceipts`, by start and end. -/
def Store.pqPassedMigrationReceipts (s : Store) (batchID : String) (signal : LedgerSignal) :
    List ContinuousMigrationReceipt :=
  orderBy (fun receipt => toLex (receipt.startTime, receipt.endTime))
    (s.receipts.filter fun receipt => decide (receipt.sourceKind = "batch") &&
      decide (receipt.sourceRef = batchID) && decide (receipt.signalType = signal) &&
      decide (receipt.status = .passed))

/-- `pqReceiptsCoverRange`: a cursor runs over the receipts in order; an empty range is covered. -/
def pqReceiptsCoverRange (receipts : List ContinuousMigrationReceipt) (start stop : Int) : Bool :=
  if start < stop then
    sweep (·.startTime) (·.endTime) stop start
      (orderBy (fun receipt => toLex (receipt.startTime, receipt.endTime)) receipts)
  else true

namespace Store

variable (s : Store)

/-- The window rows of a batch. -/
def windowsOf (bid : String) : List ProfileWindow :=
  s.windows.filter fun window => window.batchBID = bid

/-- A batch without window rows: any passed receipt, or a quarantined window of its object. -/
def unreferencedEvidence (batch : ProfileBatch) : Bool :=
  (s.receipts.any fun receipt => decide (receipt.sourceKind = "batch") &&
      decide (receipt.sourceRef = batch.bid) && decide (receipt.status = .passed)) ||
    (decide (batch.objectKey ≠ "") && s.failures.any fun failure =>
      decide (failure.sourceKind = "window") && decide (failure.objectKey = batch.objectKey) &&
        decide (failure.status = .quarantined))

/-- `pqBatchCoveredByValidatedRaw`: one passed receipt for each ledger signal of the window rows.
Signals outside the ledger are not asked for. -/
def pqBatchCoveredByValidatedRaw (batch : ProfileBatch) : Bool :=
  if batch.bid = "" then false
  else
    let signalTypes := distinct ((s.windowsOf batch.bid).map (·.signalType))
    if signalTypes = [] then s.unreferencedEvidence batch
    else (distinct (signalTypes.filterMap pqLedgerSignalForWindow)).all fun signal =>
      !(s.pqPassedMigrationReceipts batch.bid signal).isEmpty

/-- The window row lies in the receipts of its signal; a signal outside the ledger is skipped. -/
def windowReconciled (bid : String) (window : ProfileWindow) : Bool :=
  match pqLedgerSignalForWindow window.signalType with
  | none => true
  | some signal => pqReceiptsCoverRange (s.pqPassedMigrationReceipts bid signal)
      window.windowStart window.windowEnd

def pqBatchCoverageReconciled (batch : ProfileBatch) : Bool :=
  (s.windowsOf batch.bid).all (s.windowReconciled batch.bid)

def pqHasUnresolvedMigrationFailures (sourceKind sourceRef : String) : Bool :=
  decide (sourceRef ≠ "") && s.failures.any fun failure =>
    decide (failure.sourceKind = sourceKind) && decide (failure.sourceRef = sourceRef) &&
      failure.unresolved

end Store

/-- Why the fine-row clean-up keeps a batch. -/
inductive FineGCBlock where
  | invalidBatch
  | hotRetention
  | migrationFailure
  | noValidatedRawLineage
  | receiptIntervalMismatch

/-- `pqFineGCCandidateBlockReason`; no reason when the batch may be removed. -/
def Store.pqFineGCCandidateBlockReason (s : Store) (batch : ProfileBatch) (cutoff : Int) :
    Option FineGCBlock :=
  if batch.bid = "" then some .invalidBatch
  else if cutoff < batch.createdAt then some .hotRetention
  else if s.pqHasUnresolvedMigrationFailures "batch" batch.bid then some .migrationFailure
  else if !s.pqBatchCoveredByValidatedRaw batch then some .noValidatedRawLineage
  else if !s.pqBatchCoverageReconciled batch then some .receiptIntervalMismatch
  else none

/-- The metadata of the batches with the given identifiers, window rows first. -/
def Store.removeBatches (s : Store) (bids : List String) : Store :=
  { s with
    windows := s.windows.filter fun window => decide (window.batchBID ∉ bids)
    batches := s.batches.filter fun batch => decide (batch.bid ∉ bids) }

/-- The failure row of an object that could not be deleted. -/
def objectDeleteFailure (bid sessionSID objectKey : String) : ContinuousMigrationFailure where
  sourceKind := "batch"
  sourceRef := bid
  sessionSID := sessionSID
  objectKey := objectKey
  errorType := "object_delete"

/-- The deletion of a source object after its metadata is gone; a failure is registered. -/
def Store.deleteSource (s : Store) (works : Bool) (bid sessionSID objectKey : String) : Store :=
  if works then s.deleteObject objectKey
  else { s with failures :=
    recordContinuousMigrationFailure s.failures (objectDeleteFailure bid sessionSID objectKey) }

section DeleteSource

variable (s : Store) (works : Bool) (bid sessionSID objectKey : String)

/-- Deleting a source object keeps the batch rows. -/
@[simp] theorem deleteSource_batches :
    (s.deleteSource works bid sessionSID objectKey).batches = s.batches := by
  unfold Store.deleteSource
  split <;> rfl

/-- Deleting a source object keeps the window rows. -/
@[simp] theorem deleteSource_windows :
    (s.deleteSource works bid sessionSID objectKey).windows = s.windows := by
  unfold Store.deleteSource
  split <;> rfl

/-- Deleting a source object keeps the receipts. -/
@[simp] theorem deleteSource_receipts :
    (s.deleteSource works bid sessionSID objectKey).receipts = s.receipts := by
  unfold Store.deleteSource
  split <;> rfl

/-- The objects after the deletion of a source object. -/
theorem getObject_deleteSource (key : String) :
    (s.deleteSource works bid sessionSID objectKey).getObject key =
      if key = objectKey ∧ works = true then none else s.getObject key := by
  unfold Store.deleteSource
  by_cases done : works = true
  · rw [if_pos done]
    by_cases same : key = objectKey
    · rw [if_pos ⟨same, done⟩, same, Store.getObject_deleteObject]
    · rw [if_neg fun both => same both.1, Store.getObject_deleteObject_ne s same]
  · rw [if_neg done, if_neg fun both => done both.2]
    rfl

end DeleteSource

end MiniDrop
