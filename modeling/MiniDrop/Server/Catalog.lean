import MiniDrop.Server.Signals
/-!
# Catalog rows

The database rows the continuous-profiling workers share, with the columns their queries and
updates use, and the row-level predicates of the parquet migration.
-/
namespace MiniDrop

/-- `profile_batches`: one uploaded batch. -/
structure ProfileBatch where
  id : Nat := 0
  (bid sessionSID : String := "")
  /-- The minute object, or the block object once the batch is compacted. -/
  objectKey : String := ""
  (startTime endTime : Int := Time.zero)
  contentSHA256 : String := ""
  /-- The v1 block the batch was compacted into; empty while it has its own object. -/
  blockID : String := ""
  /-- The minute object left behind by a compaction, until it is deleted. -/
  sourceObjectKey : String := ""
  /-- When the batch was first compacted. -/
  compactedAt : Option Int := none
  createdAt : Int := Time.zero
  deriving DecidableEq

/-- `profile_windows`: one row per logical window and signal. -/
structure ProfileWindow where
  id : Nat := 0
  (sessionSID batchBID : String := "")
  (windowStart windowEnd : Int := Time.zero)
  objectKey : String := ""
  sampleCount : Nat := 0
  (signalType windowID contentSHA256 backend : String := "")
  /-- The window's labels, as the JSON column decodes. -/
  labels : Labels := []
  signalStatus : String := ""
  createdAt : Int := Time.zero
  deriving DecidableEq

/-- `pqWindowRequiresDataLineage`: rows that report no data need none in a raw block. -/
def pqWindowRequiresDataLineage (window : ProfileWindow) : Bool :=
  if window.sampleCount > 0 then true
  else !(lowerTrim window.signalStatus ∈ ["target_idle", "no_events", "unavailable", "failed"])

/-- `continuous_parquet_block_members`: one source batch of a raw block. -/
structure ContinuousParquetBlockMember where
  blockID : String := ""
  sourceKind : String := "batch"
  (sourceRef sessionSID : String := "")
  (startTime endTime : Int := Time.zero)
  (sampleCount valueTotal rowCount : Nat := 0)
  deriving DecidableEq

/-- The status column of a migration receipt. -/
inductive ReceiptStatus where
  | passed
  | revoked
  deriving DecidableEq

/-- `continuous_migration_receipts`: proof that a batch's signal reached a raw block. -/
structure ContinuousMigrationReceipt where
  tenant : String := ""
  sourceKind : String := "batch"
  (sourceRef sessionSID : String := "")
  signalType : LedgerSignal := .cpu
  blockID : String := ""
  (bucketStart bucketEnd startTime endTime : Int := Time.zero)
  (sampleCount valueTotal rowCount : Nat := 0)
  status : ReceiptStatus := .passed
  deriving DecidableEq

/-- `continuous_coverage_segments`: one covered stretch of the timeline. -/
structure ContinuousCoverageSegment where
  (tenant sessionSID signalType : String := "")
  (segmentStart segmentEnd : Int := Time.zero)
  sampleCount : Nat := 0
  sourceBlock : String := ""
  sourceVersion : Nat := 1
  deriving DecidableEq

/-- The status column of a migration failure. -/
inductive FailureStatus where
  | retrying
  | quarantined
  | resolved
  | purged
  deriving DecidableEq

/-- `continuous_migration_failures`: a source that could not be read or deleted. -/
structure ContinuousMigrationFailure where
  (sourceKind sourceRef sessionSID objectKey errorType : String := "")
  status : FailureStatus := .retrying
  deriving DecidableEq

/-- A failure that a build or a clean-up still has to respect. -/
def ContinuousMigrationFailure.unresolved (failure : ContinuousMigrationFailure) : Bool :=
  failure.status = .retrying || failure.status = .quarantined

/-- `"window-" + FormatUint(row.ID)`, the name a window row has in the failure table. -/
def windowRef (id : Nat) : String := "window-" ++ toString id

end MiniDrop
