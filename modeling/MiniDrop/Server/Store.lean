import MiniDrop.Base.Keyed
import MiniDrop.Server.RawHour
/-!
# The shared store

All workers act on one database and one object store. A minute object holds the payload of one
batch; a v1 block object holds the payloads of the batches compacted into it; the parts of a parquet
block hold its rows. Object keys tell the two v1 formats apart when an object is read back.
-/
namespace MiniDrop

/-- `continuous_sessions`, with the columns ingest and retention read. -/
structure ContinuousSession where
  (sid agentID targetIP : String := "")
  /-- The requested signals, as stored. -/
  signals : List String := []
  retentionHours : Nat := 24
  deriving DecidableEq

/-- `continuousBlockBatch`: one member of a v1 block object. -/
structure ContinuousBlockBatch where
  batchID : String := ""
  (startTime endTime : Int := Time.zero)
  payload : ContinuousStoredBatch := {}
  deriving DecidableEq

/-- The decoded contents of an object. -/
inductive ObjectContent where
  | minute (batch : ContinuousStoredBatch)
  | block (batches : List ContinuousBlockBatch)
  deriving DecidableEq

/-- An object with its modification time. -/
structure StoredObject where
  content : ObjectContent
  lastModified : Int
  deriving DecidableEq

/-- The status column of a v1 block. -/
inductive ProfileBlockStatus where
  | active
  | superseded
  | deleting
  deriving DecidableEq

/-- `continuous_profile_blocks`: one v1 block of a session and bucket. -/
structure ContinuousProfileBlock where
  (blockID sessionSID : String := "")
  (bucketStart bucketEnd : Int := Time.zero)
  objectKey : String := ""
  version : Nat := 1
  status : ProfileBlockStatus := .active
  supersededAt : Option Int := none
  replacedBy : String := ""
  deriving DecidableEq

/-- The status column of a parquet block. -/
inductive ParquetBlockStatus where
  | building
  | validating
  | active
  | failed
  | superseded
  | deleting
  | deleted
  deriving DecidableEq

/-- `continuous_parquet_blocks` at raw resolution, with the contents of its parts. -/
structure ContinuousParquetBlock where
  (blockID tenant : String := "")
  (bucketStart bucketEnd : Int := Time.zero)
  signalType : LedgerSignal := .cpu
  version : Nat := 1
  status : ParquetBlockStatus := .building
  /-- `validation = passed` and `reconcile_status = passed`. -/
  validated : Bool := false
  /-- The rows in the part files. -/
  rows : PqSignalRows := {}
  supersededAt : Option Int := none
  replacedBy : String := ""
  createdAt : Int := Time.zero
  deriving DecidableEq

/-- The database and the object store. -/
structure Store where
  sessions : List ContinuousSession := []
  batches : List ProfileBatch := []
  windows : List ProfileWindow := []
  profileBlocks : List ContinuousProfileBlock := []
  parquetBlocks : List ContinuousParquetBlock := []
  members : List ContinuousParquetBlockMember := []
  receipts : List ContinuousMigrationReceipt := []
  segments : List ContinuousCoverageSegment := []
  failures : List ContinuousMigrationFailure := []
  /-- The objects by key. -/
  objects : List (String × StoredObject) := []
  /-- The next primary key. -/
  nextID : Nat := 1
  deriving DecidableEq

namespace Store

variable (s : Store) {other key : String}

def getObject (key : String) : Option StoredObject := s.objects.lookup key

/-- The object exists. -/
def hasObject (key : String) : Bool := (s.getObject key).isSome

/-- `PutObject`: replaces an object of the same key. -/
def putObject (key : String) (object : StoredObject) : Store :=
  { s with objects := (key, object) :: s.objects.filter fun entry => entry.1 ≠ key }

/-- `DeleteObject`: deleting a missing object succeeds. -/
def deleteObject (key : String) : Store :=
  { s with objects := s.objects.filter fun entry => entry.1 ≠ key }

/-- The object just put. -/
@[simp] theorem getObject_putObject (key : String) (object : StoredObject) :
    (s.putObject key object).getObject key = some object := by
  simp [getObject, putObject]

/-- The other objects after a put. -/
theorem getObject_putObject_ne (object : StoredObject)
    (different : other ≠ key) : (s.putObject key object).getObject other = s.getObject other :=
  Base.lookup_place_of_ne different

/-- The deleted object. -/
@[simp] theorem getObject_deleteObject (key : String) :
    (s.deleteObject key).getObject key = none := Base.lookup_release_self

/-- The other objects after a deletion. -/
theorem getObject_deleteObject_ne (different : other ≠ key) :
    (s.deleteObject key).getObject other = s.getObject other :=
  Base.lookup_release_of_ne different

end Store

/-- `continuousBlockPrefix`. -/
def continuousBlockFolder : String := "continuous-blocks/"

def looksLikeContinuousBlockKey (objectKey : String) : Bool :=
  hasPrefix objectKey continuousBlockFolder ||
    ".json.gz".toList.isSuffixOf (toLower objectKey).toList

def continuousBatchObjectKey (sessionSID batchID : String) : String :=
  "continuous/" ++ sessionSID ++ "/" ++ batchID ++ ".json"

/-- `loadContinuousBatches`: the batches of an object, decoded by the form of its key. -/
def Store.loadContinuousBatches (s : Store) (objectKey : String) :
    Option (List ContinuousStoredBatch) :=
  match s.getObject objectKey with
  | none => none
  | some object =>
    match looksLikeContinuousBlockKey objectKey, object.content with
    | true, .block batches => some (batches.map (·.payload))
    | false, .minute batch => some [batch]
    | _, _ => none

end MiniDrop
