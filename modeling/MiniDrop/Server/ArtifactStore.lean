import MiniDrop.Base.Keyed
import MiniDrop.Server.NotifyKeys
/-!
# Artifacts, blobs and objects

The rows that say which objects a task has, the jobs that analyse them, the physical blobs that rows
of several tables share, the two ledgers of symbol files, the queue of old objects to delete, and
the objects themselves, with the statements that read and write them. A deleted artifact keeps its
row, so that its key cannot come back. A task that was deleted is out of reach of every statement
that does not ask for it. Times are milliseconds.
-/
namespace MiniDrop

/-! ## Rows -/

/-- `ArtifactKindRaw` and the others. -/
inductive ArtifactKind where
  | raw
  | intermediate
  | result
  | log
  | manifest
  deriving DecidableEq

/-- `ArtifactStatusUploading` and the others. -/
inductive ArtifactStatus where
  | uploading
  | ready
  | failed
  | deleting
  | deleted
  deriving DecidableEq

/-- `model.Artifact`: the columns that are read again. -/
structure Artifact where
  id : Nat := 0
  taskTID : String
  attemptID : Nat := 0
  kind : ArtifactKind
  objectKey : String
  size : Int := 0
  (sha256 manifestKey : String := "")
  status : ArtifactStatus := .ready
  blobID : Option Nat := none
  (expiresAt retentionNotBefore : Option Int := none)
  deleteReason : String := ""
  deleteAttempts : Nat := 0
  lastDeleteError : String := ""
  (nextDeleteAttemptAt deletedAt : Option Int := none)
  createdAt : Int := 0

/-- `AnalysisJobTriggerInitial` and the other one. -/
inductive AnalysisTrigger where
  | initial
  | manual
  deriving DecidableEq

/-- `AnalysisJobStatusPending` and the others. -/
inductive AnalysisStatus where
  | pending
  | running
  | success
  | failed
  | retry
  deriving DecidableEq

/-- A job in this status is in flight. -/
def AnalysisStatus.inFlight : AnalysisStatus → Bool
  | .pending | .running | .retry => true
  | .success | .failed => false

structure AnalysisJob where
  id : Nat := 0
  taskTID : String
  (attemptID generation : Nat)
  pipeline : String
  trigger : AnalysisTrigger
  requestedBy : String := ""
  status : AnalysisStatus := .pending
  inputArtifactIDs : List Nat
  createdAt : Int := 0

/-- `BlobStatusReady` and the others. -/
inductive BlobStatus where
  | uploading
  | ready
  | deleting
  | deleted
  | failed
  deriving DecidableEq

/-- `model.StorageBlob`; a blob of a historical object has no content hash. -/
structure StorageBlob where
  id : Nat := 0
  objectKey : String
  logicalSHA256 : Option String := none
  storedSHA256 : String := ""
  (format compression : String)
  status : BlobStatus := .ready
  deleteReason : String := ""
  deleteAttempts : Nat := 0
  (nextDeleteAttemptAt deletedAt : Option Int := none)
  createdAt : Int := 0

/-- `SymbolFileStatusReady` and the others. -/
inductive SymbolStatus where
  | uploading
  | ready
  | failed
  deriving DecidableEq

structure SymbolFile where
  (buildID objectKey : String)
  sha256 : String := ""
  status : SymbolStatus := .ready
  blobID : Option Nat := none
  createdAt : Int := 0
  deriving DecidableEq

structure KernelSymbolFile where
  (sha256 objectKey : String)
  targetIP : String := ""
  sizeBytes : Int := 0
  status : SymbolStatus := .ready
  blobID : Option Nat := none
  createdAt : Int := 0
  lastUsedAt : Option Int := none

structure StorageObjectGC where
  id : Nat := 0
  (objectKey reason : String)
  notBefore : Int
  deleteAttempts : Nat := 0
  lastDeleteError : String := ""
  (nextDeleteAttemptAt deletedAt : Option Int := none)

/-- An object, by the hash and the size of its content once it is unpacked. -/
structure TaskObject where
  sha256 : String
  size : Int := 0
  gzip : Bool := false

/-- The tables and the objects. -/
structure ArtifactStore extends TaskStore where
  /-- The rows of tasks that were deleted. -/
  deletedTasks : List HotmethodTask := []
  /-- The tasks with `artifacts_pinned`. -/
  pinned : List String := []
  /-- `task_kind` of the tasks that have one. -/
  taskKinds : List (String × String) := []
  artifacts : List Artifact := []
  nextArtifactID : Nat := 1
  analysisJobs : List AnalysisJob := []
  nextJobID : Nat := 1
  blobs : List StorageBlob := []
  nextBlobID : Nat := 1
  symbolFiles : List SymbolFile := []
  kernelFiles : List KernelSymbolFile := []
  gcQueue : List StorageObjectGC := []
  objects : List (String × TaskObject) := []

namespace Artifact

/-- The row is not a tombstone. -/
def live (row : Artifact) : Bool := row.deletedAt.isNone

/-- The row is one of a task, of a kind and of a key: no two rows agree on all three. -/
def named (tid : String) (kind : ArtifactKind) (key : String) (row : Artifact) : Bool :=
  row.taskTID = tid && row.kind = kind && row.objectKey = key

/-- A row that is not being deleted. -/
def counts (row : Artifact) : Bool := row.live && row.status ≠ .deleting && row.status ≠ .deleted

end Artifact

namespace ArtifactStore

variable (s : ArtifactStore)

/-! ## Artifacts -/

/-- The row of a task, a kind and a key. -/
def findArtifact (tid : String) (kind : ArtifactKind) (key : String) : Option Artifact :=
  s.artifacts.find? (Artifact.named tid kind key)

/-- The row if it is not a tombstone. -/
def findLive (tid : String) (kind : ArtifactKind) (key : String) : Option Artifact :=
  s.artifacts.find? fun row => Artifact.named tid kind key row && row.live

/-- `INSERT … ON CONFLICT (task_tid, kind, object_key) DO NOTHING`. -/
def insertArtifact (row : Artifact) : ArtifactStore :=
  if (s.findArtifact row.taskTID row.kind row.objectKey).isSome then s
  else
    { s with
      artifacts := s.artifacts ++ [{ row with id := s.nextArtifactID }]
      nextArtifactID := s.nextArtifactID + 1 }

/-- An update of the rows that pass a test. -/
def updateArtifacts (test : Artifact → Bool) (change : Artifact → Artifact) : ArtifactStore :=
  { s with artifacts := s.artifacts.map fun row => if test row then change row else row }

/-- A row of the task with one of the keys is a tombstone. -/
def tombstoned (tid : String) (keys : List String) : Bool :=
  s.artifacts.any fun row => row.taskTID = tid && keys.contains row.objectKey &&
    row.deletedAt.isSome

/-! ## Blobs and ledgers -/

/-- The blob with an identifier. -/
def findBlob (id : Nat) : Option StorageBlob := s.blobs.find? (·.id = id)

/-- `countBlobRefsDB`: the rows of artifacts and of the ledger of programs. -/
def countBlobRefs (id : Nat) : Nat :=
  (s.artifacts.countP fun row => row.blobID = some id && row.counts) +
    s.symbolFiles.countP fun row => row.blobID = some id

/-- An update of a blob. -/
def updateBlobs (test : StorageBlob → Bool) (change : StorageBlob → StorageBlob) : ArtifactStore :=
  { s with blobs := s.blobs.map fun blob => if test blob then change blob else blob }

/-- `resolveBlobForKey`: the key of the object that is read under a key. -/
def resolveBlobForKey (key : String) : String :=
  if key = "" then key
  else if s.blobs.any fun blob => blob.objectKey = key && blob.deletedAt.isNone then key
  else
    let named : Option Nat :=
      (s.artifacts.find? fun row =>
          row.objectKey = key && row.blobID.isSome && row.live && row.status ≠ .deleted).bind
            (·.blobID)
        <|> (s.symbolFiles.find? fun row => row.objectKey = key && row.blobID.isSome).bind
          (·.blobID)
        <|> (s.kernelFiles.find? fun row => row.objectKey = key && row.blobID.isSome).bind
          (·.blobID)
    match named.bind fun id => s.blobs.find? fun blob => blob.id = id && blob.deletedAt.isNone with
    | none => key
    | some blob => blob.objectKey

/-! ## Objects -/

def objectExists (key : String) : Bool := s.objects.any (·.1 = key)

def putObject (key : String) (object : TaskObject) : ArtifactStore :=
  { s with objects := Base.place s.objects key object }

def deleteObject (key : String) : ArtifactStore := { s with objects := Base.release s.objects key }

end ArtifactStore

def kernelSymbolObjectKey (sum : String) : String := "kernel-symbols/" ++ sum ++ "/kallsyms.gz"

def hasSuffix (s ending : String) : Bool := ending.toList.isSuffixOf s.toList

def isKernelSymbolObjectKey (key : String) : Bool :=
  hasPrefix key "kernel-symbols/" && (hasSuffix key "/kallsyms" || hasSuffix key "/kallsyms.gz")

def deleteBackoff (attempts : Nat) : Int :=
  match attempts with
  | 0 | 1 => Time.minute
  | 2 => 5 * Time.minute
  | 3 => 30 * Time.minute
  | 4 => 2 * Time.hour
  | _ => 6 * Time.hour

end MiniDrop
