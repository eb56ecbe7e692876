import MiniDrop.Server.ArtifactCleaner
/-!
# Registration of symbol files

An agent asks whether a snapshot of kernel symbols is known by its hash, and uploads it if it is
not. A known snapshot is registered as an artifact of the task as well, with the blob of the
ledger's row if it has one. A program is uploaded under its build identifier, and the first row of
it stays.
-/
namespace MiniDrop

/-- A hexadecimal digit. -/
def isHexChar (c : Char) : Bool := c.isDigit || ('a' ≤ c && c ≤ 'f') || ('A' ≤ c && c ≤ 'F')

/-- `sha256Pattern`. -/
def isSHA256 (text : String) : Bool := text.toList.length = 64 && text.toList.all isHexChar

/-- `buildIDPattern`. -/
def isBuildID (text : String) : Bool :=
  8 ≤ text.toList.length && text.toList.length ≤ 64 && text.toList.all isHexChar

/-- The key of a snapshot from before it was packed. -/
def legacyKernelKey (sum : String) : String := "kernel-symbols/" ++ sum ++ "/kallsyms"

/-- What `CheckKernelSymbol` and `UploadKernelSymbol` answer. -/
inductive SymbolAnswer where
  | uploadRequired (key : String)
  | registered (key : String)
  /-- The object is being reclaimed, and the agent shall try again. -/
  | reclaimed

/-- An answer, with the hash that was asked for. -/
structure SymbolAnswered where
  sum : String
  answer : SymbolAnswer

/-- The request of `CheckKernelSymbol`. -/
structure KernelSymbolCheckReq where
  (tid sha256 : String)
  sizeBytes : Int := 0
  targetIP : String := ""

namespace ArtifactStore

variable (s : ArtifactStore)

/-- The row of the ledger that can be used. -/
def findKernel (sum : String) : Option KernelSymbolFile :=
  s.kernelFiles.find? fun row => row.sha256 = sum && row.status = .ready

/-- The update of a row that was asked for. -/
def touchKernel (sum targetIP : String) (now : Int) : ArtifactStore :=
  { s with
    kernelFiles := s.kernelFiles.map fun row =>
      if row.sha256 = sum then { row with lastUsedAt := some now, targetIP } else row }

/-- `INSERT … ON CONFLICT (sha256) DO UPDATE`: the blob of the row stays. -/
def upsertKernel (row : KernelSymbolFile) : ArtifactStore :=
  { s with
    kernelFiles :=
      if s.kernelFiles.any (·.sha256 = row.sha256) then
        s.kernelFiles.map fun old =>
          if old.sha256 = row.sha256 then
            { row with blobID := old.blobID, createdAt := old.createdAt }
          else old
      else s.kernelFiles ++ [row] }

/-- `recordKernelSymbolArtifact`; nothing if the blob is not ready or the row is a tombstone. -/
def recordKernelSymbolArtifact (tid key : String) (size : Int) (sum : String) (blobID : Option Nat)
    (now : Int) : Option ArtifactStore :=
  if tid = "" ∨ key = "" then some s
  else if blobID.any fun id => 0 < id && !(s.blobs.any fun blob =>
      blob.id = id && blob.status = .ready && blob.deletedAt.isNone) then none
  else
    match s.findArtifact tid .raw key with
    | none => some (s.insertArtifact
        { taskTID := tid, kind := .raw, objectKey := key, size, sha256 := sum, blobID,
          createdAt := now })
    | some row =>
      if row.live then
        some (s.updateArtifacts (·.id = row.id) fun row =>
          { row with size, sha256 := sum, status := .ready, blobID })
      else none

/-- `INSERT … ON CONFLICT (build_id) DO NOTHING`. -/
def insertSymbol (row : SymbolFile) : ArtifactStore :=
  { s with
    symbolFiles :=
      if s.symbolFiles.any (·.buildID = row.buildID) then s.symbolFiles
        else s.symbolFiles ++ [row] }

end ArtifactStore

/-! ## Jobs -/

/-- What is left of a request. -/
inductive SymbolJob where
  /-- The ledger has a row. -/
  | touching (tid targetIP : String) (row : KernelSymbolFile)
  /-- The ledger has none, and the object is looked for. -/
  | probing (req : KernelSymbolCheckReq)
  | probingLegacy (req : KernelSymbolCheckReq)
  /-- The object is there, and the ledger gets a row. -/
  | upserting (tid : String) (row : KernelSymbolFile)
  /-- The artifact of the task; a check that found a row fails with it. -/
  | recording (tid key : String) (size : Int) (sum : String) (blobID : Option Nat) (fatal : Bool)
  /-- The program is uploaded. -/
  | inserting (row : SymbolFile)

/-- What one step leaves. -/
abbrev SymbolOutcome := Base.Outcome ArtifactStore SymbolJob SymbolAnswered

namespace SymbolJob

/-- `CheckKernelSymbol` up to its first query. -/
def check (cfg : NotifyConfig) (s : ArtifactStore) (req : KernelSymbolCheckReq) : SymbolOutcome :=
  let req := { req with sha256 := (trimSpace req.sha256).toLower, tid := trimSpace req.tid }
  if req.tid = "" ∨ isSHA256 req.sha256 = false ∨ cfg.connected = false then { store := s }
  else
    match s.findKernel req.sha256 with
    | some row => { store := s, next := [.touching req.tid req.targetIP row] }
    | none => { store := s, next := [.probing req] }

/-- `UploadKernelSymbol` up to its first query: the snapshot was unpacked and has the hash. -/
def upload (cfg : NotifyConfig) (s : ArtifactStore) (tid targetIP : String) (object : TaskObject)
    (packed now : Int) : SymbolOutcome :=
  let sum := object.sha256
  if trimSpace tid = "" ∨ isSHA256 sum = false ∨ cfg.connected = false then { store := s }
  else
    { store := s.putObject (kernelSymbolObjectKey sum) { object with gzip := true }
      next := [.upserting (trimSpace tid)
        { sha256 := sum, objectKey := kernelSymbolObjectKey sum, targetIP := trimSpace targetIP
          sizeBytes := packed, createdAt := now, lastUsedAt := some now }] }

/-- `UploadSymbol` up to its first query. -/
def uploadProgram (cfg : NotifyConfig) (s : ArtifactStore) (buildID : String) (object : TaskObject)
    (now : Int) : SymbolOutcome :=
  if isBuildID buildID = false ∨ cfg.connected = false then { store := s }
  else
    { store := s.putObject ("symbols/" ++ buildID) object
      next := [.inserting
        { buildID, objectKey := "symbols/" ++ buildID, sha256 := object.sha256,
          createdAt := now }] }

/-- One step. -/
def run (s : ArtifactStore) (job : SymbolJob) (input : WorkInput) : SymbolOutcome :=
  match job with
  | .touching tid targetIP row =>
    let key := if row.objectKey = "" then kernelSymbolObjectKey row.sha256 else row.objectKey
    { store := s.touchKernel row.sha256 (if targetIP = "" then row.targetIP else targetIP) input.now
      next := [.recording tid key row.sizeBytes row.sha256 row.blobID true] }
  | .probing req =>
    if s.objectExists (kernelSymbolObjectKey req.sha256) then
      { store := s
        next := [.upserting req.tid
          { sha256 := req.sha256, objectKey := kernelSymbolObjectKey req.sha256,
            targetIP := req.targetIP
            sizeBytes := req.sizeBytes, createdAt := input.now, lastUsedAt := some input.now }] }
    else { store := s, next := [.probingLegacy req] }
  | .probingLegacy req =>
    if s.objectExists (legacyKernelKey req.sha256) then
      { store := s
        next := [.upserting req.tid
          { sha256 := req.sha256, objectKey := legacyKernelKey req.sha256, targetIP := req.targetIP
            sizeBytes := req.sizeBytes, createdAt := input.now, lastUsedAt := some input.now }] }
    else
      { store := s
        events :=
        [{ sum := req.sha256, answer := .uploadRequired (kernelSymbolObjectKey req.sha256) }] }
  | .upserting tid row =>
    { store := s.upsertKernel row
      next := [.recording tid row.objectKey row.sizeBytes row.sha256 none false] }
  | .recording tid key size sum blobID fatal =>
    match s.recordKernelSymbolArtifact tid key size sum blobID input.now with
    | some done => { store := done, events := [{ sum, answer := .registered key }] }
    | none =>
      { store := s, events := [{ sum, answer := if fatal then .reclaimed else .registered key }] }
  | .inserting row => { store := s.insertSymbol row }

end SymbolJob

end MiniDrop
