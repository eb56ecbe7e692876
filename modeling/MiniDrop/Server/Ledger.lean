import MiniDrop.Server.Coverage
import MiniDrop.Server.Receipts
/-!
# The block ledger

A raw block is written under a fresh identifier as `building` and promoted in one transaction that
retires the active block of its partition, files the lineage members and their receipts, and
rebuilds the timeline. A sweep removes the blocks that are out of use.
-/
namespace MiniDrop

open Base

/-- `pqBlockKey` at raw resolution: one partition of the ledger. -/
structure PqBlockKey where
  tenant : String
  bucketStart : Int
  signalType : LedgerSignal

/-- The active block of a partition. -/
def PqBlockKey.holds (key : PqBlockKey) (block : ContinuousParquetBlock) : Bool :=
  decide (block.tenant = key.tenant) && decide (block.bucketStart = key.bucketStart) &&
    decide (block.signalType = key.signalType) && decide (block.status = .active)

namespace Store

variable (s : Store)

def pqFindActiveBlock (key : PqBlockKey) : Option ContinuousParquetBlock :=
  s.parquetBlocks.find? key.holds

/-- The version of the next block of a partition. -/
def nextBlockVersion (key : PqBlockKey) : Nat :=
  match s.pqFindActiveBlock key with
  | none => 1
  | some old => old.version + 1

def pqCreateBuildingBlock (key : PqBlockKey) (blockID : String) (bucketEnd : Int)
    (version : Nat) (now : Int) : Store :=
  { s with parquetBlocks := s.parquetBlocks ++ [
    { blockID := blockID, tenant := key.tenant, bucketStart := key.bucketStart,
      bucketEnd := bucketEnd, signalType := key.signalType, version := version,
      status := .building, createdAt := now }] }

def pqMarkBlockFailed (blockID : String) : Store :=
  { s with parquetBlocks := s.parquetBlocks.map fun block =>
      if block.blockID = blockID ∧ (block.status = .building ∨ block.status = .validating) then
        { block with status := .failed, validated := false }
      else block }

/-- The block table after the old active block is retired and the building block promoted. -/
def promoteBlock (key : PqBlockKey) (blockID : String) (bucketEnd : Int) (rows : PqSignalRows)
    (now : Int) : List ContinuousParquetBlock :=
  (s.parquetBlocks.map fun block =>
    if key.holds block then
      { block with status := .superseded, supersededAt := some now, replacedBy := blockID }
    else block).map fun block =>
      if block.blockID = blockID ∧ block.status = .building then
        { block with bucketEnd := bucketEnd, status := .active, validated := true, rows := rows }
      else block

/-- `pqRegisterActiveBlockMulti`: no store when the block is no longer `building`. -/
def pqRegisterActiveBlockMulti (key : PqBlockKey) (blockID : String) (bucketEnd : Int)
    (version : Nat) (rows : PqSignalRows) (members : List ContinuousParquetBlockMember)
    (now : Int) : Option Store :=
  let members := members.map fun mem => { mem with blockID := blockID }
  if (s.parquetBlocks.filter fun block =>
      decide (block.blockID = blockID) && decide (block.status = .building)).length = 1 then
    some { s with
      parquetBlocks := s.promoteBlock key blockID bucketEnd rows now
      members := s.members ++ members
      receipts := pqPersistMigrationReceiptsTx key.tenant key.signalType blockID key.bucketStart
        bucketEnd members s.receipts
      segments := pqRebuildCoverageSegmentsTx key.tenant key.bucketStart key.signalType blockID
        version s.windows (s.members ++ members) s.segments }
  else none

/-- `pqWriteSignalBlock` at raw resolution, on parts that were written and read back. -/
def pqWriteSignalBlock (tenant : String) (hourStart : Int) (blockID : String) (now : Int)
    (content : RawBlockContent) : Store :=
  let key : PqBlockKey := ⟨tenant, hourStart, content.signal⟩
  let version := s.nextBlockVersion key
  let opened := s.pqCreateBuildingBlock key blockID (hourStart + Time.hour) version now
  match opened.pqRegisterActiveBlockMulti key blockID (hourStart + Time.hour) version content.rows
      content.members now with
  | some registered => registered
  | none => opened.pqMarkBlockFailed blockID

/-- A whole build of one hour: composing it, and writing its blocks under the given identifiers. -/
def buildAndWriteRawHour (inServiceName : String → String) (tenant : String) (hourStart now : Int)
    (blockID : LedgerSignal → String) : Store :=
  let build := pqBuildRawHour inServiceName hourStart s.windows s.loadContinuousBatches s.failures
  let recorded := { s with failures := build.failures }
  match build.outcome with
  | .error _ => recorded
  | .ok blocks => blocks.foldl (fun (state : Store) content =>
      state.pqWriteSignalBlock tenant hourStart (blockID content.signal) now content) recorded

end Store

end MiniDrop
