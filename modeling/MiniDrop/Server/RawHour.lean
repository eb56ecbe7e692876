import Mathlib.Data.String.Basic
import MiniDrop.Base.Tables
import MiniDrop.Server.Rows
/-!
# Building the raw blocks of an hour

`pqBuildRawHour` reads the window rows that start in the hour, groups them by payload object, and
for the first row of each batch and window signal walks all windows of the batch's payload. The
rows, the lineage members and the consumed windows are accumulated per ledger signal; a final
reconciliation demands that every row that needs data was consumed.
-/
namespace MiniDrop

open Base

def frameDisplayName (frame : ContinuousStackFrame) : String :=
  if frame.function ≠ "" then frame.function
  else if frame.raw ≠ "" then frame.raw
  else if frame.address ≠ 0 ∨ frame.mappingFile ≠ "" then
    let address := "0x" ++ String.ofList (Nat.toDigits 16 frame.address)
    if frame.mappingFile ≠ "" then address ++ " [" ++ frame.mappingFile ++ "]" else address
  else "[unknown]"

/-- `pqSampleFromCPURow`: the sample a stored row stands for in a query. -/
def pqSampleFromCPURow (row : PqCPURow) : ContinuousStackSample where
  stack := row.frames.map fun frame => frameDisplayName
    { function := frame.function, raw := frame.raw, address := frame.address,
      mappingFile := frame.mappingFile }
  count := row.value
  comm := row.comm
  pid := row.pid
  processStartMs := row.processStartMs
  exe := row.exe
  stackScope := "continuous"
  backend := row.backend
  runtime := row.runtime
  frames := row.frames
  profileID := row.profileID

/-- One frame's part of `pqStackKey`. -/
def pqFrameKey (frame : PqCPUFrame) : String :=
  frame.function ++ "|" ++ frame.file ++ "|" ++ toString frame.line ++ "|" ++
    String.ofList (Nat.toDigits 16 frame.address) ++ "|" ++ frame.mappingFile ++ "|" ++
    frame.buildID ++ "|" ++ String.ofList (Nat.toDigits 16 frame.normalizedOffset)

def pqStackKey (frames : List PqCPUFrame) : String :=
  String.intercalate ";" (frames.map pqFrameKey)

/-- `continuousProfileSampleKey`: a sample of a named profile, by profile, process and stack. -/
def continuousProfileSampleKey (sample : ContinuousStackSample) : String :=
  let key := sample.profileID ++ "|" ++ toString sample.pid ++ "|" ++
    toString sample.processStartMs ++ "|" ++ sample.exe ++ "|"
  if sample.frames ≠ [] then key ++ pqStackKey sample.frames
  else key ++ String.intercalate (String.ofList [Char.ofNat 0]) sample.stack ++ "|" ++
    sample.stackString

/-- The profile duplicate pass over the collected CPU rows: a repeated sample of a named profile
keeps its place with status `duplicate` and value zero. -/
def markDuplicates : List String → List PqCPURow → List PqCPURow
  | _, [] => []
  | seen, row :: rest =>
    if row.profileID = "" ∨ row.profileStatus = "failed" then row :: markDuplicates seen rest
    else
      let key := continuousProfileSampleKey (pqSampleFromCPURow row)
      if key ∈ seen then
        { row with profileStatus := "duplicate", value := 0 } :: markDuplicates seen rest
      else row :: markDuplicates (key :: seen) rest

/-- `continuousResolveBatch` with `continuousBatchIndex`: the payload batch of a row. A later batch
of the same id wins, and an unnamed row takes the only batch of its object. -/
def continuousResolveBatch (row : ProfileWindow) (batches : List ContinuousStoredBatch) :
    Option ContinuousStoredBatch :=
  if row.batchBID ≠ "" then batches.reverse.find? fun batch => batch.batchID = row.batchBID
  else match batches with
    | [batch] => some batch
    | _ => none

/-- `pqSignalMemberAcc`: what one batch contributed to one signal. -/
structure PqSignalMemberAcc where
  sessionSID : String
  (startTime endTime : Int)
  (sampleCount valueTotal rowCount : Nat := 0)

/-- Sample count, value total and number of the rows of one signal. -/
def memberTotals (rows : PqSignalRows) : LedgerSignal → Nat × Nat × Nat
  | .cpu =>
    (rows.cpu.foldl (fun total row => addContinuousCount total row.value) 0,
      rows.cpu.foldl (fun total row => addContinuousCount total row.value) 0, rows.cpu.length)
  | .metrics =>
    (rows.metrics.foldl (fun total row => addContinuousCount total row.count) 0,
      rows.metrics.foldl (fun total row => addContinuousCount total row.value) 0,
      rows.metrics.length)
  | .histogram =>
    (rows.histogram.foldl (fun total row => addContinuousCount total row.count) 0,
      rows.histogram.foldl (fun total row => addContinuousCount total row.count) 0,
      rows.histogram.length)
  | .db =>
    let count := fun total (row : PqDBRow) => addContinuousCount total
      (if row.callCount = 0 then row.occurrenceCount else row.callCount)
    (rows.db.foldl count 0, rows.db.foldl count 0, rows.db.length)

/-- One window added to a batch's entry: the hull of the times and the running totals. -/
def PqSignalMemberAcc.add (item : PqSignalMemberAcc) (totals : Nat × Nat × Nat)
    (start stop : Int) : PqSignalMemberAcc where
  sessionSID := item.sessionSID
  startTime := if start < item.startTime then start else item.startTime
  endTime := if item.endTime < stop then stop else item.endTime
  sampleCount := addContinuousCount item.sampleCount totals.1
  valueTotal := addContinuousCount item.valueTotal totals.2.1
  rowCount := item.rowCount + totals.2.2

/-- `members[signal][bid]`, in the order of first use. -/
abbrev SignalMembers := List ((LedgerSignal × String) × PqSignalMemberAcc)

def pqAccumulateSignalMembers (members : SignalMembers) (signal : LedgerSignal)
    (sessionSID bid : String) (rows : PqSignalRows) (start stop : Int) : SignalMembers :=
  if bid = "" then members
  else
    let totals := memberTotals rows signal
    if members.any fun entry => entry.1 = (signal, bid) then
      members.map fun entry =>
        if entry.1 = (signal, bid) then (entry.1, entry.2.add totals start stop) else entry
    else members ++ [((signal, bid),
      ({ sessionSID := sessionSID, startTime := start, endTime := stop } :
        PqSignalMemberAcc).add totals start stop)]

/-- `pqMemberRowsFor`: the ledger rows of one signal's members, by batch id. -/
def pqMemberRowsFor (members : SignalMembers) (signal : LedgerSignal) :
    List ContinuousParquetBlockMember :=
  (orderBy (·.1.2) (members.filter fun entry => entry.1.1 = signal)).map fun entry =>
    { sourceKind := "batch", sourceRef := entry.1.2, sessionSID := entry.2.sessionSID,
      startTime := entry.2.startTime, endTime := entry.2.endTime,
      sampleCount := entry.2.sampleCount, valueTotal := entry.2.valueTotal,
      rowCount := entry.2.rowCount }

/-- A window that a build registers as unreadable. -/
structure WindowFailure where
  row : ProfileWindow
  errorType : String

/-- The accumulators of `pqBuildRawHour`. -/
structure RawHourAcc where
  /-- The collected rows of the four signals. -/
  rows : PqSignalRows := {}
  /-- Lineage per signal and batch. -/
  members : SignalMembers := []
  /-- `consumed[signal][session|start]`. -/
  consumed : List (LedgerSignal × String × Int) := []
  /-- Failures to be registered. -/
  failures : List WindowFailure := []

/-- Rows appended signal by signal. -/
def PqSignalRows.append (rows more : PqSignalRows) : PqSignalRows where
  cpu := rows.cpu ++ more.cpu
  metrics := rows.metrics ++ more.metrics
  histogram := rows.histogram ++ more.histogram
  db := rows.db ++ more.db

/-- The windows of a batch that a row consumes: those that touch the hour and have data for the
row's signal. -/
def consumedWindows (hourStart : Int) (row : ProfileWindow) (batch : ContinuousStoredBatch) :
    List ContinuousWindowIngest :=
  batch.windows.filter fun input =>
    windowOverlaps input.windowStart input.windowEnd hourStart (hourStart + Time.hour) &&
      continuousWindowSignalHasData input row.signalType

section Build

variable (inServiceName : String → String) (hourStart : Int)

/-- The innermost body: one consumed payload window of one row. -/
def consumeWindow (signal : LedgerSignal) (row : ProfileWindow) (acc : RawHourAcc)
    (input : ContinuousWindowIngest) : RawHourAcc :=
  let rows := pqCollectWindowRows inServiceName row input
  { acc with
    rows := acc.rows.append rows
    members := pqAccumulateSignalMembers acc.members signal row.sessionSID row.batchBID rows
      input.windowStart input.windowEnd
    consumed := acc.consumed ++
      [(signal, row.sessionSID, Time.unixMilli input.windowStart)] }

/-- One row of an object, with the batch and signal pairs already taken. -/
def consumeRow (batches : List ContinuousStoredBatch)
    (state : RawHourAcc × List (String × String)) (row : ProfileWindow) :
    RawHourAcc × List (String × String) :=
  match pqLedgerSignalForWindow row.signalType with
  | none => state
  | some signal =>
    if state.2.contains (row.batchBID, row.signalType) then state
    else
      let seen := (row.batchBID, row.signalType) :: state.2
      match continuousResolveBatch row batches with
      | none => ({ state.1 with
          failures := state.1.failures ++ [⟨row, "source_mismatch"⟩] }, seen)
      | some batch =>
        ((consumedWindows hourStart row batch).foldl (consumeWindow inServiceName signal row)
          state.1, seen)

/-- One payload object: a failed load registers all its rows as missing. -/
def consumeObject (load : Loader)
    (windows : List ProfileWindow) (acc : RawHourAcc) (objectKey : String) : RawHourAcc :=
  let rows := windows.filter fun window => window.objectKey = objectKey
  match load objectKey with
  | none => { acc with failures := acc.failures ++ rows.map fun row => ⟨row, "missing_object"⟩ }
  | some batches => (rows.foldl (consumeRow inServiceName hourStart batches) (acc, [])).1

/-- The objects of the hour, in the order of their first window row; rows without an object are
skipped. -/
def objectOrder (windows : List ProfileWindow) : List String :=
  distinct ((windows.filter fun window => window.objectKey ≠ "").map (·.objectKey))

/-- The object loop. -/
def collectHour (load : Loader) (windows : List ProfileWindow) : RawHourAcc :=
  (objectOrder windows).foldl (consumeObject inServiceName hourStart load windows) {}

end Build

/-- `continuousMaxWindowCount*4`, the most window rows an hour build accepts. -/
def rawHourWindowLimit : Nat := 20000 * 4

/-- The window rows of the hour: those that start in it, by start. -/
def hourWindows (hourStart : Int) (windows : List ProfileWindow) : List ProfileWindow :=
  orderBy (·.windowStart) (windows.filter fun window =>
    decide (hourStart ≤ window.windowStart) && decide (window.windowStart < hourStart + Time.hour))

/-- `recordContinuousMigrationFailure`: insert, or refresh the row of the same source. -/
def recordContinuousMigrationFailure (failures : List ContinuousMigrationFailure)
    (failure : ContinuousMigrationFailure) : List ContinuousMigrationFailure :=
  if failures.any fun old =>
      old.sourceKind = failure.sourceKind && old.sourceRef = failure.sourceRef then
    failures.map fun old =>
      if old.sourceKind = failure.sourceKind ∧ old.sourceRef = failure.sourceRef then
        { failure with
          status := if old.status = .quarantined then .quarantined else .retrying }
      else old
  else failures ++ [{ failure with status := .retrying }]

/-- The failure row of an unreadable window. -/
def WindowFailure.entry (failure : WindowFailure) : ContinuousMigrationFailure where
  sourceKind := "window"
  sourceRef := windowRef failure.row.id
  sessionSID := failure.row.sessionSID
  objectKey := failure.row.objectKey
  errorType := failure.errorType

def pqFailedWindowSet (failures : List ContinuousMigrationFailure) : List String :=
  (failures.filter fun failure => failure.sourceKind = "window" && failure.unresolved).map
    (·.sourceRef)

/-- Why a build stops. -/
inductive BuildError where
  | tooManyWindows (count : Nat)
  | missedWindow (signal : LedgerSignal) (sessionSID : String) (windowStart : Int)

/-- A row the reconciliation of a signal insists on. -/
def lineageRequired (failed : List String) (signal : LedgerSignal) (window : ProfileWindow) :
    Bool :=
  window.objectKey ≠ "" && pqWindowRequiresDataLineage window &&
    decide (window.signalType ∈ pqV1SignalTypesFor signal) && decide (windowRef window.id ∉ failed)

/-- The first required row, signal by signal, that no consumed window accounts for. -/
def missedWindow (failed : List String) (consumed : List (LedgerSignal × String × Int))
    (windows : List ProfileWindow) : Option BuildError :=
  LedgerSignal.all.findSome? fun signal => windows.findSome? fun window =>
    if lineageRequired failed signal window ∧
        (signal, window.sessionSID, Time.unixMilli window.windowStart) ∉ consumed then
      some (.missedWindow signal window.sessionSID window.windowStart)
    else none

/-- The contents of one raw block. -/
structure RawBlockContent where
  signal : LedgerSignal
  rows : PqSignalRows
  members : List ContinuousParquetBlockMember

/-- The rows of one signal alone. -/
def rowsForSignal (rows : PqSignalRows) : LedgerSignal → PqSignalRows
  | .cpu => { cpu := rows.cpu }
  | .metrics => { metrics := rows.metrics }
  | .histogram => { histogram := rows.histogram }
  | .db => { db := rows.db }

/-- How many rows there are in all. -/
def PqSignalRows.total (rows : PqSignalRows) : Nat :=
  rows.cpu.length + rows.metrics.length + rows.histogram.length + rows.db.length

/-- The accumulated rows with repeated profile samples marked. -/
def RawHourAcc.marked (acc : RawHourAcc) : PqSignalRows :=
  { acc.rows with cpu := markDuplicates [] acc.rows.cpu }

/-- The blocks to write: one for each signal that has rows. -/
def RawHourAcc.blocks (acc : RawHourAcc) : List RawBlockContent :=
  (LedgerSignal.all.map fun signal =>
    ({ signal := signal, rows := rowsForSignal acc.marked signal,
       members := pqMemberRowsFor acc.members signal } : RawBlockContent)).filter
    fun block => decide (block.rows.total ≠ 0)

/-- What a build leaves behind: the failure table, and the blocks to write or the error. -/
structure RawHourBuild where
  failures : List ContinuousMigrationFailure
  outcome : Except BuildError (List RawBlockContent)

/-- `pqBuildRawHour` up to the writing of the blocks, on the window rows of the hour and the payload
objects as they load. -/
def pqBuildRawHour (inServiceName : String → String) (hourStart : Int)
    (windows : List ProfileWindow) (load : Loader)
    (failures : List ContinuousMigrationFailure) : RawHourBuild :=
  let windows := (hourWindows hourStart windows).take (rawHourWindowLimit + 1)
  if windows = [] then { failures := failures, outcome := .ok [] }
  else if windows.length > rawHourWindowLimit then
    { failures := failures, outcome := .error (.tooManyWindows windows.length) }
  else
    let acc := collectHour inServiceName hourStart load windows
    let failures := (acc.failures.map WindowFailure.entry).foldl
      recordContinuousMigrationFailure failures
    match missedWindow (pqFailedWindowSet failures) acc.consumed windows with
    | some error => { failures := failures, outcome := .error error }
    | none => { failures := failures, outcome := .ok acc.blocks }

end MiniDrop
