import MiniDrop.Server.Store
/-!
# Profile queries

The two ways a CPU or memory profile is put together. The v1 path selects catalog rows by their
start, loads the objects they name and walks the windows of each batch once; the v2 path reads the
rows of a raw block and selects by their timestamp. Both hand samples to one aggregate, of which the
model keeps the total and the samples themselves, in order; the flame graph and the tables are built
from these.
-/
namespace MiniDrop

open Base

/-- `ProfileQuery`, with the sessions that its host and owner select. -/
structure ProfileQuery where
  /-- `ProfileType == "memory"`. -/
  memory : Bool := false
  stackScope : String := ""
  filters : Labels := []
  /-- `continuousSessionSelection`. -/
  sessions : List String := []

/-- The window signal a query reads. -/
def ProfileQuery.signalType (q : ProfileQuery) : String :=
  if q.memory then "python_memory" else "cpu_profile"

/-- The part of `continuousAggregate` that the selection of samples reads and writes. -/
structure ContinuousAggregate where
  total : Nat := 0
  /-- The samples that were added, with the labels of their windows. -/
  samples : List (ContinuousStackSample × Labels) := []
  objectKeys : List String := []
  windowCount : Nat := 0
  (seenProfileIDs seenProfileSamples : List String := [])

def continuousMaxWindowCount : Nat := 20000

def continuousMaxReasonableProfileSampleCount : Nat := 1000000000

/-- `continuousFrameLooksInvalid`: texts a collector printed instead of a frame. -/
def continuousFrameLooksInvalid (frame : String) : Bool :=
  let frame := trimSpace frame
  let lower := toLower frame
  frame ≠ "" && (hasPrefix frame "ERROR:" || hasPrefix lower "stdin:" ||
    contains lower "failed to look up stack id" || contains lower "unknown error")

def continuousSampleLooksValid (sample : ContinuousStackSample) : Bool :=
  decide (sample.count ≤ continuousMaxReasonableProfileSampleCount) &&
    !((continuousSampleStack sample).any continuousFrameLooksInvalid) &&
    !continuousFrameLooksInvalid sample.stackString

/-- A positive number as a label, and nothing otherwise. -/
def positiveLabel (n : Int) : String := if n > 0 then toString n else ""

/-- `continuousSampleLabel`: the sample's own label, its field, or the window's label. -/
def continuousSampleLabel (sample : ContinuousStackSample) (windowLabels : Labels)
    (key : String) : String :=
  if key = "process_instance" then
    if sample.pid > 0 ∧ sample.processStartMs > 0 then
      toString sample.pid ++ "|" ++ toString sample.processStartMs
    else ""
  else
    let own := labelString sample.labels key
    let field :=
      if key = "comm" then sample.comm
      else if key = "pid" then positiveLabel sample.pid
      else if key = "process_start_ms" then positiveLabel sample.processStartMs
      else if key = "exe" then sample.exe
      else if key = "runtime" then sample.runtime
      else ""
    if own ≠ "" then own else if field ≠ "" then field else labelString windowLabels key

def continuousSampleMatches (sample : ContinuousStackSample) (windowLabels filters : Labels) :
    Bool :=
  ["comm", "pid", "process_start_ms", "exe", "runtime"].all fun key =>
    labelString filters key = "" ||
      continuousSampleLabel sample windowLabels key = labelString filters key

/-- A profile's sample with the fields it leaves to its profile. -/
def fillSample (wantedSignal : String) (profile : ContinuousProfileIngest)
    (sample : ContinuousStackSample) : ContinuousStackSample :=
  { sample with
    stackScope := if sample.stackScope = "" then profile.stackScope else sample.stackScope
    backend := if sample.backend = "" then profile.backend else sample.backend
    labels := if sample.labels = [] then profile.labels else sample.labels
    runtime :=
      if sample.runtime = "" ∧ wantedSignal = "python_memory" then "python" else sample.runtime
    profileID := if sample.profileID = "" then profile.profileID else sample.profileID }

/-- The profile loop of `continuousProfileSamplesForQuery`, with the profiles already seen. -/
def profileSamplesForQuery (wantedSignal scope : String) :
    List String → List ContinuousProfileIngest → List ContinuousStackSample × List String
  | seen, [] => ([], seen)
  | seen, profile :: rest =>
    if profileSignal profile ≠ wantedSignal then
      profileSamplesForQuery wantedSignal scope seen rest
    else
      let key := continuousProfileSeenKey profile.profileID profile.samples
      if profile.profileID ≠ "" ∧ key ∈ seen then
        profileSamplesForQuery wantedSignal scope seen rest
      else
        let seen := if profile.profileID ≠ "" then key :: seen else seen
        let tail := profileSamplesForQuery wantedSignal scope seen rest
        let profileScope := lowerTrim profile.stackScope
        if scope ≠ "" ∧ profileScope ≠ "" ∧ profileScope ≠ scope then tail
        else (profile.samples.map (fillSample wantedSignal profile) ++ tail.1, tail.2)

def continuousProfileSamplesForQuery (window : ContinuousWindowIngest) (q : ProfileQuery)
    (seen : List String) : List ContinuousStackSample × List String :=
  let scope := lowerTrim q.stackScope
  let scope := if scope = "all" then "" else scope
  let profiles := profileSamplesForQuery q.signalType scope seen window.profiles
  (if q.memory then profiles.1 else window.samples ++ profiles.1, profiles.2)

/-- `continuousAddSample`, on the total and the sample list. -/
def continuousAddSample (windowLabels : Labels) (agg : ContinuousAggregate)
    (sample : ContinuousStackSample) : ContinuousAggregate :=
  if continuousSampleLooksValid sample then
    { agg with
      total := agg.total + firstNonZeroUint64 sample.count 1
      samples := agg.samples ++ [(sample, windowLabels)] }
  else agg

/-- Why a query has no result. -/
inductive QueryError where
  | windowLimit
  | unreadable (objectKey : String)

section Walk

variable {σ : Type} (walk : σ → ContinuousWindowIngest → σ)

/-- One catalog row of an object: its batch is walked the first time it is met. -/
def walkRow (batches : List ContinuousStoredBatch) (state : σ × List String)
    (row : ProfileWindow) : σ × List String :=
  match continuousResolveBatch row batches with
  | none => state
  | some batch =>
    if row.batchBID ∈ state.2 then state
    else (batch.windows.foldl walk state.1, row.batchBID :: state.2)

/-- One object of a v1 query. -/
def walkObject (load : Loader) (rows : List ProfileWindow)
    (state : σ) (objectKey : String) : Except QueryError σ :=
  match load objectKey with
  | none => .error (.unreadable objectKey)
  | some batches =>
    .ok ((rows.filter fun row => row.objectKey = objectKey).foldl (walkRow walk batches)
      (state, [])).1

end Walk

section V1

variable (q : ProfileQuery) (fromTime toTime : Int)

/-- One payload window of the v1 path; windows outside the range are skipped. -/
def aggregateV1Window (agg : ContinuousAggregate) (window : ContinuousWindowIngest) :
    ContinuousAggregate :=
  if Time.isZero window.windowStart ∨ window.windowStart < fromTime ∨
      ¬window.windowStart < toTime then agg
  else
    let selected := continuousProfileSamplesForQuery window q agg.seenProfileIDs
    (selected.1.filter fun sample => continuousSampleMatches sample window.labels q.filters).foldl
      (continuousAddSample window.labels) { agg with seenProfileIDs := selected.2 }

/-- One object of the v1 path. -/
def aggregateV1Object (load : Loader)
    (rows : List ProfileWindow) (agg : ContinuousAggregate) (objectKey : String) :
    Except QueryError ContinuousAggregate :=
  walkObject (aggregateV1Window q fromTime toTime) load rows
    { agg with objectKeys := agg.objectKeys ++ [objectKey] } objectKey

/-- The catalog rows a v1 query reads, by start. -/
def v1QueryRows (windows : List ProfileWindow) : List ProfileWindow :=
  orderBy (·.windowStart) (windows.filter fun row =>
    q.sessions.contains row.sessionSID && row.signalType = q.signalType &&
      decide (fromTime ≤ row.windowStart) && decide (row.windowStart < toTime))

/-- `aggregateV1WindowsInto`: whether any row was found, and the aggregate. -/
def aggregateV1WindowsInto (windows : List ProfileWindow)
    (load : Loader) (agg : ContinuousAggregate) :
    Except QueryError (Bool × ContinuousAggregate) :=
  let rows := (v1QueryRows q fromTime toTime windows).take (continuousMaxWindowCount + 1)
  if rows.length > continuousMaxWindowCount then .error .windowLimit
  else if rows = [] then .ok (false, agg)
  else do
    let agg := { agg with windowCount := agg.windowCount + rows.length }
    let agg ← (objectOrder rows).foldlM (aggregateV1Object q fromTime toTime load rows) agg
    return (true, agg)

end V1

section V2

variable (q : ProfileQuery) (fromTime toTime : Int)

/-- The row of a raw block passes the session, range, signal and status tests of a v2 query. -/
def v2RowSelected (row : PqCPURow) : Bool :=
  q.sessions.contains row.sessionSID &&
    decide (Time.unixMilli fromTime ≤ row.timestamp) &&
    decide (row.timestamp < Time.unixMilli toTime) &&
    (row.profileType = q.signalType || (q.signalType = "cpu_profile" && row.profileType = "cpu")) &&
    !(row.profileStatus = "failed" || row.profileStatus = "duplicate")

/-- The labels of a row, as a window's labels. -/
def pqLabelsInterface (labels : TextLabels) : Labels :=
  labels.map fun entry => (entry.1, .text entry.2)

/-- One row of the block of an hour in `pqQueryAggregateMixed`. -/
def aggregateV2Row (agg : ContinuousAggregate) (row : PqCPURow) : ContinuousAggregate :=
  let sample := pqSampleFromCPURow row
  let labels := pqLabelsInterface row.labels
  if !v2RowSelected q fromTime toTime row then agg
  else if !continuousSampleMatches sample labels q.filters then agg
  else if row.profileID ≠ "" ∧ continuousProfileSampleKey sample ∈ agg.seenProfileSamples then agg
  else
    let agg :=
      if row.profileID ≠ "" then
        { agg with
          seenProfileSamples := continuousProfileSampleKey sample :: agg.seenProfileSamples }
      else agg
    let agg := continuousAddSample labels agg sample
    { agg with windowCount := agg.windowCount + 1 }

/-- The block branch of `pqQueryAggregateMixed` for the part of a query inside one hour. -/
def aggregateV2Block (rows : List PqCPURow) (agg : ContinuousAggregate) : ContinuousAggregate :=
  rows.foldl (aggregateV2Row q fromTime toTime) agg

/-- `pqQueryAggregateMixed` for the part of a query inside one hour, on the raw blocks built for the
hour: the rows of the CPU block, or the v1 path when there is none. -/
def aggregateMixedHour (blocks : List RawBlockContent) (windows : List ProfileWindow)
    (load : Loader) (agg : ContinuousAggregate) :
    Except QueryError (Bool × ContinuousAggregate) :=
  match blocks.find? fun block => block.signal = .cpu with
  | none => aggregateV1WindowsInto q fromTime toTime windows load agg
  | some block => .ok (true, aggregateV2Block q fromTime toTime block.rows.cpu agg)

end V2

end MiniDrop
