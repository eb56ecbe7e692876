import MiniDrop.Base.Groups
import MiniDrop.Server.RawHour
/-!
# Downsampled rows

`pqBuildDownsample` rebuilds the rows of a block at a coarser resolution: the rows of one series in
one time bucket become a single row. Five-minute rows are made from the raw ones, hourly rows from
the five-minute ones.
-/
namespace MiniDrop

open Base

/-- `ContinuousParquetResolution`. -/
inductive ParquetResolution where
  | raw
  | fiveMinutes
  | hour

/-- The length of a bucket. -/
def ParquetResolution.width : ParquetResolution → Int
  | .raw => Time.minute
  | .fiveMinutes => 5 * Time.minute
  | .hour => Time.hour

def pqBucketStart (ts : Int) (resolution : ParquetResolution) : Int :=
  ts / resolution.width * resolution.width

def pqSortedLabelKey (labels : TextLabels) : String :=
  let pqGroupSep := String.ofList [Char.ofNat 0]
  String.join ((orderBy Prod.fst labels).map fun label =>
    label.1 ++ pqGroupSep ++ label.2 ++ pqGroupSep)

/-! ## CPU rows -/

/-- The `key` of `downsampleCPURows`. -/
structure CPUKey where
  bucket : Int
  (session backend runtime labels stack unit profileType profileID profileStatus : String)
  (pid processStartMs : Int)
  deriving DecidableEq

def cpuKey (resolution : ParquetResolution) (row : PqCPURow) : CPUKey :=
  ⟨pqBucketStart row.timestamp resolution, row.sessionSID, row.backend, row.runtime,
    pqSortedLabelKey row.labels, pqStackKey row.frames, row.unit, row.profileType, row.profileID,
    row.profileStatus, row.pid, row.processStartMs⟩

/-- A copy of the first row of a key, counted into an empty value. -/
def openCPURow (resolution : ParquetResolution) (row : PqCPURow) : PqCPURow :=
  { row with
    timestamp := pqBucketStart row.timestamp resolution
    value := addContinuousCount 0 row.value }

def addCPURow (item row : PqCPURow) : PqCPURow :=
  { item with value := addContinuousCount item.value row.value }

def downsampleCPURows (rows : List PqCPURow) (resolution : ParquetResolution) : List PqCPURow :=
  gather (cpuKey resolution) (openCPURow resolution) addCPURow rows

/-! ## Metric rows -/

/-- The `key` of `downsampleMetricRows`. -/
structure MetricKey where
  bucket : Int
  (session metric kind unit labels : String)
  (pid processStartMs : Int)
  deriving DecidableEq

def metricKey (resolution : ParquetResolution) (row : PqMetricRow) : MetricKey :=
  ⟨pqBucketStart row.timestamp resolution, row.sessionSID, row.metric, row.metricKind, row.unit,
    pqSortedLabelKey row.labels, row.pid, row.processStartMs⟩

/-- The first row of a key starts the statistics anew from its value. -/
def openMetricRow (resolution : ParquetResolution) (row : PqMetricRow) : PqMetricRow :=
  { row with
    timestamp := pqBucketStart row.timestamp resolution
    min := row.value
    max := row.value
    sum := row.value
    count := 1
    last := row.value
    delta := 0 }

/-- A later row enters with its value, whatever statistics it carries. -/
def addMetricRow (item row : PqMetricRow) : PqMetricRow :=
  { item with
    last := row.value
    count := addContinuousCount item.count 1
    sum := addContinuousCount item.sum row.value
    min := if row.value < item.min then row.value else item.min
    max := if row.value > item.max then row.value else item.max
    rssTruncated := if row.rssTruncated > item.rssTruncated then row.rssTruncated
      else item.rssTruncated
    delta :=
      if row.metricKind = "counter" then
        -- After a reset the counter has started from zero.
        addContinuousCount item.delta (if row.value ≥ item.last then row.value - item.last
          else row.value)
      else item.delta }

/-- The value that queries read: the increase of a counter, the peak of a gauge. -/
def closeMetricRow (row : PqMetricRow) : PqMetricRow :=
  { row with value := if row.metricKind = "counter" then row.delta else row.max }

def downsampleMetricRows (rows : List PqMetricRow) (resolution : ParquetResolution) :
    List PqMetricRow :=
  (gather (metricKey resolution) (openMetricRow resolution) addMetricRow rows).map closeMetricRow

end MiniDrop
