import Mathlib.Data.Int.ConditionallyCompleteOrder
import Mathlib.Data.Prod.Lex
import Mathlib.Data.String.Basic
import MiniDrop.Base.Spans
import MiniDrop.Base.Tables
import MiniDrop.Server.Catalog
/-!
# Coverage segments

The timeline of an hour is a table of segments. A rebuild derives them from the window rows that
are still in the catalog, falls back to the members of the raw block when none is usable, and keeps
the table when there is neither. Windows of one series (session and signal) are joined when the gap
between them is at most five seconds.
-/
namespace MiniDrop

open Base

def pqCoverageMergeTolerance : Int := 5 * Time.second

/-- `coverageSource`: a stretch of one series, clipped to the hour. -/
structure CoverageSource where
  (sessionSID signalType : String)
  (start stop : Int)
  sampleCount : Nat

/-- The guard both sources share: a session, set times, and a nonempty stretch. -/
def usableSpan (sessionSID : String) (start stop : Int) : Bool :=
  sessionSID ≠ "" && !Time.isZero start && !Time.isZero stop && decide (start < stop)

/-- A stretch clipped to the hour. -/
def clipSource (fromTime toTime : Int) (sessionSID signalType : String) (start stop : Int)
    (sampleCount : Nat) : CoverageSource where
  sessionSID := sessionSID
  signalType := signalType
  start := if start < fromTime then fromTime else start
  stop := if stop > toTime then toTime else stop
  sampleCount := sampleCount

/-- The sources from window rows: those that meet the hour, by session and start. -/
def windowSources (fromTime : Int) (signal : LedgerSignal) (windows : List ProfileWindow) :
    List CoverageSource :=
  let toTime := fromTime + Time.hour
  let selected := orderBy (fun w => toLex (w.sessionSID, w.windowStart))
    (windows.filter fun w => decide (w.windowStart < toTime) && decide (fromTime < w.windowEnd) &&
      decide (w.signalType ∈ pqV1SignalTypesFor signal))
  (selected.filter fun w => usableSpan w.sessionSID w.windowStart w.windowEnd).map fun w =>
    clipSource fromTime toTime w.sessionSID w.signalType w.windowStart w.windowEnd w.sampleCount

/-- The first window signal of a ledger signal, the name members are filed under. -/
def firstSignalType (signal : LedgerSignal) : String := (pqV1SignalTypesFor signal).headD ""

/-- The sources from block members, which carry no window signal of their own. -/
def memberSources (fromTime : Int) (signal : LedgerSignal) (sourceBlock : String)
    (members : List ContinuousParquetBlockMember) : List CoverageSource :=
  let toTime := fromTime + Time.hour
  let selected := orderBy (·.startTime) (members.filter fun m => m.blockID = sourceBlock)
  (selected.filter fun m => usableSpan m.sessionSID m.startTime m.endTime).map fun m =>
    clipSource fromTime toTime m.sessionSID (firstSignalType signal) m.startTime m.endTime
      m.sampleCount

/-- The joining of a series into segments. -/
def coverageCoalescer (tenant sourceBlock : String) (sourceVersion : Nat) :
    Coalescer CoverageSource ContinuousCoverageSegment Int where
  start := (·.start)
  stop := (·.stop)
  runStart := (·.segmentStart)
  runStop := (·.segmentEnd)
  fresh sg :=
    { tenant := tenant, sessionSID := sg.sessionSID, signalType := sg.signalType,
      segmentStart := sg.start, segmentEnd := sg.stop, sampleCount := sg.sampleCount,
      sourceBlock := sourceBlock, sourceVersion := sourceVersion }
  join segment sg :=
    { segment with
      segmentEnd := if segment.segmentEnd < sg.stop then sg.stop else segment.segmentEnd
      sampleCount := addContinuousCount segment.sampleCount sg.sampleCount }
  reach stop := stop + pqCoverageMergeTolerance
  reach_mono := fun _ _ order => Int.add_le_add_right order _
  le_reach := fun _ => Int.le_add_of_nonneg_right (by decide)
  fresh_start := fun _ => rfl
  fresh_stop := fun _ => rfl
  join_start := fun _ _ => rfl
  join_stop := fun _ _ => (max_def_lt _ _).symm

/-- The sources of one series, in order. -/
def seriesOf (sources : List CoverageSource) (key : String × String) : List CoverageSource :=
  sources.filter fun sg => (sg.sessionSID, sg.signalType) = key

/-- The segments of all series. -/
def mergeSources (tenant sourceBlock : String) (sourceVersion : Nat)
    (sources : List CoverageSource) : List ContinuousCoverageSegment :=
  (distinct (sources.map fun sg => (sg.sessionSID, sg.signalType))).flatMap fun key =>
    ((coverageCoalescer tenant sourceBlock sourceVersion).runs (seriesOf sources key)).reverse

/-- The segments a rebuild replaces: those of the tenant and signal that start in the hour. -/
def replacedSegment (tenant : String) (fromTime : Int) (signal : LedgerSignal)
    (segment : ContinuousCoverageSegment) : Bool :=
  decide (segment.tenant = tenant) &&
    decide (segment.signalType ∈ pqV1SignalTypesFor signal ++ [signal.name]) &&
    decide (fromTime ≤ segment.segmentStart) &&
    decide (segment.segmentStart < fromTime + Time.hour)

/-- The sources of a rebuild: windows first, then members. -/
def rebuildSources (hourStart : Int) (signal : LedgerSignal) (sourceBlock : String)
    (windows : List ProfileWindow) (members : List ContinuousParquetBlockMember) :
    List CoverageSource :=
  let sources := windowSources hourStart signal windows
  if sources = [] then memberSources hourStart signal sourceBlock members else sources

/-- `pqRebuildCoverageSegmentsTx`: the segment table after the rebuild of one hour and signal. -/
def pqRebuildCoverageSegmentsTx (tenant : String) (hourStart : Int) (signal : LedgerSignal)
    (sourceBlock : String) (sourceVersion : Nat) (windows : List ProfileWindow)
    (members : List ContinuousParquetBlockMember) (segments : List ContinuousCoverageSegment) :
    List ContinuousCoverageSegment :=
  let sources := rebuildSources hourStart signal sourceBlock windows members
  if sources = [] then segments
  else segments.filter (fun segment => !replacedSegment tenant hourStart signal segment) ++
    mergeSources tenant sourceBlock sourceVersion sources

/-- The timeline shows the instant as covered for a session and a window signal. -/
def coveredAt (segments : List ContinuousCoverageSegment) (sessionSID signalType : String)
    (t : Int) : Bool :=
  segments.any fun segment => decide (segment.sessionSID = sessionSID) &&
    decide (segment.signalType = signalType) && decide (segment.segmentStart ≤ t) &&
    decide (t < segment.segmentEnd)

end MiniDrop
