import Mathlib.Data.Rat.Floor
import MiniDrop.Base.Bands
import MiniDrop.Server.Coverage
import MiniDrop.Server.Sessions
/-!
# The coverage timeline of a signal

A timeline request shows, for a session and a signal, what is known about every moment of a range:
collected data, idle or failed collection, the grace periods around start and stop, the tail that
may still be uploaded, and gaps. Status intervals may overlap; the one of highest priority wins,
and what is left of the intervals is joined across small holes.

Durations in seconds are rational numbers here; the source computes them in floating point.
-/
namespace MiniDrop

open Base

/-- `continuousCoverageStatus`. -/
inductive CoverageStatus where
  | healthy
  | realGap
  | pendingUpload
  | targetIdle
  | startupGrace
  | shutdownGrace
  | collectorFailed
  | unknown
  deriving DecidableEq

/-- `continuousStatusInterval`: its weight is the sample count. -/
abbrev ContinuousStatusInterval := Band CoverageStatus

/-- `Seconds()` of a duration. -/
def seconds (duration : Int) : ℚ := duration / Time.second

def continuousTimelineGrace (session : ContinuousSessionRow) : Int :=
  orDefaultNat session.uploadBatchSec 60 * Time.second +
    2 * (orDefaultNat session.aggregationWindowSec 10 * Time.second) + 15 * Time.second

def continuousWindowCoverageStatus (window : ProfileWindow) : CoverageStatus :=
  if window.sampleCount > 0 ∨ window.signalStatus = "collected" then .healthy
  else if window.signalStatus = "target_idle" ∨ window.signalStatus = "no_events" then .targetIdle
  else if window.signalStatus = "unavailable" ∨ window.signalStatus = "failed" then .collectorFailed
  else .unknown

/-- `continuousSessionBoundaries`: the grace periods of a session. -/
structure ContinuousSessionBoundaries where
  (startupGrace shutdownGrace : Option ContinuousStatusInterval := none)

/-- The start of a session; old rows only have the time of their creation. -/
def sessionStart (session : ContinuousSessionRow) : Int :=
  if Time.isZero session.startedAt then session.createdAt else session.startedAt

/-- The first start and the last end of the windows with data; zero when there is none. -/
def dataBounds (merged : List ProfileWindow) : Int × Int :=
  merged.foldl (fun bounds window =>
    if continuousWindowCoverageStatus window ≠ .healthy then bounds
    else
      (if Time.isZero bounds.1 ∨ window.windowStart < bounds.1 then window.windowStart
        else bounds.1, if bounds.2 < window.windowEnd then window.windowEnd else bounds.2))
    (Time.zero, Time.zero)

/-- The part of an interval inside a range, if any. -/
def clipped (start stop fromTime toTime : Int) (status : CoverageStatus) (sampleCount : Nat) :
    Option ContinuousStatusInterval :=
  let start := max start fromTime
  let stop := min stop toTime
  if start < stop then some ⟨start, stop, status, sampleCount⟩ else none

def continuousSessionBoundariesFor (merged : List ProfileWindow) (session : ContinuousSessionRow)
    (fromTime toTime grace : Int) : ContinuousSessionBoundaries :=
  let startedAt := sessionStart session
  let (firstData, lastData) := dataBounds merged
  -- The startup grace waits for the first data.
  let startupEnd :=
    if ¬Time.isZero firstData ∧ firstData < startedAt + grace then firstData else startedAt + grace
  let lastDataEnd := if Time.isZero lastData then startedAt else lastData
  { startupGrace :=
      if fromTime < startupEnd ∧ startedAt < toTime then
        clipped startedAt startupEnd fromTime toTime .startupGrace 0
      else none
    shutdownGrace :=
      match session.stoppedAt with
      | some stoppedAt =>
        if lastDataEnd < stoppedAt then
          clipped lastDataEnd stoppedAt fromTime toTime .shutdownGrace 0
        else none
      | none => none }

def coverageStatusPriority : CoverageStatus → Int
  | .realGap => 5
  | .collectorFailed => 4
  | .targetIdle | .startupGrace | .shutdownGrace | .unknown => 3
  | .pendingUpload => 2
  | .healthy => 1

/-- The samples of an interval that belong to the part of it seen so far. -/
def cumulativeSamples (sampleCount : Nat) (progress : ℚ) : Nat :=
  if progress ≥ 1 - 1 / 10 ^ 9 then sampleCount
  else if sampleCount * progress > 0 then ⌊sampleCount * progress⌋₊
  else 0

/-- The pieces of the sweep as status intervals. An interval that is split hands out its samples by
the share of its length; `progress` and `allocated` say how much each has handed out. -/
def allocateSamples (intervals : List ContinuousStatusInterval) :
    (Nat → ℚ) → (Nat → Nat) → List Piece → List ContinuousStatusInterval
  | _, _, [] => []
  | progress, allocated, piece :: rest =>
    match intervals[piece.winner]? with
    | none => []
    | some winner =>
      let reached := progress piece.winner +
        seconds (piece.stop - piece.start) / seconds (winner.stop - winner.start)
      let cumulative := cumulativeSamples winner.weight reached
      ⟨piece.start, piece.stop, winner.label, cumulative - allocated piece.winner⟩ ::
        allocateSamples intervals (fun i => if i = piece.winner then reached else progress i)
          (fun i => if i = piece.winner then cumulative else allocated i) rest

/-- The first half of `mergeStatusIntervals`: disjoint intervals of the winning status. -/
def cutStatusIntervals (intervals : List ContinuousStatusInterval) :
    List ContinuousStatusInterval :=
  allocateSamples intervals (fun _ => 0) (fun _ => 0)
    (sweepRanges (ranges coverageStatusPriority intervals))

def mergeStatusIntervals (intervals : List ContinuousStatusInterval) (tolerance : Int) :
    List ContinuousStatusInterval :=
  joinNear tolerance (cutStatusIntervals intervals)

/-- Up to where data must have arrived: the finalised time, clipped to the range. -/
def finalTime (fromTime toTime finalizedTo : Int) : Int :=
  max fromTime (if ¬Time.isZero finalizedTo ∧ finalizedTo < toTime then finalizedTo else toTime)

/-- Where the pending tail begins: not inside the startup grace. -/
def pendingStart (boundaries : ContinuousSessionBoundaries) (finalTo : Int) : Int :=
  match boundaries.startupGrace with
  | some grace => max finalTo grace.stop
  | none => finalTo

/-- The windows, the grace periods and the pending tail. -/
def knownIntervals (merged : List ProfileWindow) (fromTime toTime finalizedTo : Int)
    (boundaries : ContinuousSessionBoundaries) : List ContinuousStatusInterval :=
  let pendingFrom := pendingStart boundaries (finalTime fromTime toTime finalizedTo)
  merged.filterMap (fun window =>
      clipped window.windowStart window.windowEnd fromTime toTime
        (continuousWindowCoverageStatus window) window.sampleCount) ++
    boundaries.startupGrace.toList ++ boundaries.shutdownGrace.toList ++
    (if pendingFrom < toTime then [⟨pendingFrom, toTime, .pendingUpload, 0⟩] else [])

/-- An interval without anything known: a real gap, or too short to call it one. -/
def gapInterval (gap : Int × Int) : ContinuousStatusInterval where
  start := gap.1
  stop := gap.2
  label := if gap.2 - gap.1 > pqCoverageMergeTolerance then .realGap else .unknown
  weight := 0

def continuousStatusIntervalsFor (merged : List ProfileWindow) (fromTime toTime finalizedTo : Int)
    (boundaries : ContinuousSessionBoundaries) : List ContinuousStatusInterval :=
  let known := knownIntervals merged fromTime toTime finalizedTo boundaries
  let nonGap := mergeStatusIntervals known pqCoverageMergeTolerance
  known ++ (gaps (finalTime fromTime toTime finalizedTo) fromTime nonGap).map gapInterval

structure ContinuousCoverageStats where
  (coveredSeconds redSeconds redFailedSeconds graySeconds pendingSeconds : ℚ := 0)
  sampleCount : Nat := 0

/-- One interval of the statistics. -/
def addInterval (stats : ContinuousCoverageStats) (interval : ContinuousStatusInterval) :
    ContinuousCoverageStats :=
  let d := seconds (interval.stop - interval.start)
  let stats := { stats with sampleCount := stats.sampleCount + interval.weight }
  match interval.label with
  | .healthy => { stats with coveredSeconds := stats.coveredSeconds + d }
  | .realGap => { stats with redSeconds := stats.redSeconds + d }
  | .collectorFailed =>
    { stats with
      redSeconds := stats.redSeconds + d, redFailedSeconds := stats.redFailedSeconds + d }
  | .pendingUpload => { stats with pendingSeconds := stats.pendingSeconds + d }
  | .targetIdle | .startupGrace | .shutdownGrace | .unknown =>
    { stats with graySeconds := stats.graySeconds + d }

def continuousCoverageStatsOf (intervals : List ContinuousStatusInterval) :
    ContinuousCoverageStats :=
  intervals.foldl addInterval {}

def continuousOverallStatus (stats : ContinuousCoverageStats) : String :=
  if stats.redSeconds > 0 then
    if stats.coveredSeconds > 0 then "mixed"
    else if stats.redFailedSeconds ≥ stats.redSeconds then "collector_failed"
    else "real_gap"
  else if stats.coveredSeconds > 0 then
    if stats.pendingSeconds > stats.coveredSeconds then "pending_upload"
    else if stats.graySeconds > stats.coveredSeconds then "target_idle"
    else "healthy"
  else if stats.pendingSeconds > 0 then "pending_upload"
  else if stats.graySeconds > 0 then "target_idle"
  else "unknown"

/-- A gap as the timeline lists it. -/
structure ContinuousTimelineGap where
  (start stop : Int)
  durationSeconds : ℚ
  type : CoverageStatus

/-- `continuousSignalCoverage`: the statistics and the gaps, without the bands for display. -/
structure ContinuousSignalCoverage where
  intervals : List ContinuousStatusInterval
  stats : ContinuousCoverageStats
  (totalSeconds ratio : ℚ)
  gaps : List ContinuousTimelineGap
  gapCountTotal : Nat
  status : String

def continuousCoverageGapDetailLimit : Nat := 20

/-- The share of the range that had data, where data was due. -/
def coverageRatio (stats : ContinuousCoverageStats) (totalSeconds : ℚ) : ℚ :=
  let denominator := totalSeconds - stats.graySeconds - stats.pendingSeconds
  if denominator > 0 then min 1 (stats.coveredSeconds / denominator) else 0

def continuousSignalCoverageV2 (merged : List ProfileWindow) (fromTime toTime finalizedTo : Int)
    (boundaries : ContinuousSessionBoundaries) : ContinuousSignalCoverage :=
  let intervals := mergeStatusIntervals
    (continuousStatusIntervalsFor merged fromTime toTime finalizedTo boundaries)
    pqCoverageMergeTolerance
  let stats := continuousCoverageStatsOf intervals
  let totalSeconds := seconds (toTime - fromTime)
  let red := intervals.filter fun interval =>
    interval.label = .realGap || interval.label = .collectorFailed
  let gaps := red.map fun interval =>
    (⟨interval.start, interval.stop, seconds (interval.stop - interval.start), interval.label⟩ :
      ContinuousTimelineGap)
  { intervals
    stats
    totalSeconds
    ratio := coverageRatio stats totalSeconds
    gaps := (orderBy (fun gap => -gap.durationSeconds) gaps).take
      continuousCoverageGapDetailLimit
    gapCountTotal := gaps.length
    status := continuousOverallStatus stats }

/-- The finalised time of `continuousFinalizationState`: the stop, or the later of the last batch
and the end of the grace period before now. `lastEnd` is the end of the latest batch, zero if
none. -/
def continuousFinalizedTo (session : ContinuousSessionRow) (lastEnd now : Int) : Int :=
  match session.stoppedAt with
  | some stoppedAt => stoppedAt
  | none =>
    let horizon := now - continuousTimelineGrace session
    max (if Time.isZero lastEnd then sessionStart session else lastEnd) horizon

end MiniDrop
