import Mathlib.Algebra.BigOperators.Ring.Finset
import Mathlib.Tactic.Ring
import MiniDrop.Server.Timeline
/-!
# The timeline accounts for every moment

The status intervals of a signal are built in separate passes: clipped windows, two grace periods,
a pending tail, and gaps where the first four leave something open. Cut by priority and joined, they
tile the requested range, so the statistics add up to its length.
-/
namespace MiniDrop

open Base List

/-! ## Cutting by priority -/

/-- The interval of a piece: its ends, and the status of the winner. -/
def OfPiece (intervals : List ContinuousStatusInterval) (piece : Piece)
    (interval : ContinuousStatusInterval) : Prop :=
  interval.start = piece.start ∧ interval.stop = piece.stop ∧
    ∃ winner, intervals[piece.winner]? = some winner ∧ winner.label = interval.label

variable {intervals : List ContinuousStatusInterval} {pieces : List Piece}
  {start stop fromTime toTime : Int} {status : CoverageStatus} {interval : ContinuousStatusInterval}

theorem allocateSamples_pieces
    (real : ∀ piece ∈ pieces, ∃ winner, intervals[piece.winner]? = some winner)
    (progress : Nat → ℚ) (allocated : Nat → Nat) :
    Forall₂ (OfPiece intervals) pieces (allocateSamples intervals progress allocated pieces) := by
  induction pieces generalizing progress allocated with
  | nil => exact Forall₂.nil
  | cons piece rest ih =>
    obtain ⟨winner, stored⟩ := real piece mem_cons_self
    rw [allocateSamples, stored]
    refine Forall₂.cons ⟨rfl, rfl, winner, stored, rfl⟩ (ih ?_ _ _)
    exact (forall_mem_cons.mp real).2

theorem ofPiece_ordered {result : List ContinuousStatusInterval}
    (matched : Forall₂ (OfPiece intervals) pieces result)
    (proper : ∀ piece ∈ pieces, piece.start < piece.stop)
    (apart : pieces.Pairwise fun a b => a.stop ≤ b.start) : Ordered result := by
  induction matched with
  | nil => exact ⟨forall_mem_nil _, Pairwise.nil⟩
  | @cons piece interval pieces rest same matched ih =>
    obtain ⟨first, others⟩ := pairwise_cons.mp apart
    have later := ih (forall_mem_cons.mp proper).2 others
    refine ⟨forall_mem_cons.mpr ⟨?_, later.proper⟩, pairwise_cons.mpr ⟨?_, later.apart⟩⟩
    · rw [same.1, same.2.1]
      exact proper piece mem_cons_self
    · intro other mem
      obtain ⟨source, sourceIn, ofSource⟩ := exists_left_of_mem matched mem
      rw [same.2.1, ofSource.1]
      exact first source sourceIn

theorem cutStatusIntervals_cuts (intervals : List ContinuousStatusInterval) :
    Cuts coverageStatusPriority intervals (cutStatusIntervals intervals) := by
  obtain ⟨proper, apart, wins, complete⟩ :=
    sweepRanges_spec (ranges coverageStatusPriority intervals)
  have real : ∀ piece ∈ sweepRanges (ranges coverageStatusPriority intervals),
      ∃ winner, intervals[piece.winner]? = some winner := by
    intro piece mem
    have win := wins piece mem piece.start (le_refl _) (proper piece mem)
    obtain ⟨winner, stored, -⟩ := active_ranges.mp win.1
    exact ⟨winner, stored⟩
  have matched := allocateSamples_pieces real (fun _ => 0) (fun _ => 0)
  refine ⟨ofPiece_ordered matched proper apart, ?_, ?_⟩
  · intro interval mem x covers
    obtain ⟨piece, pieceIn, starts, stops, winner, stored, label⟩ :=
      exists_left_of_mem matched mem
    have win := wins piece pieceIn x (starts ▸ covers.1) (stops ▸ covers.2)
    exact ⟨piece.winner, winner, win, stored, label⟩
  · intro x covered
    obtain ⟨index, active⟩ := covered_iff_active.mp covered
    obtain ⟨piece, pieceIn, lower, upper⟩ := complete x index active
    obtain ⟨interval, mem, starts, stops, -⟩ := exists_right_of_mem matched pieceIn
    exact ⟨interval, mem, starts ▸ lower, stops ▸ upper⟩

/-- For every list of intervals and every tolerance the merged intervals follow each other in time.
An instant that some interval covers lies in exactly one of them, with the status of the interval of
highest priority there, the first of these in the list. One that no interval covers is taken in only
inside a hole up to the tolerance, with the same status before and after it. -/
theorem mergeStatusIntervals_exact (intervals : List ContinuousStatusInterval) (tolerance : Int) :
    Ordered (mergeStatusIntervals intervals tolerance) ∧
      (∀ t, Covered intervals t → ∃ index interval, intervals[index]? = some interval ∧
        Wins (ranges coverageStatusPriority intervals) t index ∧
        ∃ merged ∈ mergeStatusIntervals intervals tolerance, merged.Covers t ∧
          merged.label = interval.label ∧
          ∀ other ∈ mergeStatusIntervals intervals tolerance, other.Covers t → other = merged) ∧
      ∀ t, ¬Covered intervals t → Covered (mergeStatusIntervals intervals tolerance) t →
        ∃ low high, low ≤ t ∧ t < high ∧ high - low ≤ tolerance ∧
          (∀ y, low ≤ y → y < high → ¬Covered intervals y) ∧
          ∃ i j before after, Wins (ranges coverageStatusPriority intervals) (low - 1) i ∧
            Wins (ranges coverageStatusPriority intervals) high j ∧ intervals[i]? = some before ∧
            intervals[j]? = some after ∧ before.label = after.label := by
  have cuts := cutStatusIntervals_cuts intervals
  have ordered : Ordered (mergeStatusIntervals intervals tolerance) := joinNear_ordered cuts.ordered
  refine ⟨ordered, fun t covered => ?_, fun t uncovered => ?_⟩
  · obtain ⟨segment, mem, covers⟩ := cuts.complete t covered
    obtain ⟨index, interval, wins, stored, label⟩ := cuts.wins segment mem t covers
    obtain ⟨merged, mergedIn, mergedCovers, same⟩ := joinNear_covers cuts.ordered mem covers
    refine ⟨index, interval, stored, wins, merged, mergedIn, mergedCovers,
      same.trans label.symm, ?_⟩
    exact fun other otherIn otherCovers => ordered.unique otherIn mergedIn otherCovers mergedCovers
  · rintro ⟨merged, mergedIn, mergedCovers⟩
    rcases joinNear_point cuts.ordered mergedIn mergedCovers with
      covered | ⟨a, aIn, b, bIn, near, lower, upper, -, -, apart⟩
    · exact absurd (cuts.covered_iff.mp covered) uncovered
    · -- The hole is bounded by the last instant of one segment and the first of the next.
      obtain ⟨i, before, winsI, storedI, labelI⟩ := cuts.wins a aIn _ (cuts.covers_ends aIn).2
      obtain ⟨j, after, winsJ, storedJ, labelJ⟩ := cuts.wins b bIn _ (cuts.covers_ends bIn).1
      refine ⟨a.stop, b.start, lower, upper, near.2, fun y fromA toB => ?_, i, j, before,
        after, winsI, winsJ, storedI, storedJ, labelI.trans (near.1.symm.trans labelJ.symm)⟩
      rw [← cuts.covered_iff]
      rintro ⟨segment, mem, covers⟩
      have starts := covers.1
      have stops := covers.2
      rcases apart segment mem with early | late <;> omega

/-! ## What is known of the range -/

/-- A clipped interval lies inside the range and inside the interval. -/
theorem clipped_spec {sampleCount : Nat}
    (some : clipped start stop fromTime toTime status sampleCount = some interval) :
    interval.start = max start fromTime ∧ interval.stop = min stop toTime := by
  unfold clipped at some
  dsimp only at some
  split at some
  · cases some
    exact ⟨rfl, rfl⟩
  · cases some

/-- The grace periods of a session, for a range that begins no earlier than the session. -/
structure GraceInside (boundaries : ContinuousSessionBoundaries) (fromTime toTime : Int) :
    Prop where
  startup : ∀ grace ∈ boundaries.startupGrace, grace.start = fromTime ∧ grace.stop ≤ toTime
  shutdown : ∀ grace ∈ boundaries.shutdownGrace, fromTime ≤ grace.start ∧ grace.stop ≤ toTime

theorem clipped_of_ite {condition : Prop} [Decidable condition]
    (mem : interval ∈ if condition then clipped start stop fromTime toTime status 0 else none) :
    interval.start = max start fromTime ∧ interval.stop = min stop toTime := by
  split at mem
  · exact clipped_spec mem
  · cases mem

/-- From the session's start on, the startup grace begins with the range. -/
theorem graceInside {session : ContinuousSessionRow}
    (started : sessionStart session ≤ fromTime) (merged : List ProfileWindow) (grace : Int) :
    GraceInside (continuousSessionBoundariesFor merged session fromTime toTime grace)
      fromTime toTime := by
  constructor
  · intro interval mem
    have ends := clipped_of_ite mem
    omega
  · intro interval mem
    unfold continuousSessionBoundariesFor at mem
    cases stopped : session.stoppedAt with
    | none =>
      rw [stopped] at mem
      cases mem
    | some =>
      rw [stopped] at mem
      have ends := clipped_of_ite mem
      omega

section Range

variable {merged : List ProfileWindow} {fromTime toTime finalizedTo : Int}
  {boundaries : ContinuousSessionBoundaries}

theorem finalTime_bounds (proper : fromTime < toTime) (finalizedTo : Int) :
    fromTime ≤ finalTime fromTime toTime finalizedTo ∧
      finalTime fromTime toTime finalizedTo ≤ toTime := by
  unfold finalTime
  split <;> omega

theorem finalTime_le_pendingStart (boundaries : ContinuousSessionBoundaries) (finalTo : Int) :
    finalTo ≤ pendingStart boundaries finalTo := by
  unfold pendingStart
  split <;> omega

variable {x : Int}

theorem knownIntervals_inside (proper : fromTime < toTime)
    (graces : GraceInside boundaries fromTime toTime)
    (covered : Covered (knownIntervals merged fromTime toTime finalizedTo boundaries) x) :
    fromTime ≤ x ∧ x < toTime := by
  obtain ⟨interval, mem, lower, upper⟩ := covered
  have final := finalTime_bounds proper finalizedTo
  simp only [knownIntervals, mem_append, mem_filterMap, Option.mem_toList] at mem
  rcases mem with ((⟨window, -, clip⟩ | startup) | shutdown) | pending
  · obtain ⟨starts, stops⟩ := clipped_spec clip
    omega
  · have := graces.startup interval startup
    omega
  · have := graces.shutdown interval shutdown
    omega
  · rw [mem_ite_nil_right, mem_singleton] at pending
    obtain ⟨-, rfl⟩ := pending
    have begins := finalTime_le_pendingStart boundaries (finalTime fromTime toTime finalizedTo)
    dsimp only at lower upper
    omega

/-- After the finalised time everything is known: it is starting up or pending. -/
theorem knownIntervals_tail (merged : List ProfileWindow)
    (graces : GraceInside boundaries fromTime toTime)
    (late : finalTime fromTime toTime finalizedTo ≤ x) (lower : fromTime ≤ x) (upper : x < toTime) :
    Covered (knownIntervals merged fromTime toTime finalizedTo boundaries) x := by
  by_cases begins : pendingStart boundaries (finalTime fromTime toTime finalizedTo) ≤ x
  · refine ⟨⟨_, toTime, .pendingUpload, 0⟩, ?_, begins, upper⟩
    refine mem_append_right _ ?_
    rw [mem_ite_nil_right, mem_singleton]
    exact ⟨by omega, rfl⟩
  · -- Only the startup grace can hold the tail back.
    unfold pendingStart at begins
    split at begins
    · next grace startup =>
      have starts := (graces.startup grace startup).1
      refine ⟨grace, ?_, by omega, by omega⟩
      simp [knownIntervals, startup]
    · exact absurd late begins

/-- The gaps that are filled in are what joining leaves open up to the finalised time. -/
theorem covered_gapIntervals {limit : Int} {intervals : List ContinuousStatusInterval}
    (ordered : Ordered intervals) :
    Covered ((gaps limit fromTime intervals).map gapInterval) x ↔
      fromTime ≤ x ∧ x < limit ∧ ¬Covered intervals x := by
  rw [← mem_gaps ordered]
  simp only [Covered, mem_map, exists_exists_and_eq_and]
  rfl

theorem statusIntervals_tile (proper : fromTime < toTime)
    (graces : GraceInside boundaries fromTime toTime) (merged : List ProfileWindow)
    (finalizedTo : Int) :
    Tiles fromTime toTime (mergeStatusIntervals
      (continuousStatusIntervalsFor merged fromTime toTime finalizedTo boundaries)
      pqCoverageMergeTolerance) := by
  let known := knownIntervals merged fromTime toTime finalizedTo boundaries
  have cuts := cutStatusIntervals_cuts known
  have fill : Fills coverageStatusPriority pqCoverageMergeTolerance fromTime toTime
      (finalTime fromTime toTime finalizedTo) known _ (cutStatusIntervals known)
      (cutStatusIntervals (continuousStatusIntervalsFor merged fromTime toTime finalizedTo
          boundaries)) :=
    { cuts
      cutsFilled := cutStatusIntervals_cuts _
      inside := fun x covered => knownIntervals_inside proper graces covered
      limitHigh := (finalTime_bounds proper finalizedTo).2
      tail := fun x late lower upper => knownIntervals_tail merged graces late lower upper
      fills := fun x => covered_gapIntervals (joinNear_ordered cuts.ordered) }
  exact fill.tiles proper

end Range

/-! ## Statistics -/

/-- The seconds of all four kinds. -/
def ContinuousCoverageStats.total (stats : ContinuousCoverageStats) : ℚ :=
  stats.coveredSeconds + stats.redSeconds + stats.graySeconds + stats.pendingSeconds

theorem addInterval_total (stats : ContinuousCoverageStats) (interval : ContinuousStatusInterval) :
    (addInterval stats interval).total = stats.total +
    seconds (interval.stop - interval.start) := by
  unfold addInterval ContinuousCoverageStats.total
  cases interval.label <;> dsimp only <;> ring

theorem statsOf_total (intervals : List ContinuousStatusInterval) :
    (continuousCoverageStatsOf intervals).total =
      seconds (intervals.map fun interval => interval.stop - interval.start).sum := by
  have fold (stats : ContinuousCoverageStats) : (intervals.foldl addInterval stats).total =
      stats.total + seconds (intervals.map fun interval => interval.stop - interval.start).sum := by
    induction intervals generalizing stats with
    | nil => simp [seconds]
    | cons interval rest ih =>
      rw [foldl_cons, ih, addInterval_total, map_cons, sum_cons]
      unfold seconds
      push_cast
      ring
  rw [continuousCoverageStatsOf, fold]
  simp [ContinuousCoverageStats.total]

/-- For every range that begins no earlier than the session, every list of windows, every grace and
every finalised time, the merged intervals of a signal tile the range, and the seconds of their four
kinds add up to its length. -/
theorem signal_coverage_tiles (all merged : List ProfileWindow) (session : ContinuousSessionRow)
    (grace fromTime toTime finalizedTo : Int) (proper : fromTime < toTime)
    (started : sessionStart session ≤ fromTime) :
    let coverage := continuousSignalCoverageV2 merged fromTime toTime finalizedTo
      (continuousSessionBoundariesFor all session fromTime toTime grace)
    Tiles fromTime toTime coverage.intervals ∧
      coverage.stats.coveredSeconds + coverage.stats.redSeconds + coverage.stats.graySeconds +
        coverage.stats.pendingSeconds = seconds (toTime - fromTime) := by
  have tiles := statusIntervals_tile proper (graceInside started all grace) merged finalizedTo
  refine ⟨tiles, ?_⟩
  rw [← tiles.sum_length]
  exact statsOf_total _

/-- A session that started ten minutes before the range ends: two windows of data with a short hole
between them, an idle one, and a tail that is not uploaded yet. -/
theorem young_session_tiles :
    let windows : List ProfileWindow :=
      [{ windowStart := 100000, windowEnd := 200000, sampleCount := 7 },
        { windowStart := 203000, windowEnd := 300000, sampleCount := 5 },
        { windowStart := 300000, windowEnd := 400000, signalStatus := "target_idle" }]
    let session : ContinuousSessionRow := { startedAt := 50000 }
    let coverage := continuousSignalCoverageV2 windows 60000 650000
      (continuousFinalizedTo session 400000 650000)
      (continuousSessionBoundariesFor windows session 60000 650000
        (continuousTimelineGrace session))
    Tiles 60000 650000 coverage.intervals ∧
      coverage.stats.coveredSeconds + coverage.stats.redSeconds + coverage.stats.graySeconds +
        coverage.stats.pendingSeconds = seconds (650000 - 60000) :=
  signal_coverage_tiles _ _ _ _ 60000 650000 _ (by decide) (by decide)

end MiniDrop
