import MiniDrop.Server.Coverage
/-!
# What a coverage rebuild keeps

A rebuild covers exactly the bridged instants of its sources. Rebuilding after window rows were
removed therefore keeps the timeline exactly when the remaining rows, or the block members that
replace them, still bridge every instant of the removed rows.
-/
namespace MiniDrop

open Base Time List

variable {members : List ContinuousParquetBlockMember} {windows : List ProfileWindow}
  {signal : LedgerSignal} {sourceBlock : String} {hourStart : Int}

section Sources

variable {hourStart : Int} {signal : LedgerSignal} {sg : CoverageSource}

/-- A window row that a rebuild of the hour and signal takes as a source. -/
def countedWindow (hourStart : Int) (signal : LedgerSignal) (w : ProfileWindow) : Bool :=
  decide (w.windowStart < hourStart + hour) && decide (hourStart < w.windowEnd) &&
    decide (w.signalType ∈ pqV1SignalTypesFor signal) &&
    usableSpan w.sessionSID w.windowStart w.windowEnd

/-- The source of a window row. -/
def sourceOf (hourStart : Int) (w : ProfileWindow) : CoverageSource :=
  clipSource hourStart (hourStart + hour) w.sessionSID w.signalType w.windowStart w.windowEnd
    w.sampleCount

theorem mem_windowSources : sg ∈ windowSources hourStart signal windows ↔
      ∃ w ∈ windows, countedWindow hourStart signal w = true ∧ sourceOf hourStart w = sg := by
  simp [windowSources, mem_orderBy, countedWindow, sourceOf, and_assoc]

theorem sourceOf_bounds {w : ProfileWindow} (counted : countedWindow hourStart signal w = true) :
    hourStart ≤ (sourceOf hourStart w).start ∧
      (sourceOf hourStart w).start < (sourceOf hourStart w).stop ∧
      (sourceOf hourStart w).stop ≤ hourStart + hour := by
  simp only [countedWindow, usableSpan, Bool.and_eq_true, decide_eq_true_eq] at counted
  simp only [sourceOf, clipSource, hour, minute, second] at *
  split_ifs <;> omega

theorem clip_start_mono {fromTime a b : Int} (order : a ≤ b) :
    (if a < fromTime then fromTime else a) ≤ (if b < fromTime then fromTime else b) := by
  split_ifs <;> omega

/-- Within a series the sources from windows are ordered by start. -/
theorem windowSources_ordered (hourStart : Int) (signal : LedgerSignal)
    (windows : List ProfileWindow) (key : String × String) :
    (seriesOf (windowSources hourStart signal windows) key).Pairwise
      fun a b => a.start ≤ b.start := by
  have sorted := (orderBy_pairwise (fun w : ProfileWindow => toLex (w.sessionSID, w.windowStart))
    (windows.filter fun w => decide (w.windowStart < hourStart + hour) &&
      decide (hourStart < w.windowEnd) && decide (w.signalType ∈ pqV1SignalTypesFor signal)))
  have sources : (windowSources hourStart signal windows).Pairwise
      fun a b => a.sessionSID = b.sessionSID → a.start ≤ b.start := by
    refine pairwise_map.mpr ((sorted.filter _).imp ?_)
    intro a b order same
    rcases Prod.Lex.le_iff.mp order with less | ⟨_, less⟩
    · exact absurd same (ne_of_lt less)
    · exact clip_start_mono less
  refine (sources.filter _).imp_of_mem ?_
  intro a b left right order
  have leftKey := of_decide_eq_true (mem_filter.mp left).2
  have rightKey := of_decide_eq_true (mem_filter.mp right).2
  exact order (congrArg Prod.fst (leftKey.trans rightKey.symm))

/-- A member that a rebuild takes as a source. -/
def countedMember (sourceBlock : String) (m : ContinuousParquetBlockMember) : Bool :=
  decide (m.blockID = sourceBlock) && usableSpan m.sessionSID m.startTime m.endTime

theorem mem_memberSources : sg ∈ memberSources hourStart signal sourceBlock members ↔
      ∃ m ∈ members, countedMember sourceBlock m = true ∧
        clipSource hourStart (hourStart + hour) m.sessionSID (firstSignalType signal)
          m.startTime m.endTime m.sampleCount = sg := by
  simp [memberSources, mem_orderBy, countedMember, and_assoc]

theorem memberSources_ordered (hourStart : Int) (signal : LedgerSignal) (sourceBlock : String)
    (members : List ContinuousParquetBlockMember) :
    (memberSources hourStart signal sourceBlock members).Pairwise fun a b => a.start ≤ b.start := by
  have sorted := orderBy_pairwise (fun m : ContinuousParquetBlockMember => m.startTime)
    (members.filter fun m => m.blockID = sourceBlock)
  refine pairwise_map.mpr ((sorted.filter _).imp ?_)
  intro a b order
  exact clip_start_mono order

end Sources

/-- An instant that the joined segments of a series cover: inside one of its stretches, or in a gap
of at most the tolerance after one of them. -/
def bridgedAt (sources : List CoverageSource) (t : Int) : Prop :=
  ∃ u ∈ sources, u.start ≤ t ∧
    (t < u.stop ∨ ∃ v ∈ sources, t < v.start ∧ v.start ≤ u.stop + pqCoverageMergeTolerance)

section Merge

variable {tenant sourceBlock : String} {sourceVersion : Nat}

variable (sources : List CoverageSource)
include sources

/-- Every segment of a series carries the tenant and the name of the series. -/
theorem runs_named (key : String × String) :
    ∀ segment ∈ (coverageCoalescer tenant sourceBlock sourceVersion).runs (seriesOf sources key),
      segment.tenant = tenant ∧ (segment.sessionSID, segment.signalType) = key := by
  refine Coalescer.runs_forall _ ?_ ?_
  · intro sg mem
    exact ⟨rfl, of_decide_eq_true (mem_filter.mp mem).2⟩
  · intro segment named sg _
    exact named

/-- The merged segments cover the bridged instants of each series. -/
theorem coveredAt_mergeSources (sessionSID signalType : String)
    (proper : ∀ sg ∈ sources, sg.start ≤ sg.stop)
    (ordered : (seriesOf sources (sessionSID, signalType)).Pairwise fun a b => a.start ≤ b.start)
    (t : Int) :
    coveredAt (mergeSources tenant sourceBlock sourceVersion sources) sessionSID signalType t
        = true ↔
      bridgedAt (seriesOf sources (sessionSID, signalType)) t := by
  let c := coverageCoalescer tenant sourceBlock sourceVersion
  have spans : t ∈ spanUnion c.runStart c.runStop
      (c.runs (seriesOf sources (sessionSID, signalType))) ↔
      c.Bridged (seriesOf sources (sessionSID, signalType)) t :=
    c.mem_runs_iff (fun sg mem => proper sg (mem_filter.mp mem).1) ordered t
  have bridged : c.Bridged (seriesOf sources (sessionSID, signalType)) t ↔
      bridgedAt (seriesOf sources (sessionSID, signalType)) t := Iff.rfl
  rw [← bridged, ← spans]
  simp only [coveredAt, any_eq_true, Bool.and_eq_true, decide_eq_true_eq, mergeSources,
    mem_flatMap, mem_distinct, mem_map, mem_reverse]
  constructor
  · rintro ⟨segment, ⟨key, _, mem⟩, ⟨⟨session, name⟩, lower⟩, upper⟩
    have named := (runs_named sources key segment mem).2
    rw [session, name] at named
    subst named
    exact ⟨segment, mem, lower, upper⟩
  · rintro ⟨segment, mem, lower, upper⟩
    have named := (runs_named sources _ segment mem).2
    refine ⟨segment, ⟨(sessionSID, signalType), ?_, mem⟩, ⟨⟨?_, ?_⟩, lower⟩, upper⟩
    · -- The series is not empty, since it has a run.
      cases shape : seriesOf sources (sessionSID, signalType) with
      | nil => rw [shape] at mem; exact absurd mem not_mem_nil
      | cons sg =>
        have first : sg ∈ seriesOf sources (sessionSID, signalType) := by
          rw [shape]; exact mem_cons_self
        obtain ⟨source, same⟩ := mem_filter.mp first
        exact ⟨sg, source, of_decide_eq_true same⟩
    · exact congrArg Prod.fst named
    · exact congrArg Prod.snd named

theorem mergeSources_inHour {fromTime toTime : Int}
    (inside : ∀ sg ∈ sources, fromTime ≤ sg.start ∧ sg.stop ≤ toTime) :
    ∀ segment ∈ mergeSources tenant sourceBlock sourceVersion sources,
      segment.tenant = tenant ∧ fromTime ≤ segment.segmentStart ∧ segment.segmentEnd ≤ toTime := by
  intro segment mem
  obtain ⟨key, _, mem⟩ := mem_flatMap.mp mem
  rw [mem_reverse] at mem
  refine ⟨(runs_named sources key segment mem).1, ?_⟩
  refine Coalescer.runs_forall (coverageCoalescer tenant sourceBlock sourceVersion)
    (P := fun segment => fromTime ≤ segment.segmentStart ∧ segment.segmentEnd ≤ toTime)
    ?_ ?_ segment mem
  · intro sg mem
    exact inside sg (mem_filter.mp mem).1
  · intro segment bounds sg mem
    have bound := (inside sg (mem_filter.mp mem).1).2
    refine ⟨bounds.1, ?_⟩
    show (if segment.segmentEnd < sg.stop then sg.stop else segment.segmentEnd) ≤ toTime
    split
    · exact bound
    · exact bounds.2

end Merge

/-- One hour and signal of the timeline with the rows a rebuild reads. The segment table holds one
tenant, and no segment leaves the hour it starts in; the members of the block are hulls of windows
that touch its hour. -/
structure CoverageHour where
  /-- The tenant of the table. -/
  tenant : String
  /-- Start of the block's hour. -/
  hourStart : Int
  /-- The block's signal. -/
  signal : LedgerSignal
  /-- The active raw block of the hour. -/
  sourceBlock : String
  /-- The window rows in the catalog. -/
  windows : List ProfileWindow
  /-- The member rows in the catalog. -/
  members : List ContinuousParquetBlockMember
  /-- The segment table. -/
  segments : List ContinuousCoverageSegment
  /-- Blocks start on the hour. -/
  aligned : truncateHour hourStart = hourStart
  /-- Members of the block touch its hour. -/
  touching : ∀ m ∈ members, m.blockID = sourceBlock →
    m.startTime ≤ hourStart + hour ∧ hourStart ≤ m.endTime
  /-- All segments belong to the tenant. -/
  owned : ∀ segment ∈ segments, segment.tenant = tenant
  /-- Segments end in the hour they start in. -/
  inHour : ∀ segment ∈ segments,
    segment.segmentEnd ≤ truncateHour segment.segmentStart + hour

namespace CoverageHour

variable (state : CoverageHour)

/-- The sources of a rebuild in this state. -/
def sources : List CoverageSource :=
  rebuildSources state.hourStart state.signal state.sourceBlock state.windows state.members

theorem sources_bounds {sg : CoverageSource} (mem : sg ∈ state.sources) :
    state.hourStart ≤ sg.start ∧ sg.start ≤ sg.stop ∧ sg.stop ≤ state.hourStart + hour := by
  simp only [sources, rebuildSources] at mem
  split at mem
  · obtain ⟨m, inTable, counted, rfl⟩ := mem_memberSources.mp mem
    simp only [countedMember, usableSpan, Bool.and_eq_true, decide_eq_true_eq] at counted
    obtain ⟨block, _, proper⟩ := counted
    have touch := state.touching m inTable block
    simp only [clipSource, hour, minute, second] at *
    split_ifs <;> omega
  · obtain ⟨w, _, counted, rfl⟩ := mem_windowSources.mp mem
    have bounds := sourceOf_bounds counted
    exact ⟨bounds.1, le_of_lt bounds.2.1, bounds.2.2⟩

theorem sources_ordered (key : String × String) :
    (seriesOf state.sources key).Pairwise fun a b => a.start ≤ b.start := by
  simp only [sources, rebuildSources]
  split
  · exact (memberSources_ordered _ _ _ _).filter _
  · exact windowSources_ordered _ _ _ key

theorem rebuilt_cases {segment : ContinuousCoverageSegment} {version : Nat}
    (mem : segment ∈ pqRebuildCoverageSegmentsTx state.tenant state.hourStart state.signal
      state.sourceBlock version state.windows state.members state.segments) :
    segment ∈ state.segments ∨ (segment.tenant = state.tenant ∧
      state.hourStart ≤ segment.segmentStart ∧ segment.segmentEnd ≤ state.hourStart + hour) := by
  simp only [pqRebuildCoverageSegmentsTx] at mem
  split at mem
  · exact .inl mem
  rcases mem_append.mp mem with old | new
  · exact .inl (mem_filter.mp old).1
  · exact .inr (mergeSources_inHour _ (fun sg source =>
      ⟨(state.sources_bounds source).1, (state.sources_bounds source).2.2⟩) segment new)

/-- The rebuild as a step of the state. -/
def rebuild (sourceVersion : Nat) : CoverageHour where
  tenant := state.tenant
  hourStart := state.hourStart
  signal := state.signal
  sourceBlock := state.sourceBlock
  windows := state.windows
  members := state.members
  segments := pqRebuildCoverageSegmentsTx state.tenant state.hourStart state.signal
    state.sourceBlock sourceVersion state.windows state.members state.segments
  aligned := state.aligned
  touching := state.touching
  owned := by
    intro segment mem
    rcases state.rebuilt_cases mem with old | ⟨own, -⟩
    · exact state.owned segment old
    · exact own
  inHour := by
    intro segment mem
    rcases state.rebuilt_cases mem with old | ⟨-, lower, upper⟩
    · exact state.inHour segment old
    · have hours := state.aligned.symm.trans_le (truncateHour_mono lower)
      exact upper.trans (Int.add_le_add_right hours _)

/-- Without sources the table stays; with sources the hour shows the bridged instants of each
series and every other hour stays. -/
theorem coveredAt_rebuild (sourceVersion : Nat) (sessionSID : String) {signalType : String}
    (subtype : signalType ∈ pqV1SignalTypesFor state.signal) (t : Int) :
    coveredAt (state.rebuild sourceVersion).segments sessionSID signalType t = true ↔
      (state.sources = [] ∧ coveredAt state.segments sessionSID signalType t = true) ∨
      (state.sources ≠ [] ∧ ((¬(state.hourStart ≤ t ∧ t < state.hourStart + hour) ∧
            coveredAt state.segments sessionSID signalType t = true) ∨
          bridgedAt (seriesOf state.sources (sessionSID, signalType)) t)) := by
  have table : (state.rebuild sourceVersion).segments = if state.sources = [] then state.segments
      else state.segments.filter
          (fun segment => !replacedSegment state.tenant state.hourStart state.signal segment) ++
        mergeSources state.tenant state.sourceBlock sourceVersion state.sources := rfl
  rw [table]
  by_cases none : state.sources = []
  · simp [none]
  have merged : coveredAt (mergeSources state.tenant state.sourceBlock sourceVersion state.sources)
      sessionSID signalType t = true ↔ _ :=
    coveredAt_mergeSources state.sources sessionSID signalType
      (fun sg mem => (state.sources_bounds mem).2.1)
      (state.sources_ordered (sessionSID, signalType)) t
  rw [if_neg none]
  simp only [none, false_and, ne_eq, not_false_eq_true, true_and, false_or]
  rw [coveredAt, any_append, Bool.or_eq_true]
  refine or_congr ?_ merged
  -- A segment that covers an instant of the hour starts in the hour, so it was replaced.
  have located : ∀ segment ∈ state.segments, segment.segmentStart ≤ t → t < segment.segmentEnd →
      ((state.hourStart ≤ segment.segmentStart ∧ segment.segmentStart < state.hourStart + hour) ↔
        (state.hourStart ≤ t ∧ t < state.hourStart + hour)) := by
    intro segment mem lower upper
    have bound := state.inHour segment mem
    have aligned := state.aligned
    simp only [truncateHour, hour, minute, second] at *
    omega
  simp only [coveredAt, any_eq_true, mem_filter, Bool.and_eq_true, decide_eq_true_eq,
    Bool.not_eq_true', replacedSegment, Bool.and_eq_false_iff, decide_eq_false_iff_not]
  constructor
  · rintro ⟨segment, ⟨mem, outside⟩, ⟨⟨session, name⟩, lower⟩, upper⟩
    refine ⟨?_, segment, mem, ⟨⟨session, name⟩, lower⟩, upper⟩
    rw [← located segment mem lower upper]
    rcases outside with ((other | other) | early) | late
    · exact absurd (state.owned segment mem) other
    · exact absurd (mem_append_left [state.signal.name] (name ▸ subtype)) other
    · exact fun both => early both.1
    · exact fun both => late both.2
  · rintro ⟨outside, segment, mem, ⟨⟨session, name⟩, lower⟩, upper⟩
    refine ⟨segment, ⟨mem, ?_⟩, ⟨⟨session, name⟩, lower⟩, upper⟩
    rw [← located segment mem lower upper] at outside
    by_cases early : state.hourStart ≤ segment.segmentStart
    · exact .inr fun late => outside ⟨early, late⟩
    · exact .inl (.inr early)

/-- Garbage collection of window rows: the rows `keep` accepts stay. -/
def collect (keep : ProfileWindow → Bool) : CoverageHour :=
  { state with windows := state.windows.filter keep }

/-- The timeline still shows every instant it showed, for every session and window signal. -/
def KeepsCoverage (before after : CoverageHour) : Prop :=
  ∀ sessionSID, ∀ signalType ∈ pqV1SignalTypesFor before.signal, ∀ t,
    coveredAt before.segments sessionSID signalType t = true →
      coveredAt after.segments sessionSID signalType t = true

/-- A window row that a rebuild takes. -/
abbrev counts (w : ProfileWindow) : Bool := countedWindow state.hourStart state.signal w

/-- The sources from the window rows. -/
abbrev windowed : List CoverageSource :=
  windowSources state.hourStart state.signal state.windows

/-- The sources bridge every instant of a window row. -/
def Bridges (sources : List CoverageSource) (u : ProfileWindow) : Prop :=
  ∀ t, (sourceOf state.hourStart u).start ≤ t → t < (sourceOf state.hourStart u).stop →
    bridgedAt (seriesOf sources (u.sessionSID, u.signalType)) t

/-- What must remain when only the window rows that `keep` accepts stay. While a usable window
remains, the remaining windows of a series bridge each removed one of it. When none remains but the
block has usable members, the members, which are filed under the first window signal, bridge every
window. -/
structure Retained (keep : ProfileWindow → Bool) : Prop where
  /-- Removed windows are bridged by remaining ones. -/
  windows : ∀ w ∈ state.windows, state.counts w = true → keep w = true →
    ∀ u ∈ state.windows, state.counts u = true → keep u = false →
      state.Bridges (state.collect keep).windowed u
  /-- Members stand in for windows when all usable ones are removed. -/
  members : (∀ w ∈ state.windows, state.counts w = true → keep w = false) →
    ∀ m ∈ state.members, countedMember state.sourceBlock m = true →
      ∀ u ∈ state.windows, state.counts u = true → state.Bridges
        (memberSources state.hourStart state.signal state.sourceBlock state.members) u

theorem bridgedAt_inHour {key : String × String} {t : Int}
    (bridged : bridgedAt (seriesOf state.sources key) t) :
    state.hourStart ≤ t ∧ t < state.hourStart + hour := by
  obtain ⟨u, mem, lower, rest⟩ := bridged
  have bounds := state.sources_bounds (mem_filter.mp mem).1
  rcases rest with upper | ⟨v, next, above, _⟩
  · omega
  · have later := state.sources_bounds (mem_filter.mp next).1
    omega

theorem eq_nil_of_mem_iff {ρ : Type} {rows : List ρ} {counts : ρ → Bool}
    {source : ρ → CoverageSource} {sources : List CoverageSource}
    (mem : ∀ {sg}, sg ∈ sources ↔ ∃ row ∈ rows, counts row = true ∧ source row = sg) :
    sources = [] ↔ ∀ row ∈ rows, counts row = false := by
  simp only [eq_nil_iff_forall_not_mem, mem, not_exists, not_and, Bool.eq_false_iff, ne_eq]
  exact ⟨fun none row mem counted => none _ row mem counted rfl,
    fun none _ row mem counted _ => none row mem counted⟩

theorem windowed_eq_nil {state : CoverageHour} :
    state.windowed = [] ↔ ∀ w ∈ state.windows, state.counts w = false :=
  eq_nil_of_mem_iff mem_windowSources

theorem memberSources_eq_nil :
    memberSources hourStart signal sourceBlock members = [] ↔
      ∀ m ∈ members, countedMember sourceBlock m = false := eq_nil_of_mem_iff mem_memberSources

theorem sources_of_windows (some : state.windowed ≠ []) : state.sources = state.windowed := by
  simp only [sources, rebuildSources, if_neg some]

theorem sources_of_members (none : state.windowed = []) :
    state.sources = memberSources state.hourStart state.signal state.sourceBlock state.members := by
  simp only [sources, rebuildSources, if_pos none]

/-- A rebuild from windows followed by a rebuild from some other sources keeps the timeline exactly
when these bridge every window. -/
theorem keeps_iff_bridged (later : CoverageHour) (first second : Nat)
    (table : later.segments = (state.rebuild first).segments)
    (sameHour : later.hourStart = state.hourStart) (sameSignal : later.signal = state.signal)
    (some : state.windowed ≠ []) (left : later.sources ≠ []) :
    (state.rebuild first).KeepsCoverage (later.rebuild second) ↔
      ∀ u ∈ state.windows, state.counts u = true → state.Bridges later.sources u := by
  have fromWindows := state.sources_of_windows some
  have sources : state.sources ≠ [] := fromWindows ▸ some
  constructor
  · intro keeps u mem counted t lower upper
    have subtype : u.signalType ∈ pqV1SignalTypesFor state.signal := by
      simp only [countedWindow, Bool.and_eq_true, decide_eq_true_eq] at counted
      exact counted.1.2
    have inSeries : sourceOf state.hourStart u ∈
        seriesOf state.sources (u.sessionSID, u.signalType) := by
      refine mem_filter.mpr ⟨?_, decide_eq_true rfl⟩
      rw [fromWindows]
      exact mem_windowSources.mpr ⟨u, mem, counted, rfl⟩
    have bridged : bridgedAt (seriesOf state.sources (u.sessionSID, u.signalType)) t :=
      ⟨_, inSeries, lower, .inl upper⟩
    have shown := keeps u.sessionSID u.signalType subtype t
      ((state.coveredAt_rebuild first u.sessionSID subtype t).mpr (.inr ⟨sources, .inr bridged⟩))
    have inside := state.bridgedAt_inHour bridged
    rcases (later.coveredAt_rebuild second u.sessionSID (sameSignal ▸ subtype) t).mp shown with
      ⟨empty, _⟩ | ⟨_, ⟨outside, _⟩ | kept⟩
    · exact absurd empty left
    · exact absurd (sameHour ▸ inside) outside
    · exact kept
  · intro covers sessionSID signalType subtype t shown
    refine (later.coveredAt_rebuild second sessionSID (sameSignal ▸ subtype) t).mpr
      (.inr ⟨left, ?_⟩)
    rcases (state.coveredAt_rebuild first sessionSID subtype t).mp shown with
      ⟨empty, _⟩ | ⟨_, ⟨outside, _⟩ | bridged⟩
    · exact absurd empty sources
    · rw [sameHour, table]
      exact .inl ⟨outside, shown⟩
    · refine .inr ?_
      -- The gaps follow from the stretches themselves.
      have positive : ∀ u ∈ seriesOf state.sources (sessionSID, signalType), u.start < u.stop := by
        intro u mem
        have inSources := (mem_filter.mp mem).1
        rw [fromWindows] at inSources
        obtain ⟨w, _, counted, rfl⟩ := mem_windowSources.mp inSources
        exact (sourceOf_bounds counted).2.1
      refine (Coalescer.bridged_subset_iff (coverageCoalescer "" "" 0) positive
        (fun u mem => (later.sources_bounds (mem_filter.mp mem).1).2.1)
        (later.sources_ordered (sessionSID, signalType))).mpr ?_ t bridged
      intro u mem t lower upper
      obtain ⟨inSources, named⟩ := mem_filter.mp mem
      rw [fromWindows] at inSources
      obtain ⟨w, inTable, counted, rfl⟩ := mem_windowSources.mp inSources
      have key := of_decide_eq_true named
      exact key ▸ covers w inTable counted t lower upper

section Collected

variable {keep : ProfileWindow → Bool} {first second : Nat}

section

variable (none : state.windowed = [])
include none

/-- Without a usable window nothing that a rebuild reads is removed. -/
theorem keeps_of_unused :
    (state.rebuild first).KeepsCoverage (((state.rebuild first).collect keep).rebuild second) := by
  let later := (state.rebuild first).collect keep
  have uncounted := windowed_eq_nil.mp none
  have stillNone : later.windowed = [] :=
    windowed_eq_nil.mpr fun w mem => uncounted w (mem_filter.mp mem).1
  have same : later.sources = state.sources := by
    rw [later.sources_of_members stillNone, state.sources_of_members none]
    rfl
  intro sessionSID signalType subtype t shown
  apply (later.coveredAt_rebuild second sessionSID subtype t).mpr
  rw [same]
  rcases (state.coveredAt_rebuild first sessionSID subtype t).mp shown with
    ⟨empty, _⟩ | ⟨left, ⟨outside, _⟩ | bridged⟩
  · exact .inl ⟨empty, shown⟩
  · exact .inr ⟨left, .inl ⟨outside, shown⟩⟩
  · exact .inr ⟨left, .inr bridged⟩

theorem retained_of_unused : state.Retained keep := by
  have uncounted := windowed_eq_nil.mp none
  constructor
  · intro w mem counted
    rw [uncounted w mem] at counted
    cases counted
  · intro _ m _ _ u mem counted
    rw [uncounted u mem] at counted
    cases counted

end

theorem keeps_iff_of_removed (some : state.windowed ≠ [])
    (noneKept : ∀ w ∈ state.windows, state.counts w = true → ¬keep w = true) :
    (state.rebuild first).KeepsCoverage (((state.rebuild first).collect keep).rebuild second) ↔
      state.Retained keep := by
  let later := (state.rebuild first).collect keep
  have remains : later.windowed = [] := by
    refine windowed_eq_nil.mpr fun w mem => ?_
    obtain ⟨inTable, kept⟩ := mem_filter.mp mem
    exact Bool.eq_false_iff.mpr fun counted => noneKept w inTable counted kept
  have fromMembers : later.sources =
      memberSources state.hourStart state.signal state.sourceBlock state.members :=
    later.sources_of_members remains
  by_cases empty : later.sources = []
  · have noMember := memberSources_eq_nil.mp (fromMembers ▸ empty)
    constructor
    · intro _
      refine ⟨fun w mem counted kept => absurd kept (noneKept w mem counted), ?_⟩
      intro _ m mem counted
      rw [noMember m mem] at counted
      cases counted
    · intro _ sessionSID signalType subtype t shown
      exact (later.coveredAt_rebuild second sessionSID subtype t).mpr (.inl ⟨empty, shown⟩)
  · rw [state.keeps_iff_bridged later first second rfl rfl rfl some empty, fromMembers]
    constructor
    · intro covers
      exact ⟨fun w mem counted kept => absurd kept (noneKept w mem counted),
        fun _ _ _ _ => covers⟩
    · intro retained
      obtain ⟨m, mem, counted⟩ : ∃ m ∈ state.members,
          countedMember state.sourceBlock m = true := by
        by_contra absent
        push Not at absent
        apply empty
        rw [fromMembers]
        exact memberSources_eq_nil.mpr fun m mem => Bool.eq_false_iff.mpr (absent m mem)
      exact retained.members (fun w inTable counted =>
        Bool.eq_false_iff.mpr (noneKept w inTable counted)) m mem counted

theorem keeps_iff_of_kept {kept : ProfileWindow} (inTable : kept ∈ state.windows)
    (counted : state.counts kept = true) (accepted : keep kept = true) :
    (state.rebuild first).KeepsCoverage (((state.rebuild first).collect keep).rebuild second) ↔
      state.Retained keep := by
  let later := (state.rebuild first).collect keep
  have some : state.windowed ≠ [] := by
    intro none
    rw [windowed_eq_nil.mp none kept inTable] at counted
    cases counted
  have remains : later.windowed ≠ [] := by
    intro none
    have gone := windowed_eq_nil.mp none kept (mem_filter.mpr ⟨inTable, accepted⟩)
    exact absurd (counted.symm.trans gone) (by decide)
  have fromWindows : later.sources = (state.collect keep).windowed :=
    later.sources_of_windows remains
  rw [state.keeps_iff_bridged later first second rfl rfl rfl some (fromWindows ▸ remains),
    fromWindows]
  constructor
  · intro covers
    refine ⟨fun _ _ _ _ u mem counted _ => covers u mem counted, fun gone => ?_⟩
    rw [gone kept inTable counted] at accepted
    cases accepted
  · intro retained u mem countedU t lower upper
    by_cases still : keep u = true
    · refine ⟨sourceOf state.hourStart u, mem_filter.mpr ⟨?_, decide_eq_true rfl⟩, lower,
        .inl upper⟩
      exact mem_windowSources.mpr ⟨u, mem_filter.mpr ⟨mem, still⟩, countedU, rfl⟩
    · exact retained.windows kept inTable counted accepted u mem countedU
        (Bool.eq_false_iff.mpr still) t lower upper

end Collected

/-- **Rebuilding after garbage collection keeps the timeline exactly when the removed windows stay
bridged.** -/
theorem rebuild_keeps_coverage_iff (state : CoverageHour) (keep : ProfileWindow → Bool)
    (first second : Nat) :
    (state.rebuild first).KeepsCoverage (((state.rebuild first).collect keep).rebuild second) ↔
      state.Retained keep := by
  by_cases none : state.windowed = []
  · exact iff_of_true (state.keeps_of_unused none) (state.retained_of_unused none)
  by_cases remains : ∃ w ∈ state.windows, state.counts w = true ∧ keep w = true
  · obtain ⟨kept, mem, counted, accepted⟩ := remains
    exact state.keeps_iff_of_kept mem counted accepted
  · push Not at remains
    exact state.keeps_iff_of_removed none remains

/-- An hour with two windows of one series a minute apart, from two batches. -/
def twoBatchHour : CoverageHour where
  tenant := "default"
  hourStart := 1767225600000
  signal := .histogram
  sourceBlock := "pqb-1"
  windows :=
    [{ id := 1, sessionSID := "s1", batchBID := "b1", windowStart := 1767225600000,
       windowEnd := 1767225610000, objectKey := "continuous/s1/b1.json", sampleCount := 4,
       signalType := "io_latency", signalStatus := "collected" },
     { id := 2, sessionSID := "s1", batchBID := "b2", windowStart := 1767225660000,
       windowEnd := 1767225670000, objectKey := "continuous/s1/b2.json", sampleCount := 4,
       signalType := "io_latency", signalStatus := "collected" }]
  members :=
    [{ blockID := "pqb-1", sourceRef := "b1", sessionSID := "s1", startTime := 1767225600000,
       endTime := 1767225610000, sampleCount := 4, valueTotal := 4, rowCount := 1 },
     { blockID := "pqb-1", sourceRef := "b2", sessionSID := "s1", startTime := 1767225660000,
       endTime := 1767225670000, sampleCount := 4, valueTotal := 4, rowCount := 1 }]
  segments := []
  aligned := by decide
  touching := by decide
  owned := by decide
  inHour := by decide

/-- Removing the first batch's window and rebuilding forgets the first ten seconds, although the
block still lists the batch as a member. -/
theorem twoBatchHour_loses_first_window :
    ¬(twoBatchHour.rebuild 1).KeepsCoverage
      (((twoBatchHour.rebuild 1).collect fun w => w.batchBID = "b2").rebuild 1) := by
  intro keeps
  have shown := keeps "s1" "io_latency" (by decide) 1767225600000 (by decide)
  exact absurd shown (by decide)

end CoverageHour

end MiniDrop
