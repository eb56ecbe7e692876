import MiniDrop.Server.Payload
/-!
# Signals of a window

One ingest window carries samples, profiles, histograms, metrics and database snapshots. Four
separately written classifiers look at it: which signal rows it gets in the catalog, whether a
signal has data, how many samples the signal counts, and (on the stored row, in the catalog module)
whether the row needs data behind it. The parquet ledger groups the window signals into four.
-/
namespace MiniDrop

variable {rows : List ContinuousSignalRow} {signalType : String}

/-- The canonical signal of a parquet block. -/
inductive LedgerSignal where
  | cpu
  | metrics
  | histogram
  | db
  deriving DecidableEq

/-- All ledger signals, in the order a build writes them. -/
def LedgerSignal.all : List LedgerSignal := [.cpu, .metrics, .histogram, .db]

/-- The column text of a ledger signal. -/
def LedgerSignal.name : LedgerSignal → String
  | .cpu => "cpu"
  | .metrics => "metrics"
  | .histogram => "histogram"
  | .db => "db"

/-- `pqV1SignalTypesFor`: the window signals a ledger signal stands for. -/
def pqV1SignalTypesFor : LedgerSignal → List String
  | .cpu => ["cpu_profile", "cpu", "python_memory", "memory"]
  | .metrics => ["metrics", "python_rss"]
  | .histogram => ["io_latency", "io_syscall_latency", "sched_latency"]
  | .db => ["db", "db_snapshot"]

/-- `pqLedgerSignalForWindow`; no ledger signal for an unknown window signal. -/
def pqLedgerSignalForWindow (signalType : String) : Option LedgerSignal :=
  if signalType ∈ ["cpu_profile", "cpu", "python_memory", "memory"] then some .cpu
  else if signalType ∈ ["metrics", "python_rss"] then some .metrics
  else if signalType ∈ ["io_latency", "io_syscall_latency", "sched_latency"] then some .histogram
  else if signalType ∈ ["db", "db_snapshot"] then some .db
  else none

/-- The two directions of the signal table agree. -/
theorem mem_pqV1SignalTypesFor {signal : LedgerSignal} :
    signalType ∈ pqV1SignalTypesFor signal ↔ pqLedgerSignalForWindow signalType = some signal := by
  constructor
  · intro mem
    cases signal <;> simp only [pqV1SignalTypesFor, List.mem_cons, List.not_mem_nil, or_false]
      at mem
    · rcases mem with rfl | rfl | rfl | rfl <;> decide
    · rcases mem with rfl | rfl <;> decide
    · rcases mem with rfl | rfl | rfl <;> decide
    · rcases mem with rfl | rfl <;> decide
  · intro found
    unfold pqLedgerSignalForWindow at found
    split at found
    · next mem => cases found; exact mem
    split at found
    · next mem => cases found; exact mem
    split at found
    · next mem => cases found; exact mem
    split at found
    · next mem => cases found; exact mem
    · cases found

/-- `windowOverlaps`: both ends of the range count as inside. -/
def windowOverlaps (start stop fromTime toTime : Int) : Bool :=
  !decide (stop < fromTime) && !decide (toTime < start)

/-- The overlap test in terms of order. -/
theorem windowOverlaps_iff (start stop fromTime toTime : Int) :
    windowOverlaps start stop fromTime toTime = true ↔ fromTime ≤ stop ∧ start ≤ toTime := by
  simp [windowOverlaps]

def continuousMetricIsDB (name : String) : Bool := hasPrefix (lowerTrim name) "db_"

/-- `continuousNormalizeProfileSignal`: the old aliases of the two profile signals. -/
def continuousNormalizeProfileSignal (signal : String) : String :=
  let signal := lowerTrim signal
  if signal = "cpu" then "cpu_profile"
  else if signal = "memory" then "python_memory"
  else signal

/-- The signal a profile is filed under when its own name is blank: `cpu_profile`. -/
def profileSignal (profile : ContinuousProfileIngest) : String :=
  lowerTrim (firstNonEmpty [profile.signalType, "cpu_profile"])

/-- A catalog row to be written for a window: its signal and the first backend seen for it. -/
structure ContinuousSignalRow where
  (signalType backend : String)

def continuousLegacyProfileBackend (window : ContinuousWindowIngest) : String :=
  if window.backend ≠ "" then window.backend
  else ((window.samples.map (·.backend)).find? (· ≠ "")).getD ""

/-- The name under which the `add` closure of the row builders files a signal. -/
def rowSignalType (name : String) : String :=
  let lowered := lowerTrim (firstNonEmpty [name, "cpu_profile"])
  if lowered = "" then "cpu_profile" else lowered

/-- The `add` closure of the row builders: normalise the name and keep the first row of a key. -/
def addSignalRow (key : String → String → String) (rows : List ContinuousSignalRow)
    (candidate : String × String) : List ContinuousSignalRow :=
  if rows.any fun row =>
      key row.signalType row.backend = key (rowSignalType candidate.1) candidate.2 then rows
  else rows ++ [{ signalType := rowSignalType candidate.1, backend := candidate.2 }]

/-- Adding a candidate keeps the rows. -/
theorem mem_addSignalRow {key : String → String → String} {candidate : String × String}
    {row : ContinuousSignalRow} (mem : row ∈ rows) : row ∈ addSignalRow key rows candidate := by
  unfold addSignalRow
  split
  · exact mem
  · exact List.mem_append_left _ mem

/-- With one row per signal, a candidate's signal has a row once it is added. -/
theorem addSignalRow_listed (rows : List ContinuousSignalRow) (candidate : String × String) :
    ∃ row ∈ addSignalRow (fun signalType _ => signalType) rows candidate,
      row.signalType = rowSignalType candidate.1 := by
  by_cases present : rows.any fun row => row.signalType = rowSignalType candidate.1
  · obtain ⟨row, mem, same⟩ := List.any_eq_true.mp present
    rw [addSignalRow, if_pos present]
    exact ⟨row, mem, of_decide_eq_true same⟩
  · rw [addSignalRow, if_neg present]
    generalize rowSignalType candidate.1 = signalType
    exact ⟨_, List.mem_append_right _ (List.mem_singleton_self _), rfl⟩

/-- What the window's contents add, in order: samples, profiles, histograms, other metrics, and
database metrics or snapshots. -/
def signalRowCandidates (window : ContinuousWindowIngest) : List (String × String) :=
  (if window.samples ≠ [] then
    [(firstNonEmpty [window.signalType, "cpu_profile"], continuousLegacyProfileBackend window)]
  else []) ++
  window.profiles.map (fun profile => (firstNonEmpty [profile.signalType, "cpu_profile"],
    firstNonEmpty [profile.backend, window.backend])) ++
  window.histograms.map (fun hist =>
    (hist.signalType, firstNonEmpty [hist.backend, window.backend])) ++
  (if window.metrics.any fun metric => !continuousMetricIsDB metric.metric then
    [("python_rss", "procfs")] else []) ++
  (if window.metrics.any (fun metric => continuousMetricIsDB metric.metric) ∨
      window.dbSnapshots ≠ [] then
    [("db_snapshot", "db_system_views")] else [])

/-- Fold the candidates, and fall back to one row for the window itself. -/
def signalRowsFrom (key : String → String → String) (window : ContinuousWindowIngest)
    (candidates : List (String × String)) : List ContinuousSignalRow :=
  match candidates.foldl (addSignalRow key) [] with
  | [] => addSignalRow key [] (firstNonEmpty [window.signalType, "cpu_profile"], window.backend)
  | rows => rows

/-- `continuousWindowSignalRows`: one row per signal and backend, before protocol v3. -/
def continuousWindowSignalRows (window : ContinuousWindowIngest) : List ContinuousSignalRow :=
  signalRowsFrom (fun signalType backend => signalType ++ "|" ++ backend) window
    (signalRowCandidates window)

/-- `continuousWindowSignalRowsV3`: one row per signal, and one for each reported status. -/
def continuousWindowSignalRowsV3 (window : ContinuousWindowIngest) : List ContinuousSignalRow :=
  signalRowsFrom (fun signalType _ => signalType) window
    (signalRowCandidates window ++ window.signalStatuses.map fun entry => (entry.1, ""))

/-- Every candidate's signal has a row in the fold over the candidates. -/
theorem candidate_listed {candidates : List (String × String)}
    (wanted : (∃ candidate ∈ candidates, rowSignalType candidate.1 = signalType) ∨
      ∃ row ∈ rows, row.signalType = signalType) :
    ∃ row ∈ candidates.foldl (addSignalRow fun signalType _ => signalType) rows,
      row.signalType = signalType := by
  induction candidates generalizing rows with
  | nil =>
    rcases wanted with ⟨candidate, mem, -⟩ | found
    · cases mem
    · exact found
  | cons first rest ih =>
    rw [List.foldl_cons]
    apply ih
    rcases wanted with ⟨candidate, mem, same⟩ | ⟨row, mem, same⟩
    · rcases List.mem_cons.mp mem with rfl | inRest
      · obtain ⟨row, listed, type⟩ := addSignalRow_listed rows candidate
        exact Or.inr ⟨row, listed, type.trans same⟩
      · exact Or.inl ⟨candidate, inRest, same⟩
    · exact Or.inr ⟨row, mem_addSignalRow mem, same⟩

def continuousWindowSignalHasData (window : ContinuousWindowIngest) (signalType : String) : Bool :=
  let signalType := lowerTrim signalType
  if signalType = "cpu_profile" then
    !window.samples.isEmpty ||
      window.profiles.any fun profile =>
        profileSignal profile = "cpu_profile" && !profile.samples.isEmpty
  else if signalType = "python_memory" then
    window.profiles.any fun profile =>
      profileSignal profile = "python_memory" && !profile.samples.isEmpty
  else if signalType = "python_rss" then !window.metrics.isEmpty
  else if signalType = "db_snapshot" then !window.dbSnapshots.isEmpty
  else window.histograms.any fun hist =>
    lowerTrim hist.signalType = signalType && !hist.unavailable

/-- The sum of the sample weights, saturating. -/
def addSampleCounts (count : Nat) (samples : List ContinuousStackSample) : Nat :=
  samples.foldl (fun count sample => addContinuousCount count (firstNonZeroUint64 sample.count 1))
    count

def continuousWindowSampleCount (window : ContinuousWindowIngest) (signalType : String) : Nat :=
  let signalType := lowerTrim signalType
  let count := 0
  let count :=
    if signalType = "cpu_profile" then
      (window.profiles.filter fun profile => profileSignal profile = "cpu_profile").foldl
        (fun count profile => addSampleCounts count profile.samples)
        (addSampleCounts count window.samples)
    else count
  let count :=
    if signalType = "python_rss" then
      (window.metrics.filter fun metric => metric.metric = "rss_bytes").foldl
        (fun count _ => addContinuousCount count 1) count
    else count
  let count :=
    if signalType = "db_snapshot" then
      (window.metrics.filter fun metric => continuousMetricIsDB metric.metric).foldl
        (fun count _ => addContinuousCount count 1)
        (addContinuousCount count window.dbSnapshots.length)
    else count
  let count :=
    (window.histograms.filter fun hist => lowerTrim hist.signalType = signalType).foldl
      (fun count hist => addContinuousCount count hist.eventCount) count
  if count = 0 ∧ signalType = "cpu_profile" then clampContinuousCount window.sampleCount
  else count

end MiniDrop
