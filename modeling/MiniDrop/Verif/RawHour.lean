import MiniDrop.Server.RawHour
/-!
# The consumption trace of an hour build

The nested loops of `pqBuildRawHour` pass payload windows to the row collection one after another.
The trace lists these steps; every accumulator of the build is a fold over it. Which windows appear
in the trace is a question about the catalog rows and the payloads alone.
-/
namespace MiniDrop

open Base List

/-- One step of the innermost loop: a payload window collected for a catalog row. -/
structure Emission where
  /-- The ledger signal of the row. -/
  signal : LedgerSignal
  /-- The catalog row, the first of its batch and window signal in its object. -/
  row : ProfileWindow
  /-- The payload window. -/
  input : ContinuousWindowIngest

/-- The steps of one row whose batch and signal have not been taken. -/
def rowEmissions (hourStart : Int) (batches : List ContinuousStoredBatch) (signal : LedgerSignal)
    (row : ProfileWindow) : List Emission :=
  match continuousResolveBatch row batches with
  | none => []
  | some batch => (consumedWindows hourStart row batch).map fun input => ⟨signal, row, input⟩

/-- The rows of an object that are taken: the first of each batch and window signal. -/
def groupHeads : List (String × String) → List ProfileWindow → List (LedgerSignal × ProfileWindow)
  | _, [] => []
  | seen, row :: rest =>
    match pqLedgerSignalForWindow row.signalType with
    | none => groupHeads seen rest
    | some signal =>
      if (row.batchBID, row.signalType) ∈ seen then groupHeads seen rest
      else (signal, row) :: groupHeads ((row.batchBID, row.signalType) :: seen) rest

/-- The rows of the hour with the given object. -/
def objectRows (windows : List ProfileWindow) (objectKey : String) : List ProfileWindow :=
  windows.filter fun window => window.objectKey = objectKey

/-- The steps of one object. -/
def objectEmissions (hourStart : Int) (load : Loader)
    (windows : List ProfileWindow) (objectKey : String) : List Emission :=
  match load objectKey with
  | none => []
  | some batches => (groupHeads [] (objectRows windows objectKey)).flatMap fun head =>
      rowEmissions hourStart batches head.1 head.2

/-- All steps of a build over the window rows of an hour. -/
def emissions (hourStart : Int) (load : Loader) (windows : List ProfileWindow) : List Emission :=
  (objectOrder windows).flatMap (objectEmissions hourStart load windows)

section Replay

variable (inServiceName : String → String) (hourStart : Int)

/-- The accumulators after a trace. -/
def replay (acc : RawHourAcc) (trace : List Emission) : RawHourAcc :=
  trace.foldl (fun acc e => consumeWindow inServiceName e.signal e.row acc e.input) acc

theorem replay_append (acc : RawHourAcc) (left right : List Emission) :
    replay inServiceName acc (left ++ right) =
      replay inServiceName (replay inServiceName acc left) right :=
  foldl_append

/-- Two accumulators that agree on everything but the registered failures. -/
def SameData (left right : RawHourAcc) : Prop :=
  left.rows = right.rows ∧ left.members = right.members ∧ left.consumed = right.consumed

theorem SameData.trans {a b c : RawHourAcc} (first : SameData a b) (second : SameData b c) :
    SameData a c :=
  ⟨first.1.trans second.1, first.2.1.trans second.2.1, first.2.2.trans second.2.2⟩

theorem replay_sameData {left right : RawHourAcc} (same : SameData left right)
    (trace : List Emission) :
    SameData (replay inServiceName left trace) (replay inServiceName right trace) := by
  induction trace generalizing left right with
  | nil => exact same
  | cons e rest ih =>
    obtain ⟨rows, members, consumed⟩ := same
    refine ih ⟨?_, ?_, ?_⟩
    · simp only [consumeWindow, rows]
    · simp only [consumeWindow, members]
    · simp only [consumeWindow, consumed]

theorem consumeRows_replay (batches : List ContinuousStoredBatch) (rows : List ProfileWindow)
    (state : RawHourAcc × List (String × String)) :
    SameData (rows.foldl (consumeRow inServiceName hourStart batches) state).1
      (replay inServiceName state.1 ((groupHeads state.2 rows).flatMap fun head =>
        rowEmissions hourStart batches head.1 head.2)) := by
  induction rows generalizing state with
  | nil => exact ⟨rfl, rfl, rfl⟩
  | cons row rest ih =>
    simp only [foldl_cons, groupHeads]
    cases found : pqLedgerSignalForWindow row.signalType with
    | none => simpa only [consumeRow, found] using ih state
    | some signal =>
      by_cases taken : (row.batchBID, row.signalType) ∈ state.2
      · simpa only [consumeRow, found, contains_iff_mem, if_pos taken] using ih state
      · simp only [if_neg taken, flatMap_cons, replay_append]
        cases resolved : continuousResolveBatch row batches with
        | none =>
          -- A row without its batch only registers a failure.
          have none : rowEmissions hourStart batches signal row = [] := by
            rw [rowEmissions, resolved]
          simp only [consumeRow, found, contains_iff_mem, if_neg taken, resolved, none]
          refine (ih _).trans (replay_sameData inServiceName ?_ _)
          exact ⟨rfl, rfl, rfl⟩
        | some batch =>
          have head : replay inServiceName state.1 (rowEmissions hourStart batches signal row) =
              (consumedWindows hourStart row batch).foldl
                (consumeWindow inServiceName signal row) state.1 := by
            simp only [replay, rowEmissions, resolved, foldl_map]
          simp only [consumeRow, found, contains_iff_mem, if_neg taken, resolved, head]
          exact ih _

/-- **The accumulators of the build are a fold over its trace.** -/
theorem collectHour_replay (load : Loader) (windows : List ProfileWindow) :
    SameData (collectHour inServiceName hourStart load windows)
      (replay inServiceName {} (emissions hourStart load windows)) := by
  have objects : ∀ (keys : List String) (acc : RawHourAcc),
      SameData (keys.foldl (consumeObject inServiceName hourStart load windows) acc)
        (replay inServiceName acc (keys.flatMap (objectEmissions hourStart load windows))) := by
    intro keys
    induction keys with
    | nil => intro acc; exact ⟨rfl, rfl, rfl⟩
    | cons key rest ih =>
      intro acc
      simp only [foldl_cons, flatMap_cons, replay_append]
      have head : SameData (consumeObject inServiceName hourStart load windows acc key)
          (replay inServiceName acc (objectEmissions hourStart load windows key)) := by
        cases loaded : load key with
        | none =>
          simp only [consumeObject, objectEmissions, loaded]
          exact ⟨rfl, rfl, rfl⟩
        | some batches =>
          simp only [consumeObject, objectEmissions, loaded]
          exact consumeRows_replay inServiceName hourStart batches _ (acc, [])
      exact (ih _).trans (replay_sameData inServiceName head _)
  exact objects (objectOrder windows) {}

/-- The rows of one step. -/
def Emission.rows (e : Emission) : PqSignalRows := pqCollectWindowRows inServiceName e.row e.input

theorem replay_collected (acc : RawHourAcc) (trace : List Emission) :
    (replay inServiceName acc trace).rows =
        { cpu := acc.rows.cpu ++ trace.flatMap fun e => (e.rows inServiceName).cpu
          metrics := acc.rows.metrics ++ trace.flatMap fun e => (e.rows inServiceName).metrics
          histogram := acc.rows.histogram ++ trace.flatMap fun e => (e.rows inServiceName).histogram
          db := acc.rows.db ++ trace.flatMap fun e => (e.rows inServiceName).db } ∧
      (replay inServiceName acc trace).consumed = acc.consumed ++
        trace.map fun e => (e.signal, e.row.sessionSID, Time.unixMilli e.input.windowStart) := by
  induction trace generalizing acc with
  | nil => simp [replay]
  | cons e rest ih =>
    have tail := ih (consumeWindow inServiceName e.signal e.row acc e.input)
    refine ⟨tail.1.trans ?_, tail.2.trans ?_⟩
    · simp [consumeWindow, PqSignalRows.append, Emission.rows]
    · simp [consumeWindow]

end Replay

section Outcome

variable (inServiceName : String → String) (hourStart : Int) (windows : List ProfileWindow)
  (load : Loader)

/-- The window rows a build reads. -/
def buildWindows : List ProfileWindow :=
  (hourWindows hourStart windows).take (rawHourWindowLimit + 1)

/-- The rows of an aligned hour are those whose start truncates to it. -/
theorem mem_hourWindows {hourStart : Int} {windows : List ProfileWindow} {row : ProfileWindow}
    (aligned : Time.truncateHour hourStart = hourStart) :
    row ∈ hourWindows hourStart windows ↔
      row ∈ windows ∧ Time.truncateHour row.windowStart = hourStart := by
  unfold hourWindows
  rw [mem_orderBy, mem_filter]
  refine and_congr_right fun _ => ?_
  have bounds := Time.truncateHour_bounds row.windowStart
  simp only [Bool.and_eq_true, decide_eq_true_eq]
  constructor
  · intro within
    exact Time.truncateHour_eq aligned within.1 within.2
  · intro same
    rw [same] at bounds
    exact bounds

/-- The consumption trace of a build. -/
def hourTrace : List Emission := emissions hourStart load (buildWindows hourStart windows)

/-- The rows of a trace, with repeated profile samples marked. -/
def traceRows (trace : List Emission) : PqSignalRows where
  cpu := markDuplicates [] (trace.flatMap fun e => (e.rows inServiceName).cpu)
  metrics := trace.flatMap fun e => (e.rows inServiceName).metrics
  histogram := trace.flatMap fun e => (e.rows inServiceName).histogram
  db := trace.flatMap fun e => (e.rows inServiceName).db

theorem collectHour_marked :
    (collectHour inServiceName hourStart load windows).marked =
      traceRows inServiceName (emissions hourStart load windows) := by
  have rows := (collectHour_replay inServiceName hourStart load windows).1
  rw [(replay_collected inServiceName {} _).1] at rows
  unfold RawHourAcc.marked traceRows
  rw [rows]
  rfl

variable {failures : List ContinuousMigrationFailure}

/-- A successful build read every row of the hour, and its blocks hold the rows of its trace. -/
theorem build_ok {blocks : List RawBlockContent}
    (built : (pqBuildRawHour inServiceName hourStart windows load failures).outcome = .ok blocks) :
    buildWindows hourStart windows = hourWindows hourStart windows ∧
      ∀ block ∈ blocks, block.rows = rowsForSignal
        (traceRows inServiceName (hourTrace hourStart windows load)) block.signal := by
  unfold pqBuildRawHour at built
  simp only at built
  split at built
  · next empty =>
    have none : blocks = [] := by
      injection built with same
      exact same.symm
    refine ⟨?_, by simp [none]⟩
    have short : hourWindows hourStart windows = [] := by
      simpa [rawHourWindowLimit] using empty
    simp [buildWindows, short]
  split at built
  · cases built
  · next within =>
    split at built
    · cases built
    · injection built with same
      refine ⟨take_of_length_le ?_, ?_⟩
      · rw [length_take] at within
        omega
      · intro block mem
        rw [← same] at mem
        obtain ⟨listed, -⟩ := mem_filter.mp mem
        obtain ⟨signal, -, rfl⟩ := mem_map.mp listed
        rw [collectHour_marked]
        rfl

theorem build_whole
    (built : (pqBuildRawHour inServiceName hourStart windows load failures).outcome.isOk = true) :
    buildWindows hourStart windows = hourWindows hourStart windows := by
  cases result : (pqBuildRawHour inServiceName hourStart windows load failures).outcome with
  | ok => exact (build_ok inServiceName hourStart windows load result).1
  | error =>
    rw [result] at built
    cases built

theorem build_empty (aligned : Time.truncateHour hourStart = hourStart)
    (elsewhere : ∀ row ∈ windows, Time.truncateHour row.windowStart ≠ hourStart) :
    (pqBuildRawHour inServiceName hourStart windows load failures).outcome = .ok [] := by
  have empty : hourWindows hourStart windows = [] := by
    apply eq_nil_iff_forall_not_mem.mpr
    intro row mem
    obtain ⟨inWindows, hour⟩ := (mem_hourWindows aligned).mp mem
    exact elsewhere row inWindows hour
  simp [pqBuildRawHour, empty]

end Outcome

/-- Rows of one batch find the same batch. -/
theorem continuousResolveBatch_congr {row other : ProfileWindow}
    (same : other.batchBID = row.batchBID) (batches : List ContinuousStoredBatch) :
    continuousResolveBatch other batches = continuousResolveBatch row batches := by
  simp only [continuousResolveBatch, same]

section Heads

variable {seen : List (String × String)} {rows : List ProfileWindow} {signal : LedgerSignal}
  {row : ProfileWindow}

/-- The pair by which an object's rows are taken once. -/
def groupKey (row : ProfileWindow) : String × String := (row.batchBID, row.signalType)

/-- A head is the first row of its pair, and the pair was not taken before. -/
theorem groupHeads_first (mem : (signal, row) ∈ groupHeads seen rows) :
    pqLedgerSignalForWindow row.signalType = some signal ∧ groupKey row ∉ seen ∧
      rows.find? (fun other => groupKey other = groupKey row) = some row := by
  induction rows generalizing seen with
  | nil => exact absurd mem not_mem_nil
  | cons first rest ih =>
    have later : ∀ seen', (signal, row) ∈ groupHeads seen' rest →
        groupKey first ∈ seen' ∨ groupKey row ≠ groupKey first →
        pqLedgerSignalForWindow row.signalType = some signal ∧ groupKey row ∉ seen' ∧
          (first :: rest).find? (fun other => groupKey other = groupKey row) = some row := by
      intro seen' inRest apart
      obtain ⟨ledger, fresh, found⟩ := ih inRest
      refine ⟨ledger, fresh, ?_⟩
      have different : groupKey first ≠ groupKey row := by
        rcases apart with taken | apart
        · exact fun same => fresh (same ▸ taken)
        · exact Ne.symm apart
      rw [find?_cons_of_neg (by simpa using different)]
      exact found
    simp only [groupHeads] at mem
    cases ledgerFirst : pqLedgerSignalForWindow first.signalType with
    | none =>
      rw [ledgerFirst] at mem
      have ledger := (ih mem).1
      refine later seen mem (Or.inr fun same => ?_)
      have type : row.signalType = first.signalType := congrArg Prod.snd same
      rw [type, ledgerFirst] at ledger
      cases ledger
    | some =>
      rw [ledgerFirst] at mem
      by_cases taken : (first.batchBID, first.signalType) ∈ seen
      · simp only [if_pos taken] at mem
        exact later seen mem (Or.inl taken)
      · simp only [if_neg taken] at mem
        rcases mem_cons.mp mem with same | inRest
        · obtain ⟨rfl, rfl⟩ := Prod.mk.inj same
          exact ⟨ledgerFirst, taken, find?_cons_of_pos (by simp)⟩
        · obtain ⟨ledger, fresh, found⟩ := later _ inRest (Or.inl mem_cons_self)
          exact ⟨ledger, fun before => fresh (mem_cons_of_mem _ before), found⟩

theorem groupHeads_mem (mem : (signal, row) ∈ groupHeads seen rows) : row ∈ rows :=
  mem_of_find?_eq_some (groupHeads_first mem).2.2

/-- Every pair of a row with a ledger signal that was not taken before has a head. -/
theorem groupHeads_exists (inRows : row ∈ rows)
    (ledger : pqLedgerSignalForWindow row.signalType = some signal) (fresh : groupKey row ∉ seen) :
    ∃ head, (signal, head) ∈ groupHeads seen rows ∧ groupKey head = groupKey row := by
  induction rows generalizing seen with
  | nil => exact absurd inRows not_mem_nil
  | cons first rest ih =>
    simp only [groupHeads]
    by_cases same : groupKey first = groupKey row
    · have type : first.signalType = row.signalType := congrArg Prod.snd same
      rw [type, ledger]
      have notTaken : (first.batchBID, first.signalType) ∉ seen := by
        show groupKey first ∉ seen
        rw [same]
        exact fresh
      rw [type] at notTaken
      simp only [if_neg notTaken]
      exact ⟨first, mem_cons_self, same⟩
    have inRest : row ∈ rest := by
      rcases mem_cons.mp inRows with rfl | inRest
      · exact absurd rfl same
      · exact inRest
    cases ledgerFirst : pqLedgerSignalForWindow first.signalType with
    | none => exact ih inRest fresh
    | some =>
      by_cases taken : (first.batchBID, first.signalType) ∈ seen
      · simp only [if_pos taken]
        exact ih inRest fresh
      · simp only [if_neg taken]
        obtain ⟨head, mem, key⟩ := ih inRest
          (fun taken => (mem_cons.mp taken).elim (Ne.symm same) fresh)
        exact ⟨head, mem_cons_of_mem _ mem, key⟩

theorem groupHeads_distinct (seen : List (String × String)) (rows : List ProfileWindow) :
    (groupHeads seen rows).Pairwise fun a b => groupKey a.2 ≠ groupKey b.2 := by
  induction rows generalizing seen with
  | nil => exact List.Pairwise.nil
  | cons first rest ih =>
    simp only [groupHeads]
    split
    · exact ih seen
    · split
      · exact ih seen
      · refine pairwise_cons.mpr ⟨fun head mem same => ?_, ih _⟩
        exact (groupHeads_first mem).2.1 (same ▸ mem_cons_self)

end Heads

section Members

variable {hourStart : Int} {load : Loader}
  {rows : List ProfileWindow}

theorem mem_objectOrder {key : String} :
    key ∈ objectOrder rows ↔ key ≠ "" ∧ ∃ row ∈ rows, row.objectKey = key := by
  simp only [objectOrder, mem_distinct, mem_map, mem_filter, decide_eq_true_eq]
  constructor
  · rintro ⟨row, ⟨inRows, named⟩, rfl⟩
    exact ⟨named, row, inRows, rfl⟩
  · rintro ⟨named, row, inRows, rfl⟩
    exact ⟨row, ⟨inRows, named⟩, rfl⟩

theorem mem_rowEmissions {e : Emission} {batches : List ContinuousStoredBatch}
    {signal : LedgerSignal} {row : ProfileWindow} :
      e ∈ rowEmissions hourStart batches signal row ↔ e.signal = signal ∧ e.row = row ∧
        ∃ batch, continuousResolveBatch row batches = some batch ∧
        e.input ∈ consumedWindows hourStart row batch := by
  unfold rowEmissions
  cases continuousResolveBatch row batches with
  | none => simp
  | some batch =>
    refine mem_map.trans ⟨?_, ?_⟩
    · rintro ⟨input, consumed, rfl⟩
      exact ⟨rfl, rfl, batch, rfl, consumed⟩
    · rintro ⟨rfl, rfl, found, same, consumed⟩
      cases same
      exact ⟨e.input, consumed, rfl⟩

/-- A step of the trace, in terms of the catalog and the payloads. -/
theorem mem_emissions {e : Emission} :
    e ∈ emissions hourStart load rows ↔
      ∃ batches batch, e.row.objectKey ≠ "" ∧ load e.row.objectKey = some batches ∧
        (e.signal, e.row) ∈ groupHeads [] (objectRows rows e.row.objectKey) ∧
        continuousResolveBatch e.row batches = some batch ∧
        e.input ∈ consumedWindows hourStart e.row batch := by
  have own : ∀ key head, head ∈ groupHeads [] (objectRows rows key) → head.2 ∈ rows ∧
      head.2.objectKey = key :=
    fun key head listed => by simpa [objectRows] using groupHeads_mem listed
  simp only [emissions, mem_flatMap, mem_objectOrder, objectEmissions]
  constructor
  · rintro ⟨key, ⟨named, -⟩, mem⟩
    split at mem
    · cases mem
    next batches loaded =>
    obtain ⟨head, listed, step⟩ := mem_flatMap.mp mem
    obtain ⟨signal, row, batch, found⟩ := mem_rowEmissions.mp step
    obtain ⟨-, rfl⟩ := own key head listed
    rw [row, signal]
    exact ⟨batches, batch, named, loaded, listed, found⟩
  · rintro ⟨batches, batch, named, loaded, listed, found⟩
    refine ⟨_, ⟨named, e.row, (own _ _ listed).1, rfl⟩, ?_⟩
    rw [loaded]
    exact mem_flatMap.mpr ⟨_, listed, mem_rowEmissions.mpr ⟨rfl, rfl, batch, found⟩⟩

variable (inServiceName : String → String)
include inServiceName

theorem collectHour_consumed : (collectHour inServiceName hourStart load rows).consumed =
      (emissions hourStart load rows).map fun e =>
        (e.signal, e.row.sessionSID, Time.unixMilli e.input.windowStart) := by
  have consumed := (collectHour_replay inServiceName hourStart load rows).2.2
  rw [(replay_collected inServiceName {} _).2] at consumed
  simpa using consumed

/-- The rows of an object register no failure when each finds its batch. -/
theorem consumeRows_failures (batches : List ContinuousStoredBatch) (inObject : List ProfileWindow)
    (state : RawHourAcc × List (String × String))
    (resolves : ∀ row ∈ inObject, (continuousResolveBatch row batches).isSome) :
    (inObject.foldl (consumeRow inServiceName hourStart batches) state).1.failures =
      state.1.failures := by
  refine foldlRecOn (motive := fun next : RawHourAcc × _ => next.1.failures = state.1.failures)
    inObject _ rfl ?_
  intro next same row mem
  obtain ⟨batch, resolved⟩ := Option.isSome_iff_exists.mp (resolves row mem)
  unfold consumeRow
  split
  · exact same
  · split
    · exact same
    · rw [resolved]
      exact foldlRecOn (motive := fun acc : RawHourAcc => acc.failures = _) _ _ same
        fun _ kept _ _ => kept

/-- A build registers no failure when every row leads to a payload. -/
theorem collectHour_failures (readable : ∀ row ∈ rows, row.objectKey ≠ "" → ∃ batches,
      load row.objectKey = some batches ∧ (continuousResolveBatch row batches).isSome) :
    (collectHour inServiceName hourStart load rows).failures = [] := by
  refine foldlRecOn (motive := fun acc : RawHourAcc => acc.failures = [])
    (objectOrder rows) _ rfl ?_
  intro acc none key listed
  obtain ⟨named, row, inRows, rfl⟩ := mem_objectOrder.mp listed
  obtain ⟨batches, loaded, -⟩ := readable row inRows named
  unfold consumeObject
  rw [loaded]
  refine (consumeRows_failures inServiceName batches _ (acc, []) ?_).trans none
  intro other mem
  obtain ⟨inRows, sameKey⟩ := mem_filter.mp mem
  have key : other.objectKey = row.objectKey := by simpa using sameKey
  obtain ⟨others, loadedOther, resolved⟩ := readable other inRows (by rw [key]; exact named)
  rw [key, loaded] at loadedOther
  cases loadedOther
  exact resolved

end Members

end MiniDrop
