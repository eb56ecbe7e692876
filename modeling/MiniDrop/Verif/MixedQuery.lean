import MiniDrop.Verif.ProfileQuery
import MiniDrop.Verif.RowFidelity
/-!
# Reading a raw block instead of the payloads

The v1 path walks the batches that a catalog row in the range names, and takes their windows by
their own start. The v2 path takes the rows of the block by their stamp. Both are read here as flat
maps over pairs of an object and a batch. When rows are stamped right, the two select the same
samples of plain payloads.
-/
namespace MiniDrop

open Base List IngestHistory

variable {row : ProfileWindow} {seen : List String}

/-- What both paths keep of a sample: its frames, its weight and its process. -/
def sampleIdentity (sample : ContinuousStackSample) :
    List ContinuousStackFrame × Nat × String × Int × Int × String :=
  (normalizedSampleFrames sample, firstNonZeroUint64 sample.count 1, sample.comm,
    int32 sample.pid, sample.processStartMs, sample.exe)

/-- The stack and weight under which a sample is stored. -/
def storedForm (sample : ContinuousStackSample) : ContinuousStackSample where
  stack := (normalizedSampleFrames sample).map fun frame => frameDisplayName
    { function := frame.function, raw := frame.raw, address := frame.address,
      mappingFile := frame.mappingFile }
  count := firstNonZeroUint64 sample.count 1

/-- The samples of a window that count, by identity. -/
def countedSamples (window : ContinuousWindowIngest) :
    List (List ContinuousStackFrame × Nat × String × Int × Int × String) :=
  ((cpuSamples window).filter continuousSampleLooksValid).map sampleIdentity

/-- A window whose CPU samples both paths read alike: its times are proper, both paths agree on
which profiles are CPU profiles, these and their samples have no profile identifier, and a sample
passes the validity test exactly when its stored form does. -/
structure PlainWindow (window : ContinuousWindowIngest) : Prop where
  proper : ProperTimes window
  agreed : ∀ profile ∈ window.profiles, profileSignal profile = "cpu_profile" ↔
    continuousNormalizeProfileSignal profile.signalType = "cpu_profile"
  unnamed : ∀ profile ∈ window.profiles, profileSignal profile = "cpu_profile" →
    profile.profileID = ""
  samples : ∀ sample ∈ cpuSamples window, sample.profileID = ""
  valid : ∀ sample ∈ cpuSamples window,
    continuousSampleLooksValid (storedForm sample) = continuousSampleLooksValid sample

section Samples

variable {window : ContinuousWindowIngest} {fromTime toTime : Int} {sids : List String}

variable {profiles : List ContinuousProfileIngest}

theorem profileSamplesForIngest_eq
    (agreed : ∀ profile ∈ profiles, profileSignal profile = "cpu_profile" ↔
      continuousNormalizeProfileSignal profile.signalType = "cpu_profile")
    (unnamed : ∀ profile ∈ profiles, profileSignal profile = "cpu_profile" → profile.profileID = "")
    (seen : List String) : profileSamplesForIngest "cpu_profile" seen profiles =
      (profiles.filter fun profile =>
        profileSignal profile = "cpu_profile").flatMap profileSamples := by
  induction profiles generalizing seen with
  | nil => rfl
  | cons profile rest ih =>
    have tail := ih (forall_mem_cons.mp agreed).2 (forall_mem_cons.mp unnamed).2
    have same := agreed profile mem_cons_self
    by_cases signal : profileSignal profile = "cpu_profile"
    · have unnamedHere := unnamed profile mem_cons_self signal
      rw [filter_cons, if_pos (decide_eq_true signal), flatMap_cons, ← tail seen]
      simp [profileSamplesForIngest, same.mp signal, unnamedHere]
    · rw [filter_cons, if_neg (by simpa using signal), ← tail seen]
      simp [profileSamplesForIngest, mt same.mpr signal]

theorem v1Added_identities (plain : PlainWindow window) :
    (v1Added (cpuQuery sids) fromTime toTime window).map (fun entry => sampleIdentity entry.1) =
      if startsIn fromTime toTime window then countedSamples window else [] :=
  v1Added_map (fun _ _ _ => rfl) plain.proper.1 plain.unnamed

theorem ingestSamples_eq (type : row.signalType = "cpu_profile") (plain : PlainWindow window) :
    continuousProfileSamplesForIngest row window = cpuSamples window := by
  have signal : continuousNormalizeProfileSignal "cpu_profile" = "cpu_profile" := by decide
  unfold continuousProfileSamplesForIngest cpuSamples
  simp only [type, signal, if_true]
  rw [profileSamplesForIngest_eq plain.agreed plain.unnamed]
  congr 1
  apply flatMap_congr
  intro profile mem
  obtain ⟨inWindow, signal⟩ := mem_filter.mp mem
  have own : ∀ sample ∈ profile.samples, sample.profileID = "" := by
    intro sample inProfile
    apply plain.samples
    exact mem_append_right _ (mem_flatMap.mpr ⟨profile, mem, inProfile⟩)
  have noID : profile.profileID = "" :=
    plain.unnamed profile inWindow (of_decide_eq_true signal)
  unfold profileSamples
  rw [noID]
  refine (map_congr_left fun sample inProfile => ?_).trans (map_id _)
  rw [if_pos (own sample inProfile), ← own sample inProfile]
  rfl

end Samples

section Stored

variable (inServiceName : String → String) (row : ProfileWindow) (window : ContinuousWindowIngest)
  (sample : ContinuousStackSample)

theorem stored_identity :
    sampleIdentity (pqSampleFromCPURow (cpuRowOf inServiceName row window sample)) =
      sampleIdentity sample := by
  have frames : normalizedSampleFrames (pqSampleFromCPURow
      (cpuRowOf inServiceName row window sample)) = normalizedSampleFrames sample := by
    show (if normalizedSampleFrames sample ≠ [] then normalizedSampleFrames sample
      else framesFromLegacyStack (continuousSampleStack (pqSampleFromCPURow
        (cpuRowOf inServiceName row window sample)))) = _
    split
    · rfl
    · next empty =>
      have none : normalizedSampleFrames sample = [] := not_not.mp empty
      simp [continuousSampleStack, pqSampleFromCPURow, cpuRowOf, none, framesFromLegacyStack]
  unfold sampleIdentity
  rw [frames]
  have weight : firstNonZeroUint64 (firstNonZeroUint64 sample.count 1) 1 =
      firstNonZeroUint64 sample.count 1 := by
    unfold firstNonZeroUint64
    split <;> simp_all
  have pid : int32 (int32 sample.pid) = int32 sample.pid := Int.bmod_bmod
  simp only [pqSampleFromCPURow, cpuRowOf, weight, pid]

end Stored

section Block

variable {sids : List String} {fromTime toTime : Int} {rows : List PqCPURow}

variable (unnamed : ∀ row ∈ rows, v2RowSelected (cpuQuery sids) fromTime toTime row = true →
  row.profileID = "")
include unnamed

/-- The duplicate pass does not touch what a query without named rows selects. -/
theorem markDuplicates_filter (seen : List String) :
    (markDuplicates seen rows).filter (v2RowSelected (cpuQuery sids) fromTime toTime) =
      rows.filter (v2RowSelected (cpuQuery sids) fromTime toTime) := by
  induction rows generalizing seen with
  | nil => rfl
  | cons row rest ih =>
    have tail := ih (forall_mem_cons.mp unnamed).2
    simp only [markDuplicates]
    split
    · rw [filter_cons, filter_cons, tail]
    · next named =>
      have skipped : v2RowSelected (cpuQuery sids) fromTime toTime row = false := by
        by_contra selected
        exact named (.inl (unnamed row mem_cons_self (by simpa using selected)))
      have marked : v2RowSelected (cpuQuery sids) fromTime toTime
          { row with profileStatus := "duplicate", value := 0 } = false := by
        simp [v2RowSelected]
      split
      · simp [skipped, marked, tail]
      · rw [filter_cons, filter_cons, tail]

theorem foldl_aggregateV2Row (agg : ContinuousAggregate) :
    (aggregateV2Block (cpuQuery sids) fromTime toTime rows agg).samples = agg.samples ++
      (((rows.filter (v2RowSelected (cpuQuery sids) fromTime toTime)).map fun row =>
        (pqSampleFromCPURow row, pqLabelsInterface row.labels)).filter fun entry =>
          continuousSampleLooksValid entry.1) := by
  unfold aggregateV2Block
  induction rows generalizing agg with
  | nil => simp
  | cons row rest ih =>
    have tail := ih (forall_mem_cons.mp unnamed).2
    rw [foldl_cons, tail]
    cases selected : v2RowSelected (cpuQuery sids) fromTime toTime row with
    | false =>
      simp [aggregateV2Row, selected]
    | true =>
      have noID := unnamed row mem_cons_self selected
      have matched : continuousSampleMatches (pqSampleFromCPURow row)
          (pqLabelsInterface row.labels) (cpuQuery sids).filters = true :=
        continuousSampleMatches_nil _ _
      cases valid : continuousSampleLooksValid (pqSampleFromCPURow row) <;>
        simp [aggregateV2Row, selected, matched, noID, continuousAddSample, valid]

end Block

/-- The samples that a step of the build contributes to a query, when its rows are stamped right. -/
def stepSamples (sids : List String) (fromTime toTime : Int) (e : Emission) :
    List (List ContinuousStackFrame × Nat × String × Int × Int × String) :=
  if e.row.signalType = "cpu_profile" && sids.contains e.row.sessionSID &&
      startsIn fromTime toTime e.input then countedSamples e.input
  else []

/-- The samples of one batch in a query. -/
def batchSamples (sids : List String) (fromTime toTime : Int) (batch : ContinuousStoredBatch) :
    List (List ContinuousStackFrame × Nat × String × Int × Int × String) :=
  if sids.contains batch.sessionSID then
    batch.windows.flatMap fun window =>
      if startsIn fromTime toTime window then countedSamples window else []
  else []

section Steps

variable {inServiceName : String → String} {sids : List String} {fromTime toTime : Int}

variable {row : PqCPURow} {e : Emission}

theorem v2RowSelected_type (selected : v2RowSelected (cpuQuery sids) fromTime toTime row = true) :
    row.profileType = "cpu_profile" ∨ row.profileType = "cpu" := by
  simp only [v2RowSelected, cpuQuery, ProfileQuery.signalType, Bool.and_eq_true, Bool.or_eq_true,
    decide_eq_true_eq] at selected
  rcases selected.1.2 with type | ⟨-, type⟩
  · exact .inl (by simpa using type)
  · exact .inr type

/-- The profile rows of a step carry the signal of its catalog row. -/
theorem emission_cpu_type
    (mem : row ∈ (e.rows inServiceName).cpu) : row.profileType = e.row.signalType := by
  unfold Emission.rows pqCollectWindowRows at mem
  split at mem
  · rcases mem_append.mp mem with sampled | failed
    · obtain ⟨sample, -, rfl⟩ := mem_map.mp sampled
      rfl
    · split at failed
      · obtain ⟨profile, -, rfl⟩ := mem_map.mp failed
        rfl
      · cases failed
  all_goals cases mem

theorem emission_cpu_rows (type : e.row.signalType = "cpu_profile") (plain : PlainWindow e.input) :
    (e.rows inServiceName).cpu =
      (cpuSamples e.input).map (cpuRowOf inServiceName e.row e.input) := by
  have ledger : pqLedgerSignalForWindow "cpu_profile" = some .cpu := by decide
  have other : ¬("cpu_profile" = "python_memory" ∨ "cpu_profile" = "memory") := by decide
  unfold Emission.rows pqCollectWindowRows
  rw [type, ledger]
  simp only [cpuRows, ingestSamples_eq type plain, type, if_neg other, append_nil]

theorem step_selected (notLegacy : e.row.signalType ≠ "cpu") (plain : PlainWindow e.input)
    (stamped : ∀ timestamp ∈ (e.rows inServiceName).timestamps,
      timestamp = Time.unixMilli e.input.windowStart) :
    (((((e.rows inServiceName).cpu.filter
      (v2RowSelected (cpuQuery sids) fromTime toTime)).map fun row =>
        (pqSampleFromCPURow row, pqLabelsInterface row.labels)).filter fun entry =>
          continuousSampleLooksValid entry.1).map fun entry => sampleIdentity entry.1) =
      stepSamples sids fromTime toTime e := by
  unfold stepSamples
  by_cases type : e.row.signalType = "cpu_profile"
  · rw [emission_cpu_rows type plain]
    by_cases empty : cpuSamples e.input = []
    · simp [empty, countedSamples]
    · -- There is a row, so its stamp tells where the catalog row starts.
      have start : e.row.windowStart = e.input.windowStart := by
        obtain ⟨sample, mem⟩ := exists_mem_of_ne_nil _ empty
        apply stamped e.row.windowStart
        have inRows : cpuRowOf inServiceName e.row e.input sample ∈ (e.rows inServiceName).cpu := by
          rw [emission_cpu_rows type plain]
          exact mem_map_of_mem mem
        simp only [PqSignalRows.timestamps, mem_append]
        exact .inl (.inl (.inl (mem_map.mpr ⟨_, inRows, rfl⟩)))
      have selected : ∀ sample, v2RowSelected (cpuQuery sids) fromTime toTime
          (cpuRowOf inServiceName e.row e.input sample) =
          (sids.contains e.row.sessionSID && startsIn fromTime toTime e.input) := by
        intro sample
        simp [v2RowSelected, cpuRowOf, cpuQuery, ProfileQuery.signalType, type, startsIn, start,
          Time.unixMilli, Bool.and_assoc]
      have valid : (cpuSamples e.input).filter (fun sample =>
          continuousSampleLooksValid (storedForm sample)) =
          (cpuSamples e.input).filter continuousSampleLooksValid :=
        filter_congr fun sample mem => plain.valid sample mem
      simp only [filter_map, Function.comp_def, selected, type, decide_true, Bool.true_and]
      cases sids.contains e.row.sessionSID && startsIn fromTime toTime e.input with
      | false => simp
      | true =>
        rw [filter_true, if_pos rfl, map_map, map_map]
        unfold countedSamples
        rw [← valid]
        apply map_congr_left
        intro sample _
        exact stored_identity inServiceName e.row e.input sample
  · rw [if_neg (by simp [type])]
    have none : (e.rows inServiceName).cpu.filter
        (v2RowSelected (cpuQuery sids) fromTime toTime) = [] := by
      rw [filter_eq_nil_iff]
      intro row mem selected
      have rowType := emission_cpu_type mem
      rcases v2RowSelected_type selected with current | legacy
      · exact type (rowType ▸ current)
      · exact notLegacy (rowType ▸ legacy)
    rw [none]
    rfl

end Steps

section Pairs

/-- The rows of an hour with a signal type. -/
def hourSignalRows (hourStart : Int) (type : String) (windows : List ProfileWindow) :
    List ProfileWindow :=
  (hourWindows hourStart windows).filter fun row => row.signalType = type

/-- The pairs that rows walk. -/
def IngestHistory.pairs (history : IngestHistory) (rows : List ProfileWindow) :
    List (String × ContinuousStoredBatch) :=
  walkPairs history.load (objectOrder rows) rows

/-- The pairs that the rows of an hour with a signal type walk, in the order of the build. -/
def IngestHistory.hourPairs (history : IngestHistory) (hourStart : Int) (type : String) :
    List (String × ContinuousStoredBatch) :=
  walkPairs history.load (objectOrder (history.hourRows hourStart))
    (hourSignalRows hourStart type history.windows)

/-- The steps of the build of an hour. -/
def IngestHistory.hourEmissions (history : IngestHistory) (hourStart : Int) : List Emission :=
  emissions hourStart history.load (history.hourRows hourStart)

variable {α : Type} {type : String} {signal : LedgerSignal} {batches : List ContinuousStoredBatch}
  {rows : List ProfileWindow}

/-- The heads of a signal type in an object are the first rows of the batches that its rows walk. -/
theorem groupHeads_walked (ledger : pqLedgerSignalForWindow type = some signal)
    {f : LedgerSignal × ProfileWindow → List α} {g : ContinuousStoredBatch → List α}
    (other : ∀ head, head.2.signalType ≠ type → f head = [])
    (own : ∀ row ∈ rows, row.signalType = type →
      ∃ batch, continuousResolveBatch row batches = some batch ∧ f (signal, row) = g batch)
    {taken : List (String × String)} (related : ∀ bid, (bid, type) ∈ taken ↔ bid ∈ seen) :
    (groupHeads taken rows).flatMap f =
      (walkedBatches batches seen (rows.filter fun row => row.signalType = type)).flatMap g := by
  induction rows generalizing taken seen with
  | nil => rfl
  | cons row rest ih =>
    have ownRest := (forall_mem_cons.mp own).2
    by_cases same : row.signalType = type
    · obtain ⟨batch, resolved, head⟩ := own row mem_cons_self same
      rw [filter_cons, if_pos (decide_eq_true same)]
      simp only [groupHeads, walkedBatches, same, ledger, resolved, related]
      by_cases walked : row.batchBID ∈ seen
      · simp only [walked, if_true]
        exact ih ownRest related
      · simp only [walked, if_false, flatMap_cons, head]
        congr 1
        apply ih ownRest
        intro bid
        simp [related]
    · rw [filter_cons, if_neg (by simpa using same)]
      simp only [groupHeads]
      cases pqLedgerSignalForWindow row.signalType with
      | none => exact ih ownRest related
      | some found =>
        simp only
        split
        · exact ih ownRest related
        · rw [flatMap_cons, other (found, row) same, nil_append]
          apply ih ownRest
          intro bid
          simp [Ne.symm same, related]

variable {history : IngestHistory} {hourStart : Int} (inv : HistoryInv history)
  (readable : history.Readable)
include inv readable

/-- The objects of stored rows can be read. -/
theorem objects_readable (stored : ∀ row ∈ rows, row ∈ history.windows) :
    ∀ key ∈ objectOrder rows, (history.load key).isSome := by
  intro key listed
  obtain ⟨-, row, inRows, rfl⟩ := mem_objectOrder.mp listed
  obtain ⟨-, -, -, -, batches, loaded, -⟩ := row_payload inv readable (stored row inRows)
  rw [loaded]
  rfl

/-- A walked pair is an accepted batch with a row. -/
theorem pairs_accepted (stored : ∀ row ∈ rows, row ∈ history.windows)
    {pair : String × ContinuousStoredBatch} (mem : pair ∈ history.pairs rows) :
    pair.2 ∈ history.accepted ∧ ∃ row ∈ rows, pair.2.batchID = row.batchBID ∧
      pair.2.sessionSID = row.sessionSID := by
  obtain ⟨-, batches, loaded, row, inRows, rowKey, resolved⟩ := mem_walkPairs.mp mem
  obtain ⟨accepted, id, same⟩ :=
    resolved_accepted inv readable (stored row inRows) (rowKey ▸ loaded) resolved
  exact ⟨accepted, row, inRows, id, same⟩

variable (aligned : Time.truncateHour hourStart = hourStart)
include aligned

/-- What the trace of an hour contributes to a query of a signal type, pair by pair. -/
theorem trace_pairs (ledger : pqLedgerSignalForWindow type = some signal) {f : Emission → List α}
    {g : String × ContinuousStoredBatch → List α} (other : ∀ e, e.row.signalType ≠ type → f e = [])
    (own : ∀ row ∈ history.windows, Time.truncateHour row.windowStart = hourStart →
      row.objectKey ≠ "" → row.signalType = type → ∀ batch ∈ history.accepted,
        batch.batchID = row.batchBID → batch.sessionSID = row.sessionSID →
          (consumedWindows hourStart row batch).flatMap (fun input => f ⟨signal, row, input⟩) =
            g (row.objectKey, batch)) :
    (history.hourEmissions hourStart).flatMap f = (history.hourPairs hourStart type).flatMap g := by
  unfold hourEmissions hourPairs emissions walkPairs
  rw [flatMap_assoc, flatMap_assoc]
  apply flatMap_congr
  intro key listed
  unfold objectEmissions objectPairs
  cases loaded : history.load key with
  | none => rfl
  | some =>
    simp only [flatMap_map]
    have rows : objectRows (hourSignalRows hourStart type history.windows) key =
        (objectRows (history.hourRows hourStart) key).filter fun row =>
          row.signalType = type := by
      simp only [objectRows, hourSignalRows, filter_filter, Bool.and_comm]
    rw [flatMap_assoc, rows]
    refine groupHeads_walked ledger (fun head differs => ?_) (fun row mem same => ?_) (by simp)
    · refine flatMap_eq_nil_iff.mpr fun e step => other e ?_
      exact (mem_rowEmissions.mp step).2.1 ▸ differs
    · obtain ⟨stored, inHour, rowKey⟩ := (mem_hourObjectRows aligned).mp mem
      obtain ⟨batch, accepted, id, session, found, foundLoaded, resolved⟩ :=
        row_payload inv readable stored
      rw [rowKey, loaded] at foundLoaded
      cases foundLoaded
      refine ⟨batch, resolved, ?_⟩
      rw [rowEmissions, resolved, flatMap_map, ← rowKey]
      exact own row stored inHour (rowKey ▸ (mem_objectOrder.mp listed).1) same batch accepted id
        session

/-- The pairs of the hour and those of some of its rows contribute the same, when a batch without
such a row contributes nothing. -/
theorem pairs_perm {g : ContinuousStoredBatch → List α}
    (named : ∀ batch ∈ history.accepted, batch.batchID ≠ "")
    (inHour : ∀ row ∈ rows, row ∈ hourSignalRows hourStart type history.windows)
    (idle : ∀ row ∈ history.windows, Time.truncateHour row.windowStart = hourStart →
      row.objectKey ≠ "" → row.signalType = type → ∀ batch ∈ history.accepted,
        batch.batchID = row.batchBID → batch.sessionSID = row.sessionSID →
          (∀ other ∈ rows, other.objectKey = row.objectKey → other.batchBID ≠ row.batchBID) →
            g batch = []) :
    ((history.hourPairs hourStart type).flatMap fun pair => g pair.2).Perm
      ((history.pairs rows).flatMap fun pair => g pair.2) := by
  have stored : ∀ row ∈ hourSignalRows hourStart type history.windows,
      row ∈ history.windows ∧ Time.truncateHour row.windowStart = hourStart :=
    fun row mem => (mem_hourWindows aligned).mp (mem_of_mem_filter mem)
  have rowsNamed : ∀ row ∈ history.windows, row.batchBID ≠ "" := by
    intro row listed
    obtain ⟨batch, accepted, id, -⟩ := row_payload inv readable listed
    exact id ▸ named batch accepted
  apply flatMap_perm_of_subset
  · exact walkPairs_nodup (fun row mem => rowsNamed row (stored row (inHour row mem)).1)
      (distinct_nodup _)
  · exact walkPairs_nodup (fun row mem => rowsNamed row (stored row mem).1)
      (distinct_nodup _)
  · rintro ⟨key, batch⟩ mem
    obtain ⟨listed, batches, loaded, row, inRows, rowKey, resolved⟩ := mem_walkPairs.mp mem
    have inRow := inHour row inRows
    exact mem_walkPairs.mpr ⟨mem_objectOrder.mpr ⟨(mem_objectOrder.mp listed).1, row,
      mem_of_mem_filter inRow, rowKey⟩, batches, loaded, row, inRow, rowKey, resolved⟩
  · rintro ⟨key, batch⟩ mem unwalked
    obtain ⟨listed, batches, loaded, row, inRows, rfl, resolved⟩ := mem_walkPairs.mp mem
    obtain ⟨rowStored, hour⟩ := stored row inRows
    obtain ⟨accepted, id, session⟩ := resolved_accepted inv readable rowStored loaded resolved
    refine idle row rowStored hour (mem_objectOrder.mp listed).1
      (of_decide_eq_true (mem_filter.mp inRows).2) batch accepted id session
      fun other otherIn sameKey sameBatch => unwalked ?_
    exact mem_walkPairs.mpr ⟨mem_objectOrder.mpr ⟨(mem_objectOrder.mp listed).1, other, otherIn,
      sameKey⟩, batches, loaded, other, otherIn, sameKey,
      (continuousResolveBatch_congr sameBatch batches).trans resolved⟩

end Pairs

section Hour

variable {history : IngestHistory} {hourStart : Int} {sids : List String} {fromTime toTime : Int}

variable {window : ContinuousWindowIngest} {row : ProfileWindow} {batch : ContinuousStoredBatch}

/-- The payloads are plain, and no row has the old name of the CPU signal. -/
structure PlainHistory (history : IngestHistory) : Prop where
  windows : ∀ batch ∈ history.accepted, ∀ window ∈ batch.windows, PlainWindow window
  rows : ∀ row ∈ history.windows, row.signalType ≠ "cpu"

theorem cpuSamples_eq_nil (noData : continuousWindowSignalHasData window "cpu_profile" = false) :
    cpuSamples window = [] := by
  have type : lowerTrim "cpu_profile" = "cpu_profile" := by decide
  simp only [continuousWindowSignalHasData, type, if_true, Bool.or_eq_false_iff,
    Bool.not_eq_false', List.isEmpty_iff, List.any_eq_false] at noData
  unfold cpuSamples
  rw [noData.1, List.nil_append]
  apply flatMap_eq_nil_iff.mpr
  intro profile mem
  obtain ⟨inWindow, signal⟩ := mem_filter.mp mem
  have empty := noData.2 profile inWindow
  simpa [of_decide_eq_true signal] using empty

/-- A plain window with CPU samples in a range inside the hour is consumed by a CPU row of its
batch. -/
theorem counted_eq_nil (type : row.signalType = "cpu_profile") (carried : window ∈ batch.windows)
    (plain : PlainWindow window) (lower : hourStart ≤ fromTime)
    (upper : toTime ≤ hourStart + Time.hour)
    (idle : ¬(window ∈ consumedWindows hourStart row batch ∧
      hasContents row.signalType window = true)) :
    (if startsIn fromTime toTime window then countedSamples window else []) = [] := by
  split
  · next inside =>
    simp only [startsIn, Bool.and_eq_true, decide_eq_true_eq] at inside
    have order := plain.proper.2.2
    have none : cpuSamples window = [] := by
      by_contra sampled
      have data : continuousWindowSignalHasData window row.signalType = true := by
        rw [type]
        by_contra noData
        exact sampled (cpuSamples_eq_nil (by simpa using noData))
      refine idle ⟨mem_filter.mpr ⟨carried, ?_⟩, ?_⟩
      · rw [data, Bool.and_true, windowOverlaps_iff]
        omega
      · have ledger : pqLedgerSignalForWindow row.signalType = some .cpu := by
          rw [type]
          decide
        have samples : samplesUnder row.signalType window = cpuSamples window :=
          ingestSamples_eq type plain
        simp [hasContents, ledger, samples, sampled]
    simp [countedSamples, none]
  · rfl

/-- The steps of a CPU row contribute the samples of its batch in a range inside the hour. -/
theorem consumed_samples (type : row.signalType = "cpu_profile")
    (session : batch.sessionSID = row.sessionSID)
    (plain : ∀ window ∈ batch.windows, PlainWindow window)
    (lower : hourStart ≤ fromTime) (upper : toTime ≤ hourStart + Time.hour) :
    (consumedWindows hourStart row batch).flatMap
        (fun input => stepSamples sids fromTime toTime ⟨.cpu, row, input⟩) =
      batchSamples sids fromTime toTime batch := by
  unfold stepSamples batchSamples
  simp only [type, session, decide_true, Bool.true_and]
  cases chosen : sids.contains row.sessionSID with
  | false =>
    exact flatMap_eq_nil_iff.mpr fun _ _ => rfl
  | true =>
    unfold consumedWindows
    rw [← flatMap_ite_nil]
    apply flatMap_congr
    intro window carried
    split
    · rfl
    · next skipped =>
      exact (counted_eq_nil type carried (plain window carried) lower upper
        fun both => skipped (mem_filter.mp both.1).2).symm

/-- The rows that a query reads. -/
def IngestHistory.queryRows (history : IngestHistory) (sids : List String) (fromTime toTime : Int) :
    List ProfileWindow :=
  v1QueryRows (cpuQuery sids) fromTime toTime history.windows

/-- A readable history of plain payloads, and a range inside an hour. -/
structure PlainHour (history : IngestHistory) (hourStart fromTime toTime : Int) : Prop where
  aligned : Time.truncateHour hourStart = hourStart
  inv : HistoryInv history
  readable : history.Readable
  plain : PlainHistory history
  lower : hourStart ≤ fromTime
  upper : toTime ≤ hourStart + Time.hour

/-- When windows start with the first rows, a batch that a query does not walk has nothing in the
range. -/
theorem unwalked_empty (within : PlainHour history hourStart fromTime toTime)
    (first : StartsFirst history hourStart) (stored : row ∈ history.windows)
    (hour : Time.truncateHour row.windowStart = hourStart) (named : row.objectKey ≠ "")
    (type : row.signalType = "cpu_profile") (accepted : batch ∈ history.accepted)
    (id : batch.batchID = row.batchBID)
    (unread : ∀ other ∈ history.queryRows sids fromTime toTime, other.objectKey = row.objectKey →
      other.batchBID ≠ row.batchBID) : batchSamples sids fromTime toTime batch = [] := by
  obtain ⟨-, inv, readable, plain, lower, upper⟩ := within
  unfold batchSamples
  split
  · next chosen =>
    apply flatMap_eq_nil_iff.mpr
    intro window carried
    by_cases inside : startsIn fromTime toTime window
    · apply counted_eq_nil type carried (plain.windows batch accepted window carried) lower upper
      rintro ⟨consumed, contents⟩
      -- The first row of the group starts with the window, so the query reads it.
      obtain ⟨-, start, startStored, -, ⟨startKey, group⟩, same⟩ :=
        first row stored hour named batch accepted id window consumed contents
      simp only [startsIn, Bool.and_eq_true, decide_eq_true_eq] at inside
      have startBatch : start.batchBID = row.batchBID := congrArg Prod.fst group
      obtain ⟨batches, loaded, resolved⟩ :=
        readable batch accepted start startStored (startBatch.trans id.symm)
      have session := (resolved_accepted inv readable startStored loaded resolved).2.2
      refine unread start (mem_cpuQueryRows.mpr ⟨startStored, ?_,
        (congrArg Prod.snd group).trans type, by omega, by omega⟩) startKey startBatch
      rw [← session]
      simpa using chosen
    · exact if_neg inside
  · rfl

/-- The result of the v1 path for a range inside an hour of plain payloads. -/
theorem v1_samples (hour : PlainHour history hourStart fromTime toTime)
    (within : (hourSignalRows hourStart "cpu_profile" history.windows).length ≤
      continuousMaxWindowCount) :
    ∃ found agg, aggregateV1WindowsInto (cpuQuery sids) fromTime toTime history.windows
        history.load {} = .ok (found, agg) ∧
      (agg.samples.map fun entry => sampleIdentity entry.1) =
        (history.pairs (history.queryRows sids fromTime toTime)).flatMap fun pair =>
          batchSamples sids fromTime toTime pair.2 := by
  obtain ⟨-, inv, readable, plain, lower, upper⟩ := hour
  have few : (history.queryRows sids fromTime toTime).length ≤ continuousMaxWindowCount := by
    refine le_trans ?_ within
    unfold queryRows v1QueryRows hourSignalRows hourWindows
    rw [(orderBy_perm _ _).length_eq, ((orderBy_perm _ _).filter _).length_eq, filter_filter]
    apply List.Sublist.length_le
    apply monotone_filter_right
    intro row test
    simp [cpuQuery, ProfileQuery.signalType] at test
    simp only [test, decide_true, Bool.true_and, Bool.and_eq_true, decide_eq_true_eq]
    omega
  have stored : ∀ row ∈ history.queryRows sids fromTime toTime, row ∈ history.windows :=
    fun row mem => (mem_cpuQueryRows.mp mem).1
  have plainWalk : ∀ window ∈ v1Walk history.load
      (history.queryRows sids fromTime toTime), PlainWindow window := by
    intro window mem
    obtain ⟨pair, inPairs, carried⟩ := mem_flatMap.mp mem
    exact plain.windows pair.2 (pairs_accepted inv readable stored inPairs).1 window carried
  obtain ⟨found, agg, run, -, samples⟩ :=
    aggregateV1_walk few (objects_readable inv readable stored)
      (fun window mem => (plainWalk window mem).unnamed) {}
  refine ⟨found, agg, run, ?_⟩
  rw [samples, map_append, map_flatMap, map_nil, nil_append, ← queryRows,
    flatMap_congr fun window mem => v1Added_identities (plainWalk window mem), v1Walk,
    flatMap_assoc]
  apply flatMap_congr
  intro pair mem
  obtain ⟨-, row, inRows, -, session⟩ := pairs_accepted inv readable stored mem
  have chosen : sids.contains pair.2.sessionSID = true := by
    simpa [session] using (mem_cpuQueryRows.mp inRows).2.1
  rw [batchSamples, if_pos chosen]

theorem v2_samples (inServiceName : String → String)
    (hour : PlainHour history hourStart fromTime toTime)
    (whole : buildWindows hourStart history.windows = history.hourRows hourStart)
    (stamped : RowsStamped inServiceName history hourStart) :
    ((aggregateV2Block (cpuQuery sids) fromTime toTime (traceRows inServiceName
      (hourTrace hourStart history.windows history.load)).cpu
        {}).samples.map fun entry => sampleIdentity entry.1) =
      (history.hourEmissions hourStart).flatMap (stepSamples sids fromTime toTime) := by
  obtain ⟨aligned, inv, readable, plain, -, -⟩ := hour
  unfold RowsStamped hourTrace at *
  rw [whole, ← hourEmissions] at *
  -- A step's row is a stored row, and its window a plain one.
  have steps : ∀ e ∈ history.hourEmissions hourStart,
      e.row.signalType ≠ "cpu" ∧ PlainWindow e.input := by
    intro e step
    obtain ⟨batches, batch, -, loaded, listed, resolved, consumed⟩ := mem_emissions.mp step
    obtain ⟨stored, -, -⟩ := (mem_hourObjectRows aligned).mp (groupHeads_mem listed)
    obtain ⟨accepted, -, -⟩ := resolved_accepted inv readable stored loaded resolved
    exact ⟨plain.rows e.row stored, plain.windows batch accepted e.input (mem_filter.mp consumed).1⟩
  generalize history.hourEmissions hourStart = trace at *
  have unnamed : ∀ row ∈ trace.flatMap (fun e => (e.rows inServiceName).cpu),
      v2RowSelected (cpuQuery sids) fromTime toTime row = true → row.profileID = "" := by
    intro row mem selected
    obtain ⟨e, step, inRows⟩ := mem_flatMap.mp mem
    have type : e.row.signalType = "cpu_profile" := by
      rcases v2RowSelected_type selected with current | legacy
      · rw [← emission_cpu_type inRows, current]
      · exact absurd ((emission_cpu_type inRows).symm.trans legacy) (steps e step).1
    rw [emission_cpu_rows type (steps e step).2] at inRows
    obtain ⟨sample, origin, rfl⟩ := mem_map.mp inRows
    exact (steps e step).2.samples sample origin
  have marked : ∀ row ∈ (traceRows inServiceName trace).cpu,
      v2RowSelected (cpuQuery sids) fromTime toTime row = true → row.profileID = "" := by
    intro row mem selected
    have kept : row ∈ (traceRows inServiceName trace).cpu.filter
        (v2RowSelected (cpuQuery sids) fromTime toTime) :=
      mem_filter.mpr ⟨mem, selected⟩
    unfold traceRows at kept
    rw [markDuplicates_filter unnamed] at kept
    exact unnamed row (mem_filter.mp kept).1 selected
  rw [foldl_aggregateV2Row marked, nil_append]
  unfold traceRows
  rw [markDuplicates_filter unnamed, filter_flatMap, map_flatMap, filter_flatMap, map_flatMap]
  apply flatMap_congr
  intro e step
  exact step_selected (steps e step).1 (steps e step).2 (stamped e step)

/-- For every range inside the hour, the query over the raw blocks and the v1 query answer, with the
same samples up to order. -/
def SameSelection (history : IngestHistory) (hourStart : Int) (blocks : List RawBlockContent) :
    Prop :=
  ∀ sids fromTime toTime, hourStart ≤ fromTime → toTime ≤ hourStart + Time.hour →
    ∃ found v1 mixedFound mixed,
      aggregateV1WindowsInto (cpuQuery sids) fromTime toTime history.windows
        history.load {} = .ok (found, v1) ∧
      aggregateMixedHour (cpuQuery sids) fromTime toTime blocks history.windows
        history.load {} = .ok (mixedFound, mixed) ∧
      (mixed.samples.map fun entry => sampleIdentity entry.1).Perm
        (v1.samples.map fun entry => sampleIdentity entry.1)

theorem sameSelection_of_stamped (inServiceName : String → String)
    (aligned : Time.truncateHour hourStart = hourStart) (inv : HistoryInv history)
    (readable : history.Readable) (named : ∀ batch ∈ history.accepted, batch.batchID ≠ "")
    (plain : PlainHistory history)
    (within : (hourSignalRows hourStart "cpu_profile" history.windows).length ≤
      continuousMaxWindowCount) {failures : List ContinuousMigrationFailure}
      {blocks : List RawBlockContent}
    (built : (pqBuildRawHour inServiceName hourStart history.windows
      history.load failures).outcome = .ok blocks)
    (stamped : RowsStamped inServiceName history hourStart) :
    SameSelection history hourStart blocks := by
  intro sids fromTime toTime lower upper
  have hour : PlainHour history hourStart fromTime toTime :=
    ⟨aligned, inv, readable, plain, lower, upper⟩
  obtain ⟨found, v1, run, samples⟩ := v1_samples hour within
  obtain ⟨whole, contents⟩ := build_ok inServiceName hourStart history.windows history.load built
  have first := (rowsStamped_iff inServiceName aligned inv readable whole).mp stamped
  unfold aggregateMixedHour
  cases located : blocks.find? fun block => block.signal = .cpu with
  | none => exact ⟨found, v1, found, v1, run, run, List.Perm.refl _⟩
  | some block =>
    have isCPU : block.signal = .cpu := by simpa using find?_some located
    have rows := contents block (mem_of_find?_eq_some located)
    rw [isCPU] at rows
    refine ⟨found, v1, true, _, run, rfl, ?_⟩
    rw [rows]
    show ((aggregateV2Block (cpuQuery sids) fromTime toTime (traceRows inServiceName
      (hourTrace hourStart history.windows history.load)).cpu
        {}).samples.map _).Perm _
    have trace : (history.hourEmissions hourStart).flatMap (stepSamples sids fromTime toTime) =
        (history.hourPairs hourStart "cpu_profile").flatMap fun pair =>
          batchSamples sids fromTime toTime pair.2 := by
      have ledger : pqLedgerSignalForWindow "cpu_profile" = some .cpu := by decide
      refine trace_pairs inv readable aligned ledger
        (fun e differs => if_neg (by simp [differs])) ?_
      exact fun row _ _ _ type batch accepted _ session =>
        consumed_samples type session (plain.windows batch accepted) lower upper
    rw [v2_samples inServiceName hour whole stamped, trace, samples]
    refine pairs_perm inv readable aligned named (fun row mem => ?_)
      fun row stored inHour object type batch accepted id _ unread =>
        unwalked_empty hour first stored inHour object type accepted id unread
    obtain ⟨stored, -, type, after, before⟩ := mem_cpuQueryRows.mp mem
    refine mem_filter.mpr ⟨(mem_hourWindows aligned).mpr ⟨stored, ?_⟩, decide_eq_true type⟩
    exact Time.truncateHour_eq aligned (by omega) (by omega)

end Hour

section Sample

theorem innerHistory_plain : PlainHistory innerHistory := by
  have windows : ∀ batch ∈ innerHistory.accepted, ∀ window ∈ batch.windows,
      window = innerWindow := by decide
  constructor
  · intro batch accepted window carried
    rw [windows batch accepted window carried]
    refine ⟨⟨by decide, by decide, by decide⟩, ?_, ?_, ?_, ?_⟩
    · exact forall_mem_nil _
    · exact forall_mem_nil _
    · decide
    · decide
  · decide

end Sample

end MiniDrop
