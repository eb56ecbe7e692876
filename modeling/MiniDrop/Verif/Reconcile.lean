import MiniDrop.Verif.History
import MiniDrop.Verif.RawHour
/-!
# The completeness reconciliation

After the consumption loop a build demands that every row of the hour that needs data was consumed.
The rows are classified at ingest, from the signal rows, the sample count and the status of a
window; the loop classifies the payload again, by whether a signal has data. A row is accounted for
when some payload window with the same start has data for a row of its session and ledger signal.
-/
namespace MiniDrop

open Base List

variable {signal : LedgerSignal}

/-- A row that the reconciliation of its hour insists on. -/
def NeedsLineage (row : ProfileWindow) (signal : LedgerSignal) : Prop :=
  row.objectKey ≠ "" ∧ pqWindowRequiresDataLineage row = true ∧
    pqLedgerSignalForWindow row.signalType = some signal

/-- A payload window accounts for a row: it starts with the row, and it has data for the signal of
a row of the same hour, session and ledger signal whose batch carries it. -/
def Supplied (history : IngestHistory) (hourStart : Int) (row : ProfileWindow)
    (signal : LedgerSignal) : Prop :=
  ∃ other ∈ history.windows, Time.truncateHour other.windowStart = hourStart ∧
    other.objectKey ≠ "" ∧ other.sessionSID = row.sessionSID ∧
    pqLedgerSignalForWindow other.signalType = some signal ∧
    ∃ batch ∈ history.accepted, batch.batchID = other.batchBID ∧
      ∃ input ∈ batch.windows, input.windowStart = row.windowStart ∧
        continuousWindowSignalHasData input other.signalType = true

/-- A build within the row limit succeeds when no required row was missed. -/
theorem build_isOk_iff (inServiceName : String → String) (hourStart : Int)
    (windows : List ProfileWindow) (load : Loader)
    (failures : List ContinuousMigrationFailure)
    (within : (hourWindows hourStart windows).length ≤ rawHourWindowLimit) :
    (pqBuildRawHour inServiceName hourStart windows load failures).outcome.isOk = true ↔
      missedWindow (pqFailedWindowSet (((collectHour inServiceName hourStart load
          (hourWindows hourStart windows)).failures.map WindowFailure.entry).foldl
            recordContinuousMigrationFailure failures))
        (collectHour inServiceName hourStart load (hourWindows hourStart windows)).consumed
        (hourWindows hourStart windows) = none := by
  have whole : (hourWindows hourStart windows).take (rawHourWindowLimit + 1) =
      hourWindows hourStart windows := take_of_length_le (by omega)
  unfold pqBuildRawHour
  simp only [whole]
  by_cases empty : hourWindows hourStart windows = []
  · simp [empty, missedWindow, LedgerSignal.all, Except.isOk, Except.toBool]
  · rw [if_neg empty, if_neg (by omega)]
    generalize missedWindow _ _ _ = missed
    cases missed with
    | none | some => simp [Except.isOk, Except.toBool]

/-- Nothing is missed when every required row, signal by signal, is marked as consumed. -/
theorem missedWindow_eq_none {failed : List String} {consumed : List (LedgerSignal × String × Int)}
    {windows : List ProfileWindow} :
    missedWindow failed consumed windows = none ↔
      ∀ window ∈ windows, ∀ signal, lineageRequired failed signal window = true →
        (signal, window.sessionSID, Time.unixMilli window.windowStart) ∈ consumed := by
  simp only [missedWindow, findSome?_eq_none_iff]
  constructor
  · intro none window mem signal required
    have here := none signal (by cases signal <;> decide) window mem
    by_contra missing
    simp [required, missing] at here
  · intro all signal _ window mem
    rw [if_neg]
    rintro ⟨required, missing⟩
    exact missing (all window mem signal required)

/-- The reconciliation insists on exactly the rows that need lineage, when no failure excuses
them. -/
theorem lineageRequired_iff {window : ProfileWindow} :
    lineageRequired [] signal window = true ↔ NeedsLineage window signal := by
  simp only [lineageRequired, NeedsLineage, Bool.and_eq_true, decide_eq_true_eq,
    mem_pqV1SignalTypesFor, not_mem_nil, not_false_eq_true, and_true]
  exact and_assoc

section History

variable {history : IngestHistory} {hourStart : Int}

/-- A row is marked as consumed exactly when a payload window accounts for it. -/
theorem consumed_iff_supplied (inServiceName : String → String)
    (aligned : Time.truncateHour hourStart = hourStart) (inv : HistoryInv history)
    (readable : history.Readable)
    (proper : ∀ batch ∈ history.accepted, ∀ input ∈ batch.windows, ProperTimes input)
    {row : ProfileWindow} (inHour : Time.truncateHour row.windowStart = hourStart) :
    (signal, row.sessionSID, Time.unixMilli row.windowStart) ∈
        (collectHour inServiceName hourStart history.load (history.hourRows hourStart)).consumed ↔
      Supplied history hourStart row signal := by
  rw [collectHour_consumed, mem_map]
  constructor
  · rintro ⟨e, mem, same⟩
    obtain ⟨batches, batch, named, loaded, head, resolved, consumed⟩ := mem_emissions.mp mem
    have ledger := (groupHeads_first head).1
    have inRows := (mem_filter.mp (groupHeads_mem head)).1
    obtain ⟨stored, hour⟩ := (mem_hourWindows aligned).mp inRows
    obtain ⟨home, accepted, id, -, others, loadedHome, resolvedHome⟩ :=
      row_payload inv readable stored
    rw [loaded] at loadedHome
    cases loadedHome
    rw [resolved] at resolvedHome
    cases resolvedHome
    obtain ⟨carried, test⟩ := mem_filter.mp consumed
    rw [Bool.and_eq_true] at test
    simp only [Prod.mk.injEq, Time.unixMilli] at same
    obtain ⟨sameSignal, sameSession, sameStart⟩ := same
    rw [sameSignal] at ledger
    exact ⟨e.row, stored, hour, named, sameSession, ledger, batch, accepted, id, e.input, carried,
      sameStart, test.2⟩
  · rintro ⟨other, stored, hour, named, session, ledger, batch, accepted, id, input, carried,
      start, data⟩
    have inRows : other ∈ objectRows (history.hourRows hourStart)
        other.objectKey := by
      apply mem_filter.mpr
      exact ⟨(mem_hourWindows aligned).mpr ⟨stored, hour⟩, by simp⟩
    -- The first row of the batch and signal in the object stands for the others.
    obtain ⟨head, inHeads, key⟩ := groupHeads_exists inRows ledger not_mem_nil
    have headBatch : head.batchBID = other.batchBID := congrArg Prod.fst key
    have headType : head.signalType = other.signalType := congrArg Prod.snd key
    obtain ⟨headIn, headObject⟩ := mem_filter.mp (groupHeads_mem inHeads)
    have headObject : head.objectKey = other.objectKey := by simpa using headObject
    obtain ⟨headStored, -⟩ := (mem_hourWindows aligned).mp headIn
    obtain ⟨batches, loaded, resolved⟩ :=
      readable batch accepted head headStored (headBatch.trans id.symm)
    obtain ⟨home, homeAccepted, homeID, homeSession, -⟩ := row_payload inv readable stored
    obtain ⟨headHome, headAccepted, headID, headSession, -⟩ := row_payload inv readable headStored
    have sameHome : headHome = home := by
      apply inj_on_of_nodup_map inv.distinct headAccepted homeAccepted
      rw [headID, homeID, headBatch]
    have times := proper batch accepted input carried
    have bounds := Time.truncateHour_bounds row.windowStart
    rw [inHour] at bounds
    refine ⟨⟨signal, head, input⟩, mem_emissions.mpr ⟨batches, batch, ?_, loaded, ?_, resolved,
      ?_⟩, ?_⟩
    · rw [headObject]
      exact named
    · rw [headObject]
      exact inHeads
    · apply mem_filter.mpr
      refine ⟨carried, ?_⟩
      have order := times.2.2
      rw [headType, data, Bool.and_true, windowOverlaps_iff]
      show hourStart ≤ input.windowEnd ∧ input.windowStart ≤ hourStart + Time.hour
      omega
    · simp only [Prod.mk.injEq, true_and, Time.unixMilli]
      exact ⟨by rw [← headSession, sameHome, homeSession, session], start⟩

end History

/-- **Build completeness.** An hour of accepted v3 and v4 batches with readable payloads, within the
row limit, is built exactly when a payload window accounts for every row that needs lineage. -/
theorem build_completes_iff (sessions : List ContinuousSession) (calls : List IngestCall)
    (inServiceName : String → String) (hourStart : Int)
    (aligned : Time.truncateHour hourStart = hourStart)
    (versions : ∀ batch ∈ (ingestHistory sessions calls).accepted,
      continuousSchemaVersionV3 ≤ batch.schemaVersion)
    (readable : (ingestHistory sessions calls).Readable)
    (within : (hourWindows hourStart (ingestHistory sessions calls).windows).length ≤
      rawHourWindowLimit) :
    ((ingestHistory sessions calls).build inServiceName hourStart).outcome.isOk = true ↔
      ∀ row ∈ (ingestHistory sessions calls).windows,
        Time.truncateHour row.windowStart = hourStart → ∀ signal, NeedsLineage row signal →
          Supplied (ingestHistory sessions calls) hourStart row signal := by
  have inv := historyInv_ingestHistory sessions calls
  have proper : ∀ batch ∈ (ingestHistory sessions calls).accepted, ∀ input ∈ batch.windows,
      ProperTimes input := fun batch accepted input carried =>
    (accepted_v3 sessions calls batch accepted (versions batch accepted) input carried).1
  generalize ingestHistory sessions calls = history at *
  have noFailures : (collectHour inServiceName hourStart history.load
      (history.hourRows hourStart)).failures = [] := by
    apply collectHour_failures
    intro row inHour _
    obtain ⟨stored, -⟩ := (mem_hourWindows aligned).mp inHour
    obtain ⟨batch, -, -, -, batches, loaded, resolved⟩ := row_payload inv readable stored
    exact ⟨batches, loaded, by rw [resolved]; rfl⟩
  rw [build_isOk_iff _ _ _ _ _ within, noFailures, inv.failures, missedWindow_eq_none]
  constructor
  · intro all row stored inHour signal needs
    have consumed := all row ((mem_hourWindows aligned).mpr ⟨stored, inHour⟩) signal
      (lineageRequired_iff.mpr needs)
    exact (consumed_iff_supplied inServiceName aligned inv readable proper inHour).mp consumed
  · intro all row inRows signal required
    obtain ⟨stored, inHour⟩ := (mem_hourWindows aligned).mp inRows
    exact (consumed_iff_supplied inServiceName aligned inv readable proper inHour).mpr
      (all row stored inHour signal (lineageRequired_iff.mp required))

/-- The hour of a batch with two windows is built. -/
theorem pairHour_completes :
    ((sampleHistory pairCalls).build (fun _ => "") sampleHour).outcome.isOk = true := by
  have cpu : ∀ row ∈ (sampleHistory pairCalls).windows,
      pqLedgerSignalForWindow row.signalType = some .cpu := by decide +kernel
  have found : ∀ row ∈ (sampleHistory pairCalls).windows,
      Supplied (sampleHistory pairCalls) sampleHour row .cpu := by
    unfold Supplied
    decide +kernel
  refine (build_completes_iff [sampleSession] pairCalls (fun _ => "") sampleHour (by decide +kernel)
    (by decide +kernel) (readable_of_payloads (by decide +kernel)) (by decide +kernel)).mpr ?_
  intro row stored _ signal needs
  have ledger := needs.2.2
  rw [cpu row stored] at ledger
  cases ledger
  exact found row stored

/-- A v4 window without data, with the given contents. -/
def dataless (input : ContinuousWindowIngest) : ContinuousWindowIngest :=
  { input with
    windowStart := sampleHour
    windowEnd := sampleHour + 10000
    windowID := "w1"
    targetFingerprint := "host"
    contentSHA256 := sampleDigest 'a' }

/-- An empty window, a window with a database metric only, a memory profile without samples, and a
window that reports a sample count it does not carry. -/
def datalessWindows : List ContinuousWindowIngest :=
  [dataless {},
    dataless { metrics := [{ metric := "db_active_connections", value := 3 }]
               signalStatuses := [("python_rss", { status := "collected" })] },
    dataless { profiles := [{ signalType := "python_memory", profileID := "memray-1" }] },
    dataless { sampleCount := 5
               signalStatuses := [("cpu_profile", { status := "no_events" })] }]

/-- The upload of one such window. -/
def datalessCalls (input : ContinuousWindowIngest) : List IngestCall :=
  [({ now := sampleHour + 20000 },
    sampleRequest "b1" sampleHour (sampleHour + 10000) [input])]

/-- Each of these windows is accepted, its payload loads, and its hour cannot be built. -/
theorem datalessWindows_block_hour :
    datalessWindows.length = 4 ∧ ∀ input ∈ datalessWindows,
      (sampleHistory (datalessCalls input)).accepted.map (·.windows) = [[input]] ∧
      (sampleHistory (datalessCalls input)).windows.all (fun row =>
        ((sampleHistory (datalessCalls input)).load row.objectKey).isSome) = true ∧
      ((sampleHistory (datalessCalls input)).build (fun _ => "") sampleHour).outcome.isOk =
          false := by
  decide +kernel

end MiniDrop
