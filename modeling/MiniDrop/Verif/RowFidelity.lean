import MiniDrop.Verif.History
import MiniDrop.Verif.RawHour
/-!
# Timestamps of the rows of a raw block

Every row of a payload window gets the start of the catalog row it is collected for. That row is the
first of its batch and signal, and the walk takes all windows of the batch, so the stamp is right
for the windows that start with this first row and wrong for all others.
-/
namespace MiniDrop

open Base PqSignalRows List

variable {windows : List ProfileWindow} {other : ProfileWindow}

/-- The timestamps of all rows. -/
def PqSignalRows.timestamps (rows : PqSignalRows) : List Int :=
  rows.cpu.map (·.timestamp) ++ rows.metrics.map (·.timestamp) ++
    rows.histogram.map (·.timestamp) ++ rows.db.map (·.timestamp)

/-- The samples of a window under a profile signal. -/
def samplesUnder (signalType : String) (input : ContinuousWindowIngest) :
    List ContinuousStackSample :=
  (if continuousNormalizeProfileSignal signalType = "cpu_profile" then input.samples else []) ++
    profileSamplesForIngest (continuousNormalizeProfileSignal signalType) [] input.profiles

/-- A window has contents that become rows of a signal. -/
def hasContents (signalType : String) (input : ContinuousWindowIngest) : Bool :=
  match pqLedgerSignalForWindow signalType with
  | some .cpu => !(samplesUnder signalType input).isEmpty ||
      ((signalType = "python_memory" || signalType = "memory") &&
        input.profiles.any fun profile =>
          continuousNormalizeProfileSignal profile.signalType = "python_memory" &&
            profile.samples.isEmpty && profile.profileID ≠ "")
  | some .metrics => !input.metrics.isEmpty
  | some .histogram => input.histograms.any fun histogram => !histogram.buckets.isEmpty
  | some .db => !input.dbSnapshots.isEmpty
  | none => false

section Rows

variable (inServiceName : String → String) (row : ProfileWindow) (input : ContinuousWindowIngest)

theorem collected_timestamps {timestamp : Int}
    (mem : timestamp ∈ (pqCollectWindowRows inServiceName row input).timestamps) :
    timestamp = row.windowStart := by
  unfold pqCollectWindowRows at mem
  split at mem
  · simp only [timestamps, map_nil, append_nil, mem_map] at mem
    obtain ⟨cpu, inRows, rfl⟩ := mem
    rcases mem_append.mp inRows with sampled | failed
    · obtain ⟨sample, -, rfl⟩ := mem_map.mp sampled
      rfl
    · split at failed
      · obtain ⟨profile, -, rfl⟩ := mem_map.mp failed
        rfl
      · cases failed
  · simp only [timestamps, map_nil, nil_append, append_nil, mem_map] at mem
    obtain ⟨metric, inRows, rfl⟩ := mem
    obtain ⟨point, -, rfl⟩ := inRows
    rfl
  · simp only [timestamps, map_nil, nil_append, append_nil,
      mem_map, mem_flatMap, bucketRows, mem_mapIdx] at mem
    obtain ⟨bucket, ⟨histogram, -, index, -, rfl⟩, rfl⟩ := mem
    rfl
  · simp only [timestamps, map_nil, nil_append, mem_map] at mem
    obtain ⟨entry, inRows, rfl⟩ := mem
    obtain ⟨snapshot, -, rfl⟩ := inRows
    rfl
  · simp [timestamps] at mem

/-- The profile rows of a window come from its samples and its memory profiles without samples. -/
theorem cpuRows_eq_nil_iff : cpuRows inServiceName row input = [] ↔
      samplesUnder row.signalType input = [] ∧
        (row.signalType = "python_memory" ∨ row.signalType = "memory" → ∀ profile ∈ input.profiles,
            ¬(continuousNormalizeProfileSignal profile.signalType = "python_memory" ∧
              profile.samples = [] ∧ profile.profileID ≠ "")) := by
  unfold cpuRows
  rw [append_eq_nil_iff, map_eq_nil_iff]
  apply and_congr
  · rfl
  · split
    · next memory =>
      simp only [memory, map_eq_nil_iff, filter_eq_nil_iff, forall_const]
      simp [and_assoc]
    · next other => simp [other]

theorem collected_nonempty_iff : (pqCollectWindowRows inServiceName row input).timestamps ≠ [] ↔
      hasContents row.signalType input = true := by
  unfold pqCollectWindowRows hasContents
  cases pqLedgerSignalForWindow row.signalType with
  | none => simp [timestamps]
  | some signal =>
    cases signal with
    | cpu =>
      simp only [timestamps, map_nil, append_nil, ne_eq, map_eq_nil_iff]
      rw [cpuRows_eq_nil_iff, ← Bool.not_eq_false, not_iff_not]
      simp [and_assoc]
    | metrics => simp [timestamps]
    | histogram => simp [timestamps, bucketRows]
    | db => simp [timestamps]

end Rows

/-- Two rows of one object, batch and signal. -/
def SameGroup (row other : ProfileWindow) : Prop :=
  other.objectKey = row.objectKey ∧ groupKey other = groupKey row

/-- Every row that a build emits for a payload window carries the start of this window. -/
def RowsStamped (inServiceName : String → String) (history : IngestHistory) (hourStart : Int) :
    Prop :=
  ∀ e ∈ hourTrace hourStart history.windows history.load,
    ∀ timestamp ∈ (e.rows inServiceName).timestamps,
      timestamp = Time.unixMilli e.input.windowStart

/-- Every payload window with contents for a row of the hour starts where the first row of the
object, batch and signal does. -/
def StartsFirst (history : IngestHistory) (hourStart : Int) : Prop :=
  ∀ row ∈ history.windows, Time.truncateHour row.windowStart = hourStart →
    row.objectKey ≠ "" → ∀ batch ∈ history.accepted, batch.batchID = row.batchBID →
      ∀ input ∈ consumedWindows hourStart row batch, hasContents row.signalType input = true →
        input.windowStart ≤ row.windowStart ∧
          ∃ first ∈ history.windows, Time.truncateHour first.windowStart = hourStart ∧
            SameGroup row first ∧ first.windowStart = input.windowStart

section Stamps

variable {history : IngestHistory} {hourStart : Int} {row : ProfileWindow}

theorem mem_hourObjectRows (aligned : Time.truncateHour hourStart = hourStart)
    {objectKey : String} : row ∈ objectRows (hourWindows hourStart windows) objectKey ↔
      row ∈ windows ∧ Time.truncateHour row.windowStart = hourStart ∧
      row.objectKey = objectKey := by
  simp [objectRows, mem_hourWindows aligned, and_assoc]

theorem head_least (aligned : Time.truncateHour hourStart = hourStart)
    {signal : LedgerSignal} {head : ProfileWindow}
    (listed : (signal, head) ∈
      groupHeads [] (objectRows (hourWindows hourStart windows) head.objectKey))
    (stored : row ∈ windows) (inHour : Time.truncateHour row.windowStart = hourStart)
    (group : SameGroup head row) : head.windowStart ≤ row.windowStart := by
  refine find?_least _ ((orderBy_pairwise _ _).filter _) (groupHeads_first listed).2.2
    ((mem_hourObjectRows aligned).mpr ⟨stored, inHour, group.1⟩) ?_
  exact decide_eq_true group.2

theorem resolved_accepted (inv : HistoryInv history) (readable : history.Readable)
    (stored : row ∈ history.windows) {batches : List ContinuousStoredBatch}
    (loaded : history.load row.objectKey = some batches)
    {batch : ContinuousStoredBatch} (resolved : continuousResolveBatch row batches = some batch) :
    batch ∈ history.accepted ∧ batch.batchID = row.batchBID ∧
      batch.sessionSID = row.sessionSID := by
  obtain ⟨home, accepted, id, session, homeBatches, homeLoaded, homeResolved⟩ :=
    row_payload inv readable stored
  rw [loaded] at homeLoaded
  cases homeLoaded
  rw [resolved] at homeResolved
  cases homeResolved
  exact ⟨accepted, id, session⟩

/-- **Rows are stamped right exactly when windows start with the first row of their group.** -/
theorem rowsStamped_iff (inServiceName : String → String)
    (aligned : Time.truncateHour hourStart = hourStart) (inv : HistoryInv history)
    (readable : history.Readable)
    (whole : buildWindows hourStart history.windows = history.hourRows hourStart) :
    RowsStamped inServiceName history hourStart ↔ StartsFirst history hourStart := by
  unfold RowsStamped hourTrace
  rw [whole]
  constructor
  · intro stamped row stored inHour named batch accepted id input consumed contents
    obtain ⟨batches, loaded, resolved⟩ := readable batch accepted row stored id.symm
    have ledger : ∃ signal, pqLedgerSignalForWindow row.signalType = some signal := by
      cases found : pqLedgerSignalForWindow row.signalType with
      | some signal => exact ⟨signal, rfl⟩
      | none => simp [hasContents, found] at contents
    obtain ⟨signal, ledger⟩ := ledger
    obtain ⟨head, listed, key⟩ := groupHeads_exists
      ((mem_hourObjectRows aligned).mpr ⟨stored, inHour, rfl⟩) ledger not_mem_nil
    obtain ⟨headStored, headHour, headObject⟩ :=
      (mem_hourObjectRows aligned).mp (groupHeads_mem listed)
    have headBatch : head.batchBID = row.batchBID := congrArg Prod.fst key
    have headType : head.signalType = row.signalType := congrArg Prod.snd key
    -- The first row of the group collects the window.
    have step : (⟨signal, head, input⟩ : Emission) ∈ emissions hourStart
        history.load (history.hourRows hourStart) := by
      refine mem_emissions.mpr ⟨batches, batch, ?_, ?_, ?_, ?_, ?_⟩
      · rw [headObject]
        exact named
      · rw [headObject]
        exact loaded
      · rw [headObject]
        exact listed
      · rw [continuousResolveBatch_congr headBatch]
        exact resolved
      · simpa only [consumedWindows, headType] using consumed
    have emitted : (pqCollectWindowRows inServiceName head input).timestamps ≠ [] := by
      rw [collected_nonempty_iff, headType]
      exact contents
    obtain ⟨timestamp, mem⟩ := exists_mem_of_ne_nil _ emitted
    have start : head.windowStart = input.windowStart :=
      (collected_timestamps inServiceName head input mem).symm.trans
        (stamped _ step timestamp mem)
    have least : head.windowStart ≤ row.windowStart :=
      head_least aligned (headObject ▸ listed) stored inHour ⟨headObject.symm, key.symm⟩
    exact ⟨start ▸ least, head, headStored, headHour, ⟨headObject, key⟩, start⟩
  · intro first e step timestamp mem
    obtain ⟨batches, batch, named, loaded, listed, resolved, consumed⟩ := mem_emissions.mp step
    obtain ⟨stored, inHour, -⟩ := (mem_hourObjectRows aligned).mp (groupHeads_mem listed)
    obtain ⟨accepted, id, -⟩ := resolved_accepted inv readable stored loaded resolved
    have contents : hasContents e.row.signalType e.input = true :=
      (collected_nonempty_iff inServiceName e.row e.input).mp (ne_nil_of_mem mem)
    obtain ⟨upper, other, otherStored, otherHour, group, start⟩ :=
      first e.row stored inHour named batch accepted id e.input consumed contents
    have lower := head_least aligned listed otherStored otherHour group
    rw [collected_timestamps inServiceName e.row e.input mem]
    show e.row.windowStart = e.input.windowStart
    omega

end Stamps

end MiniDrop
