import MiniDrop.Verif.History
import MiniDrop.Verif.RawHour
/-!
# Hour placement

Which hours consume a payload window. An hour is chosen by its catalog rows, which start inside it,
but the windows taken are all windows of the batch that touch the hour, both boundaries included.
A window is therefore consumed once for every object that holds a row of its batch and signal in
every hour it touches.
-/
namespace MiniDrop

open Base Time List

section Catalog

variable (hourStart : Int) (windows : List ProfileWindow) (load : Loader) (bid signalType : String)

/-- The payload windows that an hour's build consumes for one batch and window signal. -/
def contributions : List ContinuousWindowIngest :=
  ((hourTrace hourStart windows load).filter fun e =>
    groupKey e.row = (bid, signalType)).map (·.input)

/-- The objects of an hour that hold a row of the batch and window signal. -/
def signalObjects (rows : List ProfileWindow) : List String :=
  (objectOrder rows).filter fun key =>
    (objectRows rows key).any fun row => groupKey row = (bid, signalType)

end Catalog

section Count

variable {hourStart : Int} {rows : List ProfileWindow}
  {load : Loader} {bid signalType : String}
  {batch : ContinuousStoredBatch}

/-- The payload windows of a batch that touch an hour and have data for a signal. -/
def touchingWindows (hourStart : Int) (signalType : String) (batch : ContinuousStoredBatch) :
    List ContinuousWindowIngest :=
  batch.windows.filter fun input =>
    windowOverlaps input.windowStart input.windowEnd hourStart (hourStart + hour) &&
      continuousWindowSignalHasData input signalType

variable {batches : List ContinuousStoredBatch} {signal : LedgerSignal} {row : ProfileWindow}
  {key : String}

/-- The inputs of one row's steps, kept when the row has the wanted pair. -/
theorem rowEmissions_inputs :
    ((rowEmissions hourStart batches signal row).filter fun e =>
        groupKey e.row = (bid, signalType)).map (·.input) =
      if groupKey row = (bid, signalType) then
        (continuousResolveBatch row batches).toList.flatMap (touchingWindows hourStart signalType)
      else [] := by
  unfold rowEmissions
  by_cases key : groupKey row = (bid, signalType)
  · have type : row.signalType = signalType := congrArg Prod.snd key
    cases continuousResolveBatch row batches <;>
      simp [filter_map, key, consumedWindows, touchingWindows, type, Function.comp_def]
  · cases continuousResolveBatch row batches <;> simp [filter_map, key, Function.comp_def]

section

variable (ledger : pqLedgerSignalForWindow signalType = some signal)
include ledger

/-- One object's contribution to a batch and signal whose rows lead to the batch's payload. -/
theorem objectEmissions_inputs
    (readable : ∀ row ∈ objectRows rows key, groupKey row = (bid, signalType) →
      ∃ batches, load row.objectKey = some batches ∧
        continuousResolveBatch row batches = some batch) :
    ((objectEmissions hourStart load rows key).filter fun e =>
        groupKey e.row = (bid, signalType)).map (·.input) =
      if (objectRows rows key).any fun row => groupKey row = (bid, signalType) then
        touchingWindows hourStart signalType batch
      else [] := by
  split
  · next some =>
    obtain ⟨row, inRows, sameKey⟩ := any_eq_true.mp some
    have pair : groupKey row = (bid, signalType) := of_decide_eq_true sameKey
    have rowKey : row.objectKey = key := by
      simpa using (mem_filter.mp inRows).2
    obtain ⟨batches, loaded, -⟩ := readable row inRows pair
    rw [rowKey] at loaded
    have rowType : row.signalType = signalType := congrArg Prod.snd pair
    have rowLedger : pqLedgerSignalForWindow row.signalType = Option.some signal := by
      rw [rowType]
      exact ledger
    obtain ⟨head, inHeads, headKey⟩ :=
      groupHeads_exists inRows rowLedger (not_mem_nil (a := groupKey row))
    have headPair : groupKey head = (bid, signalType) := headKey.trans pair
    have headIn : head ∈ objectRows rows key := groupHeads_mem inHeads
    have headObject : head.objectKey = key := by
      simpa using (mem_filter.mp headIn).2
    have resolved : continuousResolveBatch head batches = Option.some batch := by
      obtain ⟨others, loadedHead, resolved⟩ := readable head headIn headPair
      rw [headObject, loaded] at loadedHead
      cases loadedHead
      exact resolved
    -- The heads of an object have different pairs, so one head alone contributes.
    have unique := flatMap_eq_of_unique (groupHeads_distinct [] (objectRows rows key)) inHeads
      (f := fun entry => ((rowEmissions hourStart batches entry.1 entry.2).filter fun e =>
        groupKey e.row = (bid, signalType)).map (·.input))
      (fun entry _ apart => by
        rw [rowEmissions_inputs, if_neg]
        intro same
        exact apart (same.trans headPair.symm))
    simp only [objectEmissions, loaded, filter_flatMap, map_flatMap]
    rw [unique, rowEmissions_inputs, if_pos headPair, resolved]
    simp
  · next none =>
    have absent : ∀ row ∈ objectRows rows key, groupKey row ≠ (bid, signalType) := by
      intro row inRows same
      exact none (any_eq_true.mpr ⟨row, inRows, decide_eq_true same⟩)
    unfold objectEmissions
    split
    · rfl
    · rw [filter_flatMap, map_flatMap]
      apply flatMap_eq_nil_iff.mpr
      intro entry mem
      rw [rowEmissions_inputs, if_neg (absent entry.2 (groupHeads_mem mem))]

/-- **An hour consumes the touching windows of a batch once for every object with a row of the
batch and signal.** -/
theorem contributions_eq {windows : List ProfileWindow}
    (readable : ∀ row ∈ windows, groupKey row = (bid, signalType) →
      ∃ batches, load row.objectKey = some batches ∧
        continuousResolveBatch row batches = some batch)
    (whole : buildWindows hourStart windows = hourWindows hourStart windows) :
    contributions hourStart windows load bid signalType =
      (signalObjects bid signalType (hourWindows hourStart windows)).flatMap fun _ =>
        touchingWindows hourStart signalType batch := by
  have perObject : ∀ key, ((objectEmissions hourStart load (hourWindows hourStart windows)
      key).filter fun e => groupKey e.row = (bid, signalType)).map (·.input) =
      if (objectRows (hourWindows hourStart windows) key).any
          (fun row => groupKey row = (bid, signalType)) then
        touchingWindows hourStart signalType batch else [] := by
    intro key
    apply objectEmissions_inputs ledger
    intro row inRows pair
    have inHour : row ∈ hourWindows hourStart windows := (mem_filter.mp inRows).1
    exact readable row (mem_filter.mp ((mem_orderBy _).mp inHour)).1 pair
  unfold contributions hourTrace emissions signalObjects
  rw [whole, filter_flatMap, map_flatMap]
  simp only [perObject]
  rw [flatMap_ite_nil]

end

theorem mem_signalObjects :
    key ∈ signalObjects bid signalType rows ↔
      key ≠ "" ∧ ∃ row ∈ rows, row.objectKey = key ∧ groupKey row = (bid, signalType) := by
  simp only [signalObjects, mem_filter, mem_objectOrder, any_eq_true, objectRows, decide_eq_true_eq]
  constructor
  · rintro ⟨⟨named, -⟩, row, ⟨inRows, own⟩, pair⟩
    exact ⟨named, row, inRows, own, pair⟩
  · rintro ⟨named, row, inRows, own, pair⟩
    exact ⟨⟨named, row, inRows, own⟩, row, ⟨inRows, own⟩, pair⟩

end Count

/-- A catalog row of a batch and window signal that a build reads. -/
def PairRow (windows : List ProfileWindow) (bid signalType : String) (row : ProfileWindow) : Prop :=
  row ∈ windows ∧ groupKey row = (bid, signalType) ∧ row.objectKey ≠ ""

/-- The catalog rows of a batch and signal put a payload window into its own hour alone: rows that
start in that hour exist and share one object, and no row starts in another hour that the window
touches, boundaries included. -/
structure PlacesOnce (windows : List ProfileWindow) (bid signalType : String)
    (input : ContinuousWindowIngest) : Prop where
  /-- The window does not end before its own hour. -/
  reaches : truncateHour input.windowStart ≤ input.windowEnd
  /-- One object holds the rows that start in the window's hour. -/
  own : ∃ row, PairRow windows bid signalType row ∧
    truncateHour row.windowStart = truncateHour input.windowStart ∧
    ∀ other, PairRow windows bid signalType other →
      truncateHour other.windowStart = truncateHour input.windowStart →
      other.objectKey = row.objectKey
  /-- No row starts in another hour that the window touches. -/
  elsewhere : ∀ row, PairRow windows bid signalType row →
    truncateHour row.windowStart ≠ truncateHour input.windowStart →
    windowOverlaps input.windowStart input.windowEnd (truncateHour row.windowStart)
      (truncateHour row.windowStart + hour) = false

section Hours

variable {windows : List ProfileWindow} {bid signalType : String} {hourStart : Int}

/-- An object of an aligned hour comes from a row of the pair that starts in it. -/
theorem mem_hourObjects {key : String} (aligned : truncateHour hourStart = hourStart) :
    key ∈ signalObjects bid signalType (hourWindows hourStart windows) ↔
      ∃ row, PairRow windows bid signalType row ∧
        truncateHour row.windowStart = hourStart ∧ row.objectKey = key := by
  simp only [mem_signalObjects, mem_hourWindows aligned]
  constructor
  · rintro ⟨named, row, ⟨inWindows, hour⟩, rfl, pair⟩
    exact ⟨row, ⟨inWindows, pair, named⟩, hour, rfl⟩
  · rintro ⟨row, ⟨inWindows, pair, named⟩, hour, rfl⟩
    exact ⟨named, row, ⟨inWindows, hour⟩, rfl, pair⟩

theorem hourObjects_length_one (aligned : truncateHour hourStart = hourStart) :
    (signalObjects bid signalType (hourWindows hourStart windows)).length = 1 ↔
      ∃ row, PairRow windows bid signalType row ∧ truncateHour row.windowStart = hourStart ∧
        ∀ other, PairRow windows bid signalType other →
          truncateHour other.windowStart = hourStart → other.objectKey = row.objectKey := by
  constructor
  · intro one
    obtain ⟨key, only⟩ := length_eq_one_iff.mp one
    have inside : key ∈ signalObjects bid signalType (hourWindows hourStart windows) := by
      rw [only]
      exact mem_singleton_self key
    obtain ⟨row, pair, hour, rowKey⟩ := (mem_hourObjects aligned).mp inside
    refine ⟨row, pair, hour, fun other otherPair otherHour => ?_⟩
    have listed := (mem_hourObjects aligned).mpr ⟨other, otherPair, otherHour, rfl⟩
    rw [only] at listed
    rw [mem_singleton.mp listed, rowKey]
  · rintro ⟨row, pair, hour, shared⟩
    have inside := (mem_hourObjects aligned).mpr ⟨row, pair, hour, rfl⟩
    refine length_eq_one_iff.mpr ⟨_, eq_singleton_of_nodup ((distinct_nodup _).filter _) inside
      fun key listed => ?_⟩
    obtain ⟨other, otherPair, otherHour, rfl⟩ := (mem_hourObjects aligned).mp listed
    exact shared other otherPair otherHour

/-- How often an hour consumes a payload window that has data for the signal. -/
theorem contributions_count {load : Loader}
    {batch : ContinuousStoredBatch} {signal : LedgerSignal} {input : ContinuousWindowIngest}
    (ledger : pqLedgerSignalForWindow signalType = some signal)
    (readable : ∀ row ∈ windows, groupKey row = (bid, signalType) →
      ∃ batches, load row.objectKey = some batches ∧
        continuousResolveBatch row batches = some batch)
    (whole : buildWindows hourStart windows = hourWindows hourStart windows)
    (data : continuousWindowSignalHasData input signalType = true) :
    (contributions hourStart windows load bid signalType).count input =
      (signalObjects bid signalType (hourWindows hourStart windows)).length *
        if windowOverlaps input.windowStart input.windowEnd hourStart (hourStart + hour) then
          batch.windows.count input else 0 := by
  have inOne : (touchingWindows hourStart signalType batch).count input =
      if windowOverlaps input.windowStart input.windowEnd hourStart (hourStart + hour) then
        batch.windows.count input else 0 := by
    unfold touchingWindows
    split
    · next touches => exact count_filter (by rw [touches, data]; rfl)
    · next apart =>
      apply count_eq_zero_of_not_mem
      intro mem
      have both := (mem_filter.mp mem).2
      rw [Bool.and_eq_true] at both
      exact apart both.1
  rw [contributions_eq ledger readable whole, count_flatMap_const, inOne]

end Hours

/-- **Hour placement.** When all hours have been built from readable payloads, a payload window with
data for a signal is consumed by its own hour alone, as often as its batch carries it, exactly when
the catalog rows of its batch and signal place it once. -/
theorem consumed_in_own_hour_iff (sessions : List ContinuousSession) (calls : List IngestCall)
    (inServiceName : String → String) (readable : (ingestHistory sessions calls).Readable)
    (built : (ingestHistory sessions calls).Built inServiceName)
    {batch : ContinuousStoredBatch} (accepted : batch ∈ (ingestHistory sessions calls).accepted)
    {input : ContinuousWindowIngest} (carried : input ∈ batch.windows) {signalType : String}
    {signal : LedgerSignal} (ledger : pqLedgerSignalForWindow signalType = some signal)
    (data : continuousWindowSignalHasData input signalType = true) :
    (∀ hourStart, truncateHour hourStart = hourStart →
      (contributions hourStart (ingestHistory sessions calls).windows
        (ingestHistory sessions calls).load batch.batchID signalType).count input =
        if hourStart = truncateHour input.windowStart then batch.windows.count input
        else 0) ↔
      PlacesOnce (ingestHistory sessions calls).windows batch.batchID signalType input := by
  generalize ingestHistory sessions calls = history at *
  have positive : 0 < batch.windows.count input := count_pos_iff.mpr carried
  have counted : ∀ hourStart, truncateHour hourStart = hourStart →
      (contributions hourStart history.windows history.load batch.batchID signalType).count input =
      (signalObjects batch.batchID signalType (history.hourRows hourStart)).length *
        if windowOverlaps input.windowStart input.windowEnd hourStart (hourStart + hour) then
          batch.windows.count input else 0 := by
    intro hourStart aligned
    apply contributions_count ledger _ (build_whole _ _ _ _ (built hourStart aligned)) data
    intro row inWindows pair
    exact readable batch accepted row inWindows (congrArg Prod.fst pair)
  have aligned := truncateHour_idem input.windowStart
  have bounds := truncateHour_bounds input.windowStart
  constructor
  · intro once
    have ownCount := once _ aligned
    rw [counted _ aligned, if_pos rfl] at ownCount
    have touches : windowOverlaps input.windowStart input.windowEnd (truncateHour input.windowStart)
        (truncateHour input.windowStart + hour) = true := by
      by_contra apart
      rw [if_neg apart, Nat.mul_zero] at ownCount
      omega
    rw [if_pos touches] at ownCount
    have one := Nat.eq_of_mul_eq_mul_right positive (ownCount.trans (Nat.one_mul _).symm)
    refine ⟨((windowOverlaps_iff _ _ _ _).mp touches).1, (hourObjects_length_one aligned).mp one,
      fun row pair other => ?_⟩
    have rowAligned := truncateHour_idem row.windowStart
    have none := once _ rowAligned
    rw [counted _ rowAligned, if_neg other] at none
    have listed := length_pos_of_mem ((mem_hourObjects rowAligned).mpr ⟨row, pair, rfl, rfl⟩)
    by_contra touching
    rw [if_pos (by simpa using touching)] at none
    exact (Nat.mul_pos listed positive).ne' none
  · intro places hourStart hourAligned
    rw [counted hourStart hourAligned]
    by_cases own : hourStart = truncateHour input.windowStart
    · have touches : windowOverlaps input.windowStart input.windowEnd hourStart
          (hourStart + hour) = true := by
        have reaches := places.reaches
        rw [windowOverlaps_iff]
        omega
      rw [if_pos own, if_pos touches, own, (hourObjects_length_one aligned).mpr places.own,
        Nat.one_mul]
    · rw [if_neg own]
      by_cases touches : windowOverlaps input.windowStart input.windowEnd hourStart
          (hourStart + hour) = true
      · have empty : signalObjects batch.batchID signalType
            (history.hourRows hourStart) = [] := by
          apply eq_nil_iff_forall_not_mem.mpr
          intro key listed
          obtain ⟨row, pair, rowHour, -⟩ := (mem_hourObjects hourAligned).mp listed
          have apart := places.elsewhere row pair (by rw [rowHour]; exact own)
          rw [rowHour, touches] at apart
          cases apart
        rw [empty, length_nil, Nat.zero_mul]
      · rw [if_neg touches, Nat.mul_zero]

/-- Two windows inside an hour are each consumed there, and nowhere else. -/
theorem pairWindows_consumed_once : pairRequest.windows.length = 2 ∧
    ∀ input ∈ pairRequest.windows, (contributions sampleHour (sampleHistory pairCalls).windows
        (sampleHistory pairCalls).load "b1" "cpu_profile").count input = 1 ∧
      ∀ hourStart, truncateHour hourStart = hourStart → hourStart ≠ sampleHour →
        (contributions hourStart (sampleHistory pairCalls).windows
          (sampleHistory pairCalls).load "b1" "cpu_profile").count input = 0 := by
  refine ⟨rfl, fun input carried => ?_⟩
  have placed : ∀ row ∈ (sampleHistory pairCalls).windows,
      truncateHour row.windowStart = sampleHour ∧ row.objectKey = "continuous/cps-1/b1.json" := by
    decide +kernel
  have readable : (sampleHistory pairCalls).Readable :=
    readable_of_payloads (by decide +kernel)
  have built : (sampleHistory pairCalls).Built fun _ => "" := by
    intro hourStart aligned
    by_cases own : hourStart = sampleHour
    · rw [own]
      decide +kernel
    · rw [build_empty _ _ _ _ aligned fun row mem hour =>
        own (hour.symm.trans (placed row mem).1)]
      decide +kernel
  obtain ⟨data, starts, reaches, single⟩ :
      continuousWindowSignalHasData input "cpu_profile" = true ∧
      truncateHour input.windowStart = sampleHour ∧
      truncateHour input.windowStart ≤ input.windowEnd ∧
      pairRequest.windows.count input = 1 := by
    revert input
    decide +kernel
  have places : PlacesOnce (sampleHistory pairCalls).windows "b1" "cpu_profile"
      input := by
    refine ⟨reaches, ?_, ?_⟩
    · have stored : ∃ row ∈ (sampleHistory pairCalls).windows,
          groupKey row = ("b1", "cpu_profile") := by decide +kernel
      obtain ⟨row, inWindows, pair⟩ := stored
      obtain ⟨hour, key⟩ := placed row inWindows
      refine ⟨row, ⟨inWindows, pair, by rw [key]; decide⟩, hour.trans starts.symm, ?_⟩
      intro other otherPair _
      rw [key, (placed other otherPair.1).2]
    · intro row pair other
      exact absurd ((placed row pair.1).1.trans starts.symm) other
  have accepted : pairRequest.payload ∈ (sampleHistory pairCalls).accepted := by
    decide +kernel
  have once := (consumed_in_own_hour_iff [sampleSession] pairCalls (fun _ => "") readable built
    accepted carried (by decide : pqLedgerSignalForWindow "cpu_profile" = some .cpu) data).mpr
    places
  rw [starts] at once
  constructor
  · have counted := once sampleHour (by decide)
    rw [if_pos rfl] at counted
    exact counted.trans single
  · intro hourStart aligned other
    have counted := once hourStart aligned
    rw [if_neg other] at counted
    exact counted

/-- A window that ends on an hour boundary, followed in its batch by one that starts there. -/
def boundaryRequest : ContinuousBatchIngestReq :=
  sampleRequest "b1" (sampleHour + 3590000) (sampleHour + 3610000)
    [cpuWindow "w1" (sampleHour + 3590000) (sampleHour + 3600000) 3,
      cpuWindow "w2" (sampleHour + 3600000) (sampleHour + 3610000) 5]

/-- The upload of the batch. -/
def boundaryCalls : List IngestCall := [({ now := sampleHour + 3620000 }, boundaryRequest)]

/-- Both hours are built, and each consumes both windows of the batch. -/
theorem boundaryWindows_consumed_twice :
    (sampleHistory boundaryCalls).accepted = [boundaryRequest.payload] ∧
    ∀ hourStart ∈ [sampleHour, sampleHour + hour], (pqBuildRawHour (fun _ => "") hourStart
        (sampleHistory boundaryCalls).windows
        (sampleHistory boundaryCalls).load
        []).outcome.isOk = true ∧
      contributions hourStart (sampleHistory boundaryCalls).windows
        (sampleHistory boundaryCalls).load "b1"
        "cpu_profile" = boundaryRequest.windows := by
  decide +kernel

end MiniDrop
