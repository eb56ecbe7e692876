import MiniDrop.Server.Query
import MiniDrop.Verif.RawHour
/-!
# The windows a v1 query walks

The v1 path visits the objects of the selected rows, in each object the batches of its rows once,
and in each batch all windows. The walk lists these windows; the aggregate is a fold over it. When
no profile of the wanted signal is named, nothing is remembered from one window to the next, and
each window adds its own samples.
-/
namespace MiniDrop

open Base List

/-- The batches of an object that its rows walk, each once. -/
def walkedBatches (batches : List ContinuousStoredBatch) :
    List String → List ProfileWindow → List ContinuousStoredBatch
  | _, [] => []
  | seen, row :: rest =>
    match continuousResolveBatch row batches with
    | none => walkedBatches batches seen rest
    | some batch =>
      if row.batchBID ∈ seen then walkedBatches batches seen rest
      else batch :: walkedBatches batches (row.batchBID :: seen) rest

/-- One object with the batches that rows walk in it. -/
def objectPairs (load : Loader) (rows : List ProfileWindow)
    (key : String) : List (String × ContinuousStoredBatch) :=
  match load key with
  | none => []
  | some batches => (walkedBatches batches [] (objectRows rows key)).map fun batch => (key, batch)

/-- The objects and batches that rows walk, each pair once. -/
def walkPairs (load : Loader) (keys : List String)
    (rows : List ProfileWindow) : List (String × ContinuousStoredBatch) :=
  keys.flatMap (objectPairs load rows)

/-- The windows that the rows walk, in order. -/
def v1Walk (load : Loader) (rows : List ProfileWindow) :
    List ContinuousWindowIngest :=
  (walkPairs load (objectOrder rows) rows).flatMap (·.2.windows)

section Pairs

variable {load : Loader} {keys : List String}
  {rows : List ProfileWindow} {batches : List ContinuousStoredBatch} {batch : ContinuousStoredBatch}
  {row : ProfileWindow} {seen : List String}

theorem continuousResolveBatch_id (named : row.batchBID ≠ "")
    (resolved : continuousResolveBatch row batches = some batch) :
    batch.batchID = row.batchBID := by
  unfold continuousResolveBatch at resolved
  rw [if_pos named] at resolved
  simpa using find?_some resolved

theorem mem_walkedBatches : batch ∈ walkedBatches batches seen rows ↔
      ∃ row ∈ rows, row.batchBID ∉ seen ∧ continuousResolveBatch row batches = some batch := by
  induction rows generalizing seen with
  | nil => simp [walkedBatches]
  | cons first rest ih =>
    rw [walkedBatches]
    cases resolved : continuousResolveBatch first batches with
    | none =>
      simp [ih, exists_eq_or_imp, resolved]
    | some found =>
      by_cases walked : first.batchBID ∈ seen
      · simp [walked, ih, exists_eq_or_imp]
      · simp only [walked, if_false, mem_cons, ih, exists_eq_or_imp, not_false_eq_true,
          true_and, resolved, Option.some.injEq, not_or]
        constructor
        · rintro (same | ⟨row, inRest, ⟨-, fresh⟩, found⟩)
          · exact .inl same.symm
          · exact .inr ⟨row, inRest, fresh, found⟩
        · rintro (same | ⟨row, inRest, fresh, foundRow⟩)
          · exact .inl same.symm
          · by_cases same : row.batchBID = first.batchBID
            · rw [continuousResolveBatch_congr same, resolved] at foundRow
              exact .inl (Option.some.inj foundRow).symm
            · exact .inr ⟨row, inRest, ⟨same, fresh⟩, foundRow⟩

theorem walkedBatches_nodup (named : ∀ row ∈ rows, row.batchBID ≠ "") (seen : List String) :
    (walkedBatches batches seen rows).Nodup := by
  induction rows generalizing seen with
  | nil => exact nodup_nil
  | cons first rest ih =>
    have tail := ih (forall_mem_cons.mp named).2
    rw [walkedBatches]
    split
    · exact tail seen
    · next found resolved =>
      split
      · exact tail seen
      · refine nodup_cons.mpr ⟨fun again => ?_, tail _⟩
        obtain ⟨row, inRest, fresh, foundRow⟩ := mem_walkedBatches.mp again
        have firstID := continuousResolveBatch_id (named first mem_cons_self) resolved
        have rowID :=
          continuousResolveBatch_id (named row (mem_cons_of_mem first inRest)) foundRow
        exact fresh (by rw [← rowID, firstID]; exact mem_cons_self)

theorem mem_objectPairs {key other : String} : (other, batch) ∈ objectPairs load rows key ↔
      key = other ∧ ∃ batches, load other = some batches ∧ ∃ row ∈ rows, row.objectKey = other ∧
        continuousResolveBatch row batches = some batch := by
  unfold objectPairs
  by_cases same : key = other
  · subst same
    cases load key <;> simp [mem_walkedBatches, objectRows, and_assoc]
  · cases load key <;> simp [same]

theorem mem_walkPairs {key : String} : (key, batch) ∈ walkPairs load keys rows ↔
      key ∈ keys ∧ ∃ batches, load key = some batches ∧ ∃ row ∈ rows, row.objectKey = key ∧
        continuousResolveBatch row batches = some batch := by
  simp [walkPairs, mem_objectPairs]

theorem walkPairs_nodup (named : ∀ row ∈ rows, row.batchBID ≠ "") (nodup : keys.Nodup) :
    (walkPairs load keys rows).Nodup := by
  unfold walkPairs
  rw [nodup_flatMap]
  constructor
  · intro key _
    unfold objectPairs
    split
    · exact nodup_nil
    · refine (walkedBatches_nodup ?_ []).map fun _ _ same => (Prod.mk.inj same).2
      exact fun row mem => named row (mem_filter.mp mem).1
  · refine nodup.imp fun different pair inKey inOther => different ?_
    exact (mem_objectPairs.mp inKey).1.trans (mem_objectPairs.mp inOther).1.symm

end Pairs

/-- The CPU samples of a window: its own, and those of its CPU profiles. -/
def cpuSamples (window : ContinuousWindowIngest) : List ContinuousStackSample :=
  window.samples ++ (window.profiles.filter fun profile =>
    profileSignal profile = "cpu_profile").flatMap (·.samples)

/-- The plain CPU query over some sessions. -/
def cpuQuery (sids : List String) : ProfileQuery := { sessions := sids }

theorem mem_cpuQueryRows {sids : List String} {fromTime toTime : Int}
    {windows : List ProfileWindow} {row : ProfileWindow} :
    row ∈ v1QueryRows (cpuQuery sids) fromTime toTime windows ↔
      row ∈ windows ∧ row.sessionSID ∈ sids ∧ row.signalType = "cpu_profile" ∧
        fromTime ≤ row.windowStart ∧ row.windowStart < toTime := by
  simp [v1QueryRows, mem_orderBy, cpuQuery, ProfileQuery.signalType, and_assoc]

/-- A window starts in a range. -/
def startsIn (fromTime toTime : Int) (window : ContinuousWindowIngest) : Bool :=
  decide (fromTime ≤ window.windowStart) && decide (window.windowStart < toTime)

theorem continuousSampleMatches_nil (sample : ContinuousStackSample) (labels : Labels) :
    continuousSampleMatches sample labels [] = true := by
  simp [continuousSampleMatches, labelString]

/-- No profile of the queried signal is named. -/
def Unnamed (q : ProfileQuery) (window : ContinuousWindowIngest) : Prop :=
  ∀ profile ∈ window.profiles, profileSignal profile = q.signalType → profile.profileID = ""

/-- The samples a window adds, with its labels. -/
def v1Added (q : ProfileQuery) (fromTime toTime : Int) (window : ContinuousWindowIngest) :
    List (ContinuousStackSample × Labels) :=
  if Time.isZero window.windowStart ∨ window.windowStart < fromTime ∨
      ¬window.windowStart < toTime then []
  else
    (((continuousProfileSamplesForQuery window q []).1.filter fun sample =>
      continuousSampleMatches sample window.labels q.filters).filter
        continuousSampleLooksValid).map fun sample => (sample, window.labels)

/-- The weight of an added sample. -/
def addedWeight (entry : ContinuousStackSample × Labels) : Nat :=
  firstNonZeroUint64 entry.1.count 1

/-- An aggregate with more samples. -/
def ContinuousAggregate.addAll (agg : ContinuousAggregate)
    (more : List (ContinuousStackSample × Labels)) : ContinuousAggregate :=
  { agg with
    total := agg.total + (more.map addedWeight).sum
    samples := agg.samples ++ more }

theorem addAll_nil (agg : ContinuousAggregate) : agg.addAll [] = agg := by
  simp [ContinuousAggregate.addAll]

section Window

variable {q : ProfileQuery} {fromTime toTime : Int}

theorem foldl_continuousAddSample (labels : Labels) (samples : List ContinuousStackSample)
    (agg : ContinuousAggregate) :
    samples.foldl (continuousAddSample labels) agg =
      agg.addAll ((samples.filter continuousSampleLooksValid).map fun sample =>
        (sample, labels)) := by
  induction samples generalizing agg with
  | nil => exact (addAll_nil agg).symm
  | cons sample rest ih =>
    rw [foldl_cons, ih]
    cases valid : continuousSampleLooksValid sample with
    | true =>
      simp [continuousAddSample, valid, ContinuousAggregate.addAll, addedWeight, Nat.add_assoc]
    | false =>
      simp [continuousAddSample, valid]

/-- Unnamed profiles leave the remembered profiles alone and do not depend on them. -/
theorem profileSamplesForQuery_eq {wanted scope : String} (seen : List String)
    {profiles : List ContinuousProfileIngest}
    (unnamed : ∀ profile ∈ profiles, profileSignal profile = wanted → profile.profileID = "") :
    profileSamplesForQuery wanted scope seen profiles =
      ((profiles.filter fun profile => profileSignal profile = wanted ∧
        ¬(scope ≠ "" ∧ lowerTrim profile.stackScope ≠ "" ∧
          lowerTrim profile.stackScope ≠ scope)).flatMap fun profile =>
          profile.samples.map (fillSample wanted profile), seen) := by
  induction profiles with
  | nil => rfl
  | cons profile rest ih =>
    have tail := ih (forall_mem_cons.mp unnamed).2
    by_cases signal : profileSignal profile = wanted
    · have unnamedHere := unnamed profile mem_cons_self signal
      simp only [profileSamplesForQuery, signal, unnamedHere, ne_eq, not_true_eq_false, if_false,
        false_and, tail, filter_cons, true_and]
      split <;> simp [*]
    · simp [profileSamplesForQuery, signal, tail, decide_false]

theorem samplesForQuery_cpu (sids : List String) (window : ContinuousWindowIngest) :
    (continuousProfileSamplesForQuery window (cpuQuery sids) []).1 =
      window.samples ++ (profileSamplesForQuery "cpu_profile" "" [] window.profiles).1 := by
  have scope : lowerTrim "" = "" := by decide
  have other : ("" : String) ≠ "all" := by decide
  simp [continuousProfileSamplesForQuery, cpuQuery, ProfileQuery.signalType, scope, other]

/-- What is read of the samples that a window adds, if their profiles leave it alone. -/
theorem v1Added_map {β : Type} {f : ContinuousStackSample → β} {sids : List String}
    {window : ContinuousWindowIngest}
    (kept : ∀ wanted profile sample, f (fillSample wanted profile sample) = f sample)
    (proper : Time.isZero window.windowStart = false) (unnamed : Unnamed (cpuQuery sids) window) :
    (v1Added (cpuQuery sids) fromTime toTime window).map (fun entry => f entry.1) =
      if startsIn fromTime toTime window then
        ((cpuSamples window).filter continuousSampleLooksValid).map f
      else [] := by
  have none : ∀ profile ∈ window.profiles, profileSignal profile = "cpu_profile" →
      profile.profileID = "" := unnamed
  have samples : ((continuousProfileSamplesForQuery window (cpuQuery sids) []).1.filter
      continuousSampleLooksValid).map f =
        ((cpuSamples window).filter continuousSampleLooksValid).map f := by
    simp only [samplesForQuery_cpu, profileSamplesForQuery_eq _ none, cpuSamples, ne_eq,
      not_true_eq_false, false_and, not_false_eq_true, and_true, filter_append, map_append,
      filter_flatMap, map_flatMap]
    congr 1
    apply flatMap_congr
    intro profile _
    rw [filter_map, map_map]
    exact map_congr_left fun sample _ => kept _ profile sample
  unfold v1Added startsIn
  by_cases inside : fromTime ≤ window.windowStart ∧ window.windowStart < toTime
  · rw [if_neg (by simp [proper, inside.1, inside.2]), if_pos (by simp [inside.1, inside.2]),
      ← samples]
    simp [cpuQuery, continuousSampleMatches_nil, Function.comp_def]
  · rw [if_pos (by simp only [proper]; omega), if_neg (by simpa using inside)]
    rfl

theorem aggregateV1Window_unnamed {window : ContinuousWindowIngest} (unnamed : Unnamed q window)
    (agg : ContinuousAggregate) :
    aggregateV1Window q fromTime toTime agg window =
      agg.addAll (v1Added q fromTime toTime window) := by
  unfold aggregateV1Window v1Added
  split
  · exact (addAll_nil agg).symm
  · simp only [continuousProfileSamplesForQuery]
    rw [profileSamplesForQuery_eq _ unnamed, profileSamplesForQuery_eq _ unnamed]
    exact foldl_continuousAddSample _ _ _

theorem foldl_aggregateV1Window {windows : List ContinuousWindowIngest}
    (unnamed : ∀ window ∈ windows, Unnamed q window) (agg : ContinuousAggregate) :
    windows.foldl (aggregateV1Window q fromTime toTime) agg =
      agg.addAll (windows.flatMap (v1Added q fromTime toTime)) := by
  induction windows generalizing agg with
  | nil => exact (addAll_nil agg).symm
  | cons window rest ih =>
    rw [foldl_cons, aggregateV1Window_unnamed (unnamed window mem_cons_self),
      ih (forall_mem_cons.mp unnamed).2,
      flatMap_cons]
    simp [ContinuousAggregate.addAll, Nat.add_assoc]

end Window

section Objects

variable {σ : Type} (walk : σ → ContinuousWindowIngest → σ)

/-- Rows walk the windows of their batches. -/
theorem foldl_walkRow (batches : List ContinuousStoredBatch) (rows : List ProfileWindow)
    (state : σ × List String) : (rows.foldl (walkRow walk batches) state).1 =
      ((walkedBatches batches state.2 rows).flatMap (·.windows)).foldl walk state.1 := by
  induction rows generalizing state with
  | nil => rfl
  | cons row rest ih =>
    rw [foldl_cons, ih]
    simp only [walkedBatches, walkRow]
    cases continuousResolveBatch row batches with
    | none => rfl
    | some =>
      by_cases walked : row.batchBID ∈ state.2
      · simp only [if_pos walked]
      · simp [if_neg walked]

variable {load : Loader}

/-- An object that can be read is walked. -/
theorem walkObject_ok (rows : List ProfileWindow) (state : σ) {key : String}
    (readable : (load key).isSome) : walkObject walk load rows state key =
      .ok (((objectPairs load rows key).flatMap (·.2.windows)).foldl walk state) := by
  obtain ⟨batches, loaded⟩ := Option.isSome_iff_exists.mp readable
  simp only [walkObject, objectPairs, loaded, flatMap_map]
  exact congrArg Except.ok (foldl_walkRow walk batches (objectRows rows key) (state, []))

end Objects

/-- **The result of a v1 query** over readable objects, within the row limit: the samples of the
walked windows are added. -/
theorem aggregateV1_walk {q : ProfileQuery} {fromTime toTime : Int} {windows : List ProfileWindow}
    {load : Loader}
    (within : (v1QueryRows q fromTime toTime windows).length ≤ continuousMaxWindowCount)
    (readable : ∀ key ∈ objectOrder (v1QueryRows q fromTime toTime windows), (load key).isSome)
    (unnamed : ∀ window ∈ v1Walk load (v1QueryRows q fromTime toTime windows), Unnamed q window)
    (agg : ContinuousAggregate) :
    ∃ found result, aggregateV1WindowsInto q fromTime toTime windows load agg =
        .ok (found, result) ∧
      result.total = agg.total + (((v1Walk load (v1QueryRows q fromTime toTime windows)).flatMap
        (v1Added q fromTime toTime)).map addedWeight).sum ∧
      result.samples = agg.samples ++ (v1Walk load (v1QueryRows q fromTime toTime windows)).flatMap
        (v1Added q fromTime toTime) := by
  generalize rowsEq : v1QueryRows q fromTime toTime windows = rows at *
  let walked (keys : List String) := (walkPairs load keys rows).flatMap (·.2.windows)
  have objects : ∀ (keys : List String) (start : ContinuousAggregate),
      (∀ key ∈ keys, (load key).isSome) → (∀ window ∈ walked keys, Unnamed q window) →
      ∃ result, keys.foldlM (aggregateV1Object q fromTime toTime load rows) start = .ok result ∧
        result.total = start.total +
          (((walked keys).flatMap (v1Added q fromTime toTime)).map addedWeight).sum ∧
        result.samples = start.samples ++ (walked keys).flatMap (v1Added q fromTime toTime) := by
    intro keys
    induction keys with
    | nil =>
      exact fun start _ _ => ⟨start, rfl, by simp [walked, walkPairs], by simp [walked, walkPairs]⟩
    | cons key rest ih =>
      intro start readable unnamed
      have parts : walked (key :: rest) =
          (objectPairs load rows key).flatMap (·.2.windows) ++ walked rest := by
        simp only [walked, walkPairs, flatMap_cons, flatMap_append]
      rw [parts] at unnamed ⊢
      obtain ⟨here, later⟩ := forall_mem_append.mp unnamed
      have step : aggregateV1Object q fromTime toTime load rows start key = .ok _ :=
        walkObject_ok _ rows _ (readable key mem_cons_self)
      rw [foldl_aggregateV1Window here] at step
      obtain ⟨result, run, total, samples⟩ := ih _ (forall_mem_cons.mp readable).2 later
      refine ⟨result, ?_, ?_, ?_⟩
      · rw [foldlM_cons, step]
        exact run
      · rw [total]
        simp [ContinuousAggregate.addAll, Nat.add_assoc]
      · rw [samples]
        simp [ContinuousAggregate.addAll]
  have whole : rows.take (continuousMaxWindowCount + 1) = rows :=
    take_of_length_le (by omega)
  unfold aggregateV1WindowsInto
  simp only [rowsEq, whole]
  rw [if_neg (by omega)]
  split
  · next empty =>
    refine ⟨false, agg, rfl, ?_, ?_⟩ <;> simp [empty, v1Walk, walkPairs, objectOrder, distinct]
  · obtain ⟨result, run, total, samples⟩ := objects (objectOrder rows)
      { agg with windowCount := agg.windowCount + rows.length } readable unnamed
    refine ⟨true, result, ?_, total, samples⟩
    simp only [run]
    rfl

end MiniDrop
