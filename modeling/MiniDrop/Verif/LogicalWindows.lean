import MiniDrop.Verif.ObjectKeys
import MiniDrop.Verif.ProfileQuery
/-!
# Logical windows in the v1 query

Ingest keeps one catalog row per session, window identifier and signal: a window that is sent again
in another batch gets no second row. The query, however, walks all windows of every batch that one
of its rows names. Its total is the logical total exactly when this walk meets no identifier twice.
-/
namespace MiniDrop

open Base List

/-- The CPU samples of a window that count, by weight. -/
def cpuWeight (window : ContinuousWindowIngest) : Nat :=
  (((cpuSamples window).filter continuousSampleLooksValid).map fun sample =>
    firstNonZeroUint64 sample.count 1).sum

/-- The windows that the accepted batches of a session carry. -/
def carriedWindows (history : IngestHistory) (sid : String) : List ContinuousWindowIngest :=
  (history.accepted.filter fun batch => batch.sessionSID = sid).flatMap (·.windows)

/-- The CPU weight of the window with a given identifier. -/
def weightOf (windows : List ContinuousWindowIngest) (windowID : String) : Nat :=
  ((windows.find? fun window => window.windowID = windowID).map cpuWeight).getD 0

/-- The CPU total of the logical windows that start in a range: each identifier counts once. -/
def logicalTotal (history : IngestHistory) (sid : String) (fromTime toTime : Int) : Nat :=
  ((distinct (((carriedWindows history sid).filter (startsIn fromTime toTime)).map
    (·.windowID))).map (weightOf (carriedWindows history sid))).sum

section Rows

/-- The row of a profile has the signal the profile is filed under. -/
theorem rowSignalType_profile (profile : ContinuousProfileIngest)
    (signal : profileSignal profile = "cpu_profile") :
    rowSignalType (firstNonEmpty [profile.signalType, "cpu_profile"]) = "cpu_profile" := by
  by_cases blank : trimSpace profile.signalType = ""
  · have default : firstNonEmpty [profile.signalType, "cpu_profile"] = "cpu_profile" := by
      simp only [firstNonEmpty, blank, ne_eq, not_true_eq_false, if_false]
      decide
    rw [default]
    decide
  · have named : firstNonEmpty [profile.signalType, "cpu_profile"] =
        trimSpace profile.signalType := by
      simp [firstNonEmpty, blank]
    have again : firstNonEmpty [trimSpace profile.signalType, "cpu_profile"] =
        trimSpace profile.signalType := by
      simp [firstNonEmpty, trimSpace_idem, blank]
    rw [profileSignal, named] at signal
    rw [named, rowSignalType, again, signal]
    decide

/-- A window with CPU weight and no signal type of its own has a CPU row. -/
theorem cpuRow_listed {window : ContinuousWindowIngest} (untyped : window.signalType = "")
    (positive : 0 < cpuWeight window) :
    ∃ row ∈ continuousWindowSignalRowsV3 window, row.signalType = "cpu_profile" := by
  have candidate : ∃ candidate ∈ signalRowCandidates window,
      rowSignalType candidate.1 = "cpu_profile" := by
    by_cases samples : window.samples = []
    · have profile : ∃ profile ∈ window.profiles, profileSignal profile = "cpu_profile" := by
        by_contra none
        have nothing : (window.profiles.filter fun profile =>
            profileSignal profile = "cpu_profile") = [] :=
          filter_eq_nil_iff.mpr fun profile mem same =>
            none ⟨profile, mem, of_decide_eq_true same⟩
        simp [cpuWeight, cpuSamples, samples, nothing] at positive
      obtain ⟨profile, mem, signal⟩ := profile
      have listed : (firstNonEmpty [profile.signalType, "cpu_profile"],
          firstNonEmpty [profile.backend, window.backend]) ∈ signalRowCandidates window := by
        simp only [signalRowCandidates, mem_append]
        exact Or.inl (Or.inl (Or.inl (Or.inr (mem_map_of_mem mem))))
      exact ⟨_, listed, rowSignalType_profile profile signal⟩
    · have listed : (firstNonEmpty [window.signalType, "cpu_profile"],
          continuousLegacyProfileBackend window) ∈ signalRowCandidates window := by
        simp [signalRowCandidates, samples]
      rw [untyped] at listed
      have default : rowSignalType (firstNonEmpty ["", "cpu_profile"]) = "cpu_profile" := by decide
      exact ⟨_, listed, default⟩
  obtain ⟨named, mem, signal⟩ := candidate
  have all : ∃ candidate ∈ signalRowCandidates window ++
      window.signalStatuses.map (fun entry => (entry.1, "")),
      rowSignalType candidate.1 = "cpu_profile" :=
    ⟨named, mem_append_left _ mem, signal⟩
  have rows : ∃ row ∈ (signalRowCandidates window ++
      window.signalStatuses.map (fun entry => (entry.1, ""))).foldl
        (addSignalRow fun signalType _ => signalType) [], row.signalType = "cpu_profile" :=
    candidate_listed (Or.inl all)
  obtain ⟨row, listed, type⟩ := rows
  refine ⟨row, ?_, type⟩
  unfold continuousWindowSignalRowsV3 signalRowsFrom
  split
  · next empty =>
    rw [empty] at listed
    cases listed
  · exact listed

end Rows

section Walk

variable {sessions : List ContinuousSession} {history : IngestHistory} {sid : String}
  {fromTime toTime : Int}

variable {batch : ContinuousStoredBatch}

/-- The walk of a query, batch by batch: the accepted batches with a row in the range. -/
theorem cpuWalk_batches (keys : KeyInv sessions history) (base : HistoryInv history)
    (named : ∀ batch ∈ history.accepted, batch.batchID ≠ "") :
    ∃ selected : List ContinuousStoredBatch, selected.Nodup ∧
      (∀ batch, batch ∈ selected ↔ batch ∈ history.accepted ∧
        ∃ row ∈ v1QueryRows (cpuQuery [sid]) fromTime toTime history.windows,
          row.batchBID = batch.batchID) ∧
      v1Walk history.load (v1QueryRows (cpuQuery [sid]) fromTime toTime history.windows) =
          selected.flatMap (·.windows) := by
  have stored : ∀ row ∈ v1QueryRows (cpuQuery [sid]) fromTime toTime history.windows,
      row ∈ history.windows := fun row mem => (mem_cpuQueryRows.mp mem).1
  generalize v1QueryRows (cpuQuery [sid]) fromTime toTime history.windows = rows at *
  -- A row finds its batch, alone in the object that has the key of the batch.
  have found : ∀ row ∈ rows, ∃ batch ∈ history.accepted, batch.batchID = row.batchBID ∧
      row.objectKey = minuteKey batch ∧
      history.load row.objectKey = some [batch] ∧
      continuousResolveBatch row [batch] = some batch := by
    intro row inRows
    obtain ⟨batch, accepted, id, -, rowKey⟩ := keys.rows row (stored row inRows)
    refine ⟨batch, accepted, id, rowKey, rowKey ▸ keys.loads accepted, ?_⟩
    unfold continuousResolveBatch
    split
    · simp [id]
    · rfl
  have pairs (key : String) (batch : ContinuousStoredBatch) :
      (key, batch) ∈ walkPairs history.load (objectOrder rows) rows ↔
        batch ∈ history.accepted ∧ key = minuteKey batch ∧
          ∃ row ∈ rows, row.batchBID = batch.batchID := by
    rw [mem_walkPairs]
    constructor
    · rintro ⟨-, batches, loaded, row, inRows, rfl, resolved⟩
      obtain ⟨home, accepted, id, rowKey, homeLoaded, homeResolved⟩ := found row inRows
      rw [loaded, Option.some.injEq] at homeLoaded
      rw [homeLoaded, homeResolved] at resolved
      cases resolved
      exact ⟨accepted, rowKey, row, inRows, id.symm⟩
    · rintro ⟨accepted, rfl, row, inRows, id⟩
      obtain ⟨home, homeAccepted, homeID, rowKey, loaded, resolved⟩ := found row inRows
      have same : home = batch :=
        inj_on_of_nodup_map base.distinct homeAccepted accepted (homeID.trans id)
      subst same
      refine ⟨mem_objectOrder.mpr ⟨fun empty => ?_, row, inRows, rowKey⟩, _, rowKey ▸ loaded, row,
        inRows, rowKey, resolved⟩
      have length := congrArg String.length empty
      simp [minuteKey, continuousBatchObjectKey] at length
  refine ⟨(walkPairs history.load (objectOrder rows) rows).map (·.2), ?_,
    fun batch => ?_, ?_⟩
  · refine (walkPairs_nodup (fun row inRows => ?_) (distinct_nodup _)).map_on ?_
    · obtain ⟨batch, accepted, id, -⟩ := found row inRows
      exact id ▸ named batch accepted
    · rintro ⟨key, batch⟩ mem ⟨other, -⟩ otherMember rfl
      rw [((pairs key batch).mp mem).2.1, ((pairs other batch).mp otherMember).2.1]
  · simp only [mem_map, Prod.exists, exists_eq_right, pairs, exists_and_left, exists_eq_left]
  · rw [v1Walk, flatMap_map]

end Walk

section Sums

variable {history : IngestHistory} {sid : String} {fromTime toTime : Int}

variable {window : ContinuousWindowIngest} {windows : List ContinuousWindowIngest}

theorem v1Added_weight (proper : Time.isZero window.windowStart = false)
    (unnamed : Unnamed (cpuQuery [sid]) window) :
    ((v1Added (cpuQuery [sid]) fromTime toTime window).map addedWeight).sum =
      if startsIn fromTime toTime window then cpuWeight window else 0 := by
  refine (congrArg sum (v1Added_map (f := fun sample => firstNonZeroUint64 sample.count 1)
    (fun _ _ _ => rfl) proper unnamed)).trans ?_
  split <;> rfl

/-- The total of a walk is the weight of the windows that start in the range. -/
theorem walk_weight (proper : ∀ window ∈ windows, Time.isZero window.windowStart = false)
    (unnamed : ∀ window ∈ windows, Unnamed (cpuQuery [sid]) window) :
    ((windows.flatMap (v1Added (cpuQuery [sid]) fromTime toTime)).map addedWeight).sum =
      ((windows.filter (startsIn fromTime toTime)).map cpuWeight).sum := by
  induction windows with
  | nil => rfl
  | cons window rest ih =>
    obtain ⟨here, later⟩ := forall_mem_cons.mp unnamed
    rw [flatMap_cons, map_append, sum_append, ih (forall_mem_cons.mp proper).2 later,
      v1Added_weight (proper window mem_cons_self) here]
    cases inside : startsIn fromTime toTime window with
    | true => rw [filter_cons_of_pos inside, map_cons, sum_cons, if_pos rfl]
    | false =>
      rw [filter_cons_of_neg (by simp [inside]), if_neg (by simp), Nat.zero_add]

/-- Equal identifiers mean equal windows. -/
def IdenticalResends (history : IngestHistory) (sid : String) : Prop :=
  ∀ window ∈ carriedWindows history sid, ∀ other ∈ carriedWindows history sid,
    window.windowID = other.windowID → window = other

theorem weightOf_eq (identical : IdenticalResends history sid)
    (carried : window ∈ carriedWindows history sid) :
    weightOf (carriedWindows history sid) window.windowID = cpuWeight window := by
  unfold weightOf
  cases found : (carriedWindows history sid).find? fun other =>
      other.windowID = window.windowID with
  | none =>
    have refuted := find?_eq_none.mp found window carried
    simp at refuted
  | some other =>
    have same : other.windowID = window.windowID := by simpa using find?_some found
    rw [identical other (mem_of_find?_eq_some found) window carried same]
    rfl

/-- The identifiers with CPU weight that a list of windows counts in a range. -/
def countedIDs (fromTime toTime : Int) (windows : List ContinuousWindowIngest) : List String :=
  (windows.filter fun window => startsIn fromTime toTime window &&
    decide (0 < cpuWeight window)).map (·.windowID)

variable (identical : IdenticalResends history sid)
  (carried : ∀ window ∈ windows, window ∈ carriedWindows history sid)
include identical carried

theorem countedIDs_sum : ((windows.filter (startsIn fromTime toTime)).map cpuWeight).sum =
      ((countedIDs fromTime toTime windows).map (weightOf (carriedWindows history sid))).sum := by
  have weights : (countedIDs fromTime toTime windows).map (weightOf (carriedWindows history sid)) =
      ((windows.filter (startsIn fromTime toTime)).filter fun window =>
        decide (0 < cpuWeight window)).map cpuWeight := by
    unfold countedIDs
    rw [map_map, filter_filter]
    have order : (fun window => startsIn fromTime toTime window && decide (0 < cpuWeight window)) =
        fun window => decide (0 < cpuWeight window) && startsIn fromTime toTime window := by
      funext window
      exact Bool.and_comm _ _
    rw [order]
    apply map_congr_left
    intro window mem
    exact weightOf_eq identical (carried window (mem_filter.mp mem).1)
  rw [weights, sum_map_filter_pos]

variable (counted : ∀ window ∈ carriedWindows history sid, startsIn fromTime toTime window = true →
  0 < cpuWeight window → window ∈ windows)
include counted

/-- The logical total is the sum over the distinct counted identifiers of all carried windows. -/
theorem logicalTotal_eq :
    logicalTotal history sid fromTime toTime = ((distinct (countedIDs fromTime toTime windows)).map
        (weightOf (carriedWindows history sid))).sum := by
  unfold logicalTotal
  rw [← sum_map_filter_pos]
  apply List.Perm.sum_eq
  apply List.Perm.map
  rw [perm_ext_iff_of_nodup ((distinct_nodup _).filter _) (distinct_nodup _)]
  intro windowID
  simp only [mem_filter, mem_distinct, countedIDs, mem_map, decide_eq_true_eq, Bool.and_eq_true]
  constructor
  · rintro ⟨⟨window, ⟨mem, inside⟩, rfl⟩, positive⟩
    rw [weightOf_eq identical mem] at positive
    exact ⟨window, ⟨counted window mem inside positive, inside, positive⟩, rfl⟩
  · rintro ⟨window, ⟨mem, inside, positive⟩, rfl⟩
    refine ⟨⟨window, ⟨carried window mem, inside⟩, rfl⟩, ?_⟩
    rw [weightOf_eq identical (carried window mem)]
    exact positive

/-- A walk gives the logical total exactly when it counts no identifier twice. -/
theorem total_eq_iff_nodup :
    ((windows.filter (startsIn fromTime toTime)).map cpuWeight).sum =
        logicalTotal history sid fromTime toTime ↔
      (countedIDs fromTime toTime windows).Nodup := by
  rw [countedIDs_sum identical carried, logicalTotal_eq identical carried counted]
  apply sum_distinct_iff
  intro windowID mem
  obtain ⟨window, inWindows, rfl⟩ := mem_map.mp mem
  obtain ⟨inWindows, test⟩ := mem_filter.mp inWindows
  rw [weightOf_eq identical (carried window inWindows)]
  simp only [Bool.and_eq_true, decide_eq_true_eq] at test
  exact test.2

end Sums

end MiniDrop
