import MiniDrop.Server.Downsample
/-!
# Downsampling twice

Hourly rows are made from five-minute rows. For CPU rows this is the same as making them from the
raw rows: the first pass keeps what the second one groups by, and saturating sums can be taken in
any order. For metrics it is not: the second pass takes a five-minute row for one sample, with the
peak for its value.
-/
namespace MiniDrop

open Base List

theorem addContinuousCount_eq (total value : Nat) :
    addContinuousCount total value = min continuousMaxDBCount (total + value) := by
  unfold addContinuousCount clampContinuousCount
  dsimp only
  split_ifs <;> omega

/-- A five-minute bucket lies inside its hour. -/
theorem pqBucketStart_hour (ts : Int) :
    pqBucketStart (pqBucketStart ts .fiveMinutes) .hour = pqBucketStart ts .hour := by
  simp only [pqBucketStart, ParquetResolution.width, Time.hour, Time.minute, Time.second]
  omega

/-- The saturating total of some values. -/
theorem foldl_addContinuousCount {ρ : Type} (value : ρ → Nat) (rows : List ρ) :
    rows.foldl (fun total row => addContinuousCount total (value row)) 0 =
      min continuousMaxDBCount (rows.map value).sum := by
  have total := foldl_weight id (Nat.min_zero _).symm
    (fun total (row : ρ) _ => addContinuousCount_eq total (value row)) rows
  rwa [Nat.zero_add] at total

/-! ## CPU rows -/

/-- The saturating total of the values. -/
def cpuTotal (rows : List PqCPURow) : Nat :=
  rows.foldl (fun total row => addContinuousCount total row.value) 0

theorem cpuTotal_eq (rows : List PqCPURow) :
    cpuTotal rows = min continuousMaxDBCount (rows.map (·.value)).sum :=
  foldl_addContinuousCount _ rows

section CPU

variable {resolution : ParquetResolution}

theorem openCPURow_value (row : PqCPURow) :
    (openCPURow resolution row).value = min continuousMaxDBCount row.value := by
  rw [openCPURow, addContinuousCount_eq, Nat.zero_add]

theorem downsampleCPURows_total (rows : List PqCPURow) (resolution : ParquetResolution) :
    min continuousMaxDBCount ((downsampleCPURows rows resolution).map (·.value)).sum =
      min continuousMaxDBCount (rows.map (·.value)).sum :=
  gather_total _ openCPURow_value (fun _ _ => addContinuousCount_eq _ _) rows

/-- Adding rows changes only the value. -/
theorem foldl_addCPURow {item : PqCPURow} {n : Nat}
    (opens : item.value = min continuousMaxDBCount n) (rows : List PqCPURow) :
      rows.foldl addCPURow item =
      { item with value := min continuousMaxDBCount (n + (rows.map (·.value)).sum) } := by
  induction rows generalizing item n with
  | nil => simp [← opens]
  | cons row rest ih =>
    have added : (addCPURow item row).value = min continuousMaxDBCount (n + row.value) := by
      show addContinuousCount item.value row.value = _
      rw [addContinuousCount_eq, opens]
      omega
    rw [foldl_cons, ih added, map_cons, sum_cons, Nat.add_assoc]
    rfl

/-- Rows of one five-minute key have one hourly key. -/
theorem cpuKey_hour {a b : PqCPURow} (same : cpuKey .fiveMinutes a = cpuKey .fiveMinutes b) :
    cpuKey .hour a = cpuKey .hour b := by
  have nested (row : PqCPURow) : cpuKey .hour row = { cpuKey .fiveMinutes row with
      bucket := pqBucketStart (cpuKey .fiveMinutes row).bucket .hour } := by
    simp [cpuKey, pqBucketStart_hour]
  rw [nested a, nested b, same]

/-- Rows added by way of five-minute rows. -/
theorem foldl_fiveMinutes (row : PqCPURow) (rest : List PqCPURow) :
    (downsampleCPURows (rest.filter (cpuKey .fiveMinutes · ≠ cpuKey .fiveMinutes row))
      .fiveMinutes).foldl addCPURow (openCPURow .hour
        ((rest.filter (cpuKey .fiveMinutes · = cpuKey .fiveMinutes row)).foldl addCPURow
          (openCPURow .fiveMinutes row))) = rest.foldl addCPURow (openCPURow .hour row) := by
  have split := sum_map_filter_add_sum_map_filter_not
    (cpuKey .fiveMinutes · = cpuKey .fiveMinutes row) (fun row => row.value) rest
  have total := downsampleCPURows_total
    (rest.filter (cpuKey .fiveMinutes · ≠ cpuKey .fiveMinutes row)) .fiveMinutes
  rw [foldl_addCPURow (openCPURow_value row), foldl_addCPURow (openCPURow_value _),
    foldl_addCPURow (openCPURow_value row)]
  simp only [openCPURow, pqBucketStart_hour, PqCPURow.mk.injEq, true_and, and_true, ne_eq]
    at total ⊢
  omega

end CPU

/-- For every list of CPU rows, hourly rows made from five-minute rows are those made from the rows
themselves, in the same order, and no downsampling changes the saturating total of the values. -/
theorem cpu_downsampling_hierarchical (rows : List PqCPURow) :
    downsampleCPURows (downsampleCPURows rows .fiveMinutes) .hour = downsampleCPURows rows .hour ∧
      ∀ resolution, cpuTotal (downsampleCPURows rows resolution) = cpuTotal rows := by
  refine ⟨?_, fun resolution => ?_⟩
  · refine gather_gather ?_ (fun row => ?_) ?_ foldl_fiveMinutes rows
    · exact fun _ _ => cpuKey_hour
    · simp [cpuKey, openCPURow, pqBucketStart_hour]
    · exact fun _ _ => rfl
  · rw [cpuTotal_eq, cpuTotal_eq, downsampleCPURows_total]

/-! ## Metric rows -/

/-- The statistics of a bucket: minimum, maximum, sum, count and last value. -/
def statistics (row : PqMetricRow) : Nat × Nat × Nat × Nat × Nat :=
  (row.min, row.max, row.sum, row.count, row.last)

/-- The counts of all rows that are made add up to the number of rows read. -/
theorem downsampleMetricRows_counts (rows : List PqMetricRow) (resolution : ParquetResolution) :
    min continuousMaxDBCount ((downsampleMetricRows rows resolution).map PqMetricRow.count).sum =
      min continuousMaxDBCount rows.length := by
  have opens (row : PqMetricRow) : (openMetricRow resolution row).count =
    min continuousMaxDBCount 1 := rfl
  have adds (item row : PqMetricRow) : (addMetricRow item row).count =
      min continuousMaxDBCount (item.count + 1) := addContinuousCount_eq _ _
  have total := gather_total (metricKey resolution) opens adds rows
  rw [map_const', sum_replicate_nat, mul_one] at total
  rw [downsampleMetricRows, map_map]
  exact total

/-- Metric rows that are no counters, as many as a slice can hold: the statistics of the hourly rows
made from five-minute rows are those of the hourly rows made in one pass exactly if no two of the
rows belong to the same series and five-minute bucket. -/
theorem hourly_statistics_iff (rows : List PqMetricRow)
    (gauges : ∀ row ∈ rows, row.metricKind ≠ "counter")
    (fits : rows.length ≤ continuousMaxDBCount) :
    (downsampleMetricRows (downsampleMetricRows rows .fiveMinutes) .hour).map statistics =
        (downsampleMetricRows rows .hour).map statistics ↔
      (rows.map (metricKey .fiveMinutes)).Nodup := by
  constructor
  · intro same
    have counts := congrArg (map fun stats => stats.2.2.2.1) same
    rw [map_map, map_map] at counts
    change map PqMetricRow.count _ = map PqMetricRow.count _ at counts
    have twice := downsampleMetricRows_counts (downsampleMetricRows rows .fiveMinutes) .hour
    have once := downsampleMetricRows_counts rows .hour
    have items : (downsampleMetricRows rows .fiveMinutes).length = _ := length_map _
    refine (length_gather (openMetricRow .fiveMinutes) addMetricRow rows).2 ?_
    rw [counts, once, items] at twice
    omega
  · intro nodup
    have single : downsampleMetricRows rows .fiveMinutes =
        rows.map fun row => closeMetricRow (openMetricRow .fiveMinutes row) := by
      rw [downsampleMetricRows, gather_of_nodup nodup, map_map]
      rfl
    rw [single, downsampleMetricRows, gather_map, downsampleMetricRows]
    intro row mem
    have gauge := gauges row mem
    simp [metricKey, openMetricRow, closeMetricRow, addMetricRow, gauge, pqBucketStart_hour]

/-- A raw sample of a gauge. -/
def gaugeSample (timestamp : Int) (value : Nat) : PqMetricRow :=
  { timestamp, value, metricKind := "gauge", min := value, max := value, sum := value, count := 1,
    last := value }

/-- Two samples of one gauge a minute apart become one five-minute row, which the second pass takes
for one sample of the peak: the smaller value, the sum and the last value are lost. -/
theorem five_minute_row_taken_for_sample :
    let rows := [gaugeSample 0 10, gaugeSample 60000 4]
    (downsampleMetricRows (downsampleMetricRows rows .fiveMinutes) .hour).map statistics =
        [(10, 10, 10, 1, 10)] ∧
      (downsampleMetricRows rows .hour).map statistics = [(4, 10, 14, 2, 4)] := by
  decide

/-- Samples of one gauge in different buckets. -/
theorem sparse_gauge_kept :
    let rows := [gaugeSample 0 10, gaugeSample 300000 4]
    (rows.map (metricKey .fiveMinutes)).Nodup ∧
      (downsampleMetricRows (downsampleMetricRows rows .fiveMinutes) .hour).map statistics =
        (downsampleMetricRows rows .hour).map statistics := by
  have apart : ([gaugeSample 0 10, gaugeSample 300000 4].map (metricKey .fiveMinutes)).Nodup :=
    by decide
  exact ⟨apart, (hourly_statistics_iff _ (by decide) (by decide)).mpr apart⟩

end MiniDrop
