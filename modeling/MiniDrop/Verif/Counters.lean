import MiniDrop.Verif.Downsample
/-!
# Counters

A counter row of a bucket has the increase between its readings as value. The increase from the last
reading of a bucket to the first one of the next is in neither, and the second pass takes the
increases of five minutes for readings of the counter.
-/
namespace MiniDrop

open Base List

/-- The increase between two readings; after a reset the counter has started from zero. -/
def counterGain (before after : PqMetricRow) : Nat :=
  if after.value ≥ before.value then after.value - before.value else after.value

/-- The increase between two readings, if they share a key. -/
def bucketGain (resolution : ParquetResolution) (before after : PqMetricRow) : Nat :=
  if metricKey resolution before = metricKey resolution after then counterGain before after else 0

theorem counterGain_le (before after : PqMetricRow) : counterGain before after ≤ after.value := by
  unfold counterGain
  split_ifs <;> omega

theorem bucketGain_le (resolution : ParquetResolution) (before after : PqMetricRow) :
    bucketGain resolution before after ≤ counterGain before after := by
  unfold bucketGain
  split_ifs <;> omega

/-- The key of a row without the bucket. -/
def metricSeries (row : PqMetricRow) : MetricKey := { metricKey .raw row with bucket := 0 }

/-- The readings of one counter in the order of time. -/
structure CounterSeries (series : MetricKey) (rows : List PqMetricRow) : Prop where
  kind : series.kind = "counter"
  member : ∀ row ∈ rows, metricSeries row = series
  ordered : rows.Pairwise fun a b => a.timestamp ≤ b.timestamp

/-- What the counter gains over the readings of one five-minute bucket. -/
def increaseIn (rows : List PqMetricRow) (bucket : MetricKey) : Nat :=
  stepSum counterGain (rows.filter (metricKey .fiveMinutes · = bucket))

theorem pqBucketStart_mono {a b : Int} (le : a ≤ b) (resolution : ParquetResolution) :
    pqBucketStart a resolution ≤ pqBucketStart b resolution := by
  have positive : 0 < resolution.width := by cases resolution <;> decide
  exact Int.mul_le_mul_of_nonneg_right (Int.ediv_le_ediv positive le) positive.le

/-- The rows of a bucket add what the counter gains over them. -/
theorem foldl_addMetricRow_delta {rows : List PqMetricRow}
    (counters : ∀ row ∈ rows, row.metricKind = "counter") {item row : PqMetricRow}
    (latest : item.last = row.value) {n : Nat}
    (total : item.delta = min continuousMaxDBCount n) : (rows.foldl addMetricRow item).delta =
      min continuousMaxDBCount (n + stepSum counterGain (row :: rows)) := by
  induction rows generalizing item row n with
  | nil => exact total
  | cons next rest ih =>
    obtain ⟨here, later⟩ := forall_mem_cons.mp counters
    have added : (addMetricRow item next).delta =
        min continuousMaxDBCount (n + counterGain row next) := by
      rw [addMetricRow, counterGain, ← latest]
      dsimp only
      rw [if_pos here, addContinuousCount_eq, total]
      omega
    rw [foldl_cons, ih later rfl added, stepSum_cons_cons, Nat.add_assoc]

namespace CounterSeries

variable {series : MetricKey} {rows : List PqMetricRow} {resolution : ParquetResolution}
  (counter : CounterSeries series rows)
include counter

theorem sublist {part : List PqMetricRow} (sub : part <+ rows) : CounterSeries series part :=
  ⟨counter.kind, fun row mem => counter.member row (sub.subset mem), counter.ordered.sublist sub⟩

theorem counters : ∀ row ∈ rows, row.metricKind = "counter" :=
  fun row mem => (congrArg MetricKey.kind (counter.member row mem)).trans counter.kind

theorem key_eq {row : PqMetricRow} (mem : row ∈ rows) :
    metricKey resolution row = { series with bucket := pqBucketStart row.timestamp resolution } :=
  counter.member row mem ▸ rfl

/-- Time does not come back to a bucket. -/
theorem runs (a b c : PqMetricRow) (part : [a, b, c] <+ rows)
    (back : metricKey resolution a = metricKey resolution c) :
    metricKey resolution a = metricKey resolution b := by
  have three := counter.sublist part
  have order := three.ordered
  simp only [pairwise_cons, forall_mem_cons] at order
  have before := pqBucketStart_mono order.1.1 resolution
  have after := pqBucketStart_mono order.2.1.1 resolution
  have ends := congrArg MetricKey.bucket back
  rw [three.key_eq (by simp), three.key_eq (by simp)]
  exact congrArg (MetricKey.mk · ..) (le_antisymm before (le_of_le_of_eq after ends.symm))

/-- Without saturation, the buckets together have the gains inside buckets. -/
theorem delta_total (fits : stepSum (bucketGain resolution) rows ≤ continuousMaxDBCount) :
    ((downsampleMetricRows rows resolution).map (·.delta)).sum =
    stepSum (bucketGain resolution) rows := by
  rw [downsampleMetricRows, map_map]
  induction rows using gather_induction (metricKey resolution) with
  | nil => rfl
  | cons row rest ih =>
    have split : stepSum (bucketGain resolution) (row :: rest) = _ := stepSum_inside counter.runs
    rw [split] at fits ⊢
    rw [gather_cons, map_cons, sum_cons, ih (counter.sublist (filter_sublist.cons row))
      (le_trans (Nat.le_add_left _ _) fits)]
    congr 1
    refine (foldl_addMetricRow_delta ?_ rfl (Nat.min_zero _).symm).trans ?_
    · exact fun other mem => (forall_mem_cons.mp counter.counters).2 other (mem_of_mem_filter mem)
    · rw [Nat.zero_add, min_eq_right (le_trans (Nat.le_add_right _ _) fits)]

/-- The downsampled rows are again readings of the counter in the order of time. -/
theorem downsample (resolution : ParquetResolution) :
    CounterSeries series (downsampleMetricRows rows resolution) := by
  refine ⟨counter.kind, forall_mem_map.mpr (forall_mem_gather counter.member fun _ _ here => here),
    ?_⟩
  refine pairwise_map.mpr (gather_sorted ?_ (fun _ => rfl) fun _ _ => rfl)
  exact counter.ordered.imp fun le => pqBucketStart_mono le resolution

/-- Their value is what the counter gained in the bucket. -/
theorem value_eq_delta :
    ∀ row ∈ downsampleMetricRows rows resolution, row.value = row.delta := by
  intro row mem
  have kind := (counter.downsample resolution).counters row mem
  obtain ⟨item, -, rfl⟩ := mem_map.mp mem
  exact if_pos kind

/-- The row of a bucket: its start, the series, and the increase as value. -/
theorem item_eq {row : PqMetricRow} {part : List PqMetricRow}
    (fits : stepSum (bucketGain .fiveMinutes) rows ≤ continuousMaxDBCount)
    (group : rows.filter (metricKey .fiveMinutes · = metricKey .fiveMinutes row) = row :: part) :
    let item := closeMetricRow (part.foldl addMetricRow (openMetricRow .fiveMinutes row))
    item.value = increaseIn rows (metricKey .fiveMinutes row) ∧
      metricKey .hour item =
        { series with bucket := pqBucketStart (metricKey .fiveMinutes row).bucket .hour } := by
  have own := counter.sublist (group ▸ filter_sublist : row :: part <+ rows)
  have least : increaseIn rows (metricKey .fiveMinutes row) ≤ continuousMaxDBCount :=
    le_trans (stepSum_filter_le _ counter.runs) fits
  have kept : let item := part.foldl addMetricRow (openMetricRow .fiveMinutes row)
      metricSeries item = series ∧ item.timestamp = (metricKey .fiveMinutes row).bucket :=
    foldlRecOn (motive := fun item => metricSeries item = series ∧
      item.timestamp = (metricKey .fiveMinutes row).bucket) part addMetricRow
      ⟨own.member row mem_cons_self, rfl⟩ fun _ here _ _ => here
  have kind : (part.foldl addMetricRow (openMetricRow .fiveMinutes row)).metricKind = "counter" :=
    (congrArg MetricKey.kind kept.1).trans counter.kind
  have opened : (openMetricRow .fiveMinutes row).last = row.value := rfl
  have gained := foldl_addMetricRow_delta
    (fun other mem => own.counters other (mem_cons_of_mem row mem)) opened (Nat.min_zero _).symm
  rw [increaseIn, group] at least ⊢
  rw [Nat.zero_add, min_eq_right least] at gained
  exact ⟨(if_pos kind).trans gained, kept.1 ▸ kept.2 ▸ rfl⟩

end CounterSeries

/-- The second pass takes the increase of a bucket for a reading after that of the bucket before. It
counts in full if it is smaller or comes after zero, and not at all at the start of an hour. -/
def CountsFully (rows : List PqMetricRow) (before after : MetricKey) : Prop :=
  if pqBucketStart before.bucket .hour = pqBucketStart after.bucket .hour then
    increaseIn rows before = 0 ∨ increaseIn rows after < increaseIn rows before
  else increaseIn rows after = 0

/-- No increase lies between two buckets, none in the first bucket, and that of every later one
counts fully in the second pass. -/
structure KeepsIncrease (rows : List PqMetricRow) : Prop where
  between : rows.IsChain fun a b => bucketGain .fiveMinutes a b = counterGain a b
  first : ∀ row ∈ rows.head?, increaseIn rows (metricKey .fiveMinutes row) = 0
  later : rows.IsChain fun a b => metricKey .fiveMinutes a ≠ metricKey .fiveMinutes b →
    CountsFully rows (metricKey .fiveMinutes a) (metricKey .fiveMinutes b)

/-- The five-minute rows count fully as readings exactly when the increases of the buckets do. -/
theorem CounterSeries.later_iff {series : MetricKey} {rows : List PqMetricRow}
    (counter : CounterSeries series rows)
    (fits : stepSum (bucketGain .fiveMinutes) rows ≤ continuousMaxDBCount) :
    ((downsampleMetricRows rows .fiveMinutes).IsChain fun a b => bucketGain .hour a b = b.value) ↔
      rows.IsChain fun a b => metricKey .fiveMinutes a ≠ metricKey .fiveMinutes b →
        CountsFully rows (metricKey .fiveMinutes a) (metricKey .fiveMinutes b) := by
  rw [downsampleMetricRows, isChain_map]
  refine gather_isChain counter.runs fun a b as bs aGroup bGroup => ?_
  obtain ⟨aValue, aKey⟩ := counter.item_eq fits aGroup
  obtain ⟨bValue, bKey⟩ := counter.item_eq fits bGroup
  simp only [bucketGain, counterGain, aValue, bValue, aKey, bKey, CountsFully, MetricKey.mk.injEq,
    and_true]
  split_ifs <;> omega

theorem counter_increase_kept_iff {series : MetricKey} {rows : List PqMetricRow}
    (counter : CounterSeries series rows) (fits : stepSum counterGain rows ≤ continuousMaxDBCount) :
    (((downsampleMetricRows rows .fiveMinutes).map (·.delta)).sum = stepSum counterGain rows ∧
      ((downsampleMetricRows (downsampleMetricRows rows .fiveMinutes) .hour).map (·.delta)).sum =
        stepSum counterGain rows) ↔ KeepsIncrease rows := by
  have inside := le_trans (stepSum_le (bucketGain_le .fiveMinutes) rows) fits
  have first := counter.delta_total inside
  have again := counter.downsample .fiveMinutes
  have most := fun a b => le_trans (bucketGain_le .hour a b) (counterGain_le a b)
  have second (same : stepSum (bucketGain .fiveMinutes) rows = stepSum counterGain rows) :
      ((downsampleMetricRows (downsampleMetricRows rows .fiveMinutes) .hour).map (·.delta)).sum =
          stepSum counterGain rows ↔
        (∀ row ∈ rows.head?, increaseIn rows (metricKey .fiveMinutes row) = 0) ∧
          (downsampleMetricRows rows .fiveMinutes).IsChain fun a b =>
          bucketGain .hour a b = b.value := by
    rw [same, ← map_congr_left counter.value_eq_delta] at first
    have below := stepSum_le most (downsampleMetricRows rows .fiveMinutes)
    rw [← stepSum_eq_iff most]
    cases rows with
    | nil => simp [downsampleMetricRows, gather, stepSum]
    | cons row rest =>
      have value := (counter.item_eq inside (filter_cons_of_pos (by simp))).1
      have items : downsampleMetricRows (row :: rest) .fiveMinutes = _ :=
        congrArg (map closeMetricRow) (gather_cons row rest)
      rw [map_cons] at items
      generalize downsampleMetricRows (row :: rest) .fiveMinutes = fiveMinutes at *
      rw [items, sum_map_cons_eq, ← items, value] at first
      rw [again.delta_total (by omega), head?_cons]
      simp only [Option.mem_some_iff, forall_eq']
      omega
  rw [first, stepSum_eq_iff (bucketGain_le _)]
  constructor
  · rintro ⟨between, total⟩
    obtain ⟨start, later⟩ := (second ((stepSum_eq_iff (bucketGain_le _) rows).mpr between)).mp total
    exact ⟨between, start, (counter.later_iff inside).mp later⟩
  · rintro ⟨between, start, later⟩
    exact ⟨between, (second ((stepSum_eq_iff (bucketGain_le _) rows).mpr between)).mpr
      ⟨start, (counter.later_iff inside).mpr later⟩⟩

/-- A reading of a counter without labels. -/
def counterReading (timestamp : Int) (value : Nat) : PqMetricRow :=
  { timestamp, value, metricKind := "counter" }

/-- The increase lies inside the second bucket, after a first bucket without one. -/
theorem flat_start_keeps_increase :
    let rows := [counterReading 0 7, counterReading 300000 7, counterReading 360000 12]
    KeepsIncrease rows ∧ stepSum counterGain rows = 5 ∧
      ((downsampleMetricRows rows .fiveMinutes).map (·.delta)).sum = stepSum counterGain rows ∧
      ((downsampleMetricRows (downsampleMetricRows rows .fiveMinutes) .hour).map (·.delta)).sum =
        stepSum counterGain rows :=
  have counter : CounterSeries (metricSeries (counterReading 0 7)) _ :=
    ⟨rfl, by simp [counterReading, metricSeries, metricKey], by decide⟩
  have kept : KeepsIncrease
      [counterReading 0 7, counterReading 300000 7, counterReading 360000 12] :=
    ⟨by decide, by decide, by unfold CountsFully; decide⟩
  ⟨kept, by decide, (counter_increase_kept_iff counter (by decide)).mpr kept⟩

/-- Ten units from one bucket to the next are in no row. -/
theorem increase_between_buckets_lost :
    let rows := [counterReading 0 0, counterReading 300000 10]
    CounterSeries (metricSeries (counterReading 0 0)) rows ∧ stepSum counterGain rows = 10 ∧
      ((downsampleMetricRows rows .fiveMinutes).map (·.delta)).sum = 0 :=
  ⟨⟨rfl, by simp [counterReading, metricSeries, metricKey], by decide⟩, by decide, by decide⟩

end MiniDrop
