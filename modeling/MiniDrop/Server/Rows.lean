import MiniDrop.Server.Catalog
/-!
# Parquet rows of a window

How one catalog row and one payload window become rows of a raw block. The catalog row decides which
contents are read and stamps the rows with its own start; the payload window supplies the contents.
-/
namespace MiniDrop

/-- `pqCPUFrame`, the stored form of a stack frame. -/
abbrev PqCPUFrame := ContinuousStackFrame

/-- `pqCPURow`: one CPU or memory sample. -/
structure PqCPURow where
  timestamp : Int := 0
  (sessionSID service agent : String := "")
  (pid processStartMs : Int := 0)
  (comm exe backend runtime : String := "")
  labels : TextLabels := []
  frames : List PqCPUFrame := []
  value : Nat := 0
  (unit profileType profileID profileStatus profileReason : String := "")
  deriving DecidableEq

/-- `pqMetricRow`: one point of a metric series. -/
structure PqMetricRow where
  timestamp : Int := 0
  sessionSID : String := ""
  (pid processStartMs : Int := 0)
  (comm exe runtime metric metricKind : String := "")
  (value min max sum count last delta : Nat := 0)
  unit : String := ""
  labels : TextLabels := []
  rssTruncated : Int := 0
  deriving DecidableEq

/-- `pqHistogramRow`: one histogram bucket. -/
structure PqHistogramRow where
  timestamp : Int := 0
  (sessionSID signalType backend : String := "")
  (pid processStartMs : Int := 0)
  exe : String := ""
  (bucketLow bucketHigh : Float64 := ⟨0⟩)
  (count eventCount : Nat := 0)
  labels : TextLabels := []
  deriving DecidableEq

/-- `pqDBRow`: one database digest or lock wait. -/
structure PqDBRow where
  timestamp : Int := 0
  sessionSID : String := ""
  (callCount occurrenceCount : Nat := 0)
  deriving DecidableEq

/-- `pqSignalRows`: rows of the four ledger signals. -/
structure PqSignalRows where
  cpu : List PqCPURow := []
  metrics : List PqMetricRow := []
  histogram : List PqHistogramRow := []
  db : List PqDBRow := []
  deriving DecidableEq

def knownMetricKinds : List (String × String) :=
  [("rss_bytes", "gauge"), ("db_active_connections", "gauge"),
    ("db_innodb_buffer_pool_hit_ratio_bps", "gauge"), ("db_questions_total", "counter")]

/-- `pqMetricKindFor`: unknown metrics count as gauges. -/
def pqMetricKindFor (metric : String) : String := (knownMetricKinds.lookup metric).getD "gauge"

/-- `strings.Split(s, ";")`. -/
def splitSemicolons (s : String) : List String := (s.toList.splitOn ';').map String.ofList

/-- `continuousSampleStack`: the stack's nonblank frames, from the list or the joined text. -/
def continuousSampleStack (sample : ContinuousStackSample) : List String :=
  let parts :=
    if sample.stack ≠ [] then sample.stack
    else if sample.stackString = "" then []
    else splitSemicolons sample.stackString
  (parts.map trimSpace).filter (· ≠ "")

/-- A hexadecimal digit and its value. -/
def hexDigit? (c : Char) : Option Nat :=
  if '0' ≤ c ∧ c ≤ '9' then some (c.toNat - 48)
  else if 'a' ≤ c ∧ c ≤ 'f' then some (c.toNat - 87)
  else if 'A' ≤ c ∧ c ≤ 'F' then some (c.toNat - 55)
  else none

/-- `strconv.ParseUint(digits, 16, 64)`; zero stays when the value does not fit. -/
def parseHex64 (digits : List Char) : Nat :=
  let value := digits.foldl (fun value c => value * 16 + (hexDigit? c).getD 0) 0
  if value < 2 ^ 64 then value else 0

/-- The match of `^0x([0-9a-fA-F]+)\s*\[(.*)\]$`: the digits and the bracketed text. -/
def legacyAddressFrame (item : String) : Option (List Char × String) :=
  match item.toList with
  | '0' :: 'x' :: rest =>
    let digits := rest.takeWhile fun c => (hexDigit? c).isSome
    let spaces : List Char := ['\t', '\n', Char.ofNat 12, '\r', ' ']
    match (rest.dropWhile fun c => (hexDigit? c).isSome).dropWhile (· ∈ spaces) with
    | '[' :: tail =>
      if digits ≠ [] ∧ tail.getLast? = some ']' ∧ '\n' ∉ tail then
        some (digits, String.ofList tail.dropLast)
      else none
    | _ => none
  | _ => none

/-- One frame of a legacy text stack. -/
def frameFromLegacy (text : String) : ContinuousStackFrame :=
  let item := trimSpace text
  match legacyAddressFrame item with
  | some (digits, mapping) =>
    { raw := item, address := parseHex64 digits, mappingFile := trimSpace mapping }
  | none =>
    if item ≠ "" ∧ ¬hasPrefix item "[" then { raw := item, function := item, resolved := true }
    else { raw := item }

def framesFromLegacyStack (stack : List String) : List ContinuousStackFrame :=
  stack.map frameFromLegacy

/-- `normalizedSampleFrames`: reported frames, or frames made from the legacy stack. -/
def normalizedSampleFrames (sample : ContinuousStackSample) : List ContinuousStackFrame :=
  if sample.frames ≠ [] then sample.frames
  else framesFromLegacyStack (continuousSampleStack sample)

/-- The key under which `continuousProfileSeen` remembers a profile: its id, with the first
process identity among its samples. -/
def continuousProfileSeenKey (profileID : String) (samples : List ContinuousStackSample) :
    String :=
  match samples.find? fun sample => decide (sample.pid > 0) with
  | some sample => profileID ++ "|" ++ toString sample.pid ++ "|" ++
      toString sample.processStartMs ++ "|" ++ sample.exe
  | none => profileID

/-- The samples of one profile, each named after the profile when it has no name. -/
def profileSamples (profile : ContinuousProfileIngest) : List ContinuousStackSample :=
  profile.samples.map fun sample =>
    if sample.profileID = "" then { sample with profileID := profile.profileID } else sample

/-- The profile loop of the build: profiles of the wanted signal, each named one once. -/
def profileSamplesForIngest (windowSignal : String) :
    List String → List ContinuousProfileIngest → List ContinuousStackSample
  | _, [] => []
  | seen, profile :: rest =>
    if continuousNormalizeProfileSignal profile.signalType ≠ windowSignal then
      profileSamplesForIngest windowSignal seen rest
    else if profile.profileID ≠ "" then
      let key := continuousProfileSeenKey profile.profileID profile.samples
      if key ∈ seen then profileSamplesForIngest windowSignal seen rest
      else profileSamples profile ++ profileSamplesForIngest windowSignal (key :: seen) rest
    else profileSamples profile ++ profileSamplesForIngest windowSignal seen rest

/-- `continuousProfileSamplesForIngest`: window samples belong to the CPU signal only. -/
def continuousProfileSamplesForIngest (window : ProfileWindow) (input : ContinuousWindowIngest) :
    List ContinuousStackSample :=
  let windowSignal := continuousNormalizeProfileSignal window.signalType
  (if windowSignal = "cpu_profile" then input.samples else []) ++
    profileSamplesForIngest windowSignal [] input.profiles

/-- `windowLabelsMap`: the row's labels, or the payload's when the row has none. -/
def windowLabelsMap (rowLabels ingestLabels : Labels) : Labels :=
  if rowLabels ≠ [] then rowLabels else ingestLabels

/-- `inLabelsString`: a text label of the payload window. -/
def inLabelsString (input : ContinuousWindowIngest) (key : String) : String :=
  match input.labels.lookup key with
  | some (.text value) => value
  | _ => ""

section Collect

variable (inServiceName : String → String) (window : ProfileWindow)
  (input : ContinuousWindowIngest)

/-- The row of one profile sample. -/
def cpuRowOf (sample : ContinuousStackSample) : PqCPURow where
  timestamp := Time.unixMilli window.windowStart
  sessionSID := window.sessionSID
  service := firstNonEmpty [inServiceName window.sessionSID, "hotmethod"]
  agent := firstNonEmpty [inLabelsString input "agent_id", ""]
  pid := int32 sample.pid
  processStartMs := sample.processStartMs
  comm := sample.comm
  exe := sample.exe
  backend := firstNonEmpty [sample.backend, window.backend]
  runtime := sample.runtime
  labels := sanitizeContinuousLabels (windowLabelsMap window.labels input.labels)
  frames := normalizedSampleFrames sample
  value := firstNonZeroUint64 sample.count 1
  unit := "samples"
  profileType := window.signalType
  profileID := sample.profileID

/-- The row that records a memory profile without samples. -/
def failedProfileRow (profile : ContinuousProfileIngest) : PqCPURow where
  timestamp := Time.unixMilli window.windowStart
  sessionSID := window.sessionSID
  service := firstNonEmpty [inServiceName window.sessionSID, "hotmethod"]
  agent := firstNonEmpty [inLabelsString input "agent_id", ""]
  labels := sanitizeContinuousLabels (windowLabelsMap window.labels input.labels)
  unit := firstNonEmpty [profile.unit, "bytes"]
  profileType := window.signalType
  profileID := profile.profileID
  profileStatus := "failed"
  profileReason := "profile 无可用样本（转换失败或无峰值分配）"

/-- The CPU rows of a window. -/
def cpuRows : List PqCPURow :=
  (continuousProfileSamplesForIngest window input).map (cpuRowOf inServiceName window input) ++
  (if window.signalType = "python_memory" ∨ window.signalType = "memory" then
    (input.profiles.filter fun profile =>
      continuousNormalizeProfileSignal profile.signalType = "python_memory" &&
        profile.samples.isEmpty && profile.profileID ≠ "").map
      (failedProfileRow inServiceName window input)
  else [])

/-- The row of one metric point. -/
def metricRowOf (metric : ContinuousMetricIngest) : PqMetricRow where
  timestamp := Time.unixMilli window.windowStart
  sessionSID := window.sessionSID
  pid := int32 metric.pid
  processStartMs := metric.processStartMs
  comm := metric.comm
  exe := metric.exe
  runtime := metric.runtime
  metric := metric.metric
  metricKind := pqMetricKindFor metric.metric
  value := metric.value
  min := metric.value
  max := metric.value
  sum := metric.value
  count := 1
  last := metric.value
  unit := metric.unit
  labels := sanitizeContinuousLabels metric.labels
  rssTruncated := int32 input.rssTruncated

/-- The labels of a bucket row: the histogram's, with the bucket range and the window end. -/
def bucketLabels (histogram : ContinuousHistogramIngest) (bucket : ContinuousHistogramBucket) :
    TextLabels :=
  let labels := sanitizeContinuousLabels histogram.labels
  let labels :=
    if bucket.range ≠ "" then setLabel labels "_bucket_range" bucket.range else labels
  if !Time.isZero input.windowEnd then
    setLabel labels "_window_end_ms" (toString (Time.unixMilli input.windowEnd))
  else labels

/-- The row of one bucket; only the first bucket of a histogram carries its event count. -/
def histogramRowOf (histogram : ContinuousHistogramIngest) (index : Nat)
    (bucket : ContinuousHistogramBucket) : PqHistogramRow where
  timestamp := Time.unixMilli window.windowStart
  sessionSID := window.sessionSID
  signalType := window.signalType
  backend := firstNonEmpty [histogram.backend, window.backend]
  pid := int32 histogram.pid
  processStartMs := histogram.processStartMs
  exe := histogram.exe
  bucketLow := bucket.low
  bucketHigh := bucket.high
  count := bucket.count
  eventCount := if index = 0 then histogram.eventCount else 0
  labels := bucketLabels input histogram bucket

/-- The rows of one histogram. -/
def bucketRows (histogram : ContinuousHistogramIngest) : List PqHistogramRow :=
  histogram.buckets.mapIdx fun index bucket =>
    histogramRowOf window input histogram index bucket

/-- The row of one database snapshot entry. -/
def dbRowOf (snapshot : ContinuousDBSnapshotIngest) : PqDBRow where
  timestamp := Time.unixMilli window.windowStart
  sessionSID := window.sessionSID
  callCount := snapshot.callCount
  occurrenceCount := 1

/-- `pqCollectWindowRows`: the catalog row's signal selects the contents that become rows. The
histogram case takes every histogram of the window, whatever its own signal. -/
def pqCollectWindowRows : PqSignalRows :=
  match pqLedgerSignalForWindow window.signalType with
  | some .cpu => { cpu := cpuRows inServiceName window input }
  | some .metrics => { metrics := input.metrics.map (metricRowOf window input) }
  | some .histogram => { histogram := input.histograms.flatMap (bucketRows window input) }
  | some .db => { db := input.dbSnapshots.map (dbRowOf window) }
  | none => {}

end Collect

end MiniDrop
