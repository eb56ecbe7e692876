import MiniDrop.Server.Text
/-!
# Ingest payloads

The batch an agent uploads, as the server decodes it. Defaults are the zero values a missing JSON
field decodes to. Fields that no modelled function reads are left out.
-/
namespace MiniDrop

/-- A structured stack frame. -/
structure ContinuousStackFrame where
  (function raw file : String := "")
  line : Int := 0
  address : Nat := 0
  (mappingFile buildID : String := "")
  normalizedOffset : Nat := 0
  resolved : Bool := false
  deriving DecidableEq

/-- One stack sample. -/
structure ContinuousStackSample where
  stack : List String := []
  stackString : String := ""
  count : Nat := 0
  comm : String := ""
  (pid processStartMs : Int := 0)
  (exe stackScope backend runtime : String := "")
  labels : Labels := []
  frames : List ContinuousStackFrame := []
  /-- Filled from the enclosing profile when the sample names none. -/
  profileID : String := ""
  deriving DecidableEq

/-- An explicit profile inside a window. -/
structure ContinuousProfileIngest where
  (signalType backend stackScope profileID unit : String := "")
  samples : List ContinuousStackSample := []
  labels : Labels := []
  deriving DecidableEq

/-- One metric point. -/
structure ContinuousMetricIngest where
  metric : String := ""
  timestamp : Int := Time.zero
  (pid processStartMs : Int := 0)
  (comm exe runtime : String := "")
  value : Nat := 0
  unit : String := ""
  labels : Labels := []
  deriving DecidableEq

/-- One bucket of a latency histogram. -/
structure ContinuousHistogramBucket where
  range : String := ""
  (low high : Float64 := ⟨0⟩)
  count : Nat := 0
  deriving DecidableEq

/-- A latency histogram with the process it belongs to. -/
structure ContinuousHistogramIngest where
  (signalType backend : String := "")
  eventCount : Nat := 0
  buckets : List ContinuousHistogramBucket := []
  labels : Labels := []
  unavailable : Bool := false
  (pid processStartMs : Int := 0)
  exe : String := ""
  deriving DecidableEq

/-- One database snapshot entry. -/
structure ContinuousDBSnapshotIngest where
  callCount : Nat := 0
  deriving DecidableEq

/-- What the agent reports about the collection of one signal in one window. -/
structure ContinuousSignalStatus where
  (status reason : String := "")
  lostEvents : Nat := 0
  deriving DecidableEq

/-- One logical window of a batch. -/
structure ContinuousWindowIngest where
  (windowStart windowEnd : Int := Time.zero)
  objectKey : String := ""
  sampleCount : Nat := 0
  signalType : String := ""
  /-- Stable identity of the logical window, the idempotence key of ingest. -/
  (windowID collectorGeneration targetFingerprint contentSHA256 backend : String := "")
  labels : Labels := []
  samples : List ContinuousStackSample := []
  profiles : List ContinuousProfileIngest := []
  histograms : List ContinuousHistogramIngest := []
  metrics : List ContinuousMetricIngest := []
  dbSnapshots : List ContinuousDBSnapshotIngest := []
  rssTruncated : Int := 0
  /-- `map[string]ContinuousSignalStatus`, in iteration order. -/
  signalStatuses : List (String × ContinuousSignalStatus) := []
  (physicalSampleRateHz effectiveSampleRateHz : Int := 0)
  identityUnavailable : Nat := 0
  deriving DecidableEq

/-- An ingest request. -/
structure ContinuousBatchIngestReq where
  (sessionSID batchID targetIP objectKey : String := "")
  (startTime endTime : Int := Time.zero)
  (windowCount schemaVersion : Nat := 0)
  collectorGeneration : String := ""
  batchSequence : Nat := 0
  contentSHA256 : String := ""
  windows : List ContinuousWindowIngest := []

/-- The payload object of a batch, and a member of a compacted block. -/
structure ContinuousStoredBatch where
  (sessionSID batchID : String := "")
  (startTime endTime : Int := Time.zero)
  schemaVersion : Nat := 0
  windows : List ContinuousWindowIngest := []
  deriving DecidableEq

/-- What the objects hold, if they can be read. -/
abbrev Loader := String → Option (List ContinuousStoredBatch)

end MiniDrop
