import MiniDrop.Agent.SymbolRefs
/-!
# The window of a session

The shared collector samples all the processes that any session wants.
`SessionFanoutProjector::Project` makes the window of one session out of a physical window: it keeps
the signals that were requested, the data of its own processes, and as many samples as its own rate
asks for.
-/
namespace MiniDrop.Agent

/-! ## Payloads -/

structure ProfilePayload where
  signalType : String := "cpu_profile"
  (backend stackScope profileID : String := "")
  unit : String := "samples"
  readyPath : String := ""
  samples : List AggregatedSample := []

structure MetricPayload where
  (pid processStartMs : Int := 0)
  exe : String := ""
  value : Nat := 0

structure HistogramPayload where
  signalType : String := ""
  eventCount : Nat := 0
  unavailable : Bool := false
  reason : String := ""
  (pid processStartMs : Int := 0)
  exe : String := ""

structure DBSnapshotSample where
  digestText : String := ""

inductive SignalCollectionStatus where
  | collected
  | targetIdle
  | noEvents
  | unavailable
  | failed

/-- `SignalStatus`: no event is counted as lost here. -/
structure SignalStatus where
  status : SignalCollectionStatus
  reason : String := ""

structure WindowPayload where
  (startMs endMs : Int := 0)
  samples : List AggregatedSample := []
  profiles : List ProfilePayload := []
  histograms : List HistogramPayload := []
  metrics : List MetricPayload := []
  dbSnapshots : List DBSnapshotSample := []
  rssTruncated : Nat := 0
  (backendStatus backendReason : String := "")
  attemptedBackends : List String := []
  (selectedBackend symbolRefsJson : String := "")
  physicalDiagnostics : Option PhysicalDiagnostics := none
  (windowID contentSHA256 collectorGeneration : String := "")
  (physicalSampleRateHz effectiveSampleRateHz : Int := 0)
  /-- By the name of the signal, each one once. -/
  signalStatuses : List (String × SignalStatus) := []
  identityUnavailableCount : Nat := 0

/-- `SessionContract`: the fields that a projection reads. -/
structure SessionContract where
  sid : String := ""
  scope : String := "host"
  targets : List ContinuousTargetProcess := []
  signals : List String := []
  requestedSampleRateHz : Int := 19

/-- The process of a metric. -/
def MetricPayload.identity (metric : MetricPayload) : ProcessIdentity :=
  ⟨metric.pid, metric.processStartMs, metric.exe⟩

/-- The process of a histogram. -/
def HistogramPayload.identity (histogram : HistogramPayload) : ProcessIdentity :=
  ⟨histogram.pid, histogram.processStartMs, histogram.exe⟩

/-- The signal of a profile. -/
def ProfilePayload.signal (profile : ProfilePayload) : String :=
  if profile.signalType = "" then "cpu_profile" else profile.signalType

/-! ## Fewer samples -/

def stackIdentityKey (sample : AggregatedSample) : String :=
  sample.stack.foldl (fun key frame => key ++ "|" ++ frame)
    (sample.stackScope ++ "|" ++ toString sample.pid ++ "|" ++ sample.exe ++ "|" ++ sample.comm)

/-- A sample with its share of the quota, rounded down, and what is left over. -/
structure QuotaEntry where
  sample : AggregatedSample
  (base remainder : Nat)
  sortKey : String

/-- The order of the shares: the largest remainder first, and then the keys. -/
def QuotaEntry.before (left right : QuotaEntry) : Bool :=
  if left.remainder ≠ right.remainder then left.remainder > right.remainder
  else left.sortKey ≤ right.sortKey

/-- `SessionFanoutProjector::DownsampleDeterministic`; the product with the ratio is rounded half
up. -/
def downsampleDeterministic (samples : List AggregatedSample) (requestedHz physicalHz : Nat)
    (stabilityKey : String) : List AggregatedSample :=
  if samples = [] ∨ requestedHz = 0 ∨ physicalHz = 0 ∨ requestedHz ≥ physicalHz then samples
  else
    let filteredTotal := samples.foldl (fun total sample => addCount total sample.count) 0
    if filteredTotal = 0 then samples
    else
      let targetTotal := (2 * filteredTotal * requestedHz + physicalHz) / (2 * physicalHz)
      if targetTotal ≥ filteredTotal then samples
      else if targetTotal = 0 then []
      else
        let entries := samples.map fun sample => {
          sample
          base := sample.count * targetTotal / filteredTotal
          remainder := sample.count * targetTotal % filteredTotal
          sortKey := stabilityKey ++ "|" ++ stackIdentityKey sample : QuotaEntry }
        let assigned := entries.foldl (fun total entry => addCount total entry.base) 0
        let ordered := entries.mergeSort QuotaEntry.before
        -- What is left of the quota goes to the first entries, one each.
        let shares := ordered.zipIdx.map fun (entry, index) =>
          if index < targetTotal - assigned then { entry with base := entry.base + 1 } else entry
        (shares.filter (·.base ≠ 0)).map fun entry => { entry.sample with count := entry.base }

/-! ## The projection -/

def unavailableSharedHistogramPayload (signalType : String) : HistogramPayload where
  signalType
  unavailable := true
  reason :=
    "shared rolling fallback cannot attribute this histogram across multiple process selectors"

namespace SessionContract

variable (contract : SessionContract)

/-- The session wants a signal. -/
def wants (signal : String) : Bool := logicalSignalRequested contract.signals signal

/-- The session is one on processes. -/
def isProcess : Bool := contract.scope = "process"

/-- The process is one of the session. -/
def targets? (identity : ProcessIdentity) : Bool := identityTargeted contract.targets identity

/-- The samples of the session. -/
def keptSamples (samples : List AggregatedSample) : List AggregatedSample :=
  if !contract.wants "cpu_profile" then []
  else if contract.isProcess then samples.filter (contract.targets? ·.identity)
  else samples

/-- The weight of the samples that could not be told to be of a target or not. -/
def identityUnavailable (samples : List AggregatedSample) : Nat :=
  if contract.wants "cpu_profile" && contract.isProcess then
    (samples.filter fun sample => !contract.targets? sample.identity &&
      (!sample.identity.complete || contract.targets.any (·.pid = sample.pid))).foldl
        (fun total sample => addCount total sample.count) 0
  else 0

/-- A profile of the session, if anything of it is left. -/
def keptProfile (profile : ProfilePayload) : Option ProfilePayload :=
  if profile.signal = "cpu_profile" ∧ contract.wants "cpu_profile" = false then none
  else if profile.signal = "python_memory" ∧ contract.wants "python_memory" = false then none
  else if contract.isProcess then
    let kept := profile.samples.filter (contract.targets? ·.identity)
    if kept = [] then none else some { profile with samples := kept }
  else some profile

/-- The metrics of the session. -/
def keptMetrics (metrics : List MetricPayload) : List MetricPayload :=
  if !contract.wants "python_rss" then []
  else if contract.isProcess then metrics.filter (contract.targets? ·.identity)
  else metrics

/-- A histogram of a signal that was not requested. -/
def unwanted (histogram : HistogramPayload) : Bool :=
  (histogram.signalType = "io_latency" && !contract.wants "io_latency") ||
    (histogram.signalType = "io_syscall_latency" && !contract.wants "io_syscall_latency") ||
    (histogram.signalType = "sched_latency" && !contract.wants "sched_latency")

/-- The histograms of the session; one of the whole host is none of a process. -/
def keptHistograms (histograms : List HistogramPayload) : List HistogramPayload :=
  histograms.filter fun histogram => !contract.unwanted histogram &&
    (!contract.isProcess || (0 < histogram.pid && contract.targets? histogram.identity))

/-- The histograms where none can be told to be of a session. -/
def unavailableHistograms : List HistogramPayload :=
  (["io_latency", "io_syscall_latency", "sched_latency"].filter contract.wants).map
    unavailableSharedHistogramPayload

/-- The session wants fewer samples than were taken. -/
def downsamples (physicalSampleRateHz : Int) : Bool :=
  contract.wants "cpu_profile" && 0 < physicalSampleRateHz && 0 < contract.requestedSampleRateHz &&
    contract.requestedSampleRateHz < physicalSampleRateHz

/-- The key that makes the choice of samples the same every time. -/
def stabilityKey (physical : WindowPayload) : String :=
  physical.collectorGeneration ++ "|" ++ toString physical.startMs ++ "|" ++
    toString physical.endMs ++ "|" ++ contract.sid

/-- The samples of the session at its own rate. -/
def projectedSamples (physical : WindowPayload) (physicalSampleRateHz : Int) :
    List AggregatedSample :=
  let kept := contract.keptSamples physical.samples
  if contract.downsamples physicalSampleRateHz then
    downsampleDeterministic kept contract.requestedSampleRateHz.toNat physicalSampleRateHz.toNat
      (contract.stabilityKey physical)
  else kept

/-- The profiles of the session at its own rate. -/
def projectedProfiles (physical : WindowPayload) (physicalSampleRateHz : Int) :
    List ProfilePayload :=
  let kept := physical.profiles.filterMap contract.keptProfile
  if contract.downsamples physicalSampleRateHz then
    kept.map fun profile =>
      if profile.signal ≠ "cpu_profile" then profile
      else
        { profile with
          samples := downsampleDeterministic profile.samples contract.requestedSampleRateHz.toNat
            physicalSampleRateHz.toNat (contract.stabilityKey physical ++ "|profile|" ++
              profile.profileID ++ "|" ++ profile.backend) }
  else kept

/-- The histograms of the session. -/
def projectedHistograms (physical : WindowPayload) (histogramAttributionSafe : Bool) :
    List HistogramPayload :=
  if histogramAttributionSafe then contract.keptHistograms physical.histograms
    else contract.unavailableHistograms

/-- `build_session_symbol_refs` for a session on processes; the text of the physical window for one
on the host. -/
def projectedRefs (languageStatus : LanguageInput → String) (physical : WindowPayload)
    (samples : List AggregatedSample) : String :=
  if contract.isProcess then
    match physical.physicalDiagnostics with
    | some diagnostics =>
      (diagnostics.requested contract.signals).rebuildFilteredSymbolRefs samples contract.targets
        languageStatus
    | none => ""
  else physical.symbolRefsJson

end SessionContract

/-- A profile of the CPU with samples. -/
def ProfilePayload.hasCPU (profile : ProfilePayload) : Bool :=
  profile.signal = "cpu_profile" && profile.samples ≠ []

/-- The status of the CPU profile. -/
def cpuStatus (physical out : WindowPayload) (isProcess : Bool) : SignalStatus :=
  if out.samples ≠ [] ∨ out.profiles.any (·.hasCPU) then { status := .collected }
  else if physical.samples ≠ [] ∨ physical.profiles.any (·.hasCPU) then
    { status := .targetIdle
      reason := if isProcess then "target idle or identity unavailable" else "target idle" }
  else if physical.backendStatus = "failed" then
    { status := .failed, reason := physical.backendReason }
  else { status := .noEvents }

/-- The status of a histogram. -/
def histogramStatus (physical out : WindowPayload) (isProcess : Bool) (signal : String) :
    SignalStatus :=
  let own := out.histograms.filter (·.signalType = signal)
  if own.any (!·.unavailable) then { status := .collected }
  else if own ≠ [] then
    { status := .unavailable, reason := ((own.map (·.reason)).find? (· ≠ "")).getD "" }
  else if isProcess && physical.histograms.any (·.signalType = signal) then
    { status := .unavailable, reason := "histogram cannot be attributed to this process instance" }
  else { status := .noEvents }

/-- A signal that was collected, or for which nothing happened. -/
def seenStatus (seen : Bool) : SignalStatus := { status := if seen then .collected else .noEvents }

/-- The statuses that a projection registers. -/
def SessionContract.statuses (contract : SessionContract) (physical out : WindowPayload) :
    List (String × SignalStatus) :=
  [("cpu_profile", cpuStatus physical out contract.isProcess),
    ("io_latency", histogramStatus physical out contract.isProcess "io_latency"),
    ("io_syscall_latency", histogramStatus physical out contract.isProcess "io_syscall_latency"),
    ("sched_latency", histogramStatus physical out contract.isProcess "sched_latency"),
    ("python_rss", seenStatus (out.metrics ≠ [])),
    ("python_memory", seenStatus (out.profiles.any fun profile =>
      profile.signalType = "python_memory" && profile.samples ≠ [])),
    ("db_snapshot", seenStatus (out.dbSnapshots ≠ []))].filter fun entry => contract.wants entry.1

def project (languageStatus : LanguageInput → String) (physical : WindowPayload)
    (contract : SessionContract) (physicalSampleRateHz : Int) (histogramAttributionSafe : Bool) :
    WindowPayload :=
  let samples := contract.projectedSamples physical physicalSampleRateHz
  let out : WindowPayload := { physical with
    windowID := ""
    contentSHA256 := ""
    physicalSampleRateHz
    effectiveSampleRateHz := if contract.downsamples physicalSampleRateHz then
      contract.requestedSampleRateHz else physicalSampleRateHz
    identityUnavailableCount := contract.identityUnavailable physical.samples
    samples
    profiles := contract.projectedProfiles physical physicalSampleRateHz
    metrics := contract.keptMetrics physical.metrics
    dbSnapshots := if contract.wants "db_snapshot" then physical.dbSnapshots else []
    histograms := contract.projectedHistograms physical histogramAttributionSafe
    symbolRefsJson := contract.projectedRefs languageStatus physical samples }
  { out with signalStatuses := contract.statuses physical out }

end MiniDrop.Agent
