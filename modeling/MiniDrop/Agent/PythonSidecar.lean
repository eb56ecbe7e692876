import MiniDrop.Agent.Samples
/-!
# Captures with py-spy beside the rolling segments

A capture with py-spy takes the place of the samples that perf has taken of the same process in the
meantime. Its samples are added to the first segment that it replaces samples of; it then stays
without samples until the segments have passed its interval, and goes on to remove the samples of
perf.
-/
namespace MiniDrop.Agent

namespace PythonFallbackResult

variable (result : PythonFallbackResult)

/-- The sample is one of the process of the capture. -/
def isOf (sample : AggregatedSample) : Bool :=
  sample.pid = result.pid && 0 < sample.processStartMs && sample.processStartMs = result.startMs &&
    sample.exe ≠ "" && sample.exe = result.exe

/-- `overlapsWindow`: a capture or a window without an interval overlaps everything. -/
def overlapsWindow (windowStartMs windowEndMs : Int) : Bool :=
  if result.captureStartMs ≤ 0 ∨ result.captureEndMs ≤ 0 then true
  else if windowStartMs ≤ 0 ∨ windowEndMs ≤ 0 then true
  else result.captureStartMs < windowEndMs && result.captureEndMs > windowStartMs

/-- The capture replaces samples of the window. -/
def replaces (samples : List AggregatedSample) (windowStartMs windowEndMs : Int) : Bool :=
  result.ready && 0 < result.pid && 0 < result.startMs && result.exe ≠ "" &&
    result.overlapsWindow windowStartMs windowEndMs && samples.any result.isOf

/-- The samples of a capture, as samples of the window. -/
def aggregated : List AggregatedSample :=
  result.samples.map fun raw => {
    stack := raw.stack
    comm := if result.comm = "" then "python" else result.comm
    pid := result.pid
    processStartMs := result.startMs
    exe := result.exe
    backend := "py-spy"
    runtime := "python"
    count := clampCount raw.count }

/-- A sample that a capture removes where it replaces samples. -/
def removes (sample : AggregatedSample) : Bool :=
  result.pid = sample.pid && 0 < result.startMs && 0 < sample.processStartMs &&
    result.startMs = sample.processStartMs && result.exe ≠ "" && sample.exe ≠ "" &&
    result.exe = sample.exe

/-- `sidecar.samples.clear()`. -/
def cleared : PythonFallbackResult := { result with samples := [] }

end PythonFallbackResult

/-- `merge_python_sidecar_samples`: the samples of the window, and whether any were replaced. -/
def mergePythonSidecarSamples (samples : List AggregatedSample)
    (pythonResults : List PythonFallbackResult) (windowStartMs windowEndMs : Int) :
    List AggregatedSample × Bool :=
  let replacing := pythonResults.filter (·.replaces samples windowStartMs windowEndMs)
  if replacing = [] then (samples, false)
  else
    (samples.filter (fun sample => !replacing.any (·.removes sample)) ++
      replacing.flatMap (·.aggregated), true)

/-! ## `RunStrict` -/

/-- The samples of perf in a segment, and its interval; the parser makes it a proper one. -/
structure PerfWindow where
  (startMs endMs : Int)
  samples : List AggregatedSample
  positive : 0 < startMs := by decide
  proper : startMs < endMs := by decide

/-- A capture that waits for segments, with its number. -/
structure Sidecar where
  tag : Nat
  result : PythonFallbackResult
  deriving DecidableEq

/-- A segment that was processed: what perf has sampled, the captures that replaced samples, with
the samples that they had then, and the samples of the window. -/
structure StrictWindow where
  perf : PerfWindow
  replacing : List Sidecar
  samples : List AggregatedSample

/-- A segment is processed with the captures that wait. -/
def strictWindow (pending : List Sidecar) (perf : PerfWindow) : StrictWindow where
  perf
  replacing := pending.filter (·.result.replaces perf.samples perf.startMs perf.endMs)
  samples := (mergePythonSidecarSamples perf.samples (pending.map (·.result)) perf.startMs
    perf.endMs).1

/-- The captures that wait after a segment: if it replaced samples, all captures that overlap it
give up theirs; then those that are not ready go, and those that have ended before the segment. -/
def keepSidecars (pending : List Sidecar) (perf : PerfWindow) : List Sidecar :=
  let applied := (mergePythonSidecarSamples perf.samples (pending.map (·.result)) perf.startMs
    perf.endMs).2
  let used := if applied then
      pending.map fun sidecar =>
        if sidecar.result.ready && sidecar.result.captureStartMs < perf.endMs &&
            sidecar.result.captureEndMs > perf.startMs then
          { sidecar with result := sidecar.result.cleared }
        else sidecar
    else pending
  used.filter fun sidecar =>
    !(!sidecar.result.ready || (sidecar.result.captureEndMs > 0 &&
      perf.startMs ≥ sidecar.result.captureEndMs))

/-- The captures that wait, those that have arrived, in their order, and the segments that were
processed. -/
structure SidecarWorld where
  pending : List Sidecar := []
  arrived : List PythonFallbackResult := []
  windows : List StrictWindow := []
  stopped : Bool := false

/-- What can happen. -/
inductive SidecarAction where
  /-- `Poll` returns captures. -/
  | arrive (results : List PythonFallbackResult)
  /-- A segment is processed. -/
  | segment (perf : PerfWindow)
  /-- The segments of the last drain: the first one takes all captures that wait. -/
  | drain (perfs : List PerfWindow)

namespace SidecarWorld

/-- Segments of the last drain. -/
def drained (pending : List Sidecar) : List PerfWindow → List StrictWindow
  | [] => []
  | first :: rest => strictWindow pending first :: rest.map (strictWindow [])

/-- One step; nothing follows the last drain. -/
def step (w : SidecarWorld) : SidecarAction → Option SidecarWorld
  | .arrive results =>
    if w.stopped then none
    else
      some { w with
        pending := w.pending ++ results.zipIdx.map fun (result, index) =>
          { tag := w.arrived.length + index, result }
        arrived := w.arrived ++ results }
  | .segment perf =>
    if w.stopped then none
    else
      some { w with
        pending := keepSidecars w.pending perf
        windows := w.windows ++ [strictWindow w.pending perf] }
  | .drain perfs =>
    if w.stopped then none
    else
      some { w with
        pending := if perfs = [] then w.pending else []
        windows := w.windows ++ drained w.pending perfs
        stopped := true }

end SidecarWorld

end MiniDrop.Agent
