/-!
# Slots of latencies

The kernel counts a latency in a slot, for which the sampler has a bucket.
-/
namespace MiniDrop.Agent

/-- The bounds that `latency_slot` compares with. -/
def latencyBounds : List Nat :=
  [1, 2, 4, 8, 16, 32, 64, 128, 256, 512, 1024, 2048, 4096, 8192, 16384]

/-- Each bound that the latency is above sets the slot. -/
def latencySlot (latencyUs : Nat) : Nat :=
  (latencyBounds.zipIdx 1).foldl
    (fun slot (bound, index) => if latencyUs > bound then index else slot) 0

/-- The slot that `record_latency` counts a latency in. -/
def recordedSlot (deltaNs : Nat) : Nat := latencySlot (deltaNs / 1000)

/-- The lower bound of a slot. -/
def strictHistogramLow (slot : Nat) : Nat :=
  [0, 1, 2, 4, 8, 16, 32, 64, 128, 256, 512, 1024, 2048, 4096, 8192, 16384].getD (min slot 15) 0

/-- A bucket, with exact bounds. -/
structure LatencyBucket where
  (low high : Nat)
  range : String

/-- The bucket of a slot in `append_core_histograms`. -/
def slotBucket (slot : Nat) : LatencyBucket :=
  let low := strictHistogramLow slot
  let high := if slot ≥ 15 then low else strictHistogramLow (slot + 1)
  { low, high, range := "[" ++ toString low ++ ", " ++ toString high ++ ")" }

end MiniDrop.Agent
