import MiniDrop.Base.Keyed
import MiniDrop.Base.Tables
/-!
# The targets of the kernel collector

`CoreEbpfCollector` keeps two maps of the kernel: the thread groups that are observed, and the
thread group of each thread. It takes out what it remembers of its last call, which it remembers
only if the call succeeds.
-/
namespace MiniDrop.Agent

open Base

/-- A target of a call, with the threads that the two scans of its `task` directory list. -/
structure ScannedTarget where
  pid : Int
  (first second : List Nat)
  deriving DecidableEq

/-- The maps `target_tgids` and `target_tids`, and what the collector remembers. -/
structure CoreTargets where
  tgidMap : List Nat := []
  tidMap : List (Nat × Nat) := []
  hostWildcard : Bool := false
  (targetIds targetTids : List Nat := [])

/-- The targets that are processes. -/
def positiveTargets (targets : List ScannedTarget) : List ScannedTarget :=
  targets.filter fun target => 0 < target.pid

/-- `process_tids`. -/
def processTids (targets : List ScannedTarget) : List Nat :=
  orderBy id (distinct ((positiveTargets targets).flatMap (·.first)))

namespace CoreTargets

/-- `SetHostWildcard`. -/
def setHostWildcard (w : CoreTargets) (hostWildcard : Bool) : CoreTargets := { w with hostWildcard }

/-- The thread groups of a call, where 0 stands for the host. -/
def nextIds (w : CoreTargets) (targets : List ScannedTarget) : List Nat :=
  let pids := (positiveTargets targets).map (·.pid.toNat)
  orderBy id (distinct (if pids.isEmpty || w.hostWildcard then pids ++ [0] else pids))

/-- `UpdateTargets` and whether it succeeds. A number of updates of each map succeed before one
fails. -/
def updateTargets (w : CoreTargets) (targets : List ScannedTarget) (tgidUpdates tidUpdates : Nat) :
    CoreTargets × Bool :=
  let next := w.nextIds targets
  let keptIds := w.tgidMap.filter fun id => !w.targetIds.contains id || next.contains id
  let tgidMap := keptIds ∪ next.take tgidUpdates
  if next.length ≤ tgidUpdates then
    let nextTids := processTids targets
    let keptTids := w.tidMap.filter fun entry =>
      !w.targetTids.contains entry.1 || nextTids.contains entry.1
    let entries := (positiveTargets targets).flatMap fun target =>
      target.second.map (·, target.pid.toNat)
    let tidMap := (entries.take tidUpdates).foldl
      (fun table entry => place table entry.1 entry.2) keptTids
    if entries.length ≤ tidUpdates then
      ({ w with tgidMap, tidMap, targetIds := next, targetTids := nextTids }, true)
    else ({ w with tgidMap, tidMap, targetIds := next }, false)
  else ({ w with tgidMap }, false)

end CoreTargets

/-- A call of the collector. -/
inductive CoreCall where
  | setHostWildcard (hostWildcard : Bool)
  | updateTargets (targets : List ScannedTarget) (tgidUpdates tidUpdates : Nat)

/-- The maps after a call. -/
def CoreCall.run (w : CoreTargets) : CoreCall → CoreTargets
  | .setHostWildcard hostWildcard => w.setHostWildcard hostWildcard
  | .updateTargets targets tgidUpdates tidUpdates =>
    (w.updateTargets targets tgidUpdates tidUpdates).1

end MiniDrop.Agent
