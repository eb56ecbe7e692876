import Mathlib.Algebra.Ring.Nat
import Mathlib.Data.List.Basic
/-!
# Samples of processes

The payloads that the strict and the degraded collectors share. A process is known by its number,
its start and its executable; a sample without one of them belongs to no process.
-/
namespace MiniDrop.Agent

/-- `isspace` in the C locale. -/
def isSpace (c : Char) : Bool := c = ' ' || ('\t' ≤ c && c ≤ '\r')

/-- `kMaxDBCount`, the largest count a column holds. -/
def kMaxDBCount : Nat := 2 ^ 63 - 1

/-- A count that is cut at the largest one. -/
def clampCount (value : Nat) : Nat := if value > kMaxDBCount then kMaxDBCount else value

/-- A sum that is cut there. -/
def addCount (total value : Nat) : Nat :=
  if total ≥ kMaxDBCount ∨ clampCount value ≥ kMaxDBCount then kMaxDBCount
  else if total > kMaxDBCount - clampCount value then kMaxDBCount
  else total + clampCount value

/-- `ContinuousTargetProcess`: a process that a selector has picked. -/
structure ContinuousTargetProcess where
  (pid processStartMs : Int := 0)
  (comm exe cgroup containerId : String := "")
  deriving DecidableEq

/-- A process, by its number, its start and its program. -/
structure ProcessIdentity where
  (pid processStartMs : Int)
  exe : String
  deriving DecidableEq

/-- All three are known. -/
def ProcessIdentity.complete (identity : ProcessIdentity) : Bool :=
  0 < identity.pid && 0 < identity.processStartMs && identity.exe ≠ ""

/-- The process is one of the targets. -/
def identityTargeted (targets : List ContinuousTargetProcess) (identity : ProcessIdentity) : Bool :=
  identity.complete && targets.any fun target =>
    target.pid = identity.pid && 0 < target.processStartMs && target.exe ≠ "" &&
      identity.processStartMs = target.processStartMs && identity.exe = target.exe

/-- A frame of a stack, with its file. -/
structure ContinuousStackFrame where
  (function raw file : String := "")
  line : Int := 0
  address : Nat := 0
  (mappingFile buildId : String := "")
  normalizedOffset : Nat := 0
  resolved : Bool := false
  deriving DecidableEq

/-- A stack of a process and how often it was seen. -/
structure AggregatedSample where
  stack : List String := []
  frames : List ContinuousStackFrame := []
  comm : String := ""
  (pid processStartMs : Int := 0)
  (exe stackScope backend runtime : String := "")
  count : Nat := 0
  deriving DecidableEq

/-- The process of a sample. -/
def AggregatedSample.identity (sample : AggregatedSample) : ProcessIdentity :=
  ⟨sample.pid, sample.processStartMs, sample.exe⟩

/-- A stack that `py-spy` reports. -/
structure PythonStackSample where
  stack : List String := []
  count : Nat := 0
  deriving DecidableEq

/-- `PythonFallbackResult`: what a capture with py-spy has returned. -/
structure PythonFallbackResult where
  (pid startMs : Int := 0)
  (comm exe : String := "")
  (ready nativeStacks : Bool := false)
  (reason warning : String := "")
  samples : List PythonStackSample := []
  (captureStartMs captureEndMs : Int := 0)
  deriving DecidableEq

end MiniDrop.Agent
