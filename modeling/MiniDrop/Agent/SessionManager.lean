import MiniDrop.Agent.Spool
import MiniDrop.Agent.SymbolRefs
import MiniDrop.Base.Runs
/-!
# The session manager of the agent

The agent scans the processes, matches them with the selectors of its sessions and keeps one shared
collector for all of them. When what it has to collect changes, a replacement is started beside the
running collector and takes over once it is ready. A session that is to stop is reported as stopped
when its spool is empty.
-/
namespace MiniDrop.Agent

structure DBTargetConfig where
  instanceLabel : String := ""
  deriving DecidableEq

structure ContinuousAssignment where
  sid : String
  scope : String := "host"
  selectorExe : String := ""
  selectorMode : String := "exe_all_instances"
  (selectorPid selectorProcessStartMs : Int := 0)
  (selectorCgroup selectorContainerId : String := "")
  desiredState : String := "running"
  continuityMode : String := "degraded"
  allowDegraded : Bool := false
  revision : Nat := 0
  sampleRateHz : Int := 19
  aggregationWindowSec : Int := 10
  uploadBatchSec : Int := 60
  retentionHours : Int := 24
  requestedSignals : List String := []
  dbTargets : List DBTargetConfig := []
  deriving DecidableEq

/-- `ContinuousSamplerConfig`, as the manager builds it from an assignment; of its own settings it
gives the address and the user of the server. -/
structure ContinuousSamplerConfig where
  (sampleRateHz aggregationWindowSec uploadBatchSec retentionHours : Int)
  (sessionSID apiBaseURL authUID scope selectorExe selectorMode : String)
  (selectorPid selectorProcessStartMs : Int)
  (selectorCgroup selectorContainerId signals : String)
  requestedSignals : List String
  allowDegraded : Bool
  targetProcesses : List ContinuousTargetProcess
  dbTargets : List DBTargetConfig

/-- What the manager is started with. -/
structure ManagerSettings where
  (apiBaseURL authUID : String := "")

inductive ObservedState
  | pending
  | waiting
  | running
  | degraded
  | error
  | stopped
  deriving DecidableEq

/-- A `DBSnapshotSampler` that was started: its flag, and whether its thread still works. -/
structure DBSnapshotSampler where
  config : ContinuousSamplerConfig
  (running alive : Bool := true)

/-- `Runtime`. -/
structure SessionRuntime where
  assignment : ContinuousAssignment
  targets : List ContinuousTargetProcess := []
  observedState : ObservedState := .pending
  effectiveContinuityMode : String := "degraded"
  (degradationReason lastError : String := "")
  dbSampler : Option DBSnapshotSampler := none

structure StoppingRuntime where
  samplerConfig : ContinuousSamplerConfig
  continuityMode : String := "degraded"
  (degradationReason lastError : String := "")

structure StoppedReport where
  continuityMode : String := "degraded"
  degradationReason : String := ""

/-- A `SharedDualTrackContinuousSampler` that was started: the sessions it was given, its flags, and
whether its thread still works. -/
structure SharedSampler where
  sessions : List ContinuousSamplerConfig
  running : Bool := true
  (strict failed : Bool := false)
  degradationReason : String := ""
  alive : Bool := true

/-! ## Selectors -/

/-- The processes of one selector, by its mode. -/
def ContinuousAssignment.selects (assignment : ContinuousAssignment)
    (process : ContinuousTargetProcess) : Bool :=
  if assignment.selectorMode = "pid_instance" then
    process.pid = assignment.selectorPid &&
      process.processStartMs = assignment.selectorProcessStartMs &&
      assignment.selectorExe ≠ "" && process.exe = assignment.selectorExe
  else if assignment.selectorMode = "cgroup" then
    assignment.selectorCgroup ≠ "" &&
      (process.cgroup = assignment.selectorCgroup ||
        -- A descendant has the path of the selector and a slash after it.
        (assignment.selectorCgroup.toList ++ ['/']).isPrefixOf process.cgroup.toList)
  else if assignment.selectorMode = "container_id" then
    assignment.selectorContainerId ≠ "" && process.containerId = assignment.selectorContainerId
  else assignment.selectorExe ≠ "" && process.exe = assignment.selectorExe

def matchContinuousProcessesBySelector (processes : List ContinuousTargetProcess)
    (assignment : ContinuousAssignment) : List ContinuousTargetProcess :=
  if assignment.scope ≠ "process" then [] else processes.filter assignment.selects

/-- `same_targets`: the number and the start of each process. -/
def sameTargets (left right : List ContinuousTargetProcess) : Bool :=
  left.map (fun target => (target.pid, target.processStartMs)) =
    right.map (fun target => (target.pid, target.processStartMs))

def selectorWaitingReason (assignment : ContinuousAssignment) : String :=
  if assignment.selectorMode = "pid_instance" then
    "target pid " ++ toString assignment.selectorPid ++
      " is not currently present; collection stays waiting and will NOT follow a reused PID " ++
      "or a new process at the same path"
  else if assignment.selectorMode = "cgroup" then
    "no process currently matches cgroup " ++ assignment.selectorCgroup ++
      "; collection will resume when a process joins the cgroup"
  else if assignment.selectorMode = "container_id" then
    "no process currently matches container_id " ++ assignment.selectorContainerId ++
      "; collection will resume when a process in the container is visible"
  else "target exe is not currently present; collection will resume when any instance returns"

/-! ## Signals -/

/-- The signals of an assignment that names none. -/
def defaultSignals : List String :=
  ["cpu_profile", "io_latency", "io_syscall_latency", "sched_latency"]

def signalNameMap : List (String × String) :=
  [("cpu", "cpu_profile"), ("io", "io_latency"), ("io_syscall", "io_syscall_latency"),
    ("sched", "sched_latency")]

def physicalSignalsFromRequested (requested : List String) : String :=
  if requested = [] then "cpu,io,io_syscall,sched"
  else ",".intercalate (requested.filterMap fun logical =>
    (signalNameMap.find? fun entry => entry.2 = logical).map Prod.fst)

/-! ## Configurations -/

/-- The session has something to collect: a process session without targets waits. -/
def SessionRuntime.collects (runtime : SessionRuntime) : Bool :=
  !(runtime.assignment.scope = "process" && runtime.targets = [])

def ManagerSettings.buildSamplerConfig (settings : ManagerSettings) (runtime : SessionRuntime) :
    ContinuousSamplerConfig :=
  let requestedSignals :=
    if runtime.assignment.requestedSignals = [] then defaultSignals
      else runtime.assignment.requestedSignals
  { sampleRateHz := runtime.assignment.sampleRateHz
    aggregationWindowSec := runtime.assignment.aggregationWindowSec
    uploadBatchSec := runtime.assignment.uploadBatchSec
    retentionHours := runtime.assignment.retentionHours
    sessionSID := runtime.assignment.sid
    apiBaseURL := settings.apiBaseURL
    authUID := settings.authUID
    scope := runtime.assignment.scope
    selectorExe := runtime.assignment.selectorExe
    selectorMode := runtime.assignment.selectorMode
    selectorPid := runtime.assignment.selectorPid
    selectorProcessStartMs := runtime.assignment.selectorProcessStartMs
    selectorCgroup := runtime.assignment.selectorCgroup
    selectorContainerId := runtime.assignment.selectorContainerId
    signals := physicalSignalsFromRequested requestedSignals
    requestedSignals
    allowDegraded := runtime.assignment.allowDegraded ||
      runtime.assignment.continuityMode = "degraded"
    targetProcesses := runtime.targets
    dbTargets := runtime.assignment.dbTargets }

/-- The sessions that have something to collect, in the order of the table. -/
def collecting (runtimes : List (String × SessionRuntime)) : List (String × SessionRuntime) :=
  runtimes.filter fun entry => entry.2.collects

/-- The configurations of the shared collector. -/
def ManagerSettings.configs (settings : ManagerSettings)
    (runtimes : List (String × SessionRuntime)) : List ContinuousSamplerConfig :=
  (collecting runtimes).map fun entry => settings.buildSamplerConfig entry.2

/-- What the fingerprint says about one session. -/
def SessionRuntime.fingerprint (sid : String) (runtime : SessionRuntime) : String :=
  sid ++ "|" ++ toString runtime.assignment.revision ++ "|" ++ runtime.assignment.scope ++ "|" ++
    runtime.assignment.continuityMode ++ "|" ++
    (if runtime.assignment.allowDegraded then "1" else "0") ++ "|" ++
    toString runtime.assignment.sampleRateHz ++ "|" ++
      toString runtime.assignment.aggregationWindowSec ++ "|" ++
    toString runtime.assignment.uploadBatchSec ++ "|" ++ runtime.assignment.selectorMode ++ "|" ++
    toString runtime.assignment.selectorPid ++ "|" ++
      toString runtime.assignment.selectorProcessStartMs ++ "|" ++
    runtime.assignment.selectorCgroup ++ "|" ++ runtime.assignment.selectorContainerId ++ "|" ++
    String.join (runtime.assignment.requestedSignals.map (· ++ ",")) ++ ";" ++
    String.join (runtime.targets.map fun target =>
      toString target.pid ++ ":" ++ toString target.processStartMs ++ ",")

/-- The fingerprint of what the shared collector has to collect. -/
def fingerprint (runtimes : List (String × SessionRuntime)) : String :=
  String.join ((collecting runtimes).map fun entry => entry.2.fingerprint entry.1)

/-! ## Labels

The labels of an assignment come as bytes in the base 64. -/

/-- The characters of the values from 0 to 63. -/
def kAlphabet : List Char :=
  "ABCDEFGHIJKLMNOPQRSTUVWXYZabcdefghijklmnopqrstuvwxyz0123456789+/".toList

/-- What `base64_decode` holds between two characters. -/
structure Decoder where
  bits : Int := 0
  bitCount : Nat := 0
  out : List UInt8 := []

/-- A character of the alphabet. The accumulator has 32 bits, and the shift leaves the low six of
them free for the value. -/
def Decoder.push (state : Decoder) (value : Nat) : Decoder :=
  let bits : Int := (state.bits * 2 ^ 6 + 2 ^ 31) % 2 ^ 32 - 2 ^ 31 + value
  let bitCount := state.bitCount + 6
  if bitCount ≥ 8 then
    { bits, bitCount := bitCount - 8, out := state.out ++
      [UInt8.ofNat (bits / 2 ^ (bitCount - 8) % 256).toNat] }
  else { state with bits, bitCount }

def Decoder.read (state : Decoder) (c : Char) : Decoder :=
  if c = '=' ∨ c = '\n' ∨ c = '\r' then state
  else (kAlphabet.idxOf? c).elim state state.push

def base64Decode (encoded : List Char) : List UInt8 := (encoded.foldl Decoder.read {}).out

end MiniDrop.Agent
