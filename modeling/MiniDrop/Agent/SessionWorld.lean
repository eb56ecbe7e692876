import MiniDrop.Agent.SessionManager
import Mathlib.Data.List.Infix
/-!
# Runs of the session manager

The manager thread scans, refreshes, advances the sessions that stop and reconciles with the server;
between and beside its steps the collectors write their sessions' windows into the spool and upload
them. The request to the server and the answer to it are two steps.
-/
namespace MiniDrop.Agent

/-- What the agent does about a session. -/
inductive AgentEvent
  | asked (sid : String)
  | reported (sid : String)
  | persisted (sid : String)
  | uploaded (sid : String)

/-- What a collector does to the spool. -/
inductive CollectorOp
  | recover
  | persist (body : BatchBody Nat)
  | finalize (sessionSID batchID : String)
  | drain (sessionSID : String) (outcome : PostOutcome)

/-- A collector works for its own sessions, and writes windows only while it owns the output. -/
def CollectorOp.allowed (sids : List String) (owning : Bool) : CollectorOp → Bool
  | .recover => true
  | .persist body => owning && body.sessionSID ∈ sids
  | .finalize sid _ => sid ∈ sids
  | .drain sid _ => sid ∈ sids

/-- A thread that collects. -/
inductive Worker
  | engine
  | replacement
  | database (sid : String)
  deriving DecidableEq

/-- How the start of a replacement goes: the directories that cannot be made, what the collectors do
in the meantime, whether the replacement gets ready, and its flags then. -/
structure Startup where
  unwritable : List String := []
  work : List (Worker × CollectorOp) := []
  (ready strict : Bool := true)
  failed : Bool := false
  degradationReason : String := ""

/-- The manager, the processes of its latest scan, whether it waits for an answer, the spool, and
what was done, the latest first. -/
structure SessionWorld where
  runtimes : List (String × SessionRuntime) := []
  stoppingRuntimes : List (String × StoppingRuntime) := []
  stoppedReports : List (String × StoppedReport) := []
  sharedSampler : Option SharedSampler := none
  sharedFingerprint : String := ""
  processes : List ContinuousTargetProcess := []
  (started awaiting : Bool := false)
  spool : Spool Nat := []
  log : List AgentEvent := []

/-! ## One session -/

namespace SessionRuntime

variable (runtime : SessionRuntime)

/-- `RefreshTargets`, for one session. -/
def refreshTargets (processes : List ContinuousTargetProcess) : SessionRuntime :=
  let targets := matchContinuousProcessesBySelector processes runtime.assignment
  if runtime.assignment.scope = "process" ∧ targets = [] then
    { runtime with
      targets := []
      observedState := .waiting
      effectiveContinuityMode := runtime.assignment.continuityMode
      degradationReason := selectorWaitingReason runtime.assignment
      lastError := "" }
  else if sameTargets runtime.targets targets then runtime
  else { runtime with targets }

/-- A replacement that has not come up. -/
def fail (error : String) : SessionRuntime :=
  if runtime.collects then { runtime with observedState := .error, lastError := error } else runtime

/-- `UpdateRuntimeEngineStatus`, for one session, under the reason that the collector gives. -/
def engineStatus (engine : SharedSampler) (engineDegradation : String) : SessionRuntime :=
  if !runtime.collects then runtime
  else if engine.failed then
    { runtime with
      observedState := .error
      effectiveContinuityMode := runtime.assignment.continuityMode
      degradationReason := ""
      lastError := engine.degradationReason }
  else
    { runtime with
      observedState := if engineDegradation = "" ∧ engine.strict then .running else .degraded
      effectiveContinuityMode := if engine.strict then "strict" else "degraded"
      lastError := ""
      degradationReason := engineDegradation }

/-- `DBSnapshotSampler::Start` refuses the configuration. -/
def dbRefused (unwritable : List String) (config : ContinuousSamplerConfig) : Bool :=
  config.aggregationWindowSec ≤ 0 || config.uploadBatchSec ≤ 0 || config.sessionSID = "" ||
    config.apiBaseURL = "" || config.authUID = "" || config.dbTargets = [] ||
    safeSpoolComponent config.sessionSID ∈ unwritable

def reconcileDBSampler (settings : ManagerSettings) (unwritable : List String) : SessionRuntime :=
  let config := settings.buildSamplerConfig runtime
  if runtime.assignment.dbTargets = [] ∨
      ¬ logicalSignalRequested runtime.assignment.requestedSignals "db_snapshot" then
    { runtime with dbSampler := none }
  else if runtime.dbSampler.any (·.running) then runtime
  else if dbRefused unwritable config then { runtime with dbSampler := none }
  else { runtime with dbSampler := some { config } }

/-- The assignment of a session that is to run. -/
def assign (settings : ManagerSettings) (unwritable : List String)
    (assignment : ContinuousAssignment) :
    SessionRuntime :=
  let mode := if runtime.observedState = .pending then assignment.continuityMode
    else runtime.effectiveContinuityMode
  reconcileDBSampler { runtime with assignment, effectiveContinuityMode := mode } settings
    unwritable

end SessionRuntime

/-- `SharedDualTrackContinuousSampler::Start`: what it refuses the sessions for. -/
def refuseSessions (unwritable : List String) :
    List String → List ContinuousSamplerConfig → Option String
  | _, [] => none
  | sids, config :: rest =>
    if config.sessionSID = "" ∨ config.apiBaseURL = "" ∨ config.authUID = "" ∨
        config.sampleRateHz ≤ 0 ∨ config.aggregationWindowSec ≤ 0 ∨ config.uploadBatchSec ≤ 0 then
      some "invalid shared continuous Session config"
    else if config.sessionSID ∈ sids then some "duplicate Session in shared continuous engine"
    else if safeSpoolComponent config.sessionSID ∈ unwritable then
      some "continuous spool directory is not writable"
    else refuseSessions unwritable (config.sessionSID :: sids) rest

/-- The reason that `UpdateRuntimeEngineStatus` gives for a collector that is not strict. -/
def SharedSampler.engineDegradation (engine : SharedSampler)
    (configs : List ContinuousSamplerConfig) : String :=
  let sharedProcessFallback := 1 < configs.length && configs.head?.any (·.scope = "process")
  if !engine.strict && sharedProcessFallback &&
      !decide ("spool backpressure".toList <:+: engine.degradationReason.toList) then
    "CPU is collected once for the union TGID set and isolated by PID/start time; " ++
      "rolling bpftrace histograms are unavailable because this fallback cannot safely " ++
      "attribute them across selectors"
  else engine.degradationReason

/-! ## The collectors -/

namespace SessionWorld

/-- The sessions that a collector works for, if it is there. -/
def sidsOf (w : SessionWorld) (replacement : Option (List ContinuousSamplerConfig)) :
    Worker → Option (List String)
  | .engine =>
    (w.sharedSampler.filter (·.alive)).map fun engine => engine.sessions.map (·.sessionSID)
  | .replacement => replacement.map fun configs => configs.map (·.sessionSID)
  | .database sid =>
    ((w.runtimes.lookup sid).bind (·.dbSampler)).filter (·.alive) |>.map fun sampler =>
      [sampler.config.sessionSID]

/-- A collector has done something to the spool. -/
def collect (w : SessionWorld) : CollectorOp → SessionWorld
  | .recover => { w with spool := Spool.recoverSpoolJournals w.spool }
  | .persist body =>
    { w with spool := Spool.persistBatch w.spool body, log := .persisted body.sessionSID :: w.log }
  | .finalize sid batchID => { w with spool := Spool.finalizeBatch w.spool sid batchID }
  | .drain sid outcome =>
    let drained := Spool.drainOneSpooledBatch w.spool sid outcome
    { w with spool := drained.1, log := drained.2.map (.uploaded ·.sessionSID) ++ w.log }

/-- A step of a collector. A replacement writes no windows while it stands by. -/
def work (replacement : Option (List ContinuousSamplerConfig)) (owning : Bool) (w : SessionWorld)
    (job : Worker × CollectorOp) : Option SessionWorld :=
  (w.sidsOf replacement job.1).bind fun sids =>
    if job.2.allowed sids (job.1 ≠ .replacement || owning) then some (w.collect job.2) else none

/-- Steps of the collectors beside a step of the manager. -/
def workAll (replacement : Option (List ContinuousSamplerConfig)) (owning : Bool) :
    List (Worker × CollectorOp) → SessionWorld → Option SessionWorld
  | [], w => some w
  | job :: rest, w => (work replacement owning w job).bind (workAll replacement owning rest)

/-! ## The manager -/

/-- Every session is put through a function. -/
def mapRuntimes (w : SessionWorld) (f : SessionRuntime → SessionRuntime) : SessionWorld :=
  { w with runtimes := w.runtimes.map fun entry => (entry.1, f entry.2) }

def updateRuntimeEngineStatus (w : SessionWorld) (engine : SharedSampler)
    (configs : List ContinuousSamplerConfig) : SessionWorld :=
  w.mapRuntimes (·.engineStatus engine (engine.engineDegradation configs))

/-- The replacement is ready, or the first collector is: it takes over. -/
def takeOver (w : SessionWorld) (configs : List ContinuousSamplerConfig) (next : String)
    (startup : Startup) :
    SessionWorld :=
  let engine : SharedSampler := {
    sessions := configs
    strict := startup.strict
    failed := startup.failed
    degradationReason := startup.degradationReason }
  ({ w with sharedSampler := some engine, sharedFingerprint := next }).updateRuntimeEngineStatus
    engine configs

def rebuildSharedEngine (settings : ManagerSettings) (startup : Startup) (w : SessionWorld) :
    Option SessionWorld :=
  let configs := settings.configs w.runtimes
  let next := fingerprint w.runtimes
  if configs = [] then
    (workAll none false startup.work w).map fun w =>
      { w with sharedSampler := none, sharedFingerprint := "" }
  else
    match w.sharedSampler.filter fun engine => engine.running && w.sharedFingerprint = next with
    | some engine => some (w.updateRuntimeEngineStatus engine configs)
    | none =>
      let hasPrevious := w.sharedSampler.any (·.running)
      match refuseSessions startup.unwritable [] configs with
      | some error => some (w.mapRuntimes (·.fail error))
      | none =>
        (workAll (some configs) (startup.ready || !hasPrevious) startup.work w).map fun w =>
          if startup.ready then w.takeOver configs next startup
          else w.mapRuntimes (·.fail "replacement continuous collector did not become ready")

def refreshTargets (settings : ManagerSettings) (startup : Startup) (w : SessionWorld) :
    Option SessionWorld :=
  (w.mapRuntimes (·.refreshTargets w.processes)).rebuildSharedEngine settings startup

/-- `ApplyAssignments`, for one assignment. -/
def applyAssignment (settings : ManagerSettings) (unwritable : List String) (w : SessionWorld)
    (assignment : ContinuousAssignment) : SessionWorld :=
  let existing := w.runtimes.lookup assignment.sid
  if assignment.desiredState = "stopped" then
    if (w.stoppedReports.lookup assignment.sid).isSome ∨
      (w.stoppingRuntimes.lookup assignment.sid).isSome then w
    else
      let stopping : StoppingRuntime := match existing with
        | some runtime => {
            samplerConfig := settings.buildSamplerConfig runtime
            continuityMode := runtime.effectiveContinuityMode
            degradationReason := runtime.degradationReason }
        | none => {
            samplerConfig := settings.buildSamplerConfig { assignment }
            continuityMode := assignment.continuityMode }
      { w with
        stoppingRuntimes := Base.enter w.stoppingRuntimes assignment.sid stopping
        runtimes := Base.release w.runtimes assignment.sid }
  else
    let runtime := existing.getD { assignment }
    { w with
      runtimes := Base.enter w.runtimes assignment.sid
        (runtime.assign settings unwritable assignment) }

/-- `ApplyAssignments`: what the answer does not name goes. -/
def applyAssignments (settings : ManagerSettings) (startup : Startup)
    (assignments : List ContinuousAssignment) (w : SessionWorld) : Option SessionWorld :=
  let applied := assignments.foldl (applyAssignment settings startup.unwritable) w
  let authoritative (sid : String) : Bool := assignments.any (·.sid = sid)
  refreshTargets settings startup { applied with
    runtimes := applied.runtimes.filter fun entry => authoritative entry.1
    stoppingRuntimes := applied.stoppingRuntimes.filter fun entry => authoritative entry.1 }

/-- `AdvanceStoppingSessions`, from one of the sessions on: one upload is attempted in a round. It
returns the sessions that go on stopping. -/
def advanceFrom (posts : List PostOutcome) :
    Bool → List (String × StoppingRuntime) → SessionWorld →
    SessionWorld × List (String × StoppingRuntime)
  | _, [], w => (w, [])
  | attempted, (sid, stopping) :: rest, w =>
    let target := stopping.samplerConfig.sessionSID
    let late :=
      { stopping with lastError := "final batch upload pending; retrying from Session spool" }
    let report (w : SessionWorld) : SessionWorld := { w with
      stoppedReports := Base.enter w.stoppedReports sid
        ⟨stopping.continuityMode, stopping.degradationReason⟩ }
    if !Spool.hasPendingSpool w.spool target then advanceFrom posts attempted rest (report w)
    else if attempted then
      let others := advanceFrom posts attempted rest w
      (others.1, (sid, late) :: others.2)
    else
      let drained := Spool.drainOneContinuousSessionBatch target posts w.spool
      let sent := { w with
        spool := drained.1
        log := (drained.2.1.map (AgentEvent.uploaded ·.sessionSID)).reverse ++ w.log }
      if !drained.2.2 || Spool.hasPendingSpool drained.1 target then
        let others := advanceFrom posts true rest sent
        (others.1, (sid, late) :: others.2)
      else advanceFrom posts true rest (report sent)

def advanceStoppingSessions (posts : List PostOutcome) (w : SessionWorld) : SessionWorld :=
  let advanced := advanceFrom posts false w.stoppingRuntimes w
  { advanced.1 with stoppingRuntimes := advanced.2 }

/-- The sessions that assignments ask to run. -/
def askedBy (assignments : List ContinuousAssignment) : List AgentEvent :=
  (assignments.filter (·.desiredState ≠ "stopped")).map (.asked ·.sid)

/-- Assignments have come from the server, or from the cache. -/
def receive (settings : ManagerSettings) (startup : Startup)
    (assignments : List ContinuousAssignment) (w : SessionWorld) : Option SessionWorld :=
  applyAssignments settings startup assignments { w with log := askedBy assignments ++ w.log }

end SessionWorld

/-- The steps of the manager thread, of the collectors, and of the flags of the collectors. -/
inductive SessionAction
  | start (cached : Option (List ContinuousAssignment)) (processes : List ContinuousTargetProcess)
      (startup : Startup)
  | refresh (processes : List ContinuousTargetProcess) (startup : Startup)
  | advance (posts : List PostOutcome)
  | report
  | respond (assignments : Option (List ContinuousAssignment)) (startup : Startup)
  | work (worker : Worker) (op : CollectorOp)
  | engineFlags (running strict failed alive : Bool) (degradationReason : String)
  | databaseFlags (sid : String) (alive : Bool)

namespace SessionWorld

/-- One step. -/
def step (settings : ManagerSettings) (w : SessionWorld) : SessionAction → Option SessionWorld
  | .start cached processes startup =>
    if w.started then none
    else match cached with
      | none => some { w with started := true }
      | some assignments =>
        receive settings startup assignments { w with started := true, processes }
  | .refresh processes startup =>
    if w.started && !w.awaiting then refreshTargets settings startup { w with processes } else none
  | .advance posts =>
    if w.started && !w.awaiting then some (w.advanceStoppingSessions posts) else none
  | .report =>
    if w.started && !w.awaiting then
      some { w with awaiting := true, log := w.stoppedReports.map (.reported ·.1) ++ w.log }
    else none
  | .respond answer startup =>
    if w.awaiting then
      match answer with
      | none => some { w with awaiting := false }
      | some assignments =>
        (receive settings startup assignments { w with awaiting := false }).map fun w =>
          { w with stoppedReports := [] }
    else none
  | .work worker op => work none false w (worker, op)
  | .engineFlags running strict failed alive degradationReason =>
    -- A thread that has ended does not come back.
    match w.sharedSampler with
    | none => none
    | some engine =>
      some { w with sharedSampler := some { engine with
        running := engine.running && running
        strict, failed, degradationReason
        alive := engine.alive && alive } }
  | .databaseFlags sid alive =>
    some (w.mapRuntimes fun runtime =>
      if runtime.assignment.sid = sid then
        { runtime with dbSampler := runtime.dbSampler.map fun sampler =>
            { sampler with running := false, alive := sampler.alive && alive } }
      else runtime)

end SessionWorld

end MiniDrop.Agent
