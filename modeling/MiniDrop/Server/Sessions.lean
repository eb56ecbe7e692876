import MiniDrop.Base.Runs
import MiniDrop.Server.Ingest
/-!
# Continuous sessions

The control plane keeps one row per session and one row per reporting agent. A creation normalises
and checks the request, then admits the session in a transaction that locks the agent row and the
agent's state row. A stop sets the desired state in a transaction that locks the session row. An
agent's reconcile report rewrites the observed columns of the sessions it names.
-/
namespace MiniDrop

/-- The desired state column. -/
inductive DesiredState where
  | running
  | stopped
  deriving DecidableEq

/-- The observed state column. -/
inductive ObservedState where
  | pending
  | running
  | waiting
  | degraded
  | stopping
  | stopped
  | error
  | offline
  deriving DecidableEq

/-- The status column of a session. -/
inductive SessionStatus where
  | running
  | stopped
  | legacy
  deriving DecidableEq

structure ContinuousSelectorParams where
  (pid processStartMs : Int := 0)
  (exe cgroup containerID : String := "")
  deriving DecidableEq

structure ContinuousProcessReport where
  (pid processStartMs : Int := 0)
  (comm exe : String := "")
  rssBytes : Nat := 0
  deriving DecidableEq

/-- `continuous_sessions`, with the columns the control plane reads and writes. The selector
parameters are the decoded column, absent when it holds `null`. -/
structure ContinuousSessionRow where
  id : Nat := 0
  (sid name targetIP hostname serviceName : String := "")
  (sampleRateHz aggregationWindowSec uploadBatchSec retentionHours : Nat := 0)
  status : SessionStatus := .running
  scope : String := "host"
  (selectorExe selectorMode : String := "")
  selectorParams : Option ContinuousSelectorParams := none
  signals : List String := []
  desiredState : DesiredState := .running
  observedState : ObservedState := .pending
  observedAt : Option Int := none
  activeProcesses : List ContinuousProcessReport := []
  continuityMode : String := ""
  allowDegraded : Bool := false
  (degradationReason lastError : String := "")
  stopRequestedAt : Option Int := none
  revision : Nat := 0
  (agentID uid userName : String := "")
  startedAt : Int := Time.zero
  stoppedAt : Option Int := none
  (createdAt updatedAt : Int := Time.zero)
  deriving DecidableEq

/-- `agent_info`, with the columns the control plane reads. -/
structure AgentInfo where
  id : Nat := 0
  (ipAddr agentID : String := "")
  lastSeen : Int := Time.zero

/-- `continuous_agent_states`: one row per target address. -/
structure ContinuousAgentState where
  (targetIP agentID : String := "")
  strictCapable : Bool := false
  revision : Nat := 0
  (observedAt updatedAt : Int := Time.zero)

/-- The tables of the session control plane. -/
structure SessionStore where
  agents : List AgentInfo := []
  agentStates : List ContinuousAgentState := []
  sessions : List ContinuousSessionRow := []
  /-- The next primary key of a session. -/
  nextID : Nat := 1

/-- An answer that refuses a request: the HTTP status and the message. -/
structure Refusal where
  status : Nat
  message : String

/-- `CreateContinuousSessionReq`, without the labels and capabilities, which are only stored. -/
structure CreateContinuousSessionReq where
  (name targetIP hostname serviceName : String := "")
  (sampleRateHz aggregationWindowSec uploadBatchSec retentionHours : Nat := 0)
  (scope selectorExe selectorMode : String := "")
  selectorParams : Option ContinuousSelectorParams := none
  signals : List String := []
  continuityMode : String := ""
  allowDegraded : Bool := false

/-- The message for a signal name the server does not know. -/
def unknownSignalMessage (signal : String) : String :=
  "未知信号类型: " ++ signal ++ "（支持 " ++ ", ".intercalate continuousAllSignals ++ "）"

/-- `strings.TrimSuffix` of `" (deleted)"`. -/
def trimDeletedSuffix (exe : String) : String :=
  if " (deleted)".toList.isSuffixOf exe.toList then
    String.ofList (exe.toList.take (exe.toList.length - " (deleted)".toList.length))
  else exe

/-- The text, or its replacement when it is empty. -/
def orDefault (value fallback : String) : String := if value = "" then fallback else value

/-- The number, or its replacement when it is zero. -/
def orDefaultNat (value fallback : Nat) : Nat := if value = 0 then fallback else value

/-- The part of `applyContinuousDefaults` that brings the selector into one form. -/
def normalizeSelector (exe mode : String) (params : Option ContinuousSelectorParams) :
    String × Option ContinuousSelectorParams :=
  match params with
  | some params =>
    let params := { params with
      exe := trimSpace params.exe
      cgroup := trimSpace params.cgroup
      -- The source lowers the identifier twice, which is lowering it once.
      containerID :=
        if mode = "container_id" then toLower (trimSpace params.containerID)
        else trimSpace params.containerID }
    (if params.exe ≠ "" then params.exe else exe, some params)
  | none => (exe, if exe ≠ "" then some { exe := exe } else none)

def applyContinuousDefaults (req : CreateContinuousSessionReq) :
    Except String CreateContinuousSessionReq := do
  let mode := orDefault (lowerTrim req.selectorMode) "all_instances"
  -- The old name of a mode is replaced by the new one.
  let mode := if mode = "all_instances" then "exe_all_instances" else mode
  let selector := normalizeSelector (trimDeletedSuffix (trimSpace req.selectorExe)) mode
    req.selectorParams
  let signals ← (normalizeContinuousRequestedSignals req.signals).mapError unknownSignalMessage
  return {
    name := trimSpace req.name
    targetIP := trimSpace req.targetIP
    hostname := trimSpace req.hostname
    serviceName := trimSpace req.serviceName
    sampleRateHz := orDefaultNat req.sampleRateHz 19
    aggregationWindowSec := orDefaultNat req.aggregationWindowSec 10
    uploadBatchSec := orDefaultNat req.uploadBatchSec 60
    retentionHours := orDefaultNat req.retentionHours 24
    scope := orDefault (lowerTrim req.scope) "host"
    selectorExe := selector.1
    selectorMode := mode
    selectorParams := selector.2
    signals := signals
    continuityMode := orDefault (lowerTrim req.continuityMode) "strict"
    allowDegraded := req.allowDegraded }

/-- The characters of a container identifier. -/
def isHexDigit (c : Char) : Bool :=
  ('0' ≤ c && c ≤ '9') || ('a' ≤ c && c ≤ 'f') || ('A' ≤ c && c ≤ 'F')

/-- The first refused check of a list, by its message. -/
def firstRefused (checks : List (Bool × String)) : Option String :=
  (checks.find? (·.1)).map (·.2)

/-- `validateContinuousSelector`: the message of the first check that fails. -/
def validateContinuousSelector (req : CreateContinuousSessionReq) : Option String :=
  let params := req.selectorParams
  if req.selectorMode = "pid_instance" then
    firstRefused [
      (params.all (·.pid ≤ 0), "pid_instance 必须提供 selector_params.pid"),
      (params.all (·.processStartMs ≤ 0), "pid_instance 必须提供 selector_params.process_start_ms"),
      (params.all fun p => p.exe = "" || !hasPrefix p.exe "/",
        "pid_instance 必须提供绝对路径 selector_params.exe")]
  else if req.selectorMode = "exe_all_instances" then
    firstRefused [
      (req.selectorExe = "" || !hasPrefix req.selectorExe "/",
        "进程持续任务必须提供绝对路径 selector_exe")]
  else if req.selectorMode = "cgroup" then
    firstRefused [
      (params.all (·.cgroup = ""), "cgroup 必须提供 selector_params.cgroup"),
      (params.all fun p => !hasPrefix p.cgroup "/", "cgroup 路径必须以 / 开头")]
  else if req.selectorMode = "container_id" then
    firstRefused [
      (params.all (·.containerID = ""), "container_id 必须提供 selector_params.container_id"),
      (params.all fun p => p.containerID.utf8ByteSize < 12 || p.containerID.utf8ByteSize > 64,
        "container_id 长度必须在 12 到 64 之间"),
      (params.all fun p => !p.containerID.toList.all isHexDigit,
        "container_id 必须是十六进制字符串")]
  else some "selector_mode 仅支持 pid_instance/exe_all_instances/cgroup/container_id"

/-- `validateContinuousCreateRequest`: the message of the first check that fails. -/
def validateContinuousCreateRequest (req : CreateContinuousSessionReq) : Option String :=
  if req.name = "" then some "name 不能为空"
  else if req.name.utf8ByteSize > 256 then some "name 不能超过 256 个字符"
  else if req.scope ≠ "host" ∧ req.scope ≠ "process" then some "scope 仅支持 host/process"
  else if req.scope = "process" ∧ validateContinuousSelector req ≠ none then
    validateContinuousSelector req
  else if req.sampleRateHz < 1 ∨ req.sampleRateHz > 999 then
    some "sample_rate_hz 必须在 1 到 999 之间"
  else if req.aggregationWindowSec < 5 ∨ req.aggregationWindowSec > 300 then
    some "aggregation_window_sec 必须在 5 到 300 之间"
  else if req.uploadBatchSec < req.aggregationWindowSec ∨ req.uploadBatchSec > 3600 then
    some "upload_batch_sec 必须不小于聚合窗口且不超过 3600"
  else if req.retentionHours < 1 ∨ req.retentionHours > 24 then
    some "retention_hours 必须在 1 到 24 之间（持续采集原始数据最长保留 24 小时）"
  else if req.continuityMode ≠ "strict" ∧ req.continuityMode ≠ "degraded" then
    some "continuity_mode 仅支持 strict/degraded"
  else none

/-- A request whose scope passed the checks. -/
theorem scope_of_valid {req : CreateContinuousSessionReq}
    (valid : validateContinuousCreateRequest req = none) :
    req.scope = "host" ∨ req.scope = "process" := by
  unfold validateContinuousCreateRequest at valid
  split_ifs at valid with _ _ unknown
  all_goals by_cases host : req.scope = "host"
  all_goals grind

/-- `continuousSelectorIdentity` of the selector columns. -/
def selectorIdentity (mode exe : String) (params : Option ContinuousSelectorParams) : String :=
  -- `parseContinuousSelectorParams`: an absent column reads as the zero value.
  let params := params.getD {}
  if mode = "pid_instance" then
    "pid_instance:" ++ toString params.pid ++ ":" ++ toString params.processStartMs ++ ":" ++
      params.exe
  else if mode = "cgroup" then "cgroup:" ++ params.cgroup
  else if mode = "container_id" then "container_id:" ++ params.containerID
  else "exe:" ++ exe

def continuousSelectorIdentity (session : ContinuousSessionRow) : String :=
  selectorIdentity session.selectorMode session.selectorExe session.selectorParams

/-- The identity a requested session will have. -/
def requestIdentity (req : CreateContinuousSessionReq) : String :=
  selectorIdentity req.selectorMode req.selectorExe req.selectorParams

/-- The conflicts of a new session with the active ones. -/
inductive ActiveSetConflict where
  | modeConflict
  | hostLimitReached
  | limitReached
  | duplicateSelector

/-- The session collects for the whole host; rows of the first release have no scope. -/
def ContinuousSessionRow.hostScoped (session : ContinuousSessionRow) : Bool :=
  session.scope = "host" || session.scope = ""

/-- The loop of `validateContinuousActiveSet` over the active sessions of a process request. -/
def checkActiveProcesses (identity : String) (processCount : Nat) :
    List ContinuousSessionRow → Option ActiveSetConflict
  | [] => if processCount ≥ 16 then some .limitReached else none
  | session :: rest =>
    if session.hostScoped then some .modeConflict
    else if continuousSelectorIdentity session = identity then some .duplicateSelector
    else checkActiveProcesses identity (processCount + 1) rest

def validateContinuousActiveSet (active : List ContinuousSessionRow)
    (req : CreateContinuousSessionReq) : Option ActiveSetConflict :=
  if req.scope = "host" then
    if active.any (·.hostScoped) then some .hostLimitReached
    else if active.length > 0 then some .modeConflict
    else none
  else checkActiveProcesses (requestIdentity req) 0 active

namespace SessionStore

variable (store : SessionStore)

/-- `Where("target_ip = ? AND desired_state = running")`. -/
def activeSessions (targetIP : String) : List ContinuousSessionRow :=
  store.sessions.filter fun session =>
    session.targetIP = targetIP && session.desiredState = .running

/-- The state row of a target address. -/
def agentState (targetIP : String) : Option ContinuousAgentState :=
  store.agentStates.find? (·.targetIP = targetIP)

/-- `Where("ip_addr = ?").Order("last_seen DESC").First`. -/
def agentAt (ip : String) : Option AgentInfo :=
  (Base.orderBy (fun agent => -agent.lastSeen) (store.agents.filter (·.ipAddr = ip))).head?

end SessionStore

/-- What surrounds a creation: the caller and the capacity check. -/
structure CreateContext where
  now : Int
  /-- The refusal of `canStartCollection`, if there is one. -/
  capacityRefusal : Option String := none
  /-- `canReadAgent` for the caller. -/
  canReadAgent : Bool := true
  (ownerUID userName : String := "")
  /-- The generated session identifier. -/
  newSID : String := ""

def errContinuousAgentUnavailable : String := "目标 Agent 尚未连接持续采集控制面"

/-- A creation that passed the checks made before its transaction. -/
structure PreparedSession where
  ctx : CreateContext
  req : CreateContinuousSessionReq
  agent : AgentInfo
  agentState : ContinuousAgentState
  /-- The request was accepted by `validateContinuousCreateRequest`. -/
  valid : validateContinuousCreateRequest req = none

/-- The row `createContinuousSession` inserts, before its key and revision are known. -/
def PreparedSession.session (prepared : PreparedSession) : ContinuousSessionRow :=
  let req := prepared.req
  let state := prepared.agentState
  { sid := prepared.ctx.newSID
    name := firstNonEmpty [req.name, "Native Continuous Profiling"]
    targetIP := req.targetIP
    hostname := req.hostname
    serviceName := firstNonEmpty [req.serviceName, "hotmethod"]
    sampleRateHz := req.sampleRateHz
    aggregationWindowSec := req.aggregationWindowSec
    uploadBatchSec := req.uploadBatchSec
    retentionHours := req.retentionHours
    scope := req.scope
    selectorExe := req.selectorExe
    selectorMode := req.selectorMode
    selectorParams := req.selectorParams
    signals := req.signals
    continuityMode := if state.strictCapable then req.continuityMode else "degraded"
    allowDegraded := req.allowDegraded || req.continuityMode = "degraded"
    degradationReason :=
      if state.strictCapable then ""
      else "strict persistent perf/CO-RE engine unavailable; using PID-scoped rolling fallback"
    agentID := firstNonEmpty [state.agentID, prepared.agent.agentID]
    uid := prepared.ctx.ownerUID
    userName := prepared.ctx.userName
    startedAt := prepared.ctx.now
    createdAt := prepared.ctx.now
    updatedAt := prepared.ctx.now }

/-- The agent's state is recent enough to create a session. -/
def stateFresh (now : Int) (state : ContinuousAgentState) : Bool :=
  now - state.observedAt ≤ 30 * Time.second

/-- `createContinuousSession` up to its transaction. -/
def prepareContinuousSession (ctx : CreateContext) (store : SessionStore)
    (req : CreateContinuousSessionReq) : Except Refusal PreparedSession :=
  let req := { req with targetIP := trimSpace req.targetIP }
  if req.targetIP = "" then .error ⟨400, "target_ip 不能为空"⟩
  else
    match applyContinuousDefaults req with
    | .error message => .error ⟨400, message⟩
    | .ok req =>
      match valid : validateContinuousCreateRequest req with
      | some message => .error ⟨400, message⟩
      | none =>
        match ctx.capacityRefusal with
        | some message => .error ⟨507, message⟩
        | none =>
          match store.agentAt req.targetIP with
          | none => .error ⟨404, "目标 Agent 不存在"⟩
          | some agent =>
            if ctx.ownerUID ≠ "" ∧ ¬ctx.canReadAgent then .error ⟨403, "没有权限执行此操作"⟩
            else
              match store.agentState req.targetIP with
              | none => .error ⟨409, errContinuousAgentUnavailable⟩
              | some state =>
                if ¬stateFresh ctx.now state then .error ⟨409, errContinuousAgentUnavailable⟩
                else if req.continuityMode = "strict" ∧ ¬state.strictCapable ∧
                    ¬req.allowDegraded ∧ ctx.ownerUID ≠ "" then
                  .error ⟨409, "目标 Agent 暂不具备严格连续采集能力；确认允许降级后才能创建"⟩
                else .ok { ctx, req, agent, agentState := state, valid }

namespace SessionStore

variable (store : SessionStore)

/-- The state row of a target address with a new revision. -/
def bumpRevision (targetIP : String) (revision : Nat) (now : Int) : SessionStore :=
  { store with
    agentStates := store.agentStates.map fun state =>
      if state.targetIP = targetIP then { state with revision := revision, updatedAt := now }
      else state }

/-- The commit of a creation: the state's revision and the new row. -/
def insertSession (prepared : PreparedSession) (revision : Nat) : SessionStore :=
  let bumped := store.bumpRevision prepared.req.targetIP revision prepared.ctx.now
  { bumped with
    sessions := bumped.sessions ++
      [{ prepared.session with id := store.nextID, revision := revision }]
    nextID := store.nextID + 1 }

/-- The update of a stopped session. -/
def stopRow (revision : Nat) (now : Int) (session : ContinuousSessionRow) : ContinuousSessionRow :=
  { session with
    desiredState := .stopped
    observedState := .stopping
    stopRequestedAt := some now
    revision := revision
    updatedAt := now }

/-- The commit of a stop: the revision the state row had, if there is one, and the session. -/
def markStopped (current : ContinuousSessionRow) (stateRevision : Option Nat) (now : Int) :
    SessionStore :=
  let revision := (stateRevision.getD current.revision) + 1
  let bumped :=
    if stateRevision.isSome then store.bumpRevision current.targetIP revision now else store
  { bumped with
    sessions := bumped.sessions.map fun session =>
      if session.id = current.id then stopRow revision now session else session }

/-- `StopContinuousSession` run alone. Whether the caller may manage the session is decided before
its transaction. -/
def stopContinuousSession (canManage : Bool) (now : Int) (sid : String) : SessionStore :=
  match store.sessions.find? (·.sid = trimSpace sid) with
  | none => store
  | some loaded =>
    if ¬canManage then store
    else
      match store.sessions.find? (·.id = loaded.id) with
      | none => store
      | some current =>
        if current.desiredState = .stopped then store
        else store.markStopped current ((store.agentState current.targetIP).map (·.revision)) now

end SessionStore

/-- `continuousObservedReport`: what an agent says about one session. -/
structure ContinuousObservedReport where
  (sid observedState : String := "")
  activeProcesses : List ContinuousProcessReport := []
  (continuityMode degradationReason lastError : String := "")

/-- `reconcileContinuousReq`, without the process snapshot, which goes to a table of its own. -/
structure ReconcileContinuousReq where
  (targetIP agentID : String := "")
  strictCapable : Bool := false
  sessions : List ContinuousObservedReport := []

/-- The observed state of a text that `validContinuousObservedState` accepts. -/
def validContinuousObservedState (value : String) : Option ObservedState :=
  [("pending", ObservedState.pending), ("running", .running), ("waiting", .waiting),
    ("degraded", .degraded), ("stopping", .stopping), ("stopped", .stopped), ("error", .error),
    ("offline", .offline)].lookup value

/-- The observed state stored for a reported one: the desired state has the last word. -/
def settledState (desired : DesiredState) (reported : ObservedState) : ObservedState :=
  match desired, reported with
  | .stopped, .stopped => .stopped
  | .stopped, _ => .stopping
  | .running, .stopped => .error
  | .running, reported => reported

/-- The updates of one reported session. `current` is the row as it was read. -/
def observeUpdates (now : Int) (agentID : String) (current : ContinuousSessionRow)
    (reported : ObservedState) (observed : ContinuousObservedReport)
    (session : ContinuousSessionRow) : ContinuousSessionRow :=
  let closes := current.desiredState = .stopped ∧ reported = .stopped
  { session with
    observedState := settledState current.desiredState reported
    observedAt := some now
    activeProcesses :=
      if current.desiredState = .stopped ∧ reported ≠ .stopped then [] else observed.activeProcesses
    lastError :=
      if current.desiredState = .running ∧ reported = .stopped then
        firstNonEmpty [observed.lastError, "Agent stopped collection without a user stop request"]
      else observed.lastError
    agentID := agentID
    updatedAt := now
    continuityMode :=
      if observed.continuityMode ≠ "" then observed.continuityMode else session.continuityMode
    degradationReason :=
      if observed.degradationReason ≠ "" then observed.degradationReason
      else session.degradationReason
    status := if closes then .stopped else session.status
    stoppedAt := if closes then some now else session.stoppedAt }

/-- The row a report names. -/
def ContinuousObservedReport.names (observed : ContinuousObservedReport) (targetIP : String)
    (session : ContinuousSessionRow) : Bool :=
  session.sid = observed.sid && session.targetIP = targetIP

/-- One round of the session loop of `ReconcileContinuousSessions`. -/
def observeSession (now : Int) (req : ReconcileContinuousReq)
    (sessions : List ContinuousSessionRow) (observed : ContinuousObservedReport) :
    List ContinuousSessionRow :=
  if blank observed.sid then sessions
  else
    match validContinuousObservedState observed.observedState with
    | none => sessions
    | some reported =>
      match sessions.find? (observed.names req.targetIP) with
      | none => sessions
      | some current =>
        sessions.map fun session =>
          if observed.names req.targetIP session then
            observeUpdates now req.agentID current reported observed session
          else session

namespace SessionStore

variable (store : SessionStore)

/-- The reporting agent is the one registered for the address, and speaks for itself. -/
def mayReport (requestUID : String) (req : ReconcileContinuousReq) : Bool :=
  match store.agentAt req.targetIP with
  | none => false
  | some agent =>
    req.agentID ≠ "" && agent.agentID ≠ "" && req.agentID = agent.agentID &&
      requestUID = req.agentID

/-- The upsert of the agent's state row; the revision of a known row stays. -/
def upsertAgentState (now : Int) (req : ReconcileContinuousReq) : List ContinuousAgentState :=
  if (store.agentState req.targetIP).isSome then
    store.agentStates.map fun state =>
      if state.targetIP = req.targetIP then
        { state with agentID := req.agentID, strictCapable := req.strictCapable,
                     observedAt := now, updatedAt := now }
      else state
  else
    store.agentStates ++ [{ targetIP := req.targetIP, agentID := req.agentID,
                            strictCapable := req.strictCapable, revision := 0, observedAt := now,
                            updatedAt := now }]

/-- `ReconcileContinuousSessions`, the part that writes. -/
def reconcileContinuousSessions (requestUID : String) (now : Int) (req : ReconcileContinuousReq) :
    SessionStore :=
  let req := { req with targetIP := trimSpace req.targetIP, agentID := trimSpace req.agentID }
  if store.mayReport requestUID req then
    { store with
      agentStates := store.upsertAgentState now req
      sessions := req.sessions.foldl (observeSession now req) store.sessions }
  else store

end SessionStore

end MiniDrop
