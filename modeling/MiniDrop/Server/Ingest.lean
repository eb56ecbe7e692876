import MiniDrop.Server.Store
/-!
# Ingest

`IngestContinuousBatch` checks a request, stores its payload as one object and writes one catalog
row per window and signal. The protocol versions three and four identify windows by `window_id`: a
row that already exists for the session, window and signal is skipped when the contents agree and
refuses the whole batch when they do not. The payload object is written inside the transaction, so
a refused batch may leave its object behind.
-/
namespace MiniDrop

/-- What the handler reads besides the request and the store. -/
structure IngestContext where
  /-- `time.Now()`. -/
  now : Int
  /-- The caller, `getRequestUID`. -/
  requestUID : String := ""
  /-- `capacityHalted`. -/
  capacityHalted : Bool := false
  /-- The random part of the identifier drawn for a request without one. -/
  freshID : String := ""
  /-- `PutObject` succeeds. -/
  putWorks : Bool := true

/-- The reply to an ingest request. -/
inductive IngestReply where
  | storagePressure
  | badTimeRange
  | conflict (message : String)
  | sessionNotFound
  | forbidden
  | targetMismatch
  | payloadNotStored
  | ack (duplicate : Bool)
  deriving DecidableEq

def continuousSchemaVersionV3 : Nat := 3

def continuousSchemaVersionV4 : Nat := 4

def continuousDefaultSignals : List String :=
  ["cpu_profile", "io_latency", "io_syscall_latency", "sched_latency"]

def continuousAllSignals : List String :=
  ["cpu_profile", "io_latency", "io_syscall_latency", "sched_latency", "python_rss",
    "python_memory", "db_snapshot"]

def continuousCoreSignal (signal : String) : Bool := continuousDefaultSignals.contains signal

/-- `normalizeContinuousRequestedSignals`: the known signals in order, or an unknown one. -/
def normalizeContinuousRequestedSignals (signals : List String) : Except String (List String) :=
  let named := (signals.map lowerTrim).filter (· ≠ "")
  match named.find? fun signal => !continuousAllSignals.contains signal with
  | some unknown => .error unknown
  | none => .ok (if named = [] then continuousDefaultSignals else Base.distinct named)

def continuousSessionSignals (session : ContinuousSession) : List String :=
  match normalizeContinuousRequestedSignals session.signals with
  | .ok signals => signals
  | .error _ => continuousDefaultSignals

def continuousBatchSignalSet (windows : List ContinuousWindowIngest) : List String :=
  windows.flatMap fun window => (continuousWindowSignalRowsV3 window).map (·.signalType)

def continuousValidSHA256 (value : String) : Bool :=
  value.toList.length = 64 &&
    value.toList.all fun c => ('0' ≤ c && c ≤ '9') || ('a' ≤ c && c ≤ 'f')

/-- A blank text. -/
def blank (s : String) : Bool := trimSpace s = ""

/-- `v3 windows[index]` followed by a text. -/
def windowMessage (index : Nat) (text : String) : String :=
  "v3 windows[" ++ toString index ++ "]" ++ text

/-- The checks of `validateContinuousV3Batch` on one window. -/
def validateV3Window (req : ContinuousBatchIngestReq) (index : Nat)
    (window : ContinuousWindowIngest) : Option String :=
  if Time.isZero window.windowStart ∨ Time.isZero window.windowEnd ∨
      ¬window.windowStart < window.windowEnd then
    some (windowMessage index " 时间范围不合法")
  else if window.windowStart < req.startTime ∨ req.endTime < window.windowEnd then
    some (windowMessage index " 超出 batch 时间范围")
  else if blank window.windowID ∨ window.windowID.utf8ByteSize > 128 then
    some (windowMessage index ".window_id 不合法")
  else if blank window.targetFingerprint ∨ window.targetFingerprint.utf8ByteSize > 256 then
    some (windowMessage index ".target_fingerprint 不合法")
  else if window.collectorGeneration ≠ "" ∧
      window.collectorGeneration ≠ req.collectorGeneration then
    some (windowMessage index ".collector_generation 与 batch 不一致")
  else if !continuousValidSHA256 window.contentSHA256 then
    some (windowMessage index ".content_sha256 必须是 64 位十六进制 SHA-256")
  else none

/-- The first window that fails, from an index on. -/
def validateV3Windows (req : ContinuousBatchIngestReq) :
    Nat → List ContinuousWindowIngest → Option String
  | _, [] => none
  | index, window :: rest =>
    (validateV3Window req index window).or (validateV3Windows req (index + 1) rest)

/-- `validateContinuousV3Batch`; no message when the batch is well formed. -/
def validateContinuousV3Batch (req : ContinuousBatchIngestReq) : Option String :=
  if blank req.batchID then some "v3 batch_id 不能为空"
  else if blank req.collectorGeneration ∨ req.collectorGeneration.utf8ByteSize > 64 then
    some "v3 collector_generation 不合法"
  else if req.batchSequence = 0 then some "v3 batch_sequence 必须大于 0"
  else if !continuousValidSHA256 req.contentSHA256 then
    some "v3 content_sha256 必须是 64 位十六进制 SHA-256"
  else if req.windows = [] then some "v3 batch 必须至少包含一个窗口"
  else if req.windowCount ≠ 0 ∧ req.windowCount ≠ req.windows.length then
    some "v3 window_count 与 windows 数量不一致"
  else validateV3Windows req 0 req.windows

/-- The states an agent may report. -/
def allowedSignalStatuses : List String :=
  ["collected", "target_idle", "no_events", "unavailable", "failed", "unknown"]

/-- The checks of `validateContinuousV4Windows` on one reported status. -/
def validateV4Status (window : ContinuousWindowIngest)
    (entry : String × ContinuousSignalStatus) : Option String :=
  let normalized := lowerTrim entry.1
  let hasData := continuousWindowSignalHasData window normalized
  if normalized ≠ entry.1 ∨ normalized ∉ continuousAllSignals then
    some ("v4 窗口包含未知 signal_statuses 信号: " ++ entry.1)
  else if entry.2.status ∉ allowedSignalStatuses then
    some ("v4 窗口包含未知采集状态: " ++ entry.2.status)
  else if entry.2.reason.utf8ByteSize > 512 then some "v4 窗口采集状态原因超过 512 字节"
  else if entry.2.lostEvents > continuousMaxDBCount then some "v4 窗口 lost_events 超出范围"
  else if entry.2.status = "collected" ∧ ¬hasData then
    some ("v4 窗口将零数据信号标记为 collected: " ++ normalized)
  else if (entry.2.status = "target_idle" ∨ entry.2.status = "no_events") ∧ hasData then
    some ("v4 窗口的空闲状态与实际数据冲突: " ++ normalized)
  else none

/-- The checks of `validateContinuousV4Windows` on one window. -/
def validateV4Window (window : ContinuousWindowIngest) : Option String :=
  if window.physicalSampleRateHz < 0 ∨ window.effectiveSampleRateHz < 0 then
    some "v4 窗口采样率不能为负数"
  else if window.identityUnavailable > continuousMaxDBCount then
    some "v4 窗口 identity_unavailable_count 超出范围"
  else
    (window.signalStatuses.findSome? (validateV4Status window)).or
      (continuousAllSignals.findSome? fun signal =>
        if continuousWindowSignalHasData window signal ∧
            (window.signalStatuses.lookup signal).isNone then
          some ("v4 窗口数据缺少 signal_statuses: " ++ signal)
        else none)

def validateContinuousV4Windows (windows : List ContinuousWindowIngest) : Option String :=
  windows.findSome? validateV4Window

/-- The signal contract of protocol v3 and v4: the first signal the session did not ask for. The
old channels outside the four core signals are checked from version four on. -/
def unrequestedSignal (session : ContinuousSession) (req : ContinuousBatchIngestReq) :
    Option String :=
  (continuousBatchSignalSet req.windows).find? fun signal =>
    !(decide (req.schemaVersion < continuousSchemaVersionV4) && !continuousCoreSignal signal) &&
      !(continuousSessionSignals session).contains signal

/-- `isV3`: the window-level contract applies. -/
def ContinuousBatchIngestReq.isV3 (req : ContinuousBatchIngestReq) : Bool :=
  decide (continuousSchemaVersionV3 ≤ req.schemaVersion)

/-- The fields the handler fills in: the identifier, the target and the object key. -/
def ContinuousBatchIngestReq.completed (req : ContinuousBatchIngestReq) (ctx : IngestContext)
    (session : ContinuousSession) : ContinuousBatchIngestReq :=
  let batchID := if req.batchID = "" then "cpb-" ++ ctx.freshID else req.batchID
  { req with
    batchID := batchID
    targetIP := if req.targetIP = "" then session.targetIP else req.targetIP
    objectKey :=
      if req.objectKey = "" then continuousBatchObjectKey req.sessionSID batchID
      else req.objectKey
    windowCount := if req.windowCount = 0 then req.windows.length else req.windowCount }

/-- A missing schema version means version one. -/
def ContinuousBatchIngestReq.versioned (req : ContinuousBatchIngestReq) :
    ContinuousBatchIngestReq :=
  { req with schemaVersion := if req.schemaVersion = 0 then 1 else req.schemaVersion }

/-- The checks on a request with its version: the completed request, or the refusal. -/
def checkVersionedBatch (ctx : IngestContext) (s : Store) (req : ContinuousBatchIngestReq) :
    Except IngestReply ContinuousBatchIngestReq :=
  if ctx.capacityHalted then .error .storagePressure
  else if ¬req.startTime < req.endTime then .error .badTimeRange
  else if req.schemaVersion > continuousSchemaVersionV4 then
    .error (.conflict "不支持的 schema_version，仅接受 v4 及以下")
  else match if req.isV3 then validateContinuousV3Batch req else none with
    | some message => .error (.conflict message)
    | none =>
      match s.sessions.find? fun session => session.sid = req.sessionSID with
      | none => .error .sessionNotFound
      | some session =>
        if session.agentID ≠ "" ∧ ctx.requestUID ≠ session.agentID then .error .forbidden
        else match if req.isV3 then unrequestedSignal session req else none with
          | some signal => .error (.conflict ("窗口包含 Session 未请求的信号: " ++ signal))
          | none =>
            match if req.schemaVersion ≥ continuousSchemaVersionV4 then
                validateContinuousV4Windows req.windows else none with
            | some message => .error (.conflict message)
            | none =>
              if req.targetIP ≠ "" ∧ req.targetIP ≠ session.targetIP then .error .targetMismatch
              else .ok (req.completed ctx session)

/-- The checks before the batch table is read. -/
def checkContinuousBatch (ctx : IngestContext) (s : Store) (req : ContinuousBatchIngestReq) :
    Except IngestReply ContinuousBatchIngestReq :=
  checkVersionedBatch ctx s req.versioned

/-- The reply when the batch identifier is already stored. -/
def replyToKnownBatch (existing : ProfileBatch) (req : ContinuousBatchIngestReq) : IngestReply :=
  if existing.sessionSID ≠ req.sessionSID ∨ existing.startTime ≠ req.startTime ∨
      existing.endTime ≠ req.endTime then
    .conflict "batch_id 已被不同采集批次使用"
  else if req.isV3 ∧ existing.contentSHA256 ≠ "" ∧ req.contentSHA256 ≠ "" ∧
      existing.contentSHA256 ≠ req.contentSHA256 then
    .conflict "batch_id 内容摘要冲突：相同 ID 不同内容，禁止换 ID 重传"
  else .ack true

section Transaction

variable (ctx : IngestContext) (req : ContinuousBatchIngestReq)

/-- The status written on a row: the reported one, or whether a v3 window has data. -/
def ingestSignalStatus (input : ContinuousWindowIngest) (signalType : String) : String :=
  let reported := ((input.signalStatuses.lookup signalType).map (·.status)).getD ""
  if reported ≠ "" then reported
  else if req.isV3 ∧ continuousWindowSignalHasData input signalType then "collected"
  else "unknown"

/-- The catalog row of one window and signal. -/
def ingestWindowRow (input : ContinuousWindowIngest) (signal : ContinuousSignalRow) (id : Nat) :
    ProfileWindow where
  id := id
  sessionSID := req.sessionSID
  batchBID := req.batchID
  windowStart := input.windowStart
  windowEnd := input.windowEnd
  objectKey := firstNonEmpty [input.objectKey, req.objectKey]
  sampleCount := clampContinuousCount (continuousWindowSampleCount input signal.signalType)
  signalType := signal.signalType
  windowID := input.windowID
  contentSHA256 := input.contentSHA256
  backend := signal.backend
  labels := input.labels
  signalStatus := ingestSignalStatus req input signal.signalType
  createdAt := ctx.now

/-- The row that already stands for a session, window and signal. -/
def Store.logicalWindow (s : Store) (sessionSID windowID signalType : String) :
    Option ProfileWindow :=
  if windowID = "" then none
  else s.windows.find? fun row =>
    row.sessionSID = sessionSID && row.windowID = windowID && row.signalType = signalType

/-- One signal row of one window; `none` rolls the transaction back. Before v3 a repeated window
identifier runs into the unique index. -/
def insertSignalRow (input : ContinuousWindowIngest) (s : Store) (signal : ContinuousSignalRow) :
    Option Store :=
  match s.logicalWindow req.sessionSID input.windowID signal.signalType with
  | some row =>
    if req.isV3 ∧ ¬(row.contentSHA256 ≠ "" ∧ input.contentSHA256 ≠ "" ∧
        row.contentSHA256 ≠ input.contentSHA256) then some s
    else none
  | none => some { s with
      windows := s.windows ++ [ingestWindowRow ctx req input signal s.nextID]
      nextID := s.nextID + 1 }

/-- The signal rows of one window. -/
def ingestSignalRows (input : ContinuousWindowIngest) : List ContinuousSignalRow :=
  if req.isV3 then continuousWindowSignalRowsV3 input else continuousWindowSignalRows input

/-- One window; windows without a proper time range get no row. -/
def insertWindow (s : Store) (input : ContinuousWindowIngest) : Option Store :=
  if Time.isZero input.windowStart ∨ Time.isZero input.windowEnd ∨
      ¬input.windowStart < input.windowEnd then some s
  else (ingestSignalRows req input).foldlM (insertSignalRow ctx req input) s

/-- The batch row. -/
def ingestBatchRow (id : Nat) : ProfileBatch where
  id := id
  bid := req.batchID
  sessionSID := req.sessionSID
  objectKey := req.objectKey
  startTime := req.startTime
  endTime := req.endTime
  contentSHA256 := req.contentSHA256
  createdAt := ctx.now

/-- The stored payload. -/
def ContinuousBatchIngestReq.payload : ContinuousStoredBatch where
  sessionSID := req.sessionSID
  batchID := req.batchID
  startTime := req.startTime
  endTime := req.endTime
  schemaVersion := req.schemaVersion
  windows := req.windows

/-- The payload object, put under the request's key. -/
def storeContinuousBatchPayload (s : Store) : Store :=
  s.putObject req.objectKey ⟨.minute req.payload, ctx.now⟩

/-- The payload object and the batch row. -/
def insertBatch (s : Store) : Store :=
  { storeContinuousBatchPayload ctx req s with
    batches := s.batches ++ [ingestBatchRow ctx req s.nextID]
    nextID := s.nextID + 1 }

/-- The transaction on a batch identifier that is not stored. The object outlives a rollback. -/
def storeContinuousBatch (s : Store) : Store × IngestReply :=
  if ctx.putWorks then
    match req.windows.foldlM (insertWindow ctx req) (insertBatch ctx req s) with
    | some done => (done, .ack false)
    | none => (storeContinuousBatchPayload ctx req s,
        .conflict "窗口/批次内容冲突：相同 ID 不同内容，禁止换 ID 重传")
  else (s, .payloadNotStored)

end Transaction

/-- `IngestContinuousBatch`, up to the retention clean-up that follows an accepted batch. -/
def ingestContinuousBatch (ctx : IngestContext) (s : Store) (req : ContinuousBatchIngestReq) :
    Store × IngestReply :=
  match checkContinuousBatch ctx s req with
  | .error reply => (s, reply)
  | .ok req =>
    match s.batches.find? fun batch => batch.bid = req.batchID with
    | some existing => (s, replyToKnownBatch existing req)
    | none => storeContinuousBatch ctx req s

end MiniDrop
