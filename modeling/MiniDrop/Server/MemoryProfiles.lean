import MiniDrop.Server.Query
/-!
# Memory profiles

The list of the memory profiles of a range. An hour with a raw block is read from its CPU rows, any
other hour from the stored windows. A profile whose key was seen before is a duplicate; the two ways
of reading an hour build their keys differently.
-/
namespace MiniDrop

open Base

structure ContinuousMemoryProfileInfo where
  (profileID sessionSID : String := "")
  (windowStart windowEnd : Int := Time.zero)
  (pid processStartMs : Int := 0)
  (comm exe backend : String := "")
  sampleCount : Nat := 0
  (unit status reason : String := "")

/-- The profile and its process as a key. -/
def processKey (info : ContinuousMemoryProfileInfo) : String :=
  info.profileID ++ "|" ++ toString info.pid ++ "|" ++ toString info.processStartMs ++ "|" ++
    info.exe

def memoryProfileDedupeKey (info : ContinuousMemoryProfileInfo) : String :=
  if info.pid > 0 then processKey info else info.profileID

/-- A profile with its key. -/
abbrev KeyedProfile := String × ContinuousMemoryProfileInfo

/-- The `seen` loop over profiles with their keys. -/
def markSeen : List String → List KeyedProfile →
    List String × List ContinuousMemoryProfileInfo
  | seen, [] => (seen, [])
  | seen, (key, info) :: rest =>
    if key ∈ seen then
      let marked := markSeen seen rest
      (marked.1, { info with status := "duplicate" } :: marked.2)
    else
      let marked := markSeen (key :: seen) rest
      (marked.1, info :: marked.2)

/-- Why there is no list. -/
inductive MemoryQueryError where
  | database
  | windowLimit
  | unavailable
  | unreadable (objectKey : String)
  | partialCoverage

/-- What a query finds: the mode, the selected sessions and the window rows unless a read fails, the
storage, and the best CPU block of each hour, whose rows may be unreadable. -/
structure MemoryCatalog where
  queryV2 : Bool := true
  sessions : Except MemoryQueryError (List String)
  windows : Except MemoryQueryError (List ProfileWindow)
  storageConnected : Bool := true
  load : Loader
  pqFindBestBlock : Int → Except MemoryQueryError (Option (Option (List PqCPURow)))

section Query

variable (catalog : MemoryCatalog) (filters : Labels)

/-- One sample of a profile: the first process is the profile's. -/
def addMemorySample (info : ContinuousMemoryProfileInfo) (sample : ContinuousStackSample) :
    ContinuousMemoryProfileInfo :=
  let info :=
    if info.pid = 0 then
      { info with
        pid := sample.pid, processStartMs := sample.processStartMs, comm := sample.comm
        exe := sample.exe }
    else info
  { info with
    sampleCount := addContinuousCount info.sampleCount (firstNonZeroUint64 sample.count 1) }

/-- One profile of a payload window. -/
def nativeMemoryProfile (row : ProfileWindow) (window : ContinuousWindowIngest)
    (profile : ContinuousProfileIngest) : Option ContinuousMemoryProfileInfo :=
  let matched := profile.samples.filter fun sample =>
    continuousSampleMatches sample window.labels filters
  if profileSignal profile ≠ "python_memory" ∨ (filters ≠ [] ∧ matched = []) then none
  else
    let info := matched.foldl addMemorySample
      { profileID := profile.profileID, sessionSID := row.sessionSID,
        windowStart := window.windowStart,
        windowEnd := window.windowEnd, backend := firstNonEmpty [profile.backend, window.backend],
        unit := firstNonEmpty [profile.unit, "bytes"], status := "ready" }
    let info :=
      if info.profileID = "" then
        { info with profileID := "anonymous-" ++ toString (Time.unixMilli window.windowStart) }
      else info
    if info.sampleCount = 0 then
      some { info with status := "failed", reason := "profile 无可用样本（转换失败或无峰值分配）" }
    else some info

/-- One row of an object; a batch is walked the first time it is met. -/
def nativeMemoryRow (fromTime toTime : Int) (batches : List ContinuousStoredBatch)
    (state : List ContinuousMemoryProfileInfo × List String) (row : ProfileWindow) :
    List ContinuousMemoryProfileInfo × List String :=
  match continuousResolveBatch row batches with
  | none => state
  | some batch =>
    if row.batchBID ∈ state.2 then state
    else
      let windows := batch.windows.filter fun window =>
        windowOverlaps window.windowStart window.windowEnd fromTime toTime
      (state.1 ++ windows.flatMap fun window =>
        window.profiles.filterMap (nativeMemoryProfile filters row window), row.batchBID :: state.2)

/-- Profiles under the keys of `memoryProfileDedupeKey`. -/
def nativeKeys (profiles : List ContinuousMemoryProfileInfo) : List KeyedProfile :=
  profiles.map fun info => (memoryProfileDedupeKey info, info)

/-- The profiles of the stored windows of a range, in the order in which their objects are read. -/
def storedMemoryProfiles (fromTime toTime : Int) :
    Except MemoryQueryError (List ContinuousMemoryProfileInfo × Bool) := do
  let sessions ← catalog.sessions
  let windows ← catalog.windows
  let rows := (orderBy (·.windowStart) (windows.filter fun row =>
    sessions.contains row.sessionSID && row.signalType = "python_memory" &&
      decide (fromTime ≤ row.windowEnd) &&
    decide (row.windowStart ≤ toTime))).take (continuousMaxWindowCount + 1)
  if rows.length > continuousMaxWindowCount then .error .windowLimit
  else if rows = [] then .ok ([], false)
  else if !catalog.storageConnected then .error .unavailable
  else do
    let found ← (objectOrder rows).foldlM (fun found objectKey =>
      match catalog.load objectKey with
      | none => .error (.unreadable objectKey)
      | some batches => .ok ((rows.filter fun row => row.objectKey = objectKey).foldl
          (nativeMemoryRow filters fromTime toTime batches) (found, [])).1) []
    return (found, true)

/-- Those profiles, each key once. -/
def queryNativeMemoryProfiles (fromTime toTime : Int) :
    Except MemoryQueryError (List ContinuousMemoryProfileInfo × Bool) := do
  let (found, any) ← storedMemoryProfiles catalog filters fromTime toTime
  return ((markSeen [] (nativeKeys found)).2, any)

/-- A row of a block that belongs to the list. -/
def memoryRowSelected (sessions : List String) (fromTime toTime : Int) (row : PqCPURow) : Bool :=
  sessions.contains row.sessionSID && decide (Time.unixMilli fromTime ≤ row.timestamp) &&
    decide (row.timestamp < Time.unixMilli toTime) &&
    (row.profileType = "python_memory" || row.profileType = "memory") && row.profileID ≠ "" &&
    (if row.profileStatus = "failed" then filters = []
      else continuousSampleMatches (pqSampleFromCPURow row) (pqLabelsInterface row.labels) filters)

/-- A new entry for a row of a block. -/
def blockProfile (row : PqCPURow) : ContinuousMemoryProfileInfo where
  profileID := row.profileID
  sessionSID := row.sessionSID
  windowStart := row.timestamp
  windowEnd := row.timestamp + Time.minute
  pid := row.pid
  processStartMs := row.processStartMs
  comm := row.comm
  exe := row.exe
  backend := row.backend
  unit := firstNonEmpty [row.unit, "bytes"]
  status := firstNonEmpty [row.profileStatus, "ready"]

/-- The key of a row of a block, which has the status behind the process. -/
def blockRowKey (row : PqCPURow) : String :=
  processKey (blockProfile row) ++ "|" ++ (blockProfile row).status

/-- One selected row: the entry of its key. -/
def addBlockRow (profiles : List KeyedProfile) (row : PqCPURow) :
    List KeyedProfile :=
  let key := blockRowKey row
  let item := (profiles.lookup key).getD (blockProfile row)
  let item :=
    if row.profileStatus = "failed" then
      { item with status := "failed", reason := row.profileReason }
    else item
  upsert profiles key { item with sampleCount := addContinuousCount item.sampleCount row.value }

/-- The profiles of one hour with their keys: from its block, or from the windows. -/
def hourMemoryProfiles (fromTime toTime hour : Int) :
    Except MemoryQueryError (List KeyedProfile × Bool) := do
  -- `pqHourBoundary`
  let fromTime := max hour fromTime
  let toTime := min (hour + Time.hour) toTime
  if ¬fromTime < toTime then .ok ([], false)
  else
    let sessions ← catalog.sessions
    match ← catalog.pqFindBestBlock hour with
    | none => do
      let (profiles, found) ← queryNativeMemoryProfiles catalog filters fromTime toTime
      .ok (nativeKeys profiles, found)
    | some (some rows) =>
      .ok ((rows.filter (memoryRowSelected filters sessions fromTime toTime)).foldl addBlockRow [],
        true)
    | some none =>
      match queryNativeMemoryProfiles catalog filters fromTime toTime with
      | .ok (profiles, true) => .ok (nativeKeys profiles, true)
      | _ => .error .partialCoverage

def pqHourlyRange (fromTime toTime : Int) : List Int :=
  let start := Time.truncateHour fromTime
  if fromTime < toTime then
    (List.range ((Time.truncateHour (toTime - 1) - start) / Time.hour + 1).toNat).map fun n =>
      start + n * Time.hour
  else []

/-- One hour of the list: the keys seen, the list and whether there was data. -/
def addMemoryHour (fromTime toTime : Int)
    (state : (List String × List ContinuousMemoryProfileInfo) × Bool) (hour : Int) :
    Except MemoryQueryError ((List String × List ContinuousMemoryProfileInfo) × Bool) := do
  let (profiles, found) ← hourMemoryProfiles catalog filters fromTime toTime hour
  let marked := markSeen state.1.1 profiles
  .ok ((marked.1, state.1.2 ++ marked.2), state.2 || found)

def queryMemoryProfilesMixed (fromTime toTime : Int) :
    Except MemoryQueryError (List ContinuousMemoryProfileInfo × Bool) :=
  if !catalog.queryV2 then queryNativeMemoryProfiles catalog filters fromTime toTime
  else do
    let _ ← catalog.sessions
    let state ← (pqHourlyRange fromTime toTime).foldlM
      (addMemoryHour catalog filters fromTime toTime) (([], []), false)
    return (state.1.2, state.2)

end Query

end MiniDrop
