import MiniDrop.Server.TaskWorkers
/-!
# Object keys of a notification

A notification names the objects that an agent has uploaded. In the layout of version 2 a key is
`tasks/<tid>/attempts/<attempt>/raw/<name>` and carries the attempt; in the old layout it is
anything under `<tid>/`. The request is checked before anything is written, with its keys trimmed;
what it writes later are the keys as they were sent.
-/
namespace MiniDrop

/-- `TaskResultNotifyReq` with the fields that matter for the artifacts. -/
structure NotifyReq extends TaskResultNotifyReq where
  artifactSize : Int := 0
  (artifactSHA256 manifestKey : String := "")
  /-- `Partial`: more of the object will be uploaded. -/
  incomplete : Bool := false

/-! ## Keys -/

/-- `strings.Split(key, "/")`. -/
def splitSlash (key : String) : List String := (key.toList.splitOn '/').map String.ofList

/-- `strconv.ParseUint(text, 10, 64)`. -/
def parseUint (text : String) : Option Nat :=
  if text ≠ "" ∧ text.toList.all Char.isDigit then
    let value := text.toList.foldl (fun total c => 10 * total + (c.toNat - '0'.toNat)) 0
    if value < 2 ^ 64 then some value else none
  else none

/-- The attempt that a part of a key names; 0 is none. -/
def parseAttempt (text : String) : Option Nat := (parseUint text).filter (· ≠ 0)

def redactObjectKey (key : String) : String :=
  let key := trimSpace key
  let parts := splitSlash key
  if parts.length ≤ 2 then key else parts.headD "" ++ "/***/" ++ parts.getLastD ""

def supportedRawBasenames : List String :=
  ["perf.data", "profile.pb.gz", "profile.collapsed", "raw.bpf", "memtrace.txt"]

/-- A name that is no path of its own. -/
def isPlainName (name : String) : Bool :=
  name ≠ "." && name ≠ ".." && name.toList.all fun c => c ≠ '/' && c ≠ '\\' && c.toNat ≠ 0

/-- `parseV2AgentRawKey`: the task, the attempt and the name. -/
def parseV2AgentRawKey (key : String) : Option (String × Nat × String) :=
  match splitSlash key with
  | [tasks, tid, attempts, attempt, raw, name] =>
    if tasks ≠ "tasks" ∨ attempts ≠ "attempts" ∨ raw ≠ "raw" then none
    else if tid = "" ∨ attempt = "" ∨ name = "" then none
    else
      match parseAttempt attempt with
      | none => none
      | some attemptID => if isPlainName name then some (tid, attemptID, name) else none
  | _ => none

/-- `parseV2AgentManifestKey`: the task and the attempt. -/
def parseV2AgentManifestKey (key : String) : Option (String × Nat) :=
  match splitSlash key with
  | [tasks, tid, attempts, attempt, name] =>
    if tasks ≠ "tasks" ∨ attempts ≠ "attempts" ∨ name ≠ "manifest.json" then none
    else (parseAttempt attempt).map fun attemptID => (tid, attemptID)
  | _ => none

def isV2AgentKey (key : String) : Bool := hasPrefix key "tasks/"

/-! ## The checks of a request -/

/-- The checks of `validateNotifyObjectKeys` for a key of version 2; the request gets the attempt of
its key. -/
def validateV2Keys (req : NotifyReq) (cosKey manifestKey : String) : Except String NotifyReq :=
  match parseV2AgentRawKey cosKey with
  | none => .error ("非法 v2 RAW 路径: " ++ redactObjectKey cosKey)
  | some (tid, attemptID, name) =>
    if tid ≠ req.taskID then .error "cos_key 的 task 与 task_id 不匹配"
    else if name ∉ supportedRawBasenames then .error ("不支持的 RAW basename: " ++ name)
    else if req.attemptID ≠ 0 ∧ req.attemptID ≠ attemptID then
      .error "cos_key 的 attempt_id 与通知 attempt_id 不匹配"
    else if manifestKey ≠ "" ∧ isV2AgentKey manifestKey = false then
      .error "v2 RAW 必须使用 v2 manifest 路径"
    else if manifestKey ≠ "" ∧
        parseV2AgentManifestKey manifestKey ≠ some (req.taskID, attemptID) then
      .error "manifest_key 与 cos_key/attempt_id 不匹配"
    else .ok { req with attemptID }

/-- The checks of `validateNotifyObjectKeys` for a key of the old layout. -/
def validateOldKeys (req : NotifyReq) (cosKey manifestKey : String) : Except String NotifyReq :=
  if hasPrefix cosKey (req.taskID ++ "/") = false then .error "cos_key 不在任务命名空间内"
  else if manifestKey ≠ "" ∧ isV2AgentKey manifestKey = true then
    .error "旧布局 RAW 不允许携带 v2 manifest 路径"
  else if manifestKey ≠ "" ∧ hasPrefix manifestKey (req.taskID ++ "/") = false then
    .error "manifest_key 不在任务命名空间内"
  else .ok req

def validateNotifyObjectKeys (layoutV2 : Bool) (req : NotifyReq) : Except String NotifyReq :=
  if trimSpace req.taskID = "" then .error "task_id 缺失"
  else if trimSpace req.cosKey = "" then .ok req
  else if isV2AgentKey (trimSpace req.cosKey) then
    if layoutV2 then validateV2Keys req (trimSpace req.cosKey) (trimSpace req.manifestKey)
    else .error "Agent v2 对象布局未启用，拒绝 v2 路径"
  else validateOldKeys req (trimSpace req.cosKey) (trimSpace req.manifestKey)

/-- An answer. -/
structure NotifyAnswer where
  code : Nat
  message : String := ""

namespace TaskStore

variable (s : TaskStore)

/-- There is an attempt of the task with that identifier. -/
def hasAttempt (tid : String) (attemptID : Nat) : Bool :=
  s.attempts.any fun row => row.id = attemptID ∧ row.taskTID = tid

/-- The checks of `NotifyTaskResult` up to the first write: the task and the request as it is used
from there on, or the answer. The identifiers of a task's attempts are different, so that at most
one is counted. -/
def admitNotification (layoutV2 : Bool) (req : NotifyReq) :
    Except NotifyAnswer (HotmethodTask × NotifyReq) :=
  if req.taskID = "" then
    .error
      { code := 400
        message :=
          "请求参数错误: Key: 'TaskResultNotifyReq.TaskID' Error:Field validation for 'TaskID' " ++
            "failed on the 'required' tag" }
  else
    match s.findTask req.taskID with
    | none => .error { code := 404, message := "任务不存在: " ++ req.taskID }
    | some task =>
      match validateNotifyObjectKeys layoutV2 req with
      | .error message => .error { code := 400, message }
      | .ok req =>
        if isV2AgentKey (trimSpace req.cosKey) ∧ s.hasAttempt task.tid req.attemptID = false then
          .error { code := 400, message := "attempt_id 不属于该任务" }
        else if req.isError = false ∧ trimSpace req.cosKey = "" then
          .error { code := 400, message := "采集成功通知缺少 cos_key" }
        else .ok (task, req)

end TaskStore

end MiniDrop
