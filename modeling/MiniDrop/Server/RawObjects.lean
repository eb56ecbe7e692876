import Mathlib.Data.String.Basic
import MiniDrop.Server.NotifyResult
/-!
# The poller and raw objects

The poller looks for a raw object of a task that is uploading, among the objects under the name of
the task and then among the files of the host. If it finds one, it moves the task to done and queues
an analysis job as a notification does, without an attempt and without a look at tombstones.
-/
namespace MiniDrop

/-- `filepath.Base`. -/
def fileBase (name : String) : String :=
  match ((splitSlash name).filter (· ≠ "")).getLast? with
  | some last => last
  | none => if name = "" then "." else "/"

/-- `filepath.Ext` of a name without slashes. -/
def fileExt (base : String) : String :=
  if '.' ∈ base.toList then
    String.ofList ('.' :: (base.toList.reverse.takeWhile (· ≠ '.')).reverse)
  else ""

def isRawCollectionName (name : String) : Bool :=
  let base := fileBase name.toLower
  if fileExt base ∈ [".svg", ".json", ".md", ".txt", ".html"] then false
  else
    base.toList.tails.any ("perf".toList.isPrefixOf ·) || hasSuffix base ".data" ||
      hasSuffix base ".bpf" || hasSuffix base ".collapsed" || hasSuffix base ".pb.gz"

/-- The names that are preferred, in this order. -/
def wantedRawNames : List String := ["raw.bpf", "profile.collapsed", "profile.pb.gz", "perf.data"]

/-- The first file with the first of the names that any has. -/
def pickWanted (files : List (String × Int)) : Option (String × Int) :=
  wantedRawNames.findSome? fun wanted => files.find? fun file => fileBase file.1 = wanted

def pickRawCollectionObject (files : List (String × Int)) : Option (String × Int) :=
  pickWanted files <|> (files.find? fun file => fileBase file.1 = "perf.data")
    <|> files.find? fun file => isRawCollectionName file.1

def pickRawCollectionLocalFile (files : List (String × Int)) : Option (String × Int) :=
  let files := files.filter (·.1 ≠ "")
  pickWanted files
    <|> (files.find? fun file => hasSuffix file.1 "_perf.data" || fileBase file.1 = "perf.data")
    <|> files.find? fun file => isRawCollectionName file.1

namespace ArtifactStore

variable (s : ArtifactStore)

/-- The objects under the name of a task, in the order of their keys. -/
def listObjects (tid : String) : List (String × Int) :=
  (Base.orderBy (·.1) (s.objects.filter fun object => hasPrefix object.1 (tid ++ "/"))).map
    fun object => (object.1, object.2.size)

/-- `findRawCollectionArtifact`, with the files of the host. -/
def findRawCollectionArtifact (cfg : NotifyConfig) (tid : String) (files : List (String × Int)) :
    Option (String × Int) :=
  if tid = "" then none
  else
    (if cfg.connected then pickRawCollectionObject (s.listObjects tid) else none)
      <|> pickRawCollectionLocalFile files

/-- `ensureAnalysisQueued`: the transaction without an attempt. -/
def ensureAnalysisQueued (cfg : NotifyConfig) (tid key : String) (size now : Int) : ArtifactStore :=
  if tid = "" ∨ trimSpace key = "" then s
  else (s.queueAnalysis cfg.generations tid 0 key size (s.planAnalysis tid 0 key) now).getD s

/-- `pollRunningTasks` for one task that it has read, with nothing else in between. -/
def pollTask (cfg : NotifyConfig) (task : HotmethodTask) (files : List (String × Int)) (now : Int) :
    ArtifactStore :=
  let found := s.findRawCollectionArtifact cfg task.tid files
  let moved := { s with toTaskStore := Job.pollTask s.toTaskStore task now found.isSome }
  match task.beginTime, task.duration, found with
  | some _, some _, some (key, size) =>
    if task.status = .uploading then moved.ensureAnalysisQueued cfg task.tid key size now else moved
  | _, _, _ => moved

end ArtifactStore

/-! ## The system, one transaction after the other -/

/-- What can happen. -/
inductive ResultAction where
  /-- Anything that other requests and workers do to tasks and attempts. -/
  | tasks (next : TaskStore)
  /-- An agent uploads an object. -/
  | upload (key : String) (object : TaskObject)
  | notify (body : NotifyReq) (now : Int)
  /-- The poller comes to a task that it has read. -/
  | poll (task : HotmethodTask) (files : List (String × Int)) (now : Int)

/-- One step of the system. -/
def ArtifactStore.resultStep (cfg : NotifyConfig) (s : ArtifactStore) :
    ResultAction → Option ArtifactStore
  | .tasks next => some { s with toTaskStore := next }
  | .upload key object => some (s.putObject key object)
  | .notify body now => some (s.notifyTaskResult cfg body now).store
  | .poll task files now => some (s.pollTask cfg task files now)

end MiniDrop
