import MiniDrop.Base.Json
/-!
# Notifications of results

`notify_apiserver_task_result` puts a JSON document together by hand, with an escape that knows the
quote, the backslash and the line feed.
-/
namespace MiniDrop

open Base

/-- The fields of `hotmethod::TaskResult` that are passed on. -/
structure DropTaskResult where
  (taskID errorMessage cosKey : String := "")
  attemptID : Nat := 0
  artifactSize : Int := 0
  (artifactSHA256 manifestKey errorCode : String := "")
  isPartial : Bool := false

def jsonEscape : List Char → List Char
  | [] => []
  | c :: rest =>
    (if c = '"' ∨ c = '\\' then ['\\', c] else if c = '\n' then ['\\', 'n'] else [c]) ++
      jsonEscape rest

namespace DropTaskResult

/-- The members of the document, in their order. -/
def members (result : DropTaskResult) : List (List Char × JsonScalar) :=
  [("task_id".toList, .text result.taskID.toList),
    ("error_message".toList, .text result.errorMessage.toList),
    ("cos_key".toList, .text result.cosKey.toList), ("attempt_id".toList, .number result.attemptID),
    ("artifact_size".toList, .number result.artifactSize),
    ("artifact_sha256".toList, .text result.artifactSHA256.toList),
    ("manifest_key".toList, .text result.manifestKey.toList),
      ("error_code".toList, .text result.errorCode.toList),
    ("partial".toList, .flag result.isPartial)]

/-- The body that `notify_apiserver_task_result` builds. -/
def notifyBody (result : DropTaskResult) : List Char := writeObject jsonEscape result.members

end DropTaskResult

end MiniDrop
