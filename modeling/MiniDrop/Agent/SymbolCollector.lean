import MiniDrop.Base.Runs
import MiniDrop.Server.Text
/-!
# Uploads of the agent

`upload_build_ids_async` asks the server which build identifiers it misses, sends those, and
remembers what the server has; `ensure_kernel_symbol_uploaded` does so for the symbols of the
kernel. Both take an answer for a success whenever `curl` received one.
-/
namespace MiniDrop.Agent

open Base

/-- What the server answers. -/
structure HttpAnswer where
  status : Nat
  body : List Char
  deriving DecidableEq

/-- The server has done what it was asked for. -/
def HttpAnswer.succeeded (answer : HttpAnswer) : Bool := 200 ≤ answer.status && answer.status < 300

/-- The closed strings of a text that is cut at its quotes. -/
def quotedTokens : List (List Char) → List String
  | _ :: token :: next :: rest => String.ofList token :: quotedTokens (next :: rest)
  | _ => []

/-- `extract_missing`. -/
def extractMissing (response : List Char) : List String :=
  match response.tails.find? ("\"missing\"".toList.isPrefixOf ·) with
  | none => []
  | some rest =>
    let array := (rest.dropWhile (· ≠ '[')).drop 1
    if array.contains ']' then quotedTokens ((array.takeWhile (· ≠ ']')).splitOn '"') else []

/-- What a thread exchanges with the server: the build identifiers it asks about, the answer to its
check, if it gets one, the build identifiers it can read, and the answers to its uploads. All
threads of a process write their requests to one file, so that a thread may ask about what another
one has written there. -/
structure Exchange where
  asked : List String
  check : Option HttpAnswer
  readable : List String
  puts : List (Option HttpAnswer)

/-- An answer of the server to a check of build identifiers, or to an upload. -/
inductive SymbolAnswer where
  | check (asked : List String) (answer : HttpAnswer)
  | put (buildID : String) (answer : HttpAnswer)
  deriving DecidableEq

/-- The build identifiers that are remembered, those of the threads, and what the server has
answered. -/
structure SymbolUploads where
  uploadedBuildIDs : List String := []
  threads : List (List String) := []
  answers : List SymbolAnswer := []
  deriving DecidableEq

/-- `upload_build_ids_async` starts a thread, or the thread ends. -/
inductive UploadRound where
  | start (entries : List String) (apiBaseURL : String)
  | finish (index : Nat) (exchange : Exchange)

namespace SymbolUploads

/-- `upload_build_ids_sync`, which reads at most 65536 bytes of the answer to its check. -/
def uploadBuildIDsSync (w : SymbolUploads) (entries : List String) (exchange : Exchange) :
    SymbolUploads :=
  match exchange.check with
  | none => w
  | some answer =>
    match extractMissing (answer.body.take 65536) with
    | [] => { w with
        uploadedBuildIDs := w.uploadedBuildIDs ++ entries
        answers := w.answers ++ [.check exchange.asked answer] }
    | missing =>
      let sent := missing.filter fun id => entries.contains id && exchange.readable.contains id
      let uploaded := (sent.zip exchange.puts).filterMap fun put => put.2.map (put.1, ·)
      { w with
        uploadedBuildIDs := w.uploadedBuildIDs ++ uploaded.map Prod.fst
        answers := w.answers ++ [.check exchange.asked answer] ++ uploaded.map fun put =>
          .put put.1 put.2 }

/-- One step of the uploads. -/
def step (w : SymbolUploads) : UploadRound → Option SymbolUploads
  | .start entries apiBaseURL =>
    let pending := entries.filter fun id => !w.uploadedBuildIDs.contains id
    if apiBaseURL = "" ∨ pending = [] then some w
      else some { w with threads := w.threads ++ [pending] }
  | .finish index exchange => w.threads[index]?.map fun entries =>
      ({ w with threads := w.threads.eraseIdx index } : SymbolUploads).uploadBuildIDsSync entries
        exchange

end SymbolUploads

/-- The start of an answer, without its blanks. -/
def compactResponse (answer : HttpAnswer) : String :=
  String.ofList ((answer.body.take 4096).filter fun c => c ≠ ' ' ∧ ¬('\t' ≤ c ∧ c ≤ '\r'))

/-- `response_upload_required`. -/
def responseUploadRequired (answer : HttpAnswer) : Bool :=
  contains (compactResponse answer) "\"upload_required\":true"

/-- `response_upload_not_required`. -/
def responseUploadNotRequired (answer : HttpAnswer) : Bool :=
  contains (compactResponse answer) "\"upload_required\":false"

/-- `ensure_kernel_symbol_uploaded`, with the digest of the file and the answers to the check and
the upload. -/
def ensureKernelSymbolUploaded (sum : String) (check put : Option HttpAnswer) : String :=
  if sum = "" then ""
  else match check with
    | none => ""
    | some answer =>
      if responseUploadNotRequired answer then sum
      else if !responseUploadRequired answer then ""
      else if put.isSome then sum else ""

end MiniDrop.Agent
