import MiniDrop.Base.Keyed
import MiniDrop.Base.Tables
import Mathlib.Data.String.Basic
/-!
# The spool of the agent

Every session has a directory of batches. A batch that is still open is a journal; once it is closed
it is a file that waits for its upload, and goes when the server has taken it. A batch that the
server has refused for good is kept aside. All collectors of the agent share the directories.
-/
namespace MiniDrop.Agent

open Base

/-- `safe_spool_component`: byte by byte, so a character beyond ASCII gives several underscores. -/
def safeSpoolComponent (value : String) : String :=
  let out := value.toList.flatMap fun c =>
    if c.isAlphanum || c = '-' || c = '_' then [c] else List.replicate c.utf8Size '_'
  if out = [] then "unknown" else String.ofList out

/-- What a file of the spool is, by its suffix. A second file that is set aside under one name
carries the time. -/
inductive SpoolSuffix
  | journal
  | json
  | rejected (mark : Option Int)
  deriving DecidableEq

/-- The path of a file: `session_spool_directory`, the name of the batch and the suffix. -/
structure SpoolPath where
  (directory batchID : String)
  suffix : SpoolSuffix
  deriving DecidableEq

def journalPath (sessionSID batchID : String) : SpoolPath :=
  ⟨safeSpoolComponent sessionSID, safeSpoolComponent batchID, .journal⟩

def spoolPath (sessionSID batchID : String) : SpoolPath :=
  ⟨safeSpoolComponent sessionSID, safeSpoolComponent batchID, .json⟩

/-- A journal under the name that its batch has once it is closed. -/
def SpoolPath.closed (path : SpoolPath) : SpoolPath := { path with suffix := .json }

inductive SpoolPostResult
  | acknowledged
  | permanentlyRejected
  | failed

/-- `build_batch_json`: what it writes about a batch of a session. -/
structure BatchBody (ω : Type) where
  (batchID sessionSID : String)
  windows : List ω

variable {ω : Type}

/-- The files of the spool. -/
abbrev Spool (ω : Type) := List (SpoolPath × BatchBody ω)

namespace Spool

variable (spool : Spool ω)

/-- `list_session_spool_files`: those of one directory and suffix, in the order of their names. The
names of all batches begin as `append_spool_files` asks for. -/
def listSessionSpoolFiles (sessionSID : String) (suffix : SpoolSuffix) : Spool ω :=
  orderBy (·.1.batchID)
    (spool.filter fun file => file.1.directory = safeSpoolComponent sessionSID &&
    file.1.suffix = suffix)

/-- `ContinuousSessionHasPendingSpool`. -/
def hasPendingSpool (sessionSID : String) : Bool :=
  !(spool.listSessionSpoolFiles sessionSID .json).isEmpty ||
    !(spool.listSessionSpoolFiles sessionSID .journal).isEmpty

/-- `rename`: the target is replaced; a file that is not there leaves all as it was. -/
def rename (source target : SpoolPath) : Spool ω :=
  match spool.lookup source with
  | none => spool
  | some body => place (release spool source) target body

/-- `persist_batch`, where the disk takes it: the journal is written anew. -/
def persistBatch (body : BatchBody ω) : Spool ω :=
  place spool (journalPath body.sessionSID body.batchID) body

def finalizeBatch (sessionSID batchID : String) : Spool ω :=
  spool.rename (journalPath sessionSID batchID) (spoolPath sessionSID batchID)

/-- The journals of a list of files, each under its closed name. -/
def closeJournals : List SpoolPath → Spool ω → Spool ω
  | [], spool => spool
  | path :: rest, spool => closeJournals rest (spool.rename path path.closed)

/-- `recover_spool_journals`: the journals of all sessions. -/
def recoverSpoolJournals : Spool ω :=
  closeJournals ((spool.map Prod.fst).filter (·.suffix = .journal)) spool

def recoverSessionSpoolJournals (sessionSID : String) : Spool ω :=
  closeJournals ((spool.listSessionSpoolFiles sessionSID .journal).map Prod.fst) spool

/-- The path of a refused batch: a name that is taken is told apart by the time. -/
def rejectedPath (path : SpoolPath) (nowMs : Int) : SpoolPath :=
  if (spool.lookup { path with suffix := .rejected none }).isSome then
    { path with suffix := .rejected (some nowMs) }
  else { path with suffix := .rejected none }

/-- `quarantine_rejected_spooled_batch`. -/
def quarantine (path : SpoolPath) (nowMs : Int) : Spool ω :=
  spool.rename path (spool.rejectedPath path nowMs)

end Spool

/-- How an upload goes: the answer, whether the file could be removed or set aside, and the time. -/
structure PostOutcome where
  result : SpoolPostResult
  moved : Bool := true
  nowMs : Int := 0

/-- The spool after an upload of a file. -/
def Spool.posted (spool : Spool ω) (path : SpoolPath) (outcome : PostOutcome) : Spool ω :=
  if outcome.moved then
    match outcome.result with
    | .acknowledged => release spool path
    | .permanentlyRejected => spool.quarantine path outcome.nowMs
    | .failed => spool
  else spool

/-- `drain_one_spooled_batch`, once its turn has come: the spool and what was sent. -/
def Spool.drainOneSpooledBatch (spool : Spool ω) (sessionSID : String) (outcome : PostOutcome) :
    Spool ω × List (BatchBody ω) :=
  match spool.listSessionSpoolFiles sessionSID .json with
  | [] => (spool, [])
  | (path, body) :: _ => (spool.posted path outcome, [body])

/-- `DrainOneContinuousSessionBatch`: a refused batch is set aside and the next one follows. It
answers whether no file is left. Without an answer for it an upload has failed. -/
def Spool.drainOneContinuousSessionBatch (sessionSID : String) :
    List PostOutcome → Spool ω → Spool ω × List (BatchBody ω) × Bool
  | [], spool =>
    let recovered := spool.recoverSessionSpoolJournals sessionSID
    (recovered, [], (recovered.listSessionSpoolFiles sessionSID .json).isEmpty)
  | outcome :: rest, spool =>
    let recovered := spool.recoverSessionSpoolJournals sessionSID
    match recovered.listSessionSpoolFiles sessionSID .json with
    | [] => (recovered, [], true)
    | (path, body) :: _ =>
      let after := recovered.posted path outcome
      let empty := (after.listSessionSpoolFiles sessionSID .json).isEmpty
      match outcome.result with
      | .failed => (after, [body], false)
      | .acknowledged => (after, [body], outcome.moved && empty)
      | .permanentlyRejected =>
        if !outcome.moved then (after, [body], false)
        else if empty then (after, [body], true)
        else
          let next := drainOneContinuousSessionBatch sessionSID rest after
          (next.1, body :: next.2.1, next.2.2)

end MiniDrop.Agent
