import MiniDrop.Agent.Samples
/-!
# Increments of SQL digests

The counters of `events_statements_summary_by_digest` add up since the server was started. A poll of
a MySQL target reads the rows of the table, keeps the counters of each digest for the next poll, and
reports what has been added since.
-/
namespace MiniDrop.Agent

/-! ## Rows -/

/-- `DigestCounterState`: the counters of a digest when it was last seen. -/
structure DigestCounterState where
  (countStar sumTimerWaitPs sumRowsExamined : Nat := 0)
  lastSeenMs : Int := 0

structure ParsedDigestRow where
  (schemaName digest digestText : String)
  (countStar sumTimerWaitPs sumRowsExamined : Nat := 0)
  deriving DecidableEq

/-- `strtoull` to the base 10, if there is a number at all: a number that is too large is the
largest one, and a sign is taken modulo 2⁶⁴. -/
def strtoull (text : List Char) : Option Nat :=
  let (negative, rest) : Bool × List Char :=
    match text.dropWhile isSpace with
    | '-' :: rest => (true, rest)
    | '+' :: rest => (false, rest)
    | rest => (false, rest)
  let digits := rest.takeWhile Char.isDigit
  if digits = [] then none
  else
    let value := digits.foldl (fun value digit => value * 10 + (digit.toNat - '0'.toNat)) 0
    some (if 2 ^ 64 ≤ value then 2 ^ 64 - 1 else if negative then (2 ^ 64 - value) % 2 ^ 64
      else value)

/-- `parse_digest_row`: six columns, three of them numbers. -/
def parseDigestRow (line : String) : Option ParsedDigestRow :=
  match line.toList.splitOn '\t' with
  | [schemaName, digest, digestText, count, wait, examined] => do
    let countStar ← strtoull count
    let sumTimerWaitPs ← strtoull wait
    let sumRowsExamined ← strtoull examined
    return {
      schemaName := .ofList schemaName
      digest := .ofList digest
      digestText := .ofList digestText
      countStar, sumTimerWaitPs, sumRowsExamined }
  | _ => none

/-! ## Increments -/

inductive DigestDeltaKind where
  | firstSeen
  | reset
  | increment
  deriving DecidableEq

structure DigestDeltaResult where
  kind : DigestDeltaKind := .firstSeen
  (deltaCalls deltaLatencyUs deltaRows : Nat := 0)

def computeDigestDelta (prev : Option DigestCounterState) (cur : DigestCounterState)
    (nowMs maxGapMs : Int) : DigestDeltaResult :=
  match prev with
  | none => {}
  | some prev =>
    if prev.lastSeenMs > 0 ∧ nowMs - prev.lastSeenMs > maxGapMs then { kind := .reset }
    else if cur.countStar < prev.countStar ∨ cur.sumTimerWaitPs < prev.sumTimerWaitPs ∨
        cur.sumRowsExamined < prev.sumRowsExamined then { kind := .reset }
    else
      { kind := .increment
        deltaCalls := cur.countStar - prev.countStar
        deltaLatencyUs := (cur.sumTimerWaitPs - prev.sumTimerWaitPs) / 1000000
        deltaRows := cur.sumRowsExamined - prev.sumRowsExamined }

def digestStateKey (sessionSID instanceLabel digest : String) : String :=
  sessionSID ++ "|" ++ instanceLabel ++ "|" ++ digest

/-- `g_digestState`. -/
abbrev DigestStates := String → Option DigestCounterState

/-- The fields of `DBSnapshotSample` that a digest fills. -/
structure DigestSample where
  instanceLabel : String
  timestampMs : Int
  (schemaName digestText : String)
  (callCount totalLatencyUs rowsExaminedTotal : Nat)

/-- The session and the target of a poll. -/
structure DigestTarget where
  sessionSID : String
  aggregationWindowSec : Int
  instanceLabel : String

/-- A result that was read: when, and its lines. -/
structure DigestPoll where
  nowMs : Int
  lines : List String

/-- The rows of a result; lines that are no rows are skipped. -/
def DigestPoll.rows (poll : DigestPoll) : List ParsedDigestRow :=
  poll.lines.filterMap parseDigestRow

namespace DigestTarget

variable (target : DigestTarget)

/-- The key of a digest. -/
def key (digest : String) : String := digestStateKey target.sessionSID target.instanceLabel digest

/-- The longest time between two polls that follow each other: one and a half windows. -/
def maxGapMs : Int := max 1 target.aggregationWindowSec * 1500

/-- One row of a result. -/
def collectRow (nowMs : Int) (states : DigestStates) (row : ParsedDigestRow) :
    DigestStates × Option DigestSample :=
  let cur : DigestCounterState := {
    countStar := row.countStar
    sumTimerWaitPs := row.sumTimerWaitPs
    sumRowsExamined := row.sumRowsExamined
    lastSeenMs := nowMs }
  let kept := Function.update states (target.key row.digest) (some cur)
  match states (target.key row.digest) with
  | none => (kept, none)
  | some prev =>
    let delta := computeDigestDelta (some prev) cur nowMs target.maxGapMs
    if delta.kind ≠ .increment then (kept, none)
    else if delta.deltaCalls = 0 then (kept, none)
    else
      (kept, some {
        instanceLabel := target.instanceLabel
        timestampMs := nowMs
        schemaName := row.schemaName
        digestText := row.digestText
        callCount := delta.deltaCalls
        totalLatencyUs := delta.deltaLatencyUs
        rowsExaminedTotal := delta.deltaRows })

/-- The rows of a result in their order, and every sample with the row that it was made from. -/
def collectRows (nowMs : Int) : DigestStates → List ParsedDigestRow →
    DigestStates × List (ParsedDigestRow × DigestSample)
  | states, [] => (states, [])
  | states, row :: rest =>
    let (kept, sample) := target.collectRow nowMs states row
    let (last, samples) := collectRows nowMs kept rest
    (last, (sample.map (Prod.mk row)).toList ++ samples)

/-- `sweep_stale_digest_state_locked`. -/
def sweepStale (states : DigestStates) (nowMs staleAfterMs : Int) : DigestStates :=
  fun key => (states key).filter fun state => ¬nowMs - state.lastSeenMs > staleAfterMs

/-- `collect_mysql_target_digests`, once the query has succeeded. -/
def collectMysqlTargetDigests (states : DigestStates) (poll : DigestPoll) :
    DigestStates × List (ParsedDigestRow × DigestSample) :=
  let (kept, samples) := target.collectRows poll.nowMs states poll.rows
  (sweepStale kept poll.nowMs (max 1 target.aggregationWindowSec * 20000), samples)

/-- Polls one after another. -/
def collectPolls : DigestStates → List DigestPoll →
    DigestStates × List (ParsedDigestRow × DigestSample)
  | states, [] => (states, [])
  | states, poll :: rest =>
    let (kept, samples) := target.collectMysqlTargetDigests states poll
    let (last, later) := collectPolls kept rest
    (last, samples ++ later)

end DigestTarget

end MiniDrop.Agent
