import MiniDrop.Base.Keyed
import MiniDrop.Base.Runs
/-!
# Refreshes of JVM maps

The loop of `collect_runtime_maps` over the sampled JVMs. The last refresh of a process is kept
under a start time that is computed anew, from the uptime and the clock, whenever it is looked up or
written.
-/
namespace MiniDrop.Agent

open Base

/-- What is read of a process: its start in `stat`, if there is one, the true uptime in
milliseconds, the clock, and its executable. -/
structure ProcReading where
  startTicks : Option Nat
  uptime : Nat
  clock : Int
  exe : String

structure JavaRefreshKey where
  (pid startMs : Int)
  exe : String
  deriving DecidableEq

/-- `operator<`. -/
def JavaRefreshKey.before (key other : JavaRefreshKey) : Bool :=
  decide (key.pid < other.pid) || key.pid = other.pid && (decide (key.startMs < other.startMs) ||
    key.startMs = other.startMs && decide (key.exe < other.exe))

/-- `runtime_process_start_ms`; `/proc/uptime` counts in steps of ten milliseconds. -/
def runtimeProcessStartMs (ticksPerSec : Nat) (pid : Int) (seen : ProcReading) : Option Int :=
  let uptimeMs := seen.uptime / 10 * 10
  if 0 < pid ∧ 0 < uptimeMs ∧ 0 < ticksPerSec then
    seen.startTicks.map fun ticks => seen.clock - uptimeMs + (ticks * 1000 / ticksPerSec : Nat)
  else none

def javaKeyFor (ticksPerSec : Nat) (pid : Int) (seen : ProcReading) : JavaRefreshKey where
  pid := pid
  startMs := (runtimeProcessStartMs ticksPerSec pid seen).getD 0
  exe := seen.exe

def kMaxJvmRefreshPerRound : Nat := 8

def kJavaRefreshBudgetMs : Int := 5000

def kJavaRefreshCooldownMs : Int := 60 * 1000

/-- `runtime_java_refresh_allowed`. -/
def javaRefreshAllowed (last : List (JavaRefreshKey × Int)) (key : JavaRefreshKey) (nowMs : Int) :
    Bool :=
  (last.lookup key).all fun refreshed => decide (kJavaRefreshCooldownMs ≤ nowMs - refreshed)

/-- The oldest entry, and of several the one with the first key. -/
def oldestEntry (first : JavaRefreshKey × Int) (rest : List (JavaRefreshKey × Int)) :
    JavaRefreshKey × Int :=
  rest.foldl (fun oldest entry =>
    if entry.2 < oldest.2 ∨ entry.2 = oldest.2 ∧ entry.1.before oldest.1 then entry
      else oldest) first

/-- `runtime_java_refresh_record`, which drops the oldest of too many entries. -/
def javaRefreshRecord (last : List (JavaRefreshKey × Int)) (key : JavaRefreshKey) (nowMs : Int) :
    List (JavaRefreshKey × Int) :=
  let entered := place last key nowMs
  if 4096 < entered.length then release entered (oldestEntry (key, nowMs) (release last key)).1
    else entered

/-- The rounds: the table, the last reading of the clock, the variables of the round, and the
processes for which `asprof jcmd` was run, with the times of their rounds. -/
structure RefreshRounds where
  lastRefresh : List (JavaRefreshKey × Int) := []
  (clock nowMs : Int)
  javaPerfMapEnabled : Bool := false
  jvmProcessed : Nat := 0
  refreshBudgetMs : Int := 0
  attached : List (Int × Int) := []

/-- A round begins, or comes to a JVM. Of the readings of a visit, those that are not made repeat
the last one. -/
inductive RefreshAction where
  | round (nowMs : Int) (javaPerfMapEnabled : Bool)
  | visit (pid : Int) (check : ProcReading) (t0 : Int) (record : ProcReading) (ended : Int)

namespace RefreshRounds

/-- Before the first round. -/
def start (clock : Int) : RefreshRounds where
  clock := clock
  nowMs := clock

/-- One step of the rounds; the clock does not go back. -/
def step (ticksPerSec : Nat) (w : RefreshRounds) : RefreshAction → Option RefreshRounds
  | .round nowMs javaPerfMapEnabled =>
    if w.clock ≤ nowMs then
      some { w with
        clock := nowMs
        nowMs
        javaPerfMapEnabled
        jvmProcessed := 0
        refreshBudgetMs := kJavaRefreshBudgetMs }
    else none
  | .visit pid check t0 record ended =>
    if w.clock ≤ check.clock ∧ check.clock ≤ t0 ∧ t0 ≤ record.clock ∧ record.clock ≤ ended then
      if !w.javaPerfMapEnabled || decide (kMaxJvmRefreshPerRound ≤ w.jvmProcessed) then
        some { w with clock := ended }
      else if decide (0 < w.refreshBudgetMs) &&
          javaRefreshAllowed w.lastRefresh (javaKeyFor ticksPerSec pid check) w.nowMs then
        some { w with
          clock := ended
          lastRefresh := javaRefreshRecord w.lastRefresh (javaKeyFor ticksPerSec pid record) w.nowMs
          jvmProcessed := w.jvmProcessed + 1
          refreshBudgetMs := w.refreshBudgetMs - (ended - t0)
          attached := w.attached ++ [(pid, w.nowMs)] }
      else some { w with clock := ended, jvmProcessed := w.jvmProcessed + 1 }
    else none

end RefreshRounds

end MiniDrop.Agent
