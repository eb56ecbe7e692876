import Mathlib.Data.Int.Basic
/-!
# Schedules with an interval

The first slot of a schedule and the slots after it, in nanoseconds. A `time.Duration` counts
nanoseconds in 64 bits, and the loops that look for a slot in the future get fuel.
-/
namespace MiniDrop

/-- `time.Duration(intervalSeconds) * time.Second`. -/
def intervalDuration (intervalSeconds : UInt64) : Int64 := intervalSeconds.toInt64 * 1000000000

/-- `for !next.After(now) { next = next.Add(interval) }`. -/
def advancePast (interval now : Int) : Nat → Int → Option Int
  | 0, _ => none
  | fuel + 1, next =>
    if now < next then some next else advancePast interval now fuel (next + interval)

def intervalNextRun (fuel : Nat) (startAt : Option Int) (intervalSeconds : UInt64) (now : Int) :
    Option Int :=
  let anchor := startAt.getD now
  if intervalSeconds = 0 then some anchor
  else
    let interval := intervalDuration intervalSeconds
    if now < anchor then some anchor else advancePast interval.toInt now fuel anchor

/-- The slot to which `triggerIntervalSchedule` advances a schedule. -/
def triggerIntervalSchedule (fuel : Nat) (scheduledAt : Int) (intervalSeconds : UInt64)
    (now : Int) : Option Int :=
  advancePast (intervalDuration intervalSeconds).toInt now fuel scheduledAt

/-- The checks of `CreateSchedule` on an interval, and the duration of a sample. -/
def checkInterval (intervalSeconds duration : UInt64) : Except String UInt64 :=
  if intervalSeconds < 60 then .error s!"采样间隔({intervalSeconds}s)不能小于 1 分钟"
  else
    let duration := if duration = 0 then 10 else duration
    if duration ≥ intervalSeconds then
      .error s!"采样时长({duration}s)需小于采样间隔({intervalSeconds}s)，否则相邻窗口会重叠"
    else .ok duration

end MiniDrop
