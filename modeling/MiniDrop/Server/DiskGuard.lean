import Mathlib.Algebra.Ring.Nat
/-!
# Capacity guard

The gate of a new collection and the recovery check of every minute, with the flag and the counter
they share. The parquet section is configured, and what a call needs free is its own value, as
`requiredFreeBytes` computes it before the lock is taken. The values kept for the status page are
left out.
-/
namespace MiniDrop.DiskGuard

/-- `StoragePressureLevel`. -/
inductive StoragePressureLevel where
  | normal
  | warning
  | critical
  | emergency
  | unknown
  deriving DecidableEq

/-- `StorageDiskSnapshot`, as far as the guard reads it. -/
structure StorageDiskSnapshot where
  level : StoragePressureLevel
  availableBytes : Nat

/-- The recovery part of the parquet section. -/
structure RecoveryConfig where
  (recoverHysteresisBytes recoveryChecks : Int)

def RecoveryConfig.hysteresis (cfg : RecoveryConfig) : Nat :=
  if cfg.recoverHysteresisBytes ≤ 0 then 128 * 2 ^ 20 else cfg.recoverHysteresisBytes.toNat

def RecoveryConfig.checks (cfg : RecoveryConfig) : Nat :=
  if cfg.recoveryChecks ≤ 0 then 2 else cfg.recoveryChecks.toNat

/-- `parquetDiskState`. -/
structure DiskState where
  consecutiveOK : Nat := 0
  halted : Bool := false

/-- The new state, the answer and its reason. A disk of an unknown level is refused before the
lock. -/
def DiskState.collectionCapacityOK (state : DiskState) (snap : StorageDiskSnapshot)
    (required : Nat) : DiskState × Bool × String :=
  if snap.level = .unknown then (state, false, "无法检查采集磁盘状态（statfs 失败），已暂停新采集")
  else if snap.availableBytes < required then
    ({ halted := true, consecutiveOK := 0 }, false, "采集被拒绝：可用空间低于动态 required_free 门槛")
  else if state.halted then (state, false, "采集仍处于磁盘恢复观察期")
  else (state, true, "")

/-- The new state, whose flag is the answer. -/
def DiskState.tickRecoveryState (cfg : RecoveryConfig) (state : DiskState)
    (snap : StorageDiskSnapshot) (required : Nat) : DiskState :=
  let blocked := snap.level = .unknown ∨ snap.availableBytes < required
  let consecutiveOK :=
    if ¬blocked ∧ required + cfg.hysteresis ≤ snap.availableBytes then
      state.consecutiveOK + 1
    else 0
  { consecutiveOK
    halted := if blocked then true else if cfg.checks ≤ consecutiveOK then false else state.halted }

inductive Entry where
  | collectionCapacityOK
  | tickRecoveryState
  deriving DecidableEq

/-- A call, by its critical section. -/
structure Call where
  entry : Entry
  snap : StorageDiskSnapshot
  required : Nat

def DiskState.step (cfg : RecoveryConfig) (state : DiskState) (call : Call) : DiskState :=
  match call.entry with
  | .collectionCapacityOK => (state.collectionCapacityOK call.snap call.required).1
  | .tickRecoveryState => state.tickRecoveryState cfg call.snap call.required

end MiniDrop.DiskGuard
