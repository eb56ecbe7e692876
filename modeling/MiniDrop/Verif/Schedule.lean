import Mathlib.Algebra.Order.Ring.Int
import MiniDrop.Server.Schedule
/-!
# Slots of a schedule

The loops find the first slot in the future exactly if the interval fits the 64 bits of a duration.
A longer one wraps around: where it becomes negative the loops never end, and where it becomes
positive they leave the grid.
-/
namespace MiniDrop

variable {interval now : Int}

/-- A loop over a positive interval ends at the first slot in the future. -/
theorem advancePast_spec (interval now : Int) (slots : Nat) :
    ∀ next, now < next + slots * interval → ∃ k : Nat,
      advancePast interval now (slots + 1) next = some (next + k * interval) ∧
        now < next + k * interval ∧ ∀ j : Nat, j < k → next + j * interval ≤ now := by
  induction slots with
  | zero =>
    intro next past
    have ahead : now < next := by simpa using past
    refine ⟨0, ?_, past, fun j below => absurd below (Nat.not_lt_zero j)⟩
    rw [advancePast, if_pos ahead]
    simp
  | succ slots ih =>
    intro next past
    by_cases ahead : now < next
    · refine ⟨0, ?_, by simpa using ahead, fun j below => absurd below (Nat.not_lt_zero j)⟩
      rw [advancePast, if_pos ahead]
      simp
    · have moved : now < next + interval + slots * interval := by
        rw [Nat.cast_succ, add_mul, one_mul] at past
        omega
      obtain ⟨k, ends, later, first⟩ := ih (next + interval) moved
      have shift (j : Nat) : next + ((j + 1 : Nat) : Int) * interval = next + interval +
          j * interval := by
        rw [Nat.cast_succ, add_mul, one_mul]
        omega
      refine ⟨k + 1, ?_, ?_, fun j below => ?_⟩
      · rw [advancePast, if_neg ahead, shift]
        exact ends
      · rw [shift]
        exact later
      · cases j with
        | zero =>
          have start : next ≤ now := by omega
          simpa using start
        | succ j =>
          rw [shift]
          exact first j (Nat.lt_of_succ_lt_succ below)

theorem advancePast_stuck (backward : interval ≤ 0) (fuel : Nat) :
    ∀ next, next ≤ now → advancePast interval now fuel next = none := by
  induction fuel with
  | zero => exact fun _ _ => rfl
  | succ fuel ih =>
    intro next behind
    have ahead : ¬now < next := by omega
    rw [advancePast, if_neg ahead]
    apply ih
    omega

/-- The slot that a schedule should get: its anchor if that is in the future, and otherwise the
first slot of the grid after it that is. -/
def OnGrid (interval anchor now slot : Int) : Prop :=
  if now < anchor then slot = anchor
  else ∃ k : Nat, 1 ≤ k ∧ slot = anchor + k * interval ∧ now < slot ∧
    ∀ j : Nat, 1 ≤ j → j < k → anchor + j * interval ≤ now

theorem advancePast_onGrid (forward : 0 < interval) (anchor now : Int) :
    ∃ fuel slot, advancePast interval now fuel anchor = some slot ∧
    OnGrid interval anchor now slot := by
  unfold OnGrid
  by_cases ahead : now < anchor
  · refine ⟨1, anchor, ?_, ?_⟩
    · rw [advancePast, if_pos ahead]
    · rw [if_pos ahead]
  · have enough : now < anchor + ((now - anchor).toNat + 1 : Nat) * interval := by
      have least : 1 ≤ interval := forward
      have scaled := mul_le_mul_of_nonneg_left least (Int.natCast_nonneg ((now - anchor).toNat + 1))
      omega
    obtain ⟨k, ends, later, first⟩ := advancePast_spec interval now _ anchor enough
    refine ⟨_, _, ends, ?_⟩
    rw [if_neg ahead]
    refine ⟨k, ?_, rfl, later, fun j _ below => first j below⟩
    by_contra none
    obtain rfl : k = 0 := by omega
    simp only [Nat.cast_zero, zero_mul, add_zero] at later
    exact ahead later

/-- The interval of a schedule in nanoseconds. -/
def intervalNanoseconds (intervalSeconds : UInt64) : Int := intervalSeconds.toNat * 1000000000

theorem intervalDuration_toInt (intervalSeconds : UInt64) :
    (intervalDuration intervalSeconds).toInt =
    (intervalNanoseconds intervalSeconds).bmod (2 ^ 64) := by
  have value : intervalSeconds.toInt64.toInt = (intervalSeconds.toNat : Int).bmod (2 ^ 64) :=
    BitVec.toInt_eq_toNat_bmod intervalSeconds.toBitVec
  unfold intervalDuration intervalNanoseconds
  rw [Int64.toInt_mul, value]
  exact Int.bmod_mul_bmod

/-- A duration is the interval itself exactly if the interval fits. -/
theorem intervalDuration_eq_iff (intervalSeconds : UInt64) :
    (intervalDuration intervalSeconds).toInt = intervalNanoseconds intervalSeconds ↔
      intervalNanoseconds intervalSeconds < 2 ^ 63 := by
  have low : 0 ≤ intervalNanoseconds intervalSeconds := by
    unfold intervalNanoseconds
    omega
  rw [intervalDuration_toInt]
  constructor
  · intro same
    have bound : (intervalNanoseconds intervalSeconds).bmod (2 ^ 64) < 2 ^ 63 :=
      Int.bmod_lt (by decide)
    omega
  · intro fits
    exact Int.bmod_eq_of_le_mul_two (by omega) (by omega)

/-- **A schedule that `CreateSchedule` accepts gets the first slot of its grid in the future, at its
creation and whenever it is triggered, exactly if its interval fits the 64 bits of a duration.** -/
theorem slots_on_grid_iff (intervalSeconds duration : UInt64)
    (accepted : (checkInterval intervalSeconds duration).isOk = true) :
    ((∀ startAt now, ∃ fuel slot, intervalNextRun fuel startAt intervalSeconds now = some slot ∧
          OnGrid (intervalNanoseconds intervalSeconds) (startAt.getD now) now slot) ∧
        ∀ scheduledAt now, ∃ fuel slot,
          triggerIntervalSchedule fuel scheduledAt intervalSeconds now = some slot ∧
          OnGrid (intervalNanoseconds intervalSeconds) scheduledAt now slot) ↔
      intervalNanoseconds intervalSeconds < 2 ^ 63 := by
  have minute : ¬intervalSeconds < 60 := by
    intro short
    unfold checkInterval at accepted
    rw [if_pos short] at accepted
    cases accepted
  have nonzero : ¬intervalSeconds = 0 := by
    rintro rfl
    exact minute (by decide)
  have forward : 0 < intervalNanoseconds intervalSeconds := by
    have bound := UInt64.le_iff_toNat_le.mp (UInt64.not_lt.mp minute)
    have sixty : (60 : UInt64).toNat = 60 := rfl
    unfold intervalNanoseconds
    omega
  rw [← intervalDuration_eq_iff]
  constructor
  · intro grid
    -- The first slot after an anchor that is now is one interval later.
    obtain ⟨fuel, slot, ends, onGrid⟩ := grid.2 0 0
    obtain ⟨k, first, rfl, later, before⟩ : ∃ k : Nat, 1 ≤ k ∧
        slot = 0 + k * intervalNanoseconds intervalSeconds ∧ 0 < slot ∧ ∀ j : Nat, 1 ≤ j → j < k →
        0 + j * intervalNanoseconds intervalSeconds ≤ 0 := onGrid
    obtain rfl : k = 1 := by
      by_contra other
      have second := before 1 le_rfl (by omega)
      omega
    by_cases backward : (intervalDuration intervalSeconds).toInt ≤ 0
    · rw [triggerIntervalSchedule, advancePast_stuck backward fuel 0 le_rfl] at ends
      cases ends
    · have ahead : (0 : Int) < 0 + (intervalDuration intervalSeconds).toInt := by omega
      unfold triggerIntervalSchedule at ends
      match fuel with
      | 0 => cases ends
      | 1 => cases ends
      | fuel + 2 =>
        rw [advancePast, if_neg (lt_irrefl 0), advancePast, if_pos ahead] at ends
        have same := Option.some.inj ends
        omega
  · intro fits
    have moves (anchor now : Int) := advancePast_onGrid forward anchor now
    refine ⟨fun startAt now => ?_, fun scheduledAt now => ?_⟩
    · obtain ⟨fuel, slot, ends, onGrid⟩ := moves (startAt.getD now) now
      refine ⟨fuel, slot, ?_, onGrid⟩
      unfold intervalNextRun
      dsimp only
      rw [if_neg nonzero, fits]
      split
      · next ahead =>
        unfold OnGrid at onGrid
        rw [if_pos ahead] at onGrid
        rw [onGrid]
      · exact ends
    · unfold triggerIntervalSchedule
      rw [fits]
      exact moves scheduledAt now

/-- A schedule of one minute. -/
theorem minute_schedule_on_grid :
    (checkInterval 60 0).isOk = true ∧ ∀ scheduledAt now, ∃ fuel slot,
      triggerIntervalSchedule fuel scheduledAt 60 now = some slot ∧
        OnGrid (intervalNanoseconds 60) scheduledAt now slot :=
  ⟨by decide, ((slots_on_grid_iff 60 0 (by decide)).mpr (by decide)).2⟩

/-- A schedule of 9223372037 seconds is accepted, and its first slot is looked for for ever. -/
theorem long_interval_never_ends :
    (checkInterval 9223372037 0).isOk = true ∧
      ∀ fuel, intervalNextRun fuel (some 0) 9223372037 0 = none := by
  refine ⟨by decide, fun fuel => ?_⟩
  have backward : (intervalDuration 9223372037).toInt ≤ 0 := by decide
  exact advancePast_stuck backward fuel 0 le_rfl

end MiniDrop
