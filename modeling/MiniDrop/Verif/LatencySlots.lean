import MiniDrop.Agent.LatencySlots
import MiniDrop.Base.Tables
/-!
# Buckets of latencies

A slot is a count of the bounds below the latency, so it is closed above, while its bucket is open.
-/
namespace MiniDrop.Agent

open Base List

/-- **A latency lies in the half-open bucket of its slot exactly if it is below the last bound and
is no bound itself.** The slots are closed above, and the bucket of the last one is empty. -/
theorem latency_in_bucket_iff (deltaNs : Nat) :
    ((slotBucket (recordedSlot deltaNs)).low ≤ deltaNs / 1000 ∧
        deltaNs / 1000 < (slotBucket (recordedSlot deltaNs)).high) ↔
      deltaNs / 1000 < 16384 ∧ deltaNs / 1000 ∉ latencyBounds := by
  unfold recordedSlot
  generalize deltaNs / 1000 = us
  have sorted : latencyBounds.Pairwise (· < ·) := by decide
  have counted : latencySlot us = latencyBounds.countP (· < us) := by
    refine (foldl_ladder sorted 0 0).trans ?_
    split <;> omega
  have most : latencyBounds.countP (· < us) ≤ 15 := countP_le_length
  have order {index bound : Nat} (found : latencyBounds[index]? = some bound) :
      bound < us ↔ index < latencyBounds.countP (· < us) := lt_iff_lt_countP sorted found
  rw [counted]
  generalize latencyBounds.countP (· < us) = slot at most order
  have starts : ∀ index < 15, latencyBounds[index]? = some (slotBucket (index + 1)).low := by decide
  have ends : ∀ slot < 15, latencyBounds[slot]? = some (slotBucket slot).high := by decide
  rcases Nat.lt_or_eq_of_le most with inside | rfl
  · have high := ends slot inside
    have below : us ≤ (slotBucket slot).high :=
      not_lt.mp fun less => lt_irrefl _ ((order high).mp less)
    have low : (slotBucket slot).low ≤ us := by
      cases slot with
      | zero => exact Nat.zero_le us
      | succ index =>
        exact le_of_lt ((order (starts index (by omega))).mpr (Nat.lt_succ_self index))
    refine ⟨fun within => ⟨?_, fun mem => ?_⟩,
      fun without => ⟨low, lt_of_le_of_ne below fun same => ?_⟩⟩
    · have last : ∀ bound ∈ latencyBounds, bound ≤ 16384 := by decide
      exact lt_of_lt_of_le within.2 (last _ (mem_of_getElem? high))
    · -- A bound below the upper end of the bucket is below the latency.
      obtain ⟨index, found⟩ := getElem?_of_mem mem
      have before := (lt_iff_lt_countP sorted found).mp within.2
      have after := (lt_iff_lt_countP sorted high).not.mp (lt_irrefl _)
      exact lt_irrefl us ((order found).mpr (by omega))
    · exact without.2 (same ▸ mem_of_getElem? high)
  · have beyond : 16384 < us :=
      (order (show latencyBounds[14]? = some 16384 from rfl)).mpr (by decide)
    exact iff_of_false (fun within => absurd beyond (lt_asymm within.2))
      fun without => lt_asymm beyond without.1

/-- Two microseconds are counted below two. -/
theorem two_microseconds_outside :
    recordedSlot 2000 = 1 ∧ (slotBucket 1).high = 2 ∧ (slotBucket 1).range = "[1, 2)" :=
  ⟨by decide, rfl, rfl⟩

end MiniDrop.Agent
