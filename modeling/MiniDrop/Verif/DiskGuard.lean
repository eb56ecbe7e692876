import Mathlib.Data.List.Infix
import MiniDrop.Server.DiskGuard
/-!
# Recovery of the capacity guard

A call that sees too little space halts the collection and starts the count anew. From then on the
counter is the length of the ticks at the end that saw enough, and the flag falls only with such a
run.
-/
namespace MiniDrop.DiskGuard

open List

variable {cfg : RecoveryConfig} {state : DiskState} {call : Call} {calls after : List Call}

/-- The call sees too little space. A gate that cannot tell the level refuses before it compares. -/
def Call.Low (call : Call) : Prop :=
  match call.entry with
  | .collectionCapacityOK => call.snap.level ≠ .unknown ∧ call.snap.availableBytes < call.required
  | .tickRecoveryState => call.snap.level = .unknown ∨ call.snap.availableBytes < call.required

/-- The call sees the required space and the hysteresis. -/
def Call.Enough (cfg : RecoveryConfig) (call : Call) : Prop :=
  call.required + cfg.hysteresis ≤ call.snap.availableBytes

def ticks (calls : List Call) : List Call := calls.filter (·.entry = .tickRecoveryState)

/-- As many consecutive ticks as the configuration asks for have seen enough. -/
def Recovered (cfg : RecoveryConfig) (calls : List Call) : Prop :=
  ∃ streak, streak <:+: ticks calls ∧ cfg.checks ≤ streak.length ∧ ∀ tick ∈ streak, tick.Enough cfg

/-- The state after calls that have seen no lack of space, the first of them in a halted state. -/
structure Watched (cfg : RecoveryConfig) (calls : List Call) (state : DiskState) : Prop where
  flag : state.halted = true ∨ Recovered cfg calls
  counter : ∃ streak, streak <:+ ticks calls ∧ streak.length = state.consecutiveOK ∧
    ∀ tick ∈ streak, tick.Enough cfg

theorem step_low (low : call.Low) :
    state.step cfg call = { halted := true, consecutiveOK := 0 } := by
  unfold Call.Low at low
  unfold DiskState.step
  cases entry : call.entry with
  | collectionCapacityOK =>
    rw [entry] at low
    simp only [DiskState.collectionCapacityOK, if_neg low.1, if_pos low.2]
  | tickRecoveryState =>
    rw [entry] at low
    simp [DiskState.tickRecoveryState, low]

/-- A gate that sees no lack of space leaves the state alone. -/
theorem step_gate (gate : call.entry = .collectionCapacityOK) (high : ¬call.Low) :
    state.step cfg call = state := by
  simp only [Call.Low, gate, not_and] at high
  simp only [DiskState.step, gate, DiskState.collectionCapacityOK]
  split_ifs with level low halted
  · rfl
  · exact absurd low (high level)
  · rfl
  · rfl

theorem Watched.append (watched : Watched cfg calls state) (high : ¬call.Low) :
    Watched cfg (calls ++ [call]) (state.step cfg call) := by
  cases entry : call.entry with
  | collectionCapacityOK =>
    have same : ticks (calls ++ [call]) = ticks calls := by simp [ticks, entry]
    rw [step_gate entry high]
    exact ⟨by simpa only [Recovered, same] using watched.flag, same ▸ watched.counter⟩
  | tickRecoveryState =>
    have grown : ticks (calls ++ [call]) = ticks calls ++ [call] := by simp [ticks, entry]
    simp only [Call.Low, entry] at high
    obtain ⟨streak, ends, length, enough⟩ := watched.counter
    have counted : ∃ now, now <:+ ticks (calls ++ [call]) ∧
        now.length = (state.step cfg call).consecutiveOK ∧ ∀ tick ∈ now, tick.Enough cfg := by
      simp only [DiskState.step, entry, DiskState.tickRecoveryState, high, not_false_eq_true,
        true_and, grown]
      split_ifs with more
      · refine ⟨streak ++ [call], suffix_append_inj_of_length_eq rfl |>.mpr ⟨ends, rfl⟩,
          by simp [length], ?_⟩
        exact forall_mem_append.mpr ⟨enough, forall_mem_singleton.mpr more⟩
      · exact ⟨[], nil_suffix, rfl, forall_mem_nil _⟩
    refine ⟨?_, counted⟩
    obtain ⟨now, ends, length, enough⟩ := counted
    by_cases reached : cfg.checks ≤ (state.step cfg call).consecutiveOK
    · exact .inr ⟨now, ends.isInfix, length ▸ reached, enough⟩
    · refine watched.flag.imp (fun halted => ?_) fun ⟨run, inside, long, all⟩ =>
        ⟨run, grown ▸ inside.trans (prefix_append _ _).isInfix, long, all⟩
      simp only [DiskState.step, entry, DiskState.tickRecoveryState, high, not_false_eq_true,
        true_and, if_false] at reached ⊢
      rw [if_neg reached, halted]

/-- **The collection is not resumed prematurely.** After the last call that saw too little space, as
many consecutive ticks as configured saw the required space and the hysteresis. -/
theorem resumed_after_recovery (state : DiskState) (snap : StorageDiskSnapshot) (required : Nat)
    (allowed : ((calls.foldl (DiskState.step cfg) state).collectionCapacityOK snap required).2.1 =
      true)
    (seen : ∃ call ∈ calls, call.Low) :
    ∃ before last after, calls = before ++ last :: after ∧ last.Low ∧ (∀ call ∈ after, ¬call.Low) ∧
      Recovered cfg after := by
  have watched : ∃ before last after, calls = before ++ last :: after ∧ last.Low ∧
      (∀ call ∈ after, ¬call.Low) ∧ Watched cfg after (calls.foldl (DiskState.step cfg) state) := by
    clear allowed
    induction calls using reverseRecOn with
    | nil => simp at seen
    | append_singleton calls call ih =>
      rw [foldl_append, foldl_cons, foldl_nil]
      by_cases low : call.Low
      · rw [step_low low]
        exact ⟨calls, call, [], rfl, low, forall_mem_nil _, .inl rfl, [], nil_suffix, rfl,
          forall_mem_nil _⟩
      · obtain ⟨before, last, after, rfl, lastLow, high, watched⟩ := ih (by simpa [low] using seen)
        exact ⟨before, last, after ++ [call], by simp, lastLow,
          by simpa [or_imp, forall_and] using ⟨high, low⟩, watched.append low⟩
  obtain ⟨before, last, after, split, low, high, flag, -⟩ := watched
  refine ⟨before, last, after, split, low, high, flag.resolve_left fun halted => ?_⟩
  rw [DiskState.collectionCapacityOK, if_pos halted] at allowed
  split_ifs at allowed

/-- A refused call and two ticks that see 15 bytes free, where 5 are required. -/
def twoTicks : List Call :=
  [⟨.collectionCapacityOK, ⟨.normal, 4⟩, 5⟩, ⟨.tickRecoveryState, ⟨.normal, 15⟩, 5⟩,
    ⟨.tickRecoveryState, ⟨.normal, 15⟩, 5⟩]

theorem resumed_after_two_ticks :
    ∃ before last after, twoTicks = before ++ last :: after ∧ last.Low ∧
      (∀ call ∈ after, ¬call.Low) ∧ Recovered ⟨10, 2⟩ after :=
  resumed_after_recovery {} ⟨.normal, 15⟩ 5 (by decide) ⟨_, mem_cons_self, by decide, by decide⟩

end MiniDrop.DiskGuard
