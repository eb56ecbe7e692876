import MiniDrop.Agent.CoreTargets
/-!
# The maps of the kernel collector are exact

A call that succeeds leaves exactly its targets in the maps, if what it finds there is remembered or
among its targets. A thread that starts between the two scans of a call is entered and not
remembered, and so are the thread groups that a call entered before it failed. In a run of calls
that succeed and whose scans agree, the maps are exact after every call.
-/
namespace MiniDrop.Agent.CoreTargets

open Base List

variable {w : CoreTargets} {targets : List ScannedTarget} {tid tgid key : Nat}

/-- A scan of the call has seen the thread in a thread group that was asked for. -/
def Seen (targets : List ScannedTarget) (tid tgid : Nat) : Prop :=
  ∃ target ∈ targets, 0 < target.pid ∧ target.pid.toNat = tgid ∧
    (tid ∈ target.first ∨ tid ∈ target.second)

/-- The keys that are asked for: the processes, and 0 without any or for the host. -/
def Requested (hostWildcard : Bool) (targets : List ScannedTarget) (key : Nat) : Prop :=
  (∃ target ∈ targets, 0 < target.pid ∧ target.pid.toNat = key) ∨
    key = 0 ∧ (hostWildcard = true ∨ ∀ target ∈ targets, target.pid ≤ 0)

/-- The maps have what was asked for and nothing else. -/
def Exact (w : CoreTargets) (targets : List ScannedTarget) : Prop :=
  (∀ key, key ∈ w.tgidMap ↔ Requested w.hostWildcard targets key) ∧
    ∀ entry ∈ w.tidMap, Seen targets entry.1 entry.2

/-- What the maps have before a call is remembered or asked for; a thread is remembered and not seen
by the first scan, or seen by the second one, or seen in its thread group. -/
def Accounted (w : CoreTargets) (targets : List ScannedTarget) : Prop :=
  (∀ key ∈ w.tgidMap, key ∈ w.targetIds ∨ Requested w.hostWildcard targets key) ∧
    ∀ entry ∈ w.tidMap,
      (entry.1 ∈ w.targetTids ∧ ∀ target ∈ targets, 0 < target.pid → entry.1 ∉ target.first) ∨
        (∃ target ∈ targets, 0 < target.pid ∧ entry.1 ∈ target.second) ∨
        Seen targets entry.1 entry.2

@[simp]
theorem mem_positiveTargets {target : ScannedTarget} :
    target ∈ positiveTargets targets ↔ target ∈ targets ∧ 0 < target.pid := by
  simp [positiveTargets]

theorem mem_processTids :
    tid ∈ processTids targets ↔ ∃ target ∈ targets, 0 < target.pid ∧ tid ∈ target.first := by
  simp [processTids, and_assoc]

theorem mem_nextIds : key ∈ w.nextIds targets ↔ Requested w.hostWildcard targets key := by
  have none_iff : (positiveTargets targets).map (·.pid.toNat) = [] ↔
      ∀ target ∈ targets, target.pid ≤ 0 := by
    simp [positiveTargets]
  have pids : key ∈ (positiveTargets targets).map (·.pid.toNat) ↔
      ∃ target ∈ targets, 0 < target.pid ∧ target.pid.toNat = key := by
    simp [and_assoc]
  simp only [nextIds, Requested, mem_orderBy, mem_distinct, Bool.or_eq_true, List.isEmpty_iff,
    none_iff]
  rw [or_comm (a := w.hostWildcard = true)]
  split_ifs with host
  · rw [List.mem_append, pids, List.mem_singleton, and_iff_left host]
  · rw [pids, or_iff_left (fun zero => host zero.2)]

/-- The keys of the thread groups are exact, if those found are remembered or asked for. -/
theorem tgids_exact_iff {next : List Nat} :
    (∀ key, key ∈ (w.tgidMap.filter fun id => !w.targetIds.contains id || next.contains id) ∪ next ↔
        key ∈ next) ↔ ∀ key ∈ w.tgidMap, key ∈ w.targetIds ∨ key ∈ next := by
  have kept : ∀ key, key ∈ (w.tgidMap.filter fun id =>
      !w.targetIds.contains id || next.contains id) ∪ next ↔
        (key ∈ w.tgidMap ∧ (key ∉ w.targetIds ∨ key ∈ next)) ∨ key ∈ next := by
    simp
  refine forall_congr' fun key => ?_
  rw [kept]
  tauto

/-- The threads are exact, if those that are neither taken out nor written again were seen. -/
theorem tids_exact_iff {table entries : List (Nat × Nat)}
    (fresh : ∀ entry ∈ entries, Seen targets entry.1 entry.2) :
    (∀ entry ∈ entries.foldl (fun table entry => place table entry.1 entry.2) table,
        Seen targets entry.1 entry.2) ↔
      ∀ entry ∈ table, entry.1 ∈ entries.map Prod.fst ∨ Seen targets entry.1 entry.2 := by
  constructor
  · intro exact entry found
    by_cases written : entry.1 ∈ entries.map Prod.fst
    · exact .inl written
    · exact .inr (exact entry (mem_foldl_place_of_mem found written))
  · intro known entry present
    rcases mem_foldl_place present with new | ⟨old, kept⟩
    · exact fresh entry new
    · exact (known entry old).resolve_left kept

theorem exact_iff_accounted {tgidUpdates tidUpdates : Nat}
    (succeeds : (w.updateTargets targets tgidUpdates tidUpdates).2 = true) :
    (w.updateTargets targets tgidUpdates tidUpdates).1.Exact targets ↔ w.Accounted targets := by
  unfold updateTargets at succeeds ⊢
  dsimp only at succeeds ⊢
  split_ifs at succeeds ⊢ with ids tids
  rw [take_of_length_le ids, take_of_length_le tids]
  refine and_congr ?_ ?_
  · simp only [← mem_nextIds (w := w)]
    exact tgids_exact_iff
  · refine (tids_exact_iff ?_).trans ?_
    · intro entry mem
      obtain ⟨target, positive, listed⟩ := mem_flatMap.mp mem
      obtain ⟨tid, seen, rfl⟩ := mem_map.mp listed
      obtain ⟨among, above⟩ := mem_positiveTargets.mp positive
      exact ⟨target, among, above, rfl, .inr seen⟩
    · simp only [mem_filter, and_imp]
      refine forall₂_congr fun entry _ => ?_
      have written : entry.1 ∈ ((positiveTargets targets).flatMap fun target =>
          target.second.map (·, target.pid.toNat)).map Prod.fst ↔
            ∃ target ∈ targets, 0 < target.pid ∧ entry.1 ∈ target.second := by
        simp [and_assoc]
      have kept :
          (!w.targetTids.contains entry.1 || (processTids targets).contains entry.1) = true ↔
            ¬(entry.1 ∈ w.targetTids ∧
              ∀ target ∈ targets, 0 < target.pid → entry.1 ∉ target.first) := by
        simp [mem_processTids, imp_iff_not_or]
      rw [written, kept, imp_iff_not_or, not_not]

/-- **A call that succeeds leaves the maps exact if and only if what it found was accounted
for.** -/
theorem targets_exact_iff (w : CoreTargets) (targets : List ScannedTarget)
    (tgidUpdates tidUpdates : Nat)
    (succeeds : (w.updateTargets targets tgidUpdates tidUpdates).2 = true) :
    (w.updateTargets targets tgidUpdates tidUpdates).1.Exact targets ↔ w.Accounted targets :=
  exact_iff_accounted succeeds

/-- The observed process has threads 5 and 6, both of which are seen twice. -/
theorem observed_process_exact :
    ((({ tgidMap := [0], targetIds := [0] } : CoreTargets).setHostWildcard true).updateTargets
        [⟨5, [5, 6], [5, 6]⟩] 9 9).2 = true ∧
      ((({ tgidMap := [0], targetIds := [0] } : CoreTargets).setHostWildcard true).updateTargets
        [⟨5, [5, 6], [5, 6]⟩] 9 9).1.Exact [⟨5, [5, 6], [5, 6]⟩] :=
  ⟨by decide, (targets_exact_iff _ _ 9 9 (by decide)).mpr
    ⟨fun key found => .inl found, forall_mem_nil _⟩⟩

/-- Thread 6 of process 5 starts between the scans, and stays when process 7 is observed instead. -/
theorem late_thread_stays :
    ((({} : CoreTargets).updateTargets [⟨5, [5], [5, 6]⟩] 9 9).1.updateTargets
        [⟨7, [7], [7]⟩] 9 9).2 = true ∧
      ¬((({} : CoreTargets).updateTargets [⟨5, [5], [5, 6]⟩] 9 9).1.updateTargets
        [⟨7, [7], [7]⟩] 9 9).1.Exact [⟨7, [7], [7]⟩] := by
  refine ⟨by decide, fun exact => ?_⟩
  obtain ⟨target, mem, -, same, -⟩ := exact.2 (6, 5) (by decide)
  rw [mem_singleton.mp mem] at same
  exact absurd same (by decide)

/-! ## Runs of calls -/

/-- The maps hold nothing that is not remembered. -/
structure Remembered (w : CoreTargets) : Prop where
  tgids : ∀ key ∈ w.tgidMap, key ∈ w.targetIds
  tids : ∀ entry ∈ w.tidMap, entry.1 ∈ w.targetTids

/-- The calls that leave nothing unremembered: `SetHostWildcard`, and `UpdateTargets` if it succeeds
and both scans of a target list the same threads. -/
def Steady (w : CoreTargets) : CoreCall → Prop
  | .setHostWildcard _ => True
  | .updateTargets targets tgidUpdates tidUpdates =>
    (w.updateTargets targets tgidUpdates tidUpdates).2 = true ∧
      ∀ target ∈ targets, 0 < target.pid → ∀ tid, tid ∈ target.first ↔ tid ∈ target.second

/-- The states of runs of steady calls from empty maps. -/
inductive Steadily : CoreTargets → Prop
  | start : Steadily {}
  | call {w : CoreTargets} {call : CoreCall} (before : Steadily w) (steady : w.Steady call) :
    Steadily (call.run w)

theorem Remembered.accounted (remembered : w.Remembered) (agree : ∀ target ∈ targets,
    0 < target.pid → ∀ tid, tid ∈ target.first ↔ tid ∈ target.second) : w.Accounted targets := by
  refine ⟨fun key found => .inl (remembered.tgids key found), fun entry found => ?_⟩
  by_cases again : ∃ target ∈ targets, 0 < target.pid ∧ entry.1 ∈ target.first
  · obtain ⟨target, mem, positive, seen⟩ := again
    exact .inr (.inl ⟨target, mem, positive, (agree target mem positive _).mp seen⟩)
  · exact .inl ⟨remembered.tids entry found,
      fun target mem positive seen => again ⟨target, mem, positive, seen⟩⟩

/-- What a steady call leaves is remembered. -/
theorem Remembered.run (remembered : w.Remembered) {call : CoreCall} (steady : w.Steady call) :
    (call.run w).Remembered := by
  cases call with
  | setHostWildcard => exact ⟨remembered.tgids, remembered.tids⟩
  | updateTargets targets tgidUpdates tidUpdates =>
    obtain ⟨succeeds, agree⟩ := steady
    have exact := (exact_iff_accounted succeeds).mpr (remembered.accounted agree)
    unfold CoreCall.run
    unfold updateTargets at succeeds exact ⊢
    dsimp only at succeeds exact ⊢
    split_ifs at succeeds exact ⊢
    refine ⟨fun key found => mem_nextIds.mpr ((exact.1 key).mp found), fun entry found => ?_⟩
    obtain ⟨target, mem, positive, -, seen⟩ := exact.2 entry found
    refine mem_processTids.mpr ⟨target, mem, positive, seen.elim id fun second => ?_⟩
    exact (agree target mem positive _).mpr second

theorem Steadily.remembered (reached : Steadily w) : w.Remembered := by
  induction reached with
  | start => exact ⟨forall_mem_nil _, forall_mem_nil _⟩
  | call _ steady ih => exact ih.run steady

/-- **Along a run of steady calls the maps are exact** after every `UpdateTargets`. -/
theorem Steadily.exact (reached : Steadily w) {tgidUpdates tidUpdates : Nat}
    (steady : w.Steady (.updateTargets targets tgidUpdates tidUpdates)) :
    (w.updateTargets targets tgidUpdates tidUpdates).1.Exact targets :=
  (exact_iff_accounted steady.1).mpr (reached.remembered.accounted steady.2)

end MiniDrop.Agent.CoreTargets
