import Mathlib.Data.Int.Order.Basic
import Mathlib.Order.Basic
import MiniDrop.Agent.RuntimeRefresh
/-!
# Refreshes are a minute apart

The clock and the uptime are read one after the other and the uptime in steps, so that the start of
a process comes out differently by milliseconds, and its last refresh is not found. A process for
which the two always differ by the same is refreshed once a minute, if only entries older than that
are dropped.
-/
namespace MiniDrop.Agent.RefreshRounds

open Base List

variable {ticksPerSec startTicks : Nat} {pid nowMs t boot : Int} {exe : String} {seen : ProcReading}
  {last : List (JavaRefreshKey × Int)} {key other : JavaRefreshKey} {w next : RefreshRounds}
  {action : RefreshAction}

/-- Any two rounds with a refresh of the process are a minute apart. -/
def Apart (pid : Int) (w : RefreshRounds) : Prop :=
  (w.attached.filter (·.1 = pid)).Pairwise fun earlier later => earlier.2 + 60000 ≤ later.2

/-- The process was read with its start and its executable, and the clock ahead of the uptime by the
same as ever. -/
abbrev Steady (startTicks : Nat) (exe : String) (boot : Int) (seen : ProcReading) : Prop :=
  seen.startTicks = some startTicks ∧ seen.exe = exe ∧ 10 ≤ seen.uptime ∧
    seen.clock - (seen.uptime / 10 * 10 : Nat) = boot

/-- There is room for another entry, or an entry of another process is a minute old. -/
abbrev Room (last : List (JavaRefreshKey × Int)) (pid nowMs : Int) : Prop :=
  last.length < 4096 ∨ ∃ entry ∈ last, entry.1.pid ≠ pid ∧ entry.2 + 60000 ≤ nowMs

/-- A visit finds room, and the process steady if it is its own. -/
def Regular (pid : Int) (startTicks : Nat) (exe : String) (boot : Int) (w : RefreshRounds) :
    RefreshAction → Prop
  | .round _ _ => True
  | .visit visited check _ record _ => Room w.lastRefresh visited w.nowMs ∧
      (visited = pid → Steady startTicks exe boot check ∧ Steady startTicks exe boot record)

/-- The key of a steady process. -/
def steadyKey (ticksPerSec : Nat) (pid : Int) (startTicks : Nat) (exe : String) (boot : Int) :
    JavaRefreshKey where
  pid := pid
  startMs := if 0 < pid ∧ 0 < ticksPerSec then boot + (startTicks * 1000 / ticksPerSec : Nat) else 0
  exe := exe

theorem Steady.key_eq (steady : Steady startTicks exe boot seen) :
    javaKeyFor ticksPerSec pid seen = steadyKey ticksPerSec pid startTicks exe boot := by
  obtain ⟨ticks, rfl, up, rfl⟩ := steady
  have positive : 0 < seen.uptime / 10 * 10 := by omega
  simp only [javaKeyFor, steadyKey, runtimeProcessStartMs, ticks, positive, true_and]
  split_ifs <;> rfl

/-- The table has an entry of the key, and none from before a time. -/
def Remembers (last : List (JavaRefreshKey × Int)) (key : JavaRefreshKey) (t : Int) : Prop :=
  (∃ refreshed, (key, refreshed) ∈ last) ∧ ∀ refreshed, (key, refreshed) ∈ last → t ≤ refreshed

/-- A refresh that is remembered has to be a minute old. -/
theorem Remembers.le_of_allowed (held : Remembers last key t)
    (allowed : javaRefreshAllowed last key nowMs = true) : t + 60000 ≤ nowMs := by
  obtain ⟨⟨refreshed, mem⟩, all⟩ := held
  unfold javaRefreshAllowed at allowed
  cases found : last.lookup key with
  | none => exact absurd rfl (lookup_eq_none_iff.mp found _ mem |> bne_iff_ne.mp)
  | some first =>
    have late := all first (mem_of_lookup found)
    rw [found, Option.all_some, decide_eq_true_eq, kJavaRefreshCooldownMs] at allowed
    omega

theorem oldestEntry_spec (first : JavaRefreshKey × Int) (rest : List (JavaRefreshKey × Int)) :
    oldestEntry first rest ∈ first :: rest ∧ ∀ entry ∈ first :: rest,
      (oldestEntry first rest).2 ≤ entry.2 := by
  induction rest generalizing first with
  | nil => exact ⟨mem_cons_self, fun entry mem => (congrArg Prod.snd (mem_singleton.mp mem)).ge⟩
  | cons second rest ih =>
    unfold oldestEntry at ih ⊢
    rw [foldl_cons]
    split_ifs with older
    · obtain ⟨among, least⟩ := ih second
      refine ⟨mem_cons_of_mem first among, forall_mem_cons.mpr ⟨?_, least⟩⟩
      have head := least second mem_cons_self
      omega
    · obtain ⟨among, least⟩ := ih first
      obtain ⟨head, tail⟩ := forall_mem_cons.mp least
      refine ⟨?_, forall_mem_cons.mpr ⟨head, forall_mem_cons.mpr ⟨?_, tail⟩⟩⟩
      · rcases mem_cons.mp among with same | later
        · exact mem_cons.mpr (.inl same)
        · exact mem_cons_of_mem _ (mem_cons_of_mem _ later)
      · omega

/-- Where there is room, an entry is only dropped when it is a minute old. -/
theorem javaRefreshRecord_cases (room : Room last key.pid nowMs) :
    javaRefreshRecord last key nowMs = place last key nowMs ∨
      ∃ oldest ∈ place last key nowMs, oldest.2 + 60000 ≤ nowMs ∧
        javaRefreshRecord last key nowMs = release (place last key nowMs) oldest.1 := by
  unfold javaRefreshRecord
  dsimp only
  split_ifs with full
  · rcases room with short | ⟨entry, mem, differs, old⟩
    · have bound := (release_sublist last key).length_le
      rw [place, length_cons] at full
      unfold release at bound
      omega
    · have kept : entry ∈ place last key nowMs :=
        mem_place.mpr (.inr ⟨mem, fun same => differs (congrArg (·.pid) same)⟩)
      obtain ⟨among, least⟩ := oldestEntry_spec (key, nowMs) (release last key)
      have before := least entry kept
      exact .inr ⟨_, among, by omega, rfl⟩
  · exact .inl rfl

/-- What was just recorded is remembered. -/
theorem remembers_recorded (room : Room last key.pid nowMs) :
    Remembers (javaRefreshRecord last key nowMs) key nowMs := by
  have placed : Remembers (place last key nowMs) key nowMs := by
    refine ⟨⟨nowMs, mem_place.mpr (.inl rfl)⟩, fun refreshed mem => ?_⟩
    rcases mem_place.mp mem with new | old
    · exact (congrArg Prod.snd new).ge
    · exact absurd rfl old.2
  rcases javaRefreshRecord_cases room with same | ⟨oldest, mem, old, same⟩
  · rwa [same]
  · have differs : key ≠ oldest.1 := by
      rintro rfl
      have late := placed.2 oldest.2 mem
      omega
    rw [same]
    exact ⟨⟨nowMs, mem_release.mpr ⟨mem_place.mpr (.inl rfl), differs⟩⟩,
      fun refreshed kept => placed.2 refreshed (mem_release.mp kept).1⟩

/-- What is remembered stays so when another process is recorded, or is a minute old. -/
theorem Remembers.record (held : Remembers last key t) (room : Room last other.pid nowMs)
    (differs : key ≠ other) :
    t + 60000 ≤ nowMs ∨ Remembers (javaRefreshRecord last other nowMs) key t := by
  obtain ⟨⟨refreshed, mem⟩, all⟩ := held
  have kept : ∀ s, (key, s) ∈ place last other nowMs ↔ (key, s) ∈ last := by
    intro s
    rw [mem_place, or_iff_right fun new => differs (congrArg Prod.fst new), and_iff_left differs]
  rcases javaRefreshRecord_cases room with same | ⟨oldest, among, old, same⟩
  · rw [same]
    exact .inr ⟨⟨refreshed, (kept _).mpr mem⟩, fun s inside => all s ((kept s).mp inside)⟩
  · by_cases own : key = oldest.1
    · subst own
      have late := all oldest.2 ((kept _).mp among)
      exact .inl (by omega)
    · rw [same]
      exact .inr ⟨⟨refreshed, mem_release.mpr ⟨(kept _).mpr mem, own⟩⟩,
        fun s inside => all s ((kept s).mp (mem_release.mp inside).1)⟩

/-- The refreshes of the process are a minute apart, and one that is not a minute old is
remembered. -/
structure Cooled (pid : Int) (key : JavaRefreshKey) (w : RefreshRounds) : Prop where
  apart : Apart pid w
  held : ∀ t, (pid, t) ∈ w.attached → t + 60000 ≤ w.nowMs ∨ Remembers w.lastRefresh key t
  past : w.nowMs ≤ w.clock

/-- A process is refreshed: another one, or the process itself after its minute. -/
theorem Cooled.attach {visited : Int} (cooled : Cooled pid key w)
    (attached : next.attached = w.attached ++ [(visited, w.nowMs)])
    (table : next.lastRefresh = javaRefreshRecord w.lastRefresh other w.nowMs)
    (room : Room w.lastRefresh other.pid w.nowMs) (same : next.nowMs = w.nowMs)
    (past : next.nowMs ≤ next.clock)
    (turn : visited = pid ∧ other = key ∧ javaRefreshAllowed w.lastRefresh key w.nowMs = true ∨
      visited ≠ pid ∧ key ≠ other) : Cooled pid key next := by
  rcases turn with ⟨rfl, rfl, allowed⟩ | ⟨away, differs⟩
  · have elapsed : ∀ t, (visited, t) ∈ w.attached → t + 60000 ≤ w.nowMs := fun t mem =>
      (cooled.held t mem).elim id fun held => held.le_of_allowed allowed
    refine ⟨?_, fun t mem => ?_, past⟩
    · unfold Apart
      rw [attached, filter_append, pairwise_append]
      refine ⟨cooled.apart, Pairwise.filter _ (pairwise_singleton _ _), ?_⟩
      rintro ⟨earlier, t⟩ early later late
      obtain ⟨mem, own⟩ := mem_filter.mp early
      obtain rfl : earlier = visited := of_decide_eq_true own
      obtain rfl := mem_singleton.mp (mem_filter.mp late).1
      exact elapsed t mem
    · rw [attached] at mem
      rw [same, table]
      rcases mem_append.mp mem with old | new
      · exact .inl (elapsed t old)
      · cases mem_singleton.mp new
        exact .inr (remembers_recorded room)
  · refine ⟨?_, fun t mem => ?_, past⟩
    · unfold Apart
      rw [attached, filter_append, filter_singleton, decide_eq_false away, cond_false, append_nil]
      exact cooled.apart
    · rw [attached] at mem
      rw [same, table]
      rcases mem_append.mp mem with old | new
      · exact (cooled.held t old).elim .inl fun held => held.record room differs
      · exact absurd (congrArg Prod.fst (mem_singleton.mp new)).symm away

theorem Cooled.step (cooled : Cooled pid (steadyKey ticksPerSec pid startTicks exe boot) w)
    (regular : Regular pid startTicks exe boot w action)
    (taken : RefreshRounds.step ticksPerSec w action = some next) :
    Cooled pid (steadyKey ticksPerSec pid startTicks exe boot) next := by
  have past := cooled.past
  cases action with
  | round =>
    obtain ⟨later, taken⟩ := Option.ite_none_right_eq_some.mp taken
    cases taken
    exact ⟨cooled.apart, fun t mem => (cooled.held t mem).imp_left (·.trans (past.trans later)),
      le_rfl⟩
  | visit visited check t0 record ended =>
    obtain ⟨order, taken⟩ := Option.ite_none_right_eq_some.mp taken
    have later : w.nowMs ≤ ended := by omega
    obtain ⟨room, steady⟩ := regular
    split_ifs at taken with skipped attaches
    · cases taken
      exact ⟨cooled.apart, cooled.held, later⟩
    · cases taken
      refine cooled.attach rfl rfl room rfl later ?_
      by_cases own : visited = pid
      · subst own
        obtain ⟨checked, recorded⟩ := steady rfl
        rw [checked.key_eq, Bool.and_eq_true] at attaches
        exact .inl ⟨rfl, recorded.key_eq, attaches.2⟩
      · exact .inr ⟨own, fun same => own (congrArg (·.pid) same).symm⟩
    · cases taken
      exact ⟨cooled.apart, cooled.held, later⟩

/-- **A process that is read steadily is refreshed at most once a minute.** -/
theorem refreshes_apart (ticksPerSec : Nat) (clock : Int) (pid : Int) (startTicks : Nat)
    (exe : String) (boot : Int) (w : RefreshRounds) (actions : List RefreshAction)
    (regular : Along (step ticksPerSec) (Regular pid startTicks exe boot) (start clock) actions)
    (reached : run (step ticksPerSec) (start clock) actions = some w) : Apart pid w := by
  have fresh : Cooled pid (steadyKey ticksPerSec pid startTicks exe boot) (start clock) :=
    ⟨Pairwise.nil, fun _ mem => absurd mem not_mem_nil, le_rfl⟩
  exact (run_invariant_along (fun _ _ _ cooled regular taken => cooled.step regular taken)
    fresh regular reached).apart

instance (pid : Int) (startTicks : Nat) (exe : String) (boot : Int) (w : RefreshRounds)
    (action : RefreshAction) : Decidable (Regular pid startTicks exe boot w action) := by
  cases action <;> dsimp only [Regular] <;> infer_instance

/-- A JVM that was started a second after the boot is read at an uptime. -/
def sampleReading (uptime : Nat) : ProcReading where
  startTicks := some 100
  uptime := uptime
  clock := 500000 + uptime
  exe := "/usr/bin/java"

/-- A visit of the JVM that reads its uptime twice. -/
def sampleVisit (check record : Nat) : RefreshAction :=
  .visit 7 (sampleReading check) (500000 + check) (sampleReading record) (500000 + record)

/-- Three rounds read full hundredths of a second; the first and the last one refresh. -/
theorem full_hundredths_apart :
    (run (step 100) (start 0) [.round 1000000 true, sampleVisit 500000 500020, .round 1000500 true,
        sampleVisit 500500 500500, .round 1060000 true, sampleVisit 560000 560010]).isSome = true ∧
      ∀ w, run (step 100) (start 0) [.round 1000000 true, sampleVisit 500000 500020,
        .round 1000500 true, sampleVisit 500500 500500, .round 1060000 true,
          sampleVisit 560000 560010] = some w → Apart 7 w :=
  ⟨by decide, fun w reached => refreshes_apart 100 0 7 100 "/usr/bin/java" 500000 w _
    (along_of_decide (by decide)) reached⟩

/-- The first refresh is recorded between two hundredths of a second, and the next round refreshes
again. -/
theorem refreshed_again_at_once :
    ∃ w, run (step 100) (start 0) [.round 1000000 true, sampleVisit 500000 500019,
      .round 1000100 true, sampleVisit 500100 500120] = some w ∧ ¬Apart 7 w := by
  obtain ⟨w, reached, attached⟩ :=
    exists_run (p := fun w => w.attached = [(7, 1000000), (7, 1000100)])
      (show (run (step 100) (start 0) [.round 1000000 true, sampleVisit 500000 500019,
      .round 1000100 true, sampleVisit 500100 500120]).any _ = true by decide)
  refine ⟨w, reached, fun apart => ?_⟩
  unfold Apart at apart
  rw [attached] at apart
  exact absurd apart (by decide)

end MiniDrop.Agent.RefreshRounds
