import MiniDrop.Agent.AttemptThreads
import Mathlib.Data.Nat.Basic
/-!
# Attempts that are run once

The tracker tells attempts apart, but the queue takes every task. An attempt is run once as long as
what is delivered was never queued, started or completed before.
-/
namespace MiniDrop.Agent

open HeartbeatStep Base List AttemptThreads

variable {attempt : AttemptStatus}

/-- An event after which an attempt must not be started. -/
def AttemptEvent.Bars (attempt : AttemptStatus) : AttemptEvent → Prop
  | .started other => other = attempt
  | .reported completed => attempt ∈ completed

instance (attempt : AttemptStatus) : DecidablePred (AttemptEvent.Bars attempt)
  | .started other => inferInstanceAs (Decidable (other = attempt))
  | .reported completed => inferInstanceAs (Decidable (attempt ∈ completed))

/-- An attempt is not started twice, or after it was reported as completed. -/
def RunsOnce (attempt : AttemptStatus) (log : List AttemptEvent) : Prop :=
  log.Pairwise fun later earlier => later = .started attempt → ¬earlier.Bars attempt

/-- The attempt that is about to be queued. -/
def HeartbeatStep.pushed : HeartbeatStep → List AttemptStatus
  | .pushing attempt => [attempt]
  | _ => []

theorem AttemptTracker.mem_markCompleted {t : AttemptTracker} {a : AttemptStatus}
    (other : a ≠ attempt) : (a ∈ t.running → a ∈ (t.markCompleted attempt).running) ∧
      (a ∈ (t.markCompleted attempt).completed → a ∈ t.completed) := by
  constructor
  · exact fun mem => mem_filter.mpr ⟨mem, decide_eq_true other⟩
  · intro mem
    have listed : a ∈ if attempt ∈ t.completed then t.completed else t.completed ++ [attempt] := by
      unfold markCompleted at mem
      dsimp only at mem
      generalize (if attempt ∈ t.completed then t.completed else t.completed ++ [attempt]) =
        all at mem ⊢
      split at mem
      · exact mem_of_mem_tail mem
      · exact mem
    split at listed
    · exact listed
    · exact (mem_append.mp listed).resolve_right fun last => other (mem_singleton.mp last)

/-- `MarkRunning` keeps the attempts, and lists one that is not completed. -/
theorem AttemptTracker.mem_markRunning (t : AttemptTracker) (a attempt : AttemptStatus) :
    (a ∈ t.running ∨ a = attempt ∧ a ∉ t.completed → a ∈ (t.markRunning attempt).running) ∧
      (t.markRunning attempt).completed = t.completed := by
  unfold AttemptTracker.markRunning
  split
  · next known =>
    refine ⟨fun listed => listed.elim id fun own => ?_, rfl⟩
    exact own.1 ▸ known.resolve_right (own.1 ▸ own.2)
  · refine ⟨fun listed => mem_append.mpr (listed.imp_right fun own => ?_), rfl⟩
    exact mem_singleton.mpr own.1

namespace AttemptThreads

variable {w next : AttemptThreads} {a : AttemptStatus} {action : ThreadAction}

/-- How often the worker will start an attempt. -/
def waiting (w : AttemptThreads) (a : AttemptStatus) : Nat :=
  w.queue.count a + w.heartbeat.pushed.count a

/-- How often an attempt was started and is not through. -/
def holding (w : AttemptThreads) (a : AttemptStatus) : Nat :=
  w.executing.toList.count a + w.uploads.count a + (w.uploading.toList.map Prod.fst).count a

/-- An attempt was started, and its result is neither delivered nor given up. One whose result was
given up stays in `running_`, as nothing marks it as completed. -/
def Executes (w : AttemptThreads) (a : AttemptStatus) : Prop :=
  w.executing = some a ∨ a ∈ w.uploads ∨ w.uploading = some (a, false)

/-- A task that was received is new: it is not queued, and was neither started nor completed
before. -/
def New (w : AttemptThreads) : HeartbeatStep → Prop
  | .received a => a ∉ w.queue ∧ a ∉ w.tracker.completed ∧ ∀ event ∈ w.log, ¬event.Bars a
  | _ => True

instance (w : AttemptThreads) : DecidablePred w.New
  | .received a => inferInstanceAs
      (Decidable (a ∉ w.queue ∧ a ∉ w.tracker.completed ∧ ∀ event ∈ w.log, ¬event.Bars a))
  | .idle | .pushing _ | .checking _ | .requesting _ | .confirming _ => isTrue trivial

/-- A task that is delivered is new. -/
def DeliversNew (w : AttemptThreads) (action : ThreadAction) : Prop :=
  action = .handle → w.New w.heartbeat
  deriving Decidable

/-- What holds of an attempt in every state. -/
structure Sound (a : AttemptStatus) (w : AttemptThreads) : Prop where
  single : w.waiting a + w.holding a ≤ 1
  fresh : 0 < w.waiting a → a ∉ w.tracker.completed ∧ ∀ event ∈ w.log, ¬event.Bars a
  running : 0 < w.waiting a + w.holding a → a ∈ w.tracker.running
  started : 0 < w.holding a → ∃ event ∈ w.log, event.Bars a
  gone : w.heartbeat = .confirming a → w.waiting a + w.holding a = 0
  once : RunsOnce a w.log

/-- The log stays, or goes on with an event that does not matter to the attempt. -/
def Apart (a : AttemptStatus) (w next : AttemptThreads) : Prop :=
  next.log = w.log ∨ ∃ event, next.log = event :: w.log ∧ event ≠ .started a ∧
    (0 < next.waiting a → ¬event.Bars a)

section

variable (sound : Sound a w)
include sound

section

variable (waits : next.waiting a ≤ w.waiting a) (holds : next.holding a ≤ w.holding a)
include waits holds

theorem Sound.keep (log : Apart a w next)
    (running : 0 < next.waiting a + next.holding a → a ∈ w.tracker.running →
      a ∈ next.tracker.running)
    (completed : 0 < next.waiting a → a ∈ next.tracker.completed → a ∈ w.tracker.completed)
    (gone : next.heartbeat = .confirming a →
      next.waiting a + next.holding a = 0 ∨ w.heartbeat = .confirming a) : Sound a next := by
  have single := sound.single
  have grown : (∀ event ∈ w.log, event ∈ next.log) ∧ RunsOnce a next.log ∧
      (0 < next.waiting a → ∀ event ∈ next.log, event.Bars a → event ∈ w.log) := by
    rcases log with same | ⟨event, same, other, unbarred⟩
    · rw [same]
      exact ⟨fun _ listed => listed, sound.once, fun _ _ listed _ => listed⟩
    · rw [same]
      refine ⟨fun _ => mem_cons_of_mem event, .cons (fun _ _ => (absurd · other)) sound.once, ?_⟩
      exact fun some _ listed bars =>
        (mem_cons.mp listed).resolve_left fun new => unbarred some (new ▸ bars)
  refine ⟨by omega, fun some => ?_, fun some => running some (sound.running (by omega)),
    fun some => ?_, fun confirming => ?_, grown.2.1⟩
  · have before := sound.fresh (by omega)
    exact ⟨fun listed => before.1 (completed some listed),
      fun event listed bars => before.2 event (grown.2.2 some event listed bars) bars⟩
  · obtain ⟨event, listed, bars⟩ := sound.started (by omega)
    exact ⟨event, grown.1 event listed, bars⟩
  · cases gone confirming with
    | inl zero => exact zero
    | inr before =>
      have zero := sound.gone before
      omega

theorem Sound.calm (log : next.log = w.log) (tracker : next.tracker = w.tracker)
    (gone : next.heartbeat = .confirming a →
      next.waiting a + next.holding a = 0 ∨ w.heartbeat = .confirming a) : Sound a next :=
  sound.keep waits holds (.inl log) (fun _ known => tracker ▸ known)
    (fun _ listed => tracker ▸ listed) gone

/-- `MarkCompleted` for an attempt that neither waits nor is held. -/
theorem Sound.mark (log : next.log = w.log)
    (tracker : next.tracker = w.tracker.markCompleted attempt)
    (absent : a = attempt → next.waiting a + next.holding a = 0)
    (gone : next.heartbeat = .confirming a → w.heartbeat = .confirming a) : Sound a next := by
  refine sound.keep waits holds (.inl log) ?_ ?_ fun confirming => .inr (gone confirming)
  · intro some before
    have other : a ≠ attempt := fun same => by have := absent same; omega
    exact tracker ▸ (AttemptTracker.mem_markCompleted other).1 before
  · intro some listed
    have other : a ≠ attempt := fun same => by have := absent same; omega
    exact (AttemptTracker.mem_markCompleted other).2 (tracker ▸ listed)

end

theorem Sound.handle (new : w.New w.heartbeat) (taken : w.handle = some next) : Sound a next := by
  have single := sound.single
  unfold AttemptThreads.handle at taken
  split at taken
  · next idle =>
    split at taken
    · cases taken
    · next attempt cancels _ =>
      split at taken
      · next queued =>
        cases taken
        have less : (w.queue.erase attempt).count a ≤ w.queue.count a := erase_sublist.count_le a
        refine sound.calm (by simpa [waiting, idle, pushed] using less) le_rfl rfl rfl
          fun confirming => .inl ?_
        cases confirming
        have least := count_pos_iff.mpr queued
        simp only [waiting, idle, pushed, holding, count_nil, count_erase_self] at single ⊢
        omega
      · cases taken
        exact sound.calm (by simp [waiting, idle, pushed]) le_rfl rfl rfl nofun
  · next attempt received =>
    cases taken
    rw [received] at new
    have tracked := w.tracker.mem_markRunning a attempt
    by_cases own : a = attempt
    · subst own
      have unheld : w.holding a = 0 := by
        by_contra held
        obtain ⟨event, listed, bars⟩ := sound.started (Nat.pos_of_ne_zero held)
        exact new.2.2 event listed bars
      have unqueued := count_eq_zero.mpr new.1
      have running := tracked.1 (.inr ⟨rfl, new.2.1⟩)
      refine ⟨?_, fun _ => ⟨tracked.2 ▸ new.2.1, new.2.2⟩, fun _ => running, sound.started, nofun,
        sound.once⟩
      simp only [waiting, pushed, count_singleton_self, unqueued]
      exact Nat.le_of_eq (congrArg (1 + ·) unheld)
    · refine sound.keep ?_ le_rfl (.inl rfl) (fun _ known => tracked.1 (.inl known)) ?_ nofun
      · simp [waiting, received, pushed, Ne.symm own]
      · exact fun _ listed => tracked.2 ▸ listed
  · next attempt pushing =>
    cases taken
    exact sound.calm (by simp [waiting, pushing, pushed]) le_rfl rfl rfl nofun
  · next attempt checking =>
    cases taken
    refine sound.calm ?_ le_rfl rfl rfl fun confirming => .inl ?_
    · by_cases running : attempt ∈ w.tracker.running <;>
        simp [waiting, checking, pushed, running]
    · by_cases running : attempt ∈ w.tracker.running
      · simp [running] at confirming
      · simp only [running, if_false] at confirming ⊢
        cases confirming
        refine Nat.eq_zero_of_not_pos fun some => running (sound.running ?_)
        simpa [waiting, holding, checking, pushed] using some
  · next attempt requesting =>
    cases taken
    refine sound.keep ?_ le_rfl (.inl rfl) (fun _ known => known) (fun _ listed => listed) nofun
    simp [waiting, requesting, pushed]
  · next attempt confirming =>
    cases taken
    have same : waiting { w with tracker := w.tracker.markCompleted attempt, heartbeat := .idle }
        a = w.waiting a := by
      simp [waiting, confirming, pushed]
    exact sound.mark (Nat.le_of_eq same) le_rfl
      rfl rfl (fun own => same ▸ sound.gone (own ▸ confirming)) nofun

theorem Sound.start {queue : List AttemptStatus}
    (free : w.executing = none) (queued : w.queue = attempt :: queue) :
    Sound a { w with queue, executing := some attempt, log := .started attempt :: w.log } := by
  have single := sound.single
  have waits : w.waiting a = queue.count a + [attempt].count a + w.heartbeat.pushed.count a := by
    simp [waiting, queued, count_cons, count_nil]
  have holds : holding { w with queue, executing := some attempt, log := .started attempt :: w.log }
      a = [attempt].count a + w.holding a := by
    simp only [holding, free, Option.toList_some, Option.toList_none, count_nil]
    omega
  have left : waiting { w with queue, executing := some attempt, log := .started attempt :: w.log }
      a = queue.count a + w.heartbeat.pushed.count a := rfl
  by_cases own : attempt = a
  · subst own
    rw [count_singleton_self] at waits holds
    have fresh := sound.fresh (by omega)
    refine ⟨by omega, by omega, fun _ => sound.running (by omega), fun _ => ⟨_, mem_cons_self, rfl⟩,
      fun confirming => ?_, .cons (fun event listed _ => fresh.2 event listed) sound.once⟩
    have zero := sound.gone confirming
    omega
  · have none : [attempt].count a = 0 := count_eq_zero.mpr (by simpa using Ne.symm own)
    refine sound.keep (by omega) (by omega) (.inr ⟨_, rfl, ?_, fun _ => own⟩) (fun _ known => known)
      (fun _ listed => listed) .inr
    exact fun same => own (AttemptEvent.started.inj same)

theorem Sound.step (new : w.DeliversNew action) (taken : w.step action = some next) :
    Sound a next := by
  cases action with
  | beat answer =>
    simp only [step, Option.ite_none_right_eq_some] at taken
    obtain ⟨⟨idle, -⟩, taken⟩ := taken
    generalize answer.getD (none, []) = received at taken
    obtain ⟨task, cancels⟩ := received
    cases taken
    have waits : waiting { w with
        heartbeat := (task.map received).getD .idle, cancels
        log := .reported w.tracker.completed :: w.log } a = w.waiting a := by
      cases task <;> simp [waiting, idle, pushed]
    refine sound.keep (Nat.le_of_eq waits) le_rfl (.inr ⟨_, rfl, nofun, fun some => ?_⟩)
      (fun _ known => known) (fun _ listed => listed) ?_
    · exact (sound.fresh (waits ▸ some)).1
    · cases task <;> nofun
  | handle => exact sound.handle (new rfl) taken
  | start =>
    simp only [step] at taken
    split at taken
    · next free queued =>
      cases taken
      exact sound.start free queued
    · cases taken
  | finish =>
    obtain ⟨attempt, executing, rfl⟩ := Option.map_eq_some_iff.mp taken
    refine sound.calm le_rfl ?_ rfl rfl .inr
    simp [holding, executing]
    omega
  | upload =>
    simp only [step] at taken
    split at taken
    · next attempt uploads free queued =>
      cases taken
      refine sound.calm le_rfl ?_ rfl rfl .inr
      simp [holding, free, queued, count_cons]
      omega
    · cases taken
  | notify delivered =>
    simp only [step] at taken
    split at taken
    · next attempt uploading =>
      cases taken
      refine sound.calm le_rfl ?_ rfl rfl .inr
      cases delivered <;> simp [holding, uploading]
    · cases taken
  | complete =>
    simp only [step] at taken
    split at taken
    · next attempt uploading =>
      cases taken
      refine sound.mark le_rfl ?_ rfl rfl (fun own => ?_) id
      · simp [holding, uploading]
      · have single := sound.single
        subst own
        simp [waiting, holding, uploading] at single ⊢
        omega
    · cases taken

end

/-- **In every run of an agent in which each task that is delivered is new, no attempt is started
twice or after it was reported as completed, and an attempt is listed as running until its result is
delivered.** -/
theorem attempts_run_once {actions : List ThreadAction} {w : AttemptThreads}
    (new : Along step DeliversNew {} actions) (reached : run step {} actions = some w) :
    ∀ attempt, RunsOnce attempt w.log ∧ (w.Executes attempt → attempt ∈ w.tracker.running) := by
  intro attempt
  have start : Sound attempt {} :=
    ⟨Nat.zero_le 1, nofun, nofun, nofun, nofun, Pairwise.nil⟩
  have sound : Sound attempt w :=
    run_invariant_along (fun _ _ _ sound new taken => sound.step new taken) start new reached
  refine ⟨sound.once, fun executes => sound.running ?_⟩
  have held : 0 < w.holding attempt := by
    unfold holding
    rcases executes with executing | uploads | uploading
    · rw [executing, Option.toList_some, count_singleton_self]
      omega
    · have some := count_pos_iff.mpr uploads
      omega
    · simp [uploading]
  omega

/-- An attempt is delivered, collected and reported, and then the server asks to cancel it. -/
def deliveredOnce : List ThreadAction :=
  [.beat (some (some ⟨"t", 1⟩, [])), .handle, .handle, .start, .finish, .upload, .notify true,
    .complete, .beat (some (none, [⟨"t", 1⟩])), .handle, .handle, .handle]

/-- It is run once. -/
theorem delivered_once_runs_once :
    (run step {} deliveredOnce).isSome = true ∧ ∀ w, run step {} deliveredOnce = some w →
      ∀ attempt, RunsOnce attempt w.log ∧ (w.Executes attempt → attempt ∈ w.tracker.running) :=
  ⟨by decide, fun _ reached => attempts_run_once (along_of_decide (by decide)) reached⟩

/-- An attempt that waits is delivered again, as by a server that was restored from its snapshot. -/
def deliveredTwice : List ThreadAction :=
  [.beat (some (some ⟨"t", 1⟩, [])), .handle, .handle, .beat (some (some ⟨"t", 1⟩, [])), .handle,
    .handle, .start, .finish, .start]

/-- It is started twice. -/
theorem delivered_twice_started_twice :
    ∃ w, run step {} deliveredTwice = some w ∧ ¬RunsOnce ⟨"t", 1⟩ w.log := by
  obtain ⟨w, reached, twice⟩ : ∃ w, run step {} deliveredTwice = some w ∧
      w.log.take 2 = [.started ⟨"t", 1⟩, .started ⟨"t", 1⟩] := exists_run (by decide)
  refine ⟨w, reached, fun once => ?_⟩
  have pair := once.sublist (take_sublist 2 w.log)
  rw [twice] at pair
  exact (pairwise_cons.mp pair).1 _ mem_cons_self rfl rfl

end AttemptThreads

end MiniDrop.Agent
