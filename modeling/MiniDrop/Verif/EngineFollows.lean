import MiniDrop.Agent.SessionWorld
import MiniDrop.Verif.Fingerprint
/-!
# The shared collector follows the selectors

Whether a session's processes have changed, and whether the shared collector has to be replaced, is
decided by the numbers and starts of the processes and by the fingerprint. Where a process that is
seen again is as it was, an assignment under one revision is one assignment, and the texts are
plain, a running collector has the configurations of the current sessions and the processes that the
selectors pick from the latest scan.
-/
namespace MiniDrop.Agent

open MiniDrop.Agent.SessionWorld SessionRuntime List Base

variable {engine : SharedSampler}

/-- The process of a target. -/
def ContinuousTargetProcess.identity (target : ContinuousTargetProcess) : ProcessIdentity :=
  ⟨target.pid, target.processStartMs, target.exe⟩

/-- The processes that the collector is configured with for a session. -/
def SharedSampler.configured (engine : SharedSampler) (sid : String) :
    List ContinuousTargetProcess :=
  (engine.sessions.filter fun config => config.sessionSID = sid).flatMap (·.targetProcesses)

/-- A running collector, where no session is in error, has the configurations of the sessions, and
for each process session the processes that its selector picks from the latest scan. -/
def SessionWorld.Follows (settings : ManagerSettings) (w : SessionWorld) : Prop :=
  ∀ engine, w.sharedSampler = some engine → engine.running = true →
    (∀ entry ∈ w.runtimes, entry.2.observedState ≠ .error) →
    engine.sessions = settings.configs w.runtimes ∧
      ∀ entry ∈ w.runtimes, entry.2.assignment.scope = "process" →
        (engine.configured entry.1).map (·.identity) =
          (matchContinuousProcessesBySelector w.processes entry.2.assignment).map (·.identity)

/-! ## What is known of the sessions -/

/-- Assignments and processes for which the two comparisons miss nothing. -/
structure Stable (assigned : ContinuousAssignment → Prop) (seen : ContinuousTargetProcess → Prop) :
    Prop where
  plain : ∀ a, assigned a → a.Plain
  versioned : ∀ a b, assigned a → assigned b → a.sid = b.sid → a.revision = b.revision →
    a.selectorExe = b.selectorExe ∧ a.retentionHours = b.retentionHours ∧ a.dbTargets = b.dbTargets
  steady : ∀ p q, seen p → seen q → p.key = q.key → p = q

section

variable {assigned : ContinuousAssignment → Prop} {seen : ContinuousTargetProcess → Prop}
  {settings : ManagerSettings}

/-- A session stands under its name, with an assignment that has come and processes that were
seen. -/
structure KnownEntry (assigned : ContinuousAssignment → Prop)
    (seen : ContinuousTargetProcess → Prop) (entry : String × SessionRuntime) : Prop where
  keyed : entry.2.assignment.sid = entry.1
  assigned : assigned entry.2.assignment
  seen : ∀ target ∈ entry.2.targets, seen target

variable {entry : String × SessionRuntime} {w t : SessionWorld} {f : SessionRuntime →
  SessionRuntime} {replacement : Option (List ContinuousSamplerConfig)} {owning : Bool}
  {startup : Startup}
  {assignments : List ContinuousAssignment}

theorem KnownEntry.of_parts {runtime : SessionRuntime} (known : KnownEntry assigned seen entry)
    (same : runtime.assignment = entry.2.assignment)
    (old : ∀ target ∈ runtime.targets, seen target) :
    KnownEntry assigned seen (entry.1, runtime) :=
  ⟨same ▸ known.keyed, same ▸ known.assigned, old⟩

theorem KnownEntry.plainEntry (known : KnownEntry assigned seen entry)
    (stable : Stable assigned seen) : PlainEntry entry :=
  ⟨known.keyed, stable.plain _ known.assigned⟩

section

variable (stable : Stable assigned seen)
include stable

/-- Processes that were seen are told by their numbers and starts. -/
theorem Stable.targets_eq {targets others : List ContinuousTargetProcess}
    (first : ∀ target ∈ targets, seen target) (second : ∀ target ∈ others, seen target)
    (same : targets.map (·.key) = others.map (·.key)) : targets = others := by
  have equal : targets.map id = others.map id :=
    map_eq_of_map_eq same fun p mem q listed keys =>
      stable.steady p q (first p mem) (second q listed) keys
  rw [map_id, map_id] at equal
  exact equal

theorem Stable.config_eq {other : String × SessionRuntime}
    (known : KnownEntry assigned seen entry) (fine : KnownEntry assigned seen other)
    (same : told entry = told other) :
    settings.buildSamplerConfig entry.2 = settings.buildSamplerConfig other.2 := by
  have parts := Prod.mk.inj same
  have more := Prod.mk.inj parts.2
  have targets : entry.2.targets = other.2.targets := stable.targets_eq known.seen fine.seen more.2
  have stamps := parts.1
  simp only [stamp, cons.injEq, and_true] at stamps
  obtain ⟨sid, revision, scope, continuity, degraded, rate, aggregation, upload, mode, pid,
    start, cgroup, container⟩ := stamps
  have names : entry.2.assignment.sid = other.2.assignment.sid := by
    rw [known.keyed, fine.keyed, sid]
  have rest := stable.versioned _ _ known.assigned fine.assigned names (Nat.repr_injective revision)
  have flag : entry.2.assignment.allowDegraded = other.2.assignment.allowDegraded := by
    cases first : entry.2.assignment.allowDegraded <;> cases second :
      other.2.assignment.allowDegraded <;> rw [first, second] at degraded
    · exact absurd degraded (by decide)
    · exact absurd degraded (by decide)
  simp only [ManagerSettings.buildSamplerConfig, names, scope, continuity, flag,
    Int.repr_injective rate, Int.repr_injective aggregation, Int.repr_injective upload, mode,
    Int.repr_injective pid,
    Int.repr_injective start, cgroup, container, more.1, rest.1, rest.2.1, rest.2.2, targets]

theorem Stable.configs_eq {runtimes others : List (String × SessionRuntime)}
    (known : ∀ entry ∈ runtimes, KnownEntry assigned seen entry)
    (fine : ∀ entry ∈ others, KnownEntry assigned seen entry)
    (same : fingerprint runtimes = fingerprint others) :
    settings.configs runtimes = settings.configs others := by
  have tells := told_of_fingerprint (fun entry mem => (known entry mem).plainEntry stable)
    (fun entry mem => (fine entry mem).plainEntry stable) same
  refine map_eq_of_map_eq tells fun entry mem other listed equal => ?_
  exact stable.config_eq (known entry (mem_of_mem_filter mem))
    (fine other (mem_of_mem_filter listed)) equal

end

/-! ## Functions that leave the configurations alone -/

/-- The function keeps what a configuration is made of. -/
def KeepsConfig (f : SessionRuntime → SessionRuntime) : Prop :=
  ∀ runtime, (f runtime).assignment = runtime.assignment ∧ (f runtime).targets = runtime.targets

theorem keepsConfig_fail (error : String) : KeepsConfig (·.fail error) := by
  intro runtime
  dsimp only [fail]
  split <;> exact ⟨rfl, rfl⟩

theorem keepsConfig_engineStatus (engine : SharedSampler) (reason : String) :
    KeepsConfig (·.engineStatus engine reason) := by
  intro runtime
  dsimp only [engineStatus]
  split
  · exact ⟨rfl, rfl⟩
  · split <;> exact ⟨rfl, rfl⟩

theorem keepsConfig_reconcileDBSampler (unwritable : List String) :
    KeepsConfig (·.reconcileDBSampler settings unwritable) := by
  intro runtime
  dsimp only [reconcileDBSampler]
  split
  · exact ⟨rfl, rfl⟩
  · split
    · exact ⟨rfl, rfl⟩
    · split <;> exact ⟨rfl, rfl⟩

namespace KeepsConfig

variable {f : SessionRuntime → SessionRuntime} (keeps : KeepsConfig f)

include keeps

theorem collects (runtime : SessionRuntime) : (f runtime).collects = runtime.collects := by
  rw [SessionRuntime.collects, SessionRuntime.collects, (keeps runtime).1, (keeps runtime).2]

theorem config (runtime : SessionRuntime) :
    settings.buildSamplerConfig (f runtime) = settings.buildSamplerConfig runtime := by
  simp only [ManagerSettings.buildSamplerConfig, (keeps runtime).1, (keeps runtime).2]

theorem collecting (runtimes : List (String × SessionRuntime)) :
    Agent.collecting (runtimes.map fun entry => (entry.1, f entry.2)) =
      (Agent.collecting runtimes).map fun entry => (entry.1, f entry.2) := by
  rw [Agent.collecting, Agent.collecting, filter_map]
  refine congrArg (map _) (filter_congr fun entry _ => ?_)
  exact keeps.collects entry.2

theorem configs (runtimes : List (String × SessionRuntime)) :
    settings.configs (runtimes.map fun entry => (entry.1, f entry.2)) =
    settings.configs runtimes := by
  rw [ManagerSettings.configs, ManagerSettings.configs, keeps.collecting, map_map]
  exact map_congr_left fun entry _ => keeps.config entry.2

theorem known {entry : String × SessionRuntime} (known : KnownEntry assigned seen entry) :
    KnownEntry assigned seen (entry.1, f entry.2) :=
  known.of_parts (keeps entry.2).1 ((keeps entry.2).2 ▸ known.seen)

end KeepsConfig

/-! ## The state behind the collector -/

/-- The sessions are in order and known, and the collector was started with sessions that are
known. -/
structure Grounded (settings : ManagerSettings) (assigned : ContinuousAssignment → Prop)
    (seen : ContinuousTargetProcess → Prop) (w : SessionWorld) : Prop where
  ordered : w.runtimes.Pairwise fun a b => a.1 < b.1
  known : ∀ entry ∈ w.runtimes, KnownEntry assigned seen entry
  scanned : ∀ process ∈ w.processes, seen process
  engine : ∀ engine, w.sharedSampler = some engine → ∃ runtimes : List (String × SessionRuntime),
    (∀ entry ∈ runtimes, KnownEntry assigned seen entry) ∧
      engine.sessions = settings.configs runtimes ∧ w.sharedFingerprint = fingerprint runtimes

/-- Every session has the processes that its selector picks from the latest scan. -/
def SessionWorld.Matched (w : SessionWorld) : Prop :=
  ∀ entry ∈ w.runtimes, entry.2.targets =
    matchContinuousProcessesBySelector w.processes entry.2.assignment

section

variable (grounded : Grounded settings assigned seen w)
include grounded

/-- What the collector has for a session, where it has the configurations of the sessions. -/
theorem Grounded.configured_eq (sessions : engine.sessions = settings.configs w.runtimes)
    (mem : entry ∈ w.runtimes) : engine.configured entry.1 = entry.2.targets := by
  have listed : engine.configured entry.1 = w.runtimes.flatMap fun other =>
      if other.2.collects && decide (other.2.assignment.sid = entry.1) then other.2.targets
          else [] := by
    rw [flatMap_ite_nil, SharedSampler.configured, sessions, ManagerSettings.configs,
      Agent.collecting, filter_map, flatMap_map, filter_filter]
    refine congrArg (flatMap _) (filter_congr fun other _ => ?_)
    exact Bool.and_comm _ _
  have distinct : w.runtimes.Pairwise fun a b => a.1 ≠ b.1 := grounded.ordered.imp fun less =>
    ne_of_lt less
  rw [listed, flatMap_eq_of_unique distinct mem]
  · rw [decide_eq_true (grounded.known entry mem).keyed, Bool.and_true]
    split
    · rfl
    · next idle =>
      rw [collects, Bool.not_eq_true', Bool.not_eq_false, Bool.and_eq_true] at idle
      exact (of_decide_eq_true idle.2).symm
  · intro other listed differs
    rw [if_neg]
    rw [Bool.and_eq_true, not_and]
    intro _ same
    exact differs ((grounded.known other listed).keyed.symm.trans (of_decide_eq_true same))

/-- A collector with the configurations of sessions that have their processes follows. -/
theorem Grounded.follows (matched : w.Matched)
    (sessions : ∀ engine, w.sharedSampler = some engine → engine.running = true →
      (∀ entry ∈ w.runtimes, entry.2.observedState ≠ .error) →
      engine.sessions = settings.configs w.runtimes) :
    w.Follows settings := by
  intro engine present running fine
  have configs := sessions engine present running fine
  refine ⟨configs, fun entry mem _ => ?_⟩
  rw [grounded.configured_eq configs mem, matched entry mem]

/-- What the manager does beside its sessions and its collector does not matter. -/
theorem Grounded.frame (runtimes : t.runtimes = w.runtimes)
    (processes : ∀ process ∈ t.processes, seen process)
    (sampler : t.sharedSampler = w.sharedSampler)
    (print : t.sharedFingerprint = w.sharedFingerprint) : Grounded settings assigned seen t := by
  refine ⟨?_, ?_, processes, ?_⟩
  · rw [runtimes]
    exact grounded.ordered
  · rw [runtimes]
    exact grounded.known
  · rw [sampler, print]
    exact grounded.engine

end

theorem SessionWorld.Follows.frame (follows : w.Follows settings)
    (runtimes : t.runtimes = w.runtimes) (processes : t.processes = w.processes)
    (sampler : t.sharedSampler = w.sharedSampler) : t.Follows settings := by
  unfold SessionWorld.Follows
  rw [runtimes, processes, sampler]
  exact follows

/-- Mapping the sessions by a function that keeps the configurations. -/
theorem Grounded.mapRuntimes (grounded : Grounded settings assigned seen w)
    (keeps : KeepsConfig f) : Grounded settings assigned seen (w.mapRuntimes f) where
  ordered := pairwise_map.mpr grounded.ordered
  known := by
    intro entry mem
    obtain ⟨old, listed, rfl⟩ := mem_map.mp mem
    exact keeps.known (grounded.known old listed)
  scanned := grounded.scanned
  engine := grounded.engine

theorem SessionWorld.Matched.mapRuntimes (matched : w.Matched)
    (keeps : KeepsConfig f) : (w.mapRuntimes f).Matched := by
  intro entry mem
  obtain ⟨old, listed, rfl⟩ := mem_map.mp mem
  have same := matched old listed
  have parts := keeps old.2
  rw [parts.2, parts.1]
  exact same

/-! ## The steps -/

theorem SessionWorld.work_frame {job : Worker × CollectorOp}
    (taken : w.work replacement owning job = some t) : ∃ spool log, t = { w with spool, log } := by
  obtain ⟨sids, -, done⟩ := Option.bind_eq_some_iff.mp taken
  split at done
  · cases done
    cases job.2 with
    | recover | persist | finalize | drain => exact ⟨_, _, rfl⟩
  · cases done

theorem SessionWorld.workAll_frame {jobs : List (Worker × CollectorOp)}
    (taken : workAll replacement owning jobs w = some t) :
    ∃ spool log, t = { w with spool, log } := by
  induction jobs generalizing w with
  | nil =>
    cases taken
    exact ⟨_, _, rfl⟩
  | cons job rest ih =>
    obtain ⟨m, first, later⟩ := Option.bind_eq_some_iff.mp taken
    obtain ⟨spool, log, rfl⟩ := work_frame first
    obtain ⟨spool, log, rfl⟩ := ih later
    exact ⟨_, _, rfl⟩

/-- Where a replacement has not come up, a session that collects is in error. -/
theorem error_of_fail (error : String) (some_config : settings.configs w.runtimes ≠ []) :
    ∃ entry ∈ (w.mapRuntimes (·.fail error)).runtimes, entry.2.observedState = .error := by
  rw [ManagerSettings.configs, ne_eq, map_eq_nil_iff] at some_config
  obtain ⟨entry, mem⟩ := exists_mem_of_ne_nil _ some_config
  have parts := mem_filter.mp mem
  refine ⟨(entry.1, entry.2.fail error), mem_map_of_mem parts.1, ?_⟩
  rw [fail, if_pos parts.2]

theorem Grounded.rebuild (stable : Stable assigned seen)
    (grounded : Grounded settings assigned seen w) (matched : w.Matched)
    (taken : w.rebuildSharedEngine settings startup = some t) :
    Grounded settings assigned seen t ∧ t.Follows settings := by
  dsimp only [rebuildSharedEngine] at taken
  split at taken
  · obtain ⟨m, worked, rfl⟩ := Option.map_eq_some_iff.mp taken
    obtain ⟨spool, log, rfl⟩ := workAll_frame worked
    exact ⟨⟨grounded.ordered, grounded.known, grounded.scanned, nofun⟩, nofun⟩
  · next needed =>
    split at taken
    · next engine kept =>
      -- The collector stays: its fingerprint is that of the sessions.
      cases taken
      obtain ⟨present, test⟩ := Option.filter_eq_some_iff.mp kept
      obtain ⟨-, same⟩ := Bool.and_eq_true_iff.mp test
      have keeps := keepsConfig_engineStatus engine
        (engine.engineDegradation (settings.configs w.runtimes))
      refine ⟨grounded.mapRuntimes keeps,
        (grounded.mapRuntimes keeps).follows (matched.mapRuntimes keeps) ?_⟩
      intro other stays _ _
      obtain ⟨runtimes, known, sessions, print⟩ := grounded.engine other stays
      have equal : fingerprint runtimes = fingerprint w.runtimes := by
        rw [← print]
        exact of_decide_eq_true same
      rw [sessions, stable.configs_eq known grounded.known equal]
      exact (keeps.configs w.runtimes).symm
    · split at taken
      · next error _ =>
        cases taken
        refine ⟨grounded.mapRuntimes (keepsConfig_fail error), fun _ _ _ fine => ?_⟩
        obtain ⟨entry, mem, failed⟩ := error_of_fail error needed
        exact absurd failed (fine entry mem)
      · obtain ⟨m, worked, rfl⟩ := Option.map_eq_some_iff.mp taken
        obtain ⟨spool, log, rfl⟩ := workAll_frame worked
        split
        · -- The replacement takes over with the configurations of the sessions.
          have keeps (engine : SharedSampler) := keepsConfig_engineStatus engine
            (engine.engineDegradation (settings.configs w.runtimes))
          have fresh (engine : SharedSampler)
            (sessions : engine.sessions = settings.configs w.runtimes) :
              Grounded settings assigned seen
                { w with
                  spool, log, sharedSampler := some engine
                  sharedFingerprint := fingerprint w.runtimes } :=
            ⟨grounded.ordered, grounded.known, grounded.scanned, fun other present =>
              ⟨w.runtimes, grounded.known, Option.some.inj present ▸ sessions, rfl⟩⟩
          refine ⟨(fresh _ rfl).mapRuntimes (keeps _),
            ((fresh _ rfl).mapRuntimes (keeps _)).follows ?_ ?_⟩
          · have same : SessionWorld.Matched { w with spool, log } := matched
            exact same.mapRuntimes (keeps _)
          · intro other present _ _
            rw [← Option.some.inj present]
            exact ((keeps _).configs w.runtimes).symm
        · have same : Grounded settings assigned seen { w with spool, log } :=
            grounded.frame rfl grounded.scanned rfl rfl
          refine ⟨same.mapRuntimes (keepsConfig_fail _), fun _ _ _ fine => ?_⟩
          obtain ⟨entry, mem, failed⟩ :=
            error_of_fail "replacement continuous collector did not become ready" needed
          exact absurd failed (fine entry mem)

section

variable (grounded : Grounded settings assigned seen w)
include grounded

theorem Grounded.picked_seen (assignment : ContinuousAssignment) :
    ∀ process ∈ matchContinuousProcessesBySelector w.processes assignment, seen process := by
  intro process mem
  unfold matchContinuousProcessesBySelector at mem
  split at mem
  · cases mem
  · exact grounded.scanned process (mem_of_mem_filter mem)

/-- `RefreshTargets` leaves a session with the processes that its selector picks. -/
theorem Grounded.refreshTargets_targets (stable : Stable assigned seen) (mem : entry ∈ w.runtimes) :
    (entry.2.refreshTargets w.processes).targets =
        matchContinuousProcessesBySelector w.processes entry.2.assignment ∧
      (entry.2.refreshTargets w.processes).assignment = entry.2.assignment := by
  dsimp only [SessionRuntime.refreshTargets]
  split
  · next waiting => exact ⟨waiting.2.symm, rfl⟩
  · split
    · next same =>
      have keys := of_decide_eq_true same
      exact ⟨stable.targets_eq (grounded.known entry mem).seen (grounded.picked_seen _) keys, rfl⟩
    · exact ⟨rfl, rfl⟩

theorem Grounded.refresh (stable : Stable assigned seen)
    (taken : w.refreshTargets settings startup = some t) :
    Grounded settings assigned seen t ∧ t.Follows settings := by
  have targets {entry : String × SessionRuntime} (listed : entry ∈ w.runtimes) :=
    grounded.refreshTargets_targets stable listed
  have refreshed : Grounded settings assigned seen
      (w.mapRuntimes (·.refreshTargets w.processes)) := by
    refine ⟨pairwise_map.mpr grounded.ordered, fun entry mem => ?_, grounded.scanned,
      grounded.engine⟩
    obtain ⟨old, listed, rfl⟩ := mem_map.mp mem
    refine (grounded.known old listed).of_parts (targets listed).2 ?_
    rw [(targets listed).1]
    exact grounded.picked_seen _
  have matched : (w.mapRuntimes (·.refreshTargets w.processes)).Matched := by
    intro entry mem
    obtain ⟨old, listed, rfl⟩ := mem_map.mp mem
    rw [(targets listed).1, (targets listed).2]
    rfl
  exact refreshed.rebuild stable matched taken

theorem Grounded.applyAssignment (unwritable : List String) {assignment : ContinuousAssignment}
    (come : assigned assignment) :
    Grounded settings assigned seen (w.applyAssignment settings unwritable assignment) := by
  dsimp only [SessionWorld.applyAssignment]
  split
  · split
    · exact grounded
    · refine ⟨grounded.ordered.filter _, fun entry mem => ?_, grounded.scanned, grounded.engine⟩
      exact grounded.known entry (mem_of_mem_filter mem)
  · refine ⟨enter_pairwise lt_trans (fun differs notLess => ?_) grounded.ordered _ _,
      fun entry mem => ?_, grounded.scanned, grounded.engine⟩
    · exact lt_of_le_of_ne (le_of_not_gt notLess) differs.symm
    · rcases mem_enter mem with rfl | old
      · have keeps : KeepsConfig (·.reconcileDBSampler settings unwritable) :=
          keepsConfig_reconcileDBSampler unwritable
        have known (runtime : SessionRuntime) (mode : String)
            (old : ∀ target ∈ runtime.targets, seen target) :
            KnownEntry assigned seen
              (assignment.sid, { runtime with assignment, effectiveContinuityMode := mode }) :=
          ⟨rfl, come, old⟩
        refine keeps.known (known _ _ ?_)
        cases existing : w.runtimes.lookup assignment.sid with
        | none => exact forall_mem_nil _
        | some => exact (grounded.known _ (mem_of_lookup existing)).seen
      · exact grounded.known entry old

theorem Grounded.applyAll (unwritable : List String)
    (come : ∀ assignment ∈ assignments, assigned assignment) :
    Grounded settings assigned seen
      (assignments.foldl (SessionWorld.applyAssignment settings unwritable) w) := by
  induction assignments generalizing w with
  | nil => exact grounded
  | cons assignment rest ih =>
    exact ih (grounded.applyAssignment unwritable (come assignment mem_cons_self))
      (forall_mem_cons.mp come).2

/-- Assignments from the server, or from the cache, leave a collector that follows. -/
theorem Grounded.receive (stable : Stable assigned seen)
    (come : ∀ assignment ∈ assignments, assigned assignment)
    (taken : w.receive settings startup assignments = some t) :
    Grounded settings assigned seen t ∧ t.Follows settings := by
  have logged : Grounded settings assigned seen
      { w with log := SessionWorld.askedBy assignments ++ w.log } :=
    grounded.frame rfl grounded.scanned rfl rfl
  have applied := logged.applyAll startup.unwritable come
  refine Grounded.refresh ⟨?_, ?_, ?_, ?_⟩ stable taken
  · exact applied.ordered.filter _
  · exact fun entry mem => applied.known entry (mem_of_mem_filter mem)
  · exact applied.scanned
  · exact applied.engine

end

theorem SessionWorld.advanceFrom_frame (posts : List PostOutcome) (attempted : Bool)
    (sessions : List (String × StoppingRuntime)) (w : SessionWorld) :
    ∃ spool log stoppedReports,
      (advanceFrom posts attempted sessions w).1 = { w with spool, log, stoppedReports } := by
  induction sessions generalizing attempted w with
  | nil => exact ⟨_, _, _, rfl⟩
  | cons entry rest ih =>
    rw [advanceFrom]
    dsimp only
    split
    · exact ih attempted _
    · split
      · exact ih attempted w
      · split
        · exact ih true _
        · exact ih true _

end

/-! ## Runs -/

/-- The assignments that come with a step. -/
def SessionAction.assignments : SessionAction → List ContinuousAssignment
  | .start cached _ _ => cached.getD []
  | .respond answer _ => answer.getD []
  | _ => []

/-- The processes of a scan. -/
def SessionAction.processes : SessionAction → List ContinuousTargetProcess
  | .start _ processes _ => processes
  | .refresh processes _ => processes
  | _ => []

/-- The texts of the assignments are plain, an assignment under one revision is one assignment, and
a process that is seen again with its number and its start is as it was. -/
def StableRun (actions : List SessionAction) : Prop :=
  (∀ a ∈ actions.flatMap (·.assignments), a.Plain) ∧
    (∀ a ∈ actions.flatMap (·.assignments), ∀ b ∈ actions.flatMap (·.assignments),
      a.sid = b.sid → a.revision = b.revision →
        a.selectorExe = b.selectorExe ∧ a.retentionHours = b.retentionHours ∧
        a.dbTargets = b.dbTargets) ∧
    ∀ p ∈ actions.flatMap (·.processes), ∀ q ∈ actions.flatMap (·.processes),
      p.pid = q.pid → p.processStartMs = q.processStartMs → p = q

instance (actions : List SessionAction) : Decidable (StableRun actions) :=
  inferInstanceAs (Decidable (_ ∧ _ ∧ _))

section

variable {settings : ManagerSettings} {assigned : ContinuousAssignment → Prop}
  {seen : ContinuousTargetProcess → Prop}

variable {w : SessionWorld} (grounded : Grounded settings assigned seen w)
  (follows : w.Follows settings)
include grounded follows

theorem Grounded.engineFlags {other : SharedSampler} (present : w.sharedSampler = some engine)
    (sessions : other.sessions = engine.sessions)
    (runs : other.running = true → engine.running = true) :
    Grounded settings assigned seen { w with sharedSampler := some other } ∧
      SessionWorld.Follows settings { w with sharedSampler := some other } := by
  refine ⟨⟨grounded.ordered, grounded.known, grounded.scanned, fun changed is => ?_⟩,
    fun changed is running fine => ?_⟩
  · obtain rfl := Option.some.inj is
    rw [sessions]
    exact grounded.engine engine present
  · obtain rfl := Option.some.inj is
    unfold SharedSampler.configured
    rw [sessions]
    exact follows engine present (runs running) fine

theorem Grounded.databaseFlags {f : SessionRuntime → SessionRuntime} (keeps : KeepsConfig f)
    (states : ∀ runtime, (f runtime).observedState = runtime.observedState) :
    Grounded settings assigned seen (w.mapRuntimes f) ∧ (w.mapRuntimes f).Follows settings := by
  refine ⟨grounded.mapRuntimes keeps, fun engine present runs fine => ?_⟩
  have before : ∀ entry ∈ w.runtimes, entry.2.observedState ≠ .error := by
    intro entry mem
    rw [← states]
    exact fine _ (mem_map_of_mem mem)
  obtain ⟨sessions, selected⟩ := follows engine present runs before
  refine ⟨sessions.trans (keeps.configs w.runtimes).symm, fun entry mem scope => ?_⟩
  obtain ⟨old, listed, rfl⟩ := mem_map.mp mem
  rw [(keeps old.2).1] at scope ⊢
  exact selected old listed scope

theorem Grounded.step (stable : Stable assigned seen) {t : SessionWorld} {action : SessionAction}
    (come : ∀ a ∈ action.assignments, assigned a) (scans : ∀ p ∈ action.processes, seen p)
    (taken : w.step settings action = some t) :
    Grounded settings assigned seen t ∧ t.Follows settings := by
  cases action with
  | start cached processes =>
    dsimp only [SessionWorld.step] at taken
    split at taken
    · cases taken
    · cases cached with
      | none =>
        cases taken
        exact ⟨grounded.frame rfl grounded.scanned rfl rfl, follows.frame rfl rfl rfl⟩
      | some =>
        have begun : Grounded settings assigned seen { w with started := true, processes } :=
          grounded.frame rfl scans rfl rfl
        exact begun.receive stable come taken
  | refresh processes =>
    dsimp only [SessionWorld.step] at taken
    split at taken
    · have scanned : Grounded settings assigned seen { w with processes } :=
        grounded.frame rfl scans rfl rfl
      exact scanned.refresh stable taken
    · cases taken
  | advance posts =>
    dsimp only [SessionWorld.step] at taken
    split at taken
    · cases taken
      obtain ⟨spool, log, reports, same⟩ := advanceFrom_frame posts false w.stoppingRuntimes w
      dsimp only [advanceStoppingSessions]
      rw [same]
      exact ⟨grounded.frame rfl grounded.scanned rfl rfl, follows.frame rfl rfl rfl⟩
    · cases taken
  | report =>
    dsimp only [SessionWorld.step] at taken
    split at taken
    · cases taken
      exact ⟨grounded.frame rfl grounded.scanned rfl rfl, follows.frame rfl rfl rfl⟩
    · cases taken
  | respond answer =>
    dsimp only [SessionWorld.step] at taken
    split at taken
    · cases answer with
      | none =>
        cases taken
        exact ⟨grounded.frame rfl grounded.scanned rfl rfl, follows.frame rfl rfl rfl⟩
      | some =>
        obtain ⟨m, received, rfl⟩ := Option.map_eq_some_iff.mp taken
        have answered : Grounded settings assigned seen { w with awaiting := false } :=
          grounded.frame rfl grounded.scanned rfl rfl
        have after := answered.receive stable come received
        exact ⟨after.1.frame rfl after.1.scanned rfl rfl, after.2.frame rfl rfl rfl⟩
    · cases taken
  | work =>
    obtain ⟨spool, log, rfl⟩ := work_frame taken
    exact ⟨grounded.frame rfl grounded.scanned rfl rfl, follows.frame rfl rfl rfl⟩
  | engineFlags =>
    dsimp only [SessionWorld.step] at taken
    split at taken
    · cases taken
    · next engine present =>
      cases taken
      exact grounded.engineFlags follows present rfl fun runs => (Bool.and_eq_true_iff.mp runs).1
  | databaseFlags =>
    cases taken
    refine grounded.databaseFlags follows (fun runtime => ?_) fun runtime => ?_
    · split <;> exact ⟨rfl, rfl⟩
    · split <;> rfl

end

/-- In every run whose assignments and scans miss nothing that the comparisons leave out, a running
collector has the configurations of the sessions and the processes that the selectors pick from the
latest scan. -/
theorem SessionWorld.running_engine_follows {settings : ManagerSettings}
    {actions : List SessionAction} {w : SessionWorld} (stable : StableRun actions)
    (reached : run (step settings) {} actions = some w) : w.Follows settings := by
  have steady : Stable (· ∈ actions.flatMap (·.assignments))
      (· ∈ actions.flatMap (·.processes)) := by
    refine ⟨stable.1, fun a b first second => stable.2.1 a first b second,
      fun p q first second keys => ?_⟩
    have parts := Prod.mk.inj keys
    exact stable.2.2 p first q second parts.1 parts.2
  let known := Grounded settings (· ∈ actions.flatMap (·.assignments))
    (· ∈ actions.flatMap (·.processes))
  let Listed (action : SessionAction) : Prop :=
    (∀ a ∈ action.assignments, a ∈ actions.flatMap (·.assignments)) ∧ ∀ p ∈ action.processes,
      p ∈ actions.flatMap (·.processes)
  have listed : ∀ action ∈ actions, Listed action := by
    intro action mem
    exact ⟨fun a within => mem_flatMap.mpr ⟨action, mem, within⟩,
      fun p within => mem_flatMap.mpr ⟨action, mem, within⟩⟩
  have initial : known {} ∧ SessionWorld.Follows settings {} := by
    exact ⟨⟨.nil, forall_mem_nil _, forall_mem_nil _, nofun⟩, nofun⟩
  have keeps : ∀ w action t, known w ∧ w.Follows settings → Listed action →
      w.step settings action = some t → known t ∧ t.Follows settings := by
    intro w action t holds allowed taken
    exact holds.1.step holds.2 steady allowed.1 allowed.2 taken
  exact (run_invariant_along keeps initial (along_of_mem listed _) reached).2

/-! ## An example -/

/-- A process session on a control group. -/
def groupAssignment : ContinuousAssignment :=
  { sid := "s", scope := "process", selectorMode := "cgroup", selectorCgroup := "/web",
    revision := 1 }

/-- A process of the control group, with its executable. -/
def groupProcess (pid : Int) (exe : String) : ContinuousTargetProcess :=
  { pid, processStartMs := 100, exe, cgroup := "/web" }

/-- An agent with an address and a user. -/
def agentSettings : ManagerSettings := { apiBaseURL := "http", authUID := "agent" }

/-- The agent starts, scans, and is given the session. -/
def groupStart (exe : String) : List SessionAction :=
  [.start none [] {}, .refresh [groupProcess 7 exe] {}, .report,
    .respond (some [groupAssignment]) {}]

/-- A second process joins the control group. -/
def groupJoined : List SessionAction :=
  groupStart "/bin/sh" ++ [.refresh [groupProcess 7 "/bin/sh", groupProcess 8 "/bin/app"] {}]

/-- The collector gets the second process too. -/
theorem SessionWorld.joined_process_followed :
    StableRun groupJoined ∧ ∃ w engine, run (step agentSettings) {} groupJoined = some w ∧
      w.sharedSampler = some engine ∧ engine.running = true ∧
      (∀ entry ∈ w.runtimes, entry.2.observedState ≠ .error) ∧
      engine.configured "s" = [groupProcess 7 "/bin/sh", groupProcess 8 "/bin/app"] ∧
      w.Follows agentSettings := by
  have stable : StableRun groupJoined := by decide
  obtain ⟨w, reached, engine, present, running, fine, configured⟩ : ∃ w,
      run (step agentSettings) {} groupJoined = some w ∧ ∃ engine ∈ w.sharedSampler,
        engine.running = true ∧ (∀ entry ∈ w.runtimes, entry.2.observedState ≠ .error) ∧
          engine.configured "s" = [groupProcess 7 "/bin/sh", groupProcess 8 "/bin/app"] :=
    exists_run (by decide)
  exact ⟨stable, w, engine, reached, present, running, fine, configured,
    running_engine_follows stable reached⟩

/-- A shell becomes the server by `exec`, with its number and its start: the collector runs, no
session is in error, and the session is still configured with the shell. -/
theorem SessionWorld.exec_not_followed :
    ∃ w engine, run (step agentSettings) {}
        (groupStart "/bin/sh" ++ [.refresh [groupProcess 7 "/bin/app"] {}]) = some w ∧
      w.sharedSampler = some engine ∧ engine.running = true ∧
      (∀ entry ∈ w.runtimes, entry.2.observedState ≠ .error) ∧
      engine.configured "s" = [groupProcess 7 "/bin/sh"] ∧
      matchContinuousProcessesBySelector w.processes groupAssignment = [groupProcess 7 "/bin/app"] ∧
      ¬ w.Follows agentSettings := by
  obtain ⟨w, reached, engine, present, running, fine, ⟨entry, mem, named, assigned⟩, configured,
    picked⟩ :
      ∃ w, run (step agentSettings) {} (groupStart "/bin/sh" ++
        [.refresh [groupProcess 7 "/bin/app"] {}]) = some w ∧ ∃ engine ∈ w.sharedSampler,
          engine.running = true ∧ (∀ entry ∈ w.runtimes, entry.2.observedState ≠ .error) ∧
            (∃ entry ∈ w.runtimes, entry.1 = "s" ∧ entry.2.assignment = groupAssignment) ∧
            engine.configured "s" = [groupProcess 7 "/bin/sh"] ∧
            matchContinuousProcessesBySelector w.processes groupAssignment =
                [groupProcess 7 "/bin/app"] :=
    exists_run (by decide)
  refine ⟨w, engine, reached, present, running, fine, configured, picked, fun follows => ?_⟩
  have selected := (follows engine present running fine).2 entry mem (by rw [assigned]; rfl)
  rw [named, assigned, configured, picked] at selected
  exact absurd selected (by decide)

end MiniDrop.Agent
