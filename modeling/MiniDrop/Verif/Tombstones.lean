import MiniDrop.Verif.ArtifactSteps
/-!
# Tombstones

A success notification tests its keys for tombstones as they were sent, and commits later. So a
tombstone is final as long as no blanks stand around the keys, and no row is buried under a key of a
notification that has passed its test and is not answered yet.
-/
namespace MiniDrop

open ArtifactStore Base List

variable {req : NotifyReq}

/-! ## Keys -/

namespace NotifyReq

/-- The key is one of the request, with the blanks around it cut off. -/
def names (req : NotifyReq) (key : String) : Bool :=
  trimSpace req.cosKey = key || (trimSpace req.manifestKey ≠ "" && trimSpace req.manifestKey = key)

/-- No blanks stand around the keys. -/
def plain (req : NotifyReq) : Bool :=
  trimSpace req.cosKey = req.cosKey && trimSpace req.manifestKey = req.manifestKey

theorem mem_testedKeys {key : String} (plain : req.plain = true)
    (named : req.names key = true) : key ∈ testedKeys req := by
  unfold NotifyReq.plain at plain
  unfold names at named
  simp only [Bool.and_eq_true, Bool.or_eq_true, decide_eq_true_eq] at plain named
  unfold testedKeys
  rcases named with cos | ⟨solid, manifest⟩
  · rw [← cos, plain.1]
    exact mem_cons_self
  · rw [if_pos solid, ← manifest, plain.2]
    exact mem_cons_of_mem _ (mem_singleton_self _)

end NotifyReq

/-- No tombstone of the task has one of the keys. -/
def ArtifactStore.Untombed (s : ArtifactStore) (req : NotifyReq) : Prop :=
  ∀ row ∈ s.artifacts, row.deletedAt.isSome = true → row.taskTID = req.taskID →
    req.names row.objectKey = false

/-! ## Jobs -/

namespace QueueJob

/-- The request of a notification that is not committed. -/
def sent : QueueJob → Option (NotifyReq × HotmethodTask)
  | .notified req task => some (req, task)
  | .tested req task => some (req, task)
  | .planned req task _ => some (req, task)
  | _ => none

/-- The request of a notification that has passed its test. -/
def passed : QueueJob → Option NotifyReq
  | .tested req _ => some req
  | .planned req _ _ => some req
  | .answering req => some req
  | _ => none

/-- The request of a notification. -/
def request : QueueJob → Option NotifyReq
  | .notified req _ => some req
  | .tested req _ => some req
  | .planned req _ _ => some req
  | .answering req => some req
  | .late req _ => some req
  | _ => none

/-- The inputs that are planned for a job are rows of the object. -/
def Planned (s : ArtifactStore) : QueueJob → Prop
  | .planned req task plan => ∀ ids ∈ plan.inputs, ∀ id ∈ ids,
      (id, task.tid, ArtifactKind.raw, trimSpace req.cosKey) ∈ s.artifacts.map Artifact.ident
  | _ => True

/-- What is known of a job. -/
structure Sound (s : ArtifactStore) (job : QueueJob) : Prop where
  sent : ∀ pair ∈ job.sent, pair.2.tid = pair.1.taskID ∧ pair.1.plain = true
  passed : ∀ req ∈ job.passed, s.Untombed req
  planned : job.Planned s

end QueueJob

/-- The request of a notification that has passed its test. -/
def ArtifactJob.passed : ArtifactJob → Option NotifyReq
  | .queue job => job.passed
  | _ => none

/-- The request of a notification. -/
def ArtifactJob.request : ArtifactJob → Option NotifyReq
  | .queue job => job.request
  | _ => none

namespace QueueJob.Sound

variable {s t : ArtifactStore} {job : QueueJob} {buried : Option Nat}

/-- A job that is not that of a notification, or has come too late. -/
theorem quiet (sent : job.sent = none) (passed : job.passed = none) : job.Sound s := by
  refine ⟨fun pair mem => ?_, fun req mem => ?_, ?_⟩
  · rw [sent] at mem
    cases mem
  · rw [passed] at mem
    cases mem
  · cases job with
    | planned => cases sent
    | _ => trivial

/-- What is known stays known unless a row under one of the keys is buried. -/
theorem persists (sound : job.Sound s) (grows : ArtifactStore.Grows buried s t)
    (apart : ∀ row ∈ s.artifacts, buried = some row.id → row.status = .deleting →
      ∀ req ∈ job.passed, row.taskTID = req.taskID → req.names row.objectKey = false) :
    job.Sound t := by
  refine ⟨sound.sent, fun req passes row stored dead task => ?_, ?_⟩
  · rcases grows.rows.back stored with ⟨before, listed, kept⟩ | fresh
    · have taskTID : row.taskTID = before.taskTID := congrArg (·.2.1) kept.ident
      have key : row.objectKey = before.objectKey := congrArg (·.2.2.2) kept.ident
      rw [taskTID] at task
      rw [key]
      rcases kept.tomb with same | ⟨here, claimed⟩
      · rw [same] at dead
        exact sound.passed req passes before listed dead task
      · exact apart before listed here claimed req passes task
    · have live := fresh.1
      rw [Option.isNone_iff_eq_none.mp live] at dead
      cases dead
  · cases job with
    | planned =>
      intro ids planned id mem
      obtain ⟨added, later⟩ := grows.rows.keys fun _ _ kept => kept.ident
      rw [later]
      exact mem_append_left _ (sound.planned ids planned id mem)
    | _ => trivial

theorem persists_none (sound : job.Sound s) (grows : ArtifactStore.Grows none s t) : job.Sound t :=
  sound.persists grows fun _ _ buried => absurd buried nofun

end QueueJob.Sound

namespace QueueJob

variable {cfg : NotifyConfig} {s : ArtifactStore} {job : QueueJob} {input : WorkInput}

theorem untombed_of_test {task : HotmethodTask} (tid : task.tid = req.taskID)
    (plain : req.plain = true) (clear : s.tombstoned task.tid (testedKeys req) = false) :
    s.Untombed req := by
  intro row stored dead owner
  apply Bool.eq_false_of_not_eq_true
  intro named
  have tested := NotifyReq.mem_testedKeys plain named
  have test := any_eq_false.mp clear row stored
  apply test
  rw [tid, owner]
  simp [tested, dead]

theorem run_sound (sound : job.Sound s) : ∀ later ∈ (job.run cfg s input).next, later.Sound s := by
  intro later mem
  cases run_next mem with
  | late => exact Sound.quiet rfl rfl
  | pass req task clear =>
    obtain ⟨tid, plain⟩ := sound.sent (req, task) rfl
    refine ⟨sound.sent, fun other same => ?_, trivial⟩
    obtain rfl : req = other := Option.some.inj same
    exact untombed_of_test tid plain clear
  | plan =>
    refine ⟨sound.sent, sound.passed, ?_⟩
    intro ids planned id listed
    obtain ⟨row, found, rfl⟩ := Option.map_eq_some_iff.mp planned
    have named := find?_some found
    simp only [Artifact.named, Bool.and_eq_true, decide_eq_true_eq] at named
    split at listed
    · rw [mem_singleton.mp listed]
      apply mem_map.mpr
      refine ⟨row, mem_of_find?_eq_some found, ?_⟩
      unfold Artifact.ident
      rw [named.1.1, named.1.2, named.2]
    · cases listed
  | replan => exact ⟨sound.sent, sound.passed, trivial⟩
  | commit =>
    refine ⟨fun pair same => ?_, sound.passed, trivial⟩
    cases same
  | _ => exact Sound.quiet rfl rfl

end QueueJob

/-! ## The system -/

namespace ArtifactWorld

variable {cfg : NotifyConfig} {w next : ArtifactWorld} {action : ArtifactAction}
  {out : ArtifactOutcome}

/-- The keys of a success notification have no blanks around them, and no row is buried under a key
of a notification that has passed its test and is not answered. -/
def Timely (w : ArtifactWorld) : ArtifactAction → Prop
  | .notify body => body.isError = false → body.plain = true
  | .advance index input => ∀ id ∈ w.buries (.advance index input), ∀ row ∈ w.store.artifacts,
      row.id = id → row.status = .deleting → ∀ job ∈ w.jobs, ∀ req ∈ job.passed,
        row.taskTID = req.taskID → req.names row.objectKey = false
  | _ => True

instance (w : ArtifactWorld) (action : ArtifactAction) : Decidable (w.Timely action) := by
  induction action using ArtifactAction.casesOn <;> dsimp only [Timely] <;> infer_instance

/-- What holds in every state. -/
structure Sound (w : ArtifactWorld) : Prop where
  ids : w.store.ArtifactIDs
  jobs : ∀ job, .queue job ∈ w.jobs → job.Sound w.store

theorem enter_sound (timely : w.Timely action) (entered : action.enter cfg w.store = some out) :
    ∀ job, .queue job ∈ out.next → job.Sound w.store := by
  intro job mem
  cases (ArtifactAction.enter_does entered).next _ mem with
  | @notified body req task admission success =>
    have admitted := admitNotification_ok admission
    have kind : req.isError = body.isError := by
      rw [admitted.sent]
      rfl
    rw [kind] at success
    have plain : req.plain = true := by
      rw [admitted.sent]
      exact timely success
    have tid : task.tid = req.taskID := by
      rw [admitted.sent]
      exact admitted.task
    refine ⟨fun pair same => ?_, fun req same => ?_, trivial⟩
    · obtain rfl := Option.some.inj same
      exact ⟨tid, plain⟩
    · cases same
  | found | reanalysis => exact .quiet rfl rfl

theorem Sound.step (sound : w.Sound) (timely : w.Timely action)
    (taken : w.step cfg action = some next) :
    next.Sound := by
  have grows := step_grows taken
  refine ⟨grows.ids sound.ids, fun job mem => ?_⟩
  rcases step_cases taken with ⟨out, entered, rfl⟩ | ⟨index, input, step, rfl, found, store,
    -, jobs⟩ | ⟨index, rfl, rfl⟩
  · have entry := (ArtifactAction.enter_does entered).writes.grows
    rcases mem_append.mp mem with old | new
    · exact (sound.jobs job old).persists_none entry
    · exact (enter_sound timely entered job new).persists_none entry
  · rcases jobs _ mem with new | beside
    · obtain ⟨step, rfl, listed⟩ := ArtifactJob.next_of_mem new
      have before := sound.jobs step (mem_of_getElem? found)
      rw [store]
      exact (QueueJob.run_sound before job listed).persists_none
        (step.run_does cfg w.store input).writes.grows
    · have there := mem_of_mem_eraseIdx beside
      apply (sound.jobs job there).persists grows
      intro row stored buried claimed req passes
      exact timely row.id buried row stored rfl claimed (.queue job) there req passes
  · exact sound.jobs job (mem_of_mem_eraseIdx mem)

/-- The notification whose step an action is. -/
def requestOf (w : ArtifactWorld) : ArtifactAction → Option NotifyReq
  | .advance index _ => w.jobs[index]?.bind ArtifactJob.request
  | _ => none

end ArtifactWorld

variable {cfg : NotifyConfig} {s : ArtifactStore} {job : QueueJob} {req : NotifyReq}

theorem QueueJob.Sound.creates {new : AnalysisJob} {row : Artifact} (sound : job.Sound s)
    (keyed : s.ArtifactIDs) (sends : job.request = some req) (creates : job.Creates cfg s new)
    (stored : row ∈ s.artifacts) (dead : row.deletedAt.isSome = true) :
    (row.taskTID = req.taskID → req.names row.objectKey = false) ∧
    row.id ∉ new.inputArtifactIDs := by
  cases job with
  | planned sent task plan =>
    obtain rfl := Option.some.inj sends
    have untombed := sound.passed sent rfl
    refine ⟨untombed row stored dead, fun input => ?_⟩
    rw [creates.2.inputs] at input
    cases planned : plan.inputs with
    | none =>
      rw [planned] at input
      have same := mem_singleton.mp input
      have below := keyed.below row stored
      omega
    | some ids =>
      rw [planned] at input
      obtain ⟨found, listed, ident⟩ := mem_map.mp (sound.planned ids planned row.id input)
      have id : found.id = row.id := congrArg Prod.fst ident
      obtain rfl := inj_on_of_nodup_map keyed.distinct listed stored id
      have task : found.taskTID = task.tid := congrArg (·.2.1) ident
      have key : found.objectKey = trimSpace sent.cosKey := congrArg (·.2.2.2) ident
      have clear := untombed found listed dead (task.trans (sound.sent (sent, _) rfl).1)
      unfold NotifyReq.names at clear
      rw [key, decide_eq_true rfl, Bool.true_or] at clear
      cases clear
  | notified | tested | answering | late => cases creates
  | _ => cases sends

namespace ArtifactWorld

/-- **Tombstones are final**: in every run in which the keys of success notifications have no blanks
around them, and no row is buried under a key of a notification that has passed its test and is not
answered, once a row is a tombstone no success notification with its key is answered with 0, and no
step of a notification creates a job for its key or with the row as an input. -/
theorem tombstones_are_final (cfg : NotifyConfig) (s : ArtifactStore) (keyed : s.ArtifactIDs)
    (actions : List ArtifactAction) (action : ArtifactAction) (w next : ArtifactWorld)
    (timely : Along (step cfg) Timely { store := s } (actions ++ [action]))
    (reached : run (step cfg) { store := s } actions = some w)
    (taken : w.step cfg action = some next) (row : Artifact) (stored : row ∈ w.store.artifacts)
    (dead : row.deletedAt.isSome = true) :
    (∀ events req, next.log = events ++ w.log → .notify { req, code := 0 } ∈ events →
        req.isError = false → row.taskTID = req.taskID → req.names row.objectKey = false) ∧
      ∀ req, w.requestOf action = some req →
        (row.taskTID = req.taskID → req.names row.objectKey = true →
          next.store.analysisJobs = w.store.analysisJobs) ∧
        ∀ job ∈ next.store.analysisJobs, job ∈ w.store.analysisJobs ∨
        row.id ∉ job.inputArtifactIDs := by
  obtain ⟨before, last⟩ := along_append timely reached
  have start : Sound { store := s } :=
    ⟨keyed, fun _ mem => absurd mem not_mem_nil⟩
  have sound : w.Sound :=
    run_invariant_along (fun _ _ _ sound timely taken => sound.step timely taken) start
      before reached
  constructor
  · intro events req log answers success task
    rcases step_cases taken with ⟨out, entered, rfl⟩ | ⟨index, input, job, rfl, found, store,
      logged, -⟩ | ⟨index, rfl, rfl⟩
    · have same : out.events = events := append_cancel_right log
      rw [← same] at answers
      have failed := (ArtifactAction.enter_does entered).answers _ answers rfl
      rw [success] at failed
      cases failed
    · have same := append_cancel_right (logged.symm.trans log)
      rw [← same] at answers
      cases job with
      | queue job =>
        obtain ⟨answered, listed, equal⟩ := mem_map.mp answers
        obtain rfl := ArtifactEvent.notify.inj equal
        obtain rfl := (job.run_does cfg w.store input).answers _ listed rfl
        exact (sound.jobs _ (mem_of_getElem? found)).passed req rfl row stored dead task
      | clean => exact absurd answers not_mem_nil
      | symbol =>
        obtain ⟨answered, -, equal⟩ := mem_map.mp answers
        cases equal
    · have same : [] = events := append_cancel_right log
      rw [← same] at answers
      cases answers
  · intro req sends
    cases action with
    | advance index input =>
      obtain ⟨job, found, store, -, -⟩ := Pool.advance_beside taken
      have request : job.request = some req := by
        dsimp only [requestOf] at sends
        rw [found] at sends
        exact sends
      rw [store]
      rcases job.run_jobs cfg w.store input with ⟨same, -⟩ | ⟨step, new, rfl, jobs, -, creates⟩
      · rw [same]
        exact ⟨fun _ _ => rfl, fun job mem => Or.inl mem⟩
      · have known := sound.jobs step (mem_of_getElem? found)
        obtain ⟨clear, unlisted⟩ := known.creates sound.ids request creates stored dead
        rw [jobs]
        refine ⟨fun task named => ?_, fun job mem => ?_⟩
        · rw [clear task] at named
          cases named
        · rcases mem_append.mp mem with old | created
          · exact Or.inl old
          · rw [mem_singleton.mp created]
            exact Or.inr unlisted
    | _ => cases sends

/-- The first object is analysed and expires, and a round of the cleaner deletes it; the round is
the job at a position. -/
def buryFirst (index : Nat) : List ArtifactAction :=
  [.analysis 1 .success, .expiry 1 (some 20) none, .clean 30 10] ++ steps index 6

/-- The answers and the rows of a state. -/
structure Glance where
  codes : List Nat
  rows : List (String × Bool)
  jobs : List (List Nat)
  deriving DecidableEq

/-- What is seen of a state: the codes of the answers, the keys that are tombstones or not, and the
inputs of the jobs. -/
def glance (w : ArtifactWorld) : Glance where
  codes := w.log.map fun
    | .notify answered => answered.code
    | .symbol _ => 0
  rows := w.store.artifacts.map fun row => (row.objectKey, row.deletedAt.isSome)
  jobs := w.store.analysisJobs.map (·.inputArtifactIDs)

/-- An object is reported and deleted. -/
def buried : List ArtifactAction := report perfData ++ buryFirst 0

/-- It is reported once more. -/
def reportedLate : List ArtifactAction := buried ++ [.notify perfData] ++ steps 0 2

/-- It is reported, and deleted after another report has passed the test. -/
def buriedBetween : List ArtifactAction :=
  report perfData ++ [.notify perfData, .advance 0 {}] ++ buryFirst 1

/-- The late report is refused. -/
theorem late_report_refused :
    (run (step {}) { store := underway } reportedLate).map glance =
        some ⟨[0], [("t/perf.data", true)], [[1]]⟩ ∧
      (run (step {}) { store := underway } (reportedLate ++ [.advance 0 {}])).map
        glance = some ⟨[409, 0], [("t/perf.data", true)], [[1]]⟩ ∧
      ∀ w next, run (step {}) { store := underway } reportedLate = some w →
        w.step {} (.advance 0 {}) = some next → ∀ row ∈ w.store.artifacts,
          row.deletedAt.isSome = true →
        ∀ events req, next.log = events ++ w.log → .notify { req, code := 0 } ∈ events →
          req.isError = false → row.taskTID = req.taskID → req.names row.objectKey = false := by
  refine ⟨by decide, by decide, fun w next reached taken row stored dead => ?_⟩
  have keyed : underway.ArtifactIDs :=
    ⟨nodup_nil, forall_mem_nil _⟩
  have timely : Along (step {}) Timely { store := underway } (reportedLate ++ [.advance 0 {}]) :=
    along_of_decide (by decide)
  exact (tombstones_are_final {} _ keyed reportedLate (.advance 0 {}) w next timely reached
    taken row stored dead).1

/-- A report with a blank before the key passes the test for tombstones, and so does one that comes
before the row is buried and is committed after it. -/
theorem tombstone_not_final :
    (run (step {}) { store := underway } buried).map glance =
      some ⟨[0], [("t/perf.data", true)], [[1]]⟩ ∧
    (run (step {}) { store := underway } (buried ++
        report { taskID := "t", cosKey := " t/perf.data", attemptID := 2 })).map glance =
      some ⟨[0, 0], [("t/perf.data", true)], [[1], []]⟩ ∧
    (run (step {}) { store := underway } buriedBetween).map glance =
      some ⟨[0], [("t/perf.data", true)], [[1]]⟩ ∧
    (run (step {}) { store := underway } (buriedBetween ++ steps 0 3)).map glance =
      some ⟨[0, 0], [("t/perf.data", true)], [[1]]⟩ := by
  refine ⟨?_, ?_, ?_, ?_⟩
  all_goals decide

end ArtifactWorld

end MiniDrop
