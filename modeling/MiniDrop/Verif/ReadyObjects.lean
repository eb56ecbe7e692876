import MiniDrop.Verif.CleanerObjects
/-!
# Every ready artifact has its object

An object is deleted by a late notification, by the cleaner in one of three ways, or by the sweep of
a deleted task. The cleaner counts references to a shared object before it deletes it, but nothing
keeps a registration from coming in between, and the other deletions count nothing. So rows that are
ready keep their objects as long as a registration finds its object there and no deletion of it
under way, and a deletion that counts nothing starts on an object that no other row is read from.
-/
namespace MiniDrop

open ArtifactStore List Base

variable {action : ArtifactAction} {cfg : NotifyConfig}

namespace ArtifactStore

variable {s t : ArtifactStore} {clear : String → Prop} {tid key : String} {req : NotifyReq}

/-! ## Registrations -/

instance [DecidablePred clear] (s : ArtifactStore) (key : String) (blobID : Option Nat) :
    Decidable (s.Admits clear key blobID) := by
  unfold Admits
  infer_instance

/-- A row that is not there may be inserted. -/
def Enters (s : ArtifactStore) (clear : String → Prop) (tid : String) (kind : ArtifactKind)
    (key : String) : Prop :=
  s.findArtifact tid kind key = none → s.Admits clear key none

instance [DecidablePred clear] (s : ArtifactStore) (tid : String) (kind : ArtifactKind)
    (key : String) : Decidable (s.Enters clear tid kind key) := by
  unfold Enters
  infer_instance

/-- A row that is there is not being deleted, and is ready or may get ready. -/
def Renews (s : ArtifactStore) (clear : String → Prop) (tid key : String) : Prop :=
  ∀ row ∈ s.artifacts, Artifact.named tid .raw key row = true → row.live = true →
    row.counts = true ∧ (row.status = .ready ∨ s.Admits clear row.objectKey row.blobID)

instance [DecidablePred clear] (s : ArtifactStore) (tid key : String) :
    Decidable (s.Renews clear tid key) := by
  unfold Renews
  infer_instance

theorem Handles.of_extends (blobID : Option Nat)
      (rows : Base.Grows (Artifact.Handled (s.Admits clear))
        (Artifact.Fresh (s.Admits clear) s.nextArtifactID blobID) s.artifacts t.artifacts)
    (ids : s.ArtifactIDs)
    (held : ∀ id, blobID = some id → s.Holds id) (extended : Extends s t) :
    Handles clear blobID s t :=
  have beside := extended.beside
  ⟨rows, extended.grows.ids ids, held, beside.blobs, beside.symbolFiles, beside.kernelFiles,
    beside.objects⟩

theorem addedRow_fresh (row : Artifact) (named : row.objectKey = "" → row.blobID = none)
    (enters : s.findArtifact row.taskTID row.kind row.objectKey = none →
      s.Admits clear row.objectKey row.blobID) :
    ∀ added ∈ s.addedRow row, Artifact.Fresh (s.Admits clear) s.nextArtifactID
      row.blobID added := by
  intro added mem
  obtain ⟨absent, rfl⟩ := mem_addedRow.mp mem
  exact ⟨le_refl _, rfl, named, enters absent⟩

variable {size now : Int} {plan : QueuePlan} {admits : String → Option Nat → Prop}
  {blobID updated chosen : Option Nat} {row : Artifact}

theorem Moves.queue {generations : Bool} {attemptID : Nat}
    (ids : s.ArtifactIDs) (enters : s.Enters clear tid .raw (trimSpace key))
    (queued : s.queueAnalysis generations tid attemptID key size plan now = some t) :
    Moves clear s t := by
  obtain ⟨artifacts, -, -⟩ := queueAnalysis_some queued
  rw [insertArtifact_artifacts] at artifacts
  refine .rows (.of_extends none ?_ ids nofun (.queue queued))
  rw [artifacts]
  exact .append (fun row _ => .refl row)
    (addedRow_fresh (rawRow tid attemptID key size now) (fun _ => rfl) enters)

theorem newRows_fresh (raw : s.Enters clear tid .raw (trimSpace req.cosKey))
    (manifest : trimSpace req.manifestKey ≠ "" →
      s.Enters clear tid .manifest (trimSpace req.manifestKey)) :
    ∀ row ∈ s.newRaw req tid now ++ s.newManifest req tid now,
      Artifact.Fresh (s.Admits clear) s.nextArtifactID none row := by
  intro row mem
  rcases mem_append.mp mem with isRaw | isManifest
  · exact addedRow_fresh (rawRow tid req.attemptID req.cosKey req.artifactSize now)
      (fun _ => rfl) raw row isRaw
  · obtain ⟨⟨named, absent⟩, rfl⟩ := mem_newManifest.mp isManifest
    exact ⟨Nat.le_add_right _ _, rfl, fun _ => rfl, manifest named absent⟩

/-- The last part of the transaction makes a row ready that was admitted. -/
theorem settled_handled (found : updated = some row.id →
      row.counts = true ∧ (row.status = .ready ∨ admits row.objectKey row.blobID)) :
    Artifact.Handled admits row (settled req updated chosen row) := by
  unfold settled
  split
  · next same =>
    obtain ⟨counts, renewed⟩ := found same
    exact ⟨rfl, rfl, fun live => live, fun _ => counts, fun _ _ => renewed⟩
  · exact .refl row

theorem Moves.commit {task : HotmethodTask}
    (ids : s.ArtifactIDs) (renews : s.Renews clear task.tid req.cosKey)
    (raw : s.Enters clear task.tid .raw (trimSpace req.cosKey))
    (manifest : trimSpace req.manifestKey ≠ "" →
      s.Enters clear task.tid .manifest (trimSpace req.manifestKey))
    (done : s.commitNotification cfg req task plan now = some t) : Moves clear s t := by
  refine .rows (.of_extends none ?_ ids nofun (.commit done))
  obtain ⟨listed, listing, rfl⟩ := Option.map_eq_some_iff.mp done
  have artifacts := (listNotification_artifacts listing).1
  rw [registerUpload_artifacts]
  generalize chosen : listed.chosenID _ = attempt
  rw [artifacts, append_assoc, map_append]
  refine ⟨_, _, rfl, fun row stored => settled_handled fun updated => ?_, fun row mem => ?_⟩
  · -- The row that is found was there, since a new row has a number of its own.
    rcases updated_cases ids artifacts updated with ⟨found, finding, id, -⟩ | ⟨-, -, -, new⟩
    · obtain ⟨there, task, kind, key, live⟩ := named_of_findLive finding
      obtain rfl := inj_on_of_nodup_map ids.distinct there stored id
      apply renews found there _ live
      unfold Artifact.named
      rw [task, kind, key]
      simp
    · have below := ids.below row stored
      omega
  · obtain ⟨before, new, rfl⟩ := mem_map.mp mem
    have fresh := newRows_fresh raw manifest before new
    unfold settled
    split
    · exact ⟨fresh.number, fresh.blobID, fresh.named, fresh.admitted⟩
    · exact fresh

/-- What the registration of kernel symbols has to respect. -/
@[mk_iff]
structure Records (s : ArtifactStore) (clear : String → Prop) (tid key : String)
    (blobID : Option Nat) : Prop where
  blob : blobID ≠ some 0
  rows : ∀ row ∈ s.artifacts, Artifact.named tid .raw key row = true → row.live = true →
    row.counts = true
  admits : s.Admits clear key blobID

instance [DecidablePred clear] (s : ArtifactStore) (tid key : String) (blobID : Option Nat) :
    Decidable (s.Records clear tid key blobID) :=
  decidable_of_iff' _ (records_iff s clear tid key blobID)

theorem Moves.record {sum : String} (ids : s.ArtifactIDs)
    (records : tid ≠ "" → key ≠ "" → s.Records clear tid key blobID)
    (done : s.recordKernelSymbolArtifact tid key size sum blobID now = some t) :
    Moves clear s t := by
  have extended := Extends.record done
  unfold recordKernelSymbolArtifact at done
  split at done
  · cases done
    exact .same rfl rfl rfl rfl rfl rfl
  · next solid =>
    obtain ⟨blob, rows, admits⟩ := records (not_or.mp solid).1 (not_or.mp solid).2
    split at done
    · cases done
    · next stored =>
      have held (id : Nat) (some : blobID = some id) : s.Holds id := by
        rw [some] at stored blob
        have positive : 0 < id := by
          apply Nat.pos_of_ne_zero
          rintro rfl
          exact blob rfl
        simp only [Option.any_some, positive, decide_true, Bool.true_and, Bool.not_eq_true',
          Bool.not_eq_false, any_eq_true, Bool.and_eq_true, decide_eq_true_eq,
          Option.isNone_iff_eq_none] at stored
        obtain ⟨found, mem, ⟨same, ready⟩, alive⟩ := stored
        refine ⟨found, mem, same, alive, ?_⟩
        rw [ready]
        exact nofun
      split at done
      · next absent =>
        cases done
        refine .rows (.of_extends blobID ?_ ids held extended)
        rw [insertArtifact_artifacts]
        refine .append (fun row _ => .refl row) (addedRow_fresh _ (fun blank => ?_) fun _ => admits)
        exact absurd blank (not_or.mp solid).2
      · next row found =>
        split at done
        · next live =>
          cases done
          have there := mem_of_find?_eq_some found
          have named := find?_some found
          refine .rows (.update ids fun other stored same => ?_)
          obtain rfl := inj_on_of_nodup_map ids.distinct stored there (of_decide_eq_true same)
          have counts := rows other there named live
          have key : other.objectKey = key := by
            simp only [Artifact.named, Bool.and_eq_true, decide_eq_true_eq] at named
            exact named.2
          have same := admits.1.rows other there live key
          refine ⟨rfl, same.symm, fun live => live, fun _ => counts, fun _ _ => .inr ?_⟩
          rw [key, same]
          exact admits
        · cases done

end ArtifactStore

/-! ## Jobs -/

/-- The row that a request adds to a ledger has no blob yet. -/
def SymbolJob.Bare : SymbolJob → Prop
  | .upserting _ row => row.blobID = none
  | .inserting row => row.blobID = none
  | _ => True

namespace ArtifactJob

variable {cfg : NotifyConfig} {s t : ArtifactStore} {clear : String → Prop}
  {job later : ArtifactJob} {input : WorkInput}

/-- The object is deleted if the job goes on, whatever is registered under its key in the
meantime. -/
def dooms (key : String) : ArtifactJob → Bool
  | .queue (.late _ keys) => keys.contains key
  | .clean job => job.dooms key
  | _ => false

/-- What is known of a job. -/
def Kept (s : ArtifactStore) : ArtifactJob → Prop
  | .queue job => ∀ key, (ArtifactJob.queue job).dooms key = true → s.Unread key
  | .clean job => job.Kept s
  | .symbol job => job.Bare

/-- What the next step of a job has to respect: a late notification comes for objects that no row is
read from, a registration is admitted, a row of the ledger gets a key together with the blob of the
key, and the cleaner is careful. -/
def Careful (cfg : NotifyConfig) (clear : String → Prop) (s : ArtifactStore) : ArtifactJob → Prop
  | .queue (.notified req task) => s.tombstoned task.tid (testedKeys req) = true →
      cfg.connected = true → ∀ key ∈ lateKeys req, s.Unread key
  | .queue (.planned req task _) => s.Renews clear task.tid req.cosKey ∧
      s.Enters clear task.tid .raw (trimSpace req.cosKey) ∧
      (trimSpace req.manifestKey ≠ "" →
        s.Enters clear task.tid .manifest (trimSpace req.manifestKey))
  | .queue (.foundPlanned tid key _ _) => s.Enters clear tid .raw (trimSpace key)
  | .symbol (.upserting _ row) =>
      ∀ old ∈ s.kernelFiles, old.sha256 = row.sha256 → old.blobID.isSome = true →
        ∀ found ∈ s.artifacts, found.live = true → row.objectKey = found.objectKey →
        old.blobID = found.blobID
  | .symbol (.recording tid key _ _ blobID _) =>
    tid ≠ "" → key ≠ "" → s.Records clear tid key blobID
  | .clean job => job.Careful s
  | _ => True

instance [DecidablePred clear] (s : ArtifactStore) (job : ArtifactJob) :
    Decidable (job.Careful cfg clear s) := by
  rcases job with job | job | job <;> cases job <;> dsimp only [ArtifactJob.Careful] <;>
    infer_instance

theorem Kept.persists (kept : job.Kept s) (moves : ArtifactStore.Moves clear s t)
    (consistent : s.Consistent) (taken : ∀ key, job.dooms key = true → ¬clear key) :
    job.Kept t := by
  cases job with
  | queue => exact fun key doomed => moves.unread consistent (kept key doomed) (taken key doomed)
  | clean => exact CleanJob.Kept.persists kept moves consistent taken
  | symbol => exact kept

theorem upsert_moves {tid : String} {row : KernelSymbolFile}
    (kept : Kept s (.symbol (.upserting tid row)))
    (careful : Careful cfg clear s (.symbol (.upserting tid row))) :
    ArtifactStore.Moves clear s (s.upsertKernel row) := by
  refine .ledgers ⟨rfl, rfl, rfl, rfl, fun _ mem => .inl mem, fun file mem => ?_⟩
  unfold upsertKernel at mem
  split at mem
  · obtain ⟨old, listed, rfl⟩ := mem_map.mp mem
    split
    · next same =>
      exact .inr fun found stored live key some =>
        careful old listed same some found stored live key
    · exact .inl ⟨old, listed, rfl, rfl⟩
  · rcases mem_append.mp mem with old | new
    · exact .inl ⟨file, old, rfl, rfl⟩
    · obtain rfl := mem_singleton.mp new
      refine .inr fun _ _ _ _ some => ?_
      rw [show file.blobID = none from kept] at some
      cases some

theorem run_moves (kept : job.Kept s) (careful : job.Careful cfg clear s)
    (consistent : s.Consistent) (input : WorkInput) :
    ArtifactStore.Moves clear s (job.run cfg s input).store := by
  cases job with
  | queue job =>
    show ArtifactStore.Moves clear s (job.run cfg s input).store
    have writes := (job.run_does cfg s input).writes
    generalize (job.run cfg s input).store = t at writes ⊢
    cases writes with
    | same => exact .same rfl rfl rfl rfl rfl rfl
    | commit _ done => exact .commit consistent.ids careful.1 careful.2.1 careful.2.2 done
    | drop req key => exact .delete (kept key (by simp [dooms]))
    | queue _ done => exact .queue consistent.ids careful done
    | create done =>
      unfold commitReanalysis at done
      split at done
      · cases done
      · obtain ⟨created, inserted, rfl⟩ := Option.map_eq_some_iff.mp done
        have same := insertJob_some inserted
        rw [same]
        exact .same rfl rfl rfl rfl rfl rfl
  | clean job =>
    show ArtifactStore.Moves clear s (job.run cfg s input).store
    exact (job.run_does cfg s input).writes.moves kept consistent
  | symbol job =>
    show ArtifactStore.Moves clear s (job.run s input).store
    cases job with
    | touching =>
      refine .ledgers ⟨rfl, rfl, rfl, rfl, fun _ mem => .inl mem, fun file mem => .inl ?_⟩
      obtain ⟨old, listed, rfl⟩ := mem_map.mp mem
      refine ⟨old, listed, ?_⟩
      split
      · exact ⟨rfl, rfl⟩
      · exact ⟨rfl, rfl⟩
    | upserting => exact upsert_moves kept careful
    | probing | probingLegacy =>
      dsimp only [SymbolJob.run]
      split
      · exact .same rfl rfl rfl rfl rfl rfl
      · exact .same rfl rfl rfl rfl rfl rfl
    | recording =>
      dsimp only [SymbolJob.run]
      split
      · next done => exact .record consistent.ids careful done
      · exact .same rfl rfl rfl rfl rfl rfl
    | inserting =>
      refine .ledgers ⟨rfl, rfl, rfl, rfl, fun file mem => ?_, fun file mem => .inl ?_⟩
      · dsimp only [SymbolJob.run, insertSymbol] at mem
        split at mem
        · exact .inl mem
        · rcases mem_append.mp mem with old | new
          · exact .inl old
          · rw [mem_singleton.mp new]
            exact .inr kept
      · exact ⟨file, mem, rfl, rfl⟩

theorem queue_unread {step next : QueueJob} {key : String} (kept : Kept s (.queue step))
    (careful : Careful cfg clear s (.queue step)) (mem : next ∈ (step.run cfg s input).next)
    (doomed : (ArtifactJob.queue next).dooms key = true) :
    (step.run cfg s input).store.Unread key := by
  cases step with
  | notified =>
    dsimp only [QueueJob.run] at mem ⊢
    split at mem
    · next clash =>
      rw [if_pos clash]
      rw [mem_singleton.mp mem] at doomed
      have listed := contains_iff_mem.mp doomed
      split at listed
      · next connected => exact careful clash connected key listed
      · cases listed
    · rw [mem_singleton.mp mem] at doomed
      cases doomed
  | late req keys =>
    cases keys with
    | nil => exact absurd mem not_mem_nil
    | cons =>
      dsimp only [QueueJob.run] at mem ⊢
      rw [mem_singleton.mp mem] at doomed
      have before : s.Unread key := by
        apply kept key
        exact contains_iff_mem.mpr (mem_cons_of_mem _ (contains_iff_mem.mp doomed))
      split
      · exact before
      · exact before.congr rfl rfl
  | _ =>
    cases QueueJob.run_next mem with
    | _ => cases doomed

theorem run_kept (kept : job.Kept s) (careful : job.Careful cfg clear s) (consistent : s.Consistent)
    (mem : later ∈ (job.run cfg s input).next) : later.Kept (job.run cfg s input).store := by
  cases job with
  | queue =>
    obtain ⟨next, listed, rfl⟩ := mem_map.mp mem
    exact fun key doomed => queue_unread kept careful listed doomed
  | clean =>
    obtain ⟨next, listed, rfl⟩ := mem_map.mp mem
    exact CleanJob.Kept.run kept consistent careful listed
  | symbol step =>
    obtain ⟨next, listed, rfl⟩ := mem_map.mp mem
    show next.Bare
    cases step with
    | touching | upserting =>
      rw [mem_singleton.mp listed]
      trivial
    | probing =>
      dsimp only [SymbolJob.run] at listed
      split at listed
      · rw [mem_singleton.mp listed]
        rfl
      · rw [mem_singleton.mp listed]
        trivial
    | probingLegacy =>
      dsimp only [SymbolJob.run] at listed
      split at listed
      · rw [mem_singleton.mp listed]
        rfl
      · cases listed
    | recording =>
      dsimp only [SymbolJob.run] at listed
      split at listed
      · cases listed
      · cases listed
    | inserting => exact absurd listed not_mem_nil

theorem Starts.kept (starts : Starts cfg s action job) (consistent : s.Consistent) :
    job.Kept s := by
  have round {rows : List Artifact} (listed : ∀ row ∈ rows, row ∈ s.artifacts) {job : CleanJob}
      (waiting : job.waiting = rows) (held : job.held = none) :
      ∀ row, row ∈ job.waiting ∨ job.held = some row →
        ∃ stored ∈ s.artifacts, stored.ident = row.ident ∧ stored.blobID = row.blobID := by
    rintro row (waits | holds)
    · rw [waiting] at waits
      exact ⟨row, listed row waits, rfl, rfl⟩
    · rw [held] at holds
      cases holds
  cases starts with
  | notified | found | reanalysis => exact fun _ doomed => by cases doomed
  | expired | deleting =>
    refine ⟨(fun _ doomed => by cases doomed), round (fun row waits => ?_) rfl rfl, trivial,
      trivial⟩
    exact (mem_filter.mp ((mem_orderBy _).mp (mem_of_mem_take waits))).1
  | deleted =>
    refine ⟨(fun _ doomed => by cases doomed), round (fun row waits => ?_) rfl rfl, trivial,
      trivial⟩
    exact (mem_filter.mp waits).1
  | blobs =>
    refine ⟨fun key doomed => ?_, round (fun row waits => absurd waits not_mem_nil) rfl rfl,
      trivial, trivial⟩
    obtain ⟨blob, listed, same⟩ := any_eq_true.mp doomed
    obtain ⟨mem, passes⟩ := mem_filter.mp ((mem_orderBy _).mp (mem_of_mem_take listed))
    simp only [Bool.and_eq_true, decide_eq_true_eq, Option.isNone_iff_eq_none] at passes
    rw [← of_decide_eq_true same]
    exact consistent.unread_blob mem passes.1.2 (consistent.not_refers_deleting mem passes.1.1)
  | touching | probing => trivial
  | upserting | inserting => exact (rfl : (none : Option Nat) = none)

end ArtifactJob

theorem ArtifactAction.enter_moves {s : ArtifactStore}
    {out : ArtifactOutcome} {clear : String → Prop} (consistent : s.Consistent)
    (entered : action.enter cfg s = some out) : ArtifactStore.Moves clear s out.store := by
  have writes := (enter_does entered).writes
  generalize out.store = t at writes ⊢
  cases writes with
  | same | tasks | analysis | delete => exact .same rfl rfl rfl rfl rfl rfl
  | put _ key object => exact .put key object
  | expiry =>
    exact .rows (.update consistent.ids fun row _ _ =>
      ⟨rfl, rfl, fun live => live, fun counts => counts, fun ready _ => .inl ready⟩)
  | pin done =>
    obtain ⟨_, rfl⟩ := pinTaskArtifacts_some done
    exact .same rfl rfl rfl rfl rfl rfl

/-! ## The system -/

namespace ArtifactWorld

variable {cfg : NotifyConfig} {w next : ArtifactWorld} {action : ArtifactAction}

/-- No job is about to delete the object. -/
def Clear (w : ArtifactWorld) (key : String) : Prop := ∀ job ∈ w.jobs, job.dooms key = false
  deriving Decidable

/-- A job respects what is registered and what the others are about to delete. -/
def Careful (cfg : NotifyConfig) (w : ArtifactWorld) : ArtifactAction → Prop
  | .advance index _ => ∀ job ∈ w.jobs[index]?, job.Careful cfg w.Clear w.store
  | _ => True

instance (cfg : NotifyConfig) (w : ArtifactWorld) (action : ArtifactAction) :
    Decidable (w.Careful cfg action) := by
  induction action using ArtifactAction.casesOn <;> dsimp only [ArtifactWorld.Careful] <;>
    infer_instance

/-- What is registered agrees, rows that are ready have their objects, and no job is about to delete
one of these. -/
structure Stocked (w : ArtifactWorld) : Prop where
  consistent : w.store.Consistent
  backed : w.store.Backed
  jobs : ∀ job ∈ w.jobs, job.Kept w.store

theorem Stocked.step (stocked : w.Stocked) (careful : w.Careful cfg action)
    (taken : w.step cfg action = some next) : next.Stocked := by
  obtain ⟨consistent, backed, jobs⟩ := stocked
  rcases step_cases taken with ⟨out, entered, rfl⟩ | ⟨index, input, job, rfl, found, store, -,
    others⟩ | ⟨index, rfl, rfl⟩
  · have moves : ArtifactStore.Moves (fun _ => False) w.store out.store :=
      ArtifactAction.enter_moves consistent entered
    refine ⟨moves.consistent consistent, moves.backed consistent backed, fun job mem => ?_⟩
    have kept : job.Kept w.store := by
      rcases mem_append.mp mem with old | new
      · exact jobs job old
      · exact ((ArtifactAction.enter_does entered).next _ new).kept consistent
    exact kept.persists moves consistent fun _ _ => not_false
  · have there := mem_of_getElem? found
    have allowed := careful job found
    have moves := ArtifactJob.run_moves (jobs job there) allowed consistent input
    refine ⟨?_, ?_, fun other mem => ?_⟩
    · rw [store]
      exact moves.consistent consistent
    · rw [store]
      exact moves.backed consistent backed
    · rw [store]
      rcases others other mem with new | beside
      · exact ArtifactJob.run_kept (jobs job there) allowed consistent new
      · have old := mem_of_mem_eraseIdx beside
        refine (jobs other old).persists moves consistent fun key doomed clear => ?_
        rw [clear other old] at doomed
        cases doomed
  · exact ⟨consistent, backed, fun job mem => jobs job (mem_of_mem_eraseIdx mem)⟩

/-- **Ready rows have their objects**: in every run of careful steps, the key of every row that is
ready and no tombstone is resolved to an object that exists. -/
theorem ready_rows_have_objects (cfg : NotifyConfig) (s : ArtifactStore) (consistent : s.Consistent)
    (backed : s.Backed) (actions : List ArtifactAction) (w : ArtifactWorld)
    (careful : Along (step cfg) (Careful cfg) { store := s } actions)
    (reached : run (step cfg) { store := s } actions = some w) :
    ∀ row ∈ w.store.artifacts, row.status = .ready → row.live = true →
      w.store.objectExists (w.store.resolveBlobForKey row.objectKey) = true := by
  have start : Stocked { store := s } := ⟨consistent, backed, forall_mem_nil _⟩
  have stocked : w.Stocked := run_invariant_along
    (fun _ _ _ stocked careful taken => stocked.step careful taken) start careful reached
  intro row stored ready live
  have kept : row.status ≠ .deleted := by
    rw [ready]
    exact nofun
  rw [stocked.consistent.resolve stored live kept]
  exact stocked.backed row stored ready live

/-- A task whose object was uploaded, reported and analysed, and has expired. -/
def uploadedRound : List ArtifactAction := .upload "t/perf.data" { sha256 := "x" } :: expiredRound

/-- The status and the key of the rows, and the keys of the objects. -/
def shelved (w : ArtifactWorld) : List (ArtifactStatus × String) × List String :=
  (w.store.artifacts.map fun row => (row.status, row.objectKey), w.store.objects.map (·.1))

/-- The hash of a snapshot of kernel symbols. -/
def kernelSum : String := String.ofList (replicate 64 'a')

/-- The expired object is deleted, and then a snapshot of kernel symbols is uploaded for the
task. -/
def cleanedRun : List ArtifactAction :=
  uploadedRound ++ steps 0 4 ++ .uploadKernel "t" "h" { sha256 := kernelSum } 10 40 :: steps 0 2

/-- The row that is ready has its object. -/
theorem snapshot_has_object :
    (run (step {}) { store := uploadingTables } cleanedRun).map shelved =
      some ([(.deleted, "t/perf.data"), (.ready, kernelSymbolObjectKey kernelSum)],
        [kernelSymbolObjectKey kernelSum]) ∧
      ∀ w, run (step {}) { store := uploadingTables } cleanedRun = some w →
        ∀ row ∈ w.store.artifacts, row.status = .ready → row.live = true →
          w.store.objectExists (w.store.resolveBlobForKey row.objectKey) = true := by
  refine ⟨by decide, fun w reached => ?_⟩
  have consistent : ArtifactStore.Consistent
      uploadingTables := .of_empty rfl rfl
  have backed : uploadingTables.Backed :=
    forall_mem_nil _
  have careful : Along (step {}) (Careful {})
      { store := uploadingTables } cleanedRun :=
    along_of_decide (by decide)
  exact ready_rows_have_objects {} _ consistent backed cleanedRun w careful reached

/-- The agent uploads the object again and reports it while the cleaner has claimed its row. The row
is ready again, and the cleaner goes on to delete the object. -/
theorem object_of_ready_row_deleted :
    ∃ w, run (step {}) { store := uploadingTables }
        (uploadedRound ++ steps 0 1 ++ [.upload "t/perf.data" { sha256 := "x" },
          .notify perfData] ++ steps 1 4 ++ steps 0 1) = some w ∧
      ∃ row ∈ w.store.artifacts, row.status = .ready ∧ row.live = true ∧
        w.store.objectExists (w.store.resolveBlobForKey row.objectKey) = false :=
  exists_run (by decide)

end ArtifactWorld

end MiniDrop
