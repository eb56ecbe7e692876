import MiniDrop.Base.Grows
import MiniDrop.Server.ArtifactWorkers
import MiniDrop.Verif.ArtifactRows
/-!
# How the rows of artifacts change

No row of an artifact goes, and none changes its identifier, its task, its kind or its key. New rows
are live and get identifiers above all others. Only the end of a deletion makes a row a tombstone,
and nothing makes a tombstone live again.
-/
namespace MiniDrop

variable {task : HotmethodTask} {request : Reanalysis} {cfg : NotifyConfig} {blobID : Option Nat}
  {rawIDs : List Nat} {generations : Bool} {req : NotifyReq} {attemptID : Nat} {sum : String}

/-- What a row is about. -/
def Artifact.ident (row : Artifact) : Nat × String × ArtifactKind × String :=
  (row.id, row.taskTID, row.kind, row.objectKey)

/-- A row stays what it is about, and stays live or a tombstone unless it is the claimed row that is
to be buried. -/
structure Artifact.Kept (buried : Option Nat) (before after : Artifact) : Prop where
  ident : after.ident = before.ident
  tomb : after.deletedAt = before.deletedAt ∨ (buried = some before.id ∧ before.status = .deleting)

namespace Artifact.Kept

variable {buried : Option Nat} {a b c : Artifact}

/-- A row that is not touched. -/
theorem refl (row : Artifact) : Kept buried row row := ⟨rfl, Or.inl rfl⟩

/-- Without a row to bury, the date stays. -/
theorem same (kept : Kept none a b) : b.deletedAt = a.deletedAt :=
  kept.tomb.resolve_right fun both => absurd both.1 nofun

/-- One change after another. -/
theorem trans (first : Kept none a b) (second : Kept none b c) : Kept none a c :=
  ⟨second.ident.trans first.ident, Or.inl (second.same.trans first.same)⟩

end Artifact.Kept

namespace ArtifactStore

variable {s t u : ArtifactStore} {buried : Option Nat}

/-- The rows of one store grow to those of another. -/
structure Grows (buried : Option Nat) (s t : ArtifactStore) : Prop where
  rows : Base.Grows (Artifact.Kept buried) (fun row => row.live = true ∧ s.nextArtifactID ≤ row.id)
    s.artifacts t.artifacts
  number : s.nextArtifactID ≤ t.nextArtifactID
  ids : s.ArtifactIDs → t.ArtifactIDs

namespace Grows

/-- Other tables. -/
theorem of_eq (rows : t.artifacts = s.artifacts) (number : t.nextArtifactID = s.nextArtifactID) :
    Grows buried s t := by
  refine ⟨?_, number.ge, fun keyed => ⟨?_, ?_⟩⟩
  · rw [rows]
    exact Base.Grows.refl fun row _ => Artifact.Kept.refl row
  · rw [rows]
    exact keyed.distinct
  · rw [rows, number]
    exact keyed.below

/-- Nothing happens. -/
theorem refl (s : ArtifactStore) : Grows buried s s := of_eq rfl rfl

/-- One step after another; what is live and may not be buried stays live. -/
theorem trans (first : Grows none s t) (second : Grows none t u) : Grows none s u := by
  refine ⟨?_, first.number.trans second.number, fun keyed => second.ids (first.ids keyed)⟩
  refine first.rows.trans
    (second.rows.mono (fun _ _ _ kept => kept) fun row fresh =>
    ⟨fresh.1, first.number.trans fresh.2⟩)
    (fun _ _ _ early late => early.trans late) ?_
  intro a b fresh kept
  have id : b.id = a.id := congrArg Prod.fst kept.ident
  unfold Artifact.live at fresh ⊢
  rw [kept.same, id]
  exact fresh

/-- No row is buried. -/
theorem weaken (grows : Grows none s t) : Grows buried s t := by
  refine ⟨grows.rows.mono (fun a _ b kept => ?_) (fun _ fresh => fresh), grows.number, grows.ids⟩
  exact ⟨kept.ident, Or.inl kept.same⟩

/-- Rows are rewritten. -/
theorem update (s : ArtifactStore) (test : Artifact → Bool) (change : Artifact → Artifact)
    (keeps : ∀ row, test row = true → Artifact.Kept buried row (change row)) :
    Grows buried s (s.updateArtifacts test change) := by
  have each (row : Artifact) : Artifact.Kept buried row (if test row then change row else row) := by
    split
    · next passes => exact keeps row passes
    · exact Artifact.Kept.refl row
  refine ⟨Base.Grows.of_map fun row _ => each row, le_refl _, fun keyed => ?_⟩
  exact keyed.of_map (fun row _ => congrArg Prod.fst (each row).ident) rfl rfl

/-- A live row is inserted. -/
theorem insert (s : ArtifactStore) (row : Artifact) (live : row.deletedAt = none) :
    Grows none s (s.insertArtifact row) := by
  refine ⟨?_, ?_, fun keyed => keyed.insert row⟩
  · rw [insertArtifact_artifacts]
    apply Base.Grows.append fun row _ => Artifact.Kept.refl row
    intro added mem
    obtain ⟨-, rfl⟩ := mem_addedRow.mp mem
    refine ⟨?_, le_refl _⟩
    rw [live]
    rfl
  · rw [insertArtifact_next]
    exact Nat.le_add_right _ _

/-- A row is buried. -/
theorem complete (s : ArtifactStore) (id : Nat) (reason : String) (now : Int) :
    Grows (some id) s (s.completeArtifactDeletion id reason now) := by
  apply update
  intro row passes
  rw [Bool.and_eq_true, decide_eq_true_eq] at passes
  exact ⟨rfl, Or.inr ⟨by rw [passes.1], of_decide_eq_true passes.2⟩⟩

end Grows

/-- Beside artifacts, jobs and the columns of tasks and attempts, everything is as it was. -/
structure Beside (s t : ArtifactStore) : Prop where
  rows : KeepsRows s.toTaskStore t.toTaskStore
  deletedTasks : t.deletedTasks = s.deletedTasks
  pinned : t.pinned = s.pinned
  blobs : t.blobs = s.blobs
  symbolFiles : t.symbolFiles = s.symbolFiles
  kernelFiles : t.kernelFiles = s.kernelFiles
  objects : t.objects = s.objects

namespace Beside

/-- The tables of the tasks are written. -/
theorem of_tasks {tasks : TaskStore} (rows : KeepsRows s.toTaskStore tasks) :
    Beside s { s with toTaskStore := tasks } :=
  ⟨rows, rfl, rfl, rfl, rfl, rfl, rfl⟩

/-- Nothing happens. -/
theorem refl (s : ArtifactStore) : Beside s s := of_tasks (.of_eq rfl rfl)

/-- One step after another. -/
theorem trans (first : Beside s t) (second : Beside t u) : Beside s u where
  rows := first.rows.trans second.rows
  deletedTasks := second.deletedTasks.trans first.deletedTasks
  pinned := second.pinned.trans first.pinned
  blobs := second.blobs.trans first.blobs
  symbolFiles := second.symbolFiles.trans first.symbolFiles
  kernelFiles := second.kernelFiles.trans first.kernelFiles
  objects := second.objects.trans first.objects

end Beside

/-- Rows of artifacts and jobs are added, and nothing is buried. -/
structure Extends (s t : ArtifactStore) : Prop where
  grows : Grows none s t
  beside : Beside s t

namespace Extends

/-- Nothing happens. -/
theorem refl (s : ArtifactStore) : Extends s s := ⟨.refl s, .refl s⟩

/-- One step after another. -/
theorem trans (first : Extends s t) (second : Extends t u) : Extends s u :=
  ⟨first.grows.trans second.grows, first.beside.trans second.beside⟩

/-- The tables of the tasks are written. -/
theorem tasks {tasks : TaskStore} (rows : KeepsRows s.toTaskStore tasks) :
    Extends s { s with toTaskStore := tasks } :=
  ⟨.of_eq rfl rfl, .of_tasks rows⟩

/-- Rows are rewritten. -/
theorem update (s : ArtifactStore) (test : Artifact → Bool) (change : Artifact → Artifact)
    (keeps : ∀ row, Artifact.Kept none row (change row)) :
    Extends s (s.updateArtifacts test change) :=
  ⟨.update s test change fun row _ => keeps row, .of_eq rfl rfl, rfl, rfl, rfl, rfl, rfl, rfl⟩

/-- A live row is inserted. -/
theorem insert (s : ArtifactStore) (row : Artifact) (live : row.deletedAt = none) :
    Extends s (s.insertArtifact row) := by
  refine ⟨.insert s row live, ?_⟩
  unfold insertArtifact
  split
  · exact .refl s
  · exact ⟨.of_eq rfl rfl, rfl, rfl, rfl, rfl, rfl, rfl⟩

/-- A job is inserted. -/
theorem job {new : AnalysisJob} (inserted : s.insertJob new = some t) : Extends s t := by
  rw [insertJob_some inserted]
  exact ⟨.of_eq rfl rfl, .of_eq rfl rfl, rfl, rfl, rfl, rfl, rfl, rfl⟩

variable {tid key : String} {size now : Int} {plan : QueuePlan}

/-- An analysis is queued. -/
theorem queue (queued : s.queueAnalysis generations tid attemptID key size plan now = some t) :
    Extends s t := by
  have inserted := insert s (rawRow tid attemptID key size now) rfl
  rcases queueAnalysis_cases queued with ⟨-, rfl⟩ | ⟨-, added⟩
  · exact inserted
  · exact inserted.trans (job added)

/-- The rows of an upload. -/
theorem finish (s : ArtifactStore) (req : NotifyReq) (tid : String) (now : Int) : Extends s
      ((s.ensureManifestArtifact tid req.attemptID req.manifestKey now).registerUpload req
        tid now) := by
  have manifest : Extends s (s.ensureManifestArtifact tid req.attemptID req.manifestKey now) := by
    unfold ensureManifestArtifact
    split
    · exact refl s
    · exact insert s _ rfl
  have ended (store : ArtifactStore) (id : Option Nat) :
      Extends store (store.finishAttempt req tid id now) := by
    unfold finishAttempt
    dsimp only
    split
    · exact refl store
    · next attemptID _ =>
      cases id with
      | none => exact tasks (.of_ends .byID)
      | some id =>
        have updated := update store (·.id = id) (fun row => { row with attemptID }) fun _ =>
          ⟨rfl, .inl rfl⟩
        exact updated.trans (tasks (.of_ends .byID))
  apply manifest.trans
  unfold registerUpload
  split
  · exact ended _ none
  · next row _ =>
      exact (update _ (·.id = row.id) (registeredRow req) fun _ => ⟨rfl, .inl rfl⟩).trans
        (ended _ _)

/-- The transaction of a notification. -/
theorem commit (done : s.commitNotification cfg req task plan now = some t) : Extends s t := by
  obtain ⟨listed, listing, rfl⟩ := Option.map_eq_some_iff.mp done
  obtain ⟨queued, queueing, rfl⟩ := Option.map_eq_some_iff.mp listing
  have advanced : Extends s (s.advanceTask task now) :=
    tasks (.of_writes (advanceTask_writes s task now))
  exact (advanced.trans (queue queueing)).trans (finish queued req task.tid now)

/-- A registration writes nothing, or inserts a row, or updates rows. -/
theorem record_cases
    (done : s.recordKernelSymbolArtifact tid key size sum blobID now = some t) : t = s ∨
      (∃ row, row.deletedAt = none ∧ t = s.insertArtifact row) ∨
      ∃ test change, (∀ row, Artifact.Kept none row (change row)) ∧
      t = s.updateArtifacts test change := by
  unfold recordKernelSymbolArtifact at done
  split at done
  · cases done
    exact .inl rfl
  · split at done
    · cases done
    · split at done
      · cases done
        exact .inr (.inl ⟨_, rfl, rfl⟩)
      · split at done
        · cases done
          refine .inr (.inr ⟨_, _, ?_, rfl⟩)
          exact fun _ => ⟨rfl, .inl rfl⟩
        · cases done

/-- The row of kernel symbols. -/
theorem record
    (done : s.recordKernelSymbolArtifact tid key size sum blobID now = some t) : Extends s t := by
  obtain rfl | ⟨row, live, rfl⟩ | ⟨test, change, kept, rfl⟩ := record_cases done
  · exact refl t
  · exact insert s row live
  · exact update s test change kept

/-- The transaction of a request to analyse again. -/
theorem reanalyse (done : s.commitReanalysis request rawIDs now = some t) : Extends s t := by
  unfold commitReanalysis at done
  split at done
  · cases done
  · obtain ⟨created, inserted, rfl⟩ := Option.map_eq_some_iff.mp done
    exact (job inserted).trans (tasks (.of_eq rfl rfl))

end Extends

end ArtifactStore

end MiniDrop
