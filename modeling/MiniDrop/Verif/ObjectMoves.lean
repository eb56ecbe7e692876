import MiniDrop.Verif.Resolution
/-!
# Steps that keep rows and objects together

Every step writes to the artifacts, to the ledgers, to the blobs or to one object. What each of them
keeps is collected here: the agreement of what is registered under one key, the objects of rows that
are ready, and what is known of rows and blobs that are given up.
-/
namespace MiniDrop

open List

variable {blob : StorageBlob} {key : String} {id : Nat}

namespace ArtifactStore

variable {s t : ArtifactStore} {clear : String → Prop}

/-- An update of rows that stay what they were, or become ready with an object. -/
theorem Handles.update {test : Artifact → Bool} {change : Artifact → Artifact} (ids : s.ArtifactIDs)
    (each : ∀ row ∈ s.artifacts, test row = true →
      Artifact.Handled (s.Admits clear) row (change row)) :
    Handles clear none s (s.updateArtifacts test change) := by
  have every (row : Artifact) (stored : row ∈ s.artifacts) :
      Artifact.Handled (s.Admits clear) row (if test row then change row else row) := by
    split
    · next passes => exact each row stored passes
    · exact .refl row
  exact ⟨.of_map every, ids.of_map (fun row stored => (every row stored).id) rfl rfl, nofun, rfl,
    rfl, rfl, rfl⟩

/-- What statements on the ledgers do. -/
structure Ledgers (s t : ArtifactStore) : Prop where
  artifacts : t.artifacts = s.artifacts
  number : t.nextArtifactID = s.nextArtifactID
  blobs : t.blobs = s.blobs
  objects : t.objects = s.objects
  programs : ∀ file ∈ t.symbolFiles, file ∈ s.symbolFiles ∨ file.blobID = none
  kernels : ∀ file ∈ t.kernelFiles,
    (∃ old ∈ s.kernelFiles, old.objectKey = file.objectKey ∧ old.blobID = file.blobID) ∨
      ∀ row ∈ s.artifacts, row.live = true → file.objectKey = row.objectKey →
        file.blobID.isSome = true → file.blobID = row.blobID

/-- A step on one of the tables, or on an object. -/
inductive Moves (clear : String → Prop) (s : ArtifactStore) : ArtifactStore → Prop
  | rows {blobID : Option Nat} {t : ArtifactStore} (handles : Handles clear blobID s t) :
      Moves clear s t
  | ledgers {t : ArtifactStore} (ledgers : Ledgers s t) : Moves clear s t
  | blobs {change : StorageBlob → StorageBlob} {t : ArtifactStore}
      (rewrites : Rewrites change s t) : Moves clear s t
  | put (key : String) (object : TaskObject) : Moves clear s (s.putObject key object)
  | delete {key : String} (unread : s.Unread key) : Moves clear s (s.deleteObject key)

namespace Moves

/-- Statements on other tables. -/
theorem same (artifacts : t.artifacts = s.artifacts) (number : t.nextArtifactID = s.nextArtifactID)
    (blobs : t.blobs = s.blobs) (objects : t.objects = s.objects)
    (programs : t.symbolFiles = s.symbolFiles) (kernels : t.kernelFiles = s.kernelFiles) :
    Moves clear s t := by
  refine .ledgers ⟨artifacts, number, blobs, objects, ?_, ?_⟩
  · rw [programs]
    exact fun _ mem => Or.inl mem
  · rw [kernels]
    exact fun file mem => Or.inl ⟨file, mem, rfl, rfl⟩

variable (moves : Moves clear s t)
include moves

/-- Every step keeps what is registered under one key in agreement. -/
theorem consistent (consistent : s.Consistent) : t.Consistent := by
  cases moves with
  | rows handles => exact handles.consistent consistent
  | ledgers ledgers =>
    exact consistent.ledgers ledgers.artifacts ledgers.number ledgers.blobs ledgers.programs
      ledgers.kernels
  | blobs rewrites => exact rewrites.consistent consistent
  | put | delete =>
    exact consistent.ledgers rfl rfl rfl (fun _ mem => Or.inl mem)
      fun file mem => Or.inl ⟨file, mem, rfl, rfl⟩

/-- Every step keeps the objects of rows that are ready. -/
theorem backed (consistent : s.Consistent) (backed : s.Backed) : t.Backed := by
  cases moves with
  | rows handles => exact handles.backed backed
  | ledgers ledgers => exact backed.congr ledgers.artifacts ledgers.blobs ledgers.objects
  | blobs rewrites => exact rewrites.backed consistent backed
  | put key object => exact backed.putObject key object
  | delete unread => exact backed.deleteObject unread

/-- An object that is not read stays so, unless a row with it becomes ready. -/
theorem unread (consistent : s.Consistent)
    (unread : s.Unread key) (taken : ¬clear key) : t.Unread key := by
  cases moves with
  | rows handles => exact handles.unread unread taken
  | ledgers ledgers => exact unread.congr ledgers.artifacts ledgers.blobs
  | blobs rewrites => exact rewrites.unread consistent unread
  | put | delete => exact unread.congr rfl rfl

/-- A step rewrites the rows, or leaves them alone. -/
theorem rows_cases : (∃ blobID, Handles clear blobID s t) ∨ t.artifacts = s.artifacts := by
  cases moves with
  | rows handles => exact .inl ⟨_, handles⟩
  | ledgers ledgers => exact .inr ledgers.artifacts
  | blobs rewrites => exact .inr rewrites.artifacts
  | put | delete => exact .inr rfl

/-- A row keeps its identity and its blob. -/
theorem row {row : Artifact} (stored : row ∈ s.artifacts) :
    ∃ after ∈ t.artifacts, after.ident = row.ident ∧ after.blobID = row.blobID := by
  rcases moves.rows_cases with ⟨blobID, handles⟩ | same
  · obtain ⟨after, listed, handled⟩ := handles.rows.forth stored
    exact ⟨after, listed, handled.ident, handled.blobID⟩
  · exact ⟨row, same ▸ stored, rfl, rfl⟩

/-- A row that does not count does not count again. -/
theorem uncounted (known : id < s.nextArtifactID)
    (uncounted : ∀ row ∈ s.artifacts, row.id = id → row.counts = false) :
    ∀ row ∈ t.artifacts, row.id = id → row.counts = false := by
  intro row stored own
  rcases moves.rows_cases with ⟨blobID, handles⟩ | same
  · rcases handles.rows.back stored with ⟨before, listed, handled⟩ | fresh
    · apply Bool.eq_false_of_not_eq_true
      intro counts
      have still := uncounted before listed (handled.id.symm.trans own)
      rw [handled.counts counts] at still
      cases still
    · have above := fresh.number
      omega
  · exact uncounted row (same ▸ stored) own

/-- A key without a live blob gets none. -/
theorem unstored (unstored : ∀ blob ∈ s.blobs, blob.deletedAt = none → blob.objectKey ≠ key) :
    ∀ blob ∈ t.blobs, blob.deletedAt = none → blob.objectKey ≠ key := by
  intro blob mem live
  cases moves with
  | rows handles =>
    rw [handles.blobs] at mem
    exact unstored blob mem live
  | ledgers ledgers =>
    rw [ledgers.blobs] at mem
    exact unstored blob mem live
  | blobs rewrites =>
    rw [rewrites.blobs] at mem
    obtain ⟨before, listed, rfl⟩ := mem_map.mp mem
    rw [rewrites.key]
    exact unstored before listed (rewrites.dead before live)
  | put | delete => exact unstored blob mem live

end Moves

/-! ## Objects that are not read -/

/-- The object of a live blob without references is not read. -/
theorem Consistent.unread_blob (consistent : s.Consistent) (mem : blob ∈ s.blobs)
    (live : blob.deletedAt = none) (unreferenced : ¬s.Refers blob.id) :
    s.Unread blob.objectKey := by
  intro row stored ready alive read
  have counts := counts_of_ready ready alive
  apply unreferenced
  refine ⟨row, stored, counts, ?_⟩
  unfold physicalKey physical at read
  cases some : row.blobID with
  | none =>
    rw [some] at read
    have own := (consistent.agree row stored alive).blobs blob mem live read.symm
    rw [some] at own
    exact own
  | some id =>
    obtain ⟨other, listed, rfl, alive', -⟩ := consistent.held row stored counts id some
    rw [some, Option.bind_some, liveBlob_of_mem consistent.blobIDs listed alive'] at read
    rw [inj_on_of_nodup_map consistent.blobKeys listed mem read]

/-- A blob whose references are counted as zero has none. -/
theorem not_refers_of_count (none : s.countBlobRefs id = 0) : ¬s.Refers id := by
  rintro ⟨row, stored, counts, blob⟩
  have zero : s.artifacts.countP (fun row => row.blobID = some id && row.counts) = 0 := by
    unfold countBlobRefs at none
    omega
  have fails := countP_eq_zero.mp zero row stored
  apply fails
  rw [blob, counts]
  simp

/-- Nothing refers to a blob that is being deleted. -/
theorem Consistent.not_refers_deleting (consistent : s.Consistent)
    (mem : blob ∈ s.blobs) (deleting : blob.status = .deleting) : ¬s.Refers blob.id := by
  rintro ⟨row, stored, counts, same⟩
  obtain ⟨other, listed, id, -, kept⟩ := consistent.held row stored counts blob.id same
  rw [inj_on_of_nodup_map consistent.blobIDs listed mem id] at kept
  exact kept deleting

end ArtifactStore

end MiniDrop
