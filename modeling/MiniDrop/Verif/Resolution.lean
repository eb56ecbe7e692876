import MiniDrop.Verif.ArtifactGrowth
/-!
# Which object a row is read from

A key is looked up among the blobs, then among the rows of three tables. While all that is
registered under one key names the same blob, the answer depends on the row and on the blobs alone.
What each kind of statement has to respect for this is said here, one table after the other.
-/
namespace MiniDrop

open List

variable {row : Artifact} {key : String}

namespace ArtifactStore

variable {s t : ArtifactStore} {blob : StorageBlob} {key other : String}

/-! ## Physical keys -/

/-- The blob with an identifier, if it is not a tombstone. -/
def liveBlob (s : ArtifactStore) (id : Nat) : Option StorageBlob :=
  s.blobs.find? fun blob => blob.id = id && blob.deletedAt.isNone

/-- The key of the object behind a key and a blob. -/
def physical (s : ArtifactStore) (key : String) (blobID : Option Nat) : String :=
  ((blobID.bind s.liveBlob).map (·.objectKey)).getD key

/-- The key of the object behind a row. -/
def physicalKey (s : ArtifactStore) (row : Artifact) : String := s.physical row.objectKey row.blobID

/-- Every row that is ready has its object. -/
def Backed (s : ArtifactStore) : Prop :=
  ∀ row ∈ s.artifacts, row.status = .ready → row.live = true →
    s.objectExists (s.physicalKey row) = true

/-- No row that is ready is read from the object. -/
def Unread (s : ArtifactStore) (key : String) : Prop :=
  ∀ row ∈ s.artifacts, row.status = .ready → row.live = true → s.physicalKey row ≠ key
  deriving Decidable

/-- What is registered under the key names the blob. -/
@[mk_iff]
structure Agrees (s : ArtifactStore) (key : String) (blobID : Option Nat) : Prop where
  rows : ∀ row ∈ s.artifacts, row.live = true → row.objectKey = key → row.blobID = blobID
  programs : ∀ file ∈ s.symbolFiles, file.objectKey = key → file.blobID.isSome = true →
    file.blobID = blobID
  kernels : ∀ file ∈ s.kernelFiles, file.objectKey = key → file.blobID.isSome = true →
    file.blobID = blobID
  blobs : ∀ blob ∈ s.blobs, blob.deletedAt = none → blob.objectKey = key → blobID = some blob.id

/-- A blob with the number is kept. -/
abbrev Holds (s : ArtifactStore) (id : Nat) : Prop :=
  ∃ blob ∈ s.blobs, blob.id = id ∧ blob.deletedAt = none ∧ blob.status ≠ .deleting

/-- What is registered under a key agrees on its blob, and what counts as a reference to a blob is
one to a blob that is kept. -/
structure Consistent (s : ArtifactStore) : Prop where
  ids : s.ArtifactIDs
  blobIDs : (s.blobs.map (·.id)).Nodup
  blobKeys : (s.blobs.map (·.objectKey)).Nodup
  positive : ∀ blob ∈ s.blobs, 0 < blob.id
  named : ∀ row ∈ s.artifacts, row.objectKey = "" → row.blobID = none
  agree : ∀ row ∈ s.artifacts, row.live = true → s.Agrees row.objectKey row.blobID
  known : ∀ row ∈ s.artifacts, ∀ id, row.blobID = some (id + 1) →
    (s.findBlob (id + 1)).isSome = true
  held : ∀ row ∈ s.artifacts, row.counts = true → ∀ id, row.blobID = some id → s.Holds id

/-- A live row that is ready counts. -/
theorem counts_of_ready (ready : row.status = .ready) (live : row.live = true) :
    row.counts = true := by
  unfold Artifact.counts
  rw [live, ready]
  rfl

/-- A live blob is found under its number. -/
theorem liveBlob_of_mem (distinct : (s.blobs.map (·.id)).Nodup)
    (mem : blob ∈ s.blobs) (live : blob.deletedAt = none) : s.liveBlob blob.id = some blob := by
  refine Base.find?_eq_of_nodup distinct mem ?_ fun other _ passes => ?_
  · simp [live]
  · exact of_decide_eq_true (Bool.and_eq_true _ _ ▸ passes).1

/-- What is found under a number is a live blob. -/
theorem liveBlob_some {id : Nat} (found : s.liveBlob id = some blob) :
    blob ∈ s.blobs ∧ blob.id = id ∧ blob.deletedAt = none := by
  have passes := find?_some found
  rw [Bool.and_eq_true, decide_eq_true_eq, Option.isNone_iff_eq_none] at passes
  exact ⟨mem_of_find?_eq_some found, passes.1, passes.2⟩

namespace Consistent

/-- Without rows and blobs there is nothing to agree on. -/
theorem of_empty (artifacts : s.artifacts = []) (blobs : s.blobs = []) : s.Consistent where
  ids := ⟨by simp [artifacts], by simp [artifacts]⟩
  blobIDs := by simp [blobs]
  blobKeys := by simp [blobs]
  positive := by simp [blobs]
  named := by simp [artifacts]
  agree := by simp [artifacts]
  known := by simp [artifacts]
  held := by simp [artifacts]

variable {row : Artifact}

/-- The first row of a table that is registered under a key and has a blob. -/
theorem named_rows (consistent : s.Consistent) (stored : row ∈ s.artifacts)
    (live : row.live = true) (kept : row.status ≠ .deleted) :
    ((s.artifacts.find? fun found => found.objectKey = row.objectKey && found.blobID.isSome &&
        found.live && found.status ≠ .deleted).bind (·.blobID)) = row.blobID := by
  cases first : s.artifacts.find? fun found => found.objectKey = row.objectKey &&
      found.blobID.isSome && found.live && found.status ≠ .deleted with
  | some found =>
    have passes := find?_some first
    simp only [Bool.and_eq_true, decide_eq_true_eq] at passes
    exact (consistent.agree row stored live).rows found (mem_of_find?_eq_some first) passes.1.2
      passes.1.1.1
  | none =>
    have fails := find?_eq_none.mp first row stored
    cases blob : row.blobID with
    | none => rfl
    | some =>
      refine absurd ?_ fails
      rw [live, blob]
      simp [kept]

/-- A ledger whose files agree with a row without a blob names no blob for its key. -/
theorem named_files {σ : Type} (files : List σ) (key : σ → String) (blobID : σ → Option Nat)
    (agrees : ∀ file ∈ files, key file = row.objectKey → (blobID file).isSome = true →
      blobID file = row.blobID) (alone : row.blobID = none) :
    ((files.find? fun file => key file = row.objectKey && (blobID file).isSome).bind blobID) =
    none := by
  cases first : files.find? fun file => key file = row.objectKey && (blobID file).isSome with
  | none => rfl
  | some file =>
    have passes := find?_some first
    simp only [Bool.and_eq_true, decide_eq_true_eq] at passes
    have same := agrees file (mem_of_find?_eq_some first) passes.1 passes.2
    exact same.trans alone

/-- **The key of a row is resolved to the object behind the row.** -/
theorem resolve (consistent : s.Consistent) (stored : row ∈ s.artifacts) (live : row.live = true)
    (kept : row.status ≠ .deleted) : s.resolveBlobForKey row.objectKey = s.physicalKey row := by
  unfold resolveBlobForKey physicalKey physical
  split
  · next blank =>
    rw [consistent.named row stored blank, blank]
    rfl
  · split
    · -- A blob that is stored under the key of the row is the blob of the row.
      next direct =>
      obtain ⟨blob, mem, passes⟩ := any_eq_true.mp direct
      rw [Bool.and_eq_true, decide_eq_true_eq, Option.isNone_iff_eq_none] at passes
      rw [(consistent.agree row stored live).blobs blob mem passes.2 passes.1, Option.bind_some,
        liveBlob_of_mem consistent.blobIDs mem passes.2]
      exact passes.1.symm
    · have rows := consistent.named_rows stored live kept
      have all : ((s.artifacts.find? fun found => found.objectKey = row.objectKey &&
            found.blobID.isSome && found.live && found.status ≠ .deleted).bind (·.blobID)
          <|> (s.symbolFiles.find? fun file => file.objectKey = row.objectKey &&
            file.blobID.isSome).bind (·.blobID)
          <|> (s.kernelFiles.find? fun file => file.objectKey = row.objectKey &&
            file.blobID.isSome).bind (·.blobID)) = row.blobID := by
        rw [rows]
        cases blob : row.blobID with
        | some => rfl
        | none =>
          have programs := named_files s.symbolFiles (·.objectKey) (·.blobID)
            (consistent.agree row stored live).programs blob
          have kernels := named_files s.kernelFiles (·.objectKey) (·.blobID)
            (consistent.agree row stored live).kernels blob
          rw [programs, kernels]
          rfl
      dsimp only
      rw [all]
      cases found : row.blobID.bind s.liveBlob with
      | none | some =>
        erw [found]
        rfl

end Consistent

/-! ## Objects -/

/-- Deleting another object. -/
theorem objectExists_deleteObject (there : s.objectExists other = true)
    (differs : other ≠ key) : (s.deleteObject key).objectExists other = true := by
  obtain ⟨object, listed, same⟩ := any_eq_true.mp there
  rw [decide_eq_true_eq] at same
  refine any_eq_true.mpr ⟨object, Base.mem_release.mpr ⟨listed, ?_⟩, decide_eq_true same⟩
  rw [same]
  exact differs

/-- Storing an object. -/
theorem objectExists_putObject (key : String) (object : TaskObject)
    (there : s.objectExists other = true) : (s.putObject key object).objectExists other = true := by
  by_cases same : other = key
  · refine any_eq_true.mpr ⟨(key, object), Base.mem_place.mpr (Or.inl rfl), ?_⟩
    rw [same]
    exact decide_eq_true rfl
  · obtain ⟨entry, listed, found⟩ := any_eq_true.mp there
    rw [decide_eq_true_eq] at found
    refine any_eq_true.mpr ⟨entry, Base.mem_place.mpr (Or.inr ⟨listed, ?_⟩), decide_eq_true found⟩
    rw [found]
    exact same

/-- An object that is not read can be deleted. -/
theorem Backed.deleteObject (backed : s.Backed) (unread : s.Unread key) :
    (s.deleteObject key).Backed := fun row stored ready live =>
  objectExists_deleteObject (backed row stored ready live) (unread row stored ready live)

/-- An object can be stored. -/
theorem Backed.putObject (backed : s.Backed) (key : String) (object : TaskObject) :
    (s.putObject key object).Backed := fun row stored ready live =>
  objectExists_putObject key object (backed row stored ready live)

/-! ## Rows -/

instance (s : ArtifactStore) (key : String) (blobID : Option Nat) :
    Decidable (s.Agrees key blobID) := decidable_of_iff' _ (agrees_iff s key blobID)

/-- A row may get ready under the key with the blob: it agrees with what is registered, its object
is there, and that is clear. -/
def Admits (s : ArtifactStore) (clear : String → Prop) (key : String) (blobID : Option Nat) :
    Prop :=
  s.Agrees key blobID ∧ s.objectExists (s.physical key blobID) = true ∧
    clear (s.physical key blobID)

end ArtifactStore

/-- What a statement does to a row: it keeps its blob, a row that is given up does not count again,
and a row gets ready only under a key and with a blob that were admitted. -/
structure Artifact.Handled (admits : String → Option Nat → Prop) (before after : Artifact) :
    Prop where
  ident : after.ident = before.ident
  blobID : after.blobID = before.blobID
  live : after.live = true → before.live = true
  counts : after.counts = true → before.counts = true
  ready : after.status = .ready → after.live = true →
    before.status = .ready ∨ admits before.objectKey before.blobID

/-- A row that is inserted. -/
structure Artifact.Fresh (admits : String → Option Nat → Prop) (number : Nat) (blobID : Option Nat)
    (row : Artifact) : Prop where
  number : number ≤ row.id
  blobID : row.blobID = blobID
  named : row.objectKey = "" → row.blobID = none
  admitted : admits row.objectKey row.blobID

namespace Artifact.Handled

variable {admits : String → Option Nat → Prop} {a b c : Artifact}

/-- A row that is not touched. -/
theorem refl (row : Artifact) : Handled admits row row :=
  ⟨rfl, rfl, fun live => live, fun counts => counts, fun ready _ => Or.inl ready⟩

/-- The key stays. -/
theorem objectKey (handled : Handled admits a b) : b.objectKey = a.objectKey :=
  congrArg (·.2.2.2) handled.ident

/-- The number stays. -/
theorem id (handled : Handled admits a b) : b.id = a.id := congrArg Prod.fst handled.ident

end Artifact.Handled

namespace ArtifactStore

variable {s t : ArtifactStore}

/-- What statements on artifacts do: rows are handled, rows that fit are inserted with one blob, and
the other tables stay. -/
structure Handles (clear : String → Prop) (blobID : Option Nat) (s t : ArtifactStore) : Prop where
  rows : Base.Grows (Artifact.Handled (s.Admits clear))
    (Artifact.Fresh (s.Admits clear) s.nextArtifactID blobID) s.artifacts t.artifacts
  ids : t.ArtifactIDs
  held : ∀ id, blobID = some id → s.Holds id
  blobs : t.blobs = s.blobs
  symbolFiles : t.symbolFiles = s.symbolFiles
  kernelFiles : t.kernelFiles = s.kernelFiles
  objects : t.objects = s.objects

namespace Handles

variable {clear : String → Prop} {blobID : Option Nat}

variable (handles : Handles clear blobID s t)
include handles

/-- The blobs stay, and so does where an object is. -/
theorem physical (key : String) (id : Option Nat) : t.physical key id = s.physical key id := by
  unfold ArtifactStore.physical liveBlob
  rw [handles.blobs]

/-- A row that is ready was so before, or has got an object that is there. -/
theorem ready (stored : row ∈ t.artifacts) (ready : row.status = .ready) (live : row.live = true) :
    (∃ before ∈ s.artifacts, before.status = .ready ∧ before.live = true ∧
        s.physicalKey before = t.physicalKey row) ∨
      (s.objectExists (t.physicalKey row) = true ∧ clear (t.physicalKey row)) := by
  have same : t.physicalKey row = s.physical row.objectKey row.blobID := handles.physical _ _
  rw [same]
  rcases handles.rows.back stored with ⟨before, listed, handled⟩ | fresh
  · rw [handled.objectKey, handled.blobID]
    rcases handled.ready ready live with old | ⟨-, admitted⟩
    · exact Or.inl ⟨before, listed, old, handled.live live, rfl⟩
    · exact Or.inr admitted
  · exact Or.inr fresh.admitted.2

/-- The objects of rows that are ready stay. -/
theorem backed (backed : s.Backed) : t.Backed := by
  intro row stored ready live
  have objects : t.objectExists (t.physicalKey row) = s.objectExists (t.physicalKey row) := by
    unfold objectExists
    rw [handles.objects]
  rw [objects]
  rcases handles.ready stored ready live with ⟨before, listed, old, alive, same⟩ | ⟨there, -⟩
  · rw [← same]
    exact backed before listed old alive
  · exact there

/-- An object that is not read stays so, unless it is cleared. -/
theorem unread (unread : s.Unread key) (taken : ¬clear key) : t.Unread key := by
  intro row stored ready live read
  rcases handles.ready stored ready live with ⟨before, listed, old, alive, same⟩ | ⟨-, free⟩
  · exact unread before listed old alive (same.trans read)
  · rw [read] at free
    exact taken free

/-- What is registered under one key stays in agreement. -/
theorem consistent (consistent : s.Consistent) : t.Consistent := by
  -- What a row has to agree with, it agrees with since it was there, or since it fits.
  have agrees {row : Artifact} (stored : row ∈ t.artifacts) (live : row.live = true) :
      s.Agrees row.objectKey row.blobID := by
    rcases handles.rows.back stored with ⟨before, listed, handled⟩ | fresh
    · rw [handled.objectKey, handled.blobID]
      exact consistent.agree before listed (handled.live live)
    · exact fresh.admitted.1
  cases t
  obtain ⟨grows, ids, held, blobs, symbolFiles, kernelFiles, -⟩ := handles
  subst blobs symbolFiles kernelFiles
  refine { consistent with
    ids
    named := fun row stored blank => ?_
    agree := fun row stored live => { agrees stored live with
      rows := fun other there alive key => ?_ }
    known := fun row stored id some => ?_
    held := fun row stored counts id some => ?_ }
  · rcases grows.back stored with ⟨before, listed, handled⟩ | fresh
    · rw [handled.blobID]
      rw [handled.objectKey] at blank
      exact consistent.named before listed blank
    · exact fresh.named blank
  · rcases grows.back there with ⟨before, listed, handled⟩ | first
    · rw [handled.objectKey] at key
      rw [handled.blobID]
      exact (agrees stored live).rows before listed (handled.live alive) key
    · rcases grows.back stored with ⟨before, listed, handled⟩ | second
      · rw [handled.objectKey] at key
        rw [handled.blobID]
        exact ((agrees there alive).rows before listed (handled.live live) key.symm).symm
      · rw [first.blobID, second.blobID]
  · rcases grows.back stored with ⟨before, listed, handled⟩ | fresh
    · rw [handled.blobID] at some
      exact consistent.known before listed id some
    · rw [fresh.blobID] at some
      obtain ⟨blob, mem, same, -⟩ := held _ some
      exact find?_isSome.mpr ⟨blob, mem, decide_eq_true same⟩
  · rcases grows.back stored with ⟨before, listed, handled⟩ | fresh
    · rw [handled.blobID] at some
      exact consistent.held before listed (handled.counts counts) id some
    · rw [fresh.blobID] at some
      exact held id some

end Handles

/-! ## Ledgers -/

/-- Rows, blobs and objects are all that matters. -/
theorem Backed.congr (backed : s.Backed) (artifacts : t.artifacts = s.artifacts)
    (blobs : t.blobs = s.blobs) (objects : t.objects = s.objects) : t.Backed := by
  unfold Backed physicalKey physical liveBlob objectExists
  rw [artifacts, blobs, objects]
  exact backed

/-- Rows and blobs are all that matters. -/
theorem Unread.congr (unread : s.Unread key) (artifacts : t.artifacts = s.artifacts)
    (blobs : t.blobs = s.blobs) : t.Unread key := by
  unfold Unread physicalKey physical liveBlob
  rw [artifacts, blobs]
  exact unread

/-- A ledger loses rows, or gets rows that agree with the artifacts. -/
theorem Consistent.ledgers (consistent : s.Consistent) (artifacts : t.artifacts = s.artifacts)
    (number : t.nextArtifactID = s.nextArtifactID) (blobs : t.blobs = s.blobs)
    (programs : ∀ file ∈ t.symbolFiles, file ∈ s.symbolFiles ∨ file.blobID = none)
    (kernels : ∀ file ∈ t.kernelFiles,
      (∃ old ∈ s.kernelFiles, old.objectKey = file.objectKey ∧ old.blobID = file.blobID) ∨
        ∀ row ∈ s.artifacts, row.live = true → file.objectKey = row.objectKey →
          file.blobID.isSome = true → file.blobID = row.blobID) : t.Consistent := by
  cases t
  subst artifacts number blobs
  refine { consistent with
    ids := ⟨consistent.ids.distinct, consistent.ids.below⟩
    agree := fun row stored live => { consistent.agree row stored live with
      programs := fun file mem key some => ?_
      kernels := fun file mem key some => ?_ } }
  · rcases programs file mem with old | bare
    · exact (consistent.agree row stored live).programs file old key some
    · rw [bare] at some
      cases some
  · rcases kernels file mem with ⟨old, listed, sameKey, sameBlob⟩ | agrees
    · rw [← sameKey] at key
      rw [← sameBlob] at some ⊢
      exact (consistent.agree row stored live).kernels old listed key some
    · exact agrees row stored live key some

/-! ## Blobs -/

/-- A row that counts has the blob. -/
def Refers (s : ArtifactStore) (id : Nat) : Prop :=
  ∃ row ∈ s.artifacts, row.counts = true ∧ row.blobID = some id

/-- What statements on blobs do: a blob keeps its identifier and its key, a tombstone stays one, and
a blob that is referred to and kept stays kept. -/
structure Rewrites (change : StorageBlob → StorageBlob) (s t : ArtifactStore) : Prop where
  blobs : t.blobs = s.blobs.map change
  id : ∀ blob, (change blob).id = blob.id
  key : ∀ blob, (change blob).objectKey = blob.objectKey
  dead : ∀ blob, (change blob).deletedAt = none → blob.deletedAt = none
  kept : ∀ blob ∈ s.blobs, s.Refers blob.id → blob.deletedAt = none → blob.status ≠ .deleting →
    (change blob).deletedAt = none ∧ (change blob).status ≠ .deleting
  artifacts : t.artifacts = s.artifacts
  number : t.nextArtifactID = s.nextArtifactID
  symbolFiles : t.symbolFiles = s.symbolFiles
  kernelFiles : t.kernelFiles = s.kernelFiles
  objects : t.objects = s.objects

namespace Rewrites

variable {change : StorageBlob → StorageBlob}

section

variable (rewrites : Rewrites change s t)
include rewrites

/-- The numbers of the blobs stay apart. -/
theorem blobIDs (distinct : (s.blobs.map (·.id)).Nodup) : (t.blobs.map (·.id)).Nodup := by
  rw [rewrites.blobs, map_map]
  have same : s.blobs.map ((·.id) ∘ change) = s.blobs.map (·.id) :=
    map_congr_left fun blob _ => rewrites.id blob
  rw [same]
  exact distinct

/-- A row that counts keeps its object. -/
theorem physicalKey (consistent : s.Consistent)
    (stored : row ∈ s.artifacts) (counts : row.counts = true) :
    t.physicalKey row = s.physicalKey row := by
  unfold ArtifactStore.physicalKey physical
  cases some : row.blobID with
  | none => rfl
  | some id =>
    obtain ⟨blob, mem, rfl, live, kept⟩ := consistent.held row stored counts id some
    obtain ⟨still, -⟩ := rewrites.kept blob mem ⟨row, stored, counts, some⟩ live kept
    have there : change blob ∈ t.blobs := by
      rw [rewrites.blobs]
      exact mem_map_of_mem mem
    have after := liveBlob_of_mem (rewrites.blobIDs consistent.blobIDs) there still
    rw [rewrites.id] at after
    rw [Option.bind_some, Option.bind_some, after, liveBlob_of_mem consistent.blobIDs mem live,
      Option.map_some, Option.map_some, rewrites.key]

/-- The objects of rows that are ready stay. -/
theorem backed (consistent : s.Consistent) (backed : s.Backed) : t.Backed := by
  intro row stored ready live
  rw [rewrites.artifacts] at stored
  rw [rewrites.physicalKey consistent stored (counts_of_ready ready live)]
  unfold objectExists
  rw [rewrites.objects]
  exact backed row stored ready live

/-- An object that is not read stays so. -/
theorem unread (consistent : s.Consistent) (unread : s.Unread key) : t.Unread key := by
  intro row stored ready live
  rw [rewrites.artifacts] at stored
  rw [rewrites.physicalKey consistent stored (counts_of_ready ready live)]
  exact unread row stored ready live

/-- What is registered under one key stays in agreement. -/
theorem consistent (consistent : s.Consistent) : t.Consistent := by
  have blobIDs := rewrites.blobIDs consistent.blobIDs
  cases t
  obtain ⟨blobs, same_id, same_key, dead, kept, artifacts, number, symbolFiles, kernelFiles, -⟩ :=
    rewrites
  subst blobs artifacts number symbolFiles kernelFiles
  refine { consistent with
    ids := ⟨consistent.ids.distinct, consistent.ids.below⟩
    blobIDs
    blobKeys := ?_
    positive := fun after mem => ?_
    agree := fun row stored live => { consistent.agree row stored live with
      blobs := fun after mem alive key => ?_ }
    known := fun row stored id some => ?_
    held := fun row stored counts id some => ?_ }
  · rw [map_map]
    have same : s.blobs.map ((·.objectKey) ∘ change) = s.blobs.map (·.objectKey) :=
      map_congr_left fun blob _ => same_key blob
    rw [same]
    exact consistent.blobKeys
  · obtain ⟨blob, listed, rfl⟩ := mem_map.mp mem
    rw [same_id]
    exact consistent.positive blob listed
  · obtain ⟨blob, listed, rfl⟩ := mem_map.mp mem
    rw [same_key] at key
    rw [same_id]
    exact (consistent.agree row stored live).blobs blob listed (dead blob alive) key
  · obtain ⟨blob, mem, same⟩ := find?_isSome.mp (consistent.known row stored id some)
    refine find?_isSome.mpr ⟨change blob, mem_map_of_mem mem, ?_⟩
    rw [same_id]
    exact same
  · obtain ⟨blob, mem, rfl, live, still⟩ := consistent.held row stored counts id some
    obtain ⟨alive, unchanged⟩ := kept blob mem ⟨row, stored, counts, some⟩ live still
    exact ⟨change blob, mem_map_of_mem mem, same_id blob, alive, unchanged⟩

end

/-- An update of blobs that spares those that are referred to. -/
theorem update {test : StorageBlob → Bool}
    (id : ∀ blob, (change blob).id = blob.id)
    (key : ∀ blob, (change blob).objectKey = blob.objectKey)
    (dead : ∀ blob, (change blob).deletedAt = none → blob.deletedAt = none)
    (kept : ∀ blob ∈ s.blobs, test blob = true → s.Refers blob.id → blob.deletedAt = none →
      blob.status ≠ .deleting → (change blob).deletedAt = none ∧ (change blob).status ≠ .deleting) :
    Rewrites (fun blob => if test blob then change blob else blob) s
      (s.updateBlobs test change) where
  blobs := rfl
  id blob := by
    split
    · exact id blob
    · rfl
  key blob := by
    split
    · exact key blob
    · rfl
  dead blob := by
    split
    · exact dead blob
    · exact fun live => live
  kept blob mem refers live still := by
    split
    · next passes => exact kept blob mem passes refers live still
    · exact ⟨live, still⟩
  artifacts := rfl
  number := rfl
  symbolFiles := rfl
  kernelFiles := rfl
  objects := rfl

end Rewrites

end ArtifactStore

end MiniDrop
