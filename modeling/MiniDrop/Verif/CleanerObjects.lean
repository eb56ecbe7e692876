import MiniDrop.Verif.ObjectMoves
import MiniDrop.Verif.Protection
/-!
# Objects that the cleaner deletes

The cleaner counts references to a shared object before it deletes it, but a row with an object of
its own and the sweep of a deleted task count nothing. What is known of a job of the cleaner is that
no row that is ready is read from an object that the job goes on to delete.
-/
namespace MiniDrop

open List ArtifactStore CleanJob

/-- The row is deleted with an object of its own. -/
def Artifact.plain (row : Artifact) : Bool :=
  row.blobID.getD 0 = 0 && !isKernelSymbolObjectKey row.objectKey

namespace CleanJob

/-- The object of a blob that is tried later is deleted. -/
def restDooms (key : String) : CleanRest → Bool
  | .round _ => false
  | .blobs blobs => blobs.any (·.objectKey = key)

/-- The object is deleted if the job goes on, whatever is registered under its key in the
meantime. -/
def dooms (key : String) : CleanJob → Bool
  | .removing row _ _ => row.objectKey = key
  | .removingShared row _ _ => row.objectKey = key
  | .removingStray row _ _ => row.objectKey = key
  | .removingBlob blob _ rest => blob.objectKey = key || restDooms key rest
  | .buryingBlob _ _ rest => restDooms key rest
  | .droppingKernel _ rest => restDooms key rest
  | .droppingSymbols _ rest => restDooms key rest
  | .retrying blobs => blobs.any (·.objectKey = key)
  | .restoring _ blobs => blobs.any (·.objectKey = key)
  | .listingObjects tid known =>
    hasPrefix key (tid ++ "/") && !known.contains key && !isKernelSymbolObjectKey key
  | .sweeping keys => keys.contains key
  | .candidates _ | .shielded _ _ | .claiming _ | .completing _ _ _ | .counting _ _ _
      | .droppingKey _ _ _
  | .readingBlob _ _ _ _ | .releasing _ _ _ _ | .claimingBlob _ _ _ | .knowing _ => false

/-- The row that a job has claimed. -/
def held : CleanJob → Option Artifact
  | .removing row _ _ => some row
  | .completing row _ _ => some row
  | .counting row _ _ => some row
  | .removingShared row _ _ => some row
  | .droppingKey row _ _ => some row
  | .readingBlob row _ _ _ => some row
  | .removingStray row _ _ => some row
  | .releasing row _ _ _ => some row
  | _ => none

/-- Before it counts the rows under a key, a job knows that its own row is given up and that no blob
is stored under the key. -/
def Counting (s : ArtifactStore) : CleanJob → Prop
  | .counting row _ _ => (∀ stored ∈ s.artifacts, stored.id = row.id → stored.counts = false) ∧
      ∀ blob ∈ s.blobs, blob.deletedAt = none → blob.objectKey ≠ row.objectKey
  | _ => True

/-- The blob that is read is that of the row. -/
def Reading : CleanJob → Prop
  | .readingBlob row blobID _ _ => row.blobID = some blobID ∧ 0 < blobID
  | _ => True

/-- What is known of a job. -/
structure Kept (s : ArtifactStore) (job : CleanJob) : Prop where
  dooms : ∀ key, job.dooms key = true → s.Unread key
  rows : ∀ row, row ∈ job.waiting ∨ job.held = some row →
    ∃ stored ∈ s.artifacts, stored.ident = row.ident ∧ stored.blobID = row.blobID
  counting : job.Counting s
  reading : job.Reading

/-- A deletion that counts nothing starts on an object that no other row is read from. -/
def Careful (s : ArtifactStore) : CleanJob → Prop
  | .claiming round => ∀ row ∈ round.rest.head?, s.claims row = true → row.plain = true →
      ∀ other ∈ s.artifacts, other.id ≠ row.id → other.status = .ready → other.live = true →
        s.physicalKey other ≠ row.objectKey
  | .knowing tid => ∀ row ∈ s.artifacts, row.status = .ready → row.live = true →
      hasPrefix (s.physicalKey row) (tid ++ "/") = true →
      isKernelSymbolObjectKey (s.physicalKey row) = true ∨
        s.physicalKey row ∈ (s.artifacts.filter (·.taskTID = tid)).map (·.objectKey)
  | _ => True

instance (s : ArtifactStore) (job : CleanJob) : Decidable (job.Careful s) := by
  induction job using CleanJob.casesOn <;> dsimp only [Careful] <;> infer_instance

variable {cfg : NotifyConfig} {s t : ArtifactStore} {job later : CleanJob} {input : WorkInput}

variable {key : String} {clear : String → Prop} {row : Artifact} {round : Round}
  {rest : List Artifact}

theorem dooms_of_removes (removes : job.removes = some key) : job.dooms key = true := by
  cases job with
  | removing | removingShared | removingStray =>
    cases removes
    exact decide_eq_true rfl
  | removingBlob =>
    cases removes
    exact Bool.or_eq_true_iff.mpr (.inl (decide_eq_true rfl))
  | sweeping =>
    exact contains_iff_mem.mpr (mem_of_mem_head? removes)
  | _ => cases removes

theorem Kept.stored (kept : job.Kept s) (moves : Moves clear s t)
    (listed : row ∈ job.waiting ∨ job.held = some row) :
    ∃ stored ∈ t.artifacts, stored.ident = row.ident ∧ stored.blobID = row.blobID := by
  obtain ⟨stored, there, ident, blobID⟩ := kept.rows row listed
  obtain ⟨after, listed', ident', blobID'⟩ := moves.row there
  exact ⟨after, listed', ident'.trans ident, blobID'.trans blobID⟩

theorem Kept.persists (kept : job.Kept s) (moves : Moves clear s t)
    (consistent : s.Consistent) (taken : ∀ key, job.dooms key = true → ¬clear key) :
    job.Kept t := by
  refine ⟨fun key doomed => ?_, fun row listed => ?_, ?_, kept.reading⟩
  · exact moves.unread consistent (kept.dooms key doomed) (taken key doomed)
  · exact kept.stored moves listed
  · cases job with
    | counting row =>
      obtain ⟨stored, there, ident, -⟩ := kept.rows row (.inr rfl)
      have id : stored.id = row.id := congrArg Prod.fst ident
      have below := consistent.ids.below stored there
      rw [id] at below
      exact ⟨moves.uncounted below kept.counting.1, moves.unstored kept.counting.2⟩
    | _ => trivial

theorem Writes.moves (writes : job.Writes s t) (kept : job.Kept s)
    (consistent : s.Consistent) : Moves clear s t := by
  have files {t : ArtifactStore} (artifacts : t.artifacts = s.artifacts)
      (number : t.nextArtifactID = s.nextArtifactID) (blobs : t.blobs = s.blobs)
      (objects : t.objects = s.objects) (programs : t.symbolFiles.Sublist s.symbolFiles)
      (kernels : t.kernelFiles.Sublist s.kernelFiles) : Moves clear s t :=
    .ledgers ⟨artifacts, number, blobs, objects, fun _ mem => .inl (programs.subset mem),
      fun file mem => .inl ⟨file, kernels.subset mem, rfl, rfl⟩⟩
  cases writes with
  | same => exact .same rfl rfl rfl rfl rfl rfl
  | claim =>
    refine .rows (.update consistent.ids fun row _ _ => ⟨rfl, rfl, fun live => live, ?_, ?_⟩)
    · intro counts
      unfold Artifact.counts at counts
      simp at counts
    · exact fun ready _ => absurd ready nofun
  | fail =>
    exact .rows (.update consistent.ids fun row _ _ =>
      ⟨rfl, rfl, fun live => live, fun counts => counts, fun ready _ => .inl ready⟩)
  | remove removes => exact .delete (kept.dooms _ (dooms_of_removes removes))
  | complete =>
    refine .rows (.update consistent.ids fun row _ _ => ⟨rfl, rfl, ?_, ?_, ?_⟩)
    · exact fun live => absurd live nofun
    · exact fun counts => absurd counts nofun
    · exact fun ready _ => absurd ready nofun
  | dropKey | dropKernel => exact files rfl rfl rfl rfl (Sublist.refl _) filter_sublist
  | dropSymbols => exact files rfl rfl rfl rfl filter_sublist (Sublist.refl _)
  | @claimBlob blobID reason round blob unreferenced =>
    have passes := find?_some unreferenced
    simp only [Bool.and_eq_true, decide_eq_true_eq] at passes
    refine .blobs (.update (fun _ => rfl) (fun _ => rfl) (fun _ live => live) ?_)
    intro found _ tested refers
    simp only [Bool.and_eq_true, decide_eq_true_eq] at tested
    rw [tested.1.1] at refers
    exact absurd refers (not_refers_of_count passes.2)
  | failBlob =>
    exact .blobs (.update (fun _ => rfl) (fun _ => rfl) (fun _ live => live)
      fun _ _ _ _ live still => ⟨live, still⟩)
  | bury =>
    refine .blobs (.update (fun _ => rfl) (fun _ => rfl) (fun _ live => absurd live nofun) ?_)
    intro found _ tested _ _ still
    simp only [Bool.and_eq_true, decide_eq_true_eq] at tested
    exact absurd tested.2 still
  | restore =>
    refine .blobs (.update (fun _ => rfl) (fun _ => rfl) (fun _ live => live) ?_)
    exact fun _ _ _ _ live _ => ⟨live, nofun⟩

theorem wayOf_cases (row : Artifact) (reason : String) (round : Round) :
    (∃ id, row.blobID = some (id + 1) ∧
        wayOf row reason round = .readingBlob row (id + 1) reason round) ∨
      (row.blobID.getD 0 = 0 ∧ isKernelSymbolObjectKey row.objectKey = true ∧
        wayOf row reason round = .counting row reason round) ∨
      (row.plain = true ∧ wayOf row reason round = .removing row reason round) := by
  unfold wayOf
  split
  · next id some => exact .inl ⟨id, some, rfl⟩
  · next other =>
    have bare : row.blobID.getD 0 = 0 := by
      cases some : row.blobID with
      | none => rfl
      | some id =>
        cases id with
        | zero => rfl
        | succ id => exact absurd some (other id)
    refine .inr ?_
    split
    · next kernel => exact .inl ⟨bare, kernel, rfl⟩
    · next own =>
      refine .inr ⟨?_, rfl⟩
      unfold Artifact.plain
      rw [decide_eq_true bare, Bool.eq_false_of_not_eq_true own]
      rfl

theorem wayOf_held (row : Artifact) (reason : String) (round : Round) :
    (wayOf row reason round).held = some row := by
  rcases wayOf_cases row reason round with ⟨_, -, way⟩ | ⟨-, -, way⟩ | ⟨-, way⟩
  all_goals
    rw [way]
    rfl

/-- The row of a job was claimed before, or was still to be claimed. -/
theorem Follows.holds (follows : job.Follows s later) (holds : later.held = some row) :
    job.held = some row ∨ row ∈ job.waiting := by
  cases follows with
  | @take round head rest claims =>
    rw [wayOf_held] at holds
    cases holds
    rw [waiting_of_round rfl, claims.next]
    exact .inr mem_cons_self
  | failedBlob _ _ rest | droppedSymbols _ rest =>
    cases rest with
    | round | blobs => cases holds
  | removed | shared | last | removedShared | dropped | stray | buried | held | removedStray =>
    exact .inl holds
  | _ => cases holds

/-- A round goes on with nothing to delete, or with the way of the row that it claims. -/
theorem Follows.of_claiming (follows : (claiming round).Follows s later) :
    ((∀ key, later.dooms key = false) ∧ later.Counting t ∧ later.Reading) ∨
      ∃ row rest, Claims s round row rest ∧ later = wayOf row (reasonOf round row)
        { round with rest } := by
  generalize job_eq : claiming round = job at follows
  cases follows with
  | pass | finished => exact .inl ⟨fun _ => rfl, trivial, trivial⟩
  | take claims =>
    cases job_eq
    exact .inr ⟨_, _, claims, rfl⟩
  | fail key =>
    rw [← job_eq] at key
    cases key
  | _ => cases job_eq

theorem Claims.run (claims : Claims s round row rest) :
    ((claiming round).run cfg s input).store = s.claimArtifact row := by
  have free : ¬(round.kind = .expired ∧ s.claimProtected row.taskTID = true) := by
    rintro ⟨kind, closed⟩
    rw [claims.unprotected kind] at closed
    cases closed
  simp [CleanJob.run, claims.next, claimNext, claims.unpinned, claims.inactive, free, claims.same]

theorem Follows.unread (follows : job.Follows s later) (kept : job.Kept s)
    (consistent : s.Consistent) (careful : job.Careful s) (going : ∀ round, job ≠ .claiming round)
    (doomed : later.dooms key = true) : s.Unread key := by
  cases follows with
  | pass | take | finished => exact absurd rfl (going _)
  | last reason round alone =>
    rename_i row
    obtain rfl : row.objectKey = key := of_decide_eq_true doomed
    obtain ⟨uncounted, unstored⟩ := kept.counting
    intro other stored ready live read
    have counts := counts_of_ready ready live
    unfold physicalKey physical at read
    cases found : other.blobID.bind s.liveBlob with
    | none =>
      -- Another row under the key would have been counted.
      rw [found] at read
      have same : other.id = row.id := by
        by_contra differs
        have fails := countP_eq_zero.mp alone other stored
        apply fails
        rw [show other.objectKey = row.objectKey from read, live]
        simp [differs]
      have none := uncounted other stored same
      rw [counts] at none
      cases none
    | some blob =>
      rw [found] at read
      obtain ⟨id, -, some⟩ := Option.bind_eq_some_iff.mp found
      obtain ⟨mem, -, alive⟩ := liveBlob_some some
      exact unstored blob mem alive read
  | stray row reason round missing =>
    rename_i blobID
    obtain ⟨some, positive⟩ := kept.reading
    obtain ⟨stored, there, -, blob⟩ := kept.rows row (.inr rfl)
    obtain ⟨id, rfl⟩ : ∃ id, blobID = id + 1 := ⟨blobID - 1, by omega⟩
    have known := consistent.known stored there id (blob.trans some)
    rw [missing] at known
    cases known
  | unreferenced reason round unreferenced =>
    rename_i blobID blob
    have passes := find?_some unreferenced
    simp only [Bool.and_eq_true, decide_eq_true_eq, Option.isNone_iff_eq_none] at passes
    have same : blob.objectKey = key := by simpa [dooms, restDooms] using doomed
    rw [← same]
    apply consistent.unread_blob (mem_of_find?_eq_some unreferenced) passes.1.2
    rw [passes.1.1.1]
    exact not_refers_of_count passes.2
  | failedBlob blob reason rest =>
    cases rest with
    | round => cases doomed
    | blobs => exact kept.dooms key (Bool.or_eq_true_iff.mpr (.inr doomed))
  | droppedSymbols blobID rest =>
    cases rest with
    | round => cases doomed
    | blobs => exact kept.dooms key doomed
  | removedBlob => exact kept.dooms key (Bool.or_eq_true_iff.mpr (.inr doomed))
  | buriedBlob | droppedKernel | restored => exact kept.dooms key doomed
  | reuse =>
    apply kept.dooms key
    exact Bool.or_eq_true_iff.mpr (.inr doomed)
  | retry => exact kept.dooms key doomed
  | know =>
    intro row stored ready live read
    simp only [dooms, Bool.and_eq_true, Bool.not_eq_true'] at doomed
    obtain ⟨⟨inside, unknown⟩, own⟩ := doomed
    rw [← read] at inside unknown own
    rcases careful row stored ready live inside with kernel | known
    · rw [own] at kernel
      cases kernel
    · rw [contains_iff_mem.mpr known] at unknown
      cases unknown
  | list =>
    apply kept.dooms key
    have listed := contains_iff_mem.mp doomed
    obtain ⟨there, passes⟩ := mem_filter.mp listed
    obtain ⟨pair, found, rfl⟩ := mem_map.mp there
    obtain ⟨object, sorted, rfl⟩ := mem_map.mp found
    have inside := (mem_filter.mp ((Base.mem_orderBy _).mp sorted)).2
    simp only [Bool.and_eq_true] at passes
    simp only [dooms, Bool.and_eq_true]
    exact ⟨⟨inside, passes.1.2⟩, passes.2⟩
  | swept =>
    apply kept.dooms key
    exact contains_iff_mem.mpr (mem_cons_of_mem _ (contains_iff_mem.mp doomed))
  | _ => cases doomed

theorem Claims.stored (claims : Claims s round row rest) (kept : (claiming round).Kept s)
    (consistent : s.Consistent) :
    ∃ found ∈ s.artifacts, found.ident = row.ident ∧ found.blobID = row.blobID ∧
      found.status = row.status ∧ found.live = true := by
  obtain ⟨found, listed, passes⟩ := any_eq_true.mp claims.same
  simp only [Bool.and_eq_true, decide_eq_true_eq] at passes
  have waits : row ∈ (claiming round).waiting := by
    rw [waiting_of_round rfl, claims.next]
    exact mem_cons_self
  obtain ⟨stored, there, ident, blobID⟩ := kept.rows row (.inl waits)
  have id : stored.id = found.id := (congrArg Prod.fst ident).trans passes.1.1.symm
  obtain rfl := inj_on_of_nodup_map consistent.ids.distinct there listed id
  exact ⟨stored, there, ident, blobID, passes.1.2, passes.2⟩

/-- The claimed row is given up, and the others are as they were. -/
theorem claimArtifact_rows {found other : Artifact} (consistent : s.Consistent)
    (listed : found ∈ s.artifacts) (id : found.id = row.id) (status : found.status = row.status)
    (live : found.live = true) (stored : other ∈ (s.claimArtifact row).artifacts) :
    other.status = .deleting ∨ (other ∈ s.artifacts ∧ other.id ≠ row.id) := by
  obtain ⟨before, there, same⟩ := mem_update stored
  split at same
  · rw [same]
    exact .inl rfl
  · next fails =>
    refine .inr ⟨by rw [same]; exact there, fun equal => ?_⟩
    rw [same, ← id] at equal
    obtain rfl := inj_on_of_nodup_map consistent.ids.distinct there listed equal
    apply fails
    rw [id, status, live]
    simp

theorem Kept.claimed (kept : (claiming round).Kept s) (consistent : s.Consistent)
    (careful : (claiming round).Careful s) (claims : Claims s round row rest)
    (moves : Moves (fun _ => False) s (s.claimArtifact row)) (reason : String) :
    (wayOf row reason { round with rest }).Kept (s.claimArtifact row) := by
  obtain ⟨found, listed, ident, blobID, status, live⟩ := claims.stored kept consistent
  have id : found.id = row.id := congrArg Prod.fst ident
  have key : found.objectKey = row.objectKey := congrArg (·.2.2.2) ident
  have others {other : Artifact} (stored : other ∈ (s.claimArtifact row).artifacts) :=
    claimArtifact_rows consistent listed id status live stored
  have rows (other : Artifact) (waits : other ∈ (wayOf row reason { round with rest }).waiting ∨
      (wayOf row reason { round with rest }).held = some other) :
      ∃ stored ∈ (s.claimArtifact row).artifacts, stored.ident = other.ident ∧
        stored.blobID = other.blobID := by
    have before : other ∈ (claiming round).waiting := by
      rw [waiting_of_round rfl, claims.next]
      rw [waiting_of_round (wayOf_round _ _ _)] at waits
      rcases waits with later | holds
      · exact mem_cons_of_mem _ later
      · rw [wayOf_held] at holds
        cases holds
        exact mem_cons_self
    exact kept.stored moves (.inl before)
  rcases wayOf_cases row reason { round with rest } with ⟨number, some, way⟩ | ⟨bare, -, way⟩ |
    ⟨plain, way⟩
  · rw [way] at rows ⊢
    exact ⟨(fun _ doomed => by cases doomed), rows, trivial, some, Nat.succ_pos number⟩
  · rw [way] at rows ⊢
    refine ⟨(fun _ doomed => by cases doomed), rows, ⟨fun stored there same => ?_,
      fun blob mem alive read => ?_⟩, trivial⟩
    · rcases others there with deleting | ⟨-, differs⟩
      · unfold Artifact.counts
        rw [deleting]
        simp
      · exact absurd same differs
    · have own := (consistent.agree found listed live).blobs blob mem alive (read.trans key.symm)
      have positive := consistent.positive blob mem
      rw [blobID] at own
      rw [own, Option.getD_some] at bare
      omega
  · rw [way] at rows ⊢
    refine ⟨fun other doomed => ?_, rows, trivial, trivial⟩
    obtain rfl : row.objectKey = other := of_decide_eq_true doomed
    intro other stored ready alive
    rcases others stored with deleting | ⟨there, differs⟩
    · rw [ready] at deleting
      cases deleting
    · have next : row ∈ round.rest.head? := by
        rw [claims.next]
        rfl
      exact careful row next claims.same plain other there differs ready alive

/-- Rows are counted and blobs are read right after a claim only. -/
theorem Follows.quiet (follows : job.Follows s later) (going : ∀ round, job ≠ .claiming round) :
    later.Counting t ∧ later.Reading := by
  cases follows with
  | pass | take | finished => exact absurd rfl (going _)
  | failedBlob _ _ rest | droppedSymbols _ rest =>
    cases rest with
    | round | blobs => exact ⟨trivial, trivial⟩
  | _ => exact ⟨trivial, trivial⟩

theorem Kept.run (kept : job.Kept s) (consistent : s.Consistent) (careful : job.Careful s)
    (mem : later ∈ (job.run cfg s input).next) : later.Kept (job.run cfg s input).store := by
  have follows := run_next mem
  have moves : Moves (fun _ => False) s (job.run cfg s input).store :=
    (job.run_does cfg s input).writes.moves kept consistent
  have rows (row : Artifact) (listed : row ∈ later.waiting ∨ later.held = some row) :
      ∃ stored ∈ (job.run cfg s input).store.artifacts, stored.ident = row.ident ∧
        stored.blobID = row.blobID := by
    apply kept.stored moves
    rcases listed with waits | holds
    · exact .inl (follows.waiting waits)
    · exact (follows.holds holds).symm
  by_cases going : ∀ round, job ≠ .claiming round
  · obtain ⟨counting, reading⟩ := follows.quiet going
    refine ⟨fun key doomed => ?_, rows, counting, reading⟩
    exact moves.unread consistent (follows.unread kept consistent careful going doomed) nofun
  · obtain ⟨round, rfl⟩ := not_forall_not.mp going
    rcases follows.of_claiming with ⟨undoomed, counting, reading⟩ | ⟨row, rest, claims, rfl⟩
    · refine ⟨fun key doomed => ?_, rows, counting, reading⟩
      rw [undoomed] at doomed
      cases doomed
    · rw [claims.run] at moves ⊢
      exact kept.claimed consistent careful claims moves _

end CleanJob

end MiniDrop
