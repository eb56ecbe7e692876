import Mathlib.Order.ConditionallyCompleteLattice.Basic
import Mathlib.Data.Int.ConditionallyCompleteOrder
import MiniDrop.Server.Ledger
import MiniDrop.Server.Reclaim
import MiniDrop.Verif.History
/-!
# What the reclaim passes remove

A batch is safe to remove when each of its window rows lies inside the spans of its passed receipts
for the same ledger signal. The fine-row clean-up tests this; the two reclaim passes only ask for
one receipt per signal. The passes are described by what they take from the tables, and what they
take is safe exactly when the batches they admit pass the missing test.
-/
namespace MiniDrop

open Base Store List

variable {batch : ProfileBatch} {works taken : String → Bool} {t : Store}

/-- The constraints of the schema that the passes rely on. -/
structure Store.Keyed (s : Store) : Prop where
  ids : (s.batches.map (·.id)).Nodup
  bids : (s.batches.map (·.bid)).Nodup
  blockIDs : (s.profileBlocks.map (·.blockID)).Nodup

/-- The passed receipts of a batch for the ledger signal of a window signal. -/
def Store.signalReceipts (s : Store) (bid signalType : String) :
    List ContinuousMigrationReceipt :=
  s.receipts.filter fun receipt => decide (receipt.sourceKind = "batch") &&
    decide (receipt.sourceRef = bid) &&
    decide (some receipt.signalType = pqLedgerSignalForWindow signalType) &&
    decide (receipt.status = .passed)

/-- Every window row of the batch lies inside the union of its receipts' spans. -/
def Store.InsideReceipts (s : Store) (batch : ProfileBatch) : Prop :=
  ∀ window ∈ s.windows, window.batchBID = batch.bid →
    Set.Ico window.windowStart window.windowEnd ⊆
      spanUnion (·.startTime) (·.endTime) (s.signalReceipts batch.bid window.signalType)

/-- A window row, the batch row or the payload object of the batch is gone. -/
def Removed (s t : Store) (batch : ProfileBatch) : Prop :=
  batch ∉ t.batches ∨ (∃ window ∈ s.windows, window.batchBID = batch.bid ∧ window ∉ t.windows) ∨
    (s.hasObject batch.objectKey = true ∧ t.hasObject batch.objectKey = false)

/-- The test of the fine-row clean-up, and no window row of a signal outside the ledger. -/
def Store.fullyReceipted (s : Store) (batch : ProfileBatch) : Bool :=
  s.pqBatchCoverageReconciled batch && (s.windowsOf batch.bid).all fun window =>
    (pqLedgerSignalForWindow window.signalType).isSome ||
      !decide (window.windowStart < window.windowEnd)

section Receipts

variable {s : Store} {bid signalType : String}

/-- The sweep over the receipts decides whether they cover the range. -/
theorem pqReceiptsCoverRange_iff (receipts : List ContinuousMigrationReceipt) (start stop : Int) :
    pqReceiptsCoverRange receipts start stop = true ↔
      Set.Ico start stop ⊆ spanUnion (·.startTime) (·.endTime) receipts := by
  unfold pqReceiptsCoverRange
  by_cases proper : start < stop
  · rw [if_pos proper]
    have ordered := (orderBy_pairwise (fun receipt : ContinuousMigrationReceipt =>
      toLex (receipt.startTime, receipt.endTime)) receipts).imp fun {a b} below =>
        show a.startTime ≤ b.startTime by
          rcases Prod.Lex.toLex_le_toLex.mp below with earlier | ⟨same, _⟩
          · exact le_of_lt earlier
          · exact le_of_eq same
    rw [sweep_iff _ _ _ _ ordered start proper]
    rw [spanUnion_congr fun receipt => mem_orderBy _]
  · rw [if_neg proper, Set.Ico_eq_empty proper]
    simp

/-- For receipts in any order, the guard of the deletions accepts a range exactly if every instant
of it lies in a receipt. -/
theorem receipts_cover_every_instant (receipts : List ContinuousMigrationReceipt)
    (start stop : Int) : pqReceiptsCoverRange receipts start stop = true ↔
      ∀ t, start ≤ t → t < stop → ∃ receipt ∈ receipts, receipt.startTime ≤ t ∧
      t < receipt.endTime := by
  simp [pqReceiptsCoverRange_iff, Set.subset_def, Set.mem_Ico, mem_spanUnion]

/-- The receipts read for a ledger signal are those of the window signal. -/
theorem mem_passedReceipts {signal : LedgerSignal}
    (ledger : pqLedgerSignalForWindow signalType = some signal)
    {receipt : ContinuousMigrationReceipt} :
    receipt ∈ s.pqPassedMigrationReceipts bid signal ↔
    receipt ∈ s.signalReceipts bid signalType := by
  simp [pqPassedMigrationReceipts, signalReceipts, mem_orderBy, ledger]

theorem signalReceipts_unmapped (unmapped : pqLedgerSignalForWindow signalType = none) :
    s.signalReceipts bid signalType = [] := by
  simp [signalReceipts, unmapped]

theorem windowReceipted_iff (bid : String) (window : ProfileWindow) :
    (s.windowReconciled bid window = true ∧ ((pqLedgerSignalForWindow window.signalType).isSome ||
          !decide (window.windowStart < window.windowEnd)) = true) ↔
      Set.Ico window.windowStart window.windowEnd ⊆
        spanUnion (·.startTime) (·.endTime) (s.signalReceipts bid window.signalType) := by
  unfold windowReconciled
  cases ledger : pqLedgerSignalForWindow window.signalType with
  | none =>
    rw [signalReceipts_unmapped ledger]
    have uncovered : spanUnion (fun receipt : ContinuousMigrationReceipt => receipt.startTime)
        (·.endTime) [] = ∅ := Set.eq_empty_of_forall_notMem fun t inside => by
      simp [mem_spanUnion] at inside
    rw [uncovered, Set.subset_empty_iff, Set.Ico_eq_empty_iff]
    simp
  | some =>
    rw [← spanUnion_congr fun receipt => mem_passedReceipts ledger, ← pqReceiptsCoverRange_iff]
    simp

/-- The extended test decides that the batch lies inside its receipts. -/
theorem fullyReceipted_iff : s.fullyReceipted batch = true ↔ s.InsideReceipts batch := by
  simp only [fullyReceipted, pqBatchCoverageReconciled, Bool.and_eq_true,
    all_eq_true, windowsOf, mem_filter, decide_eq_true_eq, and_imp, ← forall_and]
  exact forall₃_congr fun window _ _ => windowReceipted_iff batch.bid window

end Receipts

/-- A batch goes with its object: it is uncompacted and the object is taken. -/
def goes (taken : String → Bool) (batch : ProfileBatch) : Bool :=
  decide (batch.blockID = "") && taken batch.objectKey

/-- The identifier of a batch that goes with its object. -/
def Store.goesID (s : Store) (taken : String → Bool) (bid : String) : Bool :=
  s.batches.any fun batch => goes taken batch && decide (batch.bid = bid)

/-- The store after the uncompacted batches of the taken objects were reclaimed. -/
structure Reclaimed (works taken : String → Bool) (s t : Store) : Prop where
  batches : t.batches = s.batches.filter fun batch => !goes taken batch
  windows : t.windows = s.windows.filter fun window => !s.goesID taken window.batchBID
  receipts : t.receipts = s.receipts
  failures : ∀ failure, failure.sourceKind = "window" →
    (failure ∈ t.failures ↔ failure ∈ s.failures)
  objects : ∀ key, t.getObject key = if taken key && works key then none else s.getObject key

section Guards

variable {s t : Store}

/-- The receipt guard reads the window rows of the batch, the receipts and the window failures. -/
theorem coveredByValidatedRaw_congr
    (windows : t.windowsOf batch.bid = s.windowsOf batch.bid) (receipts : t.receipts = s.receipts)
    (failures : ∀ failure, failure.sourceKind = "window" →
      (failure ∈ t.failures ↔ failure ∈ s.failures)) :
    t.pqBatchCoveredByValidatedRaw batch = s.pqBatchCoveredByValidatedRaw batch := by
  have evidence : t.unreferencedEvidence batch = s.unreferencedEvidence batch := by
    unfold unreferencedEvidence
    congr 2
    rw [Bool.eq_iff_iff]
    simp only [any_eq_true, Bool.and_eq_true, decide_eq_true_eq]
    exact exists_congr fun failure => and_congr_left fun own => failures failure own.1.1
  unfold pqBatchCoveredByValidatedRaw pqPassedMigrationReceipts
  rw [windows, evidence, receipts]

/-- Registering a failure of a batch leaves the window failures alone. -/
theorem mem_recordFailure {failures : List ContinuousMigrationFailure}
    {failure other : ContinuousMigrationFailure} (kind : failure.sourceKind = "window")
    (different : other.sourceKind ≠ "window") :
    failure ∈ recordContinuousMigrationFailure failures other ↔ failure ∈ failures := by
  unfold recordContinuousMigrationFailure
  split
  · simp only [mem_map]
    constructor
    · rintro ⟨old, listed, replaced⟩
      split at replaced
      · rw [← replaced] at kind
        exact absurd kind different
      · exact replaced ▸ listed
    · intro listed
      refine ⟨failure, listed, if_neg ?_⟩
      rintro ⟨same, -⟩
      exact different (same ▸ kind)
  · simp only [mem_append, mem_singleton, or_iff_left_iff_imp]
    intro same
    rw [same] at kind
    exact absurd kind different

theorem objectLost_iff {key : String} {gone : Bool}
    (objects : t.getObject key = if gone then none else s.getObject key) :
    (s.hasObject key = true ∧ t.hasObject key = false) ↔ (gone && s.hasObject key) = true := by
  unfold hasObject
  rw [objects]
  cases gone <;> cases s.getObject key <;> simp

end Guards

section StagingPass

variable {works taken : String → Bool} {s t : Store} {batch : ProfileBatch} {key : String}

/-- The identifier of a stored batch goes exactly when the batch goes. -/
theorem goesID_eq (keyed : s.Keyed) (stored : batch ∈ s.batches) :
    s.goesID taken batch.bid = goes taken batch := by
  rw [Bool.eq_iff_iff, goesID, any_eq_true]
  constructor
  · rintro ⟨other, listed, hit⟩
    rw [Bool.and_eq_true, decide_eq_true_eq] at hit
    have same : other = batch := inj_on_of_nodup_map keyed.bids listed stored hit.2
    exact same ▸ hit.1
  · intro taking
    exact ⟨batch, stored, by simp [taking]⟩

theorem reclaimed_refl : Reclaimed works (fun _ => false) s s where
  batches := by simp [goes]
  windows := by simp [goes, goesID, any_eq]
  receipts := rfl
  failures := fun _ _ => Iff.rfl
  objects := fun key => by simp

section

variable (done : Reclaimed works taken s t)
include done

theorem Reclaimed.congr {others : String → Bool}
    (same : ∀ key, taken key = others key) : Reclaimed works others s t := by
  rw [← funext same]
  exact done

theorem Reclaimed.refs (untaken : taken key = false) : t.stagingRefs key = s.stagingRefs key := by
  unfold stagingRefs
  rw [done.batches, filter_filter]
  apply filter_congr
  intro batch _
  by_cases own : batch.objectKey = key
  · simp [own, untaken, goes]
  · simp [own]

theorem Reclaimed.windowsOf (keyed : s.Keyed) (stored : batch ∈ s.batches)
    (untaken : goes taken batch = false) : t.windowsOf batch.bid = s.windowsOf batch.bid := by
  unfold Store.windowsOf
  rw [done.windows, filter_filter]
  apply filter_congr
  intro window _
  by_cases own : window.batchBID = batch.bid
  · simp [own, goesID_eq keyed stored, untaken]
  · simp [own]

/-- The guard of an untaken object gives the same answer as before the pass. -/
theorem Reclaimed.admits (keyed : s.Keyed) (cutoff : Int) (untaken : taken key = false) :
    t.stagingAdmits cutoff key = s.stagingAdmits cutoff key := by
  unfold stagingAdmits
  rw [done.refs untaken]
  congr 1
  rw [Bool.eq_iff_iff, all_eq_true, all_eq_true]
  refine forall_congr' fun ref => imp_congr_right fun listed => ?_
  obtain ⟨stored, own⟩ := mem_filter.mp listed
  rw [Bool.and_eq_true, decide_eq_true_eq] at own
  have kept : goes taken ref = false := by rw [goes, own.1, untaken, Bool.and_false]
  rw [coveredByValidatedRaw_congr (done.windowsOf keyed stored kept) done.receipts done.failures]

end

theorem goesID_take {bid : String} :
    s.goesID (fun other => taken other || decide (other = key)) bid =
      (s.goesID taken bid || decide (bid ∈ (s.stagingRefs key).map (·.bid))) := by
  rw [Bool.eq_iff_iff, Bool.or_eq_true, decide_eq_true_eq]
  simp only [goesID, goes, stagingRefs, any_eq_true, mem_map,
    mem_filter, Bool.and_eq_true, Bool.or_eq_true, decide_eq_true_eq, ← exists_or]
  refine exists_congr fun batch => ?_
  tauto

/-- One admitted object: its batches and their window rows go, and the object if it can. -/
theorem Reclaimed.take (done : Reclaimed works taken s t) (keyed : s.Keyed) (key bid sid : String) :
    Reclaimed works (fun other => taken other || decide (other = key)) s
      ((t.removeRefs (s.stagingRefs key)).deleteSource (works key) bid sid key) where
  batches := by
    rw [deleteSource_batches, removeRefs, done.batches, filter_filter]
    apply filter_congr
    intro batch stored
    have reference : batch.id ∈ (s.stagingRefs key).map (·.id) ↔
        batch.objectKey = key ∧ batch.blockID = "" := by
      constructor
      · intro listed
        obtain ⟨ref, mem, same⟩ := mem_map.mp listed
        obtain ⟨refStored, own⟩ := mem_filter.mp mem
        have equal : ref = batch := inj_on_of_nodup_map keyed.ids refStored stored same
        simpa [equal] using own
      · rintro ⟨own, uncompacted⟩
        exact mem_map_of_mem (mem_filter.mpr ⟨stored, by simp [own, uncompacted]⟩)
    have removed : decide (batch.id ∉ (s.stagingRefs key).map (·.id)) =
        !(decide (batch.objectKey = key) && decide (batch.blockID = "")) := by
      rw [Bool.eq_iff_iff, decide_eq_true_eq, reference]
      simp only [Bool.not_eq_true', Bool.and_eq_false_iff, decide_eq_false_iff_not, not_and_or]
    rw [removed, goes, goes]
    by_cases uncompacted : batch.blockID = ""
    · by_cases own : batch.objectKey = key <;> simp [uncompacted, own]
    · simp [uncompacted]
  windows := by
    rw [deleteSource_windows, removeRefs, done.windows, filter_filter]
    apply filter_congr
    intro window _
    rw [goesID_take, Bool.not_or, ← decide_not, Bool.and_comm]
  receipts := by rw [deleteSource_receipts]; exact done.receipts
  failures := by
    intro failure kind
    unfold deleteSource
    split
    · exact done.failures failure kind
    · exact (mem_recordFailure kind (by simp [objectDeleteFailure])).trans
        (done.failures failure kind)
  objects := by
    intro other
    rw [getObject_deleteSource]
    show (if other = key ∧ works key = true then none else t.getObject other) = _
    rw [done.objects]
    by_cases same : other = key
    · subst same
      cases works other <;> simp
    · simp [same]

theorem Reclaimed.candidate (done : Reclaimed works taken s t) (keyed : s.Keyed) (cutoff : Int)
    (untaken : taken batch.objectKey = false) :
    Reclaimed works (fun other => taken other ||
        (decide (other = batch.objectKey) && s.stagingAdmits cutoff other)) s
      (reclaimObject cutoff works t batch) := by
  unfold reclaimObject
  rw [done.admits keyed cutoff untaken, done.refs untaken]
  by_cases admitted : s.stagingAdmits cutoff batch.objectKey = true
  · rw [if_pos admitted]
    refine (done.take keyed _ _ _).congr fun other => ?_
    by_cases own : other = batch.objectKey
    · simp [own, admitted]
    · simp [own]
  · rw [if_neg admitted]
    refine done.congr fun other => ?_
    by_cases own : other = batch.objectKey
    · simp [own, admitted]
    · simp [own]

/-- The candidate loop takes the admitted objects among those it has not seen. -/
theorem reclaimCandidates_reclaimed (keyed : s.Keyed) (cutoff : Int)
    (candidates : List ProfileBatch) :
    ∀ (seen : List String) (taken : String → Bool) (t : Store), Reclaimed works taken s t →
      (∀ key, taken key = true → key ∈ seen) →
      Reclaimed works (fun key => taken key || (decide (key ≠ "") && decide (key ∉ seen) &&
          (candidates.any fun batch => decide (batch.objectKey = key)) &&
          s.stagingAdmits cutoff key)) s
        (reclaimCandidates cutoff works seen t candidates) := by
  induction candidates with
  | nil =>
    intro seen taken t done _
    simpa [reclaimCandidates] using done
  | cons batch rest ih =>
    intro seen taken t done within
    unfold reclaimCandidates
    by_cases skipped : batch.objectKey = "" ∨ batch.objectKey ∈ seen
    · rw [if_pos skipped]
      refine (ih seen taken t done within).congr fun key => ?_
      by_cases own : batch.objectKey = key
      · subst own
        rcases skipped with blank | old
        · simp [blank]
        · simp [old]
      · simp [own]
    · rw [if_neg skipped]
      obtain ⟨named, unseen⟩ := not_or.mp skipped
      have untaken : taken batch.objectKey = false :=
        Bool.eq_false_iff.mpr fun old => unseen (within _ old)
      have step := done.candidate keyed cutoff untaken
      refine (ih (batch.objectKey :: seen) _ _ step fun key hit => ?_).congr fun key => ?_
      · rcases Bool.or_eq_true .. ▸ hit with old | new
        · exact mem_cons_of_mem _ (within key old)
        · rw [Bool.and_eq_true, decide_eq_true_eq] at new
          exact new.1 ▸ mem_cons_self
      · by_cases own : key = batch.objectKey
        · subst own
          simp [named, unseen]
        · simp [own, Ne.symm own]

end StagingPass

section StagingResult

variable (ctx : ReclaimContext) (s : Store)

/-- The objects that a staging pass takes. -/
def stagingTaken (key : String) : Bool :=
  ctx.config.enforce && (decide (key ≠ "") &&
    ((s.stagingCandidates ctx.stagingCutoff).any fun batch => decide (batch.objectKey = key)) &&
    s.stagingAdmits ctx.stagingCutoff key)

/-- A batch that loses something in a staging pass: its rows, or an object it shares. -/
def stagingTakes (batch : ProfileBatch) : Bool :=
  stagingTaken ctx s batch.objectKey &&
    (decide (batch.blockID = "") ||
      (s.hasObject batch.objectKey && ctx.deleteWorks batch.objectKey))

variable {s}

theorem pqReclaimStaging_reclaimed (keyed : s.Keyed) :
    Reclaimed ctx.deleteWorks (stagingTaken ctx s) s (pqReclaimStaging ctx s) := by
  unfold pqReclaimStaging
  by_cases enforce : ctx.config.enforce = true
  · rw [if_pos enforce]
    exact (reclaimCandidates_reclaimed keyed ctx.stagingCutoff
      (s.stagingCandidates ctx.stagingCutoff) [] _ s reclaimed_refl (by simp)).congr fun key =>
      by simp [stagingTaken, enforce]
  · rw [if_neg enforce]
    exact reclaimed_refl.congr fun key => by simp [stagingTaken, enforce]

theorem Reclaimed.removed_iff (done : Reclaimed works taken s t) (keyed : s.Keyed)
    (stored : batch ∈ s.batches) :
    Removed s t batch ↔ (taken batch.objectKey && (decide (batch.blockID = "") ||
        (s.hasObject batch.objectKey && works batch.objectKey))) = true := by
  have row : batch ∉ t.batches ↔ goes taken batch = true := by
    rw [done.batches, mem_filter]
    simp [stored]
  have windows : (∃ window ∈ s.windows, window.batchBID = batch.bid ∧ window ∉ t.windows) →
      goes taken batch = true := by
    rintro ⟨window, listed, own, lost⟩
    rw [done.windows, mem_filter, own, goesID_eq keyed stored] at lost
    simpa [listed] using lost
  have object := objectLost_iff (done.objects batch.objectKey)
  rw [Bool.and_assoc, Bool.and_comm (works batch.objectKey)] at object
  rw [Bool.and_or_distrib_left, Bool.or_eq_true, ← object, Bool.and_comm, ← goes, Removed,
    row, ← or_assoc, or_iff_left_of_imp windows]

end StagingResult

/-- The store after the objects of some v1 blocks were deleted. -/
structure BlocksReclaimed (works taken : String → Bool) (s t : Store) : Prop where
  batches : t.batches = s.batches
  windows : t.windows = s.windows
  receipts : t.receipts = s.receipts
  failures : t.failures = s.failures
  objects : ∀ key, t.getObject key = if taken key && works key then none else s.getObject key

section V1Pass

variable {works taken : String → Bool} {s t : Store}

@[simp] theorem removeBatches_nil : s.removeBatches [] = s := by
  simp [removeBatches]

theorem markDeleting_single {block : ContinuousProfileBlock}
    (single : s.profileBlocks.filter (activeProfileBlock block.blockID) = [block]) :
    s.markDeleting block.blockID [] = some { s with
      profileBlocks := s.profileBlocks.map fun other =>
        if activeProfileBlock block.blockID other then { other with status := .deleting }
        else other } := by
  simp only [markDeleting, removeBatches_nil]
  rw [single, if_pos length_singleton]

/-- A reclaimed block leaves the blocks of another identifier alone. -/
theorem deleteContinuousBlock_others {block : ContinuousProfileBlock}
    (single : s.profileBlocks.filter (activeProfileBlock block.blockID) = [block])
    {blockID : String} (different : blockID ≠ block.blockID) :
    (deleteContinuousBlock works s block []).profileBlocks.filter (activeProfileBlock blockID) =
      s.profileBlocks.filter (activeProfileBlock blockID) := by
  have marked : (s.profileBlocks.map fun other =>
      if activeProfileBlock block.blockID other then { other with status := .deleting }
      else other).filter (activeProfileBlock blockID) =
      s.profileBlocks.filter (activeProfileBlock blockID) := by
    induction s.profileBlocks with
    | nil => rfl
    | cons other rest ih =>
      rw [map_cons, filter_cons, filter_cons, ih]
      by_cases own : activeProfileBlock block.blockID other = true
      · have elsewhere : other.blockID ≠ blockID := by
          simp only [activeProfileBlock, Bool.and_eq_true, decide_eq_true_eq] at own
          exact fun same => different (same.symm.trans own.1)
        rw [if_pos own]
        simp [activeProfileBlock, elsewhere]
      · rw [if_neg own]
  unfold deleteContinuousBlock
  rw [markDeleting_single single]
  dsimp only
  split
  · simp only [dropDeletingBlock, deleteObject, filter_filter]
    rw [← marked, filter_congr]
    intro other _
    by_cases own : other.blockID = blockID
    · simp [own, different]
    · simp [activeProfileBlock, own]
  · exact marked

theorem BlocksReclaimed.block (done : BlocksReclaimed works taken s t)
    {block : ContinuousProfileBlock}
    (single : t.profileBlocks.filter (activeProfileBlock block.blockID) = [block]) :
    BlocksReclaimed works (fun key => taken key ||
        (s.pqV1BlockCoveredByValidatedRaw block.blockID && decide (block.objectKey = key))) s
      (reclaimV1Block works t block) := by
  have guard : t.pqV1BlockCoveredByValidatedRaw block.blockID =
      s.pqV1BlockCoveredByValidatedRaw block.blockID := by
    unfold pqV1BlockCoveredByValidatedRaw
    rw [done.batches]
    congr 2
    funext batch
    exact coveredByValidatedRaw_congr (by unfold windowsOf; rw [done.windows]) done.receipts
      fun failure _ => by rw [done.failures]
  unfold reclaimV1Block
  rw [guard]
  by_cases covered : s.pqV1BlockCoveredByValidatedRaw block.blockID = true
  · rw [if_pos covered]
    unfold deleteContinuousBlock
    rw [markDeleting_single single]
    dsimp only
    by_cases deletes : works block.objectKey = true
    · rw [if_pos deletes]
      refine ⟨done.batches, done.windows, done.receipts, done.failures, fun key => ?_⟩
      show (t.deleteObject block.objectKey).getObject key = _
      by_cases own : block.objectKey = key
      · subst own
        simp [covered, deletes]
      · rw [getObject_deleteObject_ne t (Ne.symm own), done.objects]
        simp [own]
    · rw [if_neg deletes]
      refine ⟨done.batches, done.windows, done.receipts, done.failures, fun key => ?_⟩
      show t.getObject key = _
      rw [done.objects]
      by_cases own : block.objectKey = key
      · subst own
        simp [deletes]
      · simp [own]
  · rw [if_neg covered]
    refine ⟨done.batches, done.windows, done.receipts, done.failures, fun key => ?_⟩
    simp [covered, done.objects]

theorem foldl_reclaimV1Block (blocks : List ContinuousProfileBlock) :
    ∀ (taken : String → Bool) (t : Store), BlocksReclaimed works taken s t →
      (blocks.map (·.blockID)).Nodup →
      (∀ block ∈ blocks, t.profileBlocks.filter (activeProfileBlock block.blockID) = [block]) →
      BlocksReclaimed works (fun key => taken key || blocks.any fun block =>
          s.pqV1BlockCoveredByValidatedRaw block.blockID && decide (block.objectKey = key)) s
        (blocks.foldl (reclaimV1Block works) t) := by
  induction blocks with
  | nil =>
    intro taken t done _ _
    simpa using done
  | cons block rest ih =>
    intro taken t done nodup singles
    rw [map_cons, nodup_cons] at nodup
    have single := singles block mem_cons_self
    have others : ∀ other ∈ rest, (reclaimV1Block works t block).profileBlocks.filter
        (activeProfileBlock other.blockID) = [other] := by
      intro other later
      have different : other.blockID ≠ block.blockID :=
        fun same => nodup.1 (same ▸ mem_map_of_mem later)
      rw [← singles other (mem_cons_of_mem _ later)]
      unfold reclaimV1Block
      split
      · exact deleteContinuousBlock_others single different
      · rfl
    have next := ih _ _ (done.block single) nodup.2 others
    simpa only [foldl_cons, any_cons, Bool.or_assoc] using next

end V1Pass

section V1Result

variable (ctx : ReclaimContext) (s : Store)

/-- The objects of the v1 blocks that a pass reclaims. -/
def v1Taken (key : String) : Bool :=
  (s.v1Candidates ctx.rollbackCutoff ctx.v1Limit).any fun block =>
    s.pqV1BlockCoveredByValidatedRaw block.blockID && decide (block.objectKey = key)

/-- A batch that loses its payload object in a pass over the v1 blocks. -/
def v1Takes (batch : ProfileBatch) : Bool :=
  v1Taken ctx s batch.objectKey && (s.hasObject batch.objectKey && ctx.deleteWorks batch.objectKey)

variable {s}

theorem pqReclaimV1Blocks_reclaimed (keyed : s.Keyed) :
    BlocksReclaimed ctx.deleteWorks (v1Taken ctx s) s (pqReclaimV1Blocks ctx s) := by
  have active : ∀ block ∈ s.v1Candidates ctx.rollbackCutoff ctx.v1Limit,
      block ∈ s.profileBlocks ∧ block.status = .active := by
    intro block candidate
    have mem := mem_of_mem_take candidate
    rw [mem_orderBy, mem_filter, Bool.and_eq_true, decide_eq_true_eq] at mem
    exact ⟨mem.1, mem.2.1⟩
  have nodup : ((s.v1Candidates ctx.rollbackCutoff ctx.v1Limit).map (·.blockID)).Nodup := by
    have filtered := keyed.blockIDs.sublist ((filter_sublist (l := s.profileBlocks)
      (p := fun block => decide (block.status = .active) &&
        decide (block.bucketEnd < ctx.rollbackCutoff))).map (·.blockID))
    have ordered := ((orderBy_perm ContinuousProfileBlock.bucketStart _).map
      ContinuousProfileBlock.blockID).nodup_iff.mpr filtered
    exact ordered.sublist ((take_sublist _ _).map _)
  have singles : ∀ block ∈ s.v1Candidates ctx.rollbackCutoff ctx.v1Limit,
      s.profileBlocks.filter (activeProfileBlock block.blockID) = [block] := by
    intro block candidate
    obtain ⟨stored, status⟩ := active block candidate
    exact filter_eq_singleton keyed.blockIDs stored (by simp [activeProfileBlock, status])
      fun other _ passes => by
        simp only [activeProfileBlock, Bool.and_eq_true, decide_eq_true_eq] at passes
        exact passes.1
  have start : BlocksReclaimed ctx.deleteWorks (fun _ => false) s s :=
    ⟨rfl, rfl, rfl, rfl, fun key => by simp⟩
  have loop := foldl_reclaimV1Block _ _ s start nodup singles
  exact loop

theorem BlocksReclaimed.removed_iff
    (done : BlocksReclaimed works taken s t) (stored : batch ∈ s.batches) :
    Removed s t batch ↔ (taken batch.objectKey &&
      (s.hasObject batch.objectKey && works batch.objectKey)) = true := by
  have object := objectLost_iff (done.objects batch.objectKey)
  rw [Bool.and_assoc, Bool.and_comm (works batch.objectKey)] at object
  rw [← object, Removed, done.batches, done.windows, or_iff_right (not_not_intro stored),
    or_iff_right fun ⟨_, listed, _, gone⟩ => gone listed]

end V1Result

/-- Both passes remove only what lies inside its receipts. -/
def RemovesInside (ctx : ReclaimContext) (s : Store) : Prop :=
  (∀ batch ∈ s.batches, Removed s (pqReclaimStaging ctx s) batch → s.InsideReceipts batch) ∧
    ∀ batch ∈ s.batches, Removed s (pqReclaimV1Blocks ctx s) batch → s.InsideReceipts batch

/-- What the passes remove are the batches they admit. -/
theorem removesInside_iff (ctx : ReclaimContext) {s : Store} (keyed : s.Keyed) :
    RemovesInside ctx s ↔ ∀ batch ∈ s.batches,
      (stagingTakes ctx s batch || v1Takes ctx s batch) = true → s.InsideReceipts batch := by
  simp only [RemovesInside, Bool.or_eq_true, or_imp, forall_and]
  refine and_congr (forall₂_congr fun batch stored => ?_) (forall₂_congr fun batch stored => ?_)
  · exact imp_congr_left ((pqReclaimStaging_reclaimed ctx keyed).removed_iff keyed stored)
  · exact imp_congr_left ((pqReclaimV1Blocks_reclaimed ctx keyed).removed_iff stored)

/-- In each hour, what a window row of the batch has of that hour lies in one receipt for its
signal. -/
def Store.HoursReceipted (s : Store) (batch : ProfileBatch) : Prop :=
  ∀ window ∈ s.windows, window.batchBID = batch.bid → ∀ hour : Int,
    ∃ receipt ∈ s.signalReceipts batch.bid window.signalType,
      Set.Ico window.windowStart window.windowEnd ∩
        Set.Ico (hour * Time.hour) ((hour + 1) * Time.hour) ⊆
        Set.Ico receipt.startTime receipt.endTime

/-- **If the windows of every batch that is admitted have a receipt in each hour, the passes remove
only what lies inside its receipts.** The passes ask for one receipt of each signal, in whatever
hour. -/
theorem removesInside_of_hours (ctx : ReclaimContext) {s : Store} (keyed : s.Keyed)
    (hours : ∀ batch ∈ s.batches, (stagingTakes ctx s batch || v1Takes ctx s batch) = true →
      s.HoursReceipted batch) : RemovesInside ctx s := by
  refine (removesInside_iff ctx keyed).mpr fun batch stored takes window listed own t inside => ?_
  have positive : (0 : Int) < Time.hour := by decide
  have below := Int.lt_ediv_add_one_mul_self t positive
  obtain ⟨receipt, found, spans⟩ := hours batch stored takes window listed own (t / Time.hour)
  have within := spans ⟨inside, Int.ediv_mul_le t positive.ne', below⟩
  exact (mem_spanUnion ..).mpr ⟨receipt, found, within⟩

/-- **What the passes remove is inside its receipts exactly when the admitted batches pass the
interval test.** The passes themselves do not make this test. -/
theorem reclaim_inside_receipts_iff (ctx : ReclaimContext) (s : Store) (keyed : s.Keyed) :
    ((∀ batch ∈ s.batches, Removed s (pqReclaimStaging ctx s) batch → s.InsideReceipts batch) ∧
      ∀ batch ∈ s.batches, Removed s (pqReclaimV1Blocks ctx s) batch → s.InsideReceipts batch) ↔
    ∀ batch ∈ s.batches, (stagingTakes ctx s batch || v1Takes ctx s batch) = true →
      s.fullyReceipted batch = true := by
  simp only [fullyReceipted_iff]
  exact removesInside_iff ctx keyed

/-- The clock of the sample passes, three hours after the uploads. -/
def sampleReclaim : ReclaimContext := { now := sampleHour + 4 * Time.hour }

/-- The inner batch, its hour built: the receipt covers its only window. -/
theorem innerBatch_reclaimed_inside :
    let s := innerHistory.store.buildAndWriteRawHour (fun _ => "") "default" sampleHour
      (sampleHour + 2 * Time.hour) fun _ => "pq-1"
    (∀ batch ∈ s.batches, stagingTakes sampleReclaim s batch = true) ∧
    (∀ batch ∈ s.batches, Removed s (pqReclaimStaging sampleReclaim s) batch →
      s.InsideReceipts batch) ∧
    ∀ batch ∈ s.batches, Removed s (pqReclaimV1Blocks sampleReclaim s) batch →
      s.InsideReceipts batch := by
  intro s
  have keyed : s.Keyed := ⟨by decide, by decide, by decide⟩
  have tested : ∀ batch ∈ s.batches, (stagingTakes sampleReclaim s batch ||
      v1Takes sampleReclaim s batch) = true → s.fullyReceipted batch = true := by decide
  have taken : ∀ batch ∈ s.batches, stagingTakes sampleReclaim s batch = true := by decide
  exact ⟨taken, (reclaim_inside_receipts_iff sampleReclaim s keyed).mpr tested⟩

/-- A batch with one window on each side of an hour boundary, and a batch of the later hour whose
window carries no data. -/
def straddlingCalls : List IngestCall :=
  [({ now := sampleHour + 3620000 },
    sampleRequest "b1" (sampleHour + 3580000) (sampleHour + 3620000)
      [cpuWindow "w1" (sampleHour + 3580000) (sampleHour + 3590000) 3,
        cpuWindow "w2" (sampleHour + 3610000) (sampleHour + 3620000) 5]),
   ({ now := sampleHour + 3640000 },
    sampleRequest "b2" (sampleHour + 3620000) (sampleHour + 3630000)
      [{ windowStart := sampleHour + 3620000, windowEnd := sampleHour + 3630000, windowID := "w3",
         targetFingerprint := "host", contentSHA256 := sampleDigest 'a' }])]

/-- The store after both uploads and the build of the earlier hour. -/
def straddledStore : Store :=
  (sampleHistory straddlingCalls).store.buildAndWriteRawHour (fun _ => "") "default"
    sampleHour (sampleHour + 2 * Time.hour) fun _ => "pq-1"

/-- The later hour cannot be built, and the staging pass removes the batch with the samples of that
hour on the strength of the earlier hour's receipt. -/
theorem later_window_reclaimed :
    (pqBuildRawHour (fun _ => "") (sampleHour + Time.hour) straddledStore.windows
      straddledStore.loadContinuousBatches straddledStore.failures).outcome.isOk = false ∧
    ∃ batch ∈ straddledStore.batches, batch.bid = "b1" ∧
      Removed straddledStore (pqReclaimStaging sampleReclaim straddledStore) batch ∧
      ¬straddledStore.InsideReceipts batch := by
  have found : ∃ batch ∈ straddledStore.batches, batch.bid = "b1" ∧
      batch ∉ (pqReclaimStaging sampleReclaim straddledStore).batches ∧
      straddledStore.fullyReceipted batch = false := by decide
  obtain ⟨batch, stored, named, gone, untested⟩ := found
  refine ⟨by decide, batch, stored, named, .inl gone, fun inside => ?_⟩
  rw [fullyReceipted_iff.mpr inside] at untested
  cases untested

variable (ctx : FineGCContext) (s : Store)

/-- The rows of a batch that passes the tests are gone. -/
structure FineRemoval (t : Store) (batch : ProfileBatch) : Prop where
  stored : batch.bid ∈ s.batches.map (·.bid)
  reconciled : s.pqBatchCoverageReconciled batch = true
  receipts : t.receipts = s.receipts
  windows : t.windows = (s.removeBatches [batch.bid]).windows
  batches : t.batches = (s.removeBatches [batch.bid]).batches

theorem fineGCCandidate_takes (batch : ProfileBatch) :
    fineGCCandidate ctx s batch = s ∨ FineRemoval s (fineGCCandidate ctx s batch) batch := by
  unfold fineGCCandidate pqFineGCRemoveBatch
  split_ifs with admitted
  · split
    · exact .inl rfl
    · next locked found =>
      have same : locked.bid = batch.bid := (by simpa using find?_some found : _ ∧ _).1
      have reconciled : s.pqBatchCoverageReconciled batch = true := by
        simp only [pqFineGCCandidateBlockReason] at admitted
        split_ifs at admitted <;> simp_all
      refine .inr ⟨same ▸ mem_map_of_mem (mem_of_find?_eq_some found), reconciled, ?_, ?_, ?_⟩
      all_goals split <;> simp [removeBatches, same]
  · exact .inl rfl

/-- A window row goes only if its batch is past the hot retention and, for a ledger signal, the row
lies inside the passed receipts of batch and signal. -/
structure FineSafe (cutoff : Int) (t : Store) : Prop where
  receipts : t.receipts = s.receipts
  windows : ∀ window ∈ s.windows, window ∈ t.windows ∨
    (∃ batch ∈ s.batches, batch.bid = window.batchBID ∧ batch.createdAt < cutoff) ∧
      ∀ signal, pqLedgerSignalForWindow window.signalType = some signal →
        Set.Ico window.windowStart window.windowEnd ⊆ spanUnion (·.startTime) (·.endTime)
          (s.pqPassedMigrationReceipts window.batchBID signal)

/-- **The fine-row clean-up removes covered rows only**, whichever objects cannot be deleted. -/
theorem fine_gc_safe : FineSafe s ctx.cutoff (pqRunFineRowGC ctx s) := by
  refine foldlRecOn _ _ ⟨rfl, fun _ => .inl⟩ fun t safe batch candidate => ?_
  rcases fineGCCandidate_takes ctx t batch with kept | removal
  · rwa [kept]
  refine ⟨removal.receipts.trans safe.receipts, fun window stored =>
    (safe.windows window stored).elim (fun there => ?_) .inr⟩
  by_cases own : window.batchBID = batch.bid
  · have old := mem_of_mem_take candidate
    rw [mem_orderBy, mem_filter, decide_eq_true_eq] at old
    have inside := all_eq_true.mp removal.reconciled window (mem_filter.mpr ⟨there, by simpa⟩)
    refine .inr ⟨⟨batch, old.1, own.symm, old.2⟩, fun signal ledger => ?_⟩
    simp only [windowReconciled, ledger, pqReceiptsCoverRange_iff, ← own] at inside
    rwa [pqPassedMigrationReceipts, ← safe.receipts]
  · exact .inl (by simp [removal.windows, removeBatches, there, own])

/-- **The fine-row clean-up makes no orphans**, and repairs none. -/
theorem fine_gc_orphans : (pqRunFineRowGC ctx s).pqCountOrphanWindows = s.pqCountOrphanWindows := by
  refine foldlRecOn (motive := (pqCountOrphanWindows · = _)) _ _ rfl fun t same batch _ => ?_
  rcases fineGCCandidate_takes ctx t batch with kept | removal
  · rwa [kept]
  rw [← same, pqCountOrphanWindows, removal.windows, removal.batches, removeBatches, countP_filter]
  have := removal.stored
  exact countP_congr fun window _ => by grind

end MiniDrop
