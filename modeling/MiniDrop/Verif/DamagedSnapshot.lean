import MiniDrop.Verif.Snapshot
/-!
# Snapshots that were damaged

A snapshot cut at some byte, or one in which the bytes of some tasks were replaced by bytes that do
not parse. The reader stops at a header that ends early, but restores a record whose metadata is
cut, without its flag; and after a task that does not parse it takes the metadata for the next
header, so that what follows is lost.
-/
namespace MiniDrop.Drop

open Base List

variable {rounds : Nat}

/-! ## Damage -/

/-- A record, and the bytes that replace those of its task. -/
abbrev Marked := Record × Option Bytes

/-- What was done to a snapshot: it was cut to a length, or in some of its records, here listed with
all others, the bytes of the task were replaced. -/
inductive Damage where
  | cut (length : Nat)
  | replace (marked : List Marked)

/-- The bytes of a record, with those of its task replaced if there are others for it. -/
def writeMarked (codec : TaskCodec) (entry : Marked) : Bytes :=
  recordBytes entry.1.1 (entry.2.getD (codec.serialize entry.1.2.task)) entry.1.2

/-- The bytes of all records after the replacements. -/
def markedImage (codec : TaskCodec) (marked : List Marked) : Bytes :=
  marked.flatMap (writeMarked codec)

/-- The records that end before the cut. -/
def recordsBefore (codec : TaskCodec) :
    Nat → List Record → List Record
  | _, [] => []
  | cut, record :: rest =>
    let size := (writeRecord codec record).length
    if size ≤ cut then record :: recordsBefore codec (cut - size) rest else []

/-- Every record before the cut has a task the reader accepts, and the cut is not in the metadata of
such a record. -/
def HarmlessCut (codec : TaskCodec) : Nat → List Record → Prop
  | _, [] => True
  | cut, record :: rest =>
    let taskBytes := codec.serialize record.2.task
    let size := (writeRecord codec record).length
    if size ≤ cut then TaskFits taskBytes ∧ HarmlessCut codec (cut - size) rest
    else (headerBytes record.1 taskBytes).length ≤ cut → ¬TaskFits taskBytes

/-- Every intact record has a task the reader accepts, and no replaced record stands before one. -/
def HarmlessMarks (codec : TaskCodec) (marked : List Marked) :
    Prop :=
  (∀ entry ∈ marked, entry.2 = none → TaskFits (codec.serialize entry.1.2.task)) ∧
    marked.Pairwise fun earlier later => later.2 = none → earlier.2 = none

/-- Behind the first replaced task, if its length is one the reader accepts, it finds no header. -/
def StopsBehind (codec : TaskCodec) : List Marked → Prop
  | [] => True
  | (_, none) :: rest => StopsBehind codec rest
  | (record, some bytes) :: rest =>
    TaskFits bytes → readHeader (metadataBytes record.2 ++ markedImage codec rest) = none

namespace Damage

variable (codec : TaskCodec) (records : List Record)

/-- The damage can be done to a snapshot of the records. -/
def Applies : Damage → Prop
  | cut _ => True
  | replace marked =>
      marked.map Prod.fst = records ∧ ∀ record bytes, (record, some bytes) ∈ marked →
        bytes.length = (codec.serialize record.2.task).length ∧ codec.parse bytes = none

/-- The bytes of the damaged snapshot. -/
def image : Damage → Bytes
  | cut length => (imageOf codec records).take length
  | replace marked => markedImage codec marked

/-- The records that the damage has left whole. -/
def intact : Damage → List Record
  | cut length => recordsBefore codec length records
  | replace marked => (marked.filter (·.2 = none)).map Prod.fst

/-- All intact records can be read, and no others. -/
def Harmless : Damage → Prop
  | cut length => HarmlessCut codec length records
  | replace marked => HarmlessMarks codec marked

/-- Metadata is not taken for a header. -/
def Stops : Damage → Prop
  | cut _ => True
  | replace marked => StopsBehind codec marked

end Damage

/-- The server holds exactly these records: under their addresses, in order, with their tasks and
flags. -/
def Yields (s : DropState) (records : List Record) : Prop :=
  ∀ ip, (queueOf s.tasks ip).map (fun item => (item.task, item.canceled)) =
    (itemsOf ip records).map fun item => (item.task, item.canceled)

/-! ## What the server holds -/

section Holding

variable {codec : TaskCodec} (clock : Nat → ClockMs) {s : DropState} {ip : Bytes}
  {item : QueuedTask} {done : List Record}

/-- A server that holds the first records yields a list of records that starts with them only if
there are no others. -/
theorem Restored.yields_iff (restored : Restored s done) (lost : List Record) :
    Yields s (done ++ lost) ↔ lost = [] := by
  constructor
  · intro yields
    cases lost with
    | nil => rfl
    | cons record rest =>
      have own : itemsOf record.1 (record :: rest) = record.2 :: itemsOf record.1 rest := by
        simp [itemsOf]
      have lengths := congrArg length (yields record.1)
      rw [restored.holds, itemsOf_append, own] at lengths
      simp at lengths
  · intro nothing ip
    rw [nothing, append_nil, restored.holds]

theorem placeItem_grows (addresses : (s.tasks.map Prod.fst).Nodup) (ip : Bytes)
    (item : QueuedTask) : ((placeItem s ip item).tasks.map Prod.fst).Nodup ∧
      ∀ other, (queueOf s.tasks other).length ≤
      (queueOf (placeItem s ip item).tasks other).length := by
  unfold placeItem
  dsimp only
  split_ifs
  · exact ⟨addresses, fun _ => Nat.le_refl _⟩
  · exact ⟨addresses, fun _ => Nat.le_refl _⟩
  · refine ⟨upsert_nodup addresses ip _, fun other => ?_⟩
    by_cases own : other = ip
    · have length := (orderBy_perm QueuedTask.rank (queueOf s.tasks ip ++ [item])).length_eq
      rw [length_append] at length
      rw [own, queueOf_upsert_self addresses, sortQueue, length]
      omega
    · rw [queueOf_upsert_of_ne own]

theorem restoreLoop_grows (rounds : Nat) (bytes : Bytes)
    (addresses : (s.tasks.map Prod.fst).Nodup) :
    (queueOf s.tasks ip).length ≤
      (queueOf (restoreLoop codec clock rounds bytes s).tasks ip).length := by
  induction rounds generalizing bytes s with
  | zero => exact Nat.le_refl _
  | succ rounds ih =>
    rw [restoreLoop]
    split
    · exact Nat.le_refl _
    · split
      · exact ih _ addresses
      · obtain ⟨placedAddresses, grown⟩ := placeItem_grows addresses _ _
        exact Nat.le_trans (grown ip) (ih _ placedAddresses)

theorem not_yields_cut_metadata (restored : Restored s done)
    (storable : Storable (done ++ [(ip, item)])) (readable : Readable codec (ip, item))
    {part : Bytes}
    (short : part.length < 25) (rounds : Nat) :
    ¬Yields (restoreLoop codec clock (rounds + 1)
      (headerBytes ip (codec.serialize item.task) ++ part) s) done := by
  obtain ⟨complete, untaken, room⟩ := restored.room storable
  obtain ⟨sameTask, -, -⟩ := readMetadata_cut item.task short
  let revived := completeItem (clock rounds) (readMetadata item.task part).1
  have revivedTask : revived.task = item.task := sameTask
  have placed : placeItem s ip revived =
      { s with tasks := upsert s.tasks ip (sortQueue (queueOf s.tasks ip ++ [revived])) } :=
    placeItem_new (revivedTask ▸ complete.named) restored.fresh
      (fun queued mem => revivedTask ▸ untaken queued mem) room
  have read : restoreLoop codec clock (rounds + 1)
      (headerBytes ip (codec.serialize item.task) ++ part) s =
        restoreLoop codec clock rounds (readMetadata item.task part).2
        (placeItem s ip revived) := by
    rw [restoreLoop, readHeader_header readable.1 readable.2]
    dsimp only
    rw [codec.roundTrip]
  have more : (queueOf s.tasks ip).length < (queueOf (placeItem s ip revived).tasks ip).length := by
    have length := (orderBy_perm QueuedTask.rank (queueOf s.tasks ip ++ [revived])).length_eq
    rw [length_append, length_singleton] at length
    rw [placed, queueOf_upsert_self restored.addresses, sortQueue, length]
    omega
  have kept : (queueOf (placeItem s ip revived).tasks ip).length ≤
      (queueOf (restoreLoop codec clock rounds (readMetadata item.task part).2
        (placeItem s ip revived)).tasks ip).length :=
    restoreLoop_grows clock rounds _ (placeItem_grows restored.addresses ip revived).1
  intro yields
  have lengths := congrArg length (yields ip)
  rw [read, length_map, length_map, ← restored.holds] at lengths
  omega

end Holding

/-! ## Replaced tasks -/

section Replaced

variable {codec : TaskCodec} (clock : Nat → ClockMs) {s : DropState}
  {done : List Record}

variable {record : Record} {bytes rest : Bytes}

/-- The reader stops behind a task that does not parse, or already at its length. -/
theorem restoreLoop_replaced (address : AddressFits record.1) (small : bytes.length < 2 ^ 32)
    (unparsed : codec.parse bytes = none)
    (stops : TaskFits bytes → readHeader (metadataBytes record.2 ++ rest) = none) (rounds : Nat) :
    restoreLoop codec clock (rounds + 1) (recordBytes record.1 bytes record.2 ++ rest) s = s := by
  unfold recordBytes
  rw [append_assoc]
  by_cases fits : TaskFits bytes
  · rw [restoreLoop, readHeader_header address fits]
    dsimp only
    rw [unparsed]
    exact restoreLoop_stop clock (stops fits) rounds
  · exact restoreLoop_stop clock (readHeader_unfit address small fits _) _

theorem restoreLoop_unfit (address : AddressFits record.1)
    (small : (codec.serialize record.2.task).length < 2 ^ 32)
    (unfit : ¬TaskFits (codec.serialize record.2.task)) (rounds : Nat) :
    restoreLoop codec clock rounds (writeRecord codec record ++ rest) s = s := by
  unfold writeRecord recordBytes
  rw [append_assoc]
  exact restoreLoop_stop clock (readHeader_unfit address small unfit _) rounds

theorem harmlessMarks_replaced {rest : List Marked} :
    HarmlessMarks codec ((record, some bytes) :: rest) ↔ ∀ entry ∈ rest, entry.2 ≠ none := by
  unfold HarmlessMarks
  rw [pairwise_cons]
  constructor
  · rintro ⟨-, behind, -⟩ entry mem same
    cases behind entry mem same
  · intro replaced
    refine ⟨?_, fun later mem same => absurd same (replaced later mem), ?_⟩
    · intro entry mem same
      rcases mem_cons.mp mem with rfl | later
      · cases same
      · exact absurd same (replaced entry later)
    · exact pairwise_of_forall_mem_list fun _ _ later mem same =>
        absurd same (replaced later mem)

theorem harmlessMarks_intact {rest : List Marked} :
    HarmlessMarks codec ((record, none) :: rest) ↔
      TaskFits (codec.serialize record.2.task) ∧ HarmlessMarks codec rest := by
  unfold HarmlessMarks
  rw [pairwise_cons, and_iff_right fun _ _ _ => rfl, forall_mem_cons, forall_prop_of_true rfl,
    and_assoc]

/-- After replacements the server holds the intact records exactly if each of them is accepted and
stands before the first replaced one. -/
theorem yields_replaced_iff {marked : List Marked}
    (restored : Restored s done) (storable : Storable (done ++ marked.map Prod.fst))
    (addresses : ∀ entry ∈ marked, AddressFits entry.1.1)
    (small : ∀ entry ∈ marked, (codec.serialize entry.1.2.task).length < 2 ^ 32)
    (unparsed : ∀ record bytes, (record, some bytes) ∈ marked →
      bytes.length = (codec.serialize record.2.task).length ∧ codec.parse bytes = none)
    (stops : StopsBehind codec marked) (enough : (markedImage codec marked).length < rounds) :
    Yields (restoreLoop codec clock rounds (markedImage codec marked) s)
        (done ++ (marked.filter (·.2 = none)).map Prod.fst) ↔ HarmlessMarks codec marked := by
  induction marked generalizing s done rounds with
  | nil =>
    rw [markedImage, flatMap_nil, restoreLoop_stop clock rfl]
    simpa [HarmlessMarks] using (restored.yields_iff []).mpr rfl
  | cons entry rest ih =>
    obtain ⟨record, replaced⟩ := entry
    obtain ⟨address, nextAddresses⟩ := forall_mem_cons.mp addresses
    obtain ⟨size, nextSmall⟩ := forall_mem_cons.mp small
    dsimp only at size
    obtain ⟨rounds, rfl⟩ := Nat.exists_eq_add_one_of_ne_zero (Nat.ne_zero_of_lt enough)
    cases replaced with
    | some bytes =>
      obtain ⟨length, unread⟩ := unparsed record bytes mem_cons_self
      have stuck : restoreLoop codec clock (rounds + 1)
          (markedImage codec ((record, some bytes) :: rest)) s = s :=
          restoreLoop_replaced clock address (by omega) unread stops _
      rw [stuck, harmlessMarks_replaced, filter_cons_of_neg (by simp),
        restored.yields_iff, map_eq_nil_iff, filter_eq_nil_iff]
      simp
    | none =>
      rw [harmlessMarks_intact, filter_cons_of_pos (by simp), map_cons]
      by_cases fits : TaskFits (codec.serialize record.2.task)
      · have regroup : ∀ more, done ++ record :: more = done ++ [record] ++ more := by simp
        rw [map_cons, regroup] at storable
        have step : restoreLoop codec clock (rounds + 1)
            (markedImage codec ((record, none) :: rest)) s =
              restoreLoop codec clock rounds (markedImage codec rest)
              (placeItem s record.1 record.2) :=
          restoreLoop_record clock restored storable.front ⟨address, fits⟩ _ _
        have length : (markedImage codec ((record, none) :: rest)).length =
            (writeRecord codec record).length + (markedImage codec rest).length := length_append
        rw [step, regroup, ih (restored.place storable.front) storable
          nextAddresses nextSmall (fun other bytes mem =>
          unparsed other bytes (mem_cons_of_mem _ mem)) stops
          (by have := length_writeRecord codec record; omega)]
        exact (and_iff_right fits).symm
      · have stuck : restoreLoop codec clock (rounds + 1)
            (markedImage codec ((record, none) :: rest)) s = s :=
            restoreLoop_unfit clock address size fits _
        rw [stuck, restored.yields_iff]
        exact iff_of_false (cons_ne_nil _ _) fun harmless => fits harmless.1

end Replaced

/-! ## Cuts -/

section Cut

variable {codec : TaskCodec} (clock : Nat → ClockMs) {s : DropState} (cut : Nat)
  {done : List Record} {record : Record}

theorem yields_cut_record_iff (restored : Restored s done) (storable : Storable (done ++ [record]))
    (address : AddressFits record.1) (small : (codec.serialize record.2.task).length < 2 ^ 32)
    (inside : cut < (writeRecord codec record).length) (rounds : Nat) :
    Yields (restoreLoop codec clock (rounds + 1) ((writeRecord codec record).take cut) s) done ↔
      ((headerBytes record.1 (codec.serialize record.2.task)).length ≤ cut →
        ¬TaskFits (codec.serialize record.2.task)) := by
  let header := headerBytes record.1 (codec.serialize record.2.task)
  have split : (writeRecord codec record).take cut =
      header.take cut ++ (metadataBytes record.2).take (cut - header.length) := take_append
  have size : (writeRecord codec record).length = header.length + 25 := by
    exact length_append
  have unchanged : Yields s done := by
    have holds := (restored.yields_iff []).mpr rfl
    rwa [append_nil] at holds
  rw [split]
  by_cases headed : header.length ≤ cut
  · rw [take_of_length_le headed]
    by_cases fits : TaskFits (codec.serialize record.2.task)
    · have short : ((metadataBytes record.2).take (cut - header.length)).length < 25 := by
        rw [length_take]
        omega
      have revived := not_yields_cut_metadata clock restored storable ⟨address, fits⟩ short rounds
      exact iff_of_false revived fun harmless => harmless headed fits
    · rw [restoreLoop_stop clock (readHeader_unfit address small fits _)]
      exact iff_of_true unchanged fun _ => fits
  · have gone : (metadataBytes record.2).take (cut - header.length) = [] := by
      rw [Nat.sub_eq_zero_of_le (by omega), take_zero]
    rw [gone, append_nil, restoreLoop_stop clock (readHeader_cut address small (not_le.mp headed))]
    exact iff_of_true unchanged fun whole => absurd whole headed

/-- After a cut the server holds the records before it exactly if each of them is accepted and the
cut is not in the metadata of a record that is. -/
theorem yields_cut_iff {records : List Record} (restored : Restored s done)
    (storable : Storable (done ++ records)) (addresses : ∀ record ∈ records, AddressFits record.1)
    (small : ∀ record ∈ records, (codec.serialize record.2.task).length < 2 ^ 32)
    (enough : ((imageOf codec records).take cut).length < rounds) :
    Yields (restoreLoop codec clock rounds ((imageOf codec records).take cut) s)
        (done ++ recordsBefore codec cut records) ↔ HarmlessCut codec cut records := by
  induction records generalizing s done cut rounds with
  | nil =>
    rw [imageOf, flatMap_nil, take_nil, restoreLoop_stop clock rfl]
    exact iff_of_true ((restored.yields_iff []).mpr rfl) trivial
  | cons record rest ih =>
    obtain ⟨address, addresses⟩ := forall_mem_cons.mp addresses
    obtain ⟨size, small⟩ := forall_mem_cons.mp small
    have regroup : ∀ more, done ++ record :: more = done ++ [record] ++ more := by simp
    have image : imageOf codec (record :: rest) = writeRecord codec record ++ imageOf codec rest :=
      rfl
    obtain ⟨rounds, rfl⟩ := Nat.exists_eq_add_one_of_ne_zero (Nat.ne_zero_of_lt enough)
    rw [regroup] at storable
    rw [image] at enough
    rw [image, recordsBefore, HarmlessCut]
    by_cases whole : (writeRecord codec record).length ≤ cut
    · rw [take_append, take_of_length_le whole, length_append] at enough
      rw [if_pos whole, if_pos whole, take_append, take_of_length_le whole]
      by_cases fits : TaskFits (codec.serialize record.2.task)
      · have step := restoreLoop_record clock restored storable.front ⟨address, fits⟩ rounds
          ((imageOf codec rest).take (cut - (writeRecord codec record).length))
        rw [step, regroup, ih _ (restored.place storable.front) storable addresses small
          (by have := length_writeRecord codec record; omega)]
        exact (and_iff_right fits).symm
      · rw [restoreLoop_unfit clock address size fits, restored.yields_iff]
        exact iff_of_false (cons_ne_nil _ _) fun harmless => fits harmless.1
    · rw [if_neg whole, if_neg whole, append_nil, take_append_of_le_length (by omega)]
      exact yields_cut_record_iff clock cut restored storable.front address size (by omega) _

end Cut

/-! ## Damaged snapshots -/

/-- Metadata is not taken for a header when its priority, as an unsigned number, is no length of an
address; the priority of a task without a budget is zero. -/
theorem readHeader_metadata {item : QueuedTask}
    (outside : item.priority.toNat = 0 ∨ 1024 < item.priority.toNat) (rest : Bytes) :
    readHeader (metadataBytes item ++ rest) = none := by
  have low : leValue (leBytes 4 (item.priority.signExtend 64).toNat) = item.priority.toNat := by
    rw [leValue_leBytes_mod]
    have narrowed := congrArg BitVec.toNat (priority_narrowed item.priority)
    rwa [BitVec.toNat_setWidth] at narrowed
  unfold metadataBytes
  rw [leBytes_add 4 4]
  simp [readHeader, splitBytes_of_length (length_leBytes 4 _), low, if_pos outside]

/-- A fresh process started from a damaged snapshot of sound queues holds exactly the intact records
if and only if all of them stand before the first replaced one, with lengths that the reader
accepts, and the cut is not in the metadata of a record; provided that behind the first replaced
task the metadata does not happen to look like a header. -/
theorem damaged_snapshot_yields_iff (codec : TaskCodec) (clock : Nat → ClockMs)
    {entries : Queues} (sound : TasksSound entries)
    (addresses : ∀ record ∈ recordsOf entries, AddressFits record.1)
    (small : ∀ record ∈ recordsOf entries, (codec.serialize record.2.task).length < 2 ^ 32)
    (damage : Damage) (applies : damage.Applies codec (recordsOf entries))
    (stops : damage.Stops codec) :
    Yields (restoreTasks codec clock (damage.image codec (recordsOf entries)) {})
        (damage.intact codec (recordsOf entries)) ↔
      damage.Harmless codec (recordsOf entries) := by
  cases damage with
  | cut length =>
    have cutShort := yields_cut_iff clock length restored_empty
      (by rw [nil_append]; exact sound.storable) addresses small (Nat.lt_succ_self _)
    rwa [nil_append] at cutShort
  | replace =>
    obtain ⟨same, unparsed⟩ := applies
    have replaced := yields_replaced_iff clock restored_empty
      (by rw [nil_append, same]; exact sound.storable)
      (fun entry mem => addresses entry.1 (same ▸ mem_map_of_mem mem))
      (fun entry mem => small entry.1 (same ▸ mem_map_of_mem mem)) unparsed stops
      (Nat.lt_succ_self _)
    rwa [nil_append] at replaced

/-- The records of the sample queues. -/
def sampleRecords : List Record :=
  recordsOf (sampleActions.foldl (DropState.act markedCodec) {}).tasks

/-- The sample snapshot with the bytes of its last task replaced. -/
def lastTaskReplaced : Damage :=
  .replace (sampleRecords.zip [none, none, some (replicate 21 7)])

/-- With the last task replaced, the records before it are restored. -/
theorem last_task_replaced_yields :
    lastTaskReplaced.Harmless markedCodec sampleRecords ∧
      Yields (restoreTasks markedCodec (fun _ => ⟨7, by decide⟩)
        (lastTaskReplaced.image markedCodec sampleRecords) {})
          (lastTaskReplaced.intact markedCodec sampleRecords) := by
  have harmless : lastTaskReplaced.Harmless markedCodec sampleRecords := by
    unfold lastTaskReplaced Damage.Harmless HarmlessMarks
    decide
  refine ⟨harmless, (damaged_snapshot_yields_iff markedCodec _
    (reachable_sound ⟨sampleActions, rfl⟩) (by decide) (by decide) lastTaskReplaced ?_ ?_).mpr
    harmless⟩
  · have unparsed : ∀ entry ∈ sampleRecords.zip [none, none, some (replicate 21 7)],
        ∀ bytes ∈ entry.2, bytes.length = (markedCodec.serialize entry.1.2.task).length ∧
          markedCodec.parse bytes = none := by
      decide
    exact ⟨by decide, fun record bytes mem => unparsed (record, some bytes) mem bytes rfl⟩
  · intro _
    exact readHeader_metadata (by decide) _

/-- Cut before the flag of its second record, which is canceled, the sample snapshot gives back this
record too, and as not canceled; with the first task replaced, no record is given back. -/
theorem damaged_sample_revived :
    let clock : Nat → ClockMs := fun _ => ⟨7, by decide⟩
    let flagCut : Damage := .cut 109
    let firstReplaced : Damage := .replace (sampleRecords.zip [some (replicate 21 7), none, none])
    let revived := restoreTasks markedCodec clock (flagCut.image markedCodec sampleRecords) {}
    let emptied := restoreTasks markedCodec clock (firstReplaced.image markedCodec sampleRecords) {}
    sampleRecords.map (·.2.canceled) = [false, true, false] ∧
      (recordsOf revived.tasks).map (fun record => (record.2.task.taskID, record.2.canceled)) =
        [([99], false), ([97], false)] ∧
      ¬Yields revived (flagCut.intact markedCodec sampleRecords) ∧
      emptied.tasks = [] ∧ ¬Yields emptied (firstReplaced.intact markedCodec sampleRecords) := by
  refine ⟨by decide +kernel, by decide +kernel, fun yields => ?_, by decide +kernel,
    fun yields => ?_⟩
  · exact absurd (yields [49]) (by decide)
  · exact absurd (yields [49]) (by decide +kernel)

end MiniDrop.Drop
