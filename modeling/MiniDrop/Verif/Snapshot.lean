import MiniDrop.Verif.TaskQueue
/-!
# Reading a snapshot back

A record that the reader accepts is read back field by field. Reading the records of a sound map
from the front, the server holds at every point exactly the records read so far, so a whole snapshot
gives back the map.
-/
namespace MiniDrop.Drop

open Base List

variable {tasks : Queues} {bytes : Bytes}

/-! ## One record -/

/-- The reader accepts an address of this length. -/
def AddressFits (ip : Bytes) : Prop := 1 ≤ ip.length ∧ ip.length ≤ 1024
  deriving Decidable

/-- The reader accepts a serialized task of this length. -/
def TaskFits (taskBytes : Bytes) : Prop :=
  1 ≤ taskBytes.length ∧ taskBytes.length ≤ 10 * 1024 * 1024
  deriving Decidable

section Header

variable {ip taskBytes : Bytes}

section

variable (address : AddressFits ip)
include address

/-- A header is read back exactly if its task is neither too long nor of no length. -/
theorem readHeader_eq (small : taskBytes.length < 2 ^ 32) (rest : Bytes) :
    readHeader (headerBytes ip taskBytes ++ rest) =
      if TaskFits taskBytes then some ((ip, taskBytes), rest) else none := by
  obtain ⟨ipFilled, ipShort⟩ := address
  have ipLength : leValue (leBytes 4 ip.length) = ip.length := leValue_leBytes (by omega)
  have taskLength : leValue (leBytes 4 taskBytes.length) = taskBytes.length := leValue_leBytes small
  have ipAccepted : ¬(ip.length = 0 ∨ 1024 < ip.length) := by omega
  have taskRefused : (taskBytes.length = 0 ∨ 10 * 1024 * 1024 < taskBytes.length) ↔
      ¬TaskFits taskBytes := by
    unfold TaskFits
    omega
  simp only [readHeader, headerBytes, append_assoc,
    splitBytes_of_length (length_leBytes 4 _), ipLength, taskLength,
    splitBytes_append, Option.bind_eq_bind, Option.bind_some, gt_iff_lt, if_neg ipAccepted,
      taskRefused,
    ite_not]
  rfl

/-- A header is read back. -/
theorem readHeader_header (task : TaskFits taskBytes) (rest : Bytes) :
    readHeader (headerBytes ip taskBytes ++ rest) = some ((ip, taskBytes), rest) := by
  have short := task.2
  rw [readHeader_eq address (by omega), if_pos task]

/-- A header with a length out of bounds is refused. -/
theorem readHeader_unfit (small : taskBytes.length < 2 ^ 32) (unfit : ¬TaskFits taskBytes)
    (rest : Bytes) : readHeader (headerBytes ip taskBytes ++ rest) = none := by
  rw [readHeader_eq address small, if_neg unfit]

end

/-- What follows a header is left. -/
theorem readHeader_extend {rest : Bytes} {fields : Bytes × Bytes}
    (read : readHeader bytes = some (fields, rest)) (more : Bytes) :
    readHeader (bytes ++ more) = some (fields, rest ++ more) := by
  simp only [readHeader, Option.bind_eq_bind, Option.bind_none, Option.bind_eq_some_iff,
    Option.ite_none_left_eq_some] at read ⊢
  obtain ⟨ipLen, readLen, ipAccepted, ip, readIP, taskLen, readTaskLen, taskAccepted, task,
    readTask, whole⟩ := read
  obtain ⟨rfl, rfl⟩ := Prod.mk.inj (Option.some.inj whole)
  exact ⟨_, splitBytes_extend readLen more, ipAccepted, _, splitBytes_extend readIP more, _,
    splitBytes_extend readTaskLen more, taskAccepted, _, splitBytes_extend readTask more, rfl⟩

/-- A header that is cut is refused. -/
theorem readHeader_cut (address : AddressFits ip) (small : taskBytes.length < 2 ^ 32) {cut : Nat}
    (early : cut < (headerBytes ip taskBytes).length) :
    readHeader ((headerBytes ip taskBytes).take cut) = none := by
  cases read : readHeader ((headerBytes ip taskBytes).take cut) with
  | none => rfl
  | some =>
    -- The missing bytes would be left over by the whole header.
    have whole := readHeader_extend read ((headerBytes ip taskBytes).drop cut)
    rw [take_append_drop, ← append_nil (headerBytes ip taskBytes)] at whole
    by_cases fits : TaskFits taskBytes
    · rw [readHeader_header address fits] at whole
      have left := congrArg (fun result => result.2.length) (Option.some.inj whole)
      simp only [append_nil, length_nil, length_append, length_drop] at left
      omega
    · rw [readHeader_unfit address small fits] at whole
      cases whole

end Header

section Metadata

variable {item : QueuedTask}

/-- A number is read back. -/
theorem readI64_front (value : BitVec 64) (rest : Bytes) :
    readI64 (leBytes 8 value.toNat ++ rest) = (value, true) := by
  have front : (leBytes 8 value.toNat ++ rest).take 8 = leBytes 8 value.toNat :=
    take_left' (length_leBytes 8 _)
  have number : leValue (leBytes 8 value.toNat) = value.toNat := leValue_leBytes value.isLt
  rw [readI64, front, number, BitVec.ofNat_toNat, BitVec.setWidth_eq]
  simp

/-- A priority is widened and narrowed again. -/
theorem priority_narrowed (priority : BitVec 32) :
    (priority.signExtend 64).setWidth 32 = priority := by
  ext i inside
  simp [inside, BitVec.getLsbD_signExtend]
  omega

/-- The metadata of an entry is read back. -/
theorem readMetadata_metadata (item : QueuedTask) (rest : Bytes) :
    readMetadata item.task (metadataBytes item ++ rest) = (item, rest) := by
  let flag : UInt8 := if item.canceled then 1 else 0
  have whole : metadataBytes item ++ rest =
      leBytes 8 (item.priority.signExtend 64).toNat ++ (leBytes 8 item.deadlineUnixMs.toNat ++
        (leBytes 8 item.enqueuedUnixMs.toNat ++ flag :: rest)) := by
    simp [metadataBytes, flag]
  have drops (value : Nat) (later : Bytes) : (leBytes 8 value ++ later).drop 8 = later :=
    drop_left' (length_leBytes 8 _)
  have afterPriority : (metadataBytes item ++ rest).drop 8 = leBytes 8 item.deadlineUnixMs.toNat ++
      (leBytes 8 item.enqueuedUnixMs.toNat ++ flag :: rest) := by
    rw [whole, drops]
  have afterDeadline : (metadataBytes item ++ rest).drop 16 =
      leBytes 8 item.enqueuedUnixMs.toNat ++ flag :: rest := by
    rw [show 16 = 8 + 8 from rfl, ← drop_drop, afterPriority, drops]
  have afterEntry : (metadataBytes item ++ rest).drop 24 = flag :: rest := by
    rw [show 24 = 16 + 8 from rfl, ← drop_drop, afterDeadline, drops]
  have canceled : decide (flag ≠ 0) = item.canceled := by
    cases written : item.canceled <;> simp [flag, written]
  unfold readMetadata
  rw [afterPriority, afterDeadline, afterEntry, whole]
  simp only [readI64_front, priority_narrowed, canceled]
  rfl

/-- Metadata that is cut short leaves the flag unset and its bytes in the input. -/
theorem readMetadata_cut (task : TaskDesc) (short : bytes.length < 25) :
    (readMetadata task bytes).1.task = task ∧ (readMetadata task bytes).1.canceled = false ∧
      (readMetadata task bytes).2 = bytes := by
  have ended : bytes.drop 24 = [] := drop_eq_nil_of_le (by omega)
  simp only [readMetadata, ended]
  split_ifs <;> exact ⟨rfl, rfl, rfl⟩

/-- The metadata has 25 bytes. -/
@[simp] theorem length_metadataBytes (item : QueuedTask) : (metadataBytes item).length = 25 := by
  simp [metadataBytes]

/-- A complete entry needs no completion. -/
theorem QueuedTask.Complete.completeItem_eq (complete : item.Complete) (now : ClockMs) :
    completeItem now item = item := by
  unfold completeItem
  rw [if_neg complete.entered]
  congr 1
  · split
    · next zero => rw [zero, complete.priority zero]
    · rfl
  · split
    · next zero => rw [zero, complete.deadline zero]
    · rfl

end Metadata

/-! ## The records of a map -/

/-- The items of one address, in order. -/
def itemsOf (ip : Bytes) (records : List Record) : List QueuedTask :=
  (records.filter (·.1 = ip)).map Prod.snd

/-- The bytes of a record. -/
def writeRecord (codec : TaskCodec) (record : Record) : Bytes :=
  recordBytes record.1 (codec.serialize record.2.task) record.2

/-- The bytes of a list of records. -/
def imageOf (codec : TaskCodec) (records : List Record) : Bytes :=
  records.flatMap (writeRecord codec)

section Records

variable {ip : Bytes} {item : QueuedTask} {tasks : Queues}
  {first second records : List Record}

/-- The entries of two parts. -/
@[simp] theorem itemsOf_append :
    itemsOf ip (first ++ second) = itemsOf ip first ++ itemsOf ip second := by
  simp [itemsOf]

/-- The entries of one record. -/
theorem itemsOf_singleton (record : Record) :
    itemsOf ip [record] = if record.1 = ip then [record.2] else [] := by
  unfold itemsOf
  by_cases own : record.1 = ip
  · simp [own]
  · simp [own]

/-- The entries of a queue. -/
theorem itemsOf_queue (address : Bytes) (queue : List QueuedTask) :
    itemsOf ip (queue.map fun item => (address, item)) = if address = ip then queue else [] := by
  unfold itemsOf
  by_cases own : address = ip
  · simp [own, filter_map, Function.comp_def]
  · simp [own, filter_map, Function.comp_def]

/-- The records of the queues have their entries in order. -/
theorem itemsOf_recordsOf (addresses : (tasks.map Prod.fst).Nodup) (ip : Bytes) :
    itemsOf ip (recordsOf tasks) = queueOf tasks ip := by
  have queues : itemsOf ip (recordsOf tasks) = (tasks.filter (·.1 = ip)).flatMap Prod.snd := by
    unfold itemsOf recordsOf
    rw [filter_flatMap, map_flatMap, ← flatMap_ite_nil]
    simp only [decide_eq_true_eq, ← itemsOf_queue]
    rfl
  rw [queues, queueOf]
  cases found : tasks.lookup ip with
  | none =>
    rw [filter_eq_nil_iff.mpr fun entry mem own => ?_]
    · rfl
    · simpa [of_decide_eq_true own] using lookup_eq_none_iff.mp found entry mem
  | some =>
    rw [filter_eq_singleton addresses (mem_of_lookup found) (decide_eq_true rfl) fun _ _ =>
      of_decide_eq_true]
    exact flatMap_singleton ..

end Records

/-! ## Placing records -/

/-- The records can be those of a sound map. -/
def Storable (records : List Record) : Prop :=
  ∀ ip, itemsOf ip records = [] ∨ QueueSound (itemsOf ip records)

/-- The server holds exactly the records read so far. -/
structure Restored (s : DropState) (records : List Record) : Prop where
  addresses : (s.tasks.map Prod.fst).Nodup
  holds : ∀ ip, queueOf s.tasks ip = itemsOf ip records
  fresh : s.completedAttempts = []

section Placing

variable {s : DropState} {ip other : Bytes} {item : QueuedTask} {queue : List QueuedTask}
  {done later records : List Record} {tasks : Queues}

/-- The records of sound queues can be stored. -/
theorem TasksSound.storable (sound : TasksSound tasks) : Storable (recordsOf tasks) := by
  intro ip
  rw [itemsOf_recordsOf sound.addresses]
  exact sound.queue_cases ip

/-- So can a part of such records. -/
theorem Storable.front (storable : Storable (done ++ later)) : Storable done := by
  intro ip
  have part : (itemsOf ip done).Sublist (itemsOf ip (done ++ later)) := by
    rw [itemsOf_append]
    exact sublist_append_left _ _
  rcases storable ip with empty | sound
  · rw [empty] at part
    exact Or.inl (sublist_nil.mp part)
  · by_cases filled : itemsOf ip done = []
    · exact Or.inl filled
    · exact Or.inr (sound.sublist part filled)

/-- The next record goes behind the queue of its address. -/
theorem Restored.next (restored : Restored s done) (ip : Bytes) (item : QueuedTask) :
    itemsOf ip (done ++ [(ip, item)]) = queueOf s.tasks ip ++ [item] := by
  rw [itemsOf_append, itemsOf_singleton, if_pos rfl, restored.holds]

section

variable (restored : Restored s done) (storable : Storable (done ++ [(ip, item)]))
include restored storable

/-- The queue with the next entry is sound. -/
theorem Restored.sound : QueueSound (queueOf s.tasks ip ++ [item]) := by
  have next := restored.next ip item
  rw [← next]
  refine (storable ip).resolve_left fun empty => ?_
  rw [next] at empty
  simp at empty

/-- The record that follows the records read so far finds room, under a key that is not taken. -/
theorem Restored.room :
    item.Complete ∧ (∀ queued ∈ queueOf s.tasks ip, queued.task.key ≠ item.task.key) ∧
      (queueOf s.tasks ip).length < maxQueueLengthPerAgent := by
  have sound := restored.sound storable
  refine ⟨sound.items item (mem_append_right _ (mem_singleton_self _)), ?_, ?_⟩
  · have keys := sound.keys
    rw [map_append, map_singleton, nodup_append] at keys
    intro queued mem
    exact keys.2.2 _ (mem_map_of_mem mem) _ (mem_singleton_self _)
  · have short := sound.short
    rw [length_append, length_singleton] at short
    omega

end

/-- A new entry is placed at the end and sorted in. -/
theorem placeItem_new (named : item.task.taskID ≠ []) (fresh : s.completedAttempts = [])
    (untaken : ∀ queued ∈ queueOf s.tasks ip, queued.task.key ≠ item.task.key)
    (room : (queueOf s.tasks ip).length < maxQueueLengthPerAgent) :
    placeItem s ip item =
      { s with tasks := upsert s.tasks ip (sortQueue (queueOf s.tasks ip ++ [item])) } := by
  have uncompleted : s.isAttemptCompleted item.task.key = false := by
    rw [DropState.isAttemptCompleted, fresh]
    rfl
  have unique : (queueOf s.tasks ip).any (·.task.key = item.task.key) = false := by
    rw [any_eq_false]
    intro queued mem
    rw [decide_eq_true_eq]
    exact untaken queued mem
  unfold placeItem
  rw [if_neg (by simp [named, uncompleted]), if_neg (by simp [unique]; omega)]

/-- The entry is where it belongs. -/
theorem Restored.place (restored : Restored s done) (storable : Storable (done ++ [(ip, item)])) :
    Restored (placeItem s ip item) (done ++ [(ip, item)]) := by
  obtain ⟨complete, untaken, room⟩ := restored.room storable
  rw [placeItem_new complete.named restored.fresh untaken room,
    show sortQueue _ = _ from Pairwise.insertionSort_eq (restored.sound storable).sorted]
  refine ⟨upsert_nodup restored.addresses ip _, fun other => ?_, restored.fresh⟩
  by_cases own : other = ip
  · rw [own, queueOf_upsert_self restored.addresses, restored.next]
  · rw [queueOf_upsert_of_ne own, restored.holds, itemsOf_append, itemsOf_singleton,
      if_neg (Ne.symm own), append_nil]

end Placing

/-! ## Whole records -/

section Reading

variable {codec : TaskCodec} (clock : Nat → ClockMs) {s : DropState}
  {done records : List Record}

/-- The reader accepts the lengths of a record. -/
def Readable (codec : TaskCodec) (record : Record) : Prop :=
  AddressFits record.1 ∧ TaskFits (codec.serialize record.2.task)

/-- A round of the loop restores a record. -/
theorem restoreLoop_record {ip : Bytes} {item : QueuedTask} (restored : Restored s done)
    (storable : Storable (done ++ [(ip, item)])) (readable : Readable codec (ip, item))
    (rounds : Nat)
    (tail : Bytes) :
    restoreLoop codec clock (rounds + 1) (writeRecord codec (ip, item) ++ tail) s =
      restoreLoop codec clock rounds tail (placeItem s ip item) := by
  obtain ⟨complete, -, -⟩ := restored.room storable
  have header : readHeader (writeRecord codec (ip, item) ++ tail) =
      some ((ip, codec.serialize item.task), metadataBytes item ++ tail) := by
    unfold writeRecord recordBytes
    rw [append_assoc, readHeader_header readable.1 readable.2]
  rw [restoreLoop, header]
  dsimp only
  rw [codec.roundTrip]
  dsimp only
  rw [readMetadata_metadata, complete.completeItem_eq]

/-- The loop ends where no header is read. -/
theorem restoreLoop_stop (stop : readHeader bytes = none) (rounds : Nat) :
    restoreLoop codec clock rounds bytes s = s := by
  cases rounds with
  | zero => rfl
  | succ => rw [restoreLoop, stop]

/-- A record has at least 25 bytes. -/
theorem length_writeRecord (codec : TaskCodec) (record : Record) :
    25 ≤ (writeRecord codec record).length := by
  simp [writeRecord, recordBytes]

/-- Nothing is restored at first. -/
theorem restored_empty : Restored {} [] := ⟨nodup_nil, fun _ => rfl, rfl⟩

/-- All records are read and placed one by one, if there are enough rounds. -/
theorem restoreLoop_records (restored : Restored s done) (storable : Storable (done ++ records))
    (readable : ∀ record ∈ records, Readable codec record) {rounds : Nat}
    (enough : (imageOf codec records).length < rounds) :
    Restored (restoreLoop codec clock rounds (imageOf codec records) s) (done ++ records) := by
  induction records generalizing s done rounds with
  | nil =>
    rw [imageOf, flatMap_nil, restoreLoop_stop clock rfl, append_nil]
    exact restored
  | cons record rest ih =>
    obtain ⟨rounds, rfl⟩ := Nat.exists_eq_add_one_of_ne_zero (Nat.ne_zero_of_lt enough)
    have image : imageOf codec (record :: rest) = writeRecord codec record ++ imageOf codec rest :=
      rfl
    rw [append_cons] at storable ⊢
    rw [image, length_append] at enough
    rw [image, restoreLoop_record clock restored storable.front (readable record mem_cons_self)]
    refine ih (restored.place storable.front) storable (forall_mem_cons.mp readable).2 ?_
    have := length_writeRecord codec record
    omega

end Reading

/-! ## A serialization

A codec that meets the assumption on serializations, for concrete runs: byte strings with a mark
before every byte and one at the end, then the two numbers. -/

/-- A byte string that ends itself. -/
def markBytes : Bytes → Bytes
  | [] => [0]
  | byte :: rest => 1 :: byte :: markBytes rest

/-- The byte string at the front of the input. -/
def unmarkBytes : Bytes → Option (Bytes × Bytes)
  | [] => none
  | [mark] => if mark = 0 then some ([], []) else none
  | mark :: byte :: rest =>
    if mark = 0 then some ([], byte :: rest)
    else (unmarkBytes rest).map fun (text, rest) => (byte :: text, rest)

/-- A marked text is read back. -/
theorem unmarkBytes_mark (text rest : Bytes) :
    unmarkBytes (markBytes text ++ rest) = some (text, rest) := by
  induction text with
  | nil => cases rest <;> rfl
  | cons byte text ih =>
    rw [markBytes, cons_append, cons_append, unmarkBytes, if_neg (by decide), ih]
    rfl

/-- A serialization of tasks that is read back. -/
def markedCodec : TaskCodec where
  serialize task :=
    markBytes task.taskID ++ (markBytes task.resourceBudget ++ (markBytes task.others ++
      (leBytes 8 task.attemptID.toNat ++ (leBytes 8 task.deadlineUnixMs.toNat ++ []))))
  parse bytes := do
    let (taskID, bytes) ← unmarkBytes bytes
    let (resourceBudget, bytes) ← unmarkBytes bytes
    let (others, bytes) ← unmarkBytes bytes
    let (attempt, bytes) ← splitBytes 8 bytes
    let (deadline, bytes) ← splitBytes 8 bytes
    if bytes ≠ [] then none
    some { taskID, resourceBudget, others, attemptID := UInt64.ofNat (leValue attempt),
           deadlineUnixMs := BitVec.ofNat 64 (leValue deadline) }
  roundTrip task := by
    have attempt : leValue (leBytes 8 task.attemptID.toNat) = task.attemptID.toNat :=
      leValue_leBytes task.attemptID.toNat_lt
    have deadline : leValue (leBytes 8 task.deadlineUnixMs.toNat) = task.deadlineUnixMs.toNat :=
      leValue_leBytes task.deadlineUnixMs.isLt
    simp [-append_nil, unmarkBytes_mark, splitBytes_of_length (length_leBytes 8 _),
      attempt, deadline]

/-! ## Whole snapshots -/

/-- A stored queue is not empty. -/
theorem TasksSound.lookup_eq (sound : TasksSound tasks) (ip : Bytes) :
    tasks.lookup ip = if queueOf tasks ip = [] then none else some (queueOf tasks ip) := by
  unfold queueOf
  cases found : tasks.lookup ip with
  | none => rfl
  | some =>
    have filled := (sound.queues _ (mem_of_lookup found)).filled
    rw [Option.getD_some, if_neg filled]

/-- The order of the addresses does not matter. -/
theorem TasksSound.perm {entries : Queues} (sound : TasksSound tasks)
    (order : entries.Perm tasks) : TasksSound entries where
  addresses := (order.map Prod.fst).nodup_iff.mpr sound.addresses
  queues := fun entry mem => sound.queues entry (order.mem_iff.mp mem)

/-- A snapshot of a reachable state, written in any order of its addresses, gives back the
queues. -/
theorem restore_snapshot (codec : TaskCodec) (clock : Nat → ClockMs) {s : DropState}
    (reachable : Reachable codec s) {entries : Queues}
    (order : entries.Perm s.tasks) (addresses : ∀ entry ∈ entries, AddressFits entry.1)
    (sizes : ∀ entry ∈ entries, ∀ item ∈ entry.2, TaskFits (codec.serialize item.task))
    (ip : Bytes) :
    (restoreTasks codec clock (snapshotTasks codec entries) {}).tasks.lookup ip =
      s.tasks.lookup ip := by
  have sound := (reachable_sound reachable).perm order
  have readable : ∀ record ∈ recordsOf entries, Readable codec record := by
    intro record mem
    obtain ⟨entry, entryIn, recordIn⟩ := mem_flatMap.mp mem
    obtain ⟨item, itemIn, rfl⟩ := mem_map.mp recordIn
    exact ⟨addresses entry entryIn, sizes entry entryIn item itemIn⟩
  have restored : Restored (restoreTasks codec clock (snapshotTasks codec entries) {})
      (recordsOf entries) :=
    restoreLoop_records clock restored_empty sound.storable readable (Nat.lt_succ_self _)
  have rebuilt : TasksSound (restoreTasks codec clock (snapshotTasks codec entries) {}).tasks :=
    restoreLoop_sound codec clock _ _ tasksSound_nil
  calc (restoreTasks codec clock (snapshotTasks codec entries) {}).tasks.lookup ip
      = entries.lookup ip := by
        rw [rebuilt.lookup_eq, sound.lookup_eq, restored.holds, itemsOf_recordsOf sound.addresses]
    _ = s.tasks.lookup ip := lookup_perm (reachable_sound reachable).addresses order

/-- One second after the epoch. -/
def sampleNow : ClockMs := ⟨1000, by decide⟩

/-- Two tasks for one agent, one of them canceled, and one for another agent. -/
def sampleActions : List DropAction :=
  let now := sampleNow
  [.create now now [49] { taskID := [97], attemptID := 1 },
    .create now now [50] { taskID := [98], attemptID := 2, deadlineUnixMs := 5000 },
    .create now now [49] { taskID := [99], attemptID := 3, deadlineUnixMs := 9000 },
    .cancel [49] [97] 1]

/-- The sample queues, restored from a snapshot. -/
theorem restore_sample_snapshot :
    let s := sampleActions.foldl (DropState.act markedCodec) {}
    (s.tasks.lookup [49]).map length = some 2 ∧
      ∀ ip, (restoreTasks markedCodec (fun _ => ⟨7, by decide⟩)
        (snapshotTasks markedCodec s.tasks) {}).tasks.lookup ip = s.tasks.lookup ip :=
  ⟨by decide, restore_snapshot markedCodec _ ⟨sampleActions, rfl⟩ (Perm.refl _)
    (by decide) (by decide)⟩

end MiniDrop.Drop
