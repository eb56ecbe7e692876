import Mathlib.Data.Set.Finite.Lattice
import MiniDrop.Verif.LogicalWindows
/-!
# Windows that are sent again

The rows of a logical window belong to the first accepted batch that carries it. A batch that brings
a new CPU window has a row of its own, and the query then walks all its windows, those that are
repeated included. So each logical window counts once exactly when no batch brings new and repeated
CPU windows together.
-/
namespace MiniDrop

open Base List

variable {other : ContinuousStoredBatch}

/-- A window gets a CPU row at ingest. -/
def carriesCPU (window : ContinuousWindowIngest) : Bool :=
  (continuousWindowSignalRowsV3 window).any fun row => row.signalType = "cpu_profile"

/-- The identifiers of the windows of a batch that get a CPU row. -/
def cpuIDs (batch : ContinuousStoredBatch) : List String :=
  (batch.windows.filter carriesCPU).map (·.windowID)

/-- The identifiers of the windows of a batch with CPU samples. -/
def sampledIDs (batch : ContinuousStoredBatch) : List String :=
  (batch.windows.filter fun window => decide (0 < cpuWeight window)).map (·.windowID)

/-- A batch that brings a CPU window not seen before brings only such windows, as far as they have
samples, and none of them twice. -/
def BringsOnlyNew (seen : List String) (batch : ContinuousStoredBatch) : Prop :=
  (∃ windowID ∈ cpuIDs batch, windowID ∉ seen) →
    (sampledIDs batch).Nodup ∧ ∀ windowID ∈ sampledIDs batch, windowID ∉ seen

/-- No batch mixes new and repeated CPU windows. -/
def ResendsApart : List String → List ContinuousStoredBatch → Prop
  | _, [] => True
  | seen, batch :: rest => BringsOnlyNew seen batch ∧ ResendsApart (seen ++ cpuIDs batch) rest

theorem resendsApart_iff (seen : List String) (batches : List ContinuousStoredBatch) :
    ResendsApart seen batches ↔ ∀ before batch after, batches = before ++ batch :: after →
      BringsOnlyNew (seen ++ before.flatMap cpuIDs) batch := by
  induction batches generalizing seen with
  | nil =>
    refine ⟨fun _ before batch after split => ?_, fun _ => trivial⟩
    simp at split
  | cons first rest ih =>
    rw [ResendsApart, ih]
    constructor
    · rintro ⟨here, there⟩ before batch after split
      cases before with
      | nil =>
        obtain ⟨rfl, rfl⟩ := cons.inj split
        simpa using here
      | cons head before =>
        obtain ⟨rfl, tail⟩ := cons.inj split
        simpa using there before batch after tail
    · intro all
      refine ⟨by simpa using all [] first rest rfl, fun before batch after split => ?_⟩
      simpa using all (first :: before) batch after (by rw [split, cons_append])

section First

/-- The row of a logical window belongs to the first batch that carries it. -/
def FirstInv (history : IngestHistory) : Prop :=
  ∀ row ∈ history.windows, row.windowID ≠ "" →
    ∃ before batch after, history.accepted = before ++ batch :: after ∧
      batch.batchID = row.batchBID ∧
      ∀ earlier ∈ before, earlier.sessionSID = row.sessionSID →
        continuousSchemaVersionV3 ≤ earlier.schemaVersion →
        ∀ input ∈ earlier.windows, ProperTimes input →
          ∀ signal ∈ continuousWindowSignalRowsV3 input,
            ¬(input.windowID = row.windowID ∧ signal.signalType = row.signalType)

theorem firstInv_receive {history : IngestHistory} (base : HistoryInv history)
    (inv : FirstInv history) (call : IngestCall) : FirstInv (history.receive call) := by
  rcases receive_cases history call with same | ⟨completed, -, ⟨-, same⟩ | ⟨t, accepts, same⟩⟩
  · rw [same]
    exact inv
  · rw [same]
    exact inv
  · rw [same]
    intro row mem named
    by_cases old : row ∈ history.windows
    · obtain ⟨before, batch, after, split, id, first⟩ := inv row old named
      exact ⟨before, batch, after ++ [completed.payload], by simp [split], id, first⟩
    · have rowOf := (accepts.inserted.rows row mem).resolve_left old
      obtain ⟨written, -, -, signal, -, key, rfl⟩ := rowOf
      refine ⟨history.accepted, completed.payload, [], rfl, rfl, ?_⟩
      rintro earlier accepted session version input carried proper entry listed ⟨window, type⟩
      -- The earlier window has its row already, and the tables hold no second one.
      obtain ⟨known, stored, knownSession, knownWindow, knownType⟩ :=
        base.complete earlier accepted version input carried proper entry listed
      obtain ⟨added, next, frame⟩ := accepts.inserted.frame
      have unique := accepts.inserted.unique base.logical
      rw [frame] at unique mem
      have new := (mem_append.mp mem).resolve_left old
      refine (pairwise_append.mp unique).2.2 known stored _ new ⟨?_, ?_, ?_, ?_⟩
      · rw [knownWindow, window]
        exact named
      · rw [knownWindow, window]
      · rw [knownSession, session]
      · rw [knownType, type]

/-- **Every history keeps the rows with the first batches.** -/
theorem firstInv_ingestHistory (sessions : List ContinuousSession) (calls : List IngestCall) :
    FirstInv (ingestHistory sessions calls) := by
  refine (foldlRecOn (motive := fun history => HistoryInv history ∧ FirstInv history) calls _
    ⟨historyInv_ingestHistory sessions [], forall_mem_nil _⟩ fun history inv call _ => ?_).2
  exact ⟨historyInv_receive inv.1 call, firstInv_receive inv.1 inv.2 call⟩

end First

/-- The accepted windows of a session are as the agent sends them: of version three or four, without
a signal type of their own, their CPU profiles without identifier; and a window identifier always
comes with the same window. -/
structure AgentWindows (history : IngestHistory) (sid : String) : Prop where
  version : ∀ batch ∈ history.accepted, batch.sessionSID = sid →
    continuousSchemaVersionV3 ≤ batch.schemaVersion
  untyped : ∀ window ∈ carriedWindows history sid, window.signalType = ""
  unnamed : ∀ window ∈ carriedWindows history sid, Unnamed (cpuQuery [sid]) window
  identical : IdenticalResends history sid

/-- A history as every run leaves it, with the windows of a session as the agent sends them. -/
structure Sent (history : IngestHistory) (sid : String) : Prop where
  base : HistoryInv history
  named : ∀ batch ∈ history.accepted, batch.batchID ≠ ""
  first : FirstInv history
  agent : AgentWindows history sid
  proper : ∀ window ∈ carriedWindows history sid, ProperTimes window ∧ window.windowID ≠ ""

/-- A batch has a CPU row for a window. -/
def HasCPURow (history : IngestHistory) (batch : ContinuousStoredBatch) (windowID : String) :
    Prop :=
  ∃ row ∈ history.windows, row.batchBID = batch.batchID ∧ row.signalType = "cpu_profile" ∧
    row.windowID = windowID

/-- A batch that has a CPU row has one for each of its windows with CPU samples, and carries no such
window twice. -/
def OwnsCPUWindows (history : IngestHistory) (batch : ContinuousStoredBatch) : Prop :=
  (∃ windowID, HasCPURow history batch windowID) →
    (sampledIDs batch).Nodup ∧ ∀ windowID ∈ sampledIDs batch, HasCPURow history batch windowID

section Owners

variable {history : IngestHistory} {sid : String} {batch : ContinuousStoredBatch}
  {windowID : String}

theorem mem_carriedWindows {window : ContinuousWindowIngest} : window ∈ carriedWindows history sid ↔
      ∃ batch ∈ history.accepted, batch.sessionSID = sid ∧ window ∈ batch.windows := by
  simp [carriedWindows, and_assoc]

theorem mem_cpuIDs : windowID ∈ cpuIDs batch ↔
    ∃ window ∈ batch.windows, window.windowID = windowID ∧
      ∃ signal ∈ continuousWindowSignalRowsV3 window, signal.signalType = "cpu_profile" := by
  simp only [cpuIDs, carriesCPU, mem_map, mem_filter, any_eq_true, decide_eq_true_eq, and_assoc]
  exact exists_congr fun window => and_congr_right fun _ => and_comm

theorem mem_sampledIDs : windowID ∈ sampledIDs batch ↔
    ∃ window ∈ batch.windows, 0 < cpuWeight window ∧ window.windowID = windowID := by
  simp [sampledIDs, and_assoc]

theorem sampledIDs_subset (agent : AgentWindows history sid) (accepted : batch ∈ history.accepted)
    (session : batch.sessionSID = sid) (sampled : windowID ∈ sampledIDs batch) :
    windowID ∈ cpuIDs batch := by
  obtain ⟨window, carried, positive, rfl⟩ := mem_sampledIDs.mp sampled
  have untyped := agent.untyped window (mem_carriedWindows.mpr ⟨batch, accepted, session, carried⟩)
  exact mem_cpuIDs.mpr ⟨window, carried, rfl, cpuRow_listed untyped positive⟩

variable {row : ProfileWindow} {before after : List ContinuousStoredBatch}

/-- A CPU row of the session comes from a window of an accepted batch. -/
theorem cpuRow_home (sent : Sent history sid) (stored : row ∈ history.windows)
    (session : row.sessionSID = sid) (type : row.signalType = "cpu_profile") :
    ∃ batch ∈ history.accepted, batch.sessionSID = sid ∧ batch.batchID = row.batchBID ∧
      row.windowID ∈ cpuIDs batch ∧ ∃ input ∈ batch.windows,
        input.windowID = row.windowID ∧ input.windowStart = row.windowStart := by
  obtain ⟨ctx, req, accepted, input, carried, -, signal, listed, id, rfl⟩ :=
    sent.base.rows row stored
  have version : req.isV3 = true := decide_eq_true (sent.agent.version req.payload accepted session)
  rw [ingestSignalRows, if_pos version] at listed
  exact ⟨req.payload, accepted, session, rfl,
    mem_cpuIDs.mpr ⟨input, carried, rfl, signal, listed, type⟩, input, carried, rfl, rfl⟩

theorem accepted_inj (base : HistoryInv history) (accepted : batch ∈ history.accepted)
    (otherAccepted : other ∈ history.accepted) (same : batch.batchID = other.batchID) :
    batch = other :=
  inj_on_of_nodup_map base.distinct accepted otherAccepted same

theorem row_session (base : HistoryInv history) (accepted : batch ∈ history.accepted)
    (stored : row ∈ history.windows)
    (id : row.batchBID = batch.batchID) : row.sessionSID = batch.sessionSID := by
  obtain ⟨ctx, req, home, input, -, -, signal, -, key, rfl⟩ := base.rows row stored
  rw [← accepted_inj base home accepted id]
  rfl

variable (sent : Sent history sid)
include sent

theorem cpuIDs_logical (accepted : batch ∈ history.accepted) (session : batch.sessionSID = sid)
    (carried : windowID ∈ cpuIDs batch) :
    ∃ row ∈ history.windows, row.sessionSID = sid ∧ row.windowID = windowID ∧
      row.signalType = "cpu_profile" := by
  obtain ⟨window, inBatch, rfl, signal, listed, type⟩ := mem_cpuIDs.mp carried
  have times := (sent.proper window (mem_carriedWindows.mpr ⟨batch, accepted, session, inBatch⟩)).1
  have logical := sent.base.complete batch accepted (sent.agent.version batch accepted session)
    window inBatch times signal listed
  rw [session, type] at logical
  exact logical

section

variable (split : history.accepted = before ++ batch :: after)
include split

/-- No batch before the one of a CPU row carries the window of the row. -/
theorem not_carried_before (stored : row ∈ history.windows)
    (id : batch.batchID = row.batchBID) (session : row.sessionSID = sid)
    (type : row.signalType = "cpu_profile")
    {earlier : ContinuousStoredBatch} (mem : earlier ∈ before)
    (earlierSession : earlier.sessionSID = sid) : row.windowID ∉ cpuIDs earlier := by
  intro carried
  obtain ⟨input, inBatch, window, signal, listed, signalType⟩ := mem_cpuIDs.mp carried
  have accepted : earlier ∈ history.accepted := by
    rw [split]
    exact mem_append_left _ mem
  obtain ⟨times, named⟩ :=
    sent.proper input (mem_carriedWindows.mpr ⟨earlier, accepted, earlierSession, inBatch⟩)
  obtain ⟨firstBefore, home, firstAfter, firstSplit, homeID, none⟩ :=
    sent.first row stored (window ▸ named)
  have same : batch = home := by
    apply accepted_inj sent.base (by simp [split]) (by simp [firstSplit])
    rw [id, homeID]
  subst same
  have once : history.accepted.Nodup := List.Nodup.of_map _ sent.base.distinct
  rw [firstSplit, nodup_append] at once
  have notBefore : batch ∉ firstBefore := fun twice =>
    once.2.2 batch twice batch mem_cons_self rfl
  have notAfter : batch ∉ firstAfter := (nodup_cons.mp once.2.1).1
  have equal : firstBefore = before :=
    ((append_cons_inj_of_notMem notBefore notAfter).mp (firstSplit.symm.trans split)).1
  refine none earlier (equal ▸ mem) (earlierSession.trans session.symm)
    (sent.agent.version earlier accepted earlierSession) input inBatch times signal listed
    ⟨window, ?_⟩
  rw [signalType, type]

/-- **A batch has the CPU rows of the windows that it carries first.** -/
theorem hasCPURow_iff (session : batch.sessionSID = sid) :
    HasCPURow history batch windowID ↔ windowID ∈ cpuIDs batch ∧
      windowID ∉ (before.filter fun earlier => earlier.sessionSID = sid).flatMap cpuIDs := by
  have accepted : batch ∈ history.accepted := by simp [split]
  constructor
  · rintro ⟨row, stored, id, type, rfl⟩
    have rowSession : row.sessionSID = sid :=
      (row_session sent.base accepted stored id).trans session
    obtain ⟨home, homeAccepted, -, homeID, carried, -⟩ :=
      cpuRow_home sent stored rowSession type
    rw [accepted_inj sent.base homeAccepted accepted (homeID.trans id)] at carried
    refine ⟨carried, fun repeated => ?_⟩
    obtain ⟨earlier, mem, again⟩ := mem_flatMap.mp repeated
    obtain ⟨mem, earlierSession⟩ := mem_filter.mp mem
    exact not_carried_before sent split stored id.symm rowSession type mem
      (of_decide_eq_true earlierSession) again
  · rintro ⟨carried, new⟩
    obtain ⟨row, stored, rowSession, rfl, type⟩ := cpuIDs_logical sent accepted session carried
    obtain ⟨home, homeAccepted, homeSession, homeID, homeCarried, -⟩ :=
      cpuRow_home sent stored rowSession type
    have same : home = batch := by
      rw [split] at homeAccepted
      rcases mem_append.mp homeAccepted with earlier | here
      · have listed : home ∈ before.filter fun earlier => earlier.sessionSID = sid :=
          mem_filter.mpr ⟨earlier, decide_eq_true homeSession⟩
        exact absurd (mem_flatMap.mpr ⟨home, listed, homeCarried⟩) new
      · rcases mem_cons.mp here with same | later
        · exact same
        · -- The batch stands before the one that has the row.
          obtain ⟨between, rest, rfl⟩ := append_of_mem later
          have homeSplit : history.accepted = (before ++ batch :: between) ++ home :: rest := by
            simp [split]
          exact absurd carried (not_carried_before sent homeSplit stored homeID
            rowSession type (by simp) session)
    exact ⟨row, stored, by rw [← homeID, same], type, rfl⟩

/-- Owning the rows of its windows means, for a batch, to bring only new ones. -/
theorem ownsCPUWindows_iff (session : batch.sessionSID = sid) : OwnsCPUWindows history batch ↔
      BringsOnlyNew ((before.filter fun earlier => earlier.sessionSID = sid).flatMap cpuIDs)
        batch := by
  have accepted : batch ∈ history.accepted := by simp [split]
  unfold OwnsCPUWindows BringsOnlyNew
  simp only [hasCPURow_iff sent split session]
  refine imp_congr_right fun _ => and_congr_right fun _ => forall₂_congr fun windowID sampled => ?_
  exact and_iff_right (sampledIDs_subset sent.agent accepted session sampled)

end

theorem resendsApart_iff_owns :
    ResendsApart [] (history.accepted.filter fun batch => batch.sessionSID = sid) ↔
      ∀ batch ∈ history.accepted, batch.sessionSID = sid → OwnsCPUWindows history batch := by
  rw [resendsApart_iff]
  constructor
  · intro apart batch accepted session
    obtain ⟨before, after, split⟩ := append_of_mem accepted
    rw [ownsCPUWindows_iff sent split session]
    refine apart _ batch (after.filter fun batch => batch.sessionSID = sid) ?_
    rw [split, filter_append, filter_cons, if_pos (decide_eq_true session)]
  · intro owns before batch after split
    obtain ⟨front, rest, accepted, rfl, tail⟩ := filter_eq_append_iff.mp split
    obtain ⟨skipped, back, rfl, none, session, rfl⟩ := filter_eq_cons_iff.mp tail
    have whole : history.accepted = (front ++ skipped) ++ batch :: back := by simp [accepted]
    have empty : (skipped.filter fun batch => batch.sessionSID = sid) = [] :=
      filter_eq_nil_iff.mpr none
    have owned := owns batch (by simp [whole]) (of_decide_eq_true session)
    rw [ownsCPUWindows_iff sent whole (of_decide_eq_true session),
      filter_append, empty, append_nil] at owned
    exact owned

end Owners

section Counting

variable {sessions : List ContinuousSession} {history : IngestHistory} {sid : String}
  {fromTime toTime : Int} {selected : List ContinuousStoredBatch}

variable {window : ContinuousWindowIngest} {batch : ContinuousStoredBatch}

/-- A window with samples is carried by a batch that has a CPU row for it, at its start. -/
theorem sampled_home (sent : Sent history sid) (carried : window ∈ carriedWindows history sid)
    (positive : 0 < cpuWeight window) :
    ∃ home ∈ history.accepted, home.sessionSID = sid ∧ window ∈ home.windows ∧
      ∃ row ∈ history.windows, row.batchBID = home.batchID ∧ row.sessionSID = sid ∧
        row.signalType = "cpu_profile" ∧ row.windowID = window.windowID ∧
        row.windowStart = window.windowStart := by
  obtain ⟨batch, accepted, session, inBatch⟩ := mem_carriedWindows.mp carried
  have listed : window.windowID ∈ cpuIDs batch := sampledIDs_subset sent.agent accepted session
    (mem_sampledIDs.mpr ⟨window, inBatch, positive, rfl⟩)
  obtain ⟨row, stored, rowSession, sameID, type⟩ := cpuIDs_logical sent accepted session listed
  obtain ⟨home, homeAccepted, homeSession, homeID, -, input, inHome, inputID, start⟩ :=
    cpuRow_home sent stored rowSession type
  have same : input = window := by
    apply sent.agent.identical input
      (mem_carriedWindows.mpr ⟨home, homeAccepted, homeSession, inHome⟩) window carried
    rw [inputID, sameID]
  subst same
  exact ⟨home, homeAccepted, homeSession, inHome, row, stored, homeID.symm, rowSession, type,
    inputID.symm, start.symm⟩

/-- The batches that a query of the session walks. -/
def Selects (history : IngestHistory) (sid : String) (fromTime toTime : Int)
    (selected : List ContinuousStoredBatch) : Prop :=
  ∀ batch, batch ∈ selected ↔ batch ∈ history.accepted ∧
    ∃ row ∈ v1QueryRows (cpuQuery [sid]) fromTime toTime history.windows,
      row.batchBID = batch.batchID

theorem selected_owned (base : HistoryInv history)
    (selects : Selects history sid fromTime toTime selected) (mem : batch ∈ selected) :
    batch ∈ history.accepted ∧ batch.sessionSID = sid ∧
      ∃ windowID, HasCPURow history batch windowID := by
  obtain ⟨accepted, row, inRows, id⟩ := (selects batch).mp mem
  obtain ⟨stored, session, type, -, -⟩ := mem_cpuQueryRows.mp inRows
  have sameSession := row_session base accepted stored id
  exact ⟨accepted, by rw [← sameSession, mem_singleton.mp session], row.windowID, row, stored, id,
    type, rfl⟩

/-- The windows of the walked batches are carried windows of the session. -/
theorem walked_carried (base : HistoryInv history)
    (selects : Selects history sid fromTime toTime selected) :
    ∀ window ∈ selected.flatMap (·.windows), window ∈ carriedWindows history sid := by
  intro window mem
  obtain ⟨batch, inSelected, carried⟩ := mem_flatMap.mp mem
  obtain ⟨accepted, session, -⟩ := selected_owned base selects inSelected
  exact mem_carriedWindows.mpr ⟨batch, accepted, session, carried⟩

/-- Every window with samples that starts in the range is walked, in the batch that has its row. -/
theorem sampled_walked (sent : Sent history sid)
    (selects : Selects history sid fromTime toTime selected)
    (carried : window ∈ carriedWindows history sid)
    (inside : startsIn fromTime toTime window = true) (positive : 0 < cpuWeight window) :
    ∃ home ∈ selected, window ∈ home.windows ∧ HasCPURow history home window.windowID := by
  obtain ⟨home, accepted, -, inHome, row, stored, id, session, type, rowID, start⟩ :=
    sampled_home sent carried positive
  simp only [startsIn, Bool.and_eq_true, decide_eq_true_eq] at inside
  have inRows : row ∈ v1QueryRows (cpuQuery [sid]) fromTime toTime history.windows := by
    refine mem_cpuQueryRows.mpr ⟨stored, mem_singleton.mpr session, type, ?_, ?_⟩
    · rw [start]
      exact inside.1
    · rw [start]
      exact inside.2
  exact ⟨home, (selects home).mpr ⟨accepted, row, inRows, id⟩, inHome, row, stored, id, type, rowID⟩

theorem v1QueryRows_length :
    (v1QueryRows (cpuQuery [sid]) fromTime toTime history.windows).length ≤
      (history.windows.filter fun row => decide (row.sessionSID = sid) &&
        decide (row.signalType = "cpu_profile")).length := by
  unfold v1QueryRows
  rw [(orderBy_perm _ _).length_eq]
  apply List.Sublist.length_le
  apply monotone_filter_right
  intro row test
  simp [cpuQuery, ProfileQuery.signalType] at test
  simp [test]

/-- **One query** gives the logical total exactly when its walk counts no identifier twice. -/
theorem query_total_iff (keys : KeyInv sessions history) (sent : Sent history sid)
    (within : (history.windows.filter fun row => decide (row.sessionSID = sid) &&
      decide (row.signalType = "cpu_profile")).length ≤ continuousMaxWindowCount)
    (fromTime toTime : Int) :
    ∃ selected : List ContinuousStoredBatch, selected.Nodup ∧
      Selects history sid fromTime toTime selected ∧
      ((∃ found agg, aggregateV1WindowsInto (cpuQuery [sid]) fromTime toTime history.windows
          history.load {} = .ok (found, agg) ∧
          agg.total = logicalTotal history sid fromTime toTime) ↔
        (selected.flatMap fun batch => countedIDs fromTime toTime batch.windows).Nodup) := by
  obtain ⟨selected, nodup, selects, walk⟩ := cpuWalk_batches keys sent.base sent.named
  refine ⟨selected, nodup, selects, ?_⟩
  have carried := walked_carried sent.base selects
  have readable : ∀ key ∈ objectOrder (v1QueryRows (cpuQuery [sid]) fromTime toTime
      history.windows), (history.load key).isSome := by
    intro key listed
    obtain ⟨-, row, inRows, rfl⟩ := mem_objectOrder.mp listed
    obtain ⟨batch, accepted, -, -, rowKey⟩ := keys.rows row (mem_cpuQueryRows.mp inRows).1
    rw [rowKey, keys.loads accepted]
    rfl
  obtain ⟨found, agg, run, total, -⟩ := aggregateV1_walk (v1QueryRows_length.trans within) readable
    (fun window mem => sent.agent.unnamed window (carried window (walk ▸ mem))) {}
  rw [walk, walk_weight (fun window mem => (sent.proper window (carried window mem)).1.1)
    (fun window mem => sent.agent.unnamed window (carried window mem)), Nat.zero_add] at total
  have counted : selected.flatMap (fun batch => countedIDs fromTime toTime batch.windows) =
      countedIDs fromTime toTime (selected.flatMap (·.windows)) := by
    simp only [countedIDs, filter_flatMap, map_flatMap]
  rw [counted, ← total_eq_iff_nodup sent.agent.identical carried]
  · constructor
    · rintro ⟨otherFound, other, otherRun, otherTotal⟩
      rw [run] at otherRun
      cases otherRun
      rw [← total, otherTotal]
    · intro same
      exact ⟨found, agg, run, by rw [total, same]⟩
  · intro window mem inside positive
    obtain ⟨home, inSelected, inHome, -⟩ :=
      sampled_walked sent selects mem inside positive
    exact mem_flatMap.mpr ⟨home, inSelected, inHome⟩

theorem hasCPURow_unique (base : HistoryInv history) (accepted : batch ∈ history.accepted)
    (otherAccepted : other ∈ history.accepted) (session : batch.sessionSID = other.sessionSID)
    {windowID : String} (named : windowID ≠ "") (has : HasCPURow history batch windowID)
    (otherHas : HasCPURow history other windowID) : batch = other := by
  obtain ⟨row, stored, id, type, window⟩ := has
  obtain ⟨otherRow, otherStored, otherID, otherType, otherWindow⟩ := otherHas
  have symmetric : Std.Symm fun a b : ProfileWindow => ¬SameLogical a b := by
    constructor
    rintro a b different ⟨present, sameWindow, sameSession, sameType⟩
    exact different ⟨sameWindow ▸ present, sameWindow.symm, sameSession.symm, sameType.symm⟩
  have same : row = otherRow := by
    by_contra different
    refine base.logical.forall stored otherStored different ⟨?_, ?_, ?_, ?_⟩
    · rw [window]
      exact named
    · rw [window, otherWindow]
    · rw [row_session base accepted stored id, session,
        row_session base otherAccepted otherStored otherID]
    · rw [type, otherType]
  apply accepted_inj base accepted otherAccepted
  rw [← id, same, otherID]

/-- The identifiers that a batch counts are identifiers with samples. -/
theorem countedIDs_sublist (fromTime toTime : Int) (batch : ContinuousStoredBatch) :
    (countedIDs fromTime toTime batch.windows).Sublist (sampledIDs batch) := by
  apply List.Sublist.map
  apply monotone_filter_right
  intro window test
  rw [Bool.and_eq_true] at test
  exact test.2

/-- Batches that own the rows of their windows count no identifier twice. -/
theorem counted_nodup_of_owns (sent : Sent history sid)
    (nodup : selected.Nodup) (selects : Selects history sid fromTime toTime selected)
    (owns : ∀ batch ∈ history.accepted, batch.sessionSID = sid → OwnsCPUWindows history batch) :
    (selected.flatMap fun batch => countedIDs fromTime toTime batch.windows).Nodup := by
  have owned : ∀ batch ∈ selected, (sampledIDs batch).Nodup ∧
      ∀ windowID ∈ sampledIDs batch, HasCPURow history batch windowID := by
    intro batch mem
    obtain ⟨accepted, session, some⟩ := selected_owned sent.base selects mem
    exact owns batch accepted session some
  rw [nodup_flatMap]
  refine ⟨fun batch mem => (owned batch mem).1.sublist (countedIDs_sublist _ _ batch), ?_⟩
  apply nodup.pairwise_of_forall_ne
  intro batch mem other otherMember different windowID counted otherCounted
  obtain ⟨accepted, session, -⟩ := selected_owned sent.base selects mem
  obtain ⟨otherAccepted, otherSession, -⟩ := selected_owned sent.base selects otherMember
  have sampled := (countedIDs_sublist _ _ batch).subset counted
  have otherSampled := (countedIDs_sublist _ _ other).subset otherCounted
  obtain ⟨window, carried, -, rfl⟩ := mem_sampledIDs.mp sampled
  have named := (sent.proper window (mem_carriedWindows.mpr ⟨batch, accepted, session, carried⟩)).2
  exact different (hasCPURow_unique sent.base accepted otherAccepted
    (session.trans otherSession.symm) named ((owned batch mem).2 _ sampled)
    ((owned other otherMember).2 _ otherSampled))

/-- When a range that covers all windows counts no identifier twice, the batches own the rows of
their windows. -/
theorem owns_of_counted_nodup (sent : Sent history sid)
    (covers : ∀ window ∈ carriedWindows history sid, startsIn fromTime toTime window = true)
    (selects : Selects history sid fromTime toTime selected)
    (counted : (selected.flatMap fun batch => countedIDs fromTime toTime batch.windows).Nodup) :
    ∀ batch ∈ history.accepted, batch.sessionSID = sid → OwnsCPUWindows history batch := by
  intro batch accepted session some
  obtain ⟨parts, disjoint⟩ := nodup_flatMap.mp counted
  -- In a range that covers the windows, what a batch counts is what it has samples for.
  have whole : ∀ other ∈ history.accepted, other.sessionSID = sid →
      countedIDs fromTime toTime other.windows = sampledIDs other := by
    intro other otherAccepted otherSession
    unfold countedIDs sampledIDs
    congr 1
    apply filter_congr
    intro window carried
    rw [covers window (mem_carriedWindows.mpr ⟨other, otherAccepted, otherSession, carried⟩),
      Bool.true_and]
  have mem : batch ∈ selected := by
    obtain ⟨windowID, row, stored, id, type, -⟩ := some
    have rowSession := (row_session sent.base accepted stored id).trans session
    obtain ⟨home, homeAccepted, homeSession, -, -, input, inHome, -, start⟩ :=
      cpuRow_home sent stored rowSession type
    have inside := covers input (mem_carriedWindows.mpr ⟨home, homeAccepted, homeSession, inHome⟩)
    simp only [startsIn, Bool.and_eq_true, decide_eq_true_eq, start] at inside
    exact (selects batch).mpr ⟨accepted, row,
      mem_cpuQueryRows.mpr ⟨stored, mem_singleton.mpr rowSession, type, inside⟩, id⟩
  refine ⟨whole batch accepted session ▸ parts batch mem, fun windowID sampled => ?_⟩
  obtain ⟨window, inBatch, positive, rfl⟩ := mem_sampledIDs.mp sampled
  have carried := mem_carriedWindows.mpr ⟨batch, accepted, session, inBatch⟩
  obtain ⟨home, inSelected, inHome, has⟩ :=
    sampled_walked sent selects carried (covers window carried) positive
  by_cases same : batch = home
  · rw [same]
    exact has
  · obtain ⟨homeAccepted, homeSession, -⟩ := selected_owned sent.base selects inSelected
    have symmetric : Std.Symm (Function.onFun List.Disjoint fun other : ContinuousStoredBatch =>
        countedIDs fromTime toTime other.windows) := ⟨fun _ _ apart => apart.symm⟩
    have apart : (countedIDs fromTime toTime batch.windows).Disjoint
        (countedIDs fromTime toTime home.windows) := disjoint.forall mem inSelected same
    rw [whole batch accepted session, whole home homeAccepted homeSession] at apart
    exact absurd (mem_sampledIDs.mpr ⟨window, inHome, positive, rfl⟩) (apart sampled)

/-- **Each logical window counts once** in every range of the plain CPU query exactly when no
accepted batch of the session brings new and repeated CPU windows together. -/
theorem logical_windows_counted_once_iff (sessions : List ContinuousSession)
    (calls : List IngestCall) (sid : String)
    (plainSessions : ∀ session ∈ sessions, PlainSID session.sid)
    (keys : ∀ call ∈ calls, DefaultKeys call.2)
    (agent : AgentWindows (ingestHistory sessions calls) sid)
    (within : ((ingestHistory sessions calls).windows.filter fun row =>
      decide (row.sessionSID = sid) && decide (row.signalType = "cpu_profile")).length ≤
        continuousMaxWindowCount) :
    (∀ fromTime toTime, ∃ found agg, aggregateV1WindowsInto (cpuQuery [sid]) fromTime toTime
        (ingestHistory sessions calls).windows
        (ingestHistory sessions calls).load {} = .ok (found, agg) ∧
      agg.total = logicalTotal (ingestHistory sessions calls) sid fromTime toTime) ↔
    ResendsApart [] ((ingestHistory sessions calls).accepted.filter fun batch =>
      batch.sessionSID = sid) := by
  have base := historyInv_ingestHistory sessions calls
  have keyInv := keyInv_ingestHistory plainSessions keys
  have first := firstInv_ingestHistory sessions calls
  have batches := accepted_named sessions calls
  have valid := accepted_v3 sessions calls
  generalize ingestHistory sessions calls = history at *
  have proper : ∀ window ∈ carriedWindows history sid,
      ProperTimes window ∧ window.windowID ≠ "" := by
    intro window mem
    obtain ⟨batch, accepted, session, carried⟩ := mem_carriedWindows.mp mem
    obtain ⟨times, named⟩ :=
      valid batch accepted (agent.version batch accepted session) window carried
    refine ⟨times, fun empty => ?_⟩
    rw [empty] at named
    exact absurd named (by decide)
  have sent : Sent history sid := ⟨base, batches, first, agent, proper⟩
  rw [resendsApart_iff_owns sent]
  constructor
  · intro totals
    have finite := ((carriedWindows history sid).map (·.windowStart)).finite_toSet
    obtain ⟨low, below⟩ := finite.bddBelow
    obtain ⟨high, above⟩ := finite.bddAbove
    obtain ⟨selected, -, selects, total⟩ :=
      query_total_iff keyInv sent within low (high + 1)
    refine owns_of_counted_nodup sent ?_ selects (total.mp (totals low (high + 1)))
    intro window mem
    have inStarts : window.windowStart ∈ (carriedWindows history sid).map (·.windowStart) :=
      mem_map_of_mem mem
    have lower := below inStarts
    have upper := above inStarts
    simp only [startsIn, Bool.and_eq_true, decide_eq_true_eq]
    omega
  · intro owns fromTime toTime
    obtain ⟨selected, nodup, selects, total⟩ :=
      query_total_iff keyInv sent within fromTime toTime
    exact total.mpr (counted_nodup_of_owns sent nodup selects owns)

end Counting

section Sample

theorem innerHistory_agent : AgentWindows innerHistory "cps-1" := by
  refine ⟨by decide +kernel, by decide +kernel, ?_, ?_⟩
  · unfold Unnamed
    decide +kernel
  · unfold IdenticalResends
    decide +kernel

/-- One upload of one window counts once. -/
theorem innerWindow_counted_once :
    (sampleHistory innerCalls).accepted = [innerRequest.payload] ∧
      ∀ fromTime toTime, ∃ found agg, aggregateV1WindowsInto (cpuQuery ["cps-1"]) fromTime toTime
          (sampleHistory innerCalls).windows (sampleHistory innerCalls).load {} = .ok (found, agg) ∧
        agg.total = logicalTotal (sampleHistory innerCalls) "cps-1" fromTime toTime := by
  refine ⟨by rw [innerHistory_eq]; decide +kernel, ?_⟩
  refine (logical_windows_counted_once_iff [sampleSession] innerCalls "cps-1" ?_ ?_ ?_ ?_).mpr ?_
  · unfold PlainSID
    decide
  · unfold DefaultKeys
    decide
  · simp only [innerHistory_eq]
    exact innerHistory_agent
  · simp only [innerHistory_eq]
    decide +kernel
  · have batches : (innerHistory.accepted.filter fun batch => batch.sessionSID = "cps-1") =
        [innerRequest.payload] := by decide +kernel
    simp only [innerHistory_eq, batches]
    exact ⟨fun _ => ⟨by decide +kernel, fun _ _ => not_mem_nil⟩, trivial⟩

/-- A later window of the same hour. -/
def laterWindow : ContinuousWindowIngest :=
  cpuWindow "w2" (sampleHour + 15000) (sampleHour + 25000) 5

/-- The first window is sent again, in a batch with a new one. -/
def resendCalls : List IngestCall :=
  innerCalls ++ [({ now := sampleHour + 60000 },
    sampleRequest "b2" sampleHour (sampleHour + 30000) [innerWindow, laterWindow])]

/-- **A window that is sent again with a new one counts twice**: both batches are accepted and the
windows weigh three and five, yet the query counts eleven. -/
theorem resent_window_counted_twice :
    ((sampleHistory resendCalls).accepted.map fun batch =>
      (batch.batchID, batch.windows)) =
        [("b1", [innerWindow]), ("b2", [innerWindow, laterWindow])] ∧
    logicalTotal (sampleHistory resendCalls) "cps-1" sampleHour (sampleHour + 3600000) = 8 ∧
    (aggregateV1WindowsInto (cpuQuery ["cps-1"]) sampleHour (sampleHour + 3600000)
      (sampleHistory resendCalls).windows
      (sampleHistory resendCalls).load {}).toOption.map
        (fun result => result.2.total) = some 11 := by
  decide +kernel

end Sample

end MiniDrop
