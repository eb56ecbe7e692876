import MiniDrop.Server.Ingest
/-!
# Histories of ingest requests

A history is the store after a list of requests, together with the payloads of the batches that were
accepted. Its window rows are readable when each leads, through its object, to the payload of its
batch.
-/
namespace MiniDrop

open List

variable {inputs : List ContinuousWindowIngest}

/-- A request with the circumstances of its arrival. -/
abbrev IngestCall := IngestContext × ContinuousBatchIngestReq

/-- The store and the payloads of the accepted batches. -/
structure IngestHistory where
  store : Store
  accepted : List ContinuousStoredBatch := []
  deriving DecidableEq

namespace IngestHistory

variable (history : IngestHistory)

/-- The catalog rows of the windows. -/
abbrev windows : List ProfileWindow := history.store.windows

/-- The rows of an hour. -/
abbrev hourRows (hourStart : Int) : List ProfileWindow := hourWindows hourStart history.windows

/-- The batches of an object of the store. -/
abbrev load : Loader := history.store.loadContinuousBatches

/-- The build of an hour from the store. -/
abbrev build (inServiceName : String → String) (hourStart : Int) : RawHourBuild :=
  pqBuildRawHour inServiceName hourStart history.windows history.load history.store.failures

end IngestHistory

/-- The payload of a call that is accepted as a new batch. -/
def acceptedPayload (s : Store) (call : IngestCall) : Option ContinuousStoredBatch :=
  match checkContinuousBatch call.1 s call.2 with
  | .error _ => none
  | .ok req =>
    if (ingestContinuousBatch call.1 s call.2).2 = .ack false then some req.payload else none

/-- One more call. -/
def IngestHistory.receive (history : IngestHistory) (call : IngestCall) : IngestHistory where
  store := (ingestContinuousBatch call.1 history.store call.2).1
  accepted := history.accepted ++ (acceptedPayload history.store call).toList

/-- The history of a list of calls on an empty catalog with the given sessions. -/
def ingestHistory (sessions : List ContinuousSession) (calls : List IngestCall) : IngestHistory :=
  calls.foldl IngestHistory.receive { store := { sessions := sessions } }

/-- Every window row of an accepted batch leads to the payload of the batch. -/
def IngestHistory.Readable (history : IngestHistory) : Prop :=
  ∀ batch ∈ history.accepted, ∀ row ∈ history.windows, row.batchBID = batch.batchID →
    ∃ batches, history.load row.objectKey = some batches ∧
      continuousResolveBatch row batches = some batch

/-- The builds of all hours of a history succeed. -/
def IngestHistory.Built (history : IngestHistory) (inServiceName : String → String) : Prop :=
  ∀ hourStart, Time.truncateHour hourStart = hourStart →
    (history.build inServiceName hourStart).outcome.isOk = true

section Steps

variable {ctx : IngestContext} {req : ContinuousBatchIngestReq}

/-- A window that gets catalog rows. -/
def ProperTimes (input : ContinuousWindowIngest) : Prop :=
  Time.isZero input.windowStart = false ∧ Time.isZero input.windowEnd = false ∧
    input.windowStart < input.windowEnd

/-- A row that the transaction of a request may write. -/
def RowOf (ctx : IngestContext) (req : ContinuousBatchIngestReq) (row : ProfileWindow) : Prop :=
  ∃ input ∈ req.windows, ProperTimes input ∧ ∃ signal ∈ ingestSignalRows req input, ∃ id,
    row = ingestWindowRow ctx req input signal id

/-- Two rows stand for the same logical window and signal. -/
def SameLogical (a b : ProfileWindow) : Prop :=
  a.windowID ≠ "" ∧ a.windowID = b.windowID ∧ a.sessionSID = b.sessionSID ∧
    a.signalType = b.signalType

/-- The window table holds a row for a logical window and signal. -/
def HasLogical (windows : List ProfileWindow) (sessionSID windowID signalType : String) : Prop :=
  ∃ row ∈ windows, row.sessionSID = sessionSID ∧ row.windowID = windowID ∧
    row.signalType = signalType

/-- What inserting rows of a request does to the store: some rows are appended, all of them rows of
the request, none for a logical window that was there. -/
structure Inserted (ctx : IngestContext) (req : ContinuousBatchIngestReq) (s t : Store) :
    Prop where
  /-- Only the window table and the key counter change. -/
  frame : ∃ added next, t = { s with windows := s.windows ++ added, nextID := next }
  /-- The appended rows are rows of the request. -/
  rows : ∀ row ∈ t.windows, row ∈ s.windows ∨ RowOf ctx req row
  /-- No logical window gets a second row. -/
  unique : s.windows.Pairwise (fun a b => ¬SameLogical a b) →
    t.windows.Pairwise fun a b => ¬SameLogical a b

theorem inserted_refl (s : Store) : Inserted ctx req s s :=
  ⟨⟨[], s.nextID, by simp⟩, fun _ mem => .inl mem, id⟩

variable {s t : Store} {row : ProfileWindow} {sessionSID windowID signalType : String}
  {input : ContinuousWindowIngest}

theorem Inserted.trans {u : Store} (first : Inserted ctx req s t)
    (second : Inserted ctx req t u) : Inserted ctx req s u := by
  obtain ⟨added, next, rfl⟩ := first.frame
  obtain ⟨more, later, rfl⟩ := second.frame
  refine ⟨⟨added ++ more, later, by simp⟩, ?_, fun before => second.unique (first.unique before)⟩
  intro row mem
  rcases second.rows row mem with old | fresh
  · exact first.rows row old
  · exact .inr fresh

theorem Inserted.keeps (inserted : Inserted ctx req s t)
    (mem : row ∈ s.windows) : row ∈ t.windows := by
  obtain ⟨added, next, rfl⟩ := inserted.frame
  exact mem_append_left added mem

theorem logicalWindow_some (found : s.logicalWindow sessionSID windowID signalType = some row) :
    HasLogical s.windows sessionSID windowID signalType := by
  unfold Store.logicalWindow at found
  split at found
  · cases found
  · have matched := find?_some found
    simp only [Bool.and_eq_true, decide_eq_true_eq] at matched
    exact ⟨row, mem_of_find?_eq_some found, matched.1.1, matched.1.2, matched.2⟩

/-- When no logical window is found, no row with that identifier is in the table. -/
theorem logicalWindow_none (missing : s.logicalWindow sessionSID windowID signalType = none)
    (named : windowID ≠ "") : ¬HasLogical s.windows sessionSID windowID signalType := by
  rintro ⟨row, mem, session, window, type⟩
  unfold Store.logicalWindow at missing
  rw [if_neg named] at missing
  have refuted := find?_eq_none.mp missing row mem
  simp [session, window, type] at refuted

theorem insertSignalRow_spec {signal : ContinuousSignalRow} (carried : input ∈ req.windows)
    (proper : ProperTimes input) (listed : signal ∈ ingestSignalRows req input)
    (step : insertSignalRow ctx req input s signal = some t) :
    Inserted ctx req s t ∧
      HasLogical t.windows req.sessionSID input.windowID signal.signalType := by
  unfold insertSignalRow at step
  cases found : s.logicalWindow req.sessionSID input.windowID signal.signalType with
  | some =>
    rw [found] at step
    simp only at step
    split at step
    · cases step
      exact ⟨inserted_refl s, logicalWindow_some found⟩
    · cases step
  | none =>
    rw [found] at step
    cases step
    refine ⟨⟨⟨_, _, rfl⟩, ?_, ?_⟩, ?_⟩
    · intro row mem
      rcases mem_append.mp mem with old | new
      · exact .inl old
      · rw [mem_singleton.mp new]
        exact .inr ⟨input, carried, proper, signal, listed, s.nextID, rfl⟩
    · intro before
      refine pairwise_append.mpr ⟨before, pairwise_singleton _ _, ?_⟩
      intro old mem new single same
      rw [mem_singleton.mp single] at same
      obtain ⟨named, window, session, type⟩ := same
      have named : input.windowID ≠ "" := fun empty => named (window.trans empty)
      exact logicalWindow_none found named ⟨old, mem, session, window, type⟩
    · exact ⟨_, mem_append_right _ (mem_singleton_self _), rfl, rfl, rfl⟩

theorem insertSignalRows_spec {signals : List ContinuousSignalRow} (carried : input ∈ req.windows)
    (proper : ProperTimes input) (listed : ∀ signal ∈ signals, signal ∈ ingestSignalRows req input)
    (run : signals.foldlM (insertSignalRow ctx req input) s = some t) :
    Inserted ctx req s t ∧ ∀ signal ∈ signals,
      HasLogical t.windows req.sessionSID input.windowID signal.signalType := by
  induction signals generalizing s with
  | nil =>
    cases run
    exact ⟨inserted_refl _, forall_mem_nil _⟩
  | cons signal rest ih =>
    obtain ⟨middle, step, tail⟩ := Option.bind_eq_some_iff.mp run
    obtain ⟨first, here⟩ :=
      insertSignalRow_spec carried proper (listed signal mem_cons_self) step
    obtain ⟨later, there⟩ :=
      ih (forall_mem_cons.mp listed).2 tail
    refine ⟨first.trans later, fun other mem => ?_⟩
    rcases mem_cons.mp mem with rfl | inRest
    · obtain ⟨row, stored, logical⟩ := here
      exact ⟨row, later.keeps stored, logical⟩
    · exact there other inRest

theorem insertWindows_spec (carried : ∀ input ∈ inputs, input ∈ req.windows)
    (run : inputs.foldlM (insertWindow ctx req) s = some t) :
    Inserted ctx req s t ∧ ∀ input ∈ inputs, ProperTimes input →
      ∀ signal ∈ ingestSignalRows req input,
        HasLogical t.windows req.sessionSID input.windowID signal.signalType := by
  induction inputs generalizing s with
  | nil =>
    cases run
    exact ⟨inserted_refl _, forall_mem_nil _⟩
  | cons input rest ih =>
    obtain ⟨middle, step, tail⟩ := Option.bind_eq_some_iff.mp run
    obtain ⟨later, there⟩ :=
      ih (forall_mem_cons.mp carried).2 tail
    have head : Inserted ctx req s middle ∧ (ProperTimes input →
        ∀ signal ∈ ingestSignalRows req input,
          HasLogical middle.windows req.sessionSID input.windowID signal.signalType) := by
      unfold insertWindow at step
      split at step
      · next improper =>
        cases step
        refine ⟨inserted_refl s, fun proper => ?_⟩
        obtain ⟨start, stop, order⟩ := proper
        simp [start, stop, order] at improper
      · next proper =>
        have proper : ProperTimes input := by
          simp only [not_or, Bool.not_eq_true, not_not] at proper
          exact proper
        obtain ⟨inserted, logical⟩ :=
          insertSignalRows_spec (carried input mem_cons_self) proper (fun _ => id) step
        exact ⟨inserted, fun _ => logical⟩
    refine ⟨head.1.trans later, fun other mem proper signal listed => ?_⟩
    rcases mem_cons.mp mem with rfl | inRest
    · obtain ⟨row, stored, logical⟩ := head.2 proper signal listed
      exact ⟨row, later.keeps stored, logical⟩
    · exact there other inRest proper signal listed

end Steps

section Calls

variable {ctx : IngestContext} {s : Store} {req completed : ContinuousBatchIngestReq}

theorem checkContinuousBatch_ok (passed : checkContinuousBatch ctx s req = .ok completed) :
    ∃ session ∈ s.sessions, session.sid = req.sessionSID ∧
      completed = req.versioned.completed ctx session ∧
      (req.versioned.isV3 = true → validateContinuousV3Batch req.versioned = none) := by
  unfold checkContinuousBatch at passed
  have sid : req.versioned.sessionSID = req.sessionSID := rfl
  rw [← sid]
  generalize req.versioned = versioned at *
  unfold checkVersionedBatch at passed
  -- Every check that fails ends with an error.
  iterate 4 (split at passed; · cases passed)
  next valid =>
  split at passed
  · cases passed
  next session found =>
  iterate 4 (split at passed; · cases passed)
  refine ⟨session, mem_of_find?_eq_some found, by simpa using find?_some found,
    (Except.ok.inj passed).symm, fun version => ?_⟩
  simpa only [version, if_true] using valid

theorem completed_batchID {session : ContinuousSession} :
    (req.completed ctx session).batchID ≠ "" := by
  unfold ContinuousBatchIngestReq.completed
  split
  · intro empty
    have length := congrArg String.length empty
    simp at length
  · assumption

/-- A request that becomes a new batch. -/
structure Accepts (ctx : IngestContext) (req : ContinuousBatchIngestReq) (s t : Store) : Prop where
  /-- The batch identifier is new. -/
  fresh : ∀ batch ∈ s.batches, batch.bid ≠ req.batchID
  /-- The rows written after the batch row. -/
  inserted : Inserted ctx req (insertBatch ctx req s) t
  /-- Every signal of every proper window has a row. -/
  complete : ∀ input ∈ req.windows, ProperTimes input → ∀ signal ∈ ingestSignalRows req input,
    HasLogical t.windows req.sessionSID input.windowID signal.signalType

/-- **What a call can do**: nothing, leave the object of a refused batch, or add a batch. -/
theorem receive_cases (history : IngestHistory) (call : IngestCall) :
    history.receive call = history ∨
      ∃ completed, checkContinuousBatch call.1 history.store call.2 = .ok completed ∧
        ((∀ batch ∈ history.store.batches, batch.bid ≠ completed.batchID) ∧
            history.receive call =
              { history with store := storeContinuousBatchPayload call.1 completed history.store } ∨
          ∃ t, Accepts call.1 completed history.store t ∧
            history.receive call = ⟨t, history.accepted ++ [completed.payload]⟩) := by
  obtain ⟨s, accepted⟩ := history
  obtain ⟨ctx, req⟩ := call
  unfold IngestHistory.receive acceptedPayload
  cases checked : checkContinuousBatch ctx s req with
  | error => exact .inl (by simp [ingestContinuousBatch, checked])
  | ok completed =>
    cases known : s.batches.find? fun batch => batch.bid = completed.batchID with
    | some existing =>
      have refused : replyToKnownBatch existing completed ≠ .ack false := by
        simp only [replyToKnownBatch]
        split_ifs <;> simp
      exact .inl (by simp [ingestContinuousBatch, checked, known, refused])
    | none =>
      have fresh : ∀ batch ∈ s.batches, batch.bid ≠ completed.batchID := by
        intro batch mem same
        have refuted := find?_eq_none.mp known batch mem
        simp [same] at refuted
      have stores : ingestContinuousBatch ctx s req = storeContinuousBatch ctx completed s := by
        simp only [ingestContinuousBatch, checked, known]
      rw [stores]
      unfold storeContinuousBatch
      split
      · cases run : completed.windows.foldlM (insertWindow ctx completed)
            (insertBatch ctx completed s) with
        | some done =>
          obtain ⟨inserted, complete⟩ := insertWindows_spec (fun _ => id) run
          exact .inr ⟨completed, rfl, .inr ⟨done, ⟨fresh, inserted, complete⟩, by simp⟩⟩
        | none => exact .inr ⟨completed, rfl, .inl ⟨fresh, by simp⟩⟩
      · exact .inl (by simp)

end Calls

section Runs

/-- What every history satisfies. -/
structure HistoryInv (history : IngestHistory) : Prop where
  /-- The batch rows are those of the accepted payloads, in order. -/
  ids : history.store.batches.map (·.bid) = history.accepted.map (·.batchID)
  /-- No batch identifier is accepted twice. -/
  distinct : (history.accepted.map (·.batchID)).Nodup
  /-- Every window row was written for a window of an accepted payload. -/
  rows : ∀ row ∈ history.windows,
    ∃ ctx req, ContinuousBatchIngestReq.payload req ∈ history.accepted ∧ RowOf ctx req row
  /-- A logical window has at most one row for a signal. -/
  logical : history.windows.Pairwise fun a b => ¬SameLogical a b
  /-- From version three on, every signal of every proper window has a row. -/
  complete : ∀ batch ∈ history.accepted, continuousSchemaVersionV3 ≤ batch.schemaVersion →
    ∀ input ∈ batch.windows, ProperTimes input →
      ∀ signal ∈ continuousWindowSignalRowsV3 input,
        HasLogical history.windows batch.sessionSID input.windowID signal.signalType
  /-- Ingest registers no migration failure. -/
  failures : history.store.failures = []

variable {s t : Store} {call : IngestCall} {history : IngestHistory}
  {req : ContinuousBatchIngestReq}

theorem historyInv_accepts {ctx : IngestContext} (inv : HistoryInv history)
    (accepts : Accepts ctx req history.store t) :
    HistoryInv ⟨t, history.accepted ++ [req.payload]⟩ := by
  have batches : t.batches = history.store.batches ++ [ingestBatchRow ctx req
      history.store.nextID] := by
    obtain ⟨added, next, rfl⟩ := accepts.inserted.frame
    rfl
  have failures : t.failures = history.store.failures := by
    obtain ⟨added, next, rfl⟩ := accepts.inserted.frame
    rfl
  refine ⟨?_, ?_, ?_, accepts.inserted.unique inv.logical, ?_, failures.trans inv.failures⟩
  · simp only [batches, map_append, inv.ids]
    rfl
  · rw [map_append, nodup_append]
    refine ⟨inv.distinct, nodup_singleton _, ?_⟩
    intro old mem new single same
    rw [← inv.ids] at mem
    obtain ⟨batch, stored, rfl⟩ := mem_map.mp mem
    have added : new = req.batchID := mem_singleton.mp single
    exact accepts.fresh batch stored (same.trans added)
  · intro row mem
    rcases accepts.inserted.rows row mem with old | fresh
    · obtain ⟨oldCtx, oldReq, accepted, rowOf⟩ := inv.rows row old
      exact ⟨oldCtx, oldReq, mem_append_left _ accepted, rowOf⟩
    · exact ⟨ctx, req, mem_append_right _ (mem_singleton_self _), fresh⟩
  · intro batch mem version input carried proper signal listed
    rcases mem_append.mp mem with old | new
    · obtain ⟨row, stored, logical⟩ :=
        inv.complete batch old version input carried proper signal listed
      exact ⟨row, accepts.inserted.keeps stored, logical⟩
    · cases mem_singleton.mp new
      have isV3 : req.isV3 = true := decide_eq_true version
      refine accepts.complete input carried proper signal ?_
      rw [ingestSignalRows, if_pos isV3]
      exact listed

theorem historyInv_receive (inv : HistoryInv history)
    (call : IngestCall) : HistoryInv (history.receive call) := by
  rcases receive_cases history call with same | ⟨completed, -, ⟨-, same⟩ | ⟨t, accepts, same⟩⟩
  · rw [same]
    exact inv
  · -- An object that is left behind does not touch the tables.
    rw [same]
    exact ⟨inv.ids, inv.distinct, inv.rows, inv.logical, inv.complete, inv.failures⟩
  · rw [same]
    exact historyInv_accepts inv accepts

section

variable (sessions : List ContinuousSession) (calls : List IngestCall)
include sessions calls

/-- **Every history satisfies the invariant.** -/
theorem historyInv_ingestHistory : HistoryInv (ingestHistory sessions calls) := by
  refine foldlRecOn calls _ ?_ fun history inv call _ => historyInv_receive inv call
  exact ⟨rfl, nodup_nil, forall_mem_nil _, List.Pairwise.nil, forall_mem_nil _, rfl⟩

/-- What holds of every request that passes the checks holds of every accepted payload. -/
theorem accepted_forall {P : ContinuousStoredBatch → Prop}
    (each : ∀ call ∈ calls, ∀ s completed, checkContinuousBatch call.1 s call.2 = .ok completed →
      P completed.payload) : ∀ batch ∈ (ingestHistory sessions calls).accepted, P batch := by
  refine foldlRecOn (motive := fun history : IngestHistory => ∀ batch ∈ history.accepted, P batch)
    calls _ (forall_mem_nil _) fun history before call listed => ?_
  rcases receive_cases history call with same | ⟨completed, passed, ⟨-, same⟩ | ⟨t, -, same⟩⟩
  · rw [same]
    exact before
  · rw [same]
    exact before
  · rw [same]
    exact forall_mem_append.mpr ⟨before, forall_mem_singleton.mpr (each call listed _ _ passed)⟩

theorem accepted_named : ∀ batch ∈ (ingestHistory sessions calls).accepted, batch.batchID ≠ "" := by
  apply accepted_forall
  intro call _ s completed passed
  obtain ⟨session, -, -, rfl, -⟩ := checkContinuousBatch_ok passed
  show (call.2.versioned.completed call.1 session).batchID ≠ ""
  exact completed_batchID

end

theorem validateV3Windows_none {index : Nat} (valid : validateV3Windows req index inputs = none) :
    ∀ input ∈ inputs, ProperTimes input ∧ blank input.windowID = false := by
  induction inputs generalizing index with
  | nil => exact forall_mem_nil _
  | cons first rest ih =>
    obtain ⟨here, there⟩ := Option.or_eq_none_iff.mp valid
    intro input mem
    rcases mem_cons.mp mem with rfl | inRest
    · unfold validateV3Window at here
      split at here
      · cases here
      next proper =>
      split at here
      · cases here
      split at here
      · cases here
      next named =>
      simp only [not_or, Bool.not_eq_true, not_not] at proper named
      exact ⟨proper, named.1⟩
    · exact ih there input inRest

/-- From version three on, accepted windows have proper times and an identifier. -/
theorem accepted_v3 (sessions : List ContinuousSession) (calls : List IngestCall) :
    ∀ batch ∈ (ingestHistory sessions calls).accepted,
      continuousSchemaVersionV3 ≤ batch.schemaVersion →
      ∀ input ∈ batch.windows, ProperTimes input ∧ blank input.windowID = false := by
  apply accepted_forall
  intro call _ s completed passed version
  obtain ⟨session, -, -, rfl, valid⟩ := checkContinuousBatch_ok passed
  have checked := valid (decide_eq_true version)
  unfold validateContinuousV3Batch at checked
  iterate 6 (split at checked; · cases checked)
  exact validateV3Windows_none checked

end Runs

/-- Every row of a readable history leads to the payload of its batch. -/
theorem row_payload {history : IngestHistory} (inv : HistoryInv history)
    (readable : history.Readable) {row : ProfileWindow} (stored : row ∈ history.windows) :
    ∃ batch ∈ history.accepted, batch.batchID = row.batchBID ∧ batch.sessionSID = row.sessionSID ∧
      ∃ batches, history.load row.objectKey = some batches ∧
        continuousResolveBatch row batches = some batch := by
  obtain ⟨ctx, req, accepted, input, -, -, signal, -, id, rfl⟩ := inv.rows row stored
  exact ⟨req.payload, accepted, rfl, rfl, readable _ accepted _ stored rfl⟩

section Sample

/-- A well-formed digest. -/
def sampleDigest (c : Char) : String := String.ofList (replicate 64 c)

/-- A v4 window with one CPU stack of the given weight. -/
def cpuWindow (windowID : String) (start stop : Int) (count : Nat) : ContinuousWindowIngest where
  windowStart := start
  windowEnd := stop
  windowID := windowID
  targetFingerprint := "host"
  contentSHA256 := sampleDigest 'a'
  samples := [{ stack := ["main"], count := count, pid := 7 }]
  signalStatuses := [("cpu_profile", { status := "collected" })]

/-- A v4 request of one session, as the agent sends it. -/
def sampleRequest (batchID : String) (start stop : Int) (windows : List ContinuousWindowIngest) :
    ContinuousBatchIngestReq where
  sessionSID := "cps-1"
  batchID := batchID
  startTime := start
  endTime := stop
  schemaVersion := 4
  collectorGeneration := "gen"
  batchSequence := 1
  contentSHA256 := sampleDigest 'b'
  windows := windows

/-- The session of the sample requests. -/
def sampleSession : ContinuousSession where
  sid := "cps-1"
  targetIP := "10.0.0.1"
  signals := continuousAllSignals

/-- The history of calls for that session. -/
abbrev sampleHistory (calls : List IngestCall) : IngestHistory :=
  ingestHistory [sampleSession] calls

/-- Midnight of the first of January 2026. -/
def sampleHour : Int := 1767225600000

/-- A window in the middle of an hour. -/
def innerWindow : ContinuousWindowIngest :=
  cpuWindow "w1" (sampleHour + 5000) (sampleHour + 15000) 3

/-- One batch with that window. -/
def innerRequest : ContinuousBatchIngestReq :=
  sampleRequest "b1" sampleHour (sampleHour + 20000) [innerWindow]

/-- The upload of the batch. -/
def innerCalls : List IngestCall := [({ now := sampleHour + 30000 }, innerRequest)]

/-- What the upload leaves. -/
def innerHistory : IngestHistory where
  store :=
    { sessions := [sampleSession]
      batches :=
        [{ id := 1, bid := "b1", sessionSID := "cps-1", objectKey := "continuous/cps-1/b1.json",
           startTime := sampleHour, endTime := sampleHour + 20000,
           contentSHA256 := sampleDigest 'b', createdAt := sampleHour + 30000 }]
      windows :=
        [{ id := 2, sessionSID := "cps-1", batchBID := "b1", windowStart := sampleHour + 5000,
           windowEnd := sampleHour + 15000, objectKey := "continuous/cps-1/b1.json",
           sampleCount := 3, signalType := "cpu_profile", windowID := "w1",
           contentSHA256 := sampleDigest 'a', signalStatus := "collected",
           createdAt := sampleHour + 30000 }]
      objects :=
        [("continuous/cps-1/b1.json", ⟨.minute innerRequest.payload, sampleHour + 30000⟩)]
      nextID := 3 }
  accepted := [innerRequest.payload]

theorem innerHistory_eq : sampleHistory innerCalls = innerHistory := by
  decide

/-- A history of one batch is readable if each row leads to its payload. -/
theorem readable_of_payloads {history : IngestHistory}
    (payloads : ∀ batch ∈ history.accepted, ∀ row ∈ history.windows,
      (history.load row.objectKey).bind (continuousResolveBatch row) =
      some batch) :
    history.Readable := by
  intro batch accepted row inWindows _
  exact Option.bind_eq_some_iff.mp (payloads batch accepted row inWindows)

theorem innerHistory_readable : innerHistory.Readable := readable_of_payloads (by decide)

/-- One batch with two CPU windows in an hour. -/
def pairRequest : ContinuousBatchIngestReq :=
  sampleRequest "b1" sampleHour (sampleHour + 30000)
    [innerWindow, cpuWindow "w2" (sampleHour + 15000) (sampleHour + 25000) 5]

/-- The upload of that batch. -/
def pairCalls : List IngestCall := [({ now := sampleHour + 60000 }, pairRequest)]

end Sample

end MiniDrop
