import MiniDrop.Base.Delimited
import MiniDrop.Verif.History
/-!
# Object keys

The key of a minute object is made from the session and the batch. Session identifiers are drawn by
the server and contain no slash, so different batches have different keys, and a minute key is never
taken for a block key. When no request names an object key, every catalog row therefore leads to the
payload that was accepted for its batch.
-/
namespace MiniDrop

open List

variable {batch : ContinuousStoredBatch}

/-- A session identifier as the server draws it. -/
def PlainSID (sid : String) : Prop := '/' ∉ sid.toList

theorem continuousBatchObjectKey_inj {sid sid' bid bid' : String} (plain : PlainSID sid)
    (plain' : PlainSID sid')
    (same : continuousBatchObjectKey sid bid = continuousBatchObjectKey sid' bid') :
    sid = sid' ∧ bid = bid' := by
  have texts := congrArg String.toList same
  simp only [continuousBatchObjectKey, String.toList_append, append_assoc,
    append_cancel_left_eq] at texts
  obtain ⟨sids, -, rest⟩ := Base.append_mark_inj plain plain' texts
  refine ⟨String.ext sids, String.ext ?_⟩
  exact append_cancel_right rest

theorem minuteKey_not_block (sid bid : String) :
    looksLikeContinuousBlockKey (continuousBatchObjectKey sid bid) = false := by
  unfold looksLikeContinuousBlockKey continuousBatchObjectKey
  rw [Bool.or_eq_false_iff]
  constructor
  · simp only [hasPrefix, String.toList_append, append_assoc, continuousBlockFolder]
    rfl
  · simp only [toLower, String.toList_append, String.toList_ofList, map_append,
      isSuffixOf, reverse_append]
    rfl

theorem firstNonEmpty_minuteKey (sid bid : String) :
    firstNonEmpty ["", continuousBatchObjectKey sid bid] = continuousBatchObjectKey sid bid := by
  have trimmed : trimSpace (continuousBatchObjectKey sid bid) =
      continuousBatchObjectKey sid bid := by
    have text : (continuousBatchObjectKey sid bid).toList =
        "continuous/".toList ++ sid.toList ++ "/".toList ++ bid.toList ++ ".json".toList := by
      simp [continuousBatchObjectKey]
    have starts : (continuousBatchObjectKey sid bid).toList = 'c' :: ("ontinuous/".toList ++
        sid.toList ++ "/".toList ++ bid.toList ++ ".json".toList) := by
      rw [text]
      rfl
    have ends : (continuousBatchObjectKey sid bid).toList = ("continuous/".toList ++ sid.toList ++
        "/".toList ++ bid.toList ++ ".jso".toList) ++ ['n'] := by
      rw [text]
      simp
    exact trimSpace_eq starts ends (by decide) (by decide)
  have named : continuousBatchObjectKey sid bid ≠ "" := by
    intro empty
    have length := congrArg String.length empty
    simp [continuousBatchObjectKey] at length
  have blank : trimSpace "" = "" := by decide
  simp [firstNonEmpty, blank, trimmed, named]

/-- The minute key of a payload. -/
def minuteKey (batch : ContinuousStoredBatch) : String :=
  continuousBatchObjectKey batch.sessionSID batch.batchID

/-- A request that names no object key, as the agent sends it. -/
def DefaultKeys (req : ContinuousBatchIngestReq) : Prop :=
  req.objectKey = "" ∧ ∀ input ∈ req.windows, input.objectKey = ""

/-- What holds of a history whose requests name no object key. -/
structure KeyInv (sessions : List ContinuousSession) (history : IngestHistory) : Prop where
  /-- Ingest does not touch the sessions. -/
  sessions : history.store.sessions = sessions
  /-- Accepted batches belong to sessions of the server. -/
  plain : ∀ batch ∈ history.accepted, PlainSID batch.sessionSID
  /-- The minute object of an accepted batch holds its payload. -/
  stored : ∀ batch ∈ history.accepted,
    ∃ time, history.store.getObject (minuteKey batch) = some ⟨.minute batch, time⟩
  /-- The rows of a batch name its minute object. -/
  rows : ∀ row ∈ history.windows, ∃ batch ∈ history.accepted,
    batch.batchID = row.batchBID ∧ batch.sessionSID = row.sessionSID ∧
      row.objectKey = minuteKey batch

section Keys

variable {sessions : List ContinuousSession} {history : IngestHistory} {call : IngestCall}
  {completed : ContinuousBatchIngestReq}

theorem completed_key {s : Store} (keys : DefaultKeys call.2)
    (passed : checkContinuousBatch call.1 s call.2 = .ok completed) :
    completed.objectKey = minuteKey completed.payload ∧
      (∀ input ∈ completed.windows, input.objectKey = "") ∧
      ∃ session ∈ s.sessions, session.sid = completed.sessionSID := by
  obtain ⟨session, listed, sid, rfl, -⟩ := checkContinuousBatch_ok passed
  refine ⟨?_, keys.2, session, listed, sid⟩
  simp [ContinuousBatchIngestReq.completed, ContinuousBatchIngestReq.versioned, keys.1, minuteKey,
    ContinuousBatchIngestReq.payload]

/-- An object put for a new batch leaves the minute objects of the accepted ones. -/
theorem stored_put (inv : KeyInv sessions history) (accepted : batch ∈ history.accepted)
    (plain : PlainSID completed.sessionSID)
    (key : completed.objectKey = minuteKey completed.payload)
    (fresh : batch.batchID ≠ completed.batchID) (object : StoredObject) :
    ∃ time, (history.store.putObject completed.objectKey object).getObject (minuteKey batch) =
      some ⟨.minute batch, time⟩ := by
  obtain ⟨time, stored⟩ := inv.stored batch accepted
  refine ⟨time, ?_⟩
  rw [Store.getObject_putObject_ne _ _ ?_, stored]
  intro same
  rw [key] at same
  exact fresh (continuousBatchObjectKey_inj (inv.plain batch accepted) plain same).2

section

variable (plainSessions : ∀ session ∈ sessions, PlainSID session.sid)
include plainSessions

theorem keyInv_receive (keys : DefaultKeys call.2) (base : HistoryInv history)
    (inv : KeyInv sessions history) : KeyInv sessions (history.receive call) := by
  have freshIDs : ∀ completed : ContinuousBatchIngestReq,
      (∀ batch ∈ history.store.batches, batch.bid ≠ completed.batchID) →
      ∀ batch ∈ history.accepted, batch.batchID ≠ completed.batchID := by
    intro completed fresh batch accepted
    have listed : batch.batchID ∈ history.store.batches.map (·.bid) := by
      rw [base.ids]
      exact mem_map_of_mem accepted
    obtain ⟨row, stored, same⟩ := mem_map.mp listed
    rw [← same]
    exact fresh row stored
  rcases receive_cases history call with same | ⟨completed, passed, stored⟩
  · rw [same]
    exact inv
  obtain ⟨key, named, session, listed, sid⟩ := completed_key keys passed
  rw [inv.sessions] at listed
  have plain : PlainSID completed.sessionSID := sid ▸ plainSessions session listed
  rcases stored with ⟨fresh, same⟩ | ⟨t, accepts, same⟩
  · rw [same]
    refine ⟨inv.sessions, inv.plain, fun batch accepted => ?_, inv.rows⟩
    exact stored_put inv accepted plain key (freshIDs completed fresh batch accepted) _
  · rw [same]
    obtain ⟨added, next, frame⟩ := accepts.inserted.frame
    refine ⟨?_, ?_, ?_, ?_⟩
    · rw [frame]
      exact inv.sessions
    · intro batch mem
      rcases mem_append.mp mem with old | new
      · exact inv.plain batch old
      · rw [mem_singleton.mp new]
        exact plain
    · intro batch mem
      rw [frame]
      rcases mem_append.mp mem with old | new
      · exact stored_put inv old plain key (freshIDs completed accepts.fresh batch old) _
      · rw [mem_singleton.mp new, ← key]
        exact ⟨call.1.now, Store.getObject_putObject history.store completed.objectKey _⟩
    · intro row mem
      rcases accepts.inserted.rows row mem with old | rowOf
      · obtain ⟨batch, accepted, facts⟩ := inv.rows row old
        exact ⟨batch, mem_append_left _ accepted, facts⟩
      · obtain ⟨input, carried, -, signal, -, id, rfl⟩ := rowOf
        refine ⟨completed.payload, mem_append_right _ (mem_singleton_self _), rfl, rfl, ?_⟩
        simp only [ingestWindowRow, named input carried, key]
        exact firstNonEmpty_minuteKey _ _

/-- **Without named object keys, every history keeps its payloads under the minute keys.** -/
theorem keyInv_ingestHistory {calls : List IngestCall} (keys : ∀ call ∈ calls, DefaultKeys call.2) :
    KeyInv sessions (ingestHistory sessions calls) := by
  refine (foldlRecOn (motive := fun history => HistoryInv history ∧ KeyInv sessions history) calls _
    ⟨historyInv_ingestHistory sessions [], ?_⟩ fun history inv call listed => ?_).2
  · exact ⟨rfl, forall_mem_nil _, forall_mem_nil _, forall_mem_nil _⟩
  · exact ⟨historyInv_receive inv.1 call,
      keyInv_receive plainSessions (keys call listed) inv.1 inv.2⟩

end

theorem KeyInv.loads (inv : KeyInv sessions history) (accepted : batch ∈ history.accepted) :
    history.load (minuteKey batch) = some [batch] := by
  obtain ⟨time, stored⟩ := inv.stored batch accepted
  unfold IngestHistory.load Store.loadContinuousBatches
  rw [stored, minuteKey, minuteKey_not_block]

end Keys

end MiniDrop
