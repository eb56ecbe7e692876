import MiniDrop.Server.Sessions
/-!
# Stopping a session

Stops and reports rewrite the session table row by row. A stop never touches a row that is already
stopped, and a report never touches the desired state, so a stop is not undone. The columns that
close a session are another matter: each report rewrites them from what it says, whether or not the
session was closed before.
-/
namespace MiniDrop

open List

variable {b a : ContinuousSessionRow}

/-- The calls that act on existing sessions. -/
inductive SessionEvent where
  | stop (canManage : Bool) (now : Int) (sid : String)
  | report (requestUID : String) (now : Int) (req : ReconcileContinuousReq)

/-- The request with its address and agent trimmed, as the handler uses it. -/
def ReconcileContinuousReq.trimmed (req : ReconcileContinuousReq) : ReconcileContinuousReq :=
  { req with targetIP := trimSpace req.targetIP, agentID := trimSpace req.agentID }

namespace SessionStore

/-- One call, run alone. -/
def handle (store : SessionStore) : SessionEvent → SessionStore
  | .stop canManage now sid => store.stopContinuousSession canManage now sid
  | .report requestUID now req => store.reconcileContinuousSessions requestUID now req

/-- The tables after a sequence of calls. -/
def after (store : SessionStore) (events : List SessionEvent) : SessionStore :=
  events.foldl handle store

/-- The unique indexes of the session table. -/
structure Keyed (store : SessionStore) : Prop where
  ids : (store.sessions.map (·.id)).Nodup
  sids : (store.sessions.map (·.sid)).Nodup

end SessionStore

/-! ## Rows under a report -/

/-- What a report entry says about a row, if it names the row and can be read. -/
def heard (req : ReconcileContinuousReq) (session : ContinuousSessionRow)
    (observed : ContinuousObservedReport) : Option ObservedState :=
  if blank observed.sid ∨ ¬observed.names req.targetIP session then none
  else validContinuousObservedState observed.observedState

/-- The states a report gives for a row, in order. -/
def heardStates (req : ReconcileContinuousReq) (session : ContinuousSessionRow) :
    List ObservedState :=
  req.sessions.filterMap (heard req session)

/-- One report entry, seen from one row. -/
def observeRow (now : Int) (req : ReconcileContinuousReq) (session : ContinuousSessionRow)
    (observed : ContinuousObservedReport) : ContinuousSessionRow :=
  match heard req session observed with
  | none => session
  | some reported => observeUpdates now req.agentID session reported observed session

/-- The columns that no report writes. -/
structure ContinuousSessionRow.SameSession (a b : ContinuousSessionRow) : Prop where
  id : a.id = b.id
  sid : a.sid = b.sid
  targetIP : a.targetIP = b.targetIP
  desiredState : a.desiredState = b.desiredState
  scope : a.scope = b.scope
  identity : continuousSelectorIdentity a = continuousSelectorIdentity b

/-- A report entry leaves the identifying columns and the desired state. -/
theorem observeRow_same (now : Int) (req : ReconcileContinuousReq) (session : ContinuousSessionRow)
    (observed : ContinuousObservedReport) :
    (observeRow now req session observed).SameSession session := by
  unfold observeRow
  split
  · exact ⟨rfl, rfl, rfl, rfl, rfl, rfl⟩
  · exact ⟨rfl, rfl, rfl, rfl, rfl, rfl⟩

variable {now : Int} {req : ReconcileContinuousReq} {sessions : List ContinuousSessionRow}
  {session : ContinuousSessionRow}

theorem observeSession_eq_map (sids : (sessions.map (·.sid)).Nodup)
    (observed : ContinuousObservedReport) :
    observeSession now req sessions observed =
      sessions.map fun session => observeRow now req session observed := by
  -- Where the entry is skipped, every row stays.
  have skipped (none : ∀ session ∈ sessions, heard req session observed = none) :
      sessions = sessions.map fun session => observeRow now req session observed := by
    refine (map_id' _).symm.trans (map_congr_left fun session mem => ?_)
    simp only [observeRow, none session mem]
  unfold observeSession
  split
  next isBlank => exact skipped fun session _ => by simp [heard, isBlank]
  next notBlank =>
    split
    next unreadable => exact skipped fun session _ => by simp [heard, unreadable]
    next reported readable =>
      split
      next missing =>
        refine skipped fun session mem => ?_
        have unnamed := find?_eq_none.mp missing session mem
        simp [heard, unnamed]
      next current found =>
        have stored := mem_of_find?_eq_some found
        have named := find?_some found
        refine map_congr_left fun session mem => ?_
        by_cases names : observed.names req.targetIP session = true
        · have sameSID : session.sid = current.sid := by
            simp only [ContinuousObservedReport.names, Bool.and_eq_true, decide_eq_true_eq]
              at names named
            rw [names.1, named.1]
          have same : session = current := inj_on_of_nodup_map sids mem stored sameSID
          subst same
          simp [observeRow, heard, notBlank, names, readable]
        · simp [observeRow, heard, names]

/-- All entries of a report, seen from one row. -/
def observeAll (now : Int) (req : ReconcileContinuousReq) (entries : List ContinuousObservedReport)
    (session : ContinuousSessionRow) : ContinuousSessionRow :=
  entries.foldl (observeRow now req) session

/-- A report leaves the identifying columns and the desired state. -/
theorem observeAll_same (now : Int) (req : ReconcileContinuousReq)
    (entries : List ContinuousObservedReport) (session : ContinuousSessionRow) :
    (observeAll now req entries session).SameSession session := by
  induction entries generalizing session with
  | nil => exact ⟨rfl, rfl, rfl, rfl, rfl, rfl⟩
  | cons observed rest ih =>
    have first := observeRow_same now req session observed
    have later := ih (observeRow now req session observed)
    exact ⟨later.id.trans first.id, later.sid.trans first.sid, later.targetIP.trans first.targetIP,
      later.desiredState.trans first.desiredState, later.scope.trans first.scope,
      later.identity.trans first.identity⟩

theorem foldl_observeSession (entries : List ContinuousObservedReport)
    (sids : (sessions.map (·.sid)).Nodup) :
    entries.foldl (observeSession now req) sessions =
      sessions.map (observeAll now req entries) := by
  induction entries generalizing sessions with
  | nil => exact (map_id' _).symm
  | cons observed rest ih =>
    rw [foldl_cons, observeSession_eq_map sids observed, ih, map_map]
    · rfl
    · have kept : (sessions.map fun session => observeRow now req session observed).map (·.sid) =
          sessions.map (·.sid) := by
        rw [map_map]
        exact map_congr_left fun session _ => (observeRow_same now req session observed).sid
      rw [kept]
      exact sids

theorem heard_congr (same : a.SameSession b) (observed : ContinuousObservedReport) :
    heard req a observed = heard req b observed := by
  unfold heard ContinuousObservedReport.names
  rw [same.sid, same.targetIP]

/-- A session takes in the entries that it hears, one after another. -/
theorem observeAll_induction {P : List ObservedState → ContinuousSessionRow → Prop}
    (start : P [] session) (step : ∀ said row reported last, row.SameSession session → P said row →
      P (said ++ [reported]) (observeUpdates now req.agentID row reported last row))
    (entries : List ContinuousObservedReport) :
    P (entries.filterMap (heard req session)) (observeAll now req entries session) := by
  induction entries using reverseRecOn with
  | nil => exact start
  | append_singleton entries last ih =>
    have same := observeAll_same now req entries session
    rw [filterMap_append, observeAll, foldl_append]
    change P _ (observeRow now req (observeAll now req entries session) last)
    rw [observeRow, heard_congr same]
    cases said : heard req session last with
    | none =>
      rw [filterMap_cons_none said, filterMap_nil, append_nil]
      exact ih
    | some =>
      rw [filterMap_cons_some said, filterMap_nil]
      exact step _ _ _ _ same ih

/-- After a report, a session that should be stopped shows what the last entry about it says. -/
theorem observeAll_observedState (stopped : session.desiredState = .stopped) :
    (observeAll now req req.sessions session).observedState =
      ((heardStates req session).getLast?.map
        (settledState .stopped)).getD session.observedState := by
  refine observeAll_induction (P := fun said row =>
    row.observedState = (said.getLast?.map (settledState .stopped)).getD session.observedState)
      rfl ?_ req.sessions
  intro said row reported last same _
  simp [observeUpdates, same.desiredState, stopped]

/-- After a report, a session that should be stopped is closed at the report's time if some entry
says it stopped, and otherwise at the time it was before. -/
theorem observeAll_stoppedAt (stopped : session.desiredState = .stopped) :
    (observeAll now req req.sessions session).stoppedAt =
      if .stopped ∈ heardStates req session then some now else session.stoppedAt := by
  refine observeAll_induction (P := fun said row =>
    row.stoppedAt = if .stopped ∈ said then some now else session.stoppedAt) rfl ?_ req.sessions
  intro said row reported last same ih
  by_cases closes : reported = .stopped
  · simp [observeUpdates, same.desiredState, stopped, closes]
  · simp [observeUpdates, closes, Ne.symm closes, ih]

theorem observeAll_stoppedAt_running (running : session.desiredState = .running) :
    (observeAll now req req.sessions session).stoppedAt = session.stoppedAt := by
  refine observeAll_induction (P := fun _ row => row.stoppedAt = session.stoppedAt) rfl ?_
    req.sessions
  intro said row reported last same ih
  simp [observeUpdates, same.desiredState, running, ih]

/-! ## Rows under a call -/

namespace SessionStore

variable {store : SessionStore}

/-- A stop, seen from one row: the row of the running session it finds. -/
def stopsRow (store : SessionStore) (canManage : Bool) (sid : String)
    (session : ContinuousSessionRow) : Bool :=
  canManage && session.sid = trimSpace sid && session.desiredState = .running &&
    decide (session ∈ store.sessions)

/-- The revision a stop of the session sets. -/
def stopRevision (store : SessionStore) (session : ContinuousSessionRow) : Nat :=
  ((store.agentState session.targetIP).map (·.revision)).getD session.revision + 1

theorem markStopped_sessions (current : ContinuousSessionRow) (stateRevision : Option Nat)
    (now : Int) :
    (store.markStopped current stateRevision now).sessions = store.sessions.map fun session =>
        if session.id = current.id then
          stopRow (stateRevision.getD current.revision + 1) now session
        else session := by
  cases stateRevision <;> rfl

theorem stopContinuousSession_sessions (keyed : store.Keyed) (canManage : Bool) (now : Int)
    (sid : String) :
    (store.stopContinuousSession canManage now sid).sessions = store.sessions.map fun session =>
        if store.stopsRow canManage sid session then stopRow
          (store.stopRevision session) now session
        else session := by
  have skipped (none : ∀ session ∈ store.sessions, store.stopsRow canManage sid session = false) :
      store.sessions = store.sessions.map fun session =>
        if store.stopsRow canManage sid session then stopRow
          (store.stopRevision session) now session
        else session := by
    refine (map_id' _).symm.trans (map_congr_left fun session mem => ?_)
    rw [if_neg (by rw [none session mem]; exact Bool.false_ne_true)]
  unfold stopContinuousSession
  split
  next missing =>
    refine skipped fun session mem => ?_
    have unnamed := find?_eq_none.mp missing session mem
    simp [stopsRow, unnamed]
  next loaded found =>
    have stored := mem_of_find?_eq_some found
    have named : loaded.sid = trimSpace sid := by simpa using find?_some found
    have unique : ∀ session ∈ store.sessions, session.sid = trimSpace sid → session = loaded :=
      fun session mem same =>
        inj_on_of_nodup_map keyed.sids mem stored (same.trans named.symm)
    split
    next refused => exact skipped fun session _ => by simp [stopsRow, refused]
    next granted =>
      have again : store.sessions.find? (·.id = loaded.id) = some loaded :=
        Base.find?_eq_of_nodup keyed.ids stored (decide_eq_true rfl) fun _ _ => of_decide_eq_true
      rw [again]
      dsimp only
      split
      next already =>
        refine skipped fun session mem => ?_
        by_cases named : session.sid = trimSpace sid
        · rw [unique session mem named]
          simp [stopsRow, already]
        · simp [stopsRow, named]
      next running =>
        have running : loaded.desiredState = .running := by
          cases state : loaded.desiredState with
          | running => rfl
          | stopped => exact absurd state running
        rw [markStopped_sessions]
        refine map_congr_left fun session mem => ?_
        by_cases same : session.id = loaded.id
        · have same := inj_on_of_nodup_map keyed.ids mem stored same
          subst same
          simp [stopsRow, granted, named, running, stored, stopRevision]
        · have other : session.sid ≠ trimSpace sid := fun named =>
            same (congrArg ContinuousSessionRow.id (unique session mem named))
          simp [stopsRow, same, other]

/-- A call, seen from one row. -/
def handleRow (store : SessionStore) (event : SessionEvent) (session : ContinuousSessionRow) :
    ContinuousSessionRow :=
  match event with
  | .stop canManage now sid =>
    if store.stopsRow canManage sid session then stopRow (store.stopRevision session) now session
    else session
  | .report requestUID now req =>
    if store.mayReport requestUID req.trimmed then
      observeAll now req.trimmed req.sessions session
    else session

theorem handleRow_report {requestUID : String} {req : ReconcileContinuousReq}
    (allowed : store.mayReport requestUID req.trimmed = true) :
    store.handleRow (.report requestUID now req) session =
    observeAll now req.trimmed req.trimmed.sessions session :=
  if_pos allowed

theorem handle_sessions (keyed : store.Keyed) (event : SessionEvent) :
    (store.handle event).sessions = store.sessions.map (store.handleRow event) := by
  cases event with
  | stop canManage now sid => exact stopContinuousSession_sessions keyed canManage now sid
  | report requestUID now req =>
    change (store.reconcileContinuousSessions requestUID now req).sessions = _
    change (if store.mayReport requestUID req.trimmed then _ else _ : SessionStore).sessions = _
    by_cases allowed : store.mayReport requestUID req.trimmed = true
    · rw [if_pos allowed]
      refine (foldl_observeSession req.sessions keyed.sids).trans
        (map_congr_left fun session _ => ?_)
      exact (handleRow_report allowed).symm
    · rw [if_neg allowed]
      refine (map_id' _).symm.trans (map_congr_left fun session _ => ?_)
      simp only [handleRow, if_neg allowed]

theorem handleRow_ids (event : SessionEvent) (session : ContinuousSessionRow) :
    (store.handleRow event session).id = session.id ∧
      (store.handleRow event session).sid = session.sid := by
  cases event with
  | stop =>
    simp only [handleRow]
    split <;> exact ⟨rfl, rfl⟩
  | report requestUID now req =>
    simp only [handleRow]
    split
    · have same := observeAll_same now req.trimmed req.sessions session
      exact ⟨same.id, same.sid⟩
    · exact ⟨rfl, rfl⟩

theorem handle_keyed (keyed : store.Keyed) (event : SessionEvent) : (store.handle event).Keyed := by
  have kept {α : Type} (column : ContinuousSessionRow → α)
      (same : ∀ session, column (store.handleRow event session) = column session) :
      (store.handle event).sessions.map column = store.sessions.map column := by
    rw [handle_sessions keyed, map_map]
    exact map_congr_left fun session _ => same session
  refine ⟨?_, ?_⟩
  · rw [kept (·.id) fun session => (handleRow_ids event session).1]
    exact keyed.ids
  · rw [kept (·.sid) fun session => (handleRow_ids event session).2]
    exact keyed.sids

theorem handleRow_stopped (event : SessionEvent) {session : ContinuousSessionRow}
    (stopped : session.desiredState = .stopped) :
    (store.handleRow event session).desiredState = .stopped := by
  cases event with
  | stop =>
    simp only [handleRow, stopsRow, stopped]
    simp [stopped]
  | report requestUID now req =>
    simp only [handleRow]
    split
    · rw [(observeAll_same now req.trimmed req.sessions session).desiredState]
      exact stopped
    · exact stopped

end SessionStore

/-! ## Closed sessions along a run -/

namespace SessionStore

variable {store : SessionStore}

/-- A report is quiet: it does not take back within itself that a session stopped, and what it says
last about a closed session is that it stopped, at the time the session was closed. -/
def Quiet (store : SessionStore) : SessionEvent → Prop
  | .stop _ _ _ => True
  | .report requestUID now req =>
    store.mayReport requestUID req.trimmed → ∀ session ∈ store.sessions,
      session.desiredState = .stopped →
        (.stopped ∈ heardStates req.trimmed session →
          (heardStates req.trimmed session).getLast? = some .stopped) ∧
        ∀ closedAt, session.stoppedAt = some closedAt →
          heardStates req.trimmed session = [] ∨
            ((heardStates req.trimmed session).getLast? = some .stopped ∧ now = closedAt)

/-- Stopping is final along a sequence of calls: from any moment on, a session that should be
stopped stays so, and a closed one keeps its observed state and the time it was closed. -/
def StopFinal (store : SessionStore) (events : List SessionEvent) : Prop :=
  ∀ before middle rest, events = before ++ middle ++ rest →
    ∀ session ∈ (store.after before).sessions, ∃ later ∈ (store.after (before ++ middle)).sessions,
      later.sid = session.sid ∧
      (session.desiredState = .stopped → later.desiredState = .stopped) ∧
      ∀ closedAt, session.stoppedAt = some closedAt →
        later.observedState = .stopped ∧ later.stoppedAt = some closedAt

/-- Only sessions that should be stopped have been closed. -/
def ClosedByStop (store : SessionStore) : Prop :=
  ∀ session ∈ store.sessions, session.stoppedAt ≠ none → session.desiredState = .stopped

theorem handle_closedByStop (keyed : store.Keyed) (closed : store.ClosedByStop)
    (event : SessionEvent) : (store.handle event).ClosedByStop := by
  intro later mem closedLater
  rw [handle_sessions keyed] at mem
  obtain ⟨session, stored, rfl⟩ := mem_map.mp mem
  cases desired : session.desiredState with
  | stopped => exact handleRow_stopped event desired
  | running =>
    have unclosed : session.stoppedAt = none := by
      by_contra some
      have := closed session stored some
      rw [desired] at this
      cases this
    cases event with
    | stop =>
      simp only [handleRow] at closedLater ⊢
      split at closedLater
      · next stops => rw [if_pos stops]; rfl
      · exact absurd unclosed closedLater
    | report =>
      exfalso
      simp only [handleRow] at closedLater
      split at closedLater
      · exact closedLater ((observeAll_stoppedAt_running desired).trans unclosed)
      · exact closedLater unclosed

variable {session : ContinuousSessionRow} {closedAt : Int} {event : SessionEvent}
  {events : List SessionEvent}

/-- What one call does to a closed session: it stays closed as it was exactly if the call is quiet
about it. -/
theorem handleRow_closed_iff
    (desired : session.desiredState = .stopped) (observed : session.observedState = .stopped)
    (closed : session.stoppedAt = some closedAt) (requestUID : String) (now : Int)
    (req : ReconcileContinuousReq) (allowed : store.mayReport requestUID req.trimmed = true) :
    ((store.handleRow (.report requestUID now req) session).observedState = .stopped ∧
        (store.handleRow (.report requestUID now req) session).stoppedAt = some closedAt) ↔
      (heardStates req.trimmed session = [] ∨
        ((heardStates req.trimmed session).getLast? = some .stopped ∧ now = closedAt)) := by
  rw [handleRow_report allowed, observeAll_observedState desired, observeAll_stoppedAt desired,
    observed, closed]
  cases last : (heardStates req.trimmed session).getLast? with
  | none =>
    have silent := getLast?_eq_none_iff.mp last
    simp [silent]
  | some state =>
    have spoken : heardStates req.trimmed session ≠ [] := by
      intro silent
      rw [silent] at last
      cases last
    have said := mem_of_getLast? last
    cases state
    case stopped => simp [said, spoken, settledState]
    all_goals simp [settledState, spoken]

/-- What a report does to an open session: if it closes the session, the session shows it, exactly
if the report does not take it back. -/
theorem handleRow_closes_iff {requestUID : String} (now : Int) {req : ReconcileContinuousReq}
    (unclosed : session.stoppedAt = none)
    (allowed : store.mayReport requestUID req.trimmed = true) :
    ((store.handleRow (.report requestUID now req) session).stoppedAt ≠ none →
        (store.handleRow (.report requestUID now req) session).observedState = .stopped) ↔
      (session.desiredState = .stopped → .stopped ∈ heardStates req.trimmed session →
        (heardStates req.trimmed session).getLast? = some .stopped) := by
  rw [handleRow_report allowed]
  cases desired : session.desiredState with
  | running => simp [observeAll_stoppedAt_running desired, unclosed]
  | stopped =>
    rw [observeAll_observedState desired, observeAll_stoppedAt desired, unclosed]
    by_cases said : .stopped ∈ heardStates req.trimmed session
    · cases last : (heardStates req.trimmed session).getLast? with
      | none =>
        rw [getLast?_eq_none_iff.mp last] at said
        cases said
      | some state => cases state <;> simp [settledState]
    · simp [said]

theorem handleRow_closed (stored : session ∈ store.sessions)
    (desired : session.desiredState = .stopped) (observed : session.observedState = .stopped)
    (closed : session.stoppedAt = some closedAt)
    (quiet : store.Quiet event) :
    (store.handleRow event session).observedState = .stopped ∧
      (store.handleRow event session).stoppedAt = some closedAt := by
  cases event with
  | stop canManage now sid =>
    have untouched : store.stopsRow canManage sid session = false := by simp [stopsRow, desired]
    simp only [handleRow, untouched]
    exact ⟨observed, closed⟩
  | report requestUID now req =>
    by_cases allowed : store.mayReport requestUID req.trimmed = true
    · exact (handleRow_closed_iff desired observed closed requestUID now req allowed).mpr
        ((quiet allowed session stored desired).2 closedAt closed)
    · simp only [handleRow, if_neg allowed]
      exact ⟨observed, closed⟩

theorem after_concat (store : SessionStore) (events : List SessionEvent) (event : SessionEvent) :
    store.after (events ++ [event]) = (store.after events).handle event := by
  simp [after]

/-- What holds of every state of a run: the indexes, and that only stopped sessions are closed. -/
theorem after_wellFormed (keyed : store.Keyed) (closed : store.ClosedByStop)
    (events : List SessionEvent) : (store.after events).Keyed ∧
    (store.after events).ClosedByStop := by
  induction events using reverseRecOn with
  | nil => exact ⟨keyed, closed⟩
  | append_singleton events event ih =>
    rw [after_concat]
    exact ⟨handle_keyed ih.1 event, handle_closedByStop ih.1 ih.2 event⟩

/-- All sessions that were closed show that they stopped. -/
def ShowsClosed (store : SessionStore) : Prop :=
  ∀ session ∈ store.sessions, session.stoppedAt ≠ none → session.observedState = .stopped

section

variable (keyed : store.Keyed)
include keyed

section

variable (closed : store.ClosedByStop) (shown : store.ShowsClosed)
include closed shown

/-- A quiet call keeps closed sessions showing it, and a call that closes a session shows it. -/
theorem handle_showsClosed (quiet : store.Quiet event) : (store.handle event).ShowsClosed := by
  intro later mem closedLater
  rw [handle_sessions keyed] at mem
  obtain ⟨session, stored, rfl⟩ := mem_map.mp mem
  by_cases before : session.stoppedAt = none
  · cases event with
    | stop =>
      exfalso
      simp only [handleRow] at closedLater
      split at closedLater <;> exact closedLater before
    | report requestUID now req =>
      by_cases allowed : store.mayReport requestUID req.trimmed = true
      · have spoken := fun desired => (quiet allowed session stored desired).1
        exact (handleRow_closes_iff now before allowed).mpr spoken closedLater
      · simp only [handleRow, if_neg allowed] at closedLater
        exact absurd before closedLater
  · obtain ⟨closedAt, closedThen⟩ := Option.ne_none_iff_exists'.mp before
    exact (handleRow_closed stored (closed session stored before) (shown session stored before)
      closedThen quiet).1

variable (quiet : ∀ before event rest, events = before ++ event :: rest →
  (store.after before).Quiet event)
include quiet

theorem after_showsClosed {before rest : List SessionEvent} (split : events = before ++ rest) :
    (store.after before).ShowsClosed := by
  induction before using reverseRecOn generalizing rest with
  | nil => exact shown
  | append_singleton before event ih =>
    rw [append_assoc] at split
    have formed := after_wellFormed keyed closed before
    rw [after_concat]
    exact handle_showsClosed formed.1 formed.2 (ih split) (quiet before event rest split)

theorem stopFinal_of_quiet : store.StopFinal events := by
  intro before middle rest split session mem
  -- The induction is on the calls between the two moments.
  induction middle using reverseRecOn generalizing rest with
  | nil =>
    rw [append_nil] at split ⊢
    refine ⟨session, mem, rfl, id, fun closedAt closedThen => ⟨?_, closedThen⟩⟩
    exact after_showsClosed keyed closed shown quiet split session mem
      (by rw [closedThen]; exact Option.some_ne_none closedAt)
  | append_singleton middle event ih =>
    obtain ⟨later, stored, sameSID, stays, keeps⟩ := ih (event :: rest) (by
      rw [split]
      simp)
    have formed := after_wellFormed keyed closed (before ++ middle)
    have quietNow : (store.after (before ++ middle)).Quiet event := by
      refine quiet (before ++ middle) event rest ?_
      rw [split]
      simp
    rw [← append_assoc, after_concat, handle_sessions formed.1]
    refine ⟨_, mem_map_of_mem stored, ?_, ?_, ?_⟩
    · exact (handleRow_ids event later).2.trans sameSID
    · exact fun desired => handleRow_stopped event (stays desired)
    · intro closedAt closedThen
      obtain ⟨observed, closedNow⟩ := keeps closedAt closedThen
      have desired : later.desiredState = .stopped :=
        formed.2 later stored (by rw [closedNow]; exact Option.some_ne_none closedAt)
      exact handleRow_closed stored desired observed closedNow quietNow

end

/-- In a keyed table the row found under an identifier is the row. -/
theorem eq_of_sid (first : a ∈ store.sessions)
    (second : b ∈ store.sessions) (same : a.sid = b.sid) : a = b :=
  inj_on_of_nodup_map keyed.sids first second same

variable (closed : store.ClosedByStop) (final : store.StopFinal events)
  {before rest : List SessionEvent}
include closed final

theorem StopFinal.shows (split : events = before ++ rest) : (store.after before).ShowsClosed := by
  intro session mem closes
  obtain ⟨closedAt, closedThen⟩ := Option.ne_none_iff_exists'.mp closes
  obtain ⟨found, stored, sameSID, -, keeps⟩ :=
    final before [] rest (by rw [split, append_nil]) session mem
  rw [append_nil] at stored
  rw [eq_of_sid (after_wellFormed keyed closed before).1 stored mem sameSID] at keeps
  exact (keeps closedAt closedThen).1

theorem quiet_of_stopFinal (split : events = before ++ event :: rest) :
    (store.after before).Quiet event := by
  cases event with
  | stop => exact trivial
  | report requestUID now req =>
    intro allowed session mem desired
    have formed := after_wellFormed keyed closed before
    let later := (store.after before).handleRow (.report requestUID now req) session
    have next := after_wellFormed keyed closed (before ++ [.report requestUID now req])
    have laterStored : later ∈ (store.after (before ++ [.report requestUID now req])).sessions := by
      rw [after_concat, handle_sessions formed.1]
      exact mem_map_of_mem mem
    cases closedBefore : session.stoppedAt with
    | none =>
      refine ⟨?_, fun closedAt impossible => nomatch impossible⟩
      refine (handleRow_closes_iff now closedBefore allowed).mp ?_ desired
      exact final.shows keyed closed (split.trans (append_cons before _ rest)) later laterStored
    | some closedAt =>
      have observed : session.observedState = .stopped :=
        final.shows keyed closed split session mem
          (by rw [closedBefore]; exact Option.some_ne_none closedAt)
      have kept : later.observedState = .stopped ∧ later.stoppedAt = some closedAt := by
        obtain ⟨found, stored, sameSID, -, keeps⟩ :=
          final before [.report requestUID now req] rest (by rw [split]; simp) session mem
        have laterSID : later.sid = session.sid := (handleRow_ids _ session).2
        rw [eq_of_sid next.1 stored laterStored (sameSID.trans laterSID.symm)] at keeps
        exact keeps closedAt closedBefore
      have spoken := (handleRow_closed_iff desired observed closedBefore requestUID now req
        allowed).mp kept
      refine ⟨fun said => ?_, fun other same => ?_⟩
      · rcases spoken with silent | ⟨last, -⟩
        · rw [silent] at said
          cases said
        · exact last
      · cases same
        exact spoken

end

/-- From tables in which no session is closed yet, stopping is final along a sequence of stops and
reports exactly if every report is quiet when it arrives. -/
theorem stop_final_iff_quiet (store : SessionStore) (keyed : store.Keyed)
    (unclosed : ∀ session ∈ store.sessions, session.stoppedAt = none)
    (events : List SessionEvent) :
    store.StopFinal events ↔ ∀ before event rest, events = before ++ event :: rest →
        (store.after before).Quiet event := by
  have closed : store.ClosedByStop := fun session mem some => absurd (unclosed session mem) some
  have shown : store.ShowsClosed := fun session mem some => absurd (unclosed session mem) some
  constructor
  · intro final before event rest split
    exact quiet_of_stopFinal keyed closed final split
  · intro quiet
    exact stopFinal_of_quiet keyed closed shown quiet

/-- One host session on an agent that reports. -/
def oneSession : SessionStore where
  agents := [{ id := 1, ipAddr := "10.0.0.1", agentID := "agent-1" }]
  agentStates := [{ targetIP := "10.0.0.1", agentID := "agent-1" }]
  sessions := [{ id := 1, sid := "cps-1", targetIP := "10.0.0.1" }]
  nextID := 2

/-- A report of the agent about the session. -/
def reportState (now : Int) (state : String) : SessionEvent :=
  .report "agent-1" now
    { targetIP := "10.0.0.1", agentID := "agent-1",
      sessions := [{ sid := "cps-1", observedState := state }] }

theorem oneSession_unclosed :
    oneSession.Keyed ∧ ∀ session ∈ oneSession.sessions, session.stoppedAt = none :=
  ⟨⟨by decide, by decide⟩, by decide⟩

/-- The session after its stop was acknowledged. -/
def closedSession : ContinuousSessionRow where
  id := 1
  sid := "cps-1"
  targetIP := "10.0.0.1"
  status := .stopped
  desiredState := .stopped
  observedState := .stopped
  observedAt := some 2000
  stopRequestedAt := some 1000
  revision := 1
  agentID := "agent-1"
  stoppedAt := some 2000
  updatedAt := 2000

/-- A stop and its acknowledgement. -/
def acknowledged : List SessionEvent := [.stop true 1000 "cps-1", reportState 2000 "stopped"]

/-- A stop, its acknowledgement, and a further stop. -/
theorem acknowledged_stop_final :
    oneSession.StopFinal (acknowledged ++ [.stop true 3000 "cps-1"]) := by
  refine (stop_final_iff_quiet oneSession oneSession_unclosed.1 oneSession_unclosed.2 _).mpr ?_
  intro before event rest split
  rcases before with _ | ⟨first, _ | ⟨second, _ | ⟨third, more⟩⟩⟩
  · cases split
    exact trivial
  · cases split
    intro _ session mem _
    have fresh : ∀ session ∈ (oneSession.after [.stop true 1000 "cps-1"]).sessions,
        session.stoppedAt = none ∧ heardStates (ReconcileContinuousReq.trimmed
          { targetIP := "10.0.0.1", agentID := "agent-1",
            sessions := [{ sid := "cps-1", observedState := "stopped" }] })
            session = [.stopped] := by
      decide
    rw [(fresh session mem).1, (fresh session mem).2]
    exact ⟨fun _ => rfl, fun _ impossible => nomatch impossible⟩
  · cases split
    exact trivial
  · simp [acknowledged] at split

/-- A report that was under way when the session was closed opens it again, and one that is sent
twice moves the time of closing. -/
theorem late_report_reopens :
    ¬oneSession.StopFinal (acknowledged ++ [reportState 3000 "running"]) ∧
      ¬oneSession.StopFinal (acknowledged ++ [reportState 3000 "stopped"]) := by
  have closedThen : closedSession ∈ (oneSession.after acknowledged).sessions :=
    mem_singleton_self _
  have keeps {last : SessionEvent} (final : oneSession.StopFinal (acknowledged ++ [last])) :
      ∃ later ∈ (oneSession.after (acknowledged ++ [last])).sessions,
        later.observedState = .stopped ∧ later.stoppedAt = some 2000 := by
    obtain ⟨later, mem, -, -, keeps⟩ := final acknowledged [last] [] rfl closedSession closedThen
    exact ⟨later, mem, keeps 2000 rfl⟩
  exact ⟨fun final => absurd (keeps final) (by decide),
    fun final => absurd (keeps final) (by decide)⟩

end SessionStore

end MiniDrop
