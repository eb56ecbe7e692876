import MiniDrop.Server.SessionTx
import MiniDrop.Verif.Sessions
/-!
# Admission of sessions

At every moment the running sessions of an address are none, one for the whole host, or up to
sixteen for distinct processes. A creation checks this under the lock of the address's state row,
and until it commits the running sessions of the address can only become fewer.
-/
namespace MiniDrop

open List Base SessionStore

/-- The sets of running sessions an address may have. -/
def AdmissibleSet (active : List ContinuousSessionRow) : Prop :=
  active = [] ∨ (∃ session, active = [session] ∧ session.scope = "host") ∨
    (active.length ≤ 16 ∧ (∀ session ∈ active, session.scope = "process") ∧
      (active.map continuousSelectorIdentity).Nodup)

/-! ## The check of the active set -/

/-- What the admission rules look at in a session. -/
def admissionKey (session : ContinuousSessionRow) : String × String :=
  (session.scope, continuousSelectorIdentity session)

/-- The admissible sets by their keys. -/
def AdmissibleKeys (keys : List (String × String)) : Prop :=
  keys = [] ∨ (∃ identity, keys = [("host", identity)]) ∨
    (keys.length ≤ 16 ∧ (∀ key ∈ keys, key.1 = "process") ∧ (keys.map Prod.snd).Nodup)

/-- A request fits the running sessions. -/
def AdmitsKeys (keys : List (String × String)) (req : CreateContinuousSessionReq) : Prop :=
  if req.scope = "host" then keys = []
  else (∀ key ∈ keys, key.1 ≠ "host" ∧ key.1 ≠ "" ∧ key.2 ≠ requestIdentity req) ∧ keys.length < 16

theorem admissibleSet_iff_keys (active : List ContinuousSessionRow) :
    AdmissibleSet active ↔ AdmissibleKeys (active.map admissionKey) := by
  refine or_congr map_eq_nil_iff.symm (or_congr ?_ ?_)
  · constructor
    · rintro ⟨session, rfl, host⟩
      exact ⟨continuousSelectorIdentity session, by simp [admissionKey, host]⟩
    · rintro ⟨identity, single⟩
      obtain ⟨session, rfl, same⟩ := map_eq_singleton_iff.mp single
      exact ⟨session, rfl, congrArg Prod.fst same⟩
  · rw [length_map, map_map]
    refine and_congr_right fun _ => and_congr_left fun _ => ?_
    simp [admissionKey]

/-- The loop over the active sessions accepts exactly if none is host-wide or of the same identity
and there is room for one more. -/
theorem checkActiveProcesses_none (identity : String) (active : List ContinuousSessionRow)
    (processCount : Nat) :
    checkActiveProcesses identity processCount active = none ↔
      (∀ key ∈ active.map admissionKey, key.1 ≠ "host" ∧ key.1 ≠ "" ∧ key.2 ≠ identity) ∧
        processCount + (active.map admissionKey).length < 16 := by
  induction active generalizing processCount with
  | nil => simp [checkActiveProcesses]
  | cons session rest ih =>
    rw [checkActiveProcesses, map_cons, forall_mem_cons, length_cons]
    by_cases host : session.hostScoped = true
    · have wide : session.scope = "host" ∨ session.scope = "" := by
        simpa [ContinuousSessionRow.hostScoped] using host
      simp only [host, if_true, reduceCtorEq, false_iff]
      rintro ⟨⟨⟨notHost, notEmpty, -⟩, -⟩, -⟩
      exact wide.elim notHost notEmpty
    · have wide : session.scope ≠ "host" ∧ session.scope ≠ "" := by
        simpa [ContinuousSessionRow.hostScoped] using host
      rw [if_neg host]
      by_cases same : continuousSelectorIdentity session = identity
      · simp [same, admissionKey]
      · rw [if_neg same, ih]
        have head : (admissionKey session).1 ≠ "host" ∧ (admissionKey session).1 ≠ "" ∧
            (admissionKey session).2 ≠ identity := ⟨wide.1, wide.2, same⟩
        have room : processCount + 1 + (rest.map admissionKey).length =
            processCount + ((rest.map admissionKey).length + 1) := by omega
        rw [room, and_iff_right head]

theorem validateContinuousActiveSet_none (active : List ContinuousSessionRow)
    (req : CreateContinuousSessionReq) :
    validateContinuousActiveSet active req = none ↔ AdmitsKeys (active.map admissionKey) req := by
  unfold validateContinuousActiveSet AdmitsKeys
  by_cases host : req.scope = "host"
  · rw [if_pos host, if_pos host, map_eq_nil_iff]
    cases active with
    | nil => simp
    | cons session rest =>
      have occupied : (session :: rest).length > 0 := Nat.succ_pos _
      split_ifs <;> simp
  · rw [if_neg host, if_neg host, checkActiveProcesses_none, Nat.zero_add]

variable {fewer keys : List (String × String)} {req : CreateContinuousSessionReq}

theorem AdmissibleKeys.sublist (admissible : AdmissibleKeys keys)
    (part : fewer.Sublist keys) : AdmissibleKeys fewer := by
  rcases admissible with rfl | ⟨identity, rfl⟩ | ⟨room, processes, distinct⟩
  · exact .inl (sublist_nil.mp part)
  · rcases sublist_singleton.mp part with none | one
    · exact .inl none
    · exact .inr (.inl ⟨identity, one⟩)
  · refine .inr (.inr ⟨?_, ?_, ?_⟩)
    · exact Nat.le_trans part.length_le room
    · exact fun key mem => processes key (part.subset mem)
    · exact distinct.sublist (part.map Prod.snd)

theorem AdmitsKeys.sublist
    (admits : AdmitsKeys keys req) (part : fewer.Sublist keys) : AdmitsKeys fewer req := by
  unfold AdmitsKeys at admits ⊢
  split_ifs at admits ⊢
  · subst admits
    exact sublist_nil.mp part
  · refine ⟨fun key mem => admits.1 key (part.subset mem), ?_⟩
    have := part.length_le
    omega

theorem AdmissibleKeys.concat (admissible : AdmissibleKeys keys) (admits : AdmitsKeys keys req)
    (scope : req.scope = "host" ∨ req.scope = "process") :
    AdmissibleKeys (keys ++ [(req.scope, requestIdentity req)]) := by
  unfold AdmitsKeys at admits
  rcases scope with host | process
  · rw [if_pos host] at admits
    subst admits
    exact .inr (.inl ⟨requestIdentity req, by rw [host]; rfl⟩)
  · have notHost : req.scope ≠ "host" := by
      rw [process]
      decide
    rw [if_neg notHost] at admits
    obtain ⟨fits, room⟩ := admits
    -- The running sessions are processes: a host session would have refused the request.
    have processes : (∀ key ∈ keys, key.1 = "process") ∧ (keys.map Prod.snd).Nodup := by
      rcases admissible with rfl | ⟨identity, rfl⟩ | ⟨-, processes, distinct⟩
      · simp
      · exact absurd rfl (fits _ (mem_singleton_self _)).1
      · exact ⟨processes, distinct⟩
    refine .inr (.inr ⟨?_, ?_, ?_⟩)
    · rw [length_append, length_singleton]
      omega
    · exact forall_mem_append.mpr ⟨processes.1, forall_mem_singleton.mpr process⟩
    · exact nodup_map_concat processes.2 fun key mem => (fits key mem).2.2

/-! ## What the steps do to the running sessions -/

/-- An update of session rows that starts no session and moves none. -/
def OnlyRetires (update : ContinuousSessionRow → ContinuousSessionRow) : Prop :=
  ∀ session, (update session).desiredState = .running →
    session.desiredState = .running ∧ (update session).targetIP = session.targetIP ∧
      admissionKey (update session) = admissionKey session

/-- The keys of the running sessions of an address. -/
def SessionStore.activeKeys (store : SessionStore) (targetIP : String) : List (String × String) :=
  (store.activeSessions targetIP).map admissionKey

/-- Under an update that only retires, the running sessions of an address become fewer. -/
theorem SessionStore.activeKeys_sublist {before later : SessionStore}
    {update : ContinuousSessionRow → ContinuousSessionRow} (retires : OnlyRetires update)
    (mapped : later.sessions = before.sessions.map update) (targetIP : String) :
    (later.activeKeys targetIP).Sublist (before.activeKeys targetIP) := by
  unfold activeKeys activeSessions
  rw [mapped]
  induction before.sessions with
  | nil => exact List.Sublist.slnil
  | cons session rest ih =>
    rw [map_cons, filter_cons, filter_cons]
    by_cases active : ((update session).targetIP = targetIP &&
        (update session).desiredState = .running) = true
    · have spelled := active
      simp only [Bool.and_eq_true, decide_eq_true_eq] at spelled
      obtain ⟨running, sameIP, sameKey⟩ := retires session spelled.2
      have activeBefore : (session.targetIP = targetIP && session.desiredState = .running) =
          true := by
        simp only [Bool.and_eq_true, decide_eq_true_eq]
        exact ⟨sameIP.symm.trans spelled.1, running⟩
      rw [if_pos active, if_pos activeBefore, map_cons, map_cons, sameKey]
      exact ih.cons_cons _
    · rw [if_neg active]
      split
      · exact ih.cons _
      · exact ih

/-- A new session joins the running sessions of its address, and of no other. -/
theorem SessionStore.insertSession_activeKeys (store : SessionStore) (prepared : PreparedSession)
    (revision : Nat) (targetIP : String) :
    (store.insertSession prepared revision).activeKeys targetIP =
      if targetIP = prepared.req.targetIP then
        store.activeKeys targetIP ++ [(prepared.req.scope, requestIdentity prepared.req)]
      else store.activeKeys targetIP := by
  unfold activeKeys activeSessions
  change (((store.sessions ++ [_]).filter _).map admissionKey) = _
  by_cases same : targetIP = prepared.req.targetIP
  · subst same
    simp [PreparedSession.session, admissionKey, continuousSelectorIdentity, requestIdentity]
  · have other : ¬prepared.req.targetIP = targetIP := fun eq => same eq.symm
    simp [PreparedSession.session, same, other]

theorem onlyRetires_stop (id revision : Nat) (now : Int) :
    OnlyRetires fun session =>
      if session.id = id then stopRow revision now session else session := by
  intro session running
  dsimp only at running ⊢
  by_cases named : session.id = id
  · rw [if_pos named] at running
    cases running
  · rw [if_neg named] at running ⊢
    exact ⟨running, rfl, rfl⟩

theorem OnlyRetires.comp {first second : ContinuousSessionRow → ContinuousSessionRow}
    (later : OnlyRetires second) (earlier : OnlyRetires first) : OnlyRetires (second ∘ first) := by
  intro session running
  obtain ⟨middle, sameIP, sameKey⟩ := later (first session) running
  obtain ⟨start, firstIP, firstKey⟩ := earlier session middle
  exact ⟨start, sameIP.trans firstIP, sameKey.trans firstKey⟩

theorem onlyRetires_id : OnlyRetires id := fun _ running => ⟨running, rfl, rfl⟩

theorem observeSession_retires (now : Int) (req : ReconcileContinuousReq)
    (sessions : List ContinuousSessionRow) (observed : ContinuousObservedReport) :
    ∃ update, OnlyRetires update ∧
      observeSession now req sessions observed = sessions.map update := by
  unfold observeSession
  split
  · exact ⟨id, onlyRetires_id, (map_id _).symm⟩
  split
  · exact ⟨id, onlyRetires_id, (map_id _).symm⟩
  split
  · exact ⟨id, onlyRetires_id, (map_id _).symm⟩
  · refine ⟨_, ?_, rfl⟩
    intro session running
    dsimp only at running ⊢
    split at running
    · next named => rw [if_pos named]; exact ⟨running, rfl, rfl⟩
    · next unnamed => rw [if_neg unnamed]; exact ⟨running, rfl, rfl⟩

theorem reconcile_retires (store : SessionStore) (requestUID : String) (now : Int)
    (req : ReconcileContinuousReq) :
    ∃ update, OnlyRetires update ∧
      (store.reconcileContinuousSessions requestUID now req).sessions =
        store.sessions.map update := by
  have loop (trimmed : ReconcileContinuousReq) (entries : List ContinuousObservedReport) :
      ∀ sessions, ∃ update, OnlyRetires update ∧
        entries.foldl (observeSession now trimmed) sessions = sessions.map update := by
    induction entries with
    | nil => exact fun sessions => ⟨id, onlyRetires_id, (map_id _).symm⟩
    | cons observed rest ih =>
      intro sessions
      obtain ⟨first, firstRetires, mapped⟩ := observeSession_retires now trimmed sessions observed
      obtain ⟨later, laterRetires, mappedLater⟩ := ih (sessions.map first)
      refine ⟨later ∘ first, laterRetires.comp firstRetires, ?_⟩
      rw [foldl_cons, mapped, mappedLater, map_map]
  unfold reconcileContinuousSessions
  dsimp only
  split
  · exact loop _ _ _
  · exact ⟨id, onlyRetires_id, (map_id _).symm⟩

/-! ## Steps of the system -/

namespace SessionWorld

/-- Everything a step can do: take rows and go on, commit a new session, or commit something that
only retires sessions and end. -/
inductive Moves (w : SessionWorld) : SessionWorld → Prop
  | goesOn (tx : Nat) (state : SessionTx)
      (owns : ∀ lock ∈ state.locks, w.lockFree tx lock ∨
        ∃ old, (tx, old) ∈ w.txs ∧ lock ∈ old.locks)
      (admits : ∀ prepared revision, state = .create prepared (.admitted revision) →
        AdmitsKeys (w.store.activeKeys prepared.req.targetIP) prepared.req) :
      Moves w (w.put tx state)
  | inserts (tx : Nat) (prepared : PreparedSession) (revision : Nat)
      (stands : (tx, .create prepared (.admitted revision)) ∈ w.txs) :
      Moves w { w.finish tx with store := w.store.insertSession prepared (revision + 1) }
  | retires (next : SessionWorld) (update : ContinuousSessionRow → ContinuousSessionRow)
      (only : OnlyRetires update) (mapped : next.store.sessions = w.store.sessions.map update)
      (fewer : next.txs.Sublist w.txs) : Moves w next

variable {w next : SessionWorld} {tx : Nat} {now : Int} {entry : Nat × SessionTx}

theorem Moves.ends (w : SessionWorld) (tx : Nat) : w.Moves (w.finish tx) :=
  .retires _ id onlyRetires_id (map_id _).symm (release_sublist w.txs tx)

theorem Moves.stays (w : SessionWorld) : w.Moves w :=
  .retires _ id onlyRetires_id (map_id _).symm (List.Sublist.refl _)

theorem whenFree_some {lock : RowLock} {after : SessionWorld}
    (taken : w.whenFree tx lock after = some next) : w.lockFree tx lock = true ∧ after = next := by
  rwa [whenFree, Option.ite_none_right_eq_some, Option.some.injEq] at taken

/-- A transaction keeps the rows it holds and takes a free one. -/
theorem Moves.takes {old state : SessionTx} {lock : RowLock} (stands : (tx, old) ∈ w.txs)
    (free : w.lockFree tx lock = true) (locks : state.locks = old.locks ++ [lock])
    (early : ∀ prepared revision, state ≠ .create prepared (.admitted revision)) :
    w.Moves (w.put tx state) := by
  refine .goesOn tx state (fun other held => ?_) (fun _ _ same => absurd same (early _ _))
  rcases mem_append.mp (locks ▸ held) with before | new
  · exact .inr ⟨old, stands, before⟩
  · rw [mem_singleton.mp new]
    exact .inl free

theorem advanceCreate_moves {prepared : PreparedSession}
    {progress : CreateProgress} (stands : (tx, .create prepared progress) ∈ w.txs)
    (taken : w.advanceCreate tx now prepared progress = some next) : w.Moves next := by
  -- Each statement can fail, which ends the transaction; what is left are the statements in their
  -- order.
  cases progress
  all_goals
    simp only [advanceCreate] at taken
    split at taken
    · cases taken
      exact .ends w tx
  · obtain ⟨free, rfl⟩ := whenFree_some taken
    exact .takes stands free rfl fun _ _ => nofun
  · obtain ⟨free, rfl⟩ := whenFree_some taken
    split
    · exact .takes stands free rfl fun _ _ => nofun
    · exact .ends w tx
  · next accepted =>
    cases taken
    refine .goesOn tx _ (fun lock held => .inr ⟨_, stands, held⟩) ?_
    intro other otherRevision same
    cases same
    exact (validateContinuousActiveSet_none _ _).mp accepted
  · next revision _ =>
    cases taken
    exact .inserts tx prepared revision stands

theorem advanceStop_moves {id : Nat} {progress : StopProgress}
    (stands : (tx, .stop id now progress) ∈ w.txs)
    (taken : w.advanceStop tx id now progress = some next) : w.Moves next := by
  cases progress with
  | begun =>
    simp only [advanceStop] at taken
    split at taken
    · cases taken
      exact .ends w tx
    · obtain ⟨free, rfl⟩ := whenFree_some taken
      split
      · exact .ends w tx
      · exact .takes stands free rfl fun _ _ => nofun
  | sessionLocked =>
    simp only [advanceStop] at taken
    split at taken
    · cases taken
      exact .goesOn tx _ (fun lock held => .inr ⟨_, stands, held⟩) fun _ _ => nofun
    · obtain ⟨free, rfl⟩ := whenFree_some taken
      exact .takes stands free rfl fun _ _ => nofun
  | stateLocked current stateRevision =>
    simp only [advanceStop, Option.some.injEq] at taken
    subst taken
    exact .retires _ _ (onlyRetires_stop current.id _ now)
      (markStopped_sessions current stateRevision now)
      (release_sublist w.txs tx)

theorem step_moves {action : SessionAction} (taken : w.step action = some next) : w.Moves next := by
  cases action with
  | create tx | stop tx =>
    -- A request is answered at once, or its transaction begins and holds no lock yet.
    simp only [step] at taken
    repeat' split at taken
    all_goals
      cases taken <;>
        first | exact .stays w | exact .goesOn tx _ (fun _ => nofun) (fun _ _ => nofun)
  | advance tx =>
    simp only [step, tx?] at taken
    split at taken
    · cases taken
    · next found => exact advanceCreate_moves (mem_of_lookup found) taken
    · next found => exact advanceStop_moves (mem_of_lookup found) taken
  | abort tx =>
    cases taken
    exact .ends w tx
  | report requestUID now req =>
    simp only [step, Option.ite_none_right_eq_some, Option.some.injEq] at taken
    obtain ⟨-, rfl⟩ := taken
    obtain ⟨update, only, mapped⟩ := reconcile_retires w.store requestUID now req
    exact .retires _ update only mapped (List.Sublist.refl _)

/-! ## Runs of the system -/

/-- What holds in every state: transactions hold different rows, a creation that passed its check
still fits, and the running sessions of every address are admissible. -/
structure Admitting (w : SessionWorld) : Prop where
  exclusive : ∀ a ∈ w.txs, ∀ b ∈ w.txs, a.1 ≠ b.1 → ∀ lock ∈ a.2.locks, lock ∉ b.2.locks
  fits : ∀ tx prepared revision, (tx, .create prepared (.admitted revision)) ∈ w.txs →
    AdmitsKeys (w.store.activeKeys prepared.req.targetIP) prepared.req
  admissible : ∀ targetIP, AdmissibleKeys (w.store.activeKeys targetIP)

/-- The rows of a transaction that goes on are held by no other one. -/
theorem owned_exclusive
    (exclusive : ∀ a ∈ w.txs, ∀ b ∈ w.txs, a.1 ≠ b.1 → ∀ lock ∈ a.2.locks, lock ∉ b.2.locks)
    {state : SessionTx}
    (owns : ∀ lock ∈ state.locks, w.lockFree tx lock ∨ ∃ old, (tx, old) ∈ w.txs ∧ lock ∈ old.locks)
    (mem : entry ∈ w.txs) (other : entry.1 ≠ tx) : ∀ lock ∈ state.locks, lock ∉ entry.2.locks := by
  intro lock held
  rcases owns lock held with free | ⟨old, stands, heldBefore⟩
  · simpa [other] using all_eq_true.mp free entry mem
  · exact exclusive (tx, old) stands entry mem (fun same => other same.symm) lock heldBefore

theorem Moves.admitting (admitting : w.Admitting) (moves : w.Moves next) : next.Admitting := by
  obtain ⟨exclusive, fits, admissible⟩ := admitting
  cases moves with
  | goesOn tx state owns admits =>
    refine ⟨fun a first b second differ lock held => ?_, fun number prepared revision stands => ?_,
      admissible⟩
    · rcases mem_place.mp first with rfl | ⟨oldA, otherA⟩ <;>
        rcases mem_place.mp second with rfl | ⟨oldB, otherB⟩
      · exact absurd rfl differ
      · exact owned_exclusive exclusive owns oldB otherB lock held
      · intro taken
        exact owned_exclusive exclusive owns oldA otherA lock taken held
      · exact exclusive a oldA b oldB differ lock held
    · rcases mem_place.mp stands with same | ⟨old, -⟩
      · exact admits prepared revision (congrArg Prod.snd same).symm
      · exact fits number prepared revision old
  | inserts tx prepared revision stands =>
    have fitsNow := fits tx prepared revision stands
    refine ⟨fun a first b second => ?_, fun number other otherRevision later => ?_,
      fun targetIP => ?_⟩
    · exact exclusive a (mem_release.mp first).1 b (mem_release.mp second).1
    · obtain ⟨old, differs⟩ := mem_release.mp later
      -- Another creation at the same address would hold the same state row.
      have elsewhere : other.req.targetIP ≠ prepared.req.targetIP := by
        intro same
        refine exclusive _ old _ stands differs (.agentState other.req.targetIP) ?_ ?_
        · exact mem_cons_of_mem _ (mem_singleton_self _)
        · rw [same]
          exact mem_cons_of_mem _ (mem_singleton_self _)
      rw [insertSession_activeKeys, if_neg elsewhere]
      exact fits number other otherRevision old
    · rw [insertSession_activeKeys]
      split
      · next same =>
        subst same
        exact (admissible _).concat fitsNow (scope_of_valid prepared.valid)
      · exact admissible targetIP
  | retires next update only mapped fewer =>
    have shrinks := activeKeys_sublist only mapped
    refine ⟨fun a first b second => ?_, fun number prepared revision stands => ?_,
      fun targetIP => ?_⟩
    · exact exclusive a (fewer.subset first) b (fewer.subset second)
    · exact (fits number prepared revision (fewer.subset stands)).sublist (shrinks _)
    · exact (admissible targetIP).sublist (shrinks targetIP)

/-- From tables with admissible sets of running sessions, every interleaving of creations, stops,
rollbacks and reports by any number of clients reaches only tables with admissible sets. -/
theorem active_sessions_admissible (start : SessionStore)
    (admissible : ∀ targetIP, AdmissibleSet (start.activeSessions targetIP))
    (actions : List SessionAction) (w : SessionWorld)
    (reached : run step { store := start } actions = some w) (targetIP : String) :
    AdmissibleSet (w.store.activeSessions targetIP) := by
  have initially : Admitting { store := start } :=
    ⟨forall_mem_nil _, fun _ _ _ stands => absurd stands not_mem_nil,
      fun targetIP => (admissibleSet_iff_keys _).mp (admissible targetIP)⟩
  have reaches := run_invariant (fun _ _ _ holds taken => (step_moves taken).admitting holds)
    initially reached
  exact (admissibleSet_iff_keys _).mpr (reaches.admissible targetIP)

/-- Tables with one connected agent and no session. -/
def connected : SessionStore where
  agents := [{ id := 1, ipAddr := "10.0.0.1", agentID := "agent-1" }]
  agentStates := [{ targetIP := "10.0.0.1", agentID := "agent-1", strictCapable := true,
                    observedAt := 1000 }]

/-- A request for one executable. -/
def processRequest (exe : String) : CreateContinuousSessionReq :=
  { name := "p", targetIP := "10.0.0.1", scope := "process", selectorExe := exe }

/-- Two clients create sessions for one executable and a third stops the session that won: the
second creation has to wait for the first and is then refused. -/
def racingClients : List SessionAction :=
  [.create 1 { now := 2000, newSID := "cps-1" } (processRequest "/bin/a"),
    .create 2 { now := 2000, newSID := "cps-2" } (processRequest "/bin/a (deleted)"),
    .advance 1 2000, .advance 1 2000, .advance 1 2000, .advance 1 2000,
    .advance 2 2000, .advance 2 2000, .advance 2 2000, .stop 3 true 3000 "cps-1", .advance 3 3000]

/-- Only one of the racing creations is admitted. -/
theorem racing_clients_admissible :
    ((run step { store := connected } racingClients).map fun w =>
      (w.store.activeSessions "10.0.0.1").map continuousSelectorIdentity) = some ["exe:/bin/a"] ∧
    ∀ w, run step { store := connected } racingClients = some w →
      AdmissibleSet (w.store.activeSessions "10.0.0.1") :=
  ⟨by decide, fun w reached =>
    active_sessions_admissible connected (fun _ => .inl rfl) racingClients w reached "10.0.0.1"⟩

end SessionWorld

end MiniDrop
