import MiniDrop.Server.Sessions
/-!
# Concurrent session transactions

Creations and stops run as database transactions that take row locks in a fixed order and hold them
to their end. A transaction advances one statement at a time; a statement that wants a row another
transaction holds has to wait. What a transaction writes becomes visible when it commits.
-/
namespace MiniDrop

/-- A row locked with `FOR UPDATE`. -/
inductive RowLock where
  | agent (id : Nat)
  | agentState (targetIP : String)
  | session (id : Nat)
  deriving DecidableEq

/-- How far a creation has come: its locks, the revision it read, and its check of the active
sessions. -/
inductive CreateProgress where
  | begun
  | agentLocked
  | stateLocked (revision : Nat)
  | admitted (revision : Nat)

/-- How far a stop has come: the session it read, and the revision of the state row, if any. -/
inductive StopProgress where
  | begun
  | sessionLocked (current : ContinuousSessionRow)
  | stateLocked (current : ContinuousSessionRow) (stateRevision : Option Nat)

/-- An open transaction. -/
inductive SessionTx where
  | create (prepared : PreparedSession) (progress : CreateProgress)
  | stop (id : Nat) (now : Int) (progress : StopProgress)

/-- The rows a transaction holds. -/
def SessionTx.locks : SessionTx → List RowLock
  | .create _ .begun => []
  | .create prepared .agentLocked => [.agent prepared.agent.id]
  | .create prepared (.stateLocked _) | .create prepared (.admitted _) =>
    [.agent prepared.agent.id, .agentState prepared.req.targetIP]
  | .stop _ _ .begun => []
  | .stop id _ (.sessionLocked _) => [.session id]
  | .stop id _ (.stateLocked current stateRevision) =>
    .session id :: if stateRevision.isSome then [.agentState current.targetIP] else []

/-- The committed tables and the open transactions. -/
structure SessionWorld where
  store : SessionStore
  txs : List (Nat × SessionTx) := []

/-- What a client or the database can do next. -/
inductive SessionAction where
  | create (tx : Nat) (ctx : CreateContext) (req : CreateContinuousSessionReq)
  | stop (tx : Nat) (canManage : Bool) (now : Int) (sid : String)
  | advance (tx : Nat) (now : Int)
  | abort (tx : Nat)
  | report (requestUID : String) (now : Int) (req : ReconcileContinuousReq)

namespace SessionWorld

variable (w : SessionWorld)

/-- The open transaction of a number. -/
def tx? (tx : Nat) : Option SessionTx := w.txs.lookup tx

/-- The transaction in its next state. -/
def put (tx : Nat) (state : SessionTx) : SessionWorld :=
  { w with txs := Base.place w.txs tx state }

/-- The transaction is over, committed or rolled back. -/
def finish (tx : Nat) : SessionWorld :=
  { w with txs := Base.release w.txs tx }

/-- No other transaction holds the row. -/
def lockFree (tx : Nat) (lock : RowLock) : Bool :=
  w.txs.all fun entry => entry.1 = tx || !entry.2.locks.contains lock

/-- A statement that needs a row: it waits while another transaction holds the row. -/
def whenFree (tx : Nat) (lock : RowLock) (next : SessionWorld) : Option SessionWorld :=
  if w.lockFree tx lock then some next else none

/-- The next statement of the transaction of `createContinuousSession`. -/
def advanceCreate (tx : Nat) (now : Int) (prepared : PreparedSession) :
    CreateProgress → Option SessionWorld
  | .begun =>
    match w.store.agents.find? (·.id = prepared.agent.id) with
    | none => some (w.finish tx)
    | some _ =>
      w.whenFree tx (.agent prepared.agent.id) (w.put tx (.create prepared .agentLocked))
  | .agentLocked =>
    match w.store.agentState prepared.req.targetIP with
    | none => some (w.finish tx)
    | some state =>
      w.whenFree tx (.agentState prepared.req.targetIP)
        (if stateFresh now state then w.put tx (.create prepared (.stateLocked state.revision))
        else w.finish tx)
  | .stateLocked revision =>
    match validateContinuousActiveSet (w.store.activeSessions prepared.req.targetIP)
        prepared.req with
    | some _ => some (w.finish tx)
    | none => some (w.put tx (.create prepared (.admitted revision)))
  | .admitted revision =>
    -- The unique index refuses an identifier that is taken.
    if w.store.sessions.any (·.sid = prepared.ctx.newSID) then some (w.finish tx)
    else some { w.finish tx with store := w.store.insertSession prepared (revision + 1) }

/-- The next statement of the transaction of `StopContinuousSession`. -/
def advanceStop (tx id : Nat) (now : Int) : StopProgress → Option SessionWorld
  | .begun =>
    match w.store.sessions.find? (·.id = id) with
    | none => some (w.finish tx)
    | some current =>
      w.whenFree tx (.session id)
        (if current.desiredState = .stopped then w.finish tx
        else w.put tx (.stop id now (.sessionLocked current)))
  | .sessionLocked current =>
    match w.store.agentState current.targetIP with
    | none => some (w.put tx (.stop id now (.stateLocked current none)))
    | some state =>
      w.whenFree tx (.agentState current.targetIP)
        (w.put tx (.stop id now (.stateLocked current (some state.revision))))
  | .stateLocked current stateRevision =>
    some { w.finish tx with store := w.store.markStopped current stateRevision now }

/-- A report waits for the rows it writes: the state row and the sessions it names. -/
def reportFree (req : ReconcileContinuousReq) : Bool :=
  w.txs.all fun entry =>
    !entry.2.locks.contains (.agentState req.targetIP) &&
      w.store.sessions.all fun session =>
        !(req.sessions.any fun observed => observed.names req.targetIP session) ||
          !entry.2.locks.contains (.session session.id)

/-- One step of the system; an action that has to wait is not enabled. -/
def step : SessionAction → Option SessionWorld
  | .create tx ctx req =>
    if (w.tx? tx).isSome then none
    else
      match prepareContinuousSession ctx w.store req with
      | .error _ => some w
      | .ok prepared => some (w.put tx (.create prepared .begun))
  | .stop tx canManage now sid =>
    if (w.tx? tx).isSome then none
    else
      match w.store.sessions.find? (·.sid = trimSpace sid) with
      | none => some w
      | some loaded => if canManage then some (w.put tx (.stop loaded.id now .begun)) else some w
  | .advance tx now =>
    match w.tx? tx with
    | none => none
    | some (.create prepared progress) => w.advanceCreate tx now prepared progress
    | some (.stop id stopNow progress) => w.advanceStop tx id stopNow progress
  | .abort tx => some (w.finish tx)
  | .report requestUID now req =>
    if w.reportFree { req with targetIP := trimSpace req.targetIP } then
      some { w with store := w.store.reconcileContinuousSessions requestUID now req }
    else none

end SessionWorld

end MiniDrop
