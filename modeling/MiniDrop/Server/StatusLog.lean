import MiniDrop.Server.TaskWorkers
/-!
# The status log

The entries of the log that change a status, and what else writes to the log: download links, pins
and reanalyses leave an entry that repeats the status they have read. The sequence number of such an
entry was read some time before.
-/
namespace MiniDrop

namespace TaskStore

/-- The entries that change the status of a task, in the order of their insertion. -/
def changes (s : TaskStore) (tid : String) : List TaskStatusEvent :=
  s.events.filter fun event => event.tid = tid ∧ event.fromStatus ≠ some event.toStatus

/-- The entries that change the status of a task, in the order of their sequence numbers. -/
def history (s : TaskStore) (tid : String) : List TaskStatusEvent :=
  Base.orderBy TaskStatusEvent.sequence (s.changes tid)

/-- `recordTaskStatusEventWithPayloadTx` with the status that was read before on both sides. -/
def addNote (s : TaskStore) (tid : String) (status : TaskStatus) (reason source : String)
    (sequence : Nat) (now : Int) : TaskStore :=
  { s with
    events := s.events ++
      [{ tid, fromStatus := some status, toStatus := status, reason, source, sequence,
         createdAt := now }] }

end TaskStore

/-- What can happen to the log. -/
inductive LogAction where
  /-- A step of the status writers. -/
  | task (action : TaskAction)
  /-- An entry about a download, a pin or a reanalysis. -/
  | note (tid : String) (status : TaskStatus) (reason source : String) (sequence : Nat) (now : Int)

/-- One step of the system with the other writers of the log, which have read a task. A sequence
number that was read before is at most the next one. -/
def TaskWorld.logStep (w : TaskWorld) : LogAction → Option TaskWorld
  | .task action => TaskWorld.step w action
  | .note tid status reason source sequence now =>
    if (w.store.statusOf tid).isSome ∧ sequence ≤ w.store.nextTaskEventSequence tid then
      some { w with store := w.store.addNote tid status reason source sequence now }
    else none

/-- The record of a creation that a job has still to write. -/
def Job.records : Job → Option (String × TaskStatus)
  | .recordEvent tid toStatus _ _ => some (tid, toStatus)
  | .insertEvent tid toStatus _ _ _ => some (tid, toStatus)
  | _ => none

/-- The task whose status a job writes in its next step. -/
def Job.moves : Job → Option HotmethodTask
  | .accepted _ task _ => some task
  | .exhausted _ task _ => some task
  | .abandoning task _ => some task
  | .notified req task => if req.isError then none else some task
  | .notifyFailing _ task _ => some task
  | .notifyAdvance _ task => some task
  | .movingParent parent _ _ => some parent
  | .canceling task _ => some task
  | .polled task _ => some task
  | _ => none

/-- The creations that are not recorded yet. -/
def TaskWorld.unrecorded (w : TaskWorld) : List (String × TaskStatus) :=
  w.jobs.filterMap Job.records

end MiniDrop
