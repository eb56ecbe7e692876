import Mathlib
import MiniDrop.Agent.SessionManager
import MiniDrop.Base.Delimited
import MiniDrop.Base.Json
/-!
# The fingerprint of the shared collector

The manager compares what it has to collect with what is collected by one text over all sessions.
Where no text of an assignment has one of the marks that the fingerprint puts behind it, the
fingerprint tells the sessions, the fields that it mentions and the numbers and starts of their
processes. What it does not mention has to be settled by what it mentions.
-/
namespace MiniDrop.Agent

open Base List

/-! ## Numbers -/

variable {c mark : Char} {entry : String × SessionRuntime}
  {entries others : List (String × SessionRuntime)}

theorem mark_notMem_intText (digit : mark.isDigit = false) (sign : mark ≠ '-') (n : Int) :
    mark ∉ (toString n).toList := by
  intro mem
  have numeral := (readInt_text n).2 mark mem
  simp [isNumeral, digit, sign] at numeral

theorem mark_notMem_natText (digit : mark.isDigit = false) (n : Nat) :
    mark ∉ (toString n).toList := by
  intro mem
  have isDigit := natText_digit mem
  rw [digit] at isDigit
  exact Bool.false_ne_true isDigit

/-! ## The text of one session -/

/-- What `same_targets` and the fingerprint know of a process. -/
def ContinuousTargetProcess.key (target : ContinuousTargetProcess) : Int × Int :=
  (target.pid, target.processStartMs)

/-- The fields that stand in the fingerprint with a mark behind each. -/
def SessionRuntime.stamp (sid : String) (runtime : SessionRuntime) : List String :=
  [sid, toString runtime.assignment.revision, runtime.assignment.scope,
    runtime.assignment.continuityMode, if runtime.assignment.allowDegraded then "1" else "0",
    toString runtime.assignment.sampleRateHz,
    toString runtime.assignment.aggregationWindowSec, toString runtime.assignment.uploadBatchSec,
    runtime.assignment.selectorMode, toString runtime.assignment.selectorPid,
    toString runtime.assignment.selectorProcessStartMs, runtime.assignment.selectorCgroup,
    runtime.assignment.selectorContainerId]

/-- A text with a mark behind it. -/
def markedText (mark : Char) (text : String) : List Char := text.toList ++ [mark]

/-- A process in the fingerprint. -/
def targetText (key : Int × Int) : List Char :=
  markedText ':' (toString key.1) ++ markedText ',' (toString key.2)

theorem signals_toList (signals : List String) :
    (String.join (signals.map (· ++ ","))).toList = signals.flatMap (markedText ',') := by
  rw [String.toList_join, flatMap_map]
  refine flatMap_congr fun signal _ => ?_
  rw [String.toList_append]
  rfl

theorem targets_toList (targets : List ContinuousTargetProcess) :
    (String.join (targets.map fun target =>
      toString target.pid ++ ":" ++ toString target.processStartMs ++ ",")).toList =
      (targets.map (·.key)).flatMap targetText := by
  rw [String.toList_join, flatMap_map, flatMap_map]
  refine flatMap_congr fun target _ => ?_
  have colon : ":".toList = [':'] := by decide
  have comma : ",".toList = [','] := by decide
  simp [colon, comma, targetText, markedText, ContinuousTargetProcess.key]

/-- Texts in a row, with a mark behind each, then two more with a mark between them. -/
theorem marks_toList (a b c d e f g h i j k l m signals targets : String) :
    (a ++ "|" ++ b ++ "|" ++ c ++ "|" ++ d ++ "|" ++ e ++ "|" ++ f ++ "|" ++ g ++ "|" ++ h ++ "|" ++
      i ++ "|" ++ j ++ "|" ++ k ++ "|" ++ l ++ "|" ++ m ++ "|" ++ signals ++ ";" ++
      targets).toList =
      [a, b, c, d, e, f, g, h, i, j, k, l, m].flatMap (markedText '|') ++
        (signals.toList ++ (';' :: targets.toList)) := by
  have bar : "|".toList = ['|'] := by decide
  have stop : ";".toList = [';'] := by decide
  simp [bar, stop, markedText]

theorem fingerprint_toList (sid : String) (runtime : SessionRuntime) :
    (runtime.fingerprint sid).toList = (runtime.stamp sid).flatMap (markedText '|') ++
        (runtime.assignment.requestedSignals.flatMap (markedText ',') ++
          (';' :: (runtime.targets.map (·.key)).flatMap targetText)) := by
  unfold SessionRuntime.fingerprint SessionRuntime.stamp
  rw [marks_toList, signals_toList, targets_toList]

/-! ## What the text tells -/

/-- No text of the assignment has the mark that the fingerprint puts behind it; the name of the
session cannot be taken for a process. -/
def ContinuousAssignment.Plain (assignment : ContinuousAssignment) : Prop :=
  (∀ text ∈ [assignment.sid, assignment.scope, assignment.continuityMode, assignment.selectorMode,
      assignment.selectorCgroup, assignment.selectorContainerId], '|' ∉ text.toList) ∧
    ':' ∉ assignment.sid.toList ∧
    ∀ signal ∈ assignment.requestedSignals, ',' ∉ signal.toList ∧ ';' ∉ signal.toList
  deriving Decidable

/-- The entry of a session whose texts are plain. -/
structure PlainEntry (entry : String × SessionRuntime) : Prop where
  keyed : entry.2.assignment.sid = entry.1
  plain : entry.2.assignment.Plain

theorem delimits_marked (mark : Char) :
    Delimits (fun text : String => mark ∉ text.toList) (markedText mark) :=
  (delimits_closed mark).comap (fun _ plain => plain) fun _ _ _ _ same =>
    String.toList_injective same

theorem delimits_target : Delimits (fun _ : Int × Int => True) targetText := by
  have texts := (delimits_marked ':').pair (delimits_marked ',')
  refine texts.comap (f := fun key : Int × Int => (toString key.1, toString key.2)) ?_ ?_
  · intro key _
    exact ⟨mark_notMem_intText (by decide) (by decide) key.1,
      mark_notMem_intText (by decide) (by decide) key.2⟩
  · intro x y _ _ same
    have parts := Prod.mk.inj same
    exact Prod.ext (Int.repr_injective parts.1) (Int.repr_injective parts.2)

theorem PlainEntry.stamp (good : PlainEntry entry) :
    ∀ text ∈ entry.2.stamp entry.1, '|' ∉ text.toList := by
  have number (n : Int) : '|' ∉ (toString n).toList := mark_notMem_intText (by decide) (by decide) n
  have natural (n : Nat) : '|' ∉ (toString n).toList := mark_notMem_natText (by decide) n
  have flag (b : Bool) : '|' ∉ (if b then "1" else "0").toList := by cases b <;> decide
  have texts := good.plain.1
  rw [good.keyed] at texts
  simp only [forall_mem_cons, not_mem_nil, false_implies, implies_true, and_true] at texts
  obtain ⟨sid, scope, continuity, mode, cgroup, container⟩ := texts
  simp only [SessionRuntime.stamp, forall_mem_cons, not_mem_nil, false_implies, implies_true,
    and_true]
  exact ⟨sid, natural _, scope, continuity, flag _, number _, number _, number _, mode, number _,
    number _, cgroup, container⟩

/-- All that the fingerprint tells of a session. -/
def told (entry : String × SessionRuntime) : List String × List String × List (Int × Int) :=
  (entry.2.stamp entry.1, entry.2.assignment.requestedSignals, entry.2.targets.map (·.key))

/-- The text of an entry. -/
def sessionText (entry : String × SessionRuntime) : List Char :=
  (entry.2.fingerprint entry.1).toList

/-- What may follow the processes of a session: nothing, or the name of a session. -/
def OpensSession (rest : List Char) : Prop :=
  rest = [] ∨ ∃ name tail, rest = name ++ '|' :: tail ∧ ':' ∉ name

theorem targetText_not_opens (key : Int × Int) (rest : List Char) :
    ¬ OpensSession (targetText key ++ rest) := by
  have text : targetText key ++ rest =
      (toString key.1).toList ++ ':' :: (markedText ',' (toString key.2) ++ rest) := by
    simp [targetText, markedText]
  rw [text]
  rintro (empty | ⟨name, tail, same, plain⟩)
  · exact append_ne_nil_of_right_ne_nil _ (cons_ne_nil _ _) empty
  · have bar : '|' ∉ (toString key.1).toList := mark_notMem_intText (by decide) (by decide) key.1
    have marks := (append_mark_inj bar plain same).2.1
    exact absurd marks (by decide)

theorem PlainEntry.opens (good : PlainEntry entry) (rest : List Char) :
    OpensSession (sessionText entry ++ rest) := by
  refine Or.inr ⟨entry.1.toList, ?_⟩
  have name : ':' ∉ entry.1.toList := good.keyed ▸ good.plain.2.1
  rw [sessionText, fingerprint_toList, SessionRuntime.stamp, flatMap_cons, markedText]
  simp only [append_assoc, singleton_append]
  exact ⟨_, rfl, name⟩

theorem opensSession_flatMap (good : ∀ entry ∈ entries, PlainEntry entry) :
    OpensSession (entries.flatMap sessionText) := by
  cases entries with
  | nil => exact Or.inl rfl
  | cons entry => exact (good entry mem_cons_self).opens _

theorem signal_not_ends {signal : String} (plain : ';' ∉ signal.toList) (rest tail : List Char) :
    markedText ',' signal ++ rest ≠ ';' :: tail := by
  rw [markedText, append_assoc]
  cases text : signal.toList with
  | nil => exact fun same => absurd (cons.inj same).1 (by decide)
  | cons =>
    rw [text] at plain
    exact fun same => plain ((cons.inj same).1 ▸ mem_cons_self)

/-- The text of one session, with what follows it, tells the session and what follows it. -/
theorem told_head_eq {other : String × SessionRuntime} (good : PlainEntry entry)
    (fine : PlainEntry other) {rest tail : List Char} (opens : OpensSession rest)
    (begins : OpensSession tail)
    (same : sessionText entry ++ rest = sessionText other ++ tail) :
    told entry = told other ∧ rest = tail := by
  simp only [sessionText, fingerprint_toList, append_assoc, cons_append] at same
  have fields := (delimits_marked '|').flatMap 13 _ _ ⟨rfl, good.stamp⟩ ⟨rfl, fine.stamp⟩ _ _ same
  have ended (text : List Char) : ∃ t, ';' :: text = ';' :: t := ⟨text, rfl⟩
  have signals : Delimits (fun signal : String => ',' ∉ signal.toList ∧ ';' ∉ signal.toList)
      (markedText ',') :=
    (delimits_marked ',').comap (f := id) (fun _ plain => plain.1) fun _ _ _ _ equal => equal
  have listed := signals.flatMap_until (fun text => ∃ t, text = ';' :: t)
    (fun signal text plain ends => ends.elim fun t => signal_not_ends plain.2 text t)
    good.plain.2.2 fine.plain.2.2 (ended _) (ended _) fields.2
  have targets := delimits_target.flatMap_until OpensSession
    (fun key text _ => targetText_not_opens key text) (fun _ _ => trivial)
    (fun _ _ => trivial) opens begins (cons.inj listed.2).2
  refine ⟨?_, targets.2⟩
  rw [told, told, fields.1, listed.1, targets.1]

theorem map_told_eq (good : ∀ entry ∈ entries, PlainEntry entry)
    (fine : ∀ entry ∈ others, PlainEntry entry)
    (same : entries.flatMap sessionText = others.flatMap sessionText) :
    entries.map told = others.map told := by
  have nonempty {entry : String × SessionRuntime} (rest : List Char) :
      sessionText entry ++ rest ≠ [] := by
    rw [sessionText, fingerprint_toList, SessionRuntime.stamp, flatMap_cons, markedText]
    simp
  induction entries generalizing others with
  | nil =>
    cases others with
    | nil => rfl
    | cons => exact absurd same.symm (nonempty _)
  | cons entry entries ih =>
    cases others with
    | nil => exact absurd same (nonempty _)
    | cons other others =>
      have later : ∀ e ∈ entries, PlainEntry e := (forall_mem_cons.mp good).2
      have after : ∀ e ∈ others, PlainEntry e := (forall_mem_cons.mp fine).2
      have head := told_head_eq (good entry mem_cons_self) (fine other mem_cons_self)
        (opensSession_flatMap later) (opensSession_flatMap after) same
      rw [map_cons, map_cons, head.1, ih later after head.2]

/-- Two tables with one fingerprint tell the same of the sessions that collect. -/
theorem told_of_fingerprint {runtimes : List (String × SessionRuntime)}
    (good : ∀ entry ∈ runtimes, PlainEntry entry) (fine : ∀ entry ∈ others, PlainEntry entry)
    (same : fingerprint runtimes = fingerprint others) :
    (collecting runtimes).map told = (collecting others).map told := by
  refine map_told_eq (fun entry mem => good entry (mem_of_mem_filter mem))
    (fun entry mem => fine entry (mem_of_mem_filter mem)) ?_
  have texts := congrArg String.toList same
  simp only [fingerprint, String.toList_join, flatMap_map] at texts
  exact texts

end MiniDrop.Agent
