import MiniDrop.Drop.ResultNotifier
/-!
# Notifications are read back

The server reads from a notification what the result says, unless a text has a control character
other than the line feed, such as a tab in the output of a tool: then it refuses the document.
-/
namespace MiniDrop.DropTaskResult

open Base List

/-- A character that is not a control character, or is the line feed. -/
def plainChar (c : Char) : Bool := ' ' ≤ c || c = '\n'

/-- A character is read back from its escape, if it is plain. -/
theorem readText_jsonEscape_cons (c : Char) (value rest : List Char) :
    readText (jsonEscape (c :: value) ++ rest) =
      if plainChar c then (readText (jsonEscape value ++ rest)).map fun read =>
      (c :: read.1, read.2) else none := by
  rw [jsonEscape, append_assoc]
  by_cases marked : c = '"' ∨ c = '\\'
  · rcases marked with rfl | rfl <;> rfl
  by_cases feed : c = '\n'
  · subst feed
    rfl
  -- The reader takes any other character as it is, and refuses a control character.
  rw [if_neg marked, if_neg feed, singleton_append]
  rw [not_or] at marked
  rw [readText_cons marked.1 marked.2]
  by_cases control : c < ' '
  · simp [plainChar, feed, control]
  · simp [plainChar, control, Char.not_lt.mp control]

theorem readText_jsonEscape (value rest : List Char) :
    readText (jsonEscape value ++ '"' :: rest) = if value.all plainChar then some (value, rest)
      else none := by
  induction value with
  | nil => rfl
  | cons c value ih =>
    rw [readText_jsonEscape_cons, ih, all_cons]
    cases plainChar c <;> cases value.all plainChar <;> rfl

/-- **A notification is read as what the result says exactly if its texts have no control characters
besides the line feed.** -/
theorem notification_read_back_iff (result : DropTaskResult) :
    readObject result.notifyBody = some result.members ↔
      ∀ text ∈ [result.taskID, result.errorMessage, result.cosKey, result.artifactSHA256,
        result.manifestKey, result.errorCode], ∀ c ∈ text.toList, ' ' ≤ c ∨ c = '\n' := by
  have names : ∀ mem ∈ result.members, ∀ rest,
      readText (mem.1 ++ '"' :: rest) = some (mem.1, rest) := by
    iterate 9 refine forall_mem_cons.mpr ⟨fun _ => rfl, ?_⟩
    exact forall_mem_nil _
  have filled : result.members ≠ [] := cons_ne_nil _ _
  rw [notifyBody, readObject_write readText_jsonEscape filled names, Option.ite_none_right_eq_some]
  simp [members, JsonScalar.sound, plainChar]

/-- The message of a tool has a tab, and the document is not one. -/
theorem tabbed_message_refused :
    readObject ({ taskID := "t", errorMessage := "perf:\tfailed" } : DropTaskResult).notifyBody =
    none := by
  decide +kernel

end MiniDrop.DropTaskResult
