import Mathlib.Algebra.Order.BigOperators.Group.List
import Mathlib.Data.Int.ConditionallyCompleteOrder
import MiniDrop.Analysis.Collapsed
/-!
# Self and inclusive counts

Both passes of the analyser read the same lines, whatever numbers `int` reads. The total is that of
the first pass, which drops a line whose last frame is blank; the second pass still counts the other
frames of it. The counts fit together exactly if there is no such line.
-/
namespace MiniDrop.Analysis

open List

variable {name : List Char} {line : StackLine}

/-- The last frame of a line, or an empty text. -/
def top (line : StackLine) : List Char := strip (line.functions.getLast?.getD [])

/-- The line counts for some frame. -/
def Contributes (line : StackLine) : Prop := ∃ frame ∈ line.functions, strip frame ≠ []

instance contributesDecidable : DecidablePred Contributes :=
  fun line => inferInstanceAs (Decidable (∃ frame ∈ line.functions, _))

theorem top_mem (shown : top line ≠ []) : top line ∈ line.functions.map strip := by
  unfold top at shown ⊢
  cases last : line.functions.getLast? with
  | none =>
    rw [last] at shown
    exact absurd rfl shown
  | some => exact mem_map_of_mem (mem_of_getLast? last)

theorem contributes_of_top (shown : top line ≠ []) : Contributes line := by
  obtain ⟨frame, mem, same⟩ := mem_map.mp (top_mem shown)
  exact ⟨frame, mem, same ▸ shown⟩

theorem selfTime_eq (line : StackLine) :
    selfTime line = if top line = [] then [] else [(top line, line.count)] := by
  unfold selfTime top
  cases line.functions.getLast? <;> rfl

theorem countOf_inclusiveTime (count : Int) (functions seen : List (List Char)) :
    countOf name (inclusiveTime count functions seen) =
      if name ∈ functions.map strip ∧ name ≠ [] ∧ name ∉ seen then count else 0 := by
  induction functions generalizing seen with
  | nil => simp [inclusiveTime, countOf]
  | cons func functions ih =>
    rw [inclusiveTime]
    split
    · next counts =>
      unfold countOf at ih ⊢
      by_cases own : strip func = name
      · simp_all
      · simp_all [Ne.symm own]
    · next passed =>
      rw [ih]
      by_cases own : name = strip func
      · subst own
        rw [if_neg fun counts => passed counts.2, if_neg fun counts => passed counts.2]
      · simp [own]

theorem sum_flatMap (f : StackLine → List Int) (lines : List StackLine) :
    (lines.flatMap f).sum = (lines.map fun line => (f line).sum).sum := by
  rw [flatMap_def, sum_flatten, map_map]
  rfl

section

variable (int : List Char → Option Int) (text : List Char)

theorem countOf_parseCollapsed : countOf name (parseCollapsed int text) =
    ((stackLines int text).map fun line =>
      if top line = name ∧ name ≠ [] then line.count else 0).sum := by
  unfold countOf parseCollapsed
  rw [filter_flatMap, map_flatMap, sum_flatMap]
  refine congrArg sum (map_congr_left fun line _ => ?_)
  rw [selfTime_eq]
  by_cases own : top line = name
  · subst own
    by_cases blank : top line = [] <;> simp [blank]
  · by_cases blank : top line = [] <;> simp [blank, own]

theorem countOf_computeInclusiveTime : countOf name (computeInclusiveTime int text) =
    ((stackLines int text).map fun line =>
      if name ∈ line.functions.map strip ∧ name ≠ [] then line.count else 0).sum := by
  unfold countOf computeInclusiveTime
  rw [filter_flatMap, map_flatMap, sum_flatMap]
  refine congrArg sum (map_congr_left fun line _ => ?_)
  exact (countOf_inclusiveTime line.count line.functions []).trans (by simp)

theorem totalSamples_eq : totalSamples int text =
    ((stackLines int text).map fun line => if top line ≠ [] then line.count else 0).sum := by
  unfold totalSamples parseCollapsed
  rw [map_flatMap, sum_flatMap]
  refine congrArg sum (map_congr_left fun line _ => ?_)
  rw [selfTime_eq]
  by_cases blank : top line = [] <;> simp [blank]

theorem stackLines_pos (read : line ∈ stackLines int text) : 0 < line.count := by
  obtain ⟨source, -, read⟩ := mem_filterMap.mp read
  simp only [stackLine, Option.ite_none_left_eq_some, Option.bind_eq_some_iff,
    Option.some.injEq] at read
  obtain ⟨-, parts, -, count, -, positive, rfl⟩ := read
  exact not_le.mp positive

/-- A line weighs no more where it counts for less. -/
theorem weight_le {P Q : Prop} [Decidable P] [Decidable Q] (read : line ∈ stackLines int text)
    (less : P → Q) : (if P then line.count else 0) ≤ if Q then line.count else 0 := by
  have positive := stackLines_pos int text read
  by_cases counts : P
  · rw [if_pos counts, if_pos (less counts)]
  · rw [if_neg counts]
    split <;> omega

/-- Each self count is at most the inclusive one, each of these at most the total, and the total is
that of the lines that contribute, exactly if each of these lines has a last frame that is not
blank. -/
theorem collapsed_consistent_iff :
    ((∀ name, countOf name (parseCollapsed int text) ≤
        countOf name (computeInclusiveTime int text) ∧
        countOf name (computeInclusiveTime int text) ≤ totalSamples int text) ∧
      totalSamples int text = (((stackLines int text).filter (Contributes ·)).map (·.count)).sum) ↔
    ∀ line ∈ stackLines int text, Contributes line → top line ≠ [] := by
  have contributing : (((stackLines int text).filter (Contributes ·)).map (·.count)).sum =
      ((stackLines int text).map fun line => if Contributes line then line.count else 0).sum := by
    rw [sum_map_ite]
    simp
  rw [contributing, totalSamples_eq]
  constructor
  · rintro ⟨-, same⟩ line read contributes blank
    refine absurd same (ne_of_lt (sum_lt_sum _ _ (fun other mem => ?_) ⟨line, read, ?_⟩))
    · exact weight_le int text mem contributes_of_top
    · rw [if_neg fun shown => shown blank, if_pos contributes]
      exact stackLines_pos int text read
  · intro shown
    refine ⟨fun name => ⟨?_, ?_⟩, ?_⟩
    · rw [countOf_parseCollapsed, countOf_computeInclusiveTime]
      refine sum_le_sum fun line read => weight_le int text read ?_
      rintro ⟨rfl, named⟩
      exact ⟨top_mem named, named⟩
    · rw [countOf_computeInclusiveTime]
      refine sum_le_sum fun line read => weight_le int text read ?_
      rintro ⟨mem, named⟩
      obtain ⟨frame, frameIn, rfl⟩ := mem_map.mp mem
      exact shown line read ⟨frame, frameIn, named⟩
    · refine congrArg sum (map_congr_left fun line read => ?_)
      have same : top line ≠ [] ↔ Contributes line := ⟨contributes_of_top, shown line read⟩
      simp only [same]

end

/-- The second pass counts the frame of a line that the first pass drops: `a` has five samples of
none. -/
theorem blank_top_frame_miscounted :
    let int (digits : List Char) : Option Int := if digits = ['5'] then some 5 else none
    countOf ['a'] (computeInclusiveTime int "a; 5".toList) = 5 ∧
        totalSamples int "a; 5".toList = 0 := by
  decide

end MiniDrop.Analysis
