import Mathlib.Data.List.Basic
/-!
# Workers on one store

A pool is a store, the jobs that are under way on it, and a log with the latest entry first. A job
advances by one atomic step at a time: it may change the store, write to the log, and is replaced by
the jobs that are left to do. New jobs enter at the end. Nothing here refers to a particular
program.
-/
namespace MiniDrop.Base

open List

/-- What one step leaves: the store, the jobs that are left to do, and what it writes to the log. -/
structure Outcome (σ ι ε : Type) where
  store : σ
  next : List ι := []
  events : List ε := []

/-- A store with the jobs that are under way. -/
structure Pool (σ ι ε : Type) where
  store : σ
  jobs : List ι := []
  log : List ε := []

/-- What holds of the only entry, if there is one, holds of every entry. -/
theorem of_mem_atMostOne {α : Type} {l : List α} {good : α → Prop}
    (one : l = [] ∨ ∃ only, l = [only] ∧ good only) {x : α} (mem : x ∈ l) : good x := by
  rcases one with rfl | ⟨only, rfl, holds⟩
  · cases mem
  · rw [mem_singleton.mp mem]
    exact holds

namespace Pool

variable {σ ι ε η : Type} {run : σ → ι → η → Outcome σ ι ε} {good : ι → Prop} {p q : Pool σ ι ε}
  {before after next : List ι} {index : Nat} {other job : ι} {input : η}

/-- A step of the job at a position. -/
def advance (run : σ → ι → η → Outcome σ ι ε) (p : Pool σ ι ε) (index : Nat) (input : η) :
    Option (Pool σ ι ε) :=
  p.jobs[index]?.map fun job =>
    let out := run p.store job input
    { store := out.store
      jobs := p.jobs.take index ++ out.next ++ p.jobs.drop (index + 1)
      log := out.events ++ p.log }

/-- New jobs enter. -/
def enter (p : Pool σ ι ε) (out : Outcome σ ι ε) : Pool σ ι ε :=
  { store := out.store, jobs := p.jobs ++ out.next, log := out.events ++ p.log }

/-- The jobs that a step leaves stand where its job stood. -/
abbrev between (p : Pool σ ι ε) (before after : List ι) (out : Outcome σ ι ε) : Pool σ ι ε :=
  { store := out.store, jobs := before ++ out.next ++ after, log := out.events ++ p.log }

/-- A step of a job, with the jobs before and after it. -/
theorem advance_eq_some (taken : p.advance run index input = some q) :
    ∃ before job after, p.jobs[index]? = some job ∧ p.jobs = before ++ job :: after ∧
      q = p.between before after (run p.store job input) := by
  obtain ⟨job, found, rfl⟩ := Option.map_eq_some_iff.mp taken
  obtain ⟨inside, same⟩ := List.getElem?_eq_some_iff.mp found
  refine ⟨p.jobs.take index, job, p.jobs.drop (index + 1), found, ?_, rfl⟩
  rw [← same, ← List.drop_eq_getElem_cons inside, List.take_append_drop]

/-- A step of a job, with the jobs beside it. -/
theorem advance_beside (taken : p.advance run index input = some q) :
    ∃ job, p.jobs[index]? = some job ∧ q.store = (run p.store job input).store ∧
      q.log = (run p.store job input).events ++ p.log ∧
      ∀ other ∈ q.jobs, other ∈ (run p.store job input).next ∨ other ∈ p.jobs.eraseIdx index := by
  obtain ⟨job, found, rfl⟩ := Option.map_eq_some_iff.mp taken
  refine ⟨job, found, rfl, rfl, fun other mem => ?_⟩
  rw [eraseIdx_eq_take_drop_succ]
  simp only [mem_append] at mem ⊢
  tauto

/-- The jobs after a step are the new ones and others that were there. -/
theorem mem_replaced (job : ι) (mem : other ∈ before ++ next ++ after) :
    other ∈ next ∨ other ∈ before ++ job :: after := by
  simp only [mem_append, mem_cons] at mem ⊢
  tauto

/-- What all jobs are, all are after a step, if the new ones are. -/
theorem forall_replaced {jobs : List ι}
    (split : jobs = before ++ job :: after) (old : ∀ other ∈ jobs, good other)
    (new : ∀ other ∈ next, good other) : ∀ other ∈ before ++ next ++ after, good other := by
  intro other mem
  rcases mem_replaced job mem with left | kept
  · exact new other left
  · exact old other (split ▸ kept)

/-- What all jobs are, all are after others have entered, if these are. -/
theorem forall_enter {out : Outcome σ ι ε}
    (old : ∀ job ∈ p.jobs, good job) (new : ∀ job ∈ out.next, good job) :
    ∀ job ∈ (p.enter out).jobs, good job := forall_mem_append.mpr ⟨old, new⟩

/-- What all jobs are, all are after a step of the one at a position, if the new ones are. -/
theorem forall_beside {jobs all : List ι}
    (others : ∀ other ∈ all, other ∈ next ∨ other ∈ jobs.eraseIdx index)
    (old : ∀ other ∈ jobs, good other)
    (new : ∀ other ∈ next, good other) : ∀ other ∈ all, good other := by
  intro other mem
  rcases others other mem with left | beside
  · exact new other left
  · exact old other (mem_of_mem_eraseIdx beside)

/-- The jobs after a step are the new ones and those beside the one that advanced. -/
theorem mem_beside (mem : other ∈ before ++ next ++ after) :
    other ∈ next ∨ other ∈ before ++ after := by
  simp only [mem_append] at mem ⊢
  tauto

/-- A job and another one beside it that pass a test are two. -/
theorem two_le_countP {test : ι → Bool} (passes : test job = true)
    (beside : other ∈ before ++ after) (otherPasses : test other = true) :
    2 ≤ (before ++ job :: after).countP test := by
  have one : 0 < (before ++ after).countP test := countP_pos_iff.mpr ⟨other, beside, otherPasses⟩
  simp only [countP_append, countP_cons, passes, if_true] at one ⊢
  omega

/-- How many jobs pass a test after a step. -/
theorem countP_replaced (test : ι → Bool) (before : List ι) (job : ι) (next after : List ι) :
    (before ++ next ++ after).countP test + [job].countP test =
      (before ++ job :: after).countP test + next.countP test := by
  simp only [countP_append, countP_cons, countP_nil]
  omega

end Pool

end MiniDrop.Base
