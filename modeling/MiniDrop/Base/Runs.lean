import Mathlib.Data.List.Basic
/-!
# Runs of a guarded system

A system is a step function that refuses an action it is not ready for. A run is the list of the
actions taken; an invariant of the steps is an invariant of the runs, and a condition on the steps
of a run is a condition on each action in the state before it. Nothing here refers to a particular
program.
-/
namespace MiniDrop.Base

variable {σ α : Type} (step : σ → α → Option σ)

/-- The state after a list of actions, if every one of them is enabled in its turn. -/
def run : σ → List α → Option σ
  | s, [] => some s
  | s, a :: rest => (step s a).bind fun t => run t rest

/-- Every action of the run meets a condition in the state before it. -/
def Along (allowed : σ → α → Prop) : σ → List α → Prop
  | _, [] => True
  | s, a :: rest => allowed s a ∧ ∀ t, step s a = some t → Along allowed t rest

/-- A check of every action in the state before it. -/
def alongCheck (check : σ → α → Bool) : σ → List α → Bool
  | _, [] => true
  | s, a :: rest => check s a && (step s a).all fun t => alongCheck check t rest

variable {step} {s t m : σ} {actions first second : List α} {inv : σ → Prop}
  {allowed : σ → α → Prop}

/-- A run of one action and more takes that action first. -/
theorem run_cons {a : α} {rest : List α} :
    run step s (a :: rest) = some t ↔ ∃ m, step s a = some m ∧ run step m rest = some t := by
  rw [run, Option.bind_eq_some_iff]

/-- A run can be stopped half way. -/
theorem run_append : run step s (first ++ second) = some t ↔
      ∃ m, run step s first = some m ∧ run step m second = some t := by
  induction first generalizing s with
  | nil => simp [run]
  | cons a rest ih =>
    simp only [List.cons_append, run_cons, ih, ← exists_and_left, ← exists_and_right, and_assoc]
    exact exists_comm

/-- What the state after a run was computed to be. -/
theorem exists_run {p : σ → Prop} [DecidablePred p]
    (seen : (run step s actions).any (fun t => decide (p t)) = true) :
    ∃ t, run step s actions = some t ∧ p t := by
  obtain ⟨t, reached, facts⟩ := (Option.any_eq_true _ _).mp seen
  exact ⟨t, reached, of_decide_eq_true facts⟩

/-- A condition on the actions alone. -/
theorem along_of_mem {allowed : α → Prop} (all : ∀ a ∈ actions, allowed a) (s : σ) :
    Along step (fun _ a => allowed a) s actions := by
  induction actions generalizing s with
  | nil => trivial
  | cons a rest ih =>
    have later : ∀ b ∈ rest, allowed b := (List.forall_mem_cons.mp all).2
    exact ⟨all a List.mem_cons_self, fun t _ => ih later t⟩

/-- A condition along a run holds along its second half. -/
theorem along_append (along : Along step allowed s (first ++ second))
    (reached : run step s first = some m) :
    Along step allowed s first ∧ Along step allowed m second := by
  induction first generalizing s with
  | nil =>
    cases reached
    exact ⟨trivial, along⟩
  | cons a rest ih =>
    obtain ⟨t, taken, tail⟩ := run_cons.mp reached
    obtain ⟨-, later⟩ := ih (along.2 t taken) tail
    refine ⟨⟨along.1, fun u other => ?_⟩, later⟩
    obtain rfl : t = u := Option.some.inj (taken.symm.trans other)
    exact (ih (along.2 t taken) tail).1

/-- Two conditions along a run. -/
theorem along_and {also : σ → α → Prop} (one : Along step allowed s actions)
    (other : Along step also s actions) :
    Along step (fun s a => allowed s a ∧ also s a) s actions := by
  induction actions generalizing s with
  | nil => trivial
  | cons a rest ih => exact ⟨⟨one.1, other.1⟩, fun t taken => ih (one.2 t taken) (other.2 t taken)⟩

/-- A run whose actions pass a check meets the condition that the check decides. -/
theorem along_of_check {check : σ → α → Bool} (decides : ∀ s a, check s a = true → allowed s a) :
    ∀ {s : σ}, alongCheck step check s actions = true → Along step allowed s actions := by
  induction actions with
  | nil => exact fun _ => trivial
  | cons a rest ih =>
    intro s passed
    rw [alongCheck, Bool.and_eq_true] at passed
    refine ⟨decides s a passed.1, fun t taken => ih ?_⟩
    have tail := passed.2
    rw [taken] at tail
    exact tail

/-- A condition that can be decided is checked by deciding it. -/
theorem along_of_decide [∀ s a, Decidable (allowed s a)]
    (passed : alongCheck step (fun s a => decide (allowed s a)) s actions = true) :
    Along step allowed s actions :=
  along_of_check (fun _ _ holds => of_decide_eq_true holds) passed

/-- What every allowed step keeps, every run of allowed steps keeps. -/
theorem run_invariant_along (keeps : ∀ s a t, inv s → allowed s a → step s a = some t → inv t) :
    ∀ {s t : σ}, inv s → Along step allowed s actions → run step s actions = some t → inv t := by
  induction actions with
  | nil =>
    intro s t holds _ reached
    cases reached
    exact holds
  | cons a rest ih =>
    intro s t holds along reached
    obtain ⟨m, taken, tail⟩ := run_cons.mp reached
    exact ih (keeps s a m holds along.1 taken) (along.2 m taken) tail

/-- What every step keeps, every run keeps. -/
theorem run_invariant (keeps : ∀ s a t, inv s → step s a = some t → inv t) {s t : σ} (holds : inv s)
    (reached : run step s actions = some t) : inv t :=
  run_invariant_along (fun s a t holds _ => keeps s a t holds) holds
    (along_of_mem (fun _ _ => trivial) s) reached

/-- A run that ends well meets the condition all along, where what is good at the end was good
before, and a good state is only reached by an allowed step. -/
theorem along_of_last {good : σ → Prop} (keeps : ∀ s a t, inv s → step s a = some t → inv t)
    (back : ∀ s a t, step s a = some t → good t → good s)
    (needs : ∀ s a t, inv s → step s a = some t → good t → allowed s a) (holds : inv s)
    (reached : run step s actions = some t) (last : good t) :
    Along step allowed s actions ∧ good s := by
  induction actions generalizing s with
  | nil =>
    cases reached
    exact ⟨trivial, last⟩
  | cons a rest ih =>
    obtain ⟨m, taken, tail⟩ := run_cons.mp reached
    obtain ⟨later, middle⟩ := ih (keeps s a m holds taken) tail
    refine ⟨⟨needs s a m holds taken middle, fun u other => ?_⟩, back s a m taken middle⟩
    obtain rfl : m = u := Option.some.inj (taken.symm.trans other)
    exact later

end MiniDrop.Base
