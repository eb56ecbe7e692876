import Mathlib.Algebra.Order.Ring.Nat
import Mathlib.Data.List.Forall2
import MiniDrop.Server.TaskStore
/-!
# Verdicts of composite tasks

The status of a composite task is a function of counts over its children. A finished child keeps its
status, so the counts of finished children only grow, and those that are left bound how far. A
verdict is therefore final, and while there is none under the quorum or with all children required,
the children that are left can still bring about either.
-/
namespace MiniDrop

open List

variable {mt : MultiTask} {children later : List HotmethodTask}

/-- The children that are not finished move to any status. -/
def Moved (children later : List HotmethodTask) : Prop :=
  Forall₂ (fun child moved => isTerminalTaskStatus child.status = true →
    moved.status = child.status) children later

/-- A status that the composite task can have after moves of its unfinished children. -/
def Reaches (mt : MultiTask) (children : List HotmethodTask) (status : TaskStatus) : Prop :=
  ∃ later, Moved children later ∧ (aggregateCompositeStatus mt later).status = status

theorem Moved.countP_le (moved : Moved children later) (status : TaskStatus)
    (terminal : isTerminalTaskStatus status = true) :
    children.countP (·.status = status) ≤ later.countP (·.status = status) := by
  induction moved with
  | nil => exact le_refl 0
  | @cons child next _ _ kept _ ih =>
    rw [countP_cons, countP_cons]
    refine Nat.add_le_add ih ?_
    by_cases own : child.status = status
    · rw [kept (own ▸ terminal)]
    · simp [own]

/-- The finished children are done, failed or canceled. -/
theorem countP_terminal (children : List HotmethodTask) :
    children.countP (fun child => isTerminalTaskStatus child.status) =
      children.countP (·.status = .done) + children.countP (·.status = .failed) +
        children.countP (·.status = .canceled) := by
  induction children with
  | nil => rfl
  | cons child rest ih =>
    simp only [countP_cons, ih]
    cases child.status <;> simp [isTerminalTaskStatus] <;> omega

/-- How many children have to be done under a policy that is not the best effort. -/
def neededDone (mt : MultiTask) (total : Nat) : Int :=
  match mt.aggregationPolicy.getD .allRequired with
  | .quorum => if mt.quorum ≤ 0 then ((total + 1) / 2 : Nat) else mt.quorum
  | _ => total

/-- With all children required it is as with a quorum of all of them. -/
theorem status_strict (strict : mt.aggregationPolicy.getD .allRequired ≠ .bestEffort)
    (children : List HotmethodTask) :
    (aggregateCompositeStatus mt children).status =
      let done := children.countP (·.status = .done)
      let terminal := children.countP fun child => isTerminalTaskStatus child.status
      if children.length = 0 then .failed
      else if neededDone mt children.length ≤ done then .done
      else if terminal = children.length ∨
        (done : Int) + children.length - terminal < neededDone mt children.length
      then .failed else .running := by
  have terminal := countP_terminal children
  have most := countP_le_length (p := fun child => isTerminalTaskStatus child.status)
    (l := children)
  unfold aggregateCompositeStatus neededDone
  dsimp only [compositeSummary]
  generalize mt.aggregationPolicy.getD .allRequired = policy at strict ⊢
  cases policy with
  | bestEffort => exact absurd rfl strict
  | quorum => split_ifs <;> rfl
  | allRequired | dag =>
    simp only [apply_ite CompositeStatus.status]
    split_ifs <;> first | rfl | omega

/-- A verdict is that of every list of children after moves. -/
theorem Moved.verdict_kept (moved : Moved children later)
    (final : (aggregateCompositeStatus mt children).status ≠ .running) :
    (aggregateCompositeStatus mt later).status = (aggregateCompositeStatus mt children).status := by
  have total : children.length = later.length := Forall₂.length_eq moved
  have done := moved.countP_le .done rfl
  have failed := moved.countP_le .failed rfl
  have canceled := moved.countP_le .canceled rfl
  have terminal := countP_terminal children
  have terminalLater := countP_terminal later
  have most : later.countP (fun child => isTerminalTaskStatus child.status) ≤ later.length :=
    countP_le_length
  revert final
  by_cases strict : mt.aggregationPolicy.getD .allRequired ≠ .bestEffort
  · rw [status_strict strict, status_strict strict, ← total]
    dsimp only
    split_ifs <;> first | exact fun _ => rfl | exact fun final => absurd rfl final | omega
  · unfold aggregateCompositeStatus
    rw [not_not.mp strict]
    dsimp only [compositeSummary]
    split_ifs <;> first | exact fun _ => rfl | exact fun final => absurd rfl final | omega

/-- The children that are not finished can all come to one end. -/
theorem exists_settled {status : TaskStatus} (ends : isTerminalTaskStatus status = true)
    (children : List HotmethodTask) : ∃ later, Moved children later ∧
      later.countP (fun child => isTerminalTaskStatus child.status) = later.length ∧
      ∀ other, isTerminalTaskStatus other = true → status ≠ other →
        later.countP (·.status = other) = children.countP (·.status = other) := by
  induction children with
  | nil => exact ⟨[], .nil, rfl, fun _ _ _ => rfl⟩
  | cons child rest ih =>
    obtain ⟨later, moved, settled, kept⟩ := ih
    by_cases finished : isTerminalTaskStatus child.status = true
    · refine ⟨child :: later, .cons (fun _ => rfl) moved, ?_, fun other terminal differs => ?_⟩
      · simp [settled, finished]
      · simp [countP_cons, kept other terminal differs]
    · refine ⟨{ child with status } :: later,
        .cons (fun terminal => absurd terminal finished) moved, ?_,
        fun other terminal differs => ?_⟩
      · simp [settled, ends]
      · have unlike : child.status ≠ other := fun own => finished (own ▸ terminal)
        simp [kept other terminal differs, differs, unlike]

/-- Under each policy but the best effort the children that are left are enough for either
verdict. -/
theorem reaches {status : TaskStatus} (verdict : status = .done ∨ status = .failed)
    (running : (aggregateCompositeStatus mt children).status = .running)
    (strict : mt.aggregationPolicy.getD .allRequired ≠ .bestEffort) :
    Reaches mt children status := by
  have ends : isTerminalTaskStatus status = true := by rcases verdict with rfl | rfl <;> rfl
  obtain ⟨later, moved, settled, kept⟩ := exists_settled ends children
  refine ⟨later, moved, ?_⟩
  have total : children.length = later.length := Forall₂.length_eq moved
  have done := kept .done rfl
  have failed := kept .failed rfl
  have canceled := kept .canceled rfl
  have terminal := countP_terminal children
  have terminalLater := countP_terminal later
  rw [status_strict strict] at running ⊢
  rw [← total]
  dsimp only at running ⊢
  split_ifs at running with none enough lost
  rcases verdict with rfl | rfl
  · have failed := failed nofun
    have canceled := canceled nofun
    rw [if_neg none, if_pos (by omega)]
  · have done := done nofun
    rw [if_neg none, if_neg (by omega), if_pos (.inl (by omega))]

/-- A verdict is not changed by moves of the children that are not finished; and under each policy
but the best effort the task runs exactly as long as they can still bring about either verdict. -/
theorem composite_verdict (mt : MultiTask) (children : List HotmethodTask) :
    (∀ later, Moved children later → (aggregateCompositeStatus mt children).status = .done ∨
        (aggregateCompositeStatus mt children).status = .failed →
      (aggregateCompositeStatus mt later).status = (aggregateCompositeStatus mt children).status) ∧
    (mt.aggregationPolicy.getD .allRequired ≠ .bestEffort →
      ((aggregateCompositeStatus mt children).status = .running ↔
        Reaches mt children .done ∧ Reaches mt children .failed)) := by
  constructor
  · intro later moved final
    refine moved.verdict_kept fun running => ?_
    rw [running] at final
    rcases final with same | same <;> cases same
  · intro strict
    refine ⟨fun running => ⟨reaches (.inl rfl) running strict, reaches (.inr rfl) running strict⟩,
      ?_⟩
    rintro ⟨⟨first, movedFirst, done⟩, second, movedSecond, failed⟩
    by_contra final
    have same := (movedFirst.verdict_kept final).trans (movedSecond.verdict_kept final).symm
    rw [done, failed] at same
    cases same

end MiniDrop
