import Mathlib.Algebra.BigOperators.Ring.List
import Mathlib.Data.List.Chain
import MiniDrop.Base.Tables
/-!
# Rows gathered under their keys

A pass over rows keeps one item per key, in the order in which the keys appear: the first row of a
key opens its item, every later one is added to it. At the end, sums over neighbouring rows. Nothing
here refers to a particular program.
-/
namespace MiniDrop.Base

open List

section Gather

variable {ρ κ τ : Type} [DecidableEq κ] (key : ρ → κ) (first : ρ → τ) (add : τ → ρ → τ)

/-- One row added to the item of its key, or opening a new one at the end. -/
def gatherRow : List (κ × τ) → ρ → List (κ × τ)
  | [], row => [(key row, first row)]
  | (k, item) :: table, row =>
    if key row = k then (k, add item row) :: table else (k, item) :: gatherRow table row

/-- The items after all rows. -/
def gather (rows : List ρ) : List τ := (rows.foldl (gatherRow key first add) []).map Prod.snd

variable {key first add} {rows : List ρ} {item : τ}

/-- The front item takes the rows of its key, the others go to the rest of the table. -/
theorem foldl_gatherRow {k : κ} {table : List (κ × τ)} :
    rows.foldl (gatherRow key first add) ((k, item) :: table) =
      (k, (rows.filter (key · = k)).foldl add item) ::
        (rows.filter (key · ≠ k)).foldl (gatherRow key first add) table := by
  induction rows generalizing item table with
  | nil => rfl
  | cons row rest ih =>
    rw [foldl_cons, gatherRow]
    by_cases same : key row = k
    · rw [if_pos same, ih]
      simp [same]
    · rw [if_neg same, ih]
      simp [same]

/-- The first row's item, then those of the rows with other keys. -/
theorem gather_cons (row : ρ) (rest : List ρ) :
    gather key first add (row :: rest) = (rest.filter (key · = key row)).foldl add (first row) ::
        gather key first add (rest.filter (key · ≠ key row)) := by
  unfold gather
  rw [foldl_cons, gatherRow, foldl_gatherRow]
  rfl

/-- Induction that removes the first row and all of its key. -/
theorem gather_induction (key : ρ → κ) {motive : List ρ → Prop} (nil : motive [])
    (cons : ∀ row rest, motive (rest.filter (key · ≠ key row)) → motive (row :: rest)) :
    (rows : List ρ) → motive rows
  | [] => nil
  | row :: rest => cons row rest (gather_induction key nil cons (rest.filter (key · ≠ key row)))
  termination_by rows => rows.length
  decreasing_by exact Nat.lt_succ_of_le (length_filter_le _ _)

/-- What holds of new items and stays when rows are added holds of all items. -/
theorem forall_mem_gather {good : τ → Prop} (opens : ∀ row ∈ rows, good (first row))
    (adds : ∀ item row, good item → good (add item row)) :
    ∀ item ∈ gather key first add rows, good item := by
  induction rows using gather_induction key with
  | nil => exact forall_mem_nil _
  | cons row rest ih =>
    obtain ⟨here, later⟩ := forall_mem_cons.mp opens
    rw [gather_cons]
    refine forall_mem_cons.mpr ⟨?_, ih fun other mem => later other (mem_of_mem_filter mem)⟩
    exact foldlRecOn _ add here fun item good row _ => adds item row good

/-- Items have the order of the rows that opened them. -/
theorem gather_sorted {time : τ → Int} {start : ρ → Int}
    (sorted : rows.Pairwise fun a b => start a ≤ start b)
    (opens : ∀ row, time (first row) = start row)
    (adds : ∀ item row, time (add item row) = time item) :
    (gather key first add rows).Pairwise fun a b => time a ≤ time b := by
  induction rows using gather_induction key with
  | nil => exact Pairwise.nil
  | cons row rest ih =>
    obtain ⟨least, later⟩ := pairwise_cons.mp sorted
    have same : time ((rest.filter (key · = key row)).foldl add (first row)) = start row :=
      foldlRecOn _ add (opens row) fun item here next _ => (adds item next).trans here
    rw [gather_cons, pairwise_cons, same]
    refine ⟨forall_mem_gather (fun next mem => ?_) fun item next above => ?_, ih (later.filter _)⟩
    · exact (opens next).symm ▸ least next (mem_of_mem_filter mem)
    · exact (adds item next).symm ▸ above

/-! ## Gathering twice -/

section Nested

variable {ο : Type} {coarse : ρ → ο} {first : ρ → ρ} {add : ρ → ρ → ρ}
  (nested : ∀ a b, key a = key b → coarse a = coarse b)
  (opens : ∀ row, coarse (first row) = coarse row)
  (adds : ∀ item row, coarse (add item row) = coarse item)
include opens adds

omit [DecidableEq κ] in
/-- An item keeps the coarse key of its first row. -/
theorem coarse_foldl (row : ρ) (rows : List ρ) :
    coarse (rows.foldl add (first row)) = coarse row := by
  rw [← opens row]
  generalize first row = item
  induction rows generalizing item with
  | nil => rfl
  | cons row rest ih => rw [foldl_cons, ih, adds]

include nested

/-- A test of the coarse key picks the items of the rows that pass it. -/
theorem filter_gather (test : ο → Bool) (rows : List ρ) :
    (gather key first add rows).filter (fun row => test (coarse row)) =
      gather key first add (rows.filter fun row => test (coarse row)) := by
  induction rows using gather_induction key with
  | nil => rfl
  | cons row rest ih =>
    rw [gather_cons, filter_cons, coarse_foldl opens adds, ih, filter_cons]
    cases passes : test (coarse row) with
    | true =>
      have weaker : (rest.filter fun row => test (coarse row)).filter (key · = key row) =
          rest.filter (key · = key row) := by
        refine filter_filter_of_imp fun other same => ?_
        rw [nested _ _ (of_decide_eq_true same), passes]
      rw [if_pos rfl, if_pos rfl, gather_cons, weaker, filter_comm]
    | false =>
      rw [if_neg Bool.false_ne_true, if_neg Bool.false_ne_true, filter_filter_of_imp]
      intro other passesOther
      refine decide_eq_true fun same => ?_
      rw [nested _ _ same, passes] at passesOther
      cases passesOther

/-- **Gathering by a coarse key** what was gathered by a finer one is gathering the rows, if that
holds of the rows of one coarse key. -/
theorem gather_gather [DecidableEq ο] {first₂ : ρ → τ} {add₂ : τ → ρ → τ}
    (folds : ∀ row (rest : List ρ),
      (gather key first add (rest.filter (key · ≠ key row))).foldl add₂
        (first₂ ((rest.filter (key · = key row)).foldl add (first row))) =
        rest.foldl add₂ (first₂ row))
    (rows : List ρ) :
    gather coarse first₂ add₂ (gather key first add rows) = gather coarse first₂ add₂ rows := by
  induction rows using gather_induction coarse with
  | nil => rfl
  | cons row rest ih =>
    have inside : (rest.filter (coarse · = coarse row)).filter (key · = key row) =
        rest.filter (key · = key row) :=
      filter_filter_of_imp fun other same => decide_eq_true (nested _ _ (of_decide_eq_true same))
    have outside : (rest.filter (key · ≠ key row)).filter (coarse · ≠ coarse row) =
        rest.filter (coarse · ≠ coarse row) :=
      filter_filter_of_imp fun other differs =>
        decide_eq_true fun same => of_decide_eq_true differs (nested _ _ same)
    rw [gather_cons row, gather_cons, gather_cons, coarse_foldl opens adds,
      filter_gather nested opens adds (· = coarse row),
      filter_gather nested opens adds (· ≠ coarse row),
      outside, ih, filter_comm, ← inside, folds]

end Nested

/-! ## Totals -/

section Total

variable {limit : Nat} {weight : τ → Nat} {value : ρ → Nat}

/-- What rows add to an item, up to a limit. -/
theorem foldl_weight (weight : τ → Nat) {n : Nat} (opens : weight item = min limit n)
    (adds : ∀ item row, weight item ≤ limit →
      weight (add item row) = min limit (weight item + value row)) (rows : List ρ) :
    weight (rows.foldl add item) = min limit (n + (rows.map value).sum) := by
  induction rows generalizing item n with
  | nil => exact opens
  | cons row rest ih =>
    have added : weight (add item row) = min limit (n + value row) := by
      rw [adds item row (opens ▸ Nat.min_le_left limit n), opens]
      omega
    rw [foldl_cons, ih added, map_cons, sum_cons, Nat.add_assoc]

/-- Gathering keeps the total up to the limit. -/
theorem gather_total (key : ρ → κ) (opens : ∀ row, weight (first row) = min limit (value row))
    (adds : ∀ item row, weight (add item row) = min limit (weight item + value row))
    (rows : List ρ) :
    min limit ((gather key first add rows).map weight).sum = min limit (rows.map value).sum := by
  induction rows using gather_induction key with
  | nil => rfl
  | cons row rest ih =>
    have split := sum_map_filter_add_sum_map_filter_not (key · = key row) value rest
    rw [gather_cons, map_cons, sum_cons, foldl_weight weight (opens row) fun item row _ =>
      adds item row, map_cons, sum_cons, ← split]
    simp only [ne_eq] at ih ⊢
    omega

end Total

/-! ## Rows without a partner -/

variable (first add) in
/-- There are no more items than rows, and as many only if no key repeats. -/
theorem length_gather (rows : List ρ) : (gather key first add rows).length ≤ rows.length ∧
    (rows.length ≤ (gather key first add rows).length → (rows.map key).Nodup) := by
  induction rows using gather_induction key with
  | nil => exact ⟨le_refl _, fun _ => nodup_nil⟩
  | cons row rest ih =>
    have fewer := length_filter_le (key · ≠ key row) rest
    rw [gather_cons, length_cons, length_cons]
    refine ⟨by omega, fun full => ?_⟩
    have all : rest.filter (key · ≠ key row) = rest :=
      filter_eq_self.mpr (length_filter_eq_length_iff.mp (by omega))
    rw [all] at ih full
    refine nodup_cons.mpr ⟨fun mem => ?_, ih.2 (by omega)⟩
    obtain ⟨other, otherIn, same⟩ := mem_map.mp mem
    exact of_decide_eq_true (filter_eq_self.mp all other otherIn) same

/-- Without repeated keys every row is an item of its own. -/
theorem gather_of_nodup (nodup : (rows.map key).Nodup) :
    gather key first add rows = rows.map first := by
  induction rows with
  | nil => rfl
  | cons row rest ih =>
    obtain ⟨fresh, later⟩ := nodup_cons.mp nodup
    have differs : ∀ other ∈ rest, key other ≠ key row := fun other mem same =>
      fresh (same ▸ mem_map_of_mem mem)
    rw [gather_cons, filter_eq_nil_iff.mpr fun other mem => by simpa using differs other mem,
      filter_eq_self.mpr fun other mem => by simpa using differs other mem, ih later]
    rfl

/-- Rows changed where the pass does not look. -/
theorem gather_map {f : ρ → ρ} (same : ∀ row ∈ rows, key (f row) = key row ∧
    first (f row) = first row ∧ ∀ item, add item (f row) = add item row) :
    gather key first add (rows.map f) = gather key first add rows := by
  unfold gather
  rw [foldl_map]
  congr 1
  refine foldl_ext _ _ _ fun table row mem => ?_
  obtain ⟨sameKey, sameFirst, sameAdd⟩ := same row mem
  induction table with
  | nil => rw [gatherRow, gatherRow, sameKey, sameFirst]
  | cons entry rest ih => rw [gatherRow, gatherRow, sameKey, sameAdd, ih]

end Gather

/-! ## Neighbours -/

section Steps

variable {ρ κ : Type} [DecidableEq κ] {key : ρ → κ} {step bound : ρ → ρ → Nat}

/-- The sum over the neighbours in a list. -/
def stepSum (step : ρ → ρ → Nat) (rows : List ρ) : Nat :=
  ((rows.zip rows.tail).map fun pair => step pair.1 pair.2).sum

theorem stepSum_cons_cons (step : ρ → ρ → Nat) (a b : ρ) (rest : List ρ) :
    stepSum step (a :: b :: rest) = step a b + stepSum step (b :: rest) := sum_cons

theorem stepSum_le (most : ∀ a b, step a b ≤ bound a b) (rows : List ρ) :
    stepSum step rows ≤ stepSum bound rows :=
  sum_le_sum fun _ _ => most _ _

/-- Sums over neighbours, one of them at most the other, are the same only if all parts are. -/
theorem stepSum_eq_iff (most : ∀ a b, step a b ≤ bound a b) : (rows : List ρ) →
    (stepSum step rows = stepSum bound rows ↔ rows.IsChain fun a b => step a b = bound a b)
  | [] | [_] => by simp [stepSum]
  | a :: b :: rest => by
    have here := most a b
    have later := stepSum_le most (b :: rest)
    rw [stepSum_cons_cons, stepSum_cons_cons, isChain_cons_cons, ← stepSum_eq_iff most (b :: rest)]
    omega

/-- A sum over the rows, as one over the neighbours. -/
theorem sum_map_cons_eq (value : ρ → Nat) (row : ρ) (rest : List ρ) :
    ((row :: rest).map value).sum = value row + stepSum (fun _ => value) (row :: rest) := by
  induction rest generalizing row with
  | nil => rfl
  | cons next rest ih => rw [map_cons, sum_cons, ih, stepSum_cons_cons]

/-! ## Keys that do not come back -/

/-- After the first row of another key, the key of the row before it is gone. -/
theorem apart_of_runs {row next : ρ} {rest : List ρ} (same : key row ≠ key next)
    (runs : ∀ a b c, [a, b, c] <+ row :: next :: rest → key a = key c → key a = key b) :
    (next :: rest).filter (key · = key row) = [] ∧
      (next :: rest).filter (key · ≠ key row) = next :: rest := by
  have apart : ∀ other ∈ next :: rest, key other ≠ key row := by
    refine forall_mem_cons.mpr ⟨Ne.symm same, fun other mem back => same ?_⟩
    have three := ((singleton_sublist.mpr mem).cons_cons next).cons_cons row
    exact runs row next other three back.symm
  exact ⟨filter_eq_nil_iff.mpr fun other mem => by simpa using apart other mem,
    filter_eq_self.mpr fun other mem => by simpa using apart other mem⟩

/-- The rows of the first key come before all others. -/
theorem filter_append_of_runs {row : ρ} {rest : List ρ}
    (runs : ∀ a b c, [a, b, c] <+ row :: rest → key a = key c → key a = key b) :
    rest.filter (key · = key row) ++ rest.filter (key · ≠ key row) = rest := by
  induction rest with
  | nil => rfl
  | cons next rest ih =>
    by_cases same : key row = key next
    · rw [filter_cons_of_pos (by simp [same]), filter_cons_of_neg (by simp [same]), cons_append,
        ih fun a b c part => runs a b c (part.trans ((sublist_cons_self _ _).cons_cons _))]
    · obtain ⟨none, all⟩ := apart_of_runs same runs
      rw [none, all, nil_append]

/-- The steps inside keys are those of the first key and those of the others. -/
theorem stepSum_inside {row : ρ} {rest : List ρ}
    (runs : ∀ a b c, [a, b, c] <+ row :: rest → key a = key c → key a = key b) :
    stepSum (fun a b => if key a = key b then step a b else 0) (row :: rest) =
      stepSum step (row :: rest.filter (key · = key row)) +
        stepSum (fun a b => if key a = key b then step a b else 0)
          (rest.filter (key · ≠ key row)) := by
  induction rest generalizing row with
  | nil => rfl
  | cons next rest ih =>
    rw [stepSum_cons_cons]
    by_cases same : key row = key next
    · rw [ih fun a b c part => runs a b c (part.cons _), if_pos same, same,
        filter_cons_of_pos (by simp), filter_cons_of_neg (by simp), stepSum_cons_cons,
        Nat.add_assoc]
    · obtain ⟨none, all⟩ := apart_of_runs same runs
      rw [if_neg same, none, all]
      rfl

/-- The steps inside one key are among those inside keys. -/
theorem stepSum_filter_le {rows : List ρ} (k : κ)
    (runs : ∀ a b c, [a, b, c] <+ rows → key a = key c → key a = key b) :
    stepSum step (rows.filter (key · = k)) ≤
      stepSum (fun a b => if key a = key b then step a b else 0) rows := by
  induction rows using gather_induction key with
  | nil => exact le_refl _
  | cons row rest ih =>
    rw [stepSum_inside runs]
    by_cases own : key row = k
    · rw [filter_cons_of_pos (by simpa), ← own]
      exact Nat.le_add_right _ _
    · have later := ih fun a b c part => runs a b c (part.trans (filter_sublist.cons row))
      have other : (rest.filter (key · ≠ key row)).filter (key · = k) = rest.filter (key · = k) :=
        filter_filter_of_imp fun _ same => by simpa [of_decide_eq_true same] using Ne.symm own
      rw [filter_cons_of_neg (by simpa), ← other]
      exact le_trans later (Nat.le_add_left _ _)

/-- Neighbouring items are those of neighbouring rows of different keys. -/
theorem gather_isChain {τ : Type} {first : ρ → τ} {add : τ → ρ → τ} {good : τ → τ → Prop}
    {next : κ → κ → Prop} {rows : List ρ}
    (runs : ∀ a b c, [a, b, c] <+ rows → key a = key c → key a = key b)
    (items : ∀ a b as bs, rows.filter (key · = key a) = a :: as →
      rows.filter (key · = key b) = b :: bs →
      (good (as.foldl add (first a)) (bs.foldl add (first b)) ↔ next (key a) (key b))) :
    (gather key first add rows).IsChain good ↔
      rows.IsChain fun a b => key a ≠ key b → next (key a) (key b) := by
  induction rows using gather_induction key with
  | nil => simp [gather]
  | cons row rest ih =>
    have split := filter_append_of_runs runs
    have own : (row :: rest).filter (key · = key row) = row :: rest.filter (key · = key row) :=
      filter_cons_of_pos (by simp)
    have same : ∀ a ∈ row :: rest.filter (key · = key row), key a = key row :=
      own ▸ fun a mem => of_decide_eq_true (mem_filter.mp mem).2
    have inside : (row :: rest.filter (key · = key row)).IsChain fun a b =>
        key a ≠ key b → next (key a) (key b) :=
      (pairwise_of_forall_mem_list fun a aIn b bIn differs =>
        absurd ((same a aIn).trans (same b bIn).symm) differs).isChain
    have group {a : ρ} (mem : a ∈ rest.filter (key · ≠ key row)) :
        (rest.filter (key · ≠ key row)).filter (key · = key a) =
          (row :: rest).filter (key · = key a) := by
      have differs : key a ≠ key row := of_decide_eq_true (mem_filter.mp mem).2
      rw [filter_cons_of_neg (by simpa using differs.symm)]
      exact filter_filter_of_imp fun b same => by simpa [of_decide_eq_true same] using differs
    rw [gather_cons, isChain_cons, ih, ← cons_append.trans (congrArg (row :: ·) split),
      isChain_append]
    · cases later : rest.filter (key · ≠ key row) with
      | nil => simp [gather, inside]
      | cons b bs =>
        rw [later] at group
        have head : (b :: bs).filter (key · = key b) = b :: bs.filter (key · = key b) :=
          filter_cons_of_pos (by simp)
        have listed : b ∈ rest.filter (key · ≠ key row) := later ▸ mem_cons_self
        have differs := Ne.symm (of_decide_eq_true (mem_filter.mp listed).2)
        have edge := items row b _ _ own ((group mem_cons_self).symm.trans head)
        rw [gather_cons, getLast?_eq_some_getLast (cons_ne_nil _ _)]
        simp only [head?_cons, Option.mem_some_iff, forall_eq', edge, inside, true_and,
          same _ (getLast_mem _), differs, ne_eq, not_false_eq_true, forall_const, and_comm]
    · exact fun a b c part => runs a b c (part.trans (filter_sublist.cons row))
    · intro a b as bs aGroup bGroup
      have aIn := mem_of_mem_filter (aGroup ▸ mem_cons_self : a ∈ _)
      have bIn := mem_of_mem_filter (bGroup ▸ mem_cons_self : b ∈ _)
      exact items a b as bs (group aIn ▸ aGroup) (group bIn ▸ bGroup)

end Steps

end MiniDrop.Base
