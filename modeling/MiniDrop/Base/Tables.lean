import Mathlib.Data.List.Sort
import Mathlib.Algebra.Order.BigOperators.Group.List
import Mathlib.Algebra.Order.Ring.Nat
/-!
# Ordered and grouped tables

Rows of a table are a list in insertion order. Ordering by a key is a stable sort, and grouping by a
key visits the keys in the order of their first row. Nothing here refers to a particular program.
-/
namespace MiniDrop.Base

open List

variable {ρ κ : Type} {keys : List κ} {weight : κ → Nat} {rows : List ρ} {row : ρ}

/-- A weaker test before a test changes nothing. -/
theorem filter_filter_of_imp {p q : ρ → Bool} (imp : ∀ row, p row = true → q row = true) :
    (rows.filter q).filter p = rows.filter p := by
  rw [filter_filter]
  refine filter_congr fun row _ => ?_
  cases passes : p row with
  | true => rw [imp row passes, Bool.and_self]
  | false => rfl

section Order

variable [LinearOrder κ] (key : ρ → κ)

/-- Rows ordered by a key, ties in table order. -/
def orderBy (rows : List ρ) : List ρ := rows.insertionSort fun a b => key a ≤ key b

/-- Ordering keeps the rows. -/
@[simp] theorem mem_orderBy : row ∈ orderBy key rows ↔ row ∈ rows :=
  mem_insertionSort _

/-- Ordering permutes the rows. -/
theorem orderBy_perm (rows : List ρ) : (orderBy key rows).Perm rows := perm_insertionSort _ _

/-- Ordered rows have nondecreasing keys. -/
theorem orderBy_pairwise (rows : List ρ) :
    (orderBy key rows).Pairwise fun a b => key a ≤ key b := by
  exact pairwise_insertionSort _ rows

/-- The first row that passes a test has the least key among those that do. -/
theorem find?_least {test : ρ → Bool} {first : ρ}
    (sorted : rows.Pairwise fun a b => key a ≤ key b) (found : rows.find? test = some first)
    (mem : row ∈ rows) (passes : test row = true) : key first ≤ key row := by
  obtain ⟨-, before, after, rfl, none⟩ := find?_eq_some_iff_append.mp found
  rcases mem_append.mp mem with early | late
  · have refuted := none row early
    simp [passes] at refuted
  · rcases mem_cons.mp late with rfl | later
    · exact le_refl _
    · have tail := (pairwise_append.mp sorted).2.1
      exact (pairwise_cons.mp tail).1 row later

end Order

section Group

variable [DecidableEq κ]

/-- The distinct values of a list, in the order of their first occurrence. -/
def distinct : List κ → List κ
  | [] => []
  | k :: rest => k :: (distinct rest).filter (· ≠ k)

/-- Taking distinct values keeps membership. -/
@[simp] theorem mem_distinct {k : κ} : k ∈ distinct keys ↔ k ∈ keys := by
  induction keys with
  | nil => simp [distinct]
  | cons head rest ih =>
    simp only [distinct, mem_cons, mem_filter, ih, decide_eq_true_eq]
    by_cases same : k = head <;> simp [same]

/-- The distinct values are a part of the list. -/
theorem distinct_sublist (keys : List κ) : (distinct keys).Sublist keys := by
  induction keys with
  | nil => exact List.Sublist.slnil
  | cons head rest ih => exact (filter_sublist.trans ih).cons_cons head

/-- Distinct values do not repeat. -/
theorem distinct_nodup (keys : List κ) : (distinct keys).Nodup := by
  induction keys with
  | nil => exact nodup_nil
  | cons head rest ih =>
    refine nodup_cons.mpr ⟨?_, ih.filter _⟩
    simp

/-- A list without repetition is its own list of distinct values. -/
theorem distinct_eq_self (nodup : keys.Nodup) : distinct keys = keys := by
  induction keys with
  | nil => rfl
  | cons head rest ih =>
    obtain ⟨fresh, nodup⟩ := nodup_cons.mp nodup
    rw [distinct, ih nodup, filter_eq_self.mpr]
    intro key mem
    exact decide_eq_true fun same => fresh (same ▸ mem)

/-- Removing values of positive weight makes a sum smaller. -/
theorem eq_of_sublist_of_sum_eq {part whole : List κ}
    (sublist : part.Sublist whole) (positive : ∀ key ∈ whole, 0 < weight key)
    (sums : (part.map weight).sum = (whole.map weight).sum) : part = whole := by
  induction sublist with
  | slnil => rfl
  | @cons part whole head sublist ih =>
    have bound : (part.map weight).sum ≤ (whole.map weight).sum :=
      (sublist.map weight).sum_le_sum fun _ _ => Nat.zero_le _
    have first := positive head mem_cons_self
    rw [map_cons, sum_cons] at sums
    omega
  | @cons_cons part whole head sublist ih =>
    rw [map_cons, map_cons, sum_cons, sum_cons] at sums
    rw [ih (forall_mem_cons.mp positive).2 (by omega)]

/-- **Counting each value once**: a sum of positive weights over a list is the sum over its distinct
values exactly when no value repeats. -/
theorem sum_distinct_iff (positive : ∀ key ∈ keys, 0 < weight key) :
    (keys.map weight).sum = ((distinct keys).map weight).sum ↔ keys.Nodup := by
  constructor
  · intro sums
    rw [← eq_of_sublist_of_sum_eq (distinct_sublist keys) positive sums.symm]
    exact distinct_nodup keys
  · intro nodup
    rw [distinct_eq_self nodup]

end Group

section Select

variable {α β : Type} {l : List α}

/-- Members of weight zero do not matter for a sum. -/
theorem sum_map_filter_pos (l : List α) (weight : α → Nat) :
    ((l.filter fun x => decide (0 < weight x)).map weight).sum = (l.map weight).sum := by
  induction l with
  | nil => rfl
  | cons head rest ih =>
    rw [filter_cons, map_cons, sum_cons, ← ih]
    by_cases positive : 0 < weight head
    · rw [if_pos (decide_eq_true positive), map_cons, sum_cons]
    · rw [if_neg (by simpa using positive)]
      omega

/-- A list without repetition that has one member. -/
theorem eq_singleton_of_nodup {x : α} (nodup : l.Nodup) (mem : x ∈ l) (only : ∀ y ∈ l, y = x) :
    l = [x] := by
  refine perm_singleton.mp ((perm_ext_iff_of_nodup nodup (nodup_singleton x)).mpr fun y => ?_)
  rw [mem_singleton]
  exact ⟨only y, fun same => same ▸ mem⟩

section

variable {key : α → κ} {test : α → Bool} {x : α} (nodup : (l.map key).Nodup) (mem : x ∈ l)
  (passes : test x = true) (only : ∀ y ∈ l, test y = true → key y = key x)
include nodup mem passes only

/-- A test that picks one key of a keyed table picks one row. -/
theorem filter_eq_singleton : l.filter test = [x] := by
  refine eq_singleton_of_nodup ((List.Nodup.of_map key nodup).filter test)
    (mem_filter.mpr ⟨mem, passes⟩) fun y picked => ?_
  obtain ⟨listed, hit⟩ := mem_filter.mp picked
  exact inj_on_of_nodup_map nodup listed mem (only y listed hit)

/-- Such a test finds the row. -/
theorem find?_eq_of_nodup : l.find? test = some x := by
  rw [← head?_filter, filter_eq_singleton nodup mem passes only, head?_cons]

end

/-- Two tables that agree on one column agree on every column that it determines. -/
theorem map_eq_of_map_eq {γ : Type} {l others : List α} {f : α → β} {g : α → γ}
    (same : l.map g = others.map g) (determined : ∀ x ∈ l, ∀ y ∈ others, g x = g y → f x = f y) :
    l.map f = others.map f := by
  induction l generalizing others with
  | nil =>
    have empty : others = [] := map_eq_nil_iff.mp same.symm
    rw [empty]
  | cons x rest ih =>
    cases others with
    | nil => exact absurd same (cons_ne_nil _ _)
    | cons y =>
      have heads := cons.inj same
      rw [map_cons, map_cons, determined x mem_cons_self y mem_cons_self heads.1,
        ih heads.2 fun a first b second =>
          determined a (mem_cons_of_mem x first) b (mem_cons_of_mem y second)]

/-- A flat map over different keys to which one member alone contributes is that contribution. -/
theorem flatMap_eq_of_unique {f : α → List β} {key : α → κ}
    (distinctKeys : l.Pairwise fun a b => key a ≠ key b) {x : α} (mem : x ∈ l)
    (others : ∀ y ∈ l, key y ≠ key x → f y = []) : l.flatMap f = f x := by
  induction l with
  | nil => exact absurd mem not_mem_nil
  | cons head rest ih =>
    obtain ⟨first, distinctKeys⟩ := pairwise_cons.mp distinctKeys
    rw [flatMap_cons]
    rcases mem_cons.mp mem with rfl | inRest
    · rw [flatMap_eq_nil_iff.mpr fun y later =>
        others y (mem_cons_of_mem _ later) (first y later).symm, append_nil]
    · rw [others head mem_cons_self (first x inRest), nil_append,
        ih distinctKeys inRest (forall_mem_cons.mp others).2]

/-- A flat map that skips the members outside a test is a flat map over those inside. -/
theorem flatMap_ite_nil (l : List α) (test : α → Bool) (f : α → List β) :
    (l.flatMap fun x => if test x then f x else []) = (l.filter test).flatMap f := by
  induction l with
  | nil => rfl
  | cons head rest ih =>
    rw [flatMap_cons, ih, filter_cons]
    cases test head with
    | true | false => rfl

/-- Members that contribute nothing can be left out of a flat map, and the order of the others does
not matter. -/
theorem flatMap_perm_of_subset {part whole : List α} {f : α → List β} (nodup : part.Nodup)
    (wholeNodup : whole.Nodup) (subset : ∀ x ∈ part, x ∈ whole)
    (empty : ∀ x ∈ whole, x ∉ part → f x = []) : (whole.flatMap f).Perm (part.flatMap f) := by
  classical
  have kept : whole.flatMap f = (whole.filter fun x => decide (x ∈ part)).flatMap f := by
    rw [← flatMap_ite_nil]
    apply flatMap_congr
    intro x mem
    by_cases inPart : x ∈ part
    · rw [if_pos (decide_eq_true inPart)]
    · rw [if_neg (by simpa using inPart), empty x mem inPart]
  have same : (whole.filter fun x => decide (x ∈ part)).Perm part := by
    rw [perm_ext_iff_of_nodup (wholeNodup.filter _) nodup]
    intro x
    simp only [mem_filter, decide_eq_true_eq]
    exact ⟨fun both => both.2, fun inPart => ⟨subset x inPart, inPart⟩⟩
  rw [kept]
  exact same.flatMap_right f

/-- Counting in a flat map with one contribution for all members. -/
theorem count_flatMap_const [DecidableEq β] (l : List α) (part : List β) (x : β) :
    (l.flatMap fun _ => part).count x = l.length * part.count x := by
  rw [count_flatMap]
  exact (congrArg sum List.map_const).trans (sum_replicate _ _)

end Select

section Matched

variable {τ : Type} {fit : ρ → τ → Prop} {rows : List ρ} {others : List τ}

/-- In matched lists every row of the first has its partner in the second. -/
theorem exists_right_of_mem (matched : List.Forall₂ fit rows others)
    (mem : row ∈ rows) : ∃ other ∈ others, fit row other := by
  induction matched with
  | nil => cases mem
  | cons fits _ ih =>
    rcases mem_cons.mp mem with rfl | later
    · exact ⟨_, mem_cons_self, fits⟩
    · obtain ⟨other, stored, found⟩ := ih later
      exact ⟨other, mem_cons_of_mem _ stored, found⟩

/-- In matched lists every row of the second has its partner in the first. -/
theorem exists_left_of_mem (matched : List.Forall₂ fit rows others) {other : τ}
    (mem : other ∈ others) : ∃ row ∈ rows, fit row other :=
  exists_right_of_mem matched.flip mem

end Matched

/-! ## Ladders of bounds -/

section

variable {bounds : List Nat} {bound us : Nat}

/-- Where the first bound is not below a value, no other one is. -/
theorem countP_lt_eq_zero (sorted : (bound :: bounds).Pairwise (· < ·)) (first : ¬bound < us) :
    bounds.countP (· < us) = 0 := by
  refine countP_eq_zero.mpr fun other mem => ?_
  have later := rel_of_pairwise_cons sorted mem
  rw [decide_eq_true_eq]
  omega

/-- On a ladder of increasing bounds the slot is the number of bounds below the value. -/
theorem foldl_ladder (sorted : bounds.Pairwise (· < ·)) (slot index : Nat) :
    (bounds.zipIdx (index + 1)).foldl (fun slot (bound, index) => if us > bound then index
      else slot) slot = if bounds.countP (· < us) = 0 then slot
        else index + bounds.countP (· < us) := by
  induction bounds generalizing slot index with
  | nil => rfl
  | cons bound rest ih =>
    rw [zipIdx_cons, foldl_cons, ih sorted.of_cons, countP_cons]
    by_cases above : bound < us
    · simp only [above, decide_true, if_true, Nat.add_eq_zero_iff, one_ne_zero, and_false, if_false]
      split <;> omega
    · simp [above, countP_lt_eq_zero sorted above]

/-- The bounds below a value come first. -/
theorem lt_iff_lt_countP (sorted : bounds.Pairwise (· < ·)) {index : Nat}
    (found : bounds[index]? = some bound) : bound < us ↔ index < bounds.countP (· < us) := by
  induction bounds generalizing index with
  | nil => cases found
  | cons first rest ih =>
    by_cases above : first < us
    · cases index with
      | zero =>
        cases found
        simp [above]
      | succ => simp [above, ih sorted.of_cons found]
    · have none := countP_lt_eq_zero sorted above
      cases index with
      | zero =>
        cases found
        simp [above, none]
      | succ => simp [above, ih sorted.of_cons found, none]

end

end MiniDrop.Base
