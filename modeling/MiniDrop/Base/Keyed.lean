import Mathlib.Data.List.Nodup
/-!
# Tables with one entry per key

Association lists whose keys are distinct: placing and releasing an entry, and replacing one where
it stands. Nothing here refers to a particular program.
-/
namespace MiniDrop.Base

open List

variable {κ τ : Type} {entries : List (κ × τ)}

/-- A row with a new key leaves the keys distinct. -/
theorem nodup_map_concat {rows : List τ} {row : τ} {key : τ → κ} (distinct : (rows.map key).Nodup)
    (fresh : ∀ old ∈ rows, key old ≠ key row) : ((rows ++ [row]).map key).Nodup := by
  rw [map_append, map_singleton]
  refine distinct.append (nodup_singleton _) fun id old new => ?_
  obtain ⟨other, mem, rfl⟩ := mem_map.mp old
  exact fresh other mem (mem_singleton.mp new)

section Lookup

variable [BEq κ] [LawfulBEq κ] {table : List (κ × τ)} {key other : κ} {value : τ}

/-- What is found under a key is in the table. -/
theorem mem_of_lookup (found : table.lookup key = some value) : (key, value) ∈ table := by
  obtain ⟨before, after, rfl, -⟩ := lookup_eq_some_iff.mp found
  exact mem_append_right before mem_cons_self

/-- Nothing is found under a key that has no entry. -/
theorem lookup_eq_none (absent : ∀ entry ∈ table, entry.1 ≠ key) : table.lookup key = none :=
  lookup_eq_none_iff.mpr fun entry mem => bne_iff_ne.mpr (absent entry mem).symm

/-- What is in a table with distinct keys is found under its key. -/
theorem lookup_of_mem (distinct : (table.map Prod.fst).Nodup) (mem : (key, value) ∈ table) :
    table.lookup key = some value := by
  obtain ⟨before, after, rfl⟩ := append_of_mem mem
  rw [map_append, map_cons] at distinct
  refine lookup_eq_some_iff.mpr ⟨before, after, rfl, fun entry early => bne_iff_ne.mpr ?_⟩
  exact ((nodup_append.mp distinct).2.2 entry.1 (mem_map_of_mem early) key mem_cons_self).symm

/-- The order of a table with distinct keys does not matter for what is found. -/
theorem lookup_perm {shuffled : List (κ × τ)} (distinct : (table.map Prod.fst).Nodup)
    (order : shuffled.Perm table) : shuffled.lookup key = table.lookup key := by
  have shuffledDistinct := (order.map Prod.fst).nodup_iff.mpr distinct
  refine Option.ext fun value => ⟨fun found => ?_, fun found => ?_⟩
  · exact lookup_of_mem distinct (order.mem_iff.mp (mem_of_lookup found))
  · exact lookup_of_mem shuffledDistinct (order.mem_iff.mpr (mem_of_lookup found))

/-- Adding an entry at the end leaves the other keys alone. -/
theorem lookup_concat_of_ne (differs : other ≠ key) :
    (table ++ [(key, value)]).lookup other = table.lookup other := by
  have skips : (other == key) = false := beq_eq_false_iff_ne.mpr differs
  rw [lookup_append, lookup_cons, skips]
  exact Option.or_none

end Lookup

variable [DecidableEq κ]

/-- The table with one entry put in front, in place of any other of its key. -/
def place (table : List (κ × τ)) (key : κ) (value : τ) : List (κ × τ) :=
  (key, value) :: table.filter fun entry => entry.1 ≠ key

/-- The table without the entry of a key. -/
def release (table : List (κ × τ)) (key : κ) : List (κ × τ) :=
  table.filter fun entry => entry.1 ≠ key

/-- The table with the entry of a key replaced where it stands, or a new entry at the end. -/
def upsert (table : List (κ × τ)) (key : κ) (value : τ) : List (κ × τ) :=
  if table.any (·.1 = key) then table.map fun entry => if entry.1 = key then (key, value) else entry
  else table ++ [(key, value)]

/-- The table with the entry of a key replaced, or put in its place in the order of the keys. -/
def enter [LT κ] [DecidableLT κ] : List (κ × τ) → κ → τ → List (κ × τ)
  | [], key, value => [(key, value)]
  | (other, held) :: rest, key, value =>
    if key = other then (key, value) :: rest
    else if key < other then (key, value) :: (other, held) :: rest
    else (other, held) :: enter rest key value

variable {table : List (κ × τ)} {key other : κ} {value : τ} {entry : κ × τ}

/-! ## Releasing and placing -/

/-- The entries left after one is released. -/
@[simp] theorem mem_release : entry ∈ release table key ↔ entry ∈ table ∧ entry.1 ≠ key := by
  simp [release]

/-- The entries after one is placed. -/
@[simp] theorem mem_place :
    entry ∈ place table key value ↔ entry = (key, value) ∨ (entry ∈ table ∧ entry.1 ≠ key) := by
  simp [place]

/-- An entry after several were placed is one of them, or an old one of another key. -/
theorem mem_foldl_place
    (mem : entry ∈ entries.foldl (fun table entry => place table entry.1 entry.2) table) :
    entry ∈ entries ∨ entry ∈ table ∧ entry.1 ∉ entries.map Prod.fst := by
  induction entries generalizing table with
  | nil => exact .inr ⟨mem, not_mem_nil⟩
  | cons first rest ih =>
    rcases ih mem with new | ⟨placed, kept⟩
    · exact .inl (mem_cons_of_mem first new)
    · rcases mem_place.mp placed with rfl | ⟨old, differs⟩
      · exact .inl mem_cons_self
      · exact .inr ⟨old, not_mem_cons_of_ne_of_not_mem differs kept⟩

/-- An old entry stays where no other is placed under its key. -/
theorem mem_foldl_place_of_mem (mem : entry ∈ table) (kept : entry.1 ∉ entries.map Prod.fst) :
    entry ∈ entries.foldl (fun table entry => place table entry.1 entry.2) table := by
  induction entries generalizing table with
  | nil => exact mem
  | cons first rest ih =>
    obtain ⟨differs, later⟩ := ne_and_not_mem_of_not_mem_cons kept
    exact ih (mem_place.mpr (.inr ⟨mem, differs⟩)) later

/-- Releasing leaves a part of the table. -/
theorem release_sublist (table : List (κ × τ)) (key : κ) : (release table key).Sublist table :=
  filter_sublist

/-- Releasing keeps the keys distinct. -/
theorem release_nodup (distinct : (table.map Prod.fst).Nodup) (key : κ) :
    ((release table key).map Prod.fst).Nodup :=
  distinct.sublist ((release_sublist table key).map Prod.fst)

section LookupChanged

variable [BEq κ] [LawfulBEq κ]

/-- Nothing is found under a released key. -/
theorem lookup_release_self : (release table key).lookup key = none :=
  lookup_eq_none fun _ mem => (mem_release.mp mem).2

/-- Releasing leaves the other keys alone. -/
theorem lookup_release_of_ne (differs : other ≠ key) :
    (release table key).lookup other = table.lookup other := by
  induction table with
  | nil => rfl
  | cons head rest ih =>
    unfold release at ih ⊢
    rw [filter_cons, lookup_cons]
    by_cases gone : head.1 = key
    · have skips : (other == head.1) = false :=
        beq_eq_false_iff_ne.mpr fun same => differs (same.trans gone)
      rw [if_neg (by simp [gone]), skips]
      exact ih
    · rw [if_pos (by simp [gone]), lookup_cons, ih]

/-- The entry that was placed is found. -/
theorem lookup_place_self : (place table key value).lookup key = some value := by
  rw [place, lookup_cons, beq_self_eq_true]

/-- Placing leaves the other keys alone. -/
theorem lookup_place_of_ne (differs : other ≠ key) :
    (place table key value).lookup other = table.lookup other := by
  have skips : (other == key) = false := beq_eq_false_iff_ne.mpr differs
  rw [place, lookup_cons, skips]
  exact lookup_release_of_ne differs

end LookupChanged

/-! ## Replacing where it stands -/

/-- The entries after one is replaced or added. -/
theorem mem_upsert (mem : entry ∈ upsert table key value) :
    entry = (key, value) ∨ (entry ∈ table ∧ entry.1 ≠ key) := by
  unfold upsert at mem
  split at mem
  · obtain ⟨old, oldIn, rfl⟩ := mem_map.mp mem
    by_cases same : old.1 = key
    · exact .inl (by rw [if_pos same])
    · rw [if_neg same]
      exact .inr ⟨oldIn, same⟩
  · next absent =>
    rcases mem_append.mp mem with old | new
    · refine .inr ⟨old, fun same => absent ?_⟩
      exact any_eq_true.mpr ⟨entry, old, decide_eq_true same⟩
    · exact .inl (mem_singleton.mp new)

/-- Replacing keeps the keys distinct. -/
theorem upsert_nodup (distinct : (table.map Prod.fst).Nodup) (key : κ) (value : τ) :
    ((upsert table key value).map Prod.fst).Nodup := by
  unfold upsert
  split
  · have same : (table.map fun entry => if entry.1 = key then (key, value) else entry).map
        Prod.fst = table.map Prod.fst := by
      rw [map_map]
      refine map_congr_left fun entry _ => ?_
      by_cases replaced : entry.1 = key
      · simp [replaced]
      · simp [replaced]
    rw [same]
    exact distinct
  · next absent =>
    refine nodup_map_concat distinct fun entry mem same => absent ?_
    exact any_eq_true.mpr ⟨entry, mem, decide_eq_true same⟩

section LookupReplaced

variable [BEq κ] [LawfulBEq κ]

/-- The entry that was set is found. -/
theorem lookup_upsert_self (distinct : (table.map Prod.fst).Nodup) :
    (upsert table key value).lookup key = some value := by
  refine lookup_of_mem (upsert_nodup distinct key value) ?_
  unfold upsert
  split
  · next present =>
    obtain ⟨entry, mem, same⟩ := any_eq_true.mp present
    refine mem_map.mpr ⟨entry, mem, ?_⟩
    rw [if_pos (of_decide_eq_true same)]
  · exact mem_append_right _ (mem_singleton_self _)

/-- Replacing one entry leaves the other keys alone. -/
theorem lookup_replace_of_ne (differs : other ≠ key) :
    (table.map fun entry => if entry.1 = key then (key, value) else entry).lookup other =
      table.lookup other := by
  have skips : (other == key) = false := beq_eq_false_iff_ne.mpr differs
  induction table with
  | nil => rfl
  | cons head rest ih =>
    rw [map_cons, lookup_cons, lookup_cons, ih]
    by_cases replaced : head.1 = key
    · simp [replaced, skips]
    · simp [replaced]

/-- Setting one entry leaves the other keys alone. -/
theorem lookup_upsert_of_ne (differs : other ≠ key) :
    (upsert table key value).lookup other = table.lookup other := by
  unfold upsert
  split
  · exact lookup_replace_of_ne differs
  · exact lookup_concat_of_ne differs

end LookupReplaced

/-! ## Tables in the order of their keys -/

section Order

variable [LT κ] [DecidableLT κ]

/-- The entries after one is entered. -/
theorem mem_enter (mem : entry ∈ enter table key value) : entry = (key, value) ∨ entry ∈ table := by
  induction table with
  | nil => exact .inl (mem_singleton.mp mem)
  | cons head rest ih =>
    rw [enter] at mem
    split at mem
    · exact (mem_cons.mp mem).imp_right (mem_cons_of_mem head)
    · split at mem
      · exact mem_cons.mp mem
      · rcases mem_cons.mp mem with same | later
        · exact .inr (same ▸ mem_cons_self)
        · exact (ih later).imp_right (mem_cons_of_mem head)

/-- Entering keeps the order of the keys. -/
theorem enter_pairwise (trans : ∀ {a b c : κ}, a < b → b < c → a < c)
    (total : ∀ {a b : κ}, a ≠ b → ¬ a < b → b < a) (order : table.Pairwise fun a b => a.1 < b.1)
    (key : κ) (value : τ) : (enter table key value).Pairwise fun a b => a.1 < b.1 := by
  induction table with
  | nil => exact pairwise_singleton _ _
  | cons head rest ih =>
    obtain ⟨least, order⟩ := pairwise_cons.mp order
    rw [enter]
    split
    · next same => exact pairwise_cons.mpr ⟨fun entry later => same ▸ least entry later, order⟩
    · next differs =>
      split
      · next smaller =>
        refine pairwise_cons.mpr ⟨fun entry later => ?_, pairwise_cons.mpr ⟨least, order⟩⟩
        rcases mem_cons.mp later with same | after
        · rw [same]
          exact smaller
        · exact trans smaller (least entry after)
      · next larger =>
        refine pairwise_cons.mpr ⟨fun entry later => ?_, ih order⟩
        rcases mem_enter later with new | old
        · rw [new]
          exact total differs larger
        · exact least entry old

end Order

end MiniDrop.Base
