import Mathlib.Data.List.Nodup
/-!
# Tables whose rows change one by one

A table grows if every row is replaced by one that a relation allows and new rows come at the end.
The relation says what a statement may do to a row that is there, a predicate what it may insert.
Nothing here refers to a particular program.
-/
namespace MiniDrop.Base

open List

variable {ρ κ : Type} {row : ρ}

/-- The rows are rewritten within a relation, and new ones come after them. -/
def Grows (rel : ρ → ρ → Prop) (fresh : ρ → Prop) (rows later : List ρ) : Prop :=
  ∃ (change : ρ → ρ) (added : List ρ), later = rows.map change ++ added ∧
    (∀ row ∈ rows, rel row (change row)) ∧ ∀ row ∈ added, fresh row

namespace Grows

variable {rel rel' : ρ → ρ → Prop} {fresh fresh' : ρ → Prop} {rows later last : List ρ}

/-- Every row is rewritten. -/
theorem of_map {change : ρ → ρ} (allowed : ∀ row ∈ rows, rel row (change row)) :
    Grows rel fresh rows (rows.map change) :=
  ⟨change, [], (append_nil _).symm, allowed, forall_mem_nil _⟩

/-- New rows come at the end. -/
theorem append {added : List ρ} (same : ∀ row ∈ rows, rel row row)
    (new : ∀ row ∈ added, fresh row) : Grows rel fresh rows (rows ++ added) :=
  ⟨id, added, by rw [map_id], same, new⟩

/-- Nothing happens. -/
theorem refl (same : ∀ row ∈ rows, rel row row) : Grows rel fresh rows rows :=
  ⟨id, [], by rw [map_id, append_nil], same, forall_mem_nil _⟩

/-- One step after another. -/
theorem trans (first : Grows rel fresh rows later) (second : Grows rel fresh later last)
    (composes : ∀ a b c, rel a b → rel b c → rel a c) (stays : ∀ a b, fresh a → rel a b → fresh b) :
    Grows rel fresh rows last := by
  obtain ⟨change, added, rfl, early, new⟩ := first
  obtain ⟨change', added', rfl, late, new'⟩ := second
  refine ⟨change' ∘ change, added.map change' ++ added', ?_, ?_, ?_⟩
  · rw [map_append, map_map, append_assoc]
  · intro row mem
    have listed : change row ∈ rows.map change ++ added :=
      mem_append_left _ (mem_map_of_mem mem)
    exact composes _ _ _ (early row mem) (late _ listed)
  · intro row mem
    rcases mem_append.mp mem with old | next
    · obtain ⟨before, listed, rfl⟩ := mem_map.mp old
      exact stays _ _ (new before listed) (late before (mem_append_right _ listed))
    · exact new' row next

variable (grows : Grows rel fresh rows later)
include grows

/-- A stronger relation and a stronger predicate. -/
theorem mono (weaker : ∀ a ∈ rows, ∀ b, rel a b → rel' a b)
    (wider : ∀ a, fresh a → fresh' a) : Grows rel' fresh' rows later := by
  obtain ⟨change, added, same, allowed, new⟩ := grows
  exact ⟨change, added, same, fun row mem => weaker row mem _ (allowed row mem),
    fun row mem => wider row (new row mem)⟩

/-- A row comes from one that was there, or it is new. -/
theorem back (mem : row ∈ later) : (∃ before ∈ rows, rel before row) ∨ fresh row := by
  obtain ⟨change, added, rfl, allowed, new⟩ := grows
  rcases mem_append.mp mem with old | next
  · obtain ⟨before, listed, rfl⟩ := mem_map.mp old
    exact Or.inl ⟨before, listed, allowed before listed⟩
  · exact Or.inr (new row next)

/-- A row stays in some form. -/
theorem forth (mem : row ∈ rows) : ∃ after ∈ later, rel row after := by
  obtain ⟨change, added, rfl, allowed, -⟩ := grows
  exact ⟨change row, mem_append_left _ (mem_map_of_mem mem), allowed row mem⟩

/-- Keys that the relation keeps come first. -/
theorem keys {key : ρ → κ} (keeps : ∀ a b, rel a b → key b = key a) :
    ∃ added, later.map key = rows.map key ++ added := by
  obtain ⟨change, added, rfl, allowed, -⟩ := grows
  refine ⟨added.map key, ?_⟩
  rw [map_append, map_map]
  congr 1
  exact map_congr_left fun row mem => keeps _ _ (allowed row mem)

end Grows

end MiniDrop.Base
