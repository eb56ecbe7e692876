import Mathlib.Data.List.Basic
/-!
# Texts that say where they end

Values are written one after another into one text. A code delimits its values if the value, and
what follows it, can be read off any such text; a list of them can be read off if what follows the
list cannot be taken for one more of them. Nothing here refers to a particular program.
-/
namespace MiniDrop.Base

open List

variable {α τ σ : Type} {code : τ → List α} {valid : τ → Prop} {fair : σ → Prop}
  {other rest : List α}

/-- A valid value and what follows it are determined by the text of both. -/
def Delimits (valid : τ → Prop) (code : τ → List α) : Prop :=
  ∀ x y, valid x → valid y → ∀ rest other, code x ++ rest = code y ++ other → x = y ∧ rest = other

/-- A text is cut at a mark in one way only, if neither front has the mark of the other. -/
theorem append_mark_inj {a b : α} {front tail : List α} (first : b ∉ front) (second : a ∉ other)
    (same : front ++ a :: rest = other ++ b :: tail) : front = other ∧ a = b ∧ rest = tail := by
  rcases append_eq_append_iff.mp same with ⟨more, longer, follows⟩ | ⟨more, longer, follows⟩
  · cases more with
    | nil =>
      have heads := cons.inj follows
      exact ⟨by rw [longer, append_nil], heads.1, heads.2⟩
    | cons c =>
      have head : a = c := (cons.inj follows).1
      refine absurd ?_ second
      rw [longer, head]
      exact mem_append_right _ mem_cons_self
  · cases more with
    | nil =>
      have heads := cons.inj follows
      exact ⟨by rw [longer, append_nil], heads.1.symm, heads.2.symm⟩
    | cons c =>
      have head : b = c := (cons.inj follows).1
      refine absurd ?_ first
      rw [longer, head]
      exact mem_append_right _ mem_cons_self

/-- Texts without a mark, each closed by the mark. -/
theorem delimits_closed (mark : α) : Delimits (fun text : List α => mark ∉ text)
    (fun text => text ++ [mark]) := by
  intro x y plain fair rest other same
  simp only [append_assoc, singleton_append] at same
  have cut := append_mark_inj plain fair same
  exact ⟨cut.1, cut.2.2⟩

/-- Two codes in order. -/
theorem Delimits.pair {next : σ → List α} (first : Delimits valid code)
    (second : Delimits fair next) :
    Delimits (fun value : τ × σ => valid value.1 ∧ fair value.2)
      (fun value => code value.1 ++ next value.2) := by
  intro x y good fine rest other same
  simp only [append_assoc] at same
  have head := first x.1 y.1 good.1 fine.1 _ _ same
  have tail := second x.2 y.2 good.2 fine.2 _ _ head.2
  exact ⟨Prod.ext head.1 tail.1, tail.2⟩

/-- The values of another type, through a map that tells them apart. -/
theorem Delimits.comap (delimits : Delimits valid code) {f : σ → τ}
    (lands : ∀ x, fair x → valid (f x)) (injective : ∀ x y, fair x → fair y → f x = f y → x = y) :
    Delimits fair (fun x => code (f x)) := by
  intro x y good fine rest other same
  have cut := delimits (f x) (f y) (lands x good) (lands y fine) rest other same
  exact ⟨injective x y good fine cut.1, cut.2⟩

section Lists

variable {valid : τ → Prop} {code : τ → List α} (item : Delimits valid code)

include item in
/-- A list of a known length. -/
theorem Delimits.flatMap (n : Nat) :
    Delimits (fun values : List τ => values.length = n ∧ ∀ value ∈ values, valid value)
      (fun values => values.flatMap code) := by
  induction n with
  | zero =>
    intro xs ys good fine rest other same
    obtain rfl := length_eq_zero_iff.mp good.1
    obtain rfl := length_eq_zero_iff.mp fine.1
    exact ⟨rfl, same⟩
  | succ n ih =>
    intro xs ys good fine rest other same
    obtain ⟨x, xs, rfl⟩ := exists_cons_of_length_eq_add_one good.1
    obtain ⟨y, ys, rfl⟩ := exists_cons_of_length_eq_add_one fine.1
    simp only [flatMap_cons, append_assoc] at same
    simp only [length_cons, Nat.add_right_cancel_iff, forall_mem_cons] at good fine
    have head := item x y good.2.1 fine.2.1 _ _ same
    have tail := ih xs ys ⟨good.1, good.2.2⟩ ⟨fine.1, fine.2.2⟩ _ _ head.2
    exact ⟨by rw [head.1, tail.1], tail.2⟩

include item in
/-- A list of any length, up to a text that cannot be taken for one more value. -/
theorem Delimits.flatMap_until (ends : List α → Prop)
    (clear : ∀ x rest, valid x → ¬ ends (code x ++ rest)) {xs ys : List τ}
    (good : ∀ x ∈ xs, valid x) (fine : ∀ y ∈ ys, valid y)
    (ended : ends rest) (finished : ends other)
    (same : xs.flatMap code ++ rest = ys.flatMap code ++ other) :
    xs = ys ∧ rest = other := by
  induction xs generalizing ys with
  | nil =>
    cases ys with
    | nil => exact ⟨rfl, same⟩
    | cons y =>
      rw [flatMap_nil, nil_append, flatMap_cons, append_assoc] at same
      rw [same] at ended
      exact absurd ended (clear y _ (fine y mem_cons_self))
  | cons x xs ih =>
    cases ys with
    | nil =>
      rw [flatMap_nil, nil_append, flatMap_cons, append_assoc] at same
      rw [← same] at finished
      exact absurd finished (clear x _ (good x mem_cons_self))
    | cons y =>
      simp only [flatMap_cons, append_assoc] at same
      have head := item x y (good x mem_cons_self) (fine y mem_cons_self) _ _ same
      have tail := ih (forall_mem_cons.mp good).2 (forall_mem_cons.mp fine).2 head.2
      exact ⟨by rw [head.1, tail.1], tail.2⟩

end Lists

end MiniDrop.Base
