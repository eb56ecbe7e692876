import MiniDrop.Base.Sweep
import Mathlib.Data.List.Chain
import Mathlib.Algebra.Ring.Int.Defs
/-!
# Labelled bands

A band is a half-open interval of integers with a label and a weight. Bands that follow each other
closely under one label are joined; the stretches no band covers are the gaps. The last result puts
the two together with the sweep: cutting and joining, filling the gaps that remain, and cutting and
joining again leaves no hole. Nothing here refers to a particular program.
-/
namespace MiniDrop.Base

open List

/-- A half-open interval of integers with a label and a weight. -/
structure Band (σ : Type) where
  (start stop : Int)
  label : σ
  weight : Nat

variable {σ : Type} {x : Int} {bands rest : List (Band σ)} {a b last band : Band σ}

/-- The point lies in the band. -/
def Band.Covers (band : Band σ) (x : Int) : Prop := band.start ≤ x ∧ x < band.stop

/-- Some band of the list covers the point. -/
def Covered (bands : List (Band σ)) (x : Int) : Prop := ∃ band ∈ bands, band.Covers x

/-- Bands in order: none is empty, and each ends before the next begins. -/
structure Ordered (bands : List (Band σ)) : Prop where
  proper : ∀ band ∈ bands, band.start < band.stop
  apart : bands.Pairwise fun a b => a.stop ≤ b.start

/-- A part of ordered bands is ordered. -/
theorem Ordered.sublist {fewer : List (Band σ)} (ordered : Ordered bands)
    (part : fewer.Sublist bands) : Ordered fewer :=
  ⟨fun band mem => ordered.proper band (part.subset mem), ordered.apart.sublist part⟩

/-- A point lies in one of the ordered bands only. -/
theorem Ordered.unique (ordered : Ordered bands) (aIn : a ∈ bands)
    (bIn : b ∈ bands) (coversA : a.Covers x) (coversB : b.Covers x) : a = b := by
  let Same (a b : Band σ) : Prop := a.Covers x → b.Covers x → a = b
  have forth : bands.Pairwise Same := ordered.apart.imp fun order first second =>
    absurd (lt_of_lt_of_le first.2 order) (not_lt.mpr second.1)
  have back : bands.Pairwise (flip Same) := forth.imp fun same first second =>
    (same second first).symm
  exact forth.forall_of_forall_of_flip (fun _ _ _ _ => rfl) back aIn bIn coversA coversB

/-- Nothing lies between two neighbours. -/
theorem Ordered.between {before after : List (Band σ)}
    (ordered : Ordered (before ++ a :: b :: after)) (lower : a.stop ≤ x) (upper : x < b.start) :
    ¬Covered (before ++ a :: b :: after) x := by
  rintro ⟨band, mem, starts, ends⟩
  obtain ⟨-, tail, across⟩ := pairwise_append.mp ordered.apart
  have fromA := pairwise_cons.mp tail
  rcases mem_append.mp mem with early | late
  · have := across band early a mem_cons_self
    have := ordered.proper a (by simp)
    omega
  · rcases mem_cons.mp late with rfl | later
    · omega
    · rcases mem_cons.mp later with rfl | last
      · omega
      · have := (pairwise_cons.mp fromA.2).1 band last
        have := ordered.proper b (by simp)
        omega

/-- A band that takes in the next one. -/
theorem Ordered.grow (ordered : Ordered (last :: band :: rest))
    (weight : Nat) : Ordered ({ last with stop := max last.stop band.stop, weight } :: rest) := by
  obtain ⟨proper, apart⟩ := ordered
  rw [forall_mem_cons, forall_mem_cons] at proper
  obtain ⟨first, second⟩ := pairwise_cons.mp apart
  obtain ⟨third, later⟩ := pairwise_cons.mp second
  refine ⟨forall_mem_cons.mpr ⟨lt_of_lt_of_le proper.1 (le_max_left _ _), proper.2.2⟩,
    pairwise_cons.mpr ⟨fun other mem => ?_, later⟩⟩
  exact max_le (first other (mem_cons_of_mem _ mem)) (third other mem)

/-! ## Tilings -/

/-- The bands follow each other without overlap or hole from one point to another. -/
def Tiles : Int → Int → List (Band σ) → Prop
  | low, high, [] => low = high
  | low, high, band :: rest => band.start = low ∧ band.start < band.stop ∧ Tiles band.stop high rest

/-- The lengths of a tiling add up. -/
theorem Tiles.sum_length {low high : Int} (tiles : Tiles low high bands) :
    (bands.map fun band => band.stop - band.start).sum = high - low := by
  induction bands generalizing low with
  | nil =>
    have same : low = high := tiles
    simp [same]
  | cons band rest ih =>
    obtain ⟨rfl, -, more⟩ := tiles
    rw [map_cons, sum_cons, ih more]
    omega

/-! ## Joining neighbours -/

section Groups

/-- Two neighbours that are joined. -/
def Near (tolerance : Int) (a b : Band σ) : Prop := b.label = a.label ∧ b.start - a.stop ≤ tolerance

/-- A hole of the bands around a point that a joined band closes. -/
def Closes (tolerance : Int) (bands : List (Band σ)) (joined : Band σ) (x : Int) : Prop :=
  ∃ a ∈ bands, ∃ b ∈ bands, Near tolerance a b ∧ a.stop ≤ x ∧ x < b.start ∧ joined.start ≤ a.start ∧
    b.stop ≤ joined.stop ∧ ∀ band ∈ bands, band.stop ≤ a.stop ∨ b.start ≤ band.start

end Groups

section Join

variable [DecidableEq σ] (tolerance : Int)

/-- The bands after one that is still growing. -/
def joinFrom : Band σ → List (Band σ) → List (Band σ)
  | last, [] => [last]
  | last, band :: rest =>
    if band.label = last.label ∧ band.start - last.stop ≤ tolerance then
      joinFrom
        { last with stop := max last.stop band.stop, weight := last.weight + band.weight } rest
    else last :: joinFrom band rest

/-- Neighbours under one label are joined across holes up to the tolerance. -/
def joinNear : List (Band σ) → List (Band σ)
  | [] => []
  | band :: rest => joinFrom tolerance band rest

variable {tolerance}

/-- Joining keeps bands in order. -/
theorem joinFrom_ordered (ordered : Ordered (last :: rest)) :
    Ordered (joinFrom tolerance last rest) ∧
      ∀ joined ∈ joinFrom tolerance last rest, last.start ≤ joined.start := by
  induction rest generalizing last with
  | nil => exact ⟨ordered, forall_mem_singleton.mpr (le_refl _)⟩
  | cons band rest ih =>
    rw [joinFrom]
    split
    · exact ih (ordered.grow _)
    · have proper := ordered.proper last mem_cons_self
      have order := (pairwise_cons.mp ordered.apart).1 band mem_cons_self
      obtain ⟨later, starts⟩ := ih (ordered.sublist (sublist_cons_self _ _))
      refine ⟨⟨forall_mem_cons.mpr ⟨proper, later.proper⟩, pairwise_cons.mpr
        ⟨fun other mem => le_trans order (starts other mem), later.apart⟩⟩,
        forall_mem_cons.mpr ⟨le_refl _, fun other mem => ?_⟩⟩
      have := starts other mem
      omega

/-- Joining keeps bands in order. -/
theorem joinNear_ordered (ordered : Ordered bands) : Ordered (joinNear tolerance bands) := by
  cases bands with
  | nil => exact ordered
  | cons => exact (joinFrom_ordered ordered).1

/-- A point of a joined band lies in one of the bands, or in a hole that was closed. The growing
band ends with one of the bands and holds no other points, and those to come begin after it. -/
theorem joinFrom_point (ordered : Ordered (last :: rest))
    (listed : ∀ band ∈ bands, band.stop ≤ last.stop ∨ band ∈ rest)
    (part : ∀ band ∈ rest, band ∈ bands)
    (ends : ∃ a ∈ bands, a.stop = last.stop ∧ a.label = last.label ∧ last.start ≤ a.start)
    (within : ∀ x, last.Covers x → Covered bands x ∨ Closes tolerance bands last x) :
    ∀ joined ∈ joinFrom tolerance last rest, ∀ x, joined.Covers x →
      Covered bands x ∨ Closes tolerance bands joined x := by
  induction rest generalizing last with
  | nil => exact forall_mem_singleton.mpr within
  | cons band rest ih =>
    have lastProper := ordered.proper last mem_cons_self
    have proper := ordered.proper band (mem_cons_of_mem _ mem_cons_self)
    obtain ⟨first, second⟩ := pairwise_cons.mp ordered.apart
    have order := first band mem_cons_self
    have bandIn := part band mem_cons_self
    have partRest := (forall_mem_cons.mp part).2
    have later : ∀ other ∈ bands, other.stop ≤ last.stop ∨ other = band ∨ other ∈ rest :=
      fun other mem => (listed other mem).imp_right mem_cons.mp
    have listedRest : ∀ other ∈ bands, other.stop ≤ band.stop ∨ other ∈ rest := by
      intro other mem
      rcases later other mem with early | rfl | late
      · exact .inl (by omega)
      · exact .inl (le_refl _)
      · exact .inr late
    rw [joinFrom]
    split
    · next near =>
      have stop : max last.stop band.stop = band.stop := max_eq_right (by omega)
      have grown := ordered.grow (last.weight + band.weight)
      rw [stop] at grown ⊢
      refine ih grown listedRest partRest ⟨band, bandIn, rfl, near.1, by dsimp only; omega⟩ ?_
      intro x covers
      by_cases old : x < last.stop
      · refine (within x ⟨covers.1, old⟩).imp_right ?_
        rintro ⟨a, aIn, b, bIn, close, lower, upper, starts, stops, apart⟩
        exact ⟨a, aIn, b, bIn, close, lower, upper, starts, by dsimp only; omega, apart⟩
      · by_cases hole : x < band.start
        · obtain ⟨a, aIn, sameStop, label, start⟩ := ends
          refine .inr ⟨a, aIn, band, bandIn, ⟨near.1.trans label.symm, by omega⟩, by omega,
            hole, start, le_refl _, fun other mem => ?_⟩
          rcases later other mem with early | rfl | late
          · exact .inl (by omega)
          · exact .inr (le_refl _)
          · have := (pairwise_cons.mp second).1 other late
            exact .inr (by omega)
        · exact .inl ⟨band, bandIn, not_lt.mp hole, covers.2⟩
    · exact forall_mem_cons.mpr ⟨within, ih (ordered.sublist (sublist_cons_self _ _)) listedRest
        partRest ⟨band, bandIn, rfl, rfl, le_refl _⟩ fun x covers => .inl ⟨band, bandIn, covers⟩⟩

/-- A point of a joined band lies in one of the bands, or in a hole that was closed. -/
theorem joinNear_point (ordered : Ordered bands) {joined : Band σ}
    (mem : joined ∈ joinNear tolerance bands) (covers : joined.Covers x) :
    Covered bands x ∨ Closes tolerance bands joined x := by
  cases bands with
  | nil => cases mem
  | cons band =>
    refine joinFrom_point ordered (forall_mem_cons.mpr ⟨.inl (le_refl _), fun _ => .inr⟩)
      (fun _ => mem_cons_of_mem _) ⟨band, mem_cons_self, rfl, rfl, le_refl _⟩
      (fun x covers => .inl ⟨band, mem_cons_self, covers⟩) joined mem x covers

/-- A point of a band lies in a joined one of its label. -/
theorem joinFrom_covers (ordered : Ordered (last :: rest)) :
    ∀ band ∈ last :: rest, band.Covers x →
      ∃ joined ∈ joinFrom tolerance last rest, joined.Covers x ∧ joined.label = band.label := by
  induction rest generalizing last with
  | nil => exact forall_mem_singleton.mpr fun covers => ⟨last, mem_singleton_self _, covers, rfl⟩
  | cons band rest ih =>
    rw [joinFrom]
    split
    · next near =>
      have order := (pairwise_cons.mp ordered.apart).1 band mem_cons_self
      have proper := ordered.proper last mem_cons_self
      obtain ⟨grown, later⟩ := forall_mem_cons.mp (ih (ordered.grow (last.weight + band.weight)))
      refine forall_mem_cons.mpr ⟨fun covers => grown ?_,
        forall_mem_cons.mpr ⟨fun covers => ?_, later⟩⟩
      · exact ⟨covers.1, lt_max_of_lt_left covers.2⟩
      · rw [near.1]
        exact grown ⟨by have := covers.1; dsimp only; omega, lt_max_of_lt_right covers.2⟩
    · refine forall_mem_cons.mpr ⟨fun covers => ⟨last, mem_cons_self, covers, rfl⟩, ?_⟩
      intro band mem covers
      obtain ⟨joined, joinedIn, found⟩ :=
        ih (ordered.sublist (sublist_cons_self _ _)) band mem covers
      exact ⟨joined, mem_cons_of_mem _ joinedIn, found⟩

theorem joinNear_covers (ordered : Ordered bands) (mem : band ∈ bands) (covers : band.Covers x) :
    ∃ joined ∈ joinNear tolerance bands, joined.Covers x ∧ joined.label = band.label := by
  cases bands with
  | nil => cases mem
  | cons => exact joinFrom_covers ordered band mem covers

/-- Two neighbours meet: they touch, or they will be joined. -/
def Meets (tolerance : Int) (a b : Band σ) : Prop := a.stop = b.start ∨ Near tolerance a b

/-- Neighbours that all meet are joined without a hole. -/
theorem joinFrom_tiles {final : Band σ} (ordered : Ordered (last :: rest))
    (chain : (last :: rest).IsChain (Meets tolerance))
    (ends : (last :: rest).getLast? = some final) :
    Tiles last.start final.stop (joinFrom tolerance last rest) := by
  induction rest generalizing last with
  | nil =>
    cases ends
    exact ⟨rfl, ordered.proper _ mem_cons_self, rfl⟩
  | cons band rest ih =>
    have proper := ordered.proper last mem_cons_self
    have bandProper := ordered.proper band (by simp)
    have order := (pairwise_cons.mp ordered.apart).1 band mem_cons_self
    have bandOrder := ordered.sublist (sublist_cons_self _ _)
    obtain ⟨meets, bandChain⟩ := isChain_cons_cons.mp chain
    have bandEnds : (band :: rest).getLast? = some final := by
      rw [← ends]
      rfl
    rw [joinFrom]
    split
    · next near =>
      -- The growing band ends like the one it takes in, and has its label.
      have grown := ordered.grow (last.weight + band.weight)
      rw [max_eq_right (by omega)] at grown ⊢
      cases rest with
      | nil =>
        obtain rfl : band = final := Option.some.inj bandEnds
        exact ⟨rfl, grown.proper _ mem_cons_self, rfl⟩
      | cons next =>
        obtain ⟨nextMeets, nextChain⟩ := isChain_cons_cons.mp bandChain
        refine ih grown (isChain_cons_cons.mpr ⟨?_, nextChain⟩) (bandEnds.symm ▸ rfl)
        exact nextMeets.imp_right fun next => ⟨next.1.trans near.1, next.2⟩
    · next apart =>
      refine ⟨rfl, proper, ?_⟩
      rw [meets.resolve_right apart]
      exact ih bandOrder bandChain bandEnds

end Join

/-! ## Gaps -/

/-- The stretches from a cursor up to a limit that no band covers. -/
def gaps (limit : Int) : Int → List (Band σ) → List (Int × Int)
  | cursor, [] => if cursor < limit then [(cursor, limit)] else []
  | cursor, band :: rest =>
    (if cursor < band.start ∧ cursor < limit then [(cursor, min band.start limit)] else []) ++
      gaps limit (max cursor band.stop) rest

/-- The gaps hold exactly the points up to the limit that no band covers. -/
theorem mem_gaps {limit : Int} (ordered : Ordered bands) {cursor : Int} :
    (∃ gap ∈ gaps limit cursor bands, gap.1 ≤ x ∧ x < gap.2) ↔
      cursor ≤ x ∧ x < limit ∧ ¬Covered bands x := by
  induction bands generalizing cursor with
  | nil =>
    have uncovered : ¬Covered ([] : List (Band σ)) x := by
      rintro ⟨band, mem, -⟩
      cases mem
    rw [gaps]
    split
    · simp [uncovered]
    · simp only [not_mem_nil, false_and, exists_false, false_iff]
      omega
  | cons band rest ih =>
    have proper := ordered.proper band mem_cons_self
    have restOrder := ordered.sublist (sublist_cons_self _ _)
    have headed : Covered (band :: rest) x ↔ band.Covers x ∨ Covered rest x := by
      simp [Covered]
    -- The bands that follow begin where this one has ended.
    have later : Covered rest x → band.stop ≤ x := by
      rintro ⟨other, mem, starts, -⟩
      have := (pairwise_cons.mp ordered.apart).1 other mem
      omega
    have first : (∃ gap ∈ (if cursor < band.start ∧ cursor < limit then
          [(cursor, min band.start limit)] else []), gap.1 ≤ x ∧ x < gap.2) ↔
        cursor ≤ x ∧ x < limit ∧ x < band.start := by
      split
      · simp only [mem_singleton, exists_eq_left]
        omega
      · simp only [not_mem_nil, false_and, exists_false, false_iff]
        omega
    rw [gaps]
    simp only [mem_append, or_and_right, exists_or]
    rw [first, ih restOrder, headed]
    unfold Band.Covers
    by_cases after : Covered rest x
    · have := later after
      simp only [after, or_true, not_true_eq_false, and_false, or_false, iff_false]
      omega
    · simp only [after, or_false, not_false_eq_true, and_true]
      omega

/-! ## Cutting, filling and joining -/

section Fill

variable (rank : σ → Int) {x : Int} {index : Nat}

/-- The bands as ranked intervals. -/
def ranges (bands : List (Band σ)) : List Ranged :=
  bands.map fun band => ⟨band.start, band.stop, rank band.label⟩

/-- The pieces cut the bands: on each piece the label is that of the winning band, and together
they cover what the bands cover. -/
structure Cuts (bands pieces : List (Band σ)) : Prop where
  ordered : Ordered pieces
  wins : ∀ piece ∈ pieces, ∀ x, piece.Covers x → ∃ index band,
    Wins (ranges rank bands) x index ∧ bands[index]? = some band ∧ band.label = piece.label
  complete : ∀ x, Covered bands x → Covered pieces x

variable {rank} {added pieces : List (Band σ)}

/-- The intervals that cover a point, as bands. -/
theorem active_ranges :
    Active (ranges rank bands) x index ↔ ∃ band, bands[index]? = some band ∧ band.Covers x := by
  simp only [Active, ranges, getElem?_map, Option.map_eq_some_iff, exists_exists_and_eq_and]
  rfl

/-- Some interval covers a point where some band does. -/
theorem covered_iff_active :
    Covered bands x ↔ ∃ index, Active (ranges rank bands) x index := by
  simp only [Covered, mem_iff_getElem?, active_ranges, ← exists_and_right]
  exact exists_comm

/-- The pieces cover exactly what the bands cover. -/
theorem Cuts.covered_iff (cuts : Cuts rank bands pieces) : Covered pieces x ↔ Covered bands x := by
  refine ⟨?_, cuts.complete x⟩
  rintro ⟨piece, mem, covers⟩
  obtain ⟨index, band, wins, -⟩ := cuts.wins piece mem x covers
  exact covered_iff_active.mpr ⟨index, wins.1⟩

/-- Bands added elsewhere do not change who wins at a point. -/
theorem wins_of_append (elsewhere : ¬Covered added x)
    (wins : Wins (ranges rank (bands ++ added)) x index) : Wins (ranges rank bands) x index := by
  have inFront {i : Nat} (active : Active (ranges rank (bands ++ added)) x i) :
      i < bands.length := by
    obtain ⟨band, stored, covers⟩ := active_ranges.mp active
    by_contra behind
    rw [getElem?_append_right (not_lt.mp behind)] at stored
    exact elsewhere ⟨band, mem_of_getElem? stored, covers⟩
  have same {i : Nat} (front : i < bands.length) : (bands ++ added)[i]? = bands[i]? :=
    getElem?_append_left front
  have rankSame {i : Nat} (front : i < bands.length) :
      candidate (rankOf (ranges rank (bands ++ added))) i =
        candidate (rankOf (ranges rank bands)) i := by
    unfold candidate rankOf ranges
    rw [getElem?_map, getElem?_map, same front]
  have front := inFront wins.1
  obtain ⟨band, stored, covers⟩ := active_ranges.mp wins.1
  rw [same front] at stored
  refine ⟨active_ranges.mpr ⟨band, stored, covers⟩, fun other active => ?_⟩
  obtain ⟨rival, found, rivalCovers⟩ := active_ranges.mp active
  have rivalFront : other < bands.length := (List.getElem?_eq_some_iff.mp found).1
  have still : Active (ranges rank (bands ++ added)) x other :=
    active_ranges.mpr ⟨rival, by rw [same rivalFront]; exact found, rivalCovers⟩
  rw [← rankSame front, ← rankSame rivalFront]
  exact wins.2 other still

/-- Pieces of the bands and of the bands with more added agree where nothing was added. -/
theorem Cuts.label_eq {filled : List (Band σ)} (cuts : Cuts rank bands pieces)
    (cutsFilled : Cuts rank (bands ++ added) filled) {a b : Band σ} (inPieces : a ∈ pieces)
    (inFilled : b ∈ filled) (coversA : a.Covers x) (coversB : b.Covers x)
    (elsewhere : ¬Covered added x) : a.label = b.label := by
  obtain ⟨i, own, winsA, storedA, labelA⟩ := cuts.wins a inPieces x coversA
  obtain ⟨j, other, winsB, storedB, labelB⟩ := cutsFilled.wins b inFilled x coversB
  have winsBoth := wins_of_append elsewhere winsB
  have same := winsA.unique winsBoth
  subst same
  have front : i < bands.length := (List.getElem?_eq_some_iff.mp storedA).1
  rw [List.getElem?_append_left front, storedA] at storedB
  cases storedB
  exact labelA.symm.trans labelB

/-- A piece covers its first and its last point. -/
theorem Cuts.covers_ends (cuts : Cuts rank bands pieces) {piece : Band σ} (mem : piece ∈ pieces) :
    piece.Covers piece.start ∧ piece.Covers (piece.stop - 1) := by
  have := cuts.ordered.proper piece mem
  unfold Band.Covers
  omega

/-- Bands inside a range are cut into `pieces`, and what joining these leaves open up to a limit is
filled with `added`; beyond the limit the bands leave nothing open. The filled bands are cut into
`filled`. -/
structure Fills [DecidableEq σ] (rank : σ → Int) (tolerance low high limit : Int)
    (bands added pieces filled : List (Band σ)) : Prop where
  cuts : Cuts rank bands pieces
  cutsFilled : Cuts rank (bands ++ added) filled
  inside : ∀ x, Covered bands x → low ≤ x ∧ x < high
  limitHigh : limit ≤ high
  tail : ∀ x, limit ≤ x → low ≤ x → x < high → Covered bands x
  fills : ∀ x, Covered added x ↔ low ≤ x ∧ x < limit ∧ ¬Covered (joinNear tolerance pieces) x

variable [DecidableEq σ] {tolerance low high limit : Int} {filled : List (Band σ)}

variable (fill : Fills rank tolerance low high limit bands added pieces filled)
include fill

/-- The filled pieces cover the bands and what was added. -/
theorem Fills.covered_iff : Covered filled x ↔ Covered bands x ∨ Covered added x := by
  rw [fill.cutsFilled.covered_iff]
  simp [Covered, or_and_right, exists_or]

/-- The filled pieces lie inside the range. -/
theorem Fills.bounds (covered : Covered filled x) : low ≤ x ∧ x < high := by
  rcases fill.covered_iff.mp covered with old | new
  · exact fill.inside x old
  · have := (fill.fills x).mp new
    have := fill.limitHigh
    omega

/-- A point that stays open lies in a hole between two pieces that joining closes, and nothing was
added from the first of them to the second. -/
theorem Fills.hole (lower : low ≤ x) (upper : x < high) (isOpen : ¬Covered filled x) :
    ∃ a ∈ pieces, ∃ b ∈ pieces, Near tolerance a b ∧ a.stop ≤ x ∧ x < b.start ∧
      (∀ piece ∈ pieces, piece.stop ≤ a.stop ∨ b.start ≤ piece.start) ∧
      ∀ y, a.start ≤ y → y < b.stop → ¬Covered added y := by
  rw [fill.covered_iff, not_or] at isOpen
  have early : x < limit := by
    by_contra late
    exact isOpen.1 (fill.tail x (not_lt.mp late) lower upper)
  have joined : Covered (joinNear tolerance pieces) x := by
    by_contra unjoined
    exact isOpen.2 ((fill.fills x).mpr ⟨lower, early, unjoined⟩)
  obtain ⟨band, mem, covers⟩ := joined
  rcases joinNear_point fill.cuts.ordered mem covers with
    covered | ⟨a, aIn, b, bIn, near, ends, starts, bandStart, bandStop, apart⟩
  · exact absurd (fill.cuts.covered_iff.mp covered) isOpen.1
  · refine ⟨a, aIn, b, bIn, near, ends, starts, apart, fun y fromA toB added => ?_⟩
    refine ((fill.fills y).mp added).2.2 ⟨band, mem, ?_, ?_⟩
    · exact le_trans bandStart fromA
    · exact lt_of_lt_of_le toB bandStop

/-- Neighbours of the filled pieces meet. -/
theorem Fills.meets {before after : List (Band σ)} {s t : Band σ}
    (split : filled = before ++ s :: t :: after) : Meets tolerance s t := by
  have sIn : s ∈ filled := by rw [split]; simp
  have tIn : t ∈ filled := by rw [split]; simp
  have ordered := fill.cutsFilled.ordered
  have sEnds := fill.cutsFilled.covers_ends sIn
  have tEnds := fill.cutsFilled.covers_ends tIn
  have order : s.stop ≤ t.start := by
    rw [split] at ordered
    have tail := (pairwise_append.mp ordered.apart).2.1
    exact (pairwise_cons.mp tail).1 t mem_cons_self
  by_cases touches : s.stop = t.start
  · exact .inl touches
  · have vacant {y : Int} (lower : s.stop ≤ y) (upper : y < t.start) : ¬Covered filled y := by
      rw [split] at ordered ⊢
      exact ordered.between lower upper
    have sLow := (fill.bounds ⟨s, sIn, sEnds.2⟩).1
    have tHigh := (fill.bounds ⟨t, tIn, tEnds.1⟩).2
    obtain ⟨a, aIn, b, bIn, near, ends, starts, apart, nothing⟩ :=
      fill.hole (x := s.stop) (by omega) (by omega) (vacant (le_refl _) (by omega))
    have aProper := fill.cuts.ordered.proper a aIn
    have bProper := fill.cuts.ordered.proper b bIn
    -- Between `a` and `b` there is neither a band nor anything added.
    have empty {y : Int} (lower : a.stop ≤ y) (upper : y < b.start) : ¬Covered filled y := by
      rw [fill.covered_iff, not_or, ← fill.cuts.covered_iff]
      refine ⟨?_, nothing y (by omega) (by omega)⟩
      rintro ⟨piece, mem, covers⟩
      unfold Band.Covers at covers
      rcases apart piece mem with early | late <;> omega
    have sameStop : a.stop = s.stop := by
      by_contra differs
      exact empty (by omega) (by omega) ⟨s, sIn, sEnds.2⟩
    have sameStart : b.start = t.start := by
      by_contra differs
      rcases lt_or_gt_of_ne differs with before | after
      · refine vacant (by omega) before (fill.covered_iff.mpr (.inl ?_))
        exact fill.cuts.covered_iff.mp ⟨b, bIn, le_refl _, bProper⟩
      · exact empty (by omega) after ⟨t, tIn, tEnds.1⟩
    have aLabel : a.label = s.label := by
      refine fill.cuts.label_eq fill.cutsFilled aIn sIn (x := s.stop - 1) ?_ sEnds.2
        (nothing _ (by omega) (by omega))
      unfold Band.Covers
      omega
    have bLabel : b.label = t.label := by
      refine fill.cuts.label_eq fill.cutsFilled bIn tIn (x := t.start) ?_ tEnds.1
        (nothing _ (by omega) (by omega))
      unfold Band.Covers
      omega
    refine .inr ⟨?_, ?_⟩
    · rw [← aLabel, ← bLabel]
      exact near.1
    · rw [← sameStop, ← sameStart]
      exact near.2

/-- Both ends of the range are covered by the filled pieces. -/
theorem Fills.covers_ends (proper : low < high) :
    Covered filled low ∧ Covered filled (high - 1) := by
  have pieceBounds {piece : Band σ} (mem : piece ∈ pieces) : low ≤ piece.start ∧
      piece.start < high :=
    fill.inside _ (fill.cuts.covered_iff.mp ⟨piece, mem, (fill.cuts.covers_ends mem).1⟩)
  constructor
  · by_contra isOpen
    obtain ⟨a, aIn, -, -, -, ends, -⟩ := fill.hole (le_refl _) proper isOpen
    have := fill.cuts.ordered.proper a aIn
    have := pieceBounds aIn
    omega
  · by_contra isOpen
    obtain ⟨-, -, b, bIn, -, -, starts, -⟩ :=
      fill.hole (x := high - 1) (by omega) (by omega) isOpen
    have := pieceBounds bIn
    omega

/-- Cutting and joining the filled bands tiles the range: the holes that stay open are those that
joining closes. -/
theorem Fills.tiles (proper : low < high) : Tiles low high (joinNear tolerance filled) := by
  have ordered := fill.cutsFilled.ordered
  obtain ⟨⟨first, firstIn, firstLow, -⟩, last, lastIn, -, lastHigh⟩ := fill.covers_ends proper
  have chain : filled.IsChain (Meets tolerance) :=
    isChain_iff_forall_rel_of_append_cons_cons.mpr fun a b before after split => fill.meets split
  cases filled with
  | nil => cases firstIn
  | cons head rest =>
    obtain ⟨final, ends⟩ : ∃ final, (head :: rest).getLast? = some final :=
      ⟨_, getLast?_eq_getLast_of_ne_nil (cons_ne_nil head rest)⟩
    have tiles := joinFrom_tiles ordered chain ends
    have headStart : head.start = low := by
      have := (fill.bounds ⟨head, mem_cons_self, (fill.cutsFilled.covers_ends mem_cons_self).1⟩).1
      rcases mem_cons.mp firstIn with rfl | later
      · omega
      · have := (pairwise_cons.mp ordered.apart).1 first later
        have := ordered.proper head mem_cons_self
        omega
    have finalIn := mem_of_getLast? ends
    have finalStop : final.stop = high := by
      have := (fill.bounds ⟨final, finalIn, (fill.cutsFilled.covers_ends finalIn).2⟩).2
      obtain ⟨front, split⟩ := getLast?_eq_some_iff.mp ends
      rw [split] at lastIn ordered
      rcases mem_append.mp lastIn with early | same
      · have := (pairwise_append.mp ordered.apart).2.2 last early final (by simp)
        have := ordered.proper final (by simp)
        omega
      · rw [mem_singleton.mp same] at lastHigh
        omega
    rw [headStart, finalStop] at tiles
    exact tiles

end Fill

end MiniDrop.Base
