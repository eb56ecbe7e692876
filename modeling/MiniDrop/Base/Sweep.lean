import MiniDrop.Base.Tables
import Mathlib.Data.List.TakeWhile
import Mathlib.Data.Prod.Lex
/-!
# Sweeping ranked intervals

Half-open intervals of integers, each with a rank, are cut at their end points; on each piece the
interval of highest rank wins, the earlier one in a tie. The sweep goes through the end points in
order and keeps the open intervals in a heap from which closed ones are removed late. The main
results are about single points: every point of a piece has the piece's winner, and every point of
an interval lies in a piece. Nothing here refers to a particular program.
-/
namespace MiniDrop.Base

open List

/-- A half-open interval of integers with a rank. -/
structure Ranged where
  (start stop rank : Int)

/-- The point lies in the interval. -/
def Ranged.Covers (range : Ranged) (x : Int) : Prop := range.start ≤ x ∧ x < range.stop

/-- An end point of the interval with the given index. -/
structure Edge where
  time : Int
  index : Nat
  opens : Bool

/-- A piece of the line and the index of the interval that wins on it. -/
structure Piece where
  (start stop : Int)
  winner : Nat

/-- The end points of the intervals that are not empty. -/
def edges (ranges : List Ranged) : List Edge :=
  ranges.zipIdx.flatMap fun (range, index) =>
    if range.start < range.stop then [⟨range.start, index, true⟩, ⟨range.stop, index, false⟩]
      else []

/-- End points go by time, opening ones first. -/
def Edge.key (edge : Edge) : Int ×ₗ Bool := toLex (edge.time, !edge.opens)

/-- The rank of an interval by its index. -/
def rankOf (ranges : List Ranged) (index : Nat) : Int := (ranges[index]?.map (·.rank)).getD 0

/-- Candidates go by falling rank, then by index. -/
def candidate (ranks : Nat → Int) (index : Nat) : Int ×ₗ Nat := toLex (-ranks index, index)

/-- The open intervals, and the heap of candidates in its order. -/
structure Frame where
  active : List Nat := []
  heap : List (Int ×ₗ Nat) := []

namespace Frame

/-- Passing an end point. -/
def take (ranks : Nat → Int) (frame : Frame) (edge : Edge) : Frame :=
  if edge.opens then
    { active := edge.index :: frame.active
      heap := frame.heap.orderedInsert (· ≤ ·) (candidate ranks edge.index) }
  else { frame with active := frame.active.filter (· ≠ edge.index) }

/-- The candidate's interval is no longer open. -/
def closed (frame : Frame) (top : Int ×ₗ Nat) : Bool := (ofLex top).2 ∉ frame.active

/-- Removing closed candidates from the top of the heap. -/
def prune (frame : Frame) : Frame := { frame with heap := frame.heap.dropWhile frame.closed }

/-- The piece between two end points, if an interval is open there. -/
def emit (frame : Frame) (start stop : Int) : List Piece :=
  match frame.heap with
  | [] => []
  | top :: _ => if start < stop then [⟨start, stop, (ofLex top).2⟩] else []

end Frame

/-- The sweep through the end points that are left. -/
def sweepFrom (ranks : Nat → Int) : Frame → List Edge → List Piece
  | _, [] => []
  | frame, edge :: rest =>
    let frame := frame.take ranks edge
    match rest.head? with
    | none => []
    | some next =>
      -- All end points at one time are passed before a piece is cut.
      if next.time = edge.time then sweepFrom ranks frame rest
      else frame.prune.emit edge.time next.time ++ sweepFrom ranks frame.prune rest

/-- The pieces of a list of intervals. -/
def sweepRanges (ranges : List Ranged) : List Piece :=
  sweepFrom (rankOf ranges) {} (orderBy Edge.key (edges ranges))

section Spec

variable {ranges : List Ranged}

/-- The interval with the index covers the point. -/
def Active (ranges : List Ranged) (x : Int) (index : Nat) : Prop :=
  ∃ range, ranges[index]? = some range ∧ range.Covers x

/-- The interval with the index is the best one that covers the point. -/
def Wins (ranges : List Ranged) (x : Int) (index : Nat) : Prop :=
  Active ranges x index ∧
    ∀ other, Active ranges x other →
      candidate (rankOf ranges) index ≤ candidate (rankOf ranges) other

variable {x low middle : Int} {edge : Edge} {passed rest : List Edge} {frame : Frame}
  {pieces : List Piece}

/-- At most one interval wins at a point. -/
theorem Wins.unique {a b : Nat} (first : Wins ranges x a) (second : Wins ranges x b) : a = b := by
  have same := le_antisymm (first.2 b second.1) (second.2 a first.1)
  have pair : (-rankOf ranges a, a) = (-rankOf ranges b, b) := same
  exact congrArg Prod.snd pair

/-- The end points are those of the intervals that are not empty. -/
theorem mem_edges :
    edge ∈ edges ranges ↔ ∃ range, ranges[edge.index]? = some range ∧ range.start < range.stop ∧
      edge.time = if edge.opens then range.start else range.stop := by
  obtain ⟨time, index, opens⟩ := edge
  simp only [edges, mem_flatMap, Prod.exists, mem_zipIdx_iff_getElem?]
  constructor
  · rintro ⟨range, position, stored, mem⟩
    split at mem
    · next proper =>
      simp only [mem_cons, Edge.mk.injEq, not_mem_nil, or_false] at mem
      rcases mem with ⟨rfl, rfl, rfl⟩ | ⟨rfl, rfl, rfl⟩
      · exact ⟨range, stored, proper, rfl⟩
      · exact ⟨range, stored, proper, rfl⟩
    · cases mem
  · rintro ⟨range, stored, proper, timed⟩
    refine ⟨range, index, stored, ?_⟩
    rw [if_pos proper]
    cases opens <;> simp [timed]

/-- What the frame knows after the end points that were passed. -/
structure Frame.Knows (ranges : List Ranged) (passed : List Edge) (frame : Frame) : Prop where
  active : ∀ index, index ∈ frame.active ↔ ∃ range, ranges[index]? = some range ∧
    ⟨range.start, index, true⟩ ∈ passed ∧ ⟨range.stop, index, false⟩ ∉ passed
  sorted : frame.heap.Pairwise (· ≤ ·)
  keyed : ∀ top ∈ frame.heap, top = candidate (rankOf ranges) (ofLex top).2
  holds : ∀ index ∈ frame.active, candidate (rankOf ranges) index ∈ frame.heap

/-- In order, the end points passed come no later than the one at hand. -/
theorem time_le_of_sorted (sorted : (passed ++ edge :: rest).Pairwise fun a b => a.key ≤ b.key) :
    (∀ earlier ∈ passed, earlier.time ≤ edge.time) ∧ ∀ later ∈ rest, edge.time ≤ later.time := by
  have timed {a b : Edge} (ordered : a.key ≤ b.key) : a.time ≤ b.time := by
    rcases Prod.Lex.le_iff.mp ordered with before | ⟨same, -⟩
    · exact le_of_lt before
    · exact le_of_eq same
  obtain ⟨-, after, across⟩ := pairwise_append.mp sorted
  refine ⟨fun earlier mem => ?_, fun later mem => ?_⟩
  · exact timed (across earlier mem edge mem_cons_self)
  · exact timed ((pairwise_cons.mp after).1 later mem)

/-- Passing an end point keeps what the frame knows. -/
theorem Frame.Knows.take (knows : frame.Knows ranges passed) (real : edge ∈ edges ranges)
    (sorted : (passed ++ edge :: rest).Pairwise fun a b => a.key ≤ b.key) :
    (frame.take (rankOf ranges) edge).Knows ranges (passed ++ [edge]) := by
  obtain ⟨time, place, opens⟩ := edge
  obtain ⟨own, stored, proper, timed⟩ := mem_edges.mp real
  have earlier := (time_le_of_sorted sorted).1
  cases opens with
  | true =>
    have timed : time = own.start := timed
    subst timed
    refine ⟨fun index => ?_, ?_, ?_, ?_⟩
    · change index ∈ place :: frame.active ↔ _
      rw [mem_cons]
      by_cases same : index = place
      · subst same
        refine iff_of_true (Or.inl rfl) ⟨own, stored, by simp, ?_⟩
        -- A closing end point that was passed would lie before its opening one.
        intro closed
        rcases mem_append.mp closed with before | now
        · have := earlier _ before
          dsimp only at this
          omega
        · simp at now
      · simp only [same, false_or, knows.active index]
        refine exists_congr fun range => and_congr_right fun _ => ?_
        simp [same]
    · exact List.Pairwise.orderedInsert (candidate (rankOf ranges) place) frame.heap knows.sorted
    · intro top mem
      rcases mem_orderedInsert _ |>.mp mem with rfl | old
      · rfl
      · exact knows.keyed top old
    · intro index mem
      rcases mem_cons.mp mem with rfl | old
      · exact (mem_orderedInsert _).mpr (Or.inl rfl)
      · exact (mem_orderedInsert _).mpr (Or.inr (knows.holds index old))
  | false =>
    have timed : time = own.stop := timed
    subst timed
    refine ⟨fun index => ?_, knows.sorted, knows.keyed, ?_⟩
    · change index ∈ frame.active.filter _ ↔ _
      rw [mem_filter, knows.active index]
      by_cases same : index = place
      · subst same
        refine iff_of_false (fun both => ?_) ?_
        · simp at both
        · rintro ⟨range, again, -, stillOpen⟩
          rw [stored] at again
          cases again
          exact stillOpen (by simp)
      · simp only [same, ne_eq, not_false_eq_true, decide_true, and_true]
        refine exists_congr fun range => and_congr_right fun _ => ?_
        simp [same]
    · intro index mem
      exact knows.holds index (mem_filter.mp mem).1

/-- What is not dropped from the front stays. -/
theorem mem_dropWhile {τ : Type} {test : τ → Bool} {rows : List τ} {row : τ} (mem : row ∈ rows)
    (fails : test row = false) : row ∈ rows.dropWhile test := by
  rw [← takeWhile_append_dropWhile (p := test) (l := rows)] at mem
  refine (mem_append.mp mem).resolve_left fun early => ?_
  rw [mem_takeWhile_imp early] at fails
  cases fails

/-- Removing closed candidates keeps what the frame knows. -/
theorem Frame.Knows.prune (knows : frame.Knows ranges passed) :
    frame.prune.Knows ranges passed := by
  have part := dropWhile_sublist (l := frame.heap) frame.closed
  refine ⟨knows.active, knows.sorted.sublist part, ?_, ?_⟩
  · exact fun top mem => knows.keyed top (part.subset mem)
  · intro index mem
    have isOpen : index ∈ frame.active := mem
    refine mem_dropWhile (knows.holds index isOpen) ?_
    simp [Frame.closed, candidate, isOpen]

/-- After pruning, the top of the heap is the best open interval. -/
theorem Frame.Knows.top (knows : frame.Knows ranges passed)
    {top : Int ×ₗ Nat} {others : List (Int ×ₗ Nat)} (heap : frame.prune.heap = top :: others) :
    (ofLex top).2 ∈ frame.active ∧ ∀ index ∈ frame.active,
      candidate (rankOf ranges) (ofLex top).2 ≤ candidate (rankOf ranges) index := by
  have pruned := knows.prune
  have here : top ∈ frame.prune.heap := by
    rw [heap]
    exact mem_cons_self
  have isOpen : (ofLex top).2 ∈ frame.active := by
    have first : (frame.heap.dropWhile frame.closed).head? = some top := by
      rw [show frame.heap.dropWhile frame.closed = top :: others from heap, head?_cons]
    have fails := head?_dropWhile_not frame.closed frame.heap
    rw [first] at fails
    simpa [Frame.closed] using fails
  refine ⟨isOpen, fun index mem => ?_⟩
  rw [← pruned.keyed top here]
  have held := pruned.holds index mem
  have sorted := pruned.sorted
  rw [heap] at held sorted
  rcases mem_cons.mp held with same | later
  · exact le_of_eq same.symm
  · exact (pairwise_cons.mp sorted).1 _ later

/-- Between two end points the open intervals are those that cover the points there. -/
theorem Frame.Knows.active_iff {next : Edge} (knows : frame.Knows ranges (passed ++ [edge]))
    (all : ∀ e, e ∈ passed ++ edge :: next :: rest ↔ e ∈ edges ranges)
    (sorted : (passed ++ edge :: next :: rest).Pairwise fun a b => a.key ≤ b.key)
    (lower : edge.time ≤ x) (upper : x < next.time) (index : Nat) :
    index ∈ frame.active ↔ Active ranges x index := by
  have upToEdge := (time_le_of_sorted sorted).1
  have fromNext : ∀ later ∈ next :: rest, next.time ≤ later.time := by
    have again : ((passed ++ [edge]) ++ next :: rest).Pairwise fun a b => a.key ≤ b.key := by
      simpa using sorted
    intro later mem
    rcases mem_cons.mp mem with rfl | more
    · exact le_refl _
    · exact (time_le_of_sorted again).2 later more
  -- Passed end points lie at or before the point, the others after it.
  have passedEarly : ∀ e ∈ passed ++ [edge], e.time ≤ x := by
    intro e mem
    rcases mem_append.mp mem with old | now
    · exact le_trans (upToEdge e old) lower
    · rw [mem_singleton.mp now]
      exact lower
  have whole : ∀ e, e ∈ edges ranges → e ∈ passed ++ [edge] ∨ e ∈ next :: rest := by
    intro e real
    have listed := (all e).mpr real
    simp only [mem_append, mem_cons] at listed ⊢
    tauto
  rw [knows.active index]
  constructor
  · rintro ⟨range, stored, opened, notClosed⟩
    have proper : range.start < range.stop := by
      have real : ⟨range.start, index, true⟩ ∈ edges ranges := by
        refine (all _).mp ?_
        simp only [mem_append, mem_cons] at opened ⊢
        tauto
      obtain ⟨own, again, proper, -⟩ := mem_edges.mp real
      rw [stored] at again
      cases again
      exact proper
    refine ⟨range, stored, passedEarly _ opened, ?_⟩
    have real : ⟨range.stop, index, false⟩ ∈ edges ranges :=
      mem_edges.mpr ⟨range, stored, proper, rfl⟩
    have later := (whole _ real).resolve_left notClosed
    exact lt_of_lt_of_le upper (fromNext _ later)
  · rintro ⟨range, stored, after, before⟩
    have proper : range.start < range.stop := lt_of_le_of_lt after before
    refine ⟨range, stored, ?_, ?_⟩
    · have real : ⟨range.start, index, true⟩ ∈ edges ranges :=
        mem_edges.mpr ⟨range, stored, proper, rfl⟩
      refine (whole _ real).resolve_right fun later => ?_
      have := fromNext _ later
      dsimp only at this
      omega
    · intro closed
      have := passedEarly _ closed
      dsimp only at this
      omega

/-- Pieces that describe the line from a point on. -/
structure Describes (ranges : List Ranged) (low : Int) (pieces : List Piece) : Prop where
  proper : ∀ piece ∈ pieces, piece.start < piece.stop
  above : ∀ piece ∈ pieces, low ≤ piece.start
  ordered : pieces.Pairwise fun a b => a.stop ≤ b.start
  wins : ∀ piece ∈ pieces, ∀ x, piece.start ≤ x → x < piece.stop → Wins ranges x piece.winner
  complete : ∀ x index, low ≤ x → Active ranges x index →
    ∃ piece ∈ pieces, piece.start ≤ x ∧ x < piece.stop

/-- A piece before the others. -/
theorem Describes.cons {winner : Nat} (describes : Describes ranges middle pieces)
    (proper : low < middle) (wins : ∀ x, low ≤ x → x < middle → Wins ranges x winner) :
    Describes ranges low (⟨low, middle, winner⟩ :: pieces) := by
  refine ⟨?_, ?_, ?_, ?_, ?_⟩
  · exact forall_mem_cons.mpr ⟨proper, describes.proper⟩
  · refine forall_mem_cons.mpr ⟨le_refl _, fun piece mem => ?_⟩
    exact le_trans (le_of_lt proper) (describes.above piece mem)
  · exact pairwise_cons.mpr ⟨describes.above, describes.ordered⟩
  · exact forall_mem_cons.mpr ⟨wins, describes.wins⟩
  · intro x index lower active
    by_cases inside : x < middle
    · exact ⟨_, mem_cons_self, lower, inside⟩
    · obtain ⟨piece, mem, within⟩ := describes.complete x index (not_lt.mp inside) active
      exact ⟨piece, mem_cons_of_mem _ mem, within⟩

/-- A stretch on which nothing is open before the others. -/
theorem Describes.skip (describes : Describes ranges middle pieces) (proper : low ≤ middle)
    (idle : ∀ x index, low ≤ x → x < middle → ¬Active ranges x index) :
    Describes ranges low pieces := by
  refine ⟨describes.proper, fun piece mem => ?_, describes.ordered, describes.wins, ?_⟩
  · exact le_trans proper (describes.above piece mem)
  · intro x index lower active
    refine describes.complete x index ?_ active
    by_contra outside
    exact idle x index lower (not_le.mp outside) active

/-- The sweep describes the line from the end point at hand on. -/
theorem sweepFrom_describes (knows : frame.Knows ranges passed)
    (all : ∀ e, e ∈ passed ++ edge :: rest ↔ e ∈ edges ranges)
    (sorted : (passed ++ edge :: rest).Pairwise fun a b => a.key ≤ b.key) :
    Describes ranges edge.time (sweepFrom (rankOf ranges) frame (edge :: rest)) := by
  -- The induction is on the end points left; those passed grow with it.
  induction rest generalizing passed edge frame with
  | nil =>
    refine ⟨forall_mem_nil _, forall_mem_nil _, List.Pairwise.nil, forall_mem_nil _, ?_⟩
    rintro x index lower ⟨range, stored, after, before⟩
    have real : ⟨range.stop, index, false⟩ ∈ edges ranges :=
      mem_edges.mpr ⟨range, stored, lt_of_le_of_lt after before, rfl⟩
    have bound : range.stop ≤ edge.time := by
      rcases mem_append.mp ((all _).mpr real) with early | last
      · exact (time_le_of_sorted sorted).1 _ early
      · have same := mem_singleton.mp last
        exact le_of_eq (congrArg Edge.time same)
    omega
  | cons next rest ih =>
    have real : edge ∈ edges ranges := (all edge).mp (by simp)
    have taken := knows.take real sorted
    have nextAll : ∀ e, e ∈ (passed ++ [edge]) ++ next :: rest ↔ e ∈ edges ranges := by
      intro e
      rw [← all e]
      simp
    have nextSorted : ((passed ++ [edge]) ++ next :: rest).Pairwise fun a b => a.key ≤ b.key := by
      simpa using sorted
    have order : edge.time ≤ next.time := (time_le_of_sorted sorted).2 next mem_cons_self
    rw [sweepFrom, head?_cons]
    dsimp only
    split
    · next same =>
      have later := ih taken nextAll nextSorted
      rw [same] at later
      exact later
    · next differs =>
      have strict : edge.time < next.time := lt_of_le_of_ne order (fun same => differs same.symm)
      have later := ih taken.prune nextAll nextSorted
      have isActive {x : Int} (lower : edge.time ≤ x) (upper : x < next.time) (index : Nat) :=
        taken.active_iff all sorted lower upper index
      unfold Frame.emit
      split
      · next empty =>
        refine later.skip order fun x index lower upper active => ?_
        have held := taken.prune.holds index ((isActive lower upper index).mpr active)
        rw [empty] at held
        cases held
      · next top others heap =>
        obtain ⟨isOpen, best⟩ := taken.top heap
        rw [if_pos strict, singleton_append]
        refine later.cons strict fun x lower upper => ⟨(isActive lower upper _).mp isOpen, ?_⟩
        exact fun other active => best other ((isActive lower upper other).mpr active)

/-- Every point of a piece has the piece's winner, the pieces are in order, and every point of an
interval lies in a piece. -/
theorem sweepRanges_spec (ranges : List Ranged) :
    (∀ piece ∈ sweepRanges ranges, piece.start < piece.stop) ∧
      (sweepRanges ranges).Pairwise (fun a b => a.stop ≤ b.start) ∧
      (∀ piece ∈ sweepRanges ranges, ∀ x, piece.start ≤ x → x < piece.stop →
        Wins ranges x piece.winner) ∧
      ∀ x index, Active ranges x index → ∃ piece ∈ sweepRanges ranges, piece.start ≤ x ∧
      x < piece.stop := by
  unfold sweepRanges
  have all : ∀ e, e ∈ orderBy Edge.key (edges ranges) ↔ e ∈ edges ranges := fun e =>
    mem_orderBy Edge.key
  have sorted := orderBy_pairwise Edge.key (edges ranges)
  cases shape : orderBy Edge.key (edges ranges) with
  | nil =>
    refine ⟨forall_mem_nil _, List.Pairwise.nil, forall_mem_nil _, ?_⟩
    rintro x index ⟨range, stored, after, before⟩
    have real : ⟨range.start, index, true⟩ ∈ edges ranges :=
      mem_edges.mpr ⟨range, stored, lt_of_le_of_lt after before, rfl⟩
    have listed := (all _).mpr real
    rw [shape] at listed
    cases listed
  | cons edge rest =>
    rw [shape] at all sorted
    have fresh : ({} : Frame).Knows ranges [] := by
      refine ⟨fun index => ?_, List.Pairwise.nil, forall_mem_nil _, forall_mem_nil _⟩
      refine iff_of_false not_mem_nil ?_
      rintro ⟨range, -, opened, -⟩
      cases opened
    have described := sweepFrom_describes fresh all sorted
    refine ⟨described.proper, described.ordered, described.wins, fun x index active => ?_⟩
    refine described.complete x index ?_ active
    -- The first end point is no later than the start of an interval.
    obtain ⟨range, stored, after, before⟩ := active
    have real : ⟨range.start, index, true⟩ ∈ edges ranges :=
      mem_edges.mpr ⟨range, stored, lt_of_le_of_lt after before, rfl⟩
    rcases mem_cons.mp ((all _).mpr real) with same | later
    · rw [← same]
      exact after
    · exact le_trans ((@time_le_of_sorted edge [] rest sorted).2 _ later) after

end Spec

end MiniDrop.Base
