import Mathlib.Order.Interval.Set.Basic
import Mathlib.Order.MinMax
import Mathlib.Data.List.Sort
import Mathlib.Data.List.Pairwise
import Mathlib.Data.List.Induction
/-!
# Half-open spans over a linear order

Records of any type carry a start and a stop through two projections. Two linear passes over
start-ordered records are developed here: a cursor sweep that decides whether a range lies inside
the union of the spans, and a coalescing pass that joins a record to the last run when it starts
within reach of that run's stop. Nothing here refers to a particular program.
-/
namespace MiniDrop.Base

open List

variable {ρ τ : Type} [LinearOrder τ] {rows other more : List ρ} {t : τ} {start stop : ρ → τ}

/-- Two different members of a pairwise related list are related one way or the other. -/
theorem pairwise_either {α : Type} {R : α → α → Prop} {l : List α} (pairs : l.Pairwise R)
    {x y : α} (left : x ∈ l) (right : y ∈ l) (different : x ≠ y) : R x y ∨ R y x := by
  have symmetric : Std.Symm fun a b => R a b ∨ R b a := ⟨fun _ _ => Or.symm⟩
  exact (pairs.imp fun related => .inl related : l.Pairwise fun a b => R a b ∨ R b a).forall
    left right different

/-- The instants that lie in the span of at least one record. -/
def spanUnion (start stop : ρ → τ) (rows : List ρ) : Set τ :=
  {t | ∃ r ∈ rows, t ∈ Set.Ico (start r) (stop r)}

/-- Membership in a union of spans, written out. -/
theorem mem_spanUnion :
    t ∈ spanUnion start stop rows ↔ ∃ r ∈ rows, start r ≤ t ∧ t < stop r := Iff.rfl

/-- The union of spans grows with the records. -/
theorem spanUnion_mono (grows : rows ⊆ more) :
    spanUnion start stop rows ⊆ spanUnion start stop more := by
  rintro t ⟨r, mem, inside⟩
  exact ⟨r, grows mem, inside⟩

/-- The union of spans depends only on which records there are. -/
theorem spanUnion_congr
    (same : ∀ r, r ∈ rows ↔ r ∈ other) : spanUnion start stop rows = spanUnion start stop other :=
  Set.Subset.antisymm (spanUnion_mono fun _ mem => (same _).mp mem)
    (spanUnion_mono fun _ mem => (same _).mpr mem)

/-- Cursor sweep over records: skip a record that ends at or before the cursor, fail on one that
starts after it, and otherwise advance the cursor to the record's stop until the limit. -/
def sweep (start stop : ρ → τ) (limit : τ) : τ → List ρ → Bool
  | _, [] => false
  | cursor, r :: rest =>
    if stop r ≤ cursor then sweep start stop limit cursor rest
    else if cursor < start r then false
    else if limit ≤ stop r then true
    else sweep start stop limit (stop r) rest

/-- **The sweep decides coverage.** Over start-ordered records it accepts exactly when the whole
range lies inside the union of the spans. -/
theorem sweep_iff (start stop : ρ → τ) (limit : τ) (rows : List ρ)
    (ordered : rows.Pairwise fun a b => start a ≤ start b) :
    ∀ cursor, cursor < limit → (sweep start stop limit cursor rows = true ↔
        Set.Ico cursor limit ⊆ spanUnion start stop rows) := by
  induction rows with
  | nil =>
    intro cursor below
    simp only [sweep, Bool.false_eq_true, false_iff]
    intro inside
    obtain ⟨r, mem, _⟩ := inside ⟨le_refl cursor, below⟩
    exact not_mem_nil mem
  | cons r rest ih =>
    intro cursor below
    obtain ⟨first, ordered⟩ := pairwise_cons.mp ordered
    -- Dropping a record that ends at or before a point does not change coverage from there on.
    have drop : ∀ point, stop r ≤ point → (Set.Ico point limit ⊆ spanUnion start stop (r :: rest) ↔
          Set.Ico point limit ⊆ spanUnion start stop rest) := by
      intro point past
      constructor
      · intro inside t range
        obtain ⟨x, mem, lower, upper⟩ := inside range
        rcases mem_cons.mp mem with rfl | mem
        · exact absurd upper (not_lt.mpr (le_trans past range.1))
        · exact ⟨x, mem, lower, upper⟩
      · intro inside
        exact inside.trans (spanUnion_mono (subset_cons_self r rest))
    simp only [sweep]
    by_cases past : stop r ≤ cursor
    · rw [if_pos past, ih ordered cursor below, drop cursor past]
    by_cases gap : cursor < start r
    · rw [if_neg past, if_pos gap]
      simp only [Bool.false_eq_true, false_iff]
      intro inside
      obtain ⟨x, mem, lower, _⟩ := inside ⟨le_refl cursor, below⟩
      rcases mem_cons.mp mem with rfl | mem
      · exact absurd lower (not_le.mpr gap)
      · exact absurd (le_trans (first x mem) lower) (not_le.mpr gap)
    rw [if_neg past, if_neg gap]
    have head : ∀ t, cursor ≤ t → t < stop r → t ∈ spanUnion start stop (r :: rest) :=
      fun t lower upper => ⟨r, mem_cons_self, le_trans (not_lt.mp gap) lower, upper⟩
    by_cases full : limit ≤ stop r
    · rw [if_pos full]
      simp only [true_iff]
      intro t range
      exact head t range.1 (lt_of_lt_of_le range.2 full)
    rw [if_neg full, ih ordered (stop r) (not_le.mp full), ← drop (stop r) (le_refl _)]
    constructor
    · intro inside t range
      rcases lt_or_ge t (stop r) with early | late
      · exact head t range.1 early
      · exact inside ⟨late, range.2⟩
    · intro inside t range
      exact inside ⟨le_trans (le_of_lt (not_le.mp past)) range.1, range.2⟩

/-- A coalescing pass: how records of type `ρ` open and extend runs of type `σ`, and how far the
stop of a run reaches. The laws say that a run is the hull of the records joined to it. -/
structure Coalescer (ρ σ τ : Type) [LinearOrder τ] where
  /-- Start of a record. -/
  start : ρ → τ
  /-- Stop of a record. -/
  stop : ρ → τ
  /-- Start of a run. -/
  runStart : σ → τ
  /-- Stop of a run. -/
  runStop : σ → τ
  /-- The run opened by one record. -/
  fresh : ρ → σ
  /-- The run extended by a further record. -/
  join : σ → ρ → σ
  /-- The latest start that still joins a run with the given stop. -/
  reach : τ → τ
  /-- A later stop reaches at least as far. -/
  reach_mono : Monotone reach
  /-- A stop reaches at least itself. -/
  le_reach : ∀ t, t ≤ reach t
  /-- A fresh run starts with its record. -/
  fresh_start : ∀ r, runStart (fresh r) = start r
  /-- A fresh run stops with its record. -/
  fresh_stop : ∀ r, runStop (fresh r) = stop r
  /-- Joining keeps the start of the run. -/
  join_start : ∀ s r, runStart (join s r) = runStart s
  /-- Joining keeps the later of both stops. -/
  join_stop : ∀ s r, runStop (join s r) = max (runStop s) (stop r)

namespace Coalescer

variable {σ : Type} (c : Coalescer ρ σ τ)

/-- One record against the runs so far, newest first. -/
def step (runs : List σ) (r : ρ) : List σ :=
  match runs with
  | [] => [c.fresh r]
  | last :: earlier =>
    if c.start r ≤ c.reach (c.runStop last) then c.join last r :: earlier
    else c.fresh r :: last :: earlier

/-- The runs of the records in order, newest first. -/
def runs (rows : List ρ) : List σ := rows.foldl c.step []

/-- The instants a coalescing pass covers, read off the records: an instant inside a record, or in
a gap that the record before it reaches across. -/
def Bridged (rows : List ρ) (t : τ) : Prop :=
  ∃ u ∈ rows, c.start u ≤ t ∧
    (t < c.stop u ∨ ∃ v ∈ rows, t < c.start v ∧ c.start v ≤ c.reach (c.stop u))

/-- An instant of a record is bridged. -/
theorem bridged_of_mem {u : ρ} (mem : u ∈ rows)
    (lower : c.start u ≤ t) (upper : t < c.stop u) : c.Bridged rows t :=
  ⟨u, mem, lower, .inl upper⟩

/-- More records bridge more instants. -/
theorem bridged_mono (grows : rows ⊆ more) (bridged : c.Bridged rows t) : c.Bridged more t := by
  obtain ⟨u, mem, lower, inside | ⟨v, other, above, near⟩⟩ := bridged
  · exact ⟨u, grows mem, lower, .inl inside⟩
  · exact ⟨u, grows mem, lower, .inr ⟨v, grows other, above, near⟩⟩

/-- What the runs say about the records folded so far. The last run's stop is the latest stop of
all records, which is what lets one comparison with it stand for all of them. -/
structure Tracks (rows : List ρ) (runs : List σ) : Prop where
  /-- No record is without a run. -/
  nonempty : runs = [] → rows = []
  /-- The newest run stops last. -/
  latest : ∀ last earlier, runs = last :: earlier → ∀ u ∈ rows, c.stop u ≤ c.runStop last
  /-- The newest run's stop is the stop of a record. -/
  attained : ∀ last earlier, runs = last :: earlier → ∃ u ∈ rows, c.stop u = c.runStop last
  /-- No run stops before it starts. -/
  proper : ∀ run ∈ runs, c.runStart run ≤ c.runStop run
  /-- A run starts out of reach of every earlier one. -/
  separated : runs.Pairwise fun later earlier => c.reach (c.runStop earlier) < c.runStart later
  /-- The runs cover exactly the bridged instants. -/
  covers : ∀ t, t ∈ spanUnion c.runStart c.runStop runs ↔ c.Bridged rows t

/-- The empty pass tracks no records. -/
theorem tracks_nil : c.Tracks [] [] where
  nonempty := fun _ => rfl
  latest := fun _ _ h => by cases h
  attained := fun _ _ h => by cases h
  proper := forall_mem_nil _
  separated := List.Pairwise.nil
  covers := fun t => by simp [mem_spanUnion, Bridged]

section Step

variable {c}
variable {rows : List ρ} {last : σ} {earlier : List σ} {r : ρ}
  (ordered : ∀ u ∈ rows, c.start u ≤ c.start r)
include ordered

/-- What a last record adds: its own instants, and those from a record that reaches it. -/
theorem bridged_append (bridged : c.Bridged (rows ++ [r]) t) :
    c.Bridged rows t ∨ (c.start r ≤ t ∧ t < c.stop r) ∨
      ∃ u ∈ rows, c.start u ≤ t ∧ t < c.start r ∧ c.start r ≤ c.reach (c.stop u) := by
  obtain ⟨u, mem, lower, rest⟩ := bridged
  rcases mem_append.mp mem with old | new
  · rcases rest with inside | ⟨v, other, above, close⟩
    · exact .inl (c.bridged_of_mem old lower inside)
    rcases mem_append.mp other with other | other
    · exact .inl ⟨u, old, lower, .inr ⟨v, other, above, close⟩⟩
    · obtain rfl := mem_singleton.mp other
      exact .inr (.inr ⟨u, old, lower, above, close⟩)
  · obtain rfl := mem_singleton.mp new
    rcases rest with inside | ⟨v, other, above, _⟩
    · exact .inr (.inl ⟨lower, inside⟩)
    · have bounded : c.start v ≤ c.start u := by
        rcases mem_append.mp other with other | other
        · exact ordered v other
        · rw [mem_singleton.mp other]
      exact absurd (lt_of_lt_of_le above (le_trans bounded lower)) (lt_irrefl t)

/-- A record within reach of the newest run adds the instants from that run's stop to its own. -/
theorem bridged_near (tracks : c.Tracks rows (last :: earlier))
    (proper : ∀ u ∈ rows, c.start u ≤ c.stop u) (extent : c.start r ≤ c.stop r)
    (near : c.start r ≤ c.reach (c.runStop last)) (t : τ) :
    c.Bridged (rows ++ [r]) t ↔ c.Bridged rows t ∨ (c.runStop last ≤ t ∧ t < c.stop r) := by
  obtain ⟨top, topMember, topStop⟩ := tracks.attained last earlier rfl
  constructor
  · intro bridged
    rcases le_or_gt (c.runStop last) t with past | early
    · refine (bridged_append ordered bridged).imp_right fun added => ⟨past, ?_⟩
      rcases added with ⟨-, inside⟩ | ⟨u, -, -, above, -⟩
      · exact inside
      · exact lt_of_lt_of_le above extent
    · left
      rcases bridged_append ordered bridged with old | ⟨lower, -⟩ | ⟨u, old, lower, above, close⟩
      · exact old
      · exact c.bridged_of_mem topMember (le_trans (ordered top topMember) lower) (topStop ▸ early)
      -- The record with the latest stop either holds the instant or closes the gap from `u`.
      · rcases le_or_gt (c.start top) t with holds | ahead
        · exact c.bridged_of_mem topMember holds (topStop ▸ early)
        · exact ⟨u, old, lower, .inr ⟨top, topMember, ahead,
            le_trans (ordered top topMember) close⟩⟩
  · rintro (bridged | ⟨past, upper⟩)
    · exact c.bridged_mono (subset_append_left rows [r]) bridged
    have newest : r ∈ rows ++ [r] := mem_append_right rows (mem_singleton_self r)
    rcases le_or_gt (c.start r) t with inside | before
    · exact c.bridged_of_mem newest inside upper
    · have lower : c.start top ≤ t :=
        le_trans (proper top topMember) (topStop ▸ past)
      exact ⟨top, mem_append_left [r] topMember, lower, .inr ⟨r, newest, before, topStop ▸ near⟩⟩

/-- A record out of reach of all others adds its own instants only. -/
theorem bridged_far (far : ∀ u ∈ rows, c.reach (c.stop u) < c.start r) (t : τ) :
    c.Bridged (rows ++ [r]) t ↔ c.Bridged rows t ∨ (c.start r ≤ t ∧ t < c.stop r) := by
  constructor
  · intro bridged
    refine (bridged_append ordered bridged).imp_right fun added => added.resolve_right ?_
    rintro ⟨u, old, -, -, close⟩
    exact absurd (lt_of_lt_of_le (far u old) close) (lt_irrefl _)
  · rintro (bridged | ⟨lower, upper⟩)
    · exact c.bridged_mono (subset_append_left rows [r]) bridged
    · exact c.bridged_of_mem (mem_append_right rows (mem_singleton_self r)) lower upper

/-- A record out of reach of all others opens a run. -/
theorem Tracks.fresh {runs : List σ} (tracks : c.Tracks rows runs) (extent : c.start r ≤ c.stop r)
    (far : ∀ u ∈ rows, c.reach (c.stop u) < c.start r)
    (apart : ∀ run ∈ runs, c.reach (c.runStop run) < c.start r) :
    c.Tracks (rows ++ [r]) (c.fresh r :: runs) := by
  refine ⟨fun h => by simp at h, ?_, ?_, ?_, ?_, fun t => ?_⟩
  · rintro newest others ⟨⟩ u mem
    rw [c.fresh_stop]
    rcases mem_append.mp mem with mem | mem
    · exact le_of_lt (lt_of_le_of_lt (c.le_reach _) (lt_of_lt_of_le (far u mem) extent))
    · rw [mem_singleton.mp mem]
  · rintro newest others ⟨⟩
    exact ⟨r, by simp, (c.fresh_stop r).symm⟩
  · refine forall_mem_cons.mpr ⟨?_, tracks.proper⟩
    rw [c.fresh_start, c.fresh_stop]
    exact extent
  · refine pairwise_cons.mpr ⟨fun run mem => ?_, tracks.separated⟩
    rw [c.fresh_start]
    exact apart run mem
  · rw [bridged_far ordered far t, ← tracks.covers t]
    simp only [mem_spanUnion, exists_mem_cons_iff, c.fresh_start, c.fresh_stop]
    exact or_comm

/-- A record within reach of the newest run extends it. -/
theorem Tracks.join (tracks : c.Tracks rows (last :: earlier))
    (proper : ∀ u ∈ rows, c.start u ≤ c.stop u) (extent : c.start r ≤ c.stop r)
    (near : c.start r ≤ c.reach (c.runStop last)) :
    c.Tracks (rows ++ [r]) (c.join last r :: earlier) := by
  obtain ⟨apart, separated⟩ := pairwise_cons.mp tracks.separated
  obtain ⟨lastProper, earlierProper⟩ := forall_mem_cons.mp tracks.proper
  refine ⟨fun h => by simp at h, ?_, ?_, ?_, ?_, fun t => ?_⟩
  · rintro newest others ⟨⟩ u mem
    rw [c.join_stop]
    rcases mem_append.mp mem with mem | mem
    · exact le_trans (tracks.latest last earlier rfl u mem) (le_max_left _ _)
    · rw [mem_singleton.mp mem]
      exact le_max_right _ _
  · rintro newest others ⟨⟩
    rw [c.join_stop]
    obtain ⟨top, mem, same⟩ := tracks.attained last earlier rfl
    rcases le_total (c.runStop last) (c.stop r) with later | sooner
    · exact ⟨r, by simp, (max_eq_right later).symm⟩
    · exact ⟨top, by simp [mem], by rw [max_eq_left sooner, same]⟩
  · refine forall_mem_cons.mpr ⟨?_, earlierProper⟩
    rw [c.join_start, c.join_stop]
    exact le_trans lastProper (le_max_left _ _)
  · refine pairwise_cons.mpr ⟨fun run mem => ?_, separated⟩
    rw [c.join_start]
    exact apart run mem
  · rw [bridged_near ordered tracks proper extent near t, ← tracks.covers t]
    simp only [mem_spanUnion, exists_mem_cons_iff, c.join_start, c.join_stop, lt_max_iff]
    constructor
    · rintro (⟨lower, upper | upper⟩ | rest)
      · exact .inl (.inl ⟨lower, upper⟩)
      · rcases lt_or_ge t (c.runStop last) with early | past
        · exact .inl (.inl ⟨lower, early⟩)
        · exact .inr ⟨past, upper⟩
      · exact .inl (.inr rest)
    · rintro ((⟨lower, upper⟩ | rest) | ⟨past, upper⟩)
      · exact .inl ⟨lower, .inl upper⟩
      · exact .inr rest
      · exact .inl ⟨le_trans lastProper past, .inr upper⟩

/-- One step of the pass keeps the runs in track with the records. -/
theorem tracks_step {runs : List σ} (tracks : c.Tracks rows runs)
    (proper : ∀ u ∈ rows, c.start u ≤ c.stop u) (extent : c.start r ≤ c.stop r) :
    c.Tracks (rows ++ [r]) (c.step runs r) := by
  cases runs with
  | nil =>
    obtain rfl := tracks.nonempty rfl
    exact tracks.fresh ordered extent (forall_mem_nil _) (forall_mem_nil _)
  | cons last earlier =>
    rw [step]
    split
    · next near => exact tracks.join ordered proper extent near
    · next near =>
      have far := not_le.mp near
      have lastProper := tracks.proper last mem_cons_self
      refine tracks.fresh ordered extent (fun u mem => ?_)
        (forall_mem_cons.mpr ⟨far, fun run mem => ?_⟩)
      · exact lt_of_le_of_lt (c.reach_mono (tracks.latest last earlier rfl u mem)) far
      · have before := (pairwise_cons.mp tracks.separated).1 run mem
        exact lt_trans (lt_of_lt_of_le before lastProper) (lt_of_le_of_lt (c.le_reach _) far)

end Step

section Runs

variable {rows : List ρ}

/-- A property of fresh runs that joining keeps holds of every run of the pass. -/
theorem runs_forall {P : σ → Prop} (fresh : ∀ r ∈ rows, P (c.fresh r))
    (join : ∀ s, P s → ∀ r ∈ rows, P (c.join s r)) : ∀ run ∈ c.runs rows, P run := by
  induction rows using reverseRecOn with
  | nil => intro run mem; exact absurd mem not_mem_nil
  | append_singleton rows r ih =>
    have earlier := ih (fun u mem => fresh u (mem_append_left [r] mem))
      (fun s holds u mem => join s holds u (mem_append_left [r] mem))
    have newest : r ∈ rows ++ [r] := mem_append_right rows (mem_singleton_self r)
    intro run mem
    rw [runs, foldl_append] at mem
    change run ∈ c.step (c.runs rows) r at mem
    cases shape : c.runs rows with
    | nil =>
      rw [shape] at mem
      obtain rfl := mem_singleton.mp mem
      exact fresh r newest
    | cons last =>
      rw [shape] at mem earlier
      by_cases near : c.start r ≤ c.reach (c.runStop last)
      · rw [step, if_pos near] at mem
        rcases mem_cons.mp mem with rfl | mem
        · exact join last (earlier last mem_cons_self) r newest
        · exact earlier run (mem_cons_of_mem last mem)
      · rw [step, if_neg near] at mem
        rcases mem_cons.mp mem with rfl | mem
        · exact fresh r newest
        · exact earlier run mem

section

variable (proper : ∀ u ∈ rows, c.start u ≤ c.stop u)
  (ordered : rows.Pairwise fun a b => c.start a ≤ c.start b)
include proper ordered

/-- The whole pass keeps its runs in track with start-ordered, proper records. -/
theorem tracks_runs : c.Tracks rows (c.runs rows) := by
  induction rows using reverseRecOn with
  | nil => exact c.tracks_nil
  | append_singleton rows r ih =>
    obtain ⟨ordered, _, below⟩ := pairwise_append.mp ordered
    have earlier : ∀ u ∈ rows, c.start u ≤ c.stop u :=
      fun u mem => proper u (mem_append_left [r] mem)
    have tracks := ih earlier ordered
    rw [runs, foldl_append]
    exact tracks_step (fun u mem => below u mem r (mem_singleton_self r)) tracks earlier
      (proper r (by simp))

/-- The coalesced runs cover exactly the bridged instants of their records. -/
theorem mem_runs_iff (t : τ) : t ∈ spanUnion c.runStart c.runStop (c.runs rows) ↔
    c.Bridged rows t :=
  (c.tracks_runs proper ordered).covers t

/-- A bridged range lies inside one run: the stop of a run is itself never covered. -/
theorem inside_one_run {a b : τ} (extent : a < b)
    (bridged : ∀ t, a ≤ t → t < b → c.Bridged rows t) :
    ∃ run ∈ c.runs rows, c.runStart run ≤ a ∧ b ≤ c.runStop run := by
  have tracks := c.tracks_runs proper ordered
  obtain ⟨run, mem, lower, upper⟩ := (tracks.covers a).mpr (bridged a (le_refl a) extent)
  refine ⟨run, mem, lower, ?_⟩
  by_contra short
  have stopBridged := bridged (c.runStop run) (le_of_lt upper) (not_le.mp short)
  obtain ⟨other, otherMember, below, above⟩ := (tracks.covers _).mpr stopBridged
  have different : run ≠ other := by
    rintro rfl
    exact absurd above (lt_irrefl _)
  rcases pairwise_either tracks.separated mem otherMember different with after | before
  · have chain : c.runStop other < c.runStop run :=
      lt_of_le_of_lt (c.le_reach _) (lt_of_lt_of_le after (le_trans lower (le_of_lt upper)))
    exact absurd (lt_trans above chain) (lt_irrefl _)
  · have chain := lt_of_le_of_lt (c.le_reach (c.runStop run)) before
    exact absurd (lt_of_lt_of_le chain below) (lt_irrefl _)

end

/-- **Keeping coverage.** Other records bridge everything these bridge exactly when they bridge
every instant inside one of these; the gaps between records need no separate condition. -/
theorem bridged_subset_iff (positive : ∀ u ∈ rows, c.start u < c.stop u)
    (proper : ∀ u ∈ other, c.start u ≤ c.stop u)
    (ordered : other.Pairwise fun a b => c.start a ≤ c.start b) :
    (∀ t, c.Bridged rows t → c.Bridged other t) ↔
      ∀ u ∈ rows, ∀ t, c.start u ≤ t → t < c.stop u → c.Bridged other t := by
  constructor
  · intro keeps u mem t lower upper
    exact keeps t (c.bridged_of_mem mem lower upper)
  intro inside
  have tracks := c.tracks_runs proper ordered
  rintro t ⟨u, mem, lower, upper | ⟨v, next, above, near⟩⟩
  · exact inside u mem t lower upper
  -- The gap from `u` to `v`: both records lie inside a run, and no run starts in reach of another.
  obtain ⟨first, firstMember, firstStart, firstStop⟩ :=
    c.inside_one_run proper ordered (positive u mem) (inside u mem)
  obtain ⟨second, secondMember, secondStart, secondStop⟩ :=
    c.inside_one_run proper ordered (positive v next) (inside v next)
  have covered : t ∈ spanUnion c.runStart c.runStop (c.runs other) := by
    by_cases early : t < c.runStop first
    · exact ⟨first, firstMember, le_trans firstStart lower, early⟩
    by_cases late : c.runStart second ≤ t
    · exact ⟨second, secondMember, late,
        lt_trans above (lt_of_lt_of_le (positive v next) secondStop)⟩
    have order : c.runStop first < c.runStart second :=
      lt_of_le_of_lt (not_lt.mp early) (not_le.mp late)
    have different : first ≠ second := by
      rintro rfl
      exact absurd (lt_of_lt_of_le order (tracks.proper first firstMember)) (lt_irrefl _)
    rcases pairwise_either tracks.separated firstMember secondMember different with after | before
    · have extent := lt_of_lt_of_le (lt_of_le_of_lt (tracks.proper first firstMember) order)
        (tracks.proper second secondMember)
      exact absurd (lt_trans extent (lt_of_le_of_lt (c.le_reach _) after)) (lt_irrefl _)
    · have close : c.runStart second ≤ c.reach (c.runStop first) :=
        le_trans secondStart (le_trans near (c.reach_mono firstStop))
      exact absurd (lt_of_lt_of_le before close) (lt_irrefl _)
  exact (tracks.covers t).mp covered

end Runs

end Coalescer

end MiniDrop.Base
