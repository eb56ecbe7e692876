import Mathlib.Data.List.Nodup
import MiniDrop.Agent.PythonSidecar
import MiniDrop.Base.Runs
/-!
# Captures that replace samples of perf

A capture gives its samples to the first segment that it replaces samples of. It keeps them until
then only as long as no other capture replaces samples of a segment that both overlap: the loop
takes the samples of all of them away. A capture that has lost its samples this way goes on to
remove those of perf, and nothing takes their place.
-/
namespace MiniDrop.Agent

open Base

variable {sample : AggregatedSample}

/-! ## Captures and segments -/

namespace PythonFallbackResult

variable {result : PythonFallbackResult} {perf : PerfWindow}

/-- The interval of the capture overlaps that of the segment. -/
def Overlaps (result : PythonFallbackResult) (perf : PerfWindow) : Prop :=
  result.captureStartMs < perf.endMs ∧ perf.startMs < result.captureEndMs
  deriving Decidable

/-- The segment overlaps the capture and has samples of its process. -/
def Applies (result : PythonFallbackResult) (perf : PerfWindow) : Prop :=
  result.Overlaps perf ∧ ∃ sample ∈ perf.samples, result.isOf sample = true
  deriving Decidable

/-- A capture that is ready, of a process that is known, with its interval. -/
@[mk_iff]
structure Known (result : PythonFallbackResult) : Prop where
  ready : result.ready = true
  pid : 0 < result.pid
  start : 0 < result.startMs
  exe : result.exe ≠ ""
  captureStart : 0 < result.captureStartMs
  captureEnd : 0 < result.captureEndMs

theorem Known.cleared (known : result.Known) : result.cleared.Known :=
  ⟨known.ready, known.pid, known.start, known.exe, known.captureStart, known.captureEnd⟩

/-- Such a capture replaces samples of a segment exactly if the segment applies to it. -/
theorem replaces_iff (known : result.Known) :
    result.replaces perf.samples perf.startMs perf.endMs = true ↔ result.Applies perf := by
  have window := perf.positive
  have proper := perf.proper
  have capture : ¬(result.captureStartMs ≤ 0 ∨ result.captureEndMs ≤ 0) := by
    have first := known.captureStart
    have last := known.captureEnd
    omega
  have segment : ¬(perf.startMs ≤ 0 ∨ perf.endMs ≤ 0) := by omega
  unfold replaces overlapsWindow Applies Overlaps
  rw [if_neg capture, if_neg segment]
  simp [known.ready, known.pid, known.start, known.exe, decide_true]

/-- A sample that is removed is one of the process of the capture. -/
theorem isOf_of_removes (removes : result.removes sample = true) : result.isOf sample = true := by
  unfold PythonFallbackResult.removes at removes
  unfold isOf
  simp only [Bool.and_eq_true, decide_eq_true_eq] at removes ⊢
  obtain ⟨⟨⟨⟨⟨⟨pid, -⟩, start⟩, starts⟩, -⟩, exe⟩, exes⟩ := removes
  exact ⟨⟨⟨⟨pid.symm, start⟩, starts.symm⟩, exe⟩, exes.symm⟩

theorem ne_cleared (samples : result.samples ≠ []) : result ≠ result.cleared := by
  intro same
  exact samples (congrArg PythonFallbackResult.samples same)

end PythonFallbackResult

open PythonFallbackResult List

variable {pending : List Sidecar} {perf : PerfWindow}

/-- The captures that replace samples are those that the segment applies to. -/
theorem mem_replacing (known : ∀ p ∈ pending, p.result.Known) {p : Sidecar} :
    p ∈ (strictWindow pending perf).replacing ↔ p ∈ pending ∧ p.result.Applies perf := by
  unfold strictWindow
  rw [mem_filter]
  refine and_congr_right fun mem => ?_
  exact replaces_iff (known p mem)

theorem filter_replaces (pending : List Sidecar) (perf : PerfWindow) :
    (pending.map (·.result)).filter (·.replaces perf.samples perf.startMs perf.endMs) =
      (strictWindow pending perf).replacing.map (·.result) := filter_map

/-- Samples are replaced exactly if the segment applies to a capture that waits. -/
theorem merge_applied (known : ∀ p ∈ pending, p.result.Known) :
    (mergePythonSidecarSamples perf.samples (pending.map (·.result)) perf.startMs perf.endMs).2 =
      true ↔ ∃ p ∈ pending, p.result.Applies perf := by
  unfold mergePythonSidecarSamples
  simp only [filter_replaces, map_eq_nil_iff, ← mem_replacing known]
  split
  · next none => simp [none]
  · next some => exact iff_of_true rfl (exists_mem_of_ne_nil _ some)

/-- What became of a capture after a segment. -/
def afterSegment (pending : List Sidecar) (perf : PerfWindow) (p : Sidecar) : Sidecar :=
  if (∃ q ∈ pending, q.result.Applies perf) ∧ p.result.Overlaps perf then
    { p with result := p.result.cleared }
  else p

theorem afterSegment_keeps (pending : List Sidecar) (perf : PerfWindow) (p : Sidecar) :
    (afterSegment pending perf p).tag = p.tag ∧
      ((afterSegment pending perf p).result = p.result ∨
        (afterSegment pending perf p).result = p.result.cleared) := by
  unfold afterSegment
  split
  · exact ⟨rfl, .inr rfl⟩
  · exact ⟨rfl, .inl rfl⟩

theorem afterSegment_end (pending : List Sidecar) (perf : PerfWindow) (p : Sidecar) :
    (afterSegment pending perf p).result.captureEndMs = p.result.captureEndMs := by
  rcases (afterSegment_keeps pending perf p).2 with same | cleared
  · rw [same]
  · rw [cleared]
    rfl

section

variable (known : ∀ p ∈ pending, p.result.Known)
include known

theorem keepSidecars_eq :
    keepSidecars pending perf = (pending.map (afterSegment pending perf)).filter fun p =>
      decide (perf.startMs < p.result.captureEndMs) := by
  have used :
      (if (mergePythonSidecarSamples perf.samples (pending.map (·.result)) perf.startMs
          perf.endMs).2 then
        pending.map fun p =>
          if p.result.ready && p.result.captureStartMs < perf.endMs &&
              p.result.captureEndMs > perf.startMs then
            ({ p with result := p.result.cleared } : Sidecar) else p
      else pending) = pending.map (afterSegment pending perf) := by
    by_cases applied : ∃ q ∈ pending, q.result.Applies perf
    · rw [if_pos ((merge_applied known).mpr applied)]
      apply map_congr_left
      intro p mem
      simp [afterSegment, applied, (known p mem).ready, Overlaps]
    · rw [if_neg fun yes => applied ((merge_applied known).mp yes)]
      unfold afterSegment
      simp [applied, map_id']
  unfold keepSidecars
  dsimp only
  rw [used]
  apply filter_congr
  intro left listed
  obtain ⟨p, mem, rfl⟩ := mem_map.mp listed
  have ready : (afterSegment pending perf p).result.ready = true := by
    rcases (afterSegment_keeps pending perf p).2 with same | cleared
    · rw [same]
      exact (known p mem).ready
    · rw [cleared]
      exact (known p mem).ready
  have positive := (known p mem).captureEnd
  rw [ready, afterSegment_end]
  simp [positive, decide_true, ← decide_not]

theorem mem_keepSidecars {left : Sidecar} : left ∈ keepSidecars pending perf ↔
      ∃ p ∈ pending, left = afterSegment pending perf p ∧ perf.startMs < p.result.captureEndMs := by
  simp only [keepSidecars_eq known, filter_map, mem_map, mem_filter, Function.comp_apply,
    afterSegment_end, decide_eq_true_eq, and_assoc]
  exact exists_congr fun p => and_congr_right fun _ => and_comm.trans (and_congr_left' eq_comm)

theorem keepSidecars_tags :
    List.Sublist ((keepSidecars pending perf).map (·.tag)) (pending.map (·.tag)) := by
  have same : (pending.map (afterSegment pending perf)).map (·.tag) = pending.map (·.tag) := by
    rw [map_map]
    exact map_congr_left fun p _ => (afterSegment_keeps pending perf p).1
  rw [keepSidecars_eq known, ← same]
  exact filter_sublist.map _

end

/-- **The samples of a window are those of perf that no capture removes, and those of the captures
that replace samples.** -/
theorem strictWindow_samples (pending : List Sidecar) (perf : PerfWindow) :
    (strictWindow pending perf).samples =
      perf.samples.filter (fun sample => !(strictWindow pending perf).replacing.any
        (·.result.removes sample)) ++
        (strictWindow pending perf).replacing.flatMap (·.result.aggregated) := by
  show (mergePythonSidecarSamples perf.samples (pending.map (·.result)) perf.startMs perf.endMs).1 =
    _
  unfold mergePythonSidecarSamples
  rw [filter_replaces]
  generalize (strictWindow pending perf).replacing = replacing
  cases replacing with
  | nil =>
    simp
  | cons =>
    rw [if_neg (by simp)]
    simp only [any_map, flatMap_map, Function.comp_def]

namespace SidecarWorld

variable {w next : SidecarWorld} {action : SidecarAction} {tag : Nat}
  {result : PythonFallbackResult}

/-- How often the samples of a capture were appended to a window. -/
def timesAppended (w : SidecarWorld) (p : Sidecar) : Nat :=
  (w.windows.flatMap (·.replacing)).count p

/-- Some segment that was processed applies to the capture. -/
def Reached (w : SidecarWorld) (result : PythonFallbackResult) : Prop :=
  ∃ window ∈ w.windows, result.Applies window.perf
  deriving Decidable

/-- What is assumed: the captures are ready and known and have samples, and the segments come in the
order of their times. -/
def Proper (w : SidecarWorld) : SidecarAction → Prop
  | .arrive results => ∀ result ∈ results, result.Known ∧ result.samples ≠ []
  | .segment perf => ∀ window ∈ w.windows, window.perf.startMs ≤ perf.startMs
  | .drain perfs => (∀ perf ∈ perfs, ∀ window ∈ w.windows, window.perf.startMs ≤ perf.startMs) ∧
      perfs.Pairwise fun first second => first.startMs ≤ second.startMs

/-- What the loop relies on: a capture comes before the segments that apply to it; where one capture
replaces samples of a segment, so do all that overlap the segment and still have their samples; and
a capture that applies to a segment of the last drain applies to the first one. -/
def Covered (w : SidecarWorld) : SidecarAction → Prop
  | .arrive results => ∀ result ∈ results, ¬w.Reached result
  | .segment perf => (∃ p ∈ w.pending, p.result.Applies perf) →
      ∀ p ∈ w.pending, p.result.samples ≠ [] → p.result.Overlaps perf → p.result.Applies perf
  | .drain [] => True
  | .drain (first :: rest) => ∀ p ∈ w.pending, p.result.samples ≠ [] →
      (∃ perf ∈ rest, p.result.Applies perf) → p.result.Applies first

/-! ## What becomes of a capture -/

/-- It waits with its samples; it has given them to a segment; or the segments have passed it. -/
inductive Fate (w : SidecarWorld) (tag : Nat) (result : PythonFallbackResult) : Prop
  | waiting (kept : (⟨tag, result⟩ : Sidecar) ∈ w.pending)
      (whole : (⟨tag, result.cleared⟩ : Sidecar) ∉ w.pending) (missed : ¬w.Reached result)
      (none : w.timesAppended ⟨tag, result⟩ = 0)
  | used (left : (⟨tag, result⟩ : Sidecar) ∉ w.pending) (reached : w.Reached result)
      (once : w.timesAppended ⟨tag, result⟩ = 1)
  | gone (left : ∀ p ∈ w.pending, p.tag ≠ tag) (missed : ¬w.Reached result)
      (none : w.timesAppended ⟨tag, result⟩ = 0)
      (finished : w.stopped = true ∨
        ∃ window ∈ w.windows, result.captureEndMs ≤ window.perf.startMs)

/-- The captures that wait are known, and are those that have arrived, with or without their
samples. -/
structure Kept (w : SidecarWorld) : Prop where
  tags : (w.pending.map (·.tag)).Nodup
  arrivals : ∀ result ∈ w.arrived, result.Known ∧ result.samples ≠ []
  pending : ∀ p ∈ w.pending, ∃ result, w.arrived[p.tag]? = some result ∧
    (p.result = result ∨ p.result = result.cleared)

/-- Every capture has its fate. -/
def Fates (w : SidecarWorld) : Prop :=
  ∀ tag result, w.arrived[tag]? = some result → Fate w tag result

theorem Kept.known (kept : w.Kept) : ∀ p ∈ w.pending, p.result.Known := by
  intro p mem
  obtain ⟨result, arrived, same | cleared⟩ := kept.pending p mem
  · rw [same]
    exact (kept.arrivals result (mem_of_getElem? arrived)).1
  · rw [cleared]
    exact (kept.arrivals result (mem_of_getElem? arrived)).1.cleared

theorem Kept.count_replacing (kept : w.Kept) (perf : PerfWindow) (p : Sidecar) :
    (strictWindow w.pending perf).replacing.count p =
      if p ∈ w.pending ∧ p.result.Applies perf then 1 else 0 := by
  have distinct : (strictWindow w.pending perf).replacing.Nodup :=
    (List.Nodup.of_map _ kept.tags).filter _
  rw [distinct.count]
  exact if_congr (mem_replacing kept.known) rfl rfl

/-- The state after a segment. -/
def segmented (w : SidecarWorld) (perf : PerfWindow) : SidecarWorld :=
  { w with
    pending := keepSidecars w.pending perf
    windows := w.windows ++ [strictWindow w.pending perf] }

/-- The windows after segments of which only the first one finds captures that wait. -/
def shown (w : SidecarWorld) (first : PerfWindow) (rest : List PerfWindow) : List StrictWindow :=
  w.windows ++ strictWindow w.pending first :: rest.map (strictWindow [])

variable {first : PerfWindow} {rest : List PerfWindow}

theorem forall_mem_shown (rest : List PerfWindow) {holds : StrictWindow → Prop}
    (old : ∀ window ∈ w.windows, holds window) (new : holds (strictWindow w.pending first))
    (later : ∀ perf, holds (strictWindow [] perf)) : ∀ window ∈ w.shown first rest, holds window :=
  forall_mem_append.mpr ⟨old, forall_mem_cons.mpr
    ⟨new, forall_mem_map.mpr fun perf _ => later perf⟩⟩

theorem reached_shown (windows : next.windows = w.shown first rest)
    (result : PythonFallbackResult) :
    next.Reached result ↔ w.Reached result ∨ result.Applies first ∨
    ∃ perf ∈ rest, result.Applies perf := by
  unfold Reached shown at *
  rw [windows]
  simp only [mem_append, mem_cons, mem_map, or_and_right, exists_or, exists_eq_left,
    exists_exists_and_eq_and]
  rfl

theorem Kept.timesAppended_shown (kept : w.Kept) (windows : next.windows = w.shown first rest)
    (p : Sidecar) :
    next.timesAppended p =
      w.timesAppended p + if p ∈ w.pending ∧ p.result.Applies first then 1 else 0 := by
  have empty : (rest.map (strictWindow [])).flatMap (·.replacing) = [] := by
    rw [flatMap_map]
    exact flatMap_eq_nil_iff.mpr fun _ _ => rfl
  unfold timesAppended shown at *
  rw [windows, flatMap_append, flatMap_cons, empty, append_nil, count_append, kept.count_replacing]

variable {p : Sidecar} {results : List PythonFallbackResult} {windows : List StrictWindow}

theorem Kept.segment (kept : w.Kept) (perf : PerfWindow) : (w.segmented perf).Kept := by
  refine ⟨kept.tags.sublist (keepSidecars_tags kept.known), kept.arrivals, fun p mem => ?_⟩
  obtain ⟨q, listed, rfl, -⟩ := (mem_keepSidecars kept.known).mp mem
  obtain ⟨result, arrived, which⟩ := kept.pending q listed
  obtain ⟨tag, same | cleared⟩ := afterSegment_keeps w.pending perf q
  · rw [tag, same]
    exact ⟨result, arrived, which⟩
  · rw [tag, cleared]
    refine ⟨result, arrived, .inr ?_⟩
    rcases which with whole | empty
    · rw [whole]
    · rw [empty]
      rfl

/-- **Segments move every capture to its next fate**: one segment of the loop, and those of the last
drain. -/
theorem Fates.pass (fates : w.Fates) (kept : w.Kept) (running : w.stopped = false)
    (arrivals : next.arrived = w.arrived) (windows : next.windows = w.shown first rest)
    (order : ∀ perf ∈ first :: rest, ∀ window ∈ w.windows, window.perf.startMs ≤ perf.startMs)
    (head : ∀ p ∈ w.pending, p.result.samples ≠ [] → (∃ perf ∈ rest, p.result.Applies perf) →
      p.result.Applies first)
    (pending : (next.pending = [] ∧ next.stopped = true) ∨
      (next.pending = keepSidecars w.pending first ∧ w.Covered (.segment first))) : next.Fates := by
  intro tag result arrived
  rw [arrivals] at arrived
  have solid := (kept.arrivals result (mem_of_getElem? arrived)).2
  have before : ∀ p ∈ next.pending, ∃ q ∈ w.pending, p = afterSegment w.pending first q := by
    intro p mem
    rcases pending with ⟨empty, -⟩ | ⟨same, -⟩
    · rw [empty] at mem
      cases mem
    · rw [same] at mem
      obtain ⟨q, listed, equal, -⟩ := (mem_keepSidecars kept.known).mp mem
      exact ⟨q, listed, equal⟩
  -- What waits with its samples has kept them.
  have whole (mem : (⟨tag, result⟩ : Sidecar) ∈ next.pending) :
      (⟨tag, result⟩ : Sidecar) ∈ w.pending ∧
      ¬((∃ q ∈ w.pending, q.result.Applies first) ∧ result.Overlaps first) := by
    obtain ⟨q, listed, same⟩ := before _ mem
    unfold afterSegment at same
    split at same
    · exact absurd (congrArg (·.result.samples) same) solid
    · next keeps =>
      rw [← same] at listed keeps
      exact ⟨listed, keeps⟩
  have missedAll (missed : ¬w.Reached result) (here : ¬result.Applies first)
      (later : ¬∃ perf ∈ rest, result.Applies perf) : ¬next.Reached result := by
    rw [reached_shown windows]
    exact not_or.mpr ⟨missed, not_or.mpr ⟨here, later⟩⟩
  cases fates tag result arrived with
  | used left reached once =>
    refine .used (fun mem => left (whole mem).1)
      ((reached_shown windows result).mpr (.inl reached)) ?_
    rw [kept.timesAppended_shown windows, once, if_neg fun both => left both.1]
  | gone left missed none finished =>
    obtain ⟨window, listed, ended⟩ : ∃ window ∈ w.windows,
        result.captureEndMs ≤ window.perf.startMs := by
      rcases finished with stopped | passed
      · rw [running] at stopped
        cases stopped
      · exact passed
    have passed : ∀ perf ∈ first :: rest, ¬result.Applies perf := by
      intro perf mem applies
      have earlier := order perf mem window listed
      have later := applies.1.2
      omega
    obtain ⟨here, later⟩ := forall_mem_cons.mp passed
    refine .gone (fun p mem => ?_) (missedAll missed here fun ⟨perf, mem, applies⟩ =>
      later perf mem applies) ?_ (.inr ⟨window, windows ▸ mem_append_left _ listed, ended⟩)
    · obtain ⟨q, there, rfl⟩ := before p mem
      rw [(afterSegment_keeps w.pending first q).1]
      exact left q there
    · rw [kept.timesAppended_shown windows, none, if_neg fun both => left _ both.1 rfl]
  | waiting listed unused missed none =>
    by_cases applies : result.Applies first
    · -- It gives its samples to the first segment and is left without them.
      refine .used (fun mem => (whole mem).2 ⟨⟨_, listed, applies⟩, applies.1⟩)
        ((reached_shown windows result).mpr (.inr (.inl applies))) ?_
      rw [kept.timesAppended_shown windows, none, if_pos ⟨listed, applies⟩]
    · have unreached := missedAll missed applies fun later =>
        applies (head ⟨tag, result⟩ listed solid later)
      have unappended : next.timesAppended ⟨tag, result⟩ = 0 := by
        rw [kept.timesAppended_shown windows, none, if_neg fun both => applies both.2]
      rcases pending with ⟨empty, stopped⟩ | ⟨same, covered⟩
      · refine .gone ?_ unreached unappended (.inl stopped)
        rw [empty]
        exact forall_mem_nil _
      -- No other capture takes its samples away either.
      have keeps : afterSegment w.pending first ⟨tag, result⟩ = ⟨tag, result⟩ := by
        unfold afterSegment
        rw [if_neg]
        intro taken
        exact applies (covered taken.1 ⟨tag, result⟩ listed solid taken.2)
      -- A capture of this number that waits is this one.
      have own : ∀ p ∈ next.pending, p.tag = tag → p = ⟨tag, result⟩ ∧
          first.startMs < result.captureEndMs := by
        intro p mem number
        rw [same] at mem
        obtain ⟨q, there, rfl, later⟩ := (mem_keepSidecars kept.known).mp mem
        rw [(afterSegment_keeps w.pending first q).1] at number
        have equal : q = ⟨tag, result⟩ := inj_on_of_nodup_map kept.tags there listed number
        rw [equal] at later ⊢
        exact ⟨keeps, later⟩
      by_cases later : first.startMs < result.captureEndMs
      · refine .waiting ?_ (fun mem => ?_) unreached unappended
        · rw [same]
          exact (mem_keepSidecars kept.known).mpr ⟨_, listed, keeps.symm, later⟩
        · exact ne_cleared solid (congrArg Sidecar.result (own _ mem rfl).1).symm
      · refine .gone (fun p mem number => later (own p mem number).2) unreached unappended
          (.inr ⟨strictWindow w.pending first, ?_, Int.not_lt.mp later⟩)
        rw [windows]
        exact mem_append_right _ mem_cons_self

/-- The captures of a poll, with their numbers. -/
def numbered (w : SidecarWorld) (results : List PythonFallbackResult) : List Sidecar :=
  results.zipIdx.map fun (result, index) => { tag := w.arrived.length + index, result }

/-- The state after a poll. -/
def polled (w : SidecarWorld) (results : List PythonFallbackResult) : SidecarWorld :=
  { w with pending := w.pending ++ w.numbered results, arrived := w.arrived ++ results }

theorem mem_numbered :
    p ∈ w.numbered results ↔ ∃ index, results[index]? = some p.result ∧
    p.tag = w.arrived.length + index := by
  unfold numbered
  rw [mem_map]
  constructor
  · intro listed
    obtain ⟨⟨result, index⟩, mem, rfl⟩ := listed
    exact ⟨index, mem_zipIdx_iff_getElem?.mp mem, rfl⟩
  · intro there
    obtain ⟨index, found, tag⟩ := there
    refine ⟨(p.result, index), mem_zipIdx_iff_getElem?.mpr found, ?_⟩
    dsimp only
    rw [← tag]

theorem Kept.tag_lt (kept : w.Kept) (mem : p ∈ w.pending) : p.tag < w.arrived.length := by
  obtain ⟨result, arrived, -⟩ := kept.pending p mem
  exact (List.getElem?_eq_some_iff.mp arrived).1

theorem Kept.poll (kept : w.Kept) (proper : w.Proper (.arrive results)) :
    (w.polled results).Kept := by
  refine ⟨?_, forall_mem_append.mpr ⟨kept.arrivals, proper⟩, fun p mem => ?_⟩
  · show ((w.pending ++ w.numbered results).map (·.tag)).Nodup
    have fresh : ((w.numbered results).map (·.tag)).Nodup := by
      have tags : (w.numbered results).map (·.tag) =
          (range' 0 results.length).map (w.arrived.length + ·) := by
        unfold numbered
        rw [map_map, ← zipIdx_map_snd 0 results, map_map]
        rfl
      rw [tags]
      exact List.Nodup.map (fun _ _ same => Nat.add_left_cancel same) (nodup_range' ..)
    rw [map_append, nodup_append]
    refine ⟨kept.tags, fresh, fun old listed new arrives same => ?_⟩
    obtain ⟨p, there, rfl⟩ := mem_map.mp listed
    obtain ⟨q, here, rfl⟩ := mem_map.mp arrives
    obtain ⟨index, -, tag⟩ := mem_numbered.mp here
    have bound := kept.tag_lt there
    omega
  · rcases mem_append.mp mem with old | new
    · obtain ⟨result, arrived, which⟩ := kept.pending p old
      refine ⟨result, ?_, which⟩
      exact (getElem?_append_left (kept.tag_lt old)).trans arrived
    · obtain ⟨index, found, tag⟩ := mem_numbered.mp new
      refine ⟨p.result, ?_, .inl rfl⟩
      show (w.arrived ++ results)[p.tag]? = some p.result
      rw [tag, getElem?_append_right (Nat.le_add_right ..), Nat.add_sub_cancel_left]
      exact found

/-- Nothing was appended of a capture that has not arrived. -/
def Early (w : SidecarWorld) : Prop :=
  ∀ window ∈ w.windows, ∀ p ∈ window.replacing, p.tag < w.arrived.length

theorem Fates.poll (fates : w.Fates) (kept : w.Kept) (early : w.Early)
    (proper : w.Proper (.arrive results)) (covered : w.Covered (.arrive results)) :
    (w.polled results).Fates := by
  intro tag result arrived
  by_cases old : tag < w.arrived.length
  · have before : w.arrived[tag]? = some result := (getElem?_append_left old).symm.trans arrived
    have other : ∀ p ∈ w.numbered results, p.tag ≠ tag := by
      intro p here same
      obtain ⟨index, -, number⟩ := mem_numbered.mp here
      omega
    have back : ∀ {p : Sidecar}, p ∈ w.pending ++ w.numbered results → p.tag = tag →
        p ∈ w.pending := by
      intro p mem same
      rcases mem_append.mp mem with there | here
      · exact there
      · exact absurd same (other p here)
    cases fates tag result before with
    | waiting listed unused missed none =>
      exact .waiting (mem_append_left _ listed) (fun mem => unused (back mem rfl)) missed none
    | used left reached once => exact .used (fun mem => left (back mem rfl)) reached once
    | gone left missed none finished =>
      exact .gone (fun p mem same => left p (back mem same) same) missed none finished
  · have found : results[tag - w.arrived.length]? = some result :=
      (getElem?_append_right (Nat.le_of_not_lt old)).symm.trans arrived
    have number : tag = w.arrived.length + (tag - w.arrived.length) := by omega
    refine .waiting (mem_append_right _ (mem_numbered.mpr ⟨_, found, number⟩)) (fun mem => ?_)
      (covered result (mem_of_getElem? found)) ?_
    · rcases mem_append.mp mem with there | here
      · exact old (kept.tag_lt there)
      · obtain ⟨index, empty, same⟩ := mem_numbered.mp here
        dsimp only at empty same
        have equal : tag - w.arrived.length = index := by omega
        rw [equal] at found
        exact ne_cleared (proper result (mem_of_getElem? found)).2
          (Option.some.inj (found.symm.trans empty))
    · apply count_eq_zero.mpr
      intro appended
      obtain ⟨window, listed, mem⟩ := mem_flatMap.mp appended
      exact old (early window listed _ mem)

/-- The state after the last drain. -/
def stoppedAfter (w : SidecarWorld) (perfs : List PerfWindow) : SidecarWorld :=
  { w with
    pending := if perfs = [] then w.pending else []
    windows := w.windows ++ drained w.pending perfs
    stopped := true }

theorem stoppedAfter_nil (w : SidecarWorld) : w.stoppedAfter [] = { w with stopped := true } := by
  unfold stoppedAfter drained
  rw [if_pos rfl, append_nil]

theorem Fates.drain (fates : w.Fates) (kept : w.Kept) (running : w.stopped = false)
    {perfs : List PerfWindow} (proper : w.Proper (.drain perfs))
    (covered : w.Covered (.drain perfs)) :
    (w.stoppedAfter perfs).Fates := by
  cases perfs with
  | nil =>
    intro tag result arrived
    rw [stoppedAfter_nil]
    cases fates tag result arrived with
    | waiting listed unused missed none => exact .waiting listed unused missed none
    | used left reached once => exact .used left reached once
    | gone left missed none => exact .gone left missed none (.inl rfl)
  | cons => exact fates.pass kept running rfl rfl proper.1 covered (.inl ⟨rfl, rfl⟩)

/-! ## Samples that are removed -/

/-- The samples of a capture of the process of a sample, whose interval overlaps the window, were
appended to one of the windows. -/
def Backed (windows : List StrictWindow) (window : StrictWindow) (sample : AggregatedSample) :
    Prop :=
  ∃ earlier ∈ windows, ∃ q ∈ earlier.replacing, q.result.samples ≠ [] ∧
    q.result.isOf sample = true ∧ q.result.Overlaps window.perf

/-- Every sample that a window has lost is backed by that window or one before it. -/
def Replaced (windows : List StrictWindow) : Prop :=
  ∀ before window after, windows = before ++ window :: after → ∀ sample ∈ window.perf.samples,
    (∃ p ∈ window.replacing, p.result.removes sample = true) →
    Backed (before ++ [window]) window sample

theorem Replaced.snoc {last : StrictWindow} (replaced : Replaced windows)
    (backed : ∀ sample, (∃ p ∈ last.replacing, p.result.removes sample = true) →
      Backed (windows ++ [last]) last sample) : Replaced (windows ++ [last]) := by
  intro before window after split sample mem removed
  rcases eq_nil_or_concat after with rfl | ⟨front, final, rfl⟩
  · obtain ⟨rfl, equal⟩ := append_inj' split rfl
    cases equal
    exact backed sample removed
  · rw [concat_eq_append, ← cons_append, ← append_assoc] at split
    obtain ⟨rfl, -⟩ := append_inj' split rfl
    exact replaced before window front rfl sample mem removed

theorem Replaced.append (replaced : Replaced windows) (perfs : List PerfWindow) :
    Replaced (windows ++ perfs.map (strictWindow [])) := by
  induction perfs generalizing windows with
  | nil =>
    rw [map_nil, append_nil]
    exact replaced
  | cons perf rest ih =>
    have one : Replaced (windows ++ [strictWindow [] perf]) := by
      apply replaced.snoc
      intro sample removed
      obtain ⟨p, listed, -⟩ := removed
      cases listed
    have all := ih one
    rw [append_assoc] at all
    exact all

theorem Fates.backed (fates : w.Fates) (kept : w.Kept)
    (removed : ∃ p ∈ (strictWindow w.pending perf).replacing, p.result.removes sample = true) :
    Backed (w.windows ++ [strictWindow w.pending perf]) (strictWindow w.pending perf) sample := by
  obtain ⟨p, replaces, removes⟩ := removed
  obtain ⟨mem, applies⟩ := (mem_replacing kept.known).mp replaces
  obtain ⟨result, arrived, whole | empty⟩ := kept.pending p mem
  · -- It still has its samples, and this window gets them.
    have solid := (kept.arrivals result (mem_of_getElem? arrived)).2
    rw [← whole] at solid
    exact ⟨_, mem_append_right _ mem_cons_self, p, replaces, solid, isOf_of_removes removes,
      applies.1⟩
  · -- It has given its samples to a window before.
    have solid := (kept.arrivals result (mem_of_getElem? arrived)).2
    have same : p = ⟨p.tag, result.cleared⟩ := by
      rw [← empty]
    cases fates p.tag result arrived with
    | waiting _ unused =>
      rw [same] at mem
      exact absurd mem unused
    | gone left => exact absurd rfl (left p mem)
    | used _ _ once =>
      have some : (⟨p.tag, result⟩ : Sidecar) ∈ w.windows.flatMap (·.replacing) := by
        apply count_pos_iff.mp
        unfold timesAppended at once
        omega
      obtain ⟨earlier, listed, got⟩ := mem_flatMap.mp some
      rw [empty] at removes applies
      have own : result.cleared.isOf sample = true := isOf_of_removes removes
      exact ⟨earlier, mem_append_left _ listed, _, got, solid, own, applies.1⟩

/-! ## Runs -/

/-- What a step of the loop is. -/
inductive Takes (w : SidecarWorld) : SidecarAction → SidecarWorld → Prop
  | arrive (results : List PythonFallbackResult) : Takes w (.arrive results) (w.polled results)
  | segment (perf : PerfWindow) : Takes w (.segment perf) (w.segmented perf)
  | drain (perfs : List PerfWindow) : Takes w (.drain perfs) (w.stoppedAfter perfs)

theorem step_takes (taken : w.step action = some next) :
    w.stopped = false ∧ Takes w action next := by
  cases action with
  | arrive | segment | drain =>
    dsimp only [step] at taken
    split at taken
    · cases taken
    · next running =>
      cases taken
      exact ⟨Bool.eq_false_iff.mpr running, by constructor⟩

/-- What holds in every state of a run. -/
structure Inv (w : SidecarWorld) : Prop where
  kept : w.Kept
  early : w.Early
  fates : w.Fates
  replaced : Replaced w.windows
  windows : ∀ window ∈ w.windows, ∃ pending, window = strictWindow pending window.perf

theorem Kept.replacing_tag_lt (kept : w.Kept) :
    ∀ p ∈ (strictWindow w.pending perf).replacing, p.tag < w.arrived.length := by
  intro p listed
  exact kept.tag_lt ((mem_replacing kept.known).mp listed).1

theorem Inv.step (inv : w.Inv) (proper : w.Proper action) (covered : w.Covered action)
    (taken : w.step action = some next) : next.Inv := by
  obtain ⟨running, takes⟩ := step_takes taken
  cases takes with
  | arrive results =>
    refine ⟨inv.kept.poll proper, fun window listed p mem => ?_,
      inv.fates.poll inv.kept inv.early proper covered, inv.replaced, inv.windows⟩
    have before := inv.early window listed p mem
    show p.tag < (w.arrived ++ results).length
    rw [length_append]
    omega
  | segment perf =>
    exact ⟨inv.kept.segment perf, forall_mem_shown [] inv.early inv.kept.replacing_tag_lt fun _ =>
      nofun, inv.fates.pass inv.kept running rfl rfl (forall_mem_singleton.mpr proper)
        (fun _ _ _ => nofun) (.inr ⟨rfl, covered⟩),
      inv.replaced.snoc fun sample removed => inv.fates.backed inv.kept removed,
      forall_mem_shown [] inv.windows ⟨w.pending, rfl⟩ fun _ => ⟨[], rfl⟩⟩
  | drain perfs =>
    have fates := inv.fates.drain inv.kept running proper covered
    cases perfs with
    | nil =>
      rw [stoppedAfter_nil] at fates ⊢
      exact ⟨⟨inv.kept.tags, inv.kept.arrivals, inv.kept.pending⟩, inv.early, fates, inv.replaced,
        inv.windows⟩
    | cons first rest =>
      have replaced : Replaced (w.shown first rest) := by
        have one : Replaced (w.windows ++ [strictWindow w.pending first]) :=
          inv.replaced.snoc fun sample removed => inv.fates.backed inv.kept removed
        have all := one.append rest
        rw [append_assoc] at all
        exact all
      exact ⟨⟨nodup_nil, inv.kept.arrivals, forall_mem_nil _⟩,
        forall_mem_shown rest inv.early inv.kept.replacing_tag_lt fun _ => nofun, fates, replaced,
        forall_mem_shown rest inv.windows ⟨w.pending, rfl⟩ fun _ => ⟨[], rfl⟩⟩

theorem Inv.start : Inv {} := by
  refine ⟨⟨nodup_nil, forall_mem_nil _, forall_mem_nil _⟩, forall_mem_nil _, fun _ _ => nofun, ?_,
    forall_mem_nil _⟩
  intro before window after split
  exact absurd split.symm (append_ne_nil_of_right_ne_nil before (cons_ne_nil window after))

/-- **As long as no capture takes the samples of another one away, every capture is appended once if
a segment applies to it and never otherwise, and samples of perf are removed only where a capture of
their process has taken their place.** -/
theorem captures_appended_once (actions : List SidecarAction) (w : SidecarWorld)
    (proper : Along step Proper {} actions) (covered : Along step Covered {} actions)
    (reached : run step {} actions = some w) :
    (∀ tag result, w.arrived[tag]? = some result →
        w.timesAppended ⟨tag, result⟩ = if w.Reached result then 1 else 0) ∧
      (∀ window ∈ w.windows, window.samples =
        window.perf.samples.filter (fun sample =>
          !window.replacing.any (·.result.removes sample)) ++
          window.replacing.flatMap (·.result.aggregated)) ∧
      Replaced w.windows := by
  have keeps : ∀ w action next, Inv w → w.Proper action ∧ w.Covered action →
      step w action = some next → Inv next := fun w action next inv allowed taken =>
      inv.step allowed.1 allowed.2 taken
  have inv := run_invariant_along keeps Inv.start (along_and proper covered) reached
  refine ⟨fun tag result arrived => ?_, fun window listed => ?_, inv.replaced⟩
  · cases inv.fates tag result arrived with
    | waiting _ _ missed none => rw [if_neg missed, none]
    | used _ reached once => rw [if_pos reached, once]
    | gone _ missed none => rw [if_neg missed, none]
  · obtain ⟨pending, same⟩ := inv.windows window listed
    rw [same]
    exact strictWindow_samples pending window.perf

instance (result : PythonFallbackResult) : Decidable result.Known :=
  decidable_of_iff' _ result.known_iff

instance (w : SidecarWorld) (action : SidecarAction) : Decidable (w.Proper action) := by
  cases action <;> dsimp only [Proper] <;> infer_instance

instance (w : SidecarWorld) (action : SidecarAction) : Decidable (w.Covered action) := by
  rcases action with _ | _ | (_ | _) <;> dsimp only [Covered] <;> infer_instance

/-- A sample of perf of a process. -/
def perfSample (pid : Int) : AggregatedSample where
  pid
  processStartMs := 1
  exe := "python"
  backend := "perf_rolling"
  count := 1

/-- A capture of a process over two seconds. -/
def capture (pid : Int) : PythonFallbackResult where
  pid
  startMs := 1
  exe := "python"
  ready := true
  samples := [{ stack := ["f"], count := 7 }]
  captureStartMs := 1000
  captureEndMs := 3000

/-- Two processes, both sampled in two segments: the first one gets both captures, the second one
only loses its samples. -/
theorem two_processes_appended_once :
    ∃ w, run step {}
        [.arrive [capture 1, capture 2],
          .segment ⟨1000, 2000, [perfSample 1, perfSample 2], by decide, by decide⟩,
          .segment ⟨2000, 3000, [perfSample 1, perfSample 2], by decide, by decide⟩] = some w ∧
      w.windows.map (·.samples.length) = [2, 0] ∧
      w.timesAppended ⟨0, capture 1⟩ = 1 ∧ w.timesAppended ⟨1, capture 2⟩ = 1 := by
  refine Exists.imp (fun w seen => ⟨seen.1, seen.2.1, ?_⟩) (exists_run (p := fun w =>
    w.windows.map (·.samples.length) = [2, 0] ∧ w.arrived = [capture 1, capture 2] ∧
      w.Reached (capture 1) ∧ w.Reached (capture 2)) (by decide))
  obtain ⟨reached, -, arrived, first, second⟩ := seen
  have placed := (captures_appended_once _ w (along_of_decide (by decide))
    (along_of_decide (by decide)) reached).1
  rw [arrived] at placed
  exact ⟨(placed 0 (capture 1) rfl).trans (if_pos first),
    (placed 1 (capture 2) rfl).trans (if_pos second)⟩

/-- Two processes captured at once, sampled in one segment each: the first segment takes the samples
of both captures, and the second segment loses the samples of perf and gets none. -/
theorem second_process_lost :
    ∃ w, run step {}
        [.arrive [capture 1, capture 2],
          .segment ⟨1000, 2000, [perfSample 1], by decide, by decide⟩,
            .segment ⟨2000, 3000, [perfSample 2], by decide, by decide⟩] = some w ∧
      w.Reached (capture 2) ∧ w.timesAppended ⟨1, capture 2⟩ = 0 ∧
      w.windows.map (fun window => (window.perf.samples.length, window.samples.length)) =
      [(1, 1), (1, 0)] :=
  exists_run (by decide)

end SidecarWorld

end MiniDrop.Agent
