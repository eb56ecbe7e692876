import Mathlib.Data.List.Chain
import Mathlib.Data.List.Nodup
import MiniDrop.Agent.DigestDelta
/-!
# What the increments of a digest add up to

The counters that a row is compared with are those of the row that was read last with the same
digest, in the poll before or in the same poll. They are the row's own counters of the poll before
only as long as no other schema has run the same statement in between, and then the increments of
successive polls add up to the difference of the counters.
-/
namespace MiniDrop.Agent

open List

variable {back : List ParsedDigestRow} {digest : String}

/-! ## Rows that were read -/

namespace ParsedDigestRow

/-- No counter of the first row is above that of the second. -/
def AtMost (first second : ParsedDigestRow) : Prop :=
  first.countStar ≤ second.countStar ∧ first.sumTimerWaitPs ≤ second.sumTimerWaitPs ∧
    first.sumRowsExamined ≤ second.sumRowsExamined
  deriving Decidable

/-- The statement and the schema of a row. -/
def name (row : ParsedDigestRow) : String × String := (row.schemaName, row.digest)

/-- What is kept of a row. -/
def state (nowMs : Int) (row : ParsedDigestRow) : DigestCounterState where
  countStar := row.countStar
  sumTimerWaitPs := row.sumTimerWaitPs
  sumRowsExamined := row.sumRowsExamined
  lastSeenMs := nowMs

end ParsedDigestRow

/-- The row that was read last with a digest. -/
def lastRead (digest : String) (rows : List ParsedDigestRow) : Option ParsedDigestRow :=
  (rows.filter (·.digest = digest)).getLast?

theorem lastRead_append (digest : String) (first second : List ParsedDigestRow) :
    lastRead digest (first ++ second) = (lastRead digest second).or (lastRead digest first) := by
  unfold lastRead
  rw [filter_append, getLast?_append]

variable {row : ParsedDigestRow} {poll : DigestPoll}

theorem lastRead_isSome {rows : List ParsedDigestRow}
    (mem : row ∈ rows) (same : row.digest = digest) : ∃ last, lastRead digest rows = some last := by
  have listed : row ∈ rows.filter (·.digest = digest) := mem_filter.mpr ⟨mem, decide_eq_true same⟩
  exact ⟨_, getLast?_eq_some_getLast (ne_nil_of_mem listed)⟩

/-- The rows of a result before one of them. -/
def DigestPoll.before (poll : DigestPoll) (row : ParsedDigestRow) : List ParsedDigestRow :=
  poll.rows.takeWhile (· ≠ row)

theorem DigestPoll.before_of_notMem {front : List ParsedDigestRow}
    (rows : poll.rows = front ++ row :: back) (fresh : row ∉ front) : poll.before row = front := by
  have others : ∀ other ∈ front, decide (other ≠ row) = true := fun other mem =>
    decide_eq_true fun same => fresh (same ▸ mem)
  unfold DigestPoll.before
  rw [rows, takeWhile_append_of_pos others, takeWhile_cons_of_neg (by simp), append_nil]

theorem DigestPoll.rows_eq (mem : row ∈ poll.rows) :
    ∃ back, poll.rows = poll.before row ++ row :: back := by
  obtain ⟨front, back, rows, fresh⟩ := eq_append_cons_of_mem mem
  rw [before_of_notMem rows fresh]
  exact ⟨back, rows⟩

theorem DigestPoll.before_eq {front : List ParsedDigestRow}
    (unique : (poll.rows.map (·.name)).Nodup) (rows : poll.rows = front ++ row :: back) :
    poll.before row = front := by
  rw [rows, map_append, map_cons, nodup_append] at unique
  refine before_of_notMem rows fun mem => ?_
  exact unique.2.2 row.name (mem_map_of_mem mem) row.name mem_cons_self rfl

namespace DigestTarget

variable {target : DigestTarget} {states : DigestStates} {nowMs : Int}

theorem collectRow_states (row : ParsedDigestRow) : (target.collectRow nowMs states row).1 =
      Function.update states (target.key row.digest) (some (row.state nowMs)) := by
  unfold collectRow
  dsimp only
  split
  · rfl
  · split
    · rfl
    · split
      · rfl
      · rfl

/-- **What is kept of a digest is the row that was read last.** -/
theorem collectRows_states (rows : List ParsedDigestRow) (digest : String) :
    (target.collectRows nowMs states rows).1 (target.key digest) =
      ((lastRead digest rows).map (·.state nowMs)).or (states (target.key digest)) := by
  induction rows generalizing states with
  | nil => rfl
  | cons row rest ih =>
    have split : lastRead digest (row :: rest) =
        (lastRead digest rest).or (lastRead digest [row]) :=
      lastRead_append digest [row] rest
    show (target.collectRows nowMs (target.collectRow nowMs states row).1 rest).1
      (target.key digest) = _
    rw [ih, split, collectRow_states]
    cases later : lastRead digest rest with
    | some => rfl
    | none =>
      show Function.update states (target.key row.digest) (some (row.state nowMs))
        (target.key digest) = _
      by_cases same : row.digest = digest
      · rw [same, Function.update_self]
        have own : lastRead digest [row] = some row := by
          unfold lastRead
          rw [filter_singleton, decide_eq_true same]
          rfl
        rw [own]
        rfl
      · have other : target.key digest ≠ target.key row.digest := fun keys =>
          same ((String.append_right_inj _).mp keys).symm
        rw [Function.update_of_ne other]
        have none : lastRead digest [row] = none := by
          unfold lastRead
          rw [filter_singleton, decide_eq_false same]
          rfl
        rw [none]
        rfl

theorem collectRows_append (first second : List ParsedDigestRow) :
    target.collectRows nowMs states (first ++ second) =
      ((target.collectRows nowMs (target.collectRows nowMs states first).1 second).1,
        (target.collectRows nowMs states first).2 ++
          (target.collectRows nowMs (target.collectRows nowMs states first).1 second).2) := by
  induction first generalizing states with
  | nil => rfl
  | cons row rest ih =>
    rw [cons_append, collectRows, collectRows]
    dsimp only
    rw [ih, append_assoc]

variable {first next : DigestPoll} {rows front : List ParsedDigestRow}
  {report : ParsedDigestRow × DigestSample} {measure : DigestSample → Nat}
  {row seen last prev : ParsedDigestRow} {seenMs : Int}

/-- The samples are those that the rows make after the rows before them. -/
theorem mem_collectRows_iff :
    report ∈ (target.collectRows nowMs states rows).2 ↔
      ∃ front back, rows = front ++ report.1 :: back ∧
      (target.collectRow nowMs (target.collectRows nowMs states front).1 report.1).2 =
      some report.2 := by
  constructor
  · intro reported
    induction rows generalizing states with
    | nil => exact absurd reported not_mem_nil
    | cons row rest ih =>
      rcases mem_append.mp reported with now | later
      · obtain ⟨sample, made, rfl⟩ := Option.map_eq_some_iff.mp (Option.mem_toList.mp now)
        exact ⟨[], rest, rfl, made⟩
      · obtain ⟨front, back, rfl, made⟩ := ih later
        exact ⟨row :: front, back, rfl, made⟩
  · intro made
    obtain ⟨front, back, rfl, made⟩ := made
    rw [collectRows_append, collectRows]
    dsimp only
    rw [made]
    exact mem_append_right _ (mem_append_left _ mem_cons_self)

/-! ## Reports -/

/-- What the reports of a statement in a schema add up to. -/
def total (measure : DigestSample → Nat) (name : String × String)
    (reports : List (ParsedDigestRow × DigestSample)) : Nat :=
  ((reports.filter (·.1.name = name)).map (measure ·.2)).sum

theorem total_append (measure : DigestSample → Nat) (name : String × String)
    (first second : List (ParsedDigestRow × DigestSample)) :
    total measure name (first ++ second) = total measure name first +
    total measure name second := by
  unfold total
  rw [filter_append, map_append, sum_append]

theorem total_collectRows_none {name : String × String} (none : ∀ row ∈ rows, row.name ≠ name) :
    total measure name (target.collectRows nowMs states rows).2 = 0 := by
  have empty : (target.collectRows nowMs states rows).2.filter (·.1.name = name) = [] := by
    apply filter_eq_nil_iff.mpr
    intro report reported same
    obtain ⟨front, back, rfl, -⟩ := mem_collectRows_iff.mp reported
    exact none report.1 (mem_append_right front mem_cons_self) (of_decide_eq_true same)
  unfold total
  rw [empty]
  rfl

/-- **In a result without a row twice, a statement reports what its row reports after the rows
before it.** -/
theorem total_collectRows (unique : ((front ++ row :: back).map (·.name)).Nodup) :
    total measure row.name (target.collectRows nowMs states (front ++ row :: back)).2 =
      ((target.collectRow nowMs (target.collectRows nowMs states front).1 row).2.map
        measure).getD 0 := by
  rw [map_append, map_cons, nodup_append] at unique
  obtain ⟨-, others, apart⟩ := unique
  have before : ∀ other ∈ front, other.name ≠ row.name := fun other mem =>
    apart other.name (mem_map_of_mem mem) row.name mem_cons_self
  have behind : ∀ other ∈ back, other.name ≠ row.name := by
    intro other mem same
    have fresh := (nodup_cons.mp others).1
    rw [← same] at fresh
    exact fresh (mem_map_of_mem mem)
  rw [collectRows_append]
  rw [total_append, total_collectRows_none before, collectRows]
  rw [total_append, total_collectRows_none behind]
  cases (target.collectRow nowMs (target.collectRows nowMs states front).1 row).2 with
  | none => rfl
  | some =>
    unfold total
    simp

/-- The row is compared with another one and reports something. -/
def Reports (seen row : ParsedDigestRow) : Prop := seen.AtMost row ∧ seen.countStar ≠ row.countStar
  deriving Decidable

theorem computeDigestDelta_increment {maxGapMs : Int} (most : seen.AtMost row)
    (near : nowMs - seenMs ≤ maxGapMs) :
    computeDigestDelta (some (seen.state seenMs)) (row.state nowMs) nowMs maxGapMs =
      { kind := .increment
        deltaCalls := row.countStar - seen.countStar
        deltaLatencyUs := (row.sumTimerWaitPs - seen.sumTimerWaitPs) / 1000000
        deltaRows := row.sumRowsExamined - seen.sumRowsExamined } := by
  obtain ⟨count, wait, examined⟩ := most
  unfold computeDigestDelta ParsedDigestRow.state
  dsimp only
  rw [if_neg (by omega), if_neg (by omega)]

theorem computeDigestDelta_reset (most : ¬seen.AtMost row) (nowMs seenMs maxGapMs : Int) :
    computeDigestDelta (some (seen.state seenMs)) (row.state nowMs) nowMs maxGapMs =
    { kind := .reset } := by
  unfold ParsedDigestRow.AtMost at most
  unfold computeDigestDelta ParsedDigestRow.state
  dsimp only
  split
  · rfl
  · rw [if_pos (by omega)]

/-- What a row reports that is compared with one that was read a short while ago. -/
theorem collectRow_report (kept : states (target.key row.digest) = some (seen.state seenMs))
    (near : nowMs - seenMs ≤ target.maxGapMs) :
    (target.collectRow nowMs states row).2 =
      if Reports seen row then
        some {
          instanceLabel := target.instanceLabel
          timestampMs := nowMs
          schemaName := row.schemaName
          digestText := row.digestText
          callCount := row.countStar - seen.countStar
          totalLatencyUs := (row.sumTimerWaitPs - seen.sumTimerWaitPs) / 1000000
          rowsExaminedTotal := row.sumRowsExamined - seen.sumRowsExamined }
      else none := by
  unfold collectRow
  rw [kept]
  by_cases most : seen.AtMost row
  · have delta := computeDigestDelta_increment most near
    unfold ParsedDigestRow.state at delta ⊢
    simp only [delta]
    rw [if_neg (by decide)]
    have count := most.1
    by_cases same : row.countStar - seen.countStar = 0
    · have silent : ¬Reports seen row := fun reports => reports.2 (by omega)
      rw [if_pos same, if_neg silent]
    · have reports : Reports seen row := ⟨most, by omega⟩
      rw [if_neg same, if_pos reports]
  · have delta := computeDigestDelta_reset most nowMs seenMs target.maxGapMs
    unfold ParsedDigestRow.state at delta ⊢
    have silent : ¬Reports seen row := fun reports => most reports.1
    simp only [delta]
    rw [if_pos (by decide), if_neg silent]

/-! ## Polls -/

/-- After a poll, what is kept of a digest in the result is the row that was read last. -/
theorem poll_states {poll : DigestPoll} (read : lastRead digest poll.rows = some last) :
    (target.collectMysqlTargetDigests states poll).1 (target.key digest) =
    some (last.state poll.nowMs) := by
  show (((target.collectRows poll.nowMs states poll.rows).1 (target.key digest)).filter _) = _
  rw [collectRows_states, read]
  have fresh : ¬poll.nowMs - (last.state poll.nowMs).lastSeenMs >
      max 1 target.aggregationWindowSec * 20000 := by
    unfold ParsedDigestRow.state
    dsimp only
    omega
  show Option.filter _ (some (last.state poll.nowMs)) = _
  rw [Option.filter_some, if_pos (decide_eq_true fresh)]

/-- **What a poll reports of a statement that was in the result before it**: the difference to the
row of the digest that was read last. -/
theorem next_report (near : next.nowMs - first.nowMs ≤ target.maxGapMs)
    (unique : (next.rows.map (·.name)).Nodup) (mem : row ∈ next.rows)
    (listed : prev ∈ first.rows) (same : prev.name = row.name)
    (read : lastRead row.digest (first.rows ++ next.before row) = some seen) :
    let reports :=
    (target.collectMysqlTargetDigests (target.collectMysqlTargetDigests states first).1 next).2
    total (·.callCount) row.name reports =
        (if Reports seen row then row.countStar - seen.countStar else 0) ∧
      total (·.rowsExaminedTotal) row.name reports =
        (if Reports seen row then row.sumRowsExamined - seen.sumRowsExamined else 0) := by
  obtain ⟨back, rows⟩ := DigestPoll.rows_eq mem
  have digest : prev.digest = row.digest := congrArg Prod.snd same
  obtain ⟨old, oldRead⟩ := lastRead_isSome listed digest
  -- What the row is compared with was read in this poll, or else in the one before.
  have kept : ∃ seenMs, next.nowMs - seenMs ≤ target.maxGapMs ∧
      (target.collectRows next.nowMs (target.collectMysqlTargetDigests states first).1
        (next.before row)).1 (target.key row.digest) = some (seen.state seenMs) := by
    rw [collectRows_states, poll_states oldRead]
    rw [lastRead_append, oldRead] at read
    cases here : lastRead row.digest (next.before row) with
    | none =>
      rw [here] at read
      cases read
      exact ⟨first.nowMs, near, rfl⟩
    | some =>
      rw [here] at read
      cases read
      refine ⟨next.nowMs, ?_, rfl⟩
      unfold maxGapMs
      omega
  obtain ⟨seenMs, close, state⟩ := kept
  have each (measure : DigestSample → Nat) :
      total measure row.name
          (target.collectMysqlTargetDigests (target.collectMysqlTargetDigests states first).1
          next).2 =
        ((target.collectRow next.nowMs (target.collectRows next.nowMs
          (target.collectMysqlTargetDigests states first).1 (next.before row)).1 row).2.map
          measure).getD 0 := by
    show total measure row.name (target.collectRows next.nowMs _ next.rows).2 = _
    rw [rows] at unique
    rw [← total_collectRows unique, ← rows]
  dsimp only
  rw [each, each, collectRow_report state close]
  split
  · exact ⟨rfl, rfl⟩
  · exact ⟨rfl, rfl⟩

/-- The row that a row is compared with tells what the row was before: if something is reported,
both counters are the same, and else the row is as it was. -/
def Telling (prev seen row : ParsedDigestRow) : Prop :=
  if Reports seen row then seen.countStar = prev.countStar ∧
    seen.sumRowsExamined = prev.sumRowsExamined
  else row.countStar = prev.countStar ∧ row.sumRowsExamined = prev.sumRowsExamined
  deriving Decidable

/-- What is reported is what was added exactly if the other row tells. -/
theorem telling_iff (most : prev.AtMost row) :
    (if Reports seen row then row.countStar - seen.countStar else 0) =
        row.countStar - prev.countStar ∧
          (if Reports seen row then row.sumRowsExamined - seen.sumRowsExamined else 0) =
          row.sumRowsExamined - prev.sumRowsExamined ↔ Telling prev seen row := by
  unfold Telling
  obtain ⟨count, -, examined⟩ := most
  split
  · next reports =>
    obtain ⟨⟨seenCount, -, seenExamined⟩, -⟩ := reports
    omega
  · omega

/-- Where nothing was read before, a row is compared with the rows before it. -/
theorem alone_report (empty : ∀ digest, states (target.key digest) = none) :
    (target.collectRow nowMs (target.collectRows nowMs states front).1 row).2.isSome = true ↔
      ∃ seen ∈ lastRead row.digest front, Reports seen row := by
  have kept : (target.collectRows nowMs states front).1 (target.key row.digest) =
      ((lastRead row.digest front).map (·.state nowMs)).or (states (target.key row.digest)) :=
    collectRows_states front row.digest
  rw [empty] at kept
  cases read : lastRead row.digest front with
  | none =>
    rw [read] at kept
    have silent : (target.collectRow nowMs (target.collectRows nowMs states front).1 row).2 =
        none := by
      unfold collectRow
      rw [kept]
      rfl
    rw [silent]
    exact ⟨nofun, fun some => by obtain ⟨seen, known, -⟩ := some; cases known⟩
  | some seen =>
    rw [read] at kept
    have near : nowMs - nowMs ≤ target.maxGapMs := by
      unfold maxGapMs
      omega
    rw [collectRow_report kept near]
    split
    · next reports => exact ⟨fun _ => ⟨seen, rfl, reports⟩, fun _ => rfl⟩
    · next silent =>
      refine ⟨nofun, fun some => ?_⟩
      obtain ⟨other, known, reports⟩ := some
      cases known
      exact absurd reports silent

/-- A poll with nothing read before it reports nothing exactly if none of its rows reports on
another. -/
theorem first_reports_nothing_iff (unique : (first.rows.map (·.name)).Nodup)
    (empty : ∀ digest, states (target.key digest) = none) :
    (target.collectMysqlTargetDigests states first).2 = [] ↔
      ∀ row ∈ first.rows, ∀ seen ∈ lastRead row.digest (first.before row), ¬Reports seen row := by
  constructor
  · intro nothing row mem seen read reports
    obtain ⟨back, rows⟩ := DigestPoll.rows_eq mem
    obtain ⟨sample, made⟩ := Option.isSome_iff_exists.mp
      ((alone_report empty).mpr ⟨seen, read, reports⟩)
    have reported : (row, sample) ∈ (target.collectMysqlTargetDigests states first).2 :=
      mem_collectRows_iff.mpr ⟨_, back, rows, made⟩
    rw [nothing] at reported
    cases reported
  · intro silent
    apply eq_nil_iff_forall_not_mem.mpr
    intro report reported
    obtain ⟨front, back, rows, made⟩ := mem_collectRows_iff.mp reported
    have mem : report.1 ∈ first.rows := by
      rw [rows]
      exact mem_append_right front mem_cons_self
    obtain ⟨seen, read, reports⟩ := (alone_report empty).mp (Option.isSome_of_mem made)
    rw [← DigestPoll.before_eq unique rows] at read
    exact silent report.1 mem seen read reports

/-- The row of a statement in successive polls, its counters never falling, up to the last one. -/
def Rises : ParsedDigestRow → List DigestPoll → ParsedDigestRow → Prop
  | row, [], last => last = row
  | row, poll :: rest, last =>
    ∃ next ∈ poll.rows, next.name = row.name ∧ row.AtMost next ∧ Rises next rest last

theorem Rises.atMost {polls : List DigestPoll} (rises : Rises row polls last) :
    row.AtMost last := by
  induction polls generalizing row with
  | nil =>
    cases rises
    exact ⟨Nat.le_refl _, Nat.le_refl _, Nat.le_refl _⟩
  | cons poll rest ih =>
    obtain ⟨next, -, -, most, later⟩ := rises
    have rest := ih later
    unfold ParsedDigestRow.AtMost at most rest ⊢
    omega

/-- Nothing is reported for the first poll, and along every stretch of polls in which the row of a
statement is always there and its counters do not fall, the reports after the first of them add up
to the difference of its counters. -/
def Exact (target : DigestTarget) (states : DigestStates) (polls : List DigestPoll) : Prop :=
  (∀ first ∈ polls.head?, (target.collectMysqlTargetDigests states first).2 = []) ∧
    ∀ before first rest after, polls = before ++ first :: (rest ++ after) →
      ∀ row ∈ first.rows, ∀ last, Rises row rest last →
        total (·.callCount) row.name
            (target.collectPolls (target.collectPolls states (before ++ [first])).1 rest).2 =
          last.countStar - row.countStar ∧
        total (·.rowsExaminedTotal) row.name
            (target.collectPolls (target.collectPolls states (before ++ [first])).1 rest).2 =
          last.sumRowsExamined - row.sumRowsExamined

/-- In the second of two results, every row that was in the first one is compared with a row that
tells. -/
def Told (first next : DigestPoll) : Prop :=
  ∀ row ∈ next.rows, ∀ prev ∈ first.rows, prev.name = row.name → prev.AtMost row →
    ∀ seen ∈ lastRead row.digest (first.rows ++ next.before row), Telling prev seen row
  deriving Decidable

theorem collectPolls_append (first second : List DigestPoll) :
    target.collectPolls states (first ++ second) =
      ((target.collectPolls (target.collectPolls states first).1 second).1,
        (target.collectPolls states first).2 ++
          (target.collectPolls (target.collectPolls states first).1 second).2) := by
  induction first generalizing states with
  | nil => rfl
  | cons poll rest ih =>
    rw [cons_append, collectPolls, collectPolls]
    dsimp only
    rw [ih, append_assoc]

theorem collectPolls_snoc (before : List DigestPoll) (poll : DigestPoll) :
    (target.collectPolls states (before ++ [poll])).1 =
      (target.collectMysqlTargetDigests (target.collectPolls states before).1 poll).1 := by
  rw [collectPolls_append]
  rfl

theorem collectPolls_one (poll : DigestPoll) :
    (target.collectPolls states [poll]).2 = (target.collectMysqlTargetDigests states poll).2 :=
  append_nil _

/-- **The increments of the digests are exact, for any results without a row twice and at most one
and a half windows apart, exactly if no row of the first result reports on another one, and every
row is compared with one that tells what it was before.** -/
theorem increments_exact_iff (target : DigestTarget) (states : DigestStates)
    (polls : List DigestPoll) (empty : ∀ digest, states (target.key digest) = none)
    (unique : ∀ poll ∈ polls, (poll.rows.map (·.name)).Nodup)
    (near : polls.IsChain fun first next => next.nowMs - first.nowMs ≤ target.maxGapMs) :
    Exact target states polls ↔
      (∀ first ∈ polls.head?, ∀ row ∈ first.rows, ∀ seen ∈ lastRead row.digest (first.before row),
        ¬Reports seen row) ∧ polls.IsChain Told := by
  unfold Exact
  have start : (∀ first ∈ polls.head?, (target.collectMysqlTargetDigests states first).2 = []) ↔
      ∀ first ∈ polls.head?, ∀ row ∈ first.rows, ∀ seen ∈ lastRead row.digest (first.before row),
        ¬Reports seen row := by
    apply forall₂_congr
    intro first head
    exact first_reports_nothing_iff (unique first (mem_of_mem_head? head)) empty
  rw [start, isChain_iff_forall_rel_of_append_cons_cons]
  rw [isChain_iff_forall_rel_of_append_cons_cons] at near
  refine and_congr_right fun _ => ⟨?_, ?_⟩
  · intro exact first next before after polls_eq row mem prev listed same most seen read
    have sums := exact before first [next] after polls_eq prev listed row
      ⟨row, mem, same.symm, most, rfl⟩
    rw [collectPolls_snoc, collectPolls_one, same] at sums
    have listing : next ∈ polls := by
      rw [polls_eq]
      exact mem_append_right before (mem_cons_of_mem first mem_cons_self)
    have known := @next_report target (target.collectPolls states before).1 first next row seen prev
      (near polls_eq) (unique next listing) mem listed same read
    rw [known.1, known.2] at sums
    exact (telling_iff most).mp sums
  · intro told before first rest
    induction rest generalizing before first with
    | nil =>
      intro after polls_eq row listed last rises
      cases rises
      rw [Nat.sub_self, Nat.sub_self]
      exact ⟨rfl, rfl⟩
    | cons next rest ih =>
      intro after polls_eq row listed last rises
      obtain ⟨now, mem, same, most, later⟩ := rises
      have polls_snoc : polls = (before ++ [first]) ++ next :: (rest ++ after) := by
        rw [polls_eq, append_assoc]
        rfl
      have tail := ih (before ++ [first]) next after polls_snoc now mem last later
      have listing : next ∈ polls := by
        rw [polls_snoc]
        exact mem_append_right _ mem_cons_self
      -- The row is compared with what was read last of its digest, in this poll or in the one
      -- before.
      have digest : row.digest = now.digest := congrArg Prod.snd same.symm
      obtain ⟨seen, read⟩ := lastRead_isSome (mem_append_left (next.before now) listed) digest
      have known := @next_report target (target.collectPolls states before).1 first next now
        seen row (near polls_eq) (unique next listing) mem listed same.symm read
      have tells := (telling_iff most).mpr
        (told polls_eq now mem row listed same.symm most seen read)
      rw [← known.1, ← known.2, ← collectPolls_snoc, same] at tells
      rw [collectPolls_snoc, same] at tail
      have last_most := later.atMost
      unfold ParsedDigestRow.AtMost at most last_most
      rw [collectPolls, total_append, total_append, tells.1, tells.2, tail.1, tail.2]
      omega

/-- A session that polls one target every minute. -/
def shop : DigestTarget where
  sessionSID := "s"
  aggregationWindowSec := 60
  instanceLabel := "db"

/-- One statement in one schema: ten calls, then twelve. -/
theorem one_schema_exact :
    Exact shop (fun _ => none)
      [{ nowMs := 1000, lines := ["a\td\tselect\t10\t50\t100"] },
        { nowMs := 61000, lines := ["a\td\tselect\t12\t70\t140"] }] := by
  apply (increments_exact_iff shop (fun _ => none) _ (fun _ => rfl) (by decide) (by decide)).mpr
  decide

/-- The same statement in two schemas, polled twice. -/
def mixedPolls : List DigestPoll :=
  [{ nowMs := 1000, lines := ["a\td\tselect\t10\t50\t100", "b\td\tselect\t100\t500\t1000"] },
    { nowMs := 61000, lines := ["a\td\tselect\t12\t70\t140", "b\td\tselect\t110\t550\t1100"] }]

/-- The first poll reports 90 calls for the second schema; the next one reports neither of the two
calls in the first schema, and 98 calls for the ten in the second. -/
theorem two_schemas_mixed :
    ¬Exact shop (fun _ => none) mixedPolls ∧
      (shop.collectPolls (fun _ => none) mixedPolls).2.map (fun report =>
          (report.1.schemaName, report.2.timestampMs, report.2.callCount,
            report.2.rowsExaminedTotal)) =
        [("b", 1000, 90, 900), ("b", 61000, 98, 960)] := by
  refine ⟨fun exact => ?_, by decide⟩
  have silent := exact.1 _ rfl
  revert silent
  decide

end DigestTarget

end MiniDrop.Agent
