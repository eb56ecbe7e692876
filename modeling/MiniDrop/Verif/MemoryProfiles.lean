import MiniDrop.Server.MemoryProfiles

/-!
# Memory profiles listed once

When a query lists a profile as ready more than once. The windows and the blocks have different
keys, so a profile whose first entry under each of them is ready is listed twice.
-/
namespace MiniDrop

open Base List

variable {found : Bool}

/-- The entry lists a profile of a process as ready. -/
def readyFor (profile info : ContinuousMemoryProfileInfo) : Bool :=
  info.status = "ready" ∧ info.profileID = profile.profileID ∧ info.pid = profile.pid ∧
    info.processStartMs = profile.processStartMs ∧ info.exe = profile.exe

/-- The key of a ready profile of a block. -/
def blockKey (profile : ContinuousMemoryProfileInfo) : String :=
  processKey profile ++ "|" ++ "ready"

/-- The first entry under a key lists the profile as ready. -/
def firstReady (profile : ContinuousMemoryProfileInfo) (entries : List KeyedProfile)
    (key : String) : Bool :=
  (entries.lookup key).any (readyFor profile)

/-- What the source of an hour has, with its keys: the profiles of the stored windows, or the rows
of the block. -/
def hourSource (catalog : MemoryCatalog) (filters : Labels) (fromTime toTime hour : Int) :
    List KeyedProfile :=
  let fromTime := max hour fromTime
  let toTime := min (hour + Time.hour) toTime
  if ¬fromTime < toTime then []
  else match catalog.sessions, catalog.pqFindBestBlock hour with
    | .ok sessions, .ok (some (some rows)) =>
      (rows.filter (memoryRowSelected filters sessions fromTime toTime)).map fun row =>
        (blockRowKey row, blockProfile row)
    | _, _ =>
      match storedMemoryProfiles catalog filters fromTime toTime with
      | .ok (profiles, _) => nativeKeys profiles
      | .error _ => []

/-- What the sources of the hours of a range have. -/
def rangeSource (catalog : MemoryCatalog) (filters : Labels) (fromTime toTime : Int) :
    List KeyedProfile :=
  (pqHourlyRange fromTime toTime).flatMap (hourSource catalog filters fromTime toTime)

/-- The first window profile or block row under the key of the windows lists some profile as ready,
and so does the first one under the key of the blocks. -/
def ReadyInBoth (catalog : MemoryCatalog) (filters : Labels) (fromTime toTime : Int) : Prop :=
  catalog.queryV2 = true ∧ ∃ profile,
    firstReady profile (rangeSource catalog filters fromTime toTime)
    (memoryProfileDedupeKey profile) = true ∧
    firstReady profile (rangeSource catalog filters fromTime toTime) (blockKey profile) = true

/-! ## Keys -/

/-- A ready profile is under one of its two keys. -/
def Keyed (entry : KeyedProfile) : Prop :=
  entry.2.status = "ready" → entry.1 = memoryProfileDedupeKey entry.2 ∨ entry.1 = blockKey entry.2

variable {profile info : ContinuousMemoryProfileInfo} {catalog : MemoryCatalog} {filters : Labels}
  {fromTime toTime : Int} {entries : List KeyedProfile}

theorem bind_eq_ok {ε α β : Type} {x : Except ε α} {f : α → Except ε β} {b : β}
    (done : x >>= f = .ok b) : ∃ a, x = .ok a ∧ f a = .ok b := by
  cases x with
  | error => cases done
  | ok a => exact ⟨a, rfl, done⟩

theorem lookup_cons_ite {key other : String} :
    ((other, info) :: entries).lookup key = if key = other then some info
      else entries.lookup key := by
  by_cases same : key = other
  · simp [same]
  · rw [if_neg same, lookup_cons, beq_eq_false_iff_ne.mpr same]

theorem keys_of_readyFor (ready : readyFor profile info = true) : info.status = "ready" ∧
    memoryProfileDedupeKey info = memoryProfileDedupeKey profile ∧
    blockKey info = blockKey profile := by
  obtain ⟨status, name, pid, start, exe⟩ := of_decide_eq_true ready
  simp [memoryProfileDedupeKey, blockKey, processKey, status, name, pid, start, exe]

theorem dedupeKey_ne_blockKey (profile : ContinuousMemoryProfileInfo) :
    memoryProfileDedupeKey profile ≠ blockKey profile := by
  intro same
  have lengths := congrArg String.length same
  have word : "ready".length = 5 := rfl
  unfold memoryProfileDedupeKey blockKey at lengths
  split at lengths
  · rw [String.length_append, String.length_append] at lengths
    omega
  · rw [processKey] at lengths
    simp only [String.length_append] at lengths
    omega

theorem mem_of_firstReady {key : String} (first : firstReady profile entries key = true) :
    ∃ entry ∈ entries, entry.1 = key ∧ readyFor profile entry.2 = true := by
  obtain ⟨info, found, ready⟩ := (Option.any_eq_true ..).mp first
  exact ⟨(key, info), mem_of_lookup found, rfl, ready⟩

theorem keyed_native {profiles : List ContinuousMemoryProfileInfo} {entry : KeyedProfile}
    (mem : entry ∈ nativeKeys profiles) : entry.1 = memoryProfileDedupeKey entry.2 := by
  obtain ⟨info, _, rfl⟩ := mem_map.mp mem
  rfl

/-- So are the profiles of a block: a row keeps the process and can only make a status failed. -/
theorem keyed_addBlockRow (row : PqCPURow)
    (keyed : ∀ entry ∈ entries, entry.2.status = "ready" → entry.1 = blockKey entry.2) :
    ∀ entry ∈ addBlockRow entries row, entry.2.status = "ready" → entry.1 = blockKey entry.2 := by
  intro entry mem ready
  rcases mem_upsert mem with rfl | ⟨old, _⟩
  · by_cases failed : row.profileStatus = "failed"
    · simp [failed] at ready
    · simp only [failed, if_false] at ready ⊢
      cases held : entries.lookup (blockRowKey row) with
      | none =>
        simp only [held, Option.getD_none] at ready ⊢
        rw [blockRowKey, ready]
        rfl
      | some =>
        simp only [held, Option.getD_some] at ready ⊢
        exact keyed _ (mem_of_lookup held) ready
  · exact keyed entry old ready

/-! ## First entries -/

/-- The first entries under each key list the same profiles as ready. -/
def SameFirst (entries others : List KeyedProfile) : Prop :=
  ∀ profile key, (entries.lookup key).map (readyFor profile) =
    (others.lookup key).map (readyFor profile)

theorem SameFirst.append {more rest others : List KeyedProfile}
    (front : SameFirst entries others) (back : SameFirst more rest) :
    SameFirst (entries ++ more) (others ++ rest) := by
  intro profile key
  simp only [lookup_append, Option.map_or, front profile key, back profile key]

theorem SameFirst.firstReady {others : List KeyedProfile}
    (same : SameFirst entries others) (key : String) :
    firstReady profile entries key = MiniDrop.firstReady profile others key := by
  have first (entries : List KeyedProfile) :
      MiniDrop.firstReady profile entries key =
      ((entries.lookup key).map (readyFor profile)).any id := by
    rw [Option.any_map]
    rfl
  rw [first, same profile key, first]

/-- A duplicate is behind the first entry of its key. -/
theorem sameFirst_native (profiles : List ContinuousMemoryProfileInfo) :
    SameFirst (nativeKeys (markSeen [] (nativeKeys profiles)).2) (nativeKeys profiles) := by
  intro profile key
  suffices same : ∀ seen, key ∉ seen →
      (nativeKeys (markSeen seen (nativeKeys profiles)).2).lookup key =
      (nativeKeys profiles).lookup key by
    rw [same [] not_mem_nil]
  induction profiles with
  | nil => exact fun _ _ => rfl
  | cons info rest ih =>
    intro seen unseen
    have marked : memoryProfileDedupeKey { info with status := "duplicate" } =
      memoryProfileDedupeKey info := rfl
    by_cases here : key = memoryProfileDedupeKey info
    · simp [nativeKeys, markSeen, here ▸ unseen, here]
    · by_cases known : memoryProfileDedupeKey info ∈ seen
      · simpa [nativeKeys, markSeen, known, marked, lookup_cons_ite, here] using ih seen unseen
      · have later := ih (memoryProfileDedupeKey info :: seen) (by simp [unseen, here])
        simpa [nativeKeys, markSeen, known, lookup_cons_ite, here] using later

/-- The entry of a key in the table of a block is that of the first row under the key: rows that
have failed are under other keys than those that are ready. -/
theorem sameFirst_addBlockRow (row : PqCPURow) (distinct : (entries.map Prod.fst).Nodup)
    (keyed : ∀ entry ∈ entries, entry.2.status = "ready" → entry.1 = blockKey entry.2) :
    SameFirst (addBlockRow entries row) (entries ++ [(blockRowKey row, blockProfile row)]) := by
  intro profile key
  by_cases own : key = blockRowKey row
  · subst own
    rw [addBlockRow, lookup_upsert_self distinct, lookup_append]
    by_cases failed : row.profileStatus = "failed"
    · have status : (blockProfile row).status = "failed" := by
        rw [blockProfile, failed]
        exact (by decide : firstNonEmpty ["failed", "ready"] = "failed")
      cases held : entries.lookup (blockRowKey row) with
      | none => simp [readyFor, failed, status]
      | some old =>
        have unready : old.status ≠ "ready" := by
          intro ready
          have ends := congrArg (·.toList.getLast?) (keyed _ (mem_of_lookup held) ready)
          simp [blockRowKey, blockKey, status] at ends
        simp [readyFor, failed, unready]
    · cases held : entries.lookup (blockRowKey row) with
      | none | some => simp [readyFor, failed]
  · rw [addBlockRow, lookup_upsert_of_ne own, lookup_concat_of_ne own]

theorem sameFirst_block (rows : List PqCPURow) :
    SameFirst (rows.foldl addBlockRow [])
      (rows.map fun row => (blockRowKey row, blockProfile row)) ∧
      ((rows.foldl addBlockRow []).map Prod.fst).Nodup ∧
      ∀ entry ∈ rows.foldl addBlockRow [], entry.2.status = "ready" →
      entry.1 = blockKey entry.2 := by
  induction rows using reverseRecOn with
  | nil => exact ⟨fun _ _ => rfl, nodup_nil, forall_mem_nil _⟩
  | append_singleton rows row ih =>
    obtain ⟨same, distinct, keyed⟩ := ih
    rw [foldl_append, map_append]
    refine ⟨fun profile key => ?_, upsert_nodup distinct _ _, keyed_addBlockRow row keyed⟩
    rw [foldl_cons, foldl_nil, sameFirst_addBlockRow row distinct keyed profile key]
    exact same.append (fun _ _ => rfl) profile key

/-- The entries of an hour are under their keys, and the first ones are those of its source. -/
theorem hour_source {hour : Int}
    (answered : hourMemoryProfiles catalog filters fromTime toTime hour = .ok (entries, found)) :
    (∀ entry ∈ entries, Keyed entry) ∧
    SameFirst entries (hourSource catalog filters fromTime toTime hour) := by
  have native {start stop : Int} {out : List ContinuousMemoryProfileInfo} {found : Bool}
      (answered : queryNativeMemoryProfiles catalog filters start stop = .ok (out, found)) :
      ∃ profiles, storedMemoryProfiles catalog filters start stop = .ok (profiles, found) ∧
        out = (markSeen [] (nativeKeys profiles)).2 := by
    obtain ⟨⟨profiles, any⟩, stored, done⟩ := bind_eq_ok answered
    cases done
    exact ⟨profiles, stored, rfl⟩
  unfold hourMemoryProfiles at answered
  unfold hourSource
  dsimp only at answered ⊢
  split at answered
  · next empty =>
    cases answered
    rw [if_pos empty]
    exact ⟨forall_mem_nil _, fun _ _ => rfl⟩
  · next proper =>
    rw [if_neg proper]
    obtain ⟨sids, sessions, answered⟩ := bind_eq_ok answered
    obtain ⟨best, block, answered⟩ := bind_eq_ok answered
    rw [sessions, block]
    split at answered
    · obtain ⟨⟨profiles, any⟩, listed, answered⟩ := bind_eq_ok answered
      cases answered
      obtain ⟨profiles, stored, rfl⟩ := native listed
      rw [stored]
      exact ⟨fun entry mem _ => .inl (keyed_native mem), sameFirst_native profiles⟩
    · next rows =>
      cases answered
      obtain ⟨same, -, keyed⟩ := sameFirst_block (rows.filter (memoryRowSelected filters sids _ _))
      exact ⟨fun entry mem ready => .inr (keyed entry mem ready), same⟩
    · split at answered
      · next listed =>
        cases answered
        obtain ⟨profiles, stored, rfl⟩ := native listed
        rw [stored]
        exact ⟨fun entry mem _ => .inl (keyed_native mem), sameFirst_native profiles⟩
      · cases answered

/-! ## What is marked -/

theorem markSeen_append (seen : List String) (front back : List KeyedProfile) :
    markSeen seen (front ++ back) =
      ((markSeen (markSeen seen front).1 back).1, (markSeen seen front).2 ++
        (markSeen (markSeen seen front).1 back).2) := by
  induction front generalizing seen with
  | nil => rfl
  | cons head rest ih =>
    by_cases known : head.1 ∈ seen
    · simp [markSeen, known, ih]
    · simp [markSeen, known, ih]

/-- The entries of a profile that stay ready: one for each key whose first entry is. -/
theorem countP_markSeen (profile : ContinuousMemoryProfileInfo)
    (keyed : ∀ entry ∈ entries, Keyed entry) (seen : List String) :
    (markSeen seen entries).2.countP (readyFor profile) =
      (if memoryProfileDedupeKey profile ∉ seen ∧
        firstReady profile entries (memoryProfileDedupeKey profile) = true then 1 else 0) +
      (if blockKey profile ∉ seen ∧ firstReady profile entries (blockKey profile) = true then 1
        else 0) := by
  have apart := dedupeKey_ne_blockKey profile
  induction entries generalizing seen with
  | nil => simp [markSeen, firstReady]
  | cons head rest ih =>
    obtain ⟨key, info⟩ := head
    have later := ih (forall_mem_cons.mp keyed).2
    have here := keyed (key, info) mem_cons_self
    by_cases known : key ∈ seen
    · have marked : readyFor profile { info with status := "duplicate" } = false := by
        simp [readyFor]
      rw [markSeen, if_pos known]
      simp only [countP_cons, marked, later seen, firstReady, lookup_cons_ite]
      grind
    · rw [markSeen, if_neg known]
      simp only [countP_cons, later (key :: seen), firstReady, lookup_cons_ite]
      by_cases ready : readyFor profile info = true
      · obtain ⟨status, dedupe, block⟩ := keys_of_readyFor ready
        have own := here status
        simp only [dedupe, block] at own
        rcases own with rfl | rfl
        · simp [ready, known, apart.symm, Nat.add_comm]
        · simp [ready, known, apart]
      · grind

/-- The list of a range is made from entries under their keys, the first ones those of the
sources. -/
theorem foldlM_addMemoryHour {hours : List Int}
    {state last : (List String × List ContinuousMemoryProfileInfo) × Bool}
    (answered : hours.foldlM (addMemoryHour catalog filters fromTime toTime) state = .ok last) :
    ∃ listed, SameFirst listed (hours.flatMap (hourSource catalog filters fromTime toTime)) ∧
      (∀ entry ∈ listed, Keyed entry) ∧
      last.1 = ((markSeen state.1.1 listed).1, state.1.2 ++ (markSeen state.1.1 listed).2) := by
  induction hours generalizing state with
  | nil =>
    cases answered
    exact ⟨[], fun _ _ => rfl, forall_mem_nil _, by simp [markSeen]⟩
  | cons hour rest ih =>
    obtain ⟨first, added, answered⟩ := bind_eq_ok answered
    obtain ⟨⟨entries, any⟩, read, done⟩ := bind_eq_ok added
    cases done
    obtain ⟨listed, source, keyed, same⟩ := ih answered
    obtain ⟨keyedHere, sourceHere⟩ := hour_source read
    refine ⟨entries ++ listed, sourceHere.append source,
      forall_mem_append.mpr ⟨keyedHere, keyed⟩, ?_⟩
    rw [same, markSeen_append, append_assoc]

/-- A query lists every profile as ready at most once exactly when none is ready in both sources. -/
theorem ready_once_iff {out : List ContinuousMemoryProfileInfo} {found : Bool}
    (answered : queryMemoryProfilesMixed catalog filters fromTime toTime = .ok (out, found)) :
    (∀ profile, out.countP (readyFor profile) ≤ 1) ↔
    ¬ReadyInBoth catalog filters fromTime toTime := by
  unfold queryMemoryProfilesMixed at answered
  by_cases mode : catalog.queryV2 = true
  · rw [if_neg (by simp [mode])] at answered
    obtain ⟨sids, -, answered⟩ := bind_eq_ok answered
    obtain ⟨last, read, done⟩ := bind_eq_ok answered
    cases done
    obtain ⟨listed, source, keyed, same⟩ := foldlM_addMemoryHour read
    rw [same, nil_append]
    simp only [ReadyInBoth, mode, true_and, not_exists, not_and]
    refine forall_congr' fun profile => ?_
    rw [countP_markSeen profile keyed [], source.firstReady, source.firstReady, rangeSource]
    grind
  · rw [if_pos (by simpa using mode)] at answered
    obtain ⟨⟨profiles, any⟩, -, done⟩ := bind_eq_ok answered
    cases done
    refine ⟨fun _ both => mode both.1, fun _ profile => ?_⟩
    rw [countP_markSeen profile (fun entry mem _ => Or.inl (keyed_native mem)) []]
    have unready : firstReady profile (nativeKeys profiles) (blockKey profile) = false := by
      refine Bool.eq_false_iff.mpr fun held => ?_
      obtain ⟨entry, mem, key, ready⟩ := mem_of_firstReady held
      rw [keyed_native mem, (keys_of_readyFor ready).2.1] at key
      exact dedupeKey_ne_blockKey profile key
    rw [unready]
    split <;> simp

/-- A window that crosses the full hour, with one profile of one process. -/
def crossingWindow : ContinuousWindowIngest where
  windowStart := 10 * Time.hour - Time.minute / 2
  windowEnd := 10 * Time.hour + Time.minute / 2
  signalType := "python_memory"
  profiles :=
    let sample :=
      { stackString := "main", count := 1, pid := 7, processStartMs := 5, exe := "python" }
    [{ signalType := "python_memory", profileID := "p", samples := [sample] }]

/-- The catalog row of that window. -/
def crossingRow : ProfileWindow where
  sessionSID := "s"
  batchBID := "b"
  windowStart := crossingWindow.windowStart
  windowEnd := crossingWindow.windowEnd
  objectKey := "o"
  signalType := "python_memory"

/-- The window, with a block of its rows for some hours. -/
def crossingCatalog (blocks : List Int) : MemoryCatalog where
  sessions := .ok ["s"]
  windows := .ok [crossingRow]
  load _ := some [{ sessionSID := "s", batchID := "b", windows := [crossingWindow] }]
  pqFindBestBlock hour :=
    .ok (if hour ∈ blocks then some (some (cpuRows (fun _ => "") crossingRow crossingWindow))
      else none)

/-- Without blocks the window is read in both hours, and its profile is listed as ready once. -/
theorem crossing_window_once : ∃ out,
    queryMemoryProfilesMixed (crossingCatalog []) [] (9 * Time.hour) (11 * Time.hour) =
      .ok (out, true) ∧ ∀ profile, out.countP (readyFor profile) ≤ 1 := by
  have answered : ∃ out,
      queryMemoryProfilesMixed (crossingCatalog []) [] (9 * Time.hour) (11 * Time.hour) =
      .ok (out, true) := ⟨_, rfl⟩
  obtain ⟨out, answered⟩ := answered
  refine ⟨out, answered, (ready_once_iff answered).mpr ?_⟩
  rintro ⟨_, profile, fromWindow, fromBlock⟩
  have oneKey : ∀ entry ∈ rangeSource (crossingCatalog []) [] (9 * Time.hour) (11 * Time.hour),
      entry.1 = "p|7|5|python" := by decide
  obtain ⟨entry, mem, key, _⟩ := mem_of_firstReady fromWindow
  obtain ⟨other, otherMember, otherKey, _⟩ := mem_of_firstReady fromBlock
  rw [oneKey entry mem] at key
  rw [oneKey other otherMember] at otherKey
  exact dedupeKey_ne_blockKey profile (key.symm.trans otherKey)

/-- With a block for the first hour only, it is listed as ready twice. -/
theorem crossing_window_twice : ∃ out,
    queryMemoryProfilesMixed (crossingCatalog [9 * Time.hour]) [] (9 * Time.hour) (11 * Time.hour) =
      .ok (out, true) ∧ out.countP
        (readyFor { profileID := "p", pid := 7, processStartMs := 5, exe := "python" }) = 2 :=
  ⟨_, rfl, by decide⟩

end MiniDrop
