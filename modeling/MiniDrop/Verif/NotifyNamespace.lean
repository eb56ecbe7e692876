import MiniDrop.Verif.ArtifactRows
/-!
# The namespace of a notification

The keys of a request are checked with the blanks around them cut off. What passes is under the name
of the task, or a key of version 2 for one of its attempts. The transaction writes the trimmed keys
to new rows, but the manifest key as it was sent to the row of the object, and in the old layout it
takes any number for the attempt.
-/
namespace MiniDrop

open List TaskStore

/-! ## Keys -/

variable {key tid name cosKey manifestKey : String} {attemptID : Nat} {body req : NotifyReq}
  {s : TaskStore} {layoutV2 : Bool}

theorem splitSlash_join {parts : List String} (split : splitSlash key = parts) :
    key = String.ofList (['/'].intercalate (parts.map String.toList)) := by
  have pieces : parts.map String.toList = key.toList.splitOn '/' := by
    rw [← split, splitSlash, map_map]
    have same : String.toList ∘ String.ofList = id := funext fun _ => String.toList_ofList
    rw [same, map_id]
  rw [pieces, intercalate_splitOn, String.ofList_toList]

theorem parseV2AgentRawKey_eq (parsed : parseV2AgentRawKey key = some (tid, attemptID, name)) :
    attemptID ≠ 0 ∧ ∃ text, parseUint text = some attemptID ∧
      key = "tasks/" ++ tid ++ "/attempts/" ++ text ++ "/raw/" ++ name := by
  unfold parseV2AgentRawKey at parsed
  split at parsed
  · next tasks owner attempts attempt raw base split =>
    obtain ⟨words, -, parsed⟩ := by simpa only [Option.ite_none_left_eq_some] using parsed
    split at parsed
    · cases parsed
    · next number named =>
      obtain ⟨-, same⟩ := Option.ite_none_right_eq_some.mp parsed
      cases same
      simp only [not_or, not_not] at words
      obtain ⟨rfl, rfl, rfl⟩ := words
      obtain ⟨number, positive⟩ := Option.filter_eq_some_iff.mp named
      refine ⟨of_decide_eq_true positive, attempt, number, ?_⟩
      rw [splitSlash_join split]
      apply String.toList_injective
      simp [intercalate]
  · cases parsed

theorem parseV2AgentManifestKey_eq (parsed : parseV2AgentManifestKey key = some (tid, attemptID)) :
    ∃ text, parseUint text = some attemptID ∧
      key = "tasks/" ++ tid ++ "/attempts/" ++ text ++ "/manifest.json" := by
  unfold parseV2AgentManifestKey at parsed
  split at parsed
  · next tasks owner attempts attempt name split =>
    split at parsed
    · cases parsed
    · next words =>
      obtain ⟨number, named, same⟩ := Option.map_eq_some_iff.mp parsed
      cases same
      simp only [not_or, not_not] at words
      obtain ⟨rfl, rfl, rfl⟩ := words
      refine ⟨attempt, (Option.filter_eq_some_iff.mp named).1, ?_⟩
      rw [splitSlash_join split]
      apply String.toList_injective
      simp [intercalate]
  · cases parsed

namespace TaskStore

variable {s : TaskStore}

/-- The key is one of the task: under its name, or one of version 2 for one of its attempts. -/
def InNamespace (s : TaskStore) (tid key : String) : Prop :=
  hasPrefix key (tid ++ "/") = true ∨
    ∃ text attemptID, parseUint text = some attemptID ∧ s.hasAttempt tid attemptID = true ∧
      ((∃ name, key = "tasks/" ++ tid ++ "/attempts/" ++ text ++ "/raw/" ++ name) ∨
        key = "tasks/" ++ tid ++ "/attempts/" ++ text ++ "/manifest.json")

/-- The number is that of no attempt, or of one of the task. -/
def OwnAttempt (s : TaskStore) (tid : String) (attemptID : Nat) : Prop :=
  attemptID = 0 ∨ s.hasAttempt tid attemptID = true

theorem not_inNamespace_empty (s : TaskStore) (tid : String) : ¬s.InNamespace tid "" := by
  rintro (starts | ⟨text, attemptID, -, -, ⟨name, same⟩ | same⟩)
  · unfold hasPrefix at starts
    rw [String.toList_append] at starts
    cases listed : tid.toList with
    | nil =>
      rw [listed] at starts
      exact absurd starts (by decide)
    | cons =>
      exact absurd starts (by simp)
  all_goals simp at same

end TaskStore

/-! ## Requests that pass their checks -/

theorem ite_error_eq_ok {ε α : Type} {c : Prop} [Decidable c] {e : ε} {x : Except ε α} {r : α} :
    (if c then .error e else x) = .ok r ↔ ¬c ∧ x = .ok r := by
  by_cases holds : c <;> simp [holds]

/-- A key of version 2 that passes the checks names the task and an attempt, and the manifest the
same. -/
theorem validateV2Keys_ok (ok : validateV2Keys body cosKey manifestKey = .ok req) :
    ∃ attemptID name, req = { body with attemptID } ∧
      parseV2AgentRawKey cosKey = some (body.taskID, attemptID, name) ∧
      (body.attemptID = 0 ∨ body.attemptID = attemptID) ∧
      (manifestKey ≠ "" → parseV2AgentManifestKey manifestKey = some (body.taskID, attemptID)) := by
  unfold validateV2Keys at ok
  split at ok
  · cases ok
  · next tid attemptID name parsed =>
    simp only [ite_error_eq_ok, Except.ok.injEq] at ok
    obtain ⟨owner, -, agrees, -, listed, rfl⟩ := ok
    refine ⟨attemptID, name, rfl, ?_, ?_, ?_⟩
    · rw [parsed, not_not.mp owner]
    · by_contra differs
      exact agrees (not_or.mp differs)
    · intro present
      by_contra differs
      exact listed ⟨present, differs⟩

/-- A key of the old layout that passes the checks is under the name of the task, and the manifest
as well. -/
theorem validateOldKeys_ok (ok : validateOldKeys body cosKey manifestKey = .ok req) :
    req = body ∧ hasPrefix cosKey (body.taskID ++ "/") = true ∧
      (manifestKey ≠ "" → hasPrefix manifestKey (body.taskID ++ "/") = true) := by
  unfold validateOldKeys at ok
  simp only [ite_error_eq_ok, Except.ok.injEq] at ok
  obtain ⟨starts, -, listed, rfl⟩ := ok
  refine ⟨rfl, Bool.eq_true_of_not_eq_false starts, fun present => ?_⟩
  apply Bool.eq_true_of_not_eq_false
  intro outside
  exact listed ⟨present, outside⟩

/-- What is known of a request that is admitted. -/
structure Admitted (s : TaskStore) (body req : NotifyReq) (task : HotmethodTask) : Prop where
  task : task.tid = body.taskID
  sent : req = { body with attemptID := req.attemptID }
  old : isV2AgentKey (trimSpace body.cosKey) = false → req = body
  new : isV2AgentKey (trimSpace body.cosKey) = true →
    s.hasAttempt body.taskID req.attemptID = true ∧ req.attemptID ≠ 0 ∧
      (body.attemptID = 0 ∨ body.attemptID = req.attemptID)
  raw : trimSpace body.cosKey ≠ "" → s.InNamespace body.taskID (trimSpace body.cosKey)
  manifest : trimSpace body.cosKey ≠ "" → trimSpace body.manifestKey ≠ "" →
    s.InNamespace body.taskID (trimSpace body.manifestKey)
  success : body.isError = false → trimSpace body.cosKey ≠ ""

theorem admitNotification_ok {task : HotmethodTask}
    (ok : s.admitNotification layoutV2 body = .ok (task, req)) : Admitted s body req task := by
  obtain ⟨-, ok⟩ := ite_error_eq_ok.mp ok
  split at ok
  · cases ok
  · next row found =>
    split at ok
    · cases ok
    · next checked valid =>
      simp only [ite_error_eq_ok, Except.ok.injEq, Prod.mk.injEq] at ok
      obtain ⟨owned, present, rfl, rfl⟩ := ok
      have tid := findTask_tid found
      obtain ⟨-, valid⟩ := ite_error_eq_ok.mp valid
      split at valid
      · next blank =>
        cases valid
        refine ⟨tid, rfl, fun _ => rfl, fun version => ?_, fun solid => absurd blank solid,
          fun solid => absurd blank solid, fun success => ?_⟩
        · rw [blank] at version
          exact absurd version (by decide)
        · exact absurd ⟨success, blank⟩ present
      · next solid =>
        split at valid
        · next version =>
          split at valid
          · obtain ⟨attemptID, name, rfl, parsed, agrees, listed⟩ := validateV2Keys_ok valid
            have own : s.hasAttempt body.taskID attemptID = true := by
              by_contra foreign
              exact owned ⟨version, by rw [tid]; exact Bool.eq_false_of_not_eq_true foreign⟩
            obtain ⟨positive, text, number, written⟩ := parseV2AgentRawKey_eq parsed
            refine ⟨tid, rfl, fun old => ?_, fun _ => ⟨own, positive, agrees⟩,
              fun _ => .inr ⟨text, attemptID, number, own, .inl ⟨name, written⟩⟩,
              fun _ manifest => ?_, fun _ => solid⟩
            · rw [version] at old
              cases old
            · obtain ⟨text, number, written⟩ := parseV2AgentManifestKey_eq (listed manifest)
              exact .inr ⟨text, attemptID, number, own, .inr written⟩
          · cases valid
        · next version =>
          obtain ⟨rfl, starts, listed⟩ := validateOldKeys_ok valid
          exact ⟨tid, rfl, fun _ => rfl, fun new => absurd new version, fun _ => .inl starts,
            fun _ manifest => .inl (listed manifest), fun _ => solid⟩

theorem admitNotification_error
    {answer : NotifyAnswer} (refused : s.admitNotification layoutV2 body = .error answer) :
    answer.code = 400 ∨ answer.code = 404 := by
  unfold admitNotification at refused
  split at refused
  · cases refused
    exact .inl rfl
  · split at refused
    · cases refused
      exact .inr rfl
    · split at refused
      · cases refused
        exact .inl rfl
      · split at refused
        · cases refused
          exact .inl rfl
        · split at refused
          · cases refused
            exact .inl rfl
          · cases refused

/-! ## What a success notification writes -/

namespace ArtifactStore

variable {s t : ArtifactStore} {tid : String} {req : NotifyReq}

/-- The new rows get an attempt of the task, by the number that was sent or because the row is found
again and an attempt is open; and so does the row of an object that is sent once more. -/
def WritesOwn (s : ArtifactStore) (tid : String) (req : NotifyReq) : Prop :=
  (s.findArtifact tid .raw (trimSpace req.cosKey) = none →
    s.OwnAttempt tid req.attemptID ∨ trimSpace req.cosKey = req.cosKey ∧
      (s.chosenID (req.ending tid)).isSome = true) ∧
  (trimSpace req.manifestKey ≠ "" →
    s.findArtifact tid .manifest (trimSpace req.manifestKey) = none →
    s.OwnAttempt tid req.attemptID) ∧
  ∀ row, s.findLive tid .raw req.cosKey = some row →
    (s.chosenID (req.ending tid)).isSome = true ∨
      s.OwnAttempt tid row.attemptID

/-- A manifest key of blanks is not sent along with an object whose row is found. -/
def BlankUnwritten (s : ArtifactStore) (tid : String) (req : NotifyReq) : Prop :=
  req.manifestKey ≠ "" → trimSpace req.manifestKey = "" →
    s.findLive tid .raw req.cosKey = none ∧
      ¬(trimSpace req.cosKey = req.cosKey ∧ s.findArtifact tid .raw (trimSpace req.cosKey) = none)

section Written

variable {now : Int} (keyed : s.ArtifactIDs)
  (listed : t.artifacts = s.artifacts ++ s.newRaw req tid now ++ s.newManifest req tid now)
  (kept : s.toTaskStore.SameAttempts t.toTaskStore)

include keyed listed kept

/-- **The rows that are written carry an attempt of the task** exactly if the new rows get one, and
so does the row that is updated. -/
theorem written_iff :
    (∀ row ∈ (t.registerUpload req tid now).artifacts,
        (s.nextArtifactID ≤ row.id ∨ (t.findLive tid .raw req.cosKey).map (·.id) = some row.id) →
        row.taskTID = tid ∧ s.OwnAttempt tid row.attemptID) ↔ s.WritesOwn tid req := by
  unfold WritesOwn
  have same : t.chosenID (req.ending tid) =
      s.chosenID (req.ending tid) := by
    unfold chosenID hasAttempt latestOpenID
    rw [kept.attempts]
  rw [registerUpload_artifacts, same]
  have own : ∀ id, s.chosenID (req.ending tid) = some id →
      s.OwnAttempt tid id := fun id chosen => .inr (hasAttempt_of_chosenID chosen)
  generalize s.chosenID (req.ending tid) = chosen at own
  have update (id : Nat) (hit : (t.findLive tid .raw req.cosKey).map (·.id) = some id) :=
    updated_cases keyed listed hit
  have finds := findLive_listed listed
  have settles (number : Nat) : s.OwnAttempt tid (chosen.getD number) ↔
      chosen.isSome = true ∨ s.OwnAttempt tid number := by
    cases chosen with
    | none => exact (or_iff_right nofun).symm
    | some id => exact iff_of_true (own id rfl) (.inl rfl)
  simp only [forall_mem_map, settled_id, settled_taskTID, settled_attemptID]
  rw [listed, forall_mem_append, forall_mem_append]
  refine (and_assoc.trans (and_comm.trans and_assoc)).trans (and_congr ?_ (and_congr ?_ ?_))
  · rcases newRaw_cases s req tid now with ⟨there, empty⟩ | ⟨absent, single⟩
    · rw [empty]
      exact iff_of_true (forall_mem_nil _) fun absent => absurd absent there
    · have hit : (t.findLive tid .raw req.cosKey).map (·.id) = some s.nextArtifactID ↔
          trimSpace req.cosKey = req.cosKey := by
        constructor
        · intro hit
          rcases update _ hit with ⟨_, _, _, below⟩ | ⟨_, plain, _⟩
          · exact absurd below (lt_irrefl _)
          · exact plain
        · intro plain
          rw [finds, findLive_of_absent (plain ▸ absent), Option.none_or, if_pos plain, single]
          rfl
      have written : s.OwnAttempt tid
          (if (t.findLive tid .raw req.cosKey).map (·.id) = some s.nextArtifactID then
            chosen.getD req.attemptID else req.attemptID) ↔
          s.OwnAttempt tid req.attemptID ∨ trimSpace req.cosKey = req.cosKey ∧
              chosen.isSome = true := by
        by_cases plain : trimSpace req.cosKey = req.cosKey
        · rw [if_pos (hit.mpr plain), settles, and_iff_right plain, or_comm]
        · rw [if_neg fun found => plain (hit.mp found), or_iff_left fun both => plain both.1]
      rw [single, forall_mem_singleton]
      exact ⟨fun good _ => written.mp (good (.inl (le_refl _))).2,
        fun good _ => ⟨rfl, written.mpr (good absent)⟩⟩
  · unfold newManifest
    split
    · next old =>
      refine iff_of_true (forall_mem_nil _) fun solid absent => ?_
      rw [absent] at old
      exact absurd (old.resolve_right nofun) solid
    · next fresh =>
      rw [forall_mem_singleton, if_neg]
      · refine ⟨fun good _ _ => (good (.inl (Nat.le_add_right _ _))).2, fun good _ => ⟨rfl, ?_⟩⟩
        exact good (fun blank => fresh (.inl blank))
          (Option.not_isSome_iff_eq_none.mp fun there => fresh (.inr there))
      · intro hit
        rcases update _ hit with ⟨_, _, _, below⟩ | ⟨_, _, missing, number⟩
        · dsimp only at below
          omega
        · rcases newRaw_cases s req tid now with ⟨there, -⟩ | ⟨-, single⟩
          · exact there missing
          · rw [single] at number
            simp at number
  · constructor
    · intro good row found
      have hit : (t.findLive tid .raw req.cosKey).map (·.id) = some row.id := by
        rw [finds, found]
        rfl
      have known := (good row (named_of_findLive found).1 (.inr hit)).2
      rw [if_pos hit] at known
      exact (settles _).mp known
    · -- A row that was there is written only if it is the row of the object.
      intro good row stored counts
      have below := keyed.below row stored
      have hit := counts.resolve_left (by omega)
      rcases update _ hit with ⟨found, finding, sameID, _⟩ | ⟨_, _, _, number⟩
      · have named := named_of_findLive finding
        obtain rfl : found = row := inj_on_of_nodup_map keyed.distinct named.1 stored sameID
        rw [if_pos hit]
        exact ⟨named.2.1, (settles _).mpr (good found finding)⟩
      · omega

end Written

variable {now : Int} {body : NotifyReq} {task : HotmethodTask}

/-- The keys that are written: those of the new rows, and the manifest of the row of the object. -/
theorem keys_iff (keyed : s.ArtifactIDs)
    (listed : t.artifacts = s.artifacts ++ s.newRaw req tid now ++ s.newManifest req tid now)
    (raw : s.InNamespace tid (trimSpace req.cosKey))
    (manifest : trimSpace req.manifestKey ≠ "" → s.InNamespace tid (trimSpace req.manifestKey)) :
    (∀ key ∈ (t.artifacts.filter (s.nextArtifactID ≤ ·.id)).map (·.objectKey) ++
          (if ((t.findLive tid .raw req.cosKey).map (·.id)).isSome ∧ req.manifestKey ≠ "" then
            [req.manifestKey] else []),
        s.InNamespace tid (trimSpace key)) ↔ s.BlankUnwritten tid req := by
  constructor
  · intro good present blank
    -- A manifest key of blanks is written if a row is updated, and it is no key of the task.
    have none : (t.findLive tid .raw req.cosKey).map (·.id) = none := by
      by_contra some
      have written := good req.manifestKey (mem_append_right _ (by
        rw [if_pos ⟨Option.isSome_iff_ne_none.mpr some, present⟩]
        exact mem_singleton_self _))
      rw [blank] at written
      exact not_inNamespace_empty s.toTaskStore tid written
    have unfound : t.findLive tid .raw req.cosKey = Option.none := Option.map_eq_none_iff.mp none
    rw [findLive_listed listed, Option.or_eq_none_iff] at unfound
    refine ⟨unfound.1, fun ⟨plain, absent⟩ => ?_⟩
    rcases newRaw_cases s req tid now with ⟨there, -⟩ | ⟨-, single⟩
    · exact there absent
    · have last := unfound.2
      rw [if_pos plain, single] at last
      cases last
  · intro good key mem
    rcases mem_append.mp mem with new | sent
    · obtain ⟨row, picked, rfl⟩ := mem_map.mp new
      obtain ⟨stored, above⟩ := mem_filter.mp picked
      rw [listed, append_assoc] at stored
      rcases mem_append.mp stored with before | added
      · have below := keyed.below row before
        have above := of_decide_eq_true above
        omega
      · rcases mem_append.mp added with rawNew | manifestNew
        · obtain ⟨-, rfl⟩ := mem_addedRow.mp rawNew
          show s.InNamespace tid (trimSpace (trimSpace req.cosKey))
          rw [trimSpace_idem]
          exact raw
        · obtain ⟨⟨named, -⟩, rfl⟩ := mem_newManifest.mp manifestNew
          show s.InNamespace tid (trimSpace (trimSpace req.manifestKey))
          rw [trimSpace_idem]
          exact manifest named
    · split at sent
      · next updated =>
        rw [mem_singleton.mp sent]
        apply manifest
        intro blank
        obtain ⟨unfound, unmatched⟩ := good updated.2 blank
        obtain ⟨id, hit⟩ := Option.isSome_iff_exists.mp updated.1
        rcases updated_cases keyed listed hit with ⟨row, found, _, _⟩ | ⟨_, plain, absent, _⟩
        · rw [unfound] at found
          cases found
        · exact unmatched ⟨plain, absent⟩
      · cases sent

/-! ## The namespace -/

/-- Everything that was written or deleted is the task's own: the keys, and the attempts of the
rows. -/
structure NotifyResult.StaysIn (result : NotifyResult) (s : TaskStore) (tid : String) : Prop where
  keys : ∀ key ∈ result.keys, s.InNamespace tid (trimSpace key)
  removed : ∀ key ∈ result.removed, s.InNamespace tid (trimSpace key)
  rows : ∀ row ∈ result.written, row.taskTID = tid ∧ s.OwnAttempt tid row.attemptID

/-- When a success notification writes nothing that is not the task's own: a new row gets an attempt
of the task, by the number that was sent or because the row is found again and an attempt is open;
so does the row of an object that is sent once more; and a manifest key of blanks is not sent along
with an object whose row is found. -/
structure KeepsNamespace (s : ArtifactStore) (body : NotifyReq) : Prop where
  raw : s.findArtifact body.taskID .raw (trimSpace body.cosKey) = none →
    s.OwnAttempt body.taskID body.attemptID ∨
      trimSpace body.cosKey = body.cosKey ∧ s.hasOpenAttempt body.taskID = true
  manifest : trimSpace body.manifestKey ≠ "" →
    s.findArtifact body.taskID .manifest (trimSpace body.manifestKey) = none →
    s.OwnAttempt body.taskID body.attemptID
  updated : ∀ row, s.findLive body.taskID .raw body.cosKey = some row →
    isV2AgentKey (trimSpace body.cosKey) = true ∨
      (body.attemptID ≠ 0 ∧ s.hasAttempt body.taskID body.attemptID = true) ∨
      s.hasOpenAttempt body.taskID = true ∨ s.OwnAttempt body.taskID row.attemptID
  blank : body.manifestKey ≠ "" → trimSpace body.manifestKey = "" →
    s.findLive body.taskID .raw body.cosKey = none ∧
      ¬(trimSpace body.cosKey = body.cosKey ∧
        s.findArtifact body.taskID .raw (trimSpace body.cosKey) = none)

/-- The condition in terms of the request as it was sent, and as it is used. -/
theorem keepsNamespace_iff (admitted : Admitted s.toTaskStore body req task) :
    s.KeepsNamespace body ↔ s.WritesOwn body.taskID req ∧ s.BlankUnwritten body.taskID req := by
  rw [admitted.sent]
  unfold WritesOwn BlankUnwritten
  have chosen := chosenID_isSome (s := s.toTaskStore)
    { tid := body.taskID, attemptID := req.attemptID, keys := [body.cosKey] }
  rw [chosen]
  cases version : isV2AgentKey (trimSpace body.cosKey) with
  | true =>
    obtain ⟨has, positive, agrees⟩ := admitted.new version
    have own : s.OwnAttempt body.taskID req.attemptID := .inr has
    have ownBody : s.OwnAttempt body.taskID body.attemptID :=
      agrees.imp id fun same => by rw [same]; exact has
    constructor
    · intro keeps
      exact ⟨⟨fun _ => .inl own, fun _ _ => own, fun _ _ => .inl (.inl ⟨positive, has⟩)⟩,
        keeps.blank⟩
    · intro known
      exact ⟨fun _ => .inl ownBody, fun _ _ => ownBody, fun _ _ => .inl version, known.2⟩
  | false =>
    rw [admitted.old version]
    constructor
    · intro keeps
      refine ⟨⟨fun absent => ?_, keeps.manifest, fun row found => ?_⟩, keeps.blank⟩
      · exact (keeps.raw absent).imp id fun both => ⟨both.1, .inr both.2⟩
      · rcases keeps.updated row found with new | own | unended | old
        · rw [version] at new
          cases new
        · exact .inl (.inl own)
        · exact .inl (.inr unended)
        · exact .inr old
    · rintro ⟨⟨raw, manifest, updated⟩, blank⟩
      refine ⟨fun absent => ?_, manifest, fun row found => ?_, blank⟩
      · rcases raw absent with own | ⟨plain, named | unended⟩
        · exact .inl own
        · exact .inl (.inr named.2)
        · exact .inr ⟨plain, unended⟩
      · rcases updated row found with (own | unended) | old
        · exact .inr (.inl own)
        · exact .inr (.inr (.inl unended))
        · exact .inr (.inr (.inr old))

theorem lateKeys_inNamespace
    (admitted : Admitted s.toTaskStore body req task) (success : body.isError = false) :
    ∀ key ∈ lateKeys req, s.InNamespace body.taskID (trimSpace key) := by
  intro key mem
  obtain ⟨sent, solid⟩ := mem_filter.mp mem
  have solid := of_decide_eq_true solid
  have present := admitted.success success
  rw [admitted.sent] at sent
  rcases mem_cons.mp sent with rfl | last
  · exact admitted.raw present
  · rw [mem_singleton.mp last] at solid ⊢
    exact admitted.manifest present solid

/-- **A success notification that is answered writes nothing foreign** exactly if it keeps the
namespace, or it comes too late and writes nothing at all. -/
theorem notifySuccess_staysIn {cfg : NotifyConfig} (keyed : s.ArtifactIDs)
    (admitted : Admitted s.toTaskStore body req task) (success : body.isError = false)
    (answered : (s.notifySuccess cfg req task now).answer.code ≠ 500) :
    (s.notifySuccess cfg req task now).StaysIn s.toTaskStore body.taskID ↔
      s.tombstoned body.taskID (testedKeys body) = true ∨ s.KeepsNamespace body := by
  have tid := admitted.task
  have cosKey : body.cosKey = req.cosKey := by rw [admitted.sent]
  have manifestKey : body.manifestKey = req.manifestKey := by rw [admitted.sent]
  have tested : testedKeys req = testedKeys body := by rw [admitted.sent]; rfl
  unfold notifySuccess at answered ⊢
  rw [tested, tid] at answered ⊢
  by_cases late : s.tombstoned body.taskID (testedKeys body) = true
  · rw [if_pos late]
    refine ⟨fun _ => .inl late, fun _ => ⟨?_, ?_, ?_⟩⟩
    · exact forall_mem_nil _
    · intro key mem
      split at mem
      · exact lateKeys_inNamespace admitted success key mem
      · cases mem
    · exact forall_mem_nil _
  · rw [if_neg late] at answered ⊢
    dsimp only at answered ⊢
    rw [or_iff_right late, keepsNamespace_iff admitted]
    split at answered
    · exact absurd rfl answered
    · next listed listing =>
      obtain ⟨artifacts, kept⟩ := listNotification_artifacts listing
      rw [tid] at artifacts
      have rows := written_iff keyed artifacts kept
      have present := admitted.success success
      have names := keys_iff keyed artifacts (cosKey ▸ admitted.raw present)
        (manifestKey ▸ admitted.manifest present)
      constructor
      · intro stays
        refine ⟨rows.mp fun row mem counts => ?_, names.mp stays.keys⟩
        exact stays.rows row (mem_filter.mpr ⟨mem, decide_eq_true counts⟩)
      · rintro ⟨rowsGood, namesGood⟩
        refine ⟨names.mpr namesGood, forall_mem_nil _, ?_⟩
        intro row mem
        obtain ⟨stored, counts⟩ := mem_filter.mp mem
        exact rows.mpr rowsGood row stored (of_decide_eq_true counts)

/-- **What an answered notification writes or deletes is the task's own** exactly if the
notification reports an error, comes too late for one of its keys, or keeps the namespace. -/
theorem notification_stays_in_namespace (cfg : NotifyConfig) (s : ArtifactStore)
    (keyed : s.ArtifactIDs) (body : NotifyReq) (now : Int)
    (answered : (s.notifyTaskResult cfg body now).answer.code = 0 ∨
      (s.notifyTaskResult cfg body now).answer.code = 409) :
    (s.notifyTaskResult cfg body now).StaysIn s.toTaskStore body.taskID ↔
      body.isError = true ∨ s.tombstoned body.taskID (testedKeys body) = true ∨
        s.KeepsNamespace body := by
  unfold notifyTaskResult at answered ⊢
  cases admission : s.admitNotification cfg.layoutV2 body with
  | error =>
    rw [admission] at answered
    have refused := admitNotification_error admission
    dsimp only at answered
    omega
  | ok passed =>
    obtain ⟨task, req⟩ := passed
    rw [admission] at answered
    dsimp only at answered ⊢
    have admitted := admitNotification_ok admission
    have kind : req.isError = body.isError := by
      rw [admitted.sent]
      rfl
    rw [kind] at answered ⊢
    cases failed : body.isError with
    | true =>
      refine ⟨fun _ => .inl rfl, fun _ => ⟨?_, ?_, ?_⟩⟩
      all_goals exact forall_mem_nil _
    | false =>
      rw [failed] at answered
      rw [or_iff_right nofun]
      apply notifySuccess_staysIn keyed admitted failed
      intro code
      rcases answered with zero | late
      · exact absurd (zero.symm.trans code) (by decide)
      · exact absurd (late.symm.trans code) (by decide)

/-- A task whose first attempt is under way. -/
def underway : ArtifactStore :=
  { tasks := [{ tid := "t", status := .running, statusInfo := "running", createTime := 0 }]
    attempts := [{ id := 1, taskTID := "t", attemptSeq := 1, trigger := .initial, agentIP := "a"
                   beginTime := 0 }]
    nextAttemptID := 2 }

/-- The attempt has uploaded its object and a manifest, without a number. -/
def uploaded : NotifyReq :=
  { taskID := "t", cosKey := "t/perf.data", manifestKey := "t/manifest.json" }

/-- What it writes is its own. -/
theorem upload_stays_in_namespace :
    (underway.notifyTaskResult {} uploaded 10).answer.code = 0 ∧
      (underway.notifyTaskResult {} uploaded 10).written.length = 2 ∧
      (underway.notifyTaskResult {} uploaded 10).StaysIn underway.toTaskStore "t" := by
  have code : (underway.notifyTaskResult {} uploaded 10).answer.code = 0 := by decide
  refine ⟨code, by decide, ?_⟩
  have keyed : underway.ArtifactIDs := ⟨nodup_nil, forall_mem_nil _⟩
  apply (notification_stays_in_namespace {} underway keyed uploaded 10 (.inl code)).mpr
  refine .inr (.inr ⟨fun _ => .inl (.inl rfl), fun _ _ => .inl rfl, ?_, ?_⟩)
  · intro row found
    exact absurd (named_of_findLive found).1 not_mem_nil
  · intro _ blank
    exact absurd blank (by decide)

/-- A number that is no attempt of the task is written to the row of the manifest, and a manifest
key of blanks to the row of the object. -/
theorem notification_writes_foreign :
    let foreign := underway.notifyTaskResult {} { uploaded with attemptID := 7 } 10
    let blank := underway.notifyTaskResult {} { uploaded with manifestKey := "  " } 10
    foreign.answer.code = 0 ∧ blank.answer.code = 0 ∧
      underway.hasAttempt "t" 7 = false ∧ foreign.written.map (·.attemptID) = [1, 7] ∧
      blank.written.map (·.manifestKey) = ["  "] ∧
      ¬foreign.StaysIn underway.toTaskStore "t" ∧ ¬blank.StaysIn underway.toTaskStore "t" := by
  intro foreign blank
  have attempts : foreign.written.map (·.attemptID) = [1, 7] := by decide
  have keys : "  " ∈ blank.keys := by decide
  refine ⟨by decide, by decide, by decide, attempts, by decide, ?_, ?_⟩
  · intro stays
    have listed : 7 ∈ foreign.written.map (·.attemptID) := by
      rw [attempts]
      decide
    obtain ⟨row, mem, number⟩ := mem_map.mp listed
    have own := (stays.rows row mem).2
    rw [number] at own
    exact absurd own (by unfold OwnAttempt; decide)
  · intro stays
    have own := stays.keys _ keys
    have empty : trimSpace "  " = "" := by decide
    rw [empty] at own
    exact not_inNamespace_empty _ _ own

end ArtifactStore

end MiniDrop
