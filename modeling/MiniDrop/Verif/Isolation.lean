import MiniDrop.Agent.Projection
import MiniDrop.Base.Delimited
import MiniDrop.Base.Tables
/-!
# What a session learns of other processes

Two physical windows that agree on the processes of a session give it the same samples, profiles,
metrics and histograms. Its symbol references tell more: the reason why a runtime has no map is
shared by all processes of the runtime, the count of captures that were left out is one of the host,
the flag that a runtime needs is there only if anything was sampled, and an entry on a file of
another process is kept if its build id is one of the session.
-/
namespace MiniDrop.Agent

open Base SessionContract PhysicalDiagnostics List

/-! ## The report of build ids -/

section Report

/-- A text without carriage returns, which `json_escape` drops. -/
def shownText (text : String) : List Char := text.toList.filter (· ≠ '\r')

/-- The same of a text that is left out if it is empty. -/
def shownText? (text : String) : Option (List Char) :=
  if text = "" then none else some (shownText text)

/-- What the report shows of an entry. -/
def BuildIdWarmEntry.shown (entry : BuildIdWarmEntry) :
    List Char × List Char × List Char × Option (List Char) × Option (List Char) :=
  (shownText entry.dsoPath, shownText entry.buildId, shownText entry.status,
    shownText? entry.resolvedPath, shownText? entry.reason)

/-- A character as it stands in quotes. -/
def escaped (c : Char) : List Char :=
  if c = '"' then ['\\', '"'] else if c = '\\' then ['\\', '\\'] else if c = '\n' then ['\\', 'n']
    else [c]

/-- A text in quotes. -/
def quoted (text : List Char) : List Char := '"' :: (text.flatMap escaped ++ ['"'])

/-- A member that may be missing. -/
def quoted? (name : String) (text : Option (List Char)) : List Char :=
  text.elim [] fun text => name.toList ++ quoted text

/-- The text of what is shown, after a comma. -/
def shownEntry : List Char × List Char × List Char × Option (List Char) × Option (List Char) →
    List Char
  | (dso, id, status, path, reason) => ',' :: ("\x7b\"dso\":".toList ++ (quoted dso ++
      (",\"build_id\":".toList ++ (quoted id ++ (",\"status\":".toList ++ (quoted status ++
        (quoted? ",\"resolved_path\":" path ++
        (quoted? ",\"reason\":" reason ++ "\x7d".toList))))))))

theorem jsonText_toList (text : String) : (jsonText text).toList = quoted (shownText text) := by
  have escapes : (jsonEscape text).toList = (shownText text).flatMap escaped := by
    rw [jsonEscape, String.toList_ofList, shownText]
    induction text.toList with
    | nil => rfl
    | cons c rest ih =>
      rw [flatMap_cons, ih, filter_cons]
      by_cases dropped : c = '\r'
      · subst dropped
        rfl
      · rw [if_pos (decide_eq_true dropped), flatMap_cons, escaped, if_neg dropped]
  rw [jsonText, String.toList_append, String.toList_append, escapes]
  rfl

theorem BuildIdWarmEntry.json_toList (entry : BuildIdWarmEntry) :
    ',' :: entry.json.toList = shownEntry entry.shown := by
  have optional (name text : String) :
      (if text = "" then "" else name ++ jsonText text).toList =
      quoted? name (shownText? text) := by
    unfold shownText?
    split
    · rfl
    · rw [String.toList_append, jsonText_toList]
      rfl
  simp only [BuildIdWarmEntry.json, String.toList_append, optional, jsonText_toList, append_assoc,
    shownEntry, shown]

/-- A text ends at its closing quote. -/
theorem delimits_quoted : Delimits (fun _ => True) quoted := by
  have item : Delimits (fun _ => True) escaped := by
    intro c d _ _ rest other same
    unfold escaped at same
    split_ifs at same <;> grind
  intro x y _ _ rest other same
  simp only [quoted, cons_append, append_assoc, cons.injEq, true_and] at same
  have cut := item.flatMap_until (fun text => text.head? = some '"')
    (fun c rest _ starts => by unfold escaped at starts; split_ifs at starts <;> simp_all)
    (fun _ _ => trivial) (fun _ _ => trivial) rfl rfl same
  exact ⟨cut.1, (cons.inj cut.2).2⟩

/-- A member is there or missing, if what follows does not start as it does. -/
theorem quoted?_cut {name : String} {x y : Option (List Char)} {rest other : List Char}
    (first : ∀ text, name.toList ++ text ≠ rest) (second : ∀ text, name.toList ++ text ≠ other)
    (same : quoted? name x ++ rest = quoted? name y ++ other) : x = y ∧ rest = other := by
  cases x with
  | none =>
    cases y with
    | none => exact ⟨rfl, same⟩
    | some y => exact absurd ((append_assoc ..).symm.trans same.symm) (first _)
  | some x =>
    cases y with
    | none => exact absurd ((append_assoc ..).symm.trans same) (second _)
    | some y =>
      simp only [quoted?, Option.elim_some, append_assoc, append_cancel_left_eq] at same
      have cut := delimits_quoted x y trivial trivial _ _ same
      exact ⟨by rw [cut.1], cut.2⟩

/-- Texts that differ at their start. -/
theorem append_ne_append {α : Type} {first second : List α} (n : Nat) (long : n ≤ first.length)
    (other : n ≤ second.length) (differ : first.take n ≠ second.take n) (x y : List α) :
    first ++ x ≠ second ++ y := by
  intro same
  have starts := congrArg (take n) same
  rw [take_append_of_le_length long, take_append_of_le_length other] at starts
  exact differ starts

/-- What is shown of an entry can be read off the report. -/
theorem delimits_shownEntry : Delimits (fun _ => True) shownEntry := by
  intro (dso, id, status, path, reason) (dso', id', status', path', reason') _ _ rest other same
  simp only [shownEntry, cons_append, append_assoc, cons.injEq, true_and,
    append_cancel_left_eq] at same
  obtain ⟨rfl, afterDso⟩ := delimits_quoted _ _ trivial trivial _ _ same
  obtain ⟨rfl, afterID⟩ := delimits_quoted _ _ trivial trivial _ _ (append_cancel_left afterDso)
  obtain ⟨rfl, afterStatus⟩ := delimits_quoted _ _ trivial trivial _ _ (append_cancel_left afterID)
  have ends (name : String) (starts : 1 ≤ name.toList.length ∧
      name.toList.take 1 ≠ "\x7d".toList.take 1) (text rest : List Char) :
      name.toList ++ text ≠ "\x7d".toList ++ rest :=
    append_ne_append 1 starts.1 (by decide) starts.2 _ _
  have apart (reason : Option (List Char)) (rest text : List Char) :
      ",\"resolved_path\":".toList ++ text ≠ quoted? ",\"reason\":" reason ++
      ("\x7d".toList ++ rest) := by
    cases reason with
    | none => exact ends _ (by decide) _ _
    | some reason =>
      simp only [quoted?, Option.elim_some, append_assoc]
      exact append_ne_append 5 (by decide) (by decide) (by decide) _ _
  obtain ⟨rfl, afterPath⟩ := quoted?_cut (apart _ _) (apart _ _) afterStatus
  have last (rest text : List Char) : ",\"reason\":".toList ++ text ≠ "\x7d".toList ++ rest :=
    ends _ (by decide) _ _
  obtain ⟨rfl, afterReason⟩ := quoted?_cut (last _) (last _) afterPath
  exact ⟨rfl, append_cancel_left afterReason⟩

theorem commas_toList (text : String) (rest : List String) :
    ',' :: (commas (text :: rest)).toList = (text :: rest).flatMap (',' :: ·.toList) := by
  induction rest generalizing text with
  | nil => simp [commas]
  | cons next rest ih =>
    rw [flatMap_cons, ← ih]
    simp [commas]

/-- Two reports are the same exactly if they show the same of their entries. -/
theorem buildIdReportToJson_iff (entries others : List BuildIdWarmEntry) :
    buildIdReportToJson entries = buildIdReportToJson others ↔
      entries.map (·.shown) = others.map (·.shown) := by
  have code (entry : BuildIdWarmEntry) (rest : List BuildIdWarmEntry) :
      ',' :: (commas ((entry :: rest).map (·.json))).toList =
        ((entry :: rest).map (·.shown)).flatMap shownEntry := by
    rw [map_cons, commas_toList, ← map_cons]
    simp only [flatMap_map, BuildIdWarmEntry.json_toList]
  cases entries with
  | nil =>
    cases others with
    | nil => simp
    | cons other => simp [buildIdReportToJson]
  | cons entry rest =>
    cases others with
    | nil => simp [buildIdReportToJson]
    | cons other more =>
      unfold buildIdReportToJson
      rw [if_neg (cons_ne_nil _ _), if_neg (cons_ne_nil _ _), String.append_left_inj,
        String.append_right_inj, ← String.toList_inj, ← cons_inj_right ',', code, code]
      refine ⟨fun same => ?_, fun same => by rw [same]⟩
      exact (delimits_shownEntry.flatMap_until (· = []) (fun shown rest _ => by simp [shownEntry])
        (fun _ _ => trivial) (fun _ _ => trivial) rfl rfl (congrArg (· ++ []) same)).1

end Report

/-! ## Windows that agree on the processes of a session -/

theorem filter_eq_of_imp {α : Type} {first second : α → Bool} {xs ys : List α}
    (same : xs.filter first = ys.filter first) (imp : ∀ x, second x = true → first x = true) :
    xs.filter second = ys.filter second := by
  rw [← filter_filter_of_imp imp, same, filter_filter_of_imp imp]

/-- The runtimes of a report. -/
inductive Runtime where
  | java
  | node
  | python

/-- What a report says of a runtime. -/
def RuntimeSymbolReport.info (report : RuntimeSymbolReport) : Runtime → RuntimeMapInfo
  | .java => report.java
  | .node => report.node
  | .python => report.python

/-- The diagnostics agree on the host and on the targets, and on the files of the targets. -/
structure DiagnosticsAgree (targets : List ContinuousTargetProcess) (mappings : List String)
    (d e : PhysicalDiagnostics) : Prop where
  kallsyms : d.kallsymsSha256 = e.kallsymsSha256
  unwind : d.unwindMode = e.unwindMode
  disabled : d.runtimeEnrichmentDisabled = e.runtimeEnrichmentDisabled
  disabledReason : d.enrichmentDisabledReason = e.enrichmentDisabledReason
  readyPids : ∀ runtime, (d.runtimeReport.info runtime).readyPids.filter (pidTargeted targets) =
    (e.runtimeReport.info runtime).readyPids.filter (pidTargeted targets)
  missingPids : ∀ runtime, (d.runtimeReport.info runtime).missingPids.filter (pidTargeted targets) =
    (e.runtimeReport.info runtime).missingPids.filter (pidTargeted targets)
  go : d.goReport.filtered mappings = e.goReport.filtered mappings
  entries : d.buildIdEntries.filter (mappings.contains ·.dsoPath) =
    e.buildIdEntries.filter (mappings.contains ·.dsoPath)
  warm : d.buildIdWarmReport.filter (mappings.contains ·.dsoPath) =
    e.buildIdWarmReport.filter (mappings.contains ·.dsoPath)
  python : d.sessionPython targets = e.sessionPython targets
  memray : d.memrayResults.filter (identityTargeted targets ·.identity) =
    e.memrayResults.filter (identityTargeted targets ·.identity)

/-- What a profile says of the targets. -/
def SessionContract.restrict (contract : SessionContract) (profile : ProfilePayload) :
    Option ProfilePayload :=
  let kept := profile.samples.filter (contract.targets? ·.identity)
  if kept = [] then none else some { profile with samples := kept }

/-- The samples of the targets. -/
def SessionContract.ownSamples (contract : SessionContract) (w : WindowPayload) :
    List AggregatedSample :=
  w.samples.filter (contract.targets? ·.identity)

/-- Two physical windows agree on the host and on the targets. -/
structure Agree (contract : SessionContract) (w v : WindowPayload) : Prop where
  startMs : w.startMs = v.startMs
  endMs : w.endMs = v.endMs
  generation : w.collectorGeneration = v.collectorGeneration
  samples : contract.ownSamples w = contract.ownSamples v
  profiles : w.profiles.filterMap contract.restrict = v.profiles.filterMap contract.restrict
  metrics : w.metrics.filter (contract.targets? ·.identity) =
    v.metrics.filter (contract.targets? ·.identity)
  histograms : w.histograms.filter (contract.targets? ·.identity) =
    v.histograms.filter (contract.targets? ·.identity)
  diagnostics : (w.physicalDiagnostics = none ∧ v.physicalDiagnostics = none) ∨
    ∃ d e, w.physicalDiagnostics = some d ∧ v.physicalDiagnostics = some e ∧
      DiagnosticsAgree contract.targets (sampleMappings (contract.ownSamples w)) d e

/-- The session gets the same out of both windows. -/
def Isolated (languageStatus : LanguageInput → String) (contract : SessionContract)
    (physicalHz : Int) (attributionSafe : Bool) (w v : WindowPayload) : Prop :=
  let a := project languageStatus w contract physicalHz attributionSafe
  let b := project languageStatus v contract physicalHz attributionSafe
  a.samples = b.samples ∧ a.profiles = b.profiles ∧ a.metrics = b.metrics ∧
    a.histograms = b.histograms ∧ a.symbolRefsJson = b.symbolRefsJson

/-! ## Samples, profiles, metrics and histograms -/

section Payloads

variable {contract : SessionContract} {w v : WindowPayload}

theorem Agree.stabilityKey (agree : Agree contract w v) :
    contract.stabilityKey w = contract.stabilityKey v := by
  unfold SessionContract.stabilityKey
  rw [agree.generation, agree.startMs, agree.endMs]

theorem Agree.projectedSamples (agree : Agree contract w v) (process : contract.isProcess = true)
    (hz : Int) : contract.projectedSamples w hz = contract.projectedSamples v hz := by
  have kept : contract.keptSamples w.samples = contract.keptSamples v.samples := by
    unfold keptSamples
    rw [process]
    have own := agree.samples
    unfold ownSamples at own
    rw [if_pos rfl, if_pos rfl, own]
  unfold SessionContract.projectedSamples
  rw [kept, agree.stabilityKey]

/-- A profile of a signal that the session wants. -/
def SessionContract.wantsProfile (contract : SessionContract) (profile : ProfilePayload) : Bool :=
  !(profile.signal = "cpu_profile" && !contract.wants "cpu_profile") &&
    !(profile.signal = "python_memory" && !contract.wants "python_memory")

/-- A profile is kept if it is wanted and says something of the targets. -/
theorem keptProfile_eq (process : contract.isProcess = true) (profile : ProfilePayload) :
    contract.keptProfile profile = if contract.wantsProfile profile then contract.restrict profile
      else none := by
  unfold keptProfile wantsProfile restrict
  rw [process]
  by_cases cpu : profile.signal = "cpu_profile" ∧ contract.wants "cpu_profile" = false
  · rw [if_pos cpu, cpu.1, cpu.2]
    rfl
  · rw [if_neg cpu]
    by_cases memory : profile.signal = "python_memory" ∧ contract.wants "python_memory" = false
    · rw [if_pos memory, memory.1, memory.2]
      rfl
    · have wanted : (!(profile.signal = "cpu_profile" && !contract.wants "cpu_profile") &&
          !(profile.signal = "python_memory" && !contract.wants "python_memory")) = true := by
        simp only [Bool.and_eq_true, Bool.not_eq_true', Bool.and_eq_false_iff,
          decide_eq_false_iff_not, Bool.not_eq_false']
        rw [not_and_or, Bool.not_eq_false] at cpu memory
        exact ⟨cpu, memory⟩
      rw [if_neg memory, if_pos rfl, wanted, if_pos rfl]

/-- The profiles that are kept are those of the targets that are wanted. -/
theorem keptProfiles_eq (process : contract.isProcess = true) (profiles : List ProfilePayload) :
    profiles.filterMap contract.keptProfile =
      (profiles.filterMap contract.restrict).filter contract.wantsProfile := by
  rw [filter_filterMap]
  refine filterMap_congr fun profile _ => ?_
  rw [keptProfile_eq process]
  cases restricted : contract.restrict profile with
  | none => exact ite_self _
  | some kept =>
    -- The signal of a profile stays when its samples are filtered.
    have same : contract.wantsProfile kept = contract.wantsProfile profile := by
      unfold restrict at restricted
      dsimp only at restricted
      split at restricted
      · cases restricted
      · cases restricted
        rfl
    rw [← same]
    rfl

variable (agree : Agree contract w v) (process : contract.isProcess = true)
include agree process

theorem Agree.projectedProfiles (hz : Int) :
    contract.projectedProfiles w hz = contract.projectedProfiles v hz := by
  unfold SessionContract.projectedProfiles
  rw [keptProfiles_eq process, keptProfiles_eq process, agree.profiles, agree.stabilityKey]

theorem Agree.keptMetrics : contract.keptMetrics w.metrics = contract.keptMetrics v.metrics := by
  unfold SessionContract.keptMetrics
  rw [process, if_pos rfl, if_pos rfl, agree.metrics]

theorem Agree.projectedHistograms
    (safe : Bool) : contract.projectedHistograms w safe = contract.projectedHistograms v safe := by
  unfold SessionContract.projectedHistograms SessionContract.keptHistograms
  rw [process]
  have targeted : ∀ histogram : HistogramPayload, (!contract.unwanted histogram &&
      (!true || (0 < histogram.pid && contract.targets? histogram.identity))) = true →
      contract.targets? histogram.identity = true := by
    intro histogram passes
    simp only [Bool.not_true, Bool.false_or, Bool.and_eq_true] at passes
    exact passes.2.2
  rw [filter_eq_of_imp agree.histograms targeted]

end Payloads

/-! ## Symbol references -/

section Refs

variable {targets : List ContinuousTargetProcess} {mappings : List String}
  {d e : PhysicalDiagnostics} {samples : List AggregatedSample}

theorem DiagnosticsAgree.mono (agree : DiagnosticsAgree targets mappings d e) {fewer : List String}
    (subset : ∀ file ∈ fewer, file ∈ mappings) : DiagnosticsAgree targets fewer d e := by
  have imp (file : String) (mem : fewer.contains file = true) : mappings.contains file = true :=
    contains_iff_mem.mpr (subset file (contains_iff_mem.mp mem))
  have go := agree.go
  rw [GoSymbolReport.mk.injEq] at go
  refine { agree with go := ?_, entries := ?_, warm := ?_ }
  · unfold GoSymbolReport.filtered
    rw [filter_eq_of_imp go.1 fun item => imp item.dsoPath, filter_eq_of_imp go.2.1 fun item =>
      imp item.dsoPath, filter_eq_of_imp go.2.2.1 fun item => imp item.dsoPath]
  · exact filter_eq_of_imp agree.entries fun entry => imp entry.dsoPath
  · exact filter_eq_of_imp agree.warm fun entry => imp entry.dsoPath

/-- The diagnostics of the signals that were requested agree as well. -/
theorem DiagnosticsAgree.requested (agree : DiagnosticsAgree targets mappings d e)
    (signals : List String) :
    DiagnosticsAgree targets mappings (d.requested signals) (e.requested signals) := by
  unfold PhysicalDiagnostics.requested
  cases logicalSignalRequested signals "cpu_profile" with
  | true =>
    cases logicalSignalRequested signals "python_memory" with
    | true => exact agree
    | false => exact { agree with memray := rfl }
  | false =>
    cases logicalSignalRequested signals "python_memory" <;>
    exact { agree with
      readyPids := fun runtime => by cases runtime <;> rfl
      missingPids := fun runtime => by cases runtime <;> rfl
      go := rfl
      entries := rfl
      python := rfl
      memray := by first | rfl | exact agree.memray }

/-- A runtime of which a process of the session is known. -/
def RuntimeMapInfo.Seen (targets : List ContinuousTargetProcess) (info : RuntimeMapInfo) : Prop :=
  ∃ pid ∈ info.readyPids ++ info.missingPids, pidTargeted targets pid = true

/-- What must not differ for the session to learn nothing of others from the fragment on the
languages. -/
@[mk_iff]
structure LanguagesAgree (targets : List ContinuousTargetProcess) (d e : PhysicalDiagnostics) :
    Prop where
  flags : ∀ runtime, (d.runtimeReport.info runtime).requiredFlag =
    (e.runtimeReport.info runtime).requiredFlag
  reasons : ∀ runtime, (d.runtimeReport.info runtime).Seen targets →
    (d.runtimeReport.info runtime).reason = (e.runtimeReport.info runtime).reason
  limited : d.sessionPython targets ≠ [] →
    d.pythonFallbackLimitedCount = e.pythonFallbackLimitedCount

/-- What the references of a session must not differ in. -/
structure Undisclosed (targets : List ContinuousTargetProcess) (samples : List AggregatedSample)
    (d e : PhysicalDiagnostics) : Prop extends LanguagesAgree targets d e where
  report : (d.sessionWarmEntries samples).map (·.shown) =
    (e.sessionWarmEntries samples).map (·.shown)

/-- A runtime is detected in the session if a process of it is known. -/
theorem filtered_detected_iff (info : RuntimeMapInfo) :
    (info.filtered targets).detected = true ↔ info.Seen targets := by
  unfold RuntimeMapInfo.filtered RuntimeMapInfo.Seen
  simp only [ne_eq, decide_not, Bool.or_eq_true, Bool.not_eq_true', decide_eq_false_iff_not,
    filter_eq_nil_iff, mem_append, or_and_right, exists_or]
  push Not
  rfl

/-- What the session is told of a runtime is the same exactly if the flag is, and the reason where
it is seen. -/
theorem filtered_eq_iff {first second : RuntimeMapInfo}
    (ready : first.readyPids.filter (pidTargeted targets) =
      second.readyPids.filter (pidTargeted targets))
    (missing : first.missingPids.filter (pidTargeted targets) =
      second.missingPids.filter (pidTargeted targets)) :
    first.filtered targets = second.filtered targets ↔
      first.requiredFlag = second.requiredFlag ∧
      (first.Seen targets → first.reason = second.reason) := by
  rw [← filtered_detected_iff]
  unfold RuntimeMapInfo.filtered
  rw [ready, missing]
  rw [RuntimeMapInfo.mk.injEq]
  simp only [true_and]
  rw [and_comm]
  refine and_congr_right fun _ => ?_
  split
  · next detected => exact (imp_iff_right detected).symm
  · next missed => exact iff_of_true rfl fun detected => absurd detected missed

section

variable (agree : DiagnosticsAgree targets (sampleMappings samples) d e)
include agree

/-- What the fragment on the languages is given is the same exactly if flags, reasons and the count
are. -/
theorem DiagnosticsAgree.languageInput_iff :
    d.languageInput samples targets = e.languageInput samples targets ↔
      LanguagesAgree targets d e := by
  have each (runtime : Runtime) := filtered_eq_iff (agree.readyPids runtime)
    (agree.missingPids runtime)
  have reports : d.runtimeReport.filtered targets = e.runtimeReport.filtered targets ↔
      ∀ runtime, (d.runtimeReport.info runtime).filtered targets =
      (e.runtimeReport.info runtime).filtered targets := by
    rw [RuntimeSymbolReport.mk.injEq]
    constructor
    · intro same runtime
      cases runtime with
      | java => exact same.1
      | node => exact same.2.1
      | python => exact same.2.2
    · intro same
      exact ⟨same .java, same .node, same .python⟩
  have counts : d.sessionLimitedCount targets = e.sessionLimitedCount targets ↔
      (d.sessionPython targets ≠ [] →
      d.pythonFallbackLimitedCount = e.pythonFallbackLimitedCount) := by
    unfold sessionLimitedCount
    rw [← agree.python]
    split
    · next none => exact ⟨fun _ some => absurd none some, fun _ => rfl⟩
    · next some => exact ⟨fun same _ => same, fun same => same some⟩
  unfold languageInput
  rw [LanguageInput.mk.injEq, agree.go, agree.python, agree.unwind, reports, counts]
  simp [languagesAgree_iff, agree.python, each, forall_and, and_assoc]

/-- The text before the report of build ids is made from what the fragment is given. -/
theorem DiagnosticsAgree.refsHead
    (same : d.languageInput samples targets = e.languageInput samples targets) :
    d.refsHead samples targets = e.refsHead samples targets := by
  have reports : d.runtimeReport.filtered targets = e.runtimeReport.filtered targets :=
    congrArg LanguageInput.runtimeReport same
  have counts : d.sessionLimitedCount targets = e.sessionLimitedCount targets :=
    congrArg LanguageInput.pythonLimitedCount same
  have ids : sessionBuildIds d.buildIdEntries samples =
      sessionBuildIds e.buildIdEntries samples := by
    unfold sessionBuildIds
    rw [agree.entries]
  unfold PhysicalDiagnostics.refsHead
  rw [reports, counts, ids, agree.kallsyms, agree.go, agree.python, agree.memray]

end

theorem DiagnosticsAgree.refsTail (agree : DiagnosticsAgree targets mappings d e) :
    d.refsTail = e.refsTail := by
  unfold PhysicalDiagnostics.refsTail
  rw [agree.disabled, agree.disabledReason]

theorem refsReport_iff :
    d.refsReport samples = e.refsReport samples ↔
      (d.sessionWarmEntries samples).map (·.shown) =
      (e.sessionWarmEntries samples).map (·.shown) := by
  rw [← buildIdReportToJson_iff]
  unfold refsReport
  dsimp only
  generalize buildIdReportToJson (d.sessionWarmEntries samples) = first
  generalize buildIdReportToJson (e.sessionWarmEntries samples) = second
  have mem (text : String) : ",\"build_id_report\":" ++ text ≠ "" := by simp
  constructor
  · intro same
    split at same
    · next none =>
      split at same
      · next empty => rw [none, empty]
      · exact absurd same.symm (mem second)
    · split at same
      · exact absurd same (mem first)
      · exact (String.append_right_inj _).mp same
  · intro same
    rw [same]

/-- **The references are the same, whatever the fragment on the languages says, exactly if nothing
is disclosed.** -/
theorem DiagnosticsAgree.refs_iff (agree : DiagnosticsAgree targets (sampleMappings samples) d e) :
    (∀ languageStatus, d.rebuildFilteredSymbolRefs samples targets languageStatus =
        e.rebuildFilteredSymbolRefs samples targets languageStatus) ↔
        Undisclosed targets samples d e := by
  unfold rebuildFilteredSymbolRefs
  rw [agree.refsTail]
  constructor
  · intro same
    -- A fragment that tells what it was given.
    have input : d.languageInput samples targets = e.languageInput samples targets := by
      have told := same fun input => if input = d.languageInput samples targets then "a" else "b"
      rw [String.append_left_inj] at told
      by_contra differ
      rw [if_pos rfl, if_neg fun equal => differ equal.symm] at told
      have ends := congrArg (fun text : String => text.toList.getLast?) told
      simp [String.toList_append] at ends
    have silent := same fun _ => ""
    rw [String.append_left_inj, agree.refsHead input, String.append_left_inj,
      String.append_left_inj, String.append_right_inj] at silent
    exact ⟨agree.languageInput_iff.mp input, refsReport_iff.mp silent⟩
  · intro undisclosed languageStatus
    have input := agree.languageInput_iff.mpr undisclosed.toLanguagesAgree
    rw [agree.refsHead input, refsReport_iff.mpr undisclosed.report, input]

end Refs

/-! ## Sessions -/

section Sessions

variable {contract : SessionContract} {w v : WindowPayload}

/-- A sample that is left is one of those before, with another count. -/
theorem downsample_mem {samples : List AggregatedSample} {requestedHz physicalHz : Nat}
    {key : String} {sample : AggregatedSample}
    (listed : sample ∈ downsampleDeterministic samples requestedHz physicalHz key) :
    ∃ count, ∃ original ∈ samples, sample = { original with count } := by
  have itself (mem : sample ∈ samples) : ∃ count, ∃ original ∈ samples,
      sample = { original with count } :=
    ⟨sample.count, sample, mem, rfl⟩
  unfold downsampleDeterministic at listed
  dsimp only at listed
  split at listed
  · exact itself listed
  · split at listed
    · exact itself listed
    · split at listed
      · exact itself listed
      · split at listed
        · cases listed
        · obtain ⟨share, shared, rfl⟩ := mem_map.mp listed
          obtain ⟨⟨entry, index⟩, there, rfl⟩ := mem_map.mp (mem_filter.mp shared).1
          have ordered := (mem_zipIdx' there).2
          have mem := mem_mergeSort.mp (mem_of_getElem ordered.symm)
          obtain ⟨original, kept, rfl⟩ := mem_map.mp mem
          split
          · exact ⟨_, original, kept, rfl⟩
          · exact ⟨_, original, kept, rfl⟩

/-- The files that the samples of a session name are named by samples of its targets. -/
theorem projected_mappings (process : contract.isProcess = true) (hz : Int) :
    ∀ file ∈ sampleMappings (contract.projectedSamples w hz),
      file ∈ sampleMappings (contract.ownSamples w) := by
  have kept : ∀ sample ∈ contract.keptSamples w.samples, sample ∈ contract.ownSamples w := by
    intro sample listed
    unfold keptSamples at listed
    split at listed
    · cases listed
    · exact listed
  intro file named
  obtain ⟨sample, listed, mem⟩ := mem_flatMap.mp named
  unfold projectedSamples at listed
  split at listed
  · obtain ⟨count, original, before, rfl⟩ := downsample_mem listed
    exact mem_flatMap.mpr ⟨original, kept original before, mem⟩
  · exact mem_flatMap.mpr ⟨sample, kept sample listed, mem⟩

/-- Nothing of other processes is in the diagnostics of the signals that the session has
requested. -/
def SessionContract.Closed (contract : SessionContract) (physicalHz : Int) (w v : WindowPayload) :
    Prop :=
  ∀ d ∈ w.physicalDiagnostics, ∀ e ∈ v.physicalDiagnostics,
    Undisclosed contract.targets (contract.projectedSamples w physicalHz)
      (d.requested contract.signals) (e.requested contract.signals)

/-- **A session on processes gets the same samples, profiles, metrics, histograms and references out
of any two windows that agree on its processes, whatever the fragment on the languages says, exactly
if the diagnostics disclose nothing.** -/
theorem isolated_iff (contract : SessionContract) (process : contract.scope = "process")
    (physicalHz : Int) (attributionSafe : Bool) (w v : WindowPayload) (agree : Agree contract w v) :
    (∀ languageStatus, Isolated languageStatus contract physicalHz attributionSafe w v) ↔
      contract.Closed physicalHz w v := by
  have ofProcess : contract.isProcess = true := decide_eq_true process
  have samples := agree.projectedSamples ofProcess physicalHz
  have refs : (∀ languageStatus, Isolated languageStatus contract physicalHz attributionSafe w v) ↔
      ∀ languageStatus, contract.projectedRefs languageStatus w
        (contract.projectedSamples w physicalHz) =
        contract.projectedRefs languageStatus v (contract.projectedSamples v physicalHz) := by
    refine forall_congr' fun languageStatus => ⟨fun isolated => isolated.2.2.2.2, fun same => ?_⟩
    exact ⟨samples, agree.projectedProfiles ofProcess physicalHz, agree.keptMetrics ofProcess,
      agree.projectedHistograms ofProcess attributionSafe, same⟩
  rw [refs, ← samples]
  unfold projectedRefs SessionContract.Closed
  rw [ofProcess]
  rcases agree.diagnostics with ⟨first, second⟩ | ⟨d, e, first, second, diagnostics⟩
  · rw [first, second]
    exact ⟨fun _ => nofun, fun _ _ => rfl⟩
  · rw [first, second]
    have known := (diagnostics.mono (projected_mappings ofProcess physicalHz)).requested
      contract.signals
    have exactly := known.refs_iff
    constructor
    · rintro same _ ⟨⟩ _ ⟨⟩
      exact exactly.mp same
    · intro closed
      exact exactly.mpr (closed d rfl e rfl)

/-- A session on one Java process. -/
def oneJava : SessionContract where
  scope := "process"
  targets := [{ pid := 7, processStartMs := 1, exe := "/usr/bin/java" }]

/-- That process has no map, other processes have none either, and the reason is that of the first
of them. -/
def javaDiagnostics (others : List Int) (reason : String) : PhysicalDiagnostics where
  runtimeReport := { java := { detected := true, missingPids := others ++ [7], reason } }

/-- A window with these diagnostics. -/
def javaWindow (others : List Int) (reason : String) : WindowPayload where
  startMs := 1000
  endMs := 2000
  samples := (others ++ [7]).map fun pid =>
    { stack := ["f"], pid, processStartMs := 1, exe := "/usr/bin/java", count := 3 }
  physicalDiagnostics := some (javaDiagnostics others reason)

theorem javaWindow_agree (first second : String) :
    Agree oneJava (javaWindow [] first) (javaWindow [8] second) := by
  have samples : oneJava.ownSamples (javaWindow [] "") =
      oneJava.ownSamples (javaWindow [8] "") := by
    decide
  refine ⟨rfl, rfl, rfl, samples, rfl, rfl, rfl, Or.inr ⟨_, _, rfl, rfl, ?_⟩⟩
  refine ⟨rfl, rfl, rfl, rfl, fun runtime => ?_, fun runtime => ?_, rfl, rfl, rfl, rfl, rfl⟩
  · cases runtime with
    | java | node | python => rfl
  · cases runtime with
    | java =>
      show filter _ ([] ++ [7]) = filter _ ([8] ++ [7])
      decide
    | node | python => rfl

/-- With the same reason, the session learns nothing of the other process. -/
theorem same_reason_isolated :
    Agree oneJava (javaWindow [] "no JIT perf map") (javaWindow [8] "no JIT perf map") ∧
      ∀ languageStatus, Isolated languageStatus oneJava 19 true (javaWindow [] "no JIT perf map")
        (javaWindow [8] "no JIT perf map") := by
  refine ⟨javaWindow_agree "no JIT perf map" "no JIT perf map", ?_⟩
  apply (isolated_iff oneJava rfl 19 true _ _
    (javaWindow_agree "no JIT perf map" "no JIT perf map")).mpr
  intro d found e there
  cases found
  cases there
  refine ⟨⟨fun runtime => ?_, fun runtime _ => ?_, fun _ => rfl⟩, rfl⟩
  · cases runtime with
    | java | node | python => rfl
  · cases runtime with
    | java | node | python => rfl

theorem javaDiagnostics_filtered (others : List Int)
    (none : others.filter (pidTargeted oneJava.targets) = []) (reason : String) :
    (javaDiagnostics others reason).runtimeReport.filtered oneJava.targets =
      { java := { detected := true, missingPids := [7], reason } } := by
  have own : (others ++ [7]).filter (pidTargeted oneJava.targets) = [7] := by
    rw [filter_append, none]
    decide
  unfold RuntimeSymbolReport.filtered RuntimeMapInfo.filtered javaDiagnostics
  rw [own]
  rfl

theorem javaRefs_differ (samples : List AggregatedSample)
    (languageStatus : LanguageInput → String) :
    (javaDiagnostics [] "no JIT perf map").rebuildFilteredSymbolRefs samples oneJava.targets
      languageStatus ≠ (javaDiagnostics
        [8] "asprof attach permission denied").rebuildFilteredSymbolRefs samples oneJava.targets
        languageStatus := by
  intro same
  unfold rebuildFilteredSymbolRefs refsHead at same
  rw [javaDiagnostics_filtered [] rfl, javaDiagnostics_filtered [8] (by decide)] at same
  unfold RuntimeSymbolReport.json RuntimeMapInfo.json jsonText at same
  have one : jsonEscape "no JIT perf map" = "no JIT perf map" := by decide
  have two : jsonEscape "asprof attach permission denied" = "asprof attach permission denied" := by
    decide
  simp only [one, two, String.append_assoc, javaDiagnostics, String.append_right_inj,
    ↓reduceIte] at same
  have lists := congrArg String.toList same
  simp only [String.toList_append] at lists
  exact append_ne_append 1 (by decide) (by decide) (by decide) _ _ lists

/-- The session of one process is told why the map of another one is missing. -/
theorem other_reason_disclosed :
    Agree oneJava (javaWindow [] "no JIT perf map")
      (javaWindow [8] "asprof attach permission denied") ∧ ∀ languageStatus,
        ¬Isolated languageStatus oneJava 19 true (javaWindow [] "no JIT perf map")
          (javaWindow [8] "asprof attach permission denied") := by
  have agree := javaWindow_agree "no JIT perf map" "asprof attach permission denied"
  refine ⟨agree, fun languageStatus isolated => ?_⟩
  have texts := isolated.2.2.2.2
  have samples := agree.projectedSamples rfl 19
  apply javaRefs_differ (oneJava.projectedSamples (javaWindow [] "no JIT perf map") 19)
    languageStatus
  nth_rewrite 2 [samples]
  exact texts

end Sessions

end MiniDrop.Agent
