import MiniDrop.Agent.Samples
/-!
# Symbol references of a session

A physical window carries the diagnostics of all the processes that were sampled. For a session on
some processes they are filtered, and written as the JSON text `symbol_refs`. The fragment
`language_status` of the text is any function of what it is given.
-/
namespace MiniDrop.Agent

/-! ## Diagnostics -/

structure RuntimeMapInfo where
  (detected ready : Bool := false)
  (readyPids missingPids failedAttachPids : List Int := [])
  (reason requiredFlag : String := "")
  deriving DecidableEq

/-- The runtimes of `RuntimeSymbolReport`. -/
structure RuntimeSymbolReport where
  java : RuntimeMapInfo := {}
  node : RuntimeMapInfo := {}
  python : RuntimeMapInfo := {}
  deriving DecidableEq

structure GoSymbolItem where
  (buildId dsoPath reason : String := "")
  deriving DecidableEq

structure GoSymbolReport where
  (ready pending failed : List GoSymbolItem := [])
  disabled : String := ""
  deriving DecidableEq

structure BuildIdEntry where
  (buildId dsoPath : String := "")

/-- `BuildIdWarmEntry`: the fields that are written. -/
structure BuildIdWarmEntry where
  (buildId dsoPath status resolvedPath reason : String := "")

structure MemrayProfileResult where
  profileID : String := ""
  (pid processStartMs : Int := 0)
  exe : String := ""
  ready : Bool := false
  reason : String := ""

/-- The fields of `PhysicalDiagnostics` that the references of a session are made from. -/
structure PhysicalDiagnostics where
  buildIdEntries : List BuildIdEntry := []
  kallsymsSha256 : String := ""
  runtimeReport : RuntimeSymbolReport := {}
  goReport : GoSymbolReport := {}
  pythonFallback : List PythonFallbackResult := []
  pythonFallbackLimitedCount : Nat := 0
  memrayResults : List MemrayProfileResult := []
  runtimeEnrichmentDisabled : Bool := false
  enrichmentDisabledReason : String := ""
  unwindMode : String := "fp"
  buildIdWarmReport : List BuildIdWarmEntry := []

/-- The process of a capture. -/
def PythonFallbackResult.identity (result : PythonFallbackResult) : ProcessIdentity :=
  ⟨result.pid, result.startMs, result.exe⟩

/-- The process of a memory profile. -/
def MemrayProfileResult.identity (result : MemrayProfileResult) : ProcessIdentity :=
  ⟨result.pid, result.processStartMs, result.exe⟩

/-! ## JSON -/

/-- `json_escape`, and `json_escape_runtime`. -/
def jsonEscape (text : String) : String :=
  .ofList (text.toList.flatMap fun c =>
    if c = '"' then ['\\', '"'] else if c = '\\' then ['\\', '\\'] else if c = '\n' then ['\\', 'n']
    else if c = '\r' then [] else [c])

/-- A text in quotes. -/
def jsonText (text : String) : String := "\"" ++ jsonEscape text ++ "\""

/-- Texts with commas between them. -/
def commas : List String → String
  | [] => ""
  | [text] => text
  | text :: rest => text ++ "," ++ commas rest

/-- `info_to_json`. -/
def RuntimeMapInfo.json (info : RuntimeMapInfo) : String :=
  "\x7b\"detected\":" ++ (if info.detected then "true" else "false") ++ ",\"ready\":" ++
    (if info.ready then "true" else "false") ++ "," ++
    (if info.requiredFlag = "" then "" else "\"required_flag\":" ++
      jsonText info.requiredFlag ++ ",") ++
    "\"missing\":[" ++ commas (info.missingPids.map toString) ++ "],\"ready_pids\":[" ++
    commas (info.readyPids.map toString) ++ "],\"reason\":" ++ jsonText info.reason ++ "\x7d"

/-- `runtime_maps_to_json`. -/
def RuntimeSymbolReport.json (report : RuntimeSymbolReport) : String :=
  "\x7b\"java\":" ++ report.java.json ++ ",\"node\":" ++ report.node.json ++ ",\"python\":" ++
    report.python.json ++ "\x7d"

/-- An item of `go_symbol_report_json`. -/
def GoSymbolItem.json (item : GoSymbolItem) : String :=
  "\x7b\"build_id\":" ++ jsonText item.buildId ++ ",\"dso\":" ++ jsonText item.dsoPath ++
    (if item.reason = "" then "" else ",\"reason\":" ++ jsonText item.reason) ++ "\x7d"

/-- `go_symbol_report_json`. -/
def GoSymbolReport.json (report : GoSymbolReport) : String :=
  "\x7b\"ready\":[" ++ commas (report.ready.map (·.json)) ++ "],\"pending\":[" ++
    commas (report.pending.map (·.json)) ++ "],\"failed\":[" ++
    commas (report.failed.map (·.json)) ++ "]" ++
    (if report.disabled = "" then "" else ",\"disabled\":" ++ jsonText report.disabled) ++ "\x7d"

/-- What stands first in every item on a process. -/
def identityJson (identity : ProcessIdentity) : String :=
  "\x7b\"pid\":" ++ toString identity.pid ++ ",\"process_start_ms\":" ++
    toString identity.processStartMs ++ ",\"exe\":" ++ jsonText identity.exe

def pythonFallbackJson (results : List PythonFallbackResult) (limitedCount : Nat) : String :=
  "\x7b\"ready\":[" ++
    commas ((results.filter (·.ready)).map fun result =>
      identityJson result.identity ++ ",\"mode\":\"" ++
        (if result.nativeStacks then "py-spy-native" else "py-spy") ++ "\",\"samples\":" ++
        toString result.samples.length ++ ",\"capture_start_ms\":" ++
          toString result.captureStartMs ++
        ",\"capture_end_ms\":" ++ toString result.captureEndMs ++
        (if result.warning = "" then "" else ",\"warning\":" ++ jsonText result.warning) ++
          "\x7d") ++
    "],\"failed\":[" ++
    commas ((results.filter (!·.ready)).map fun result =>
      identityJson result.identity ++ ",\"reason\":" ++ jsonText result.reason ++ "\x7d") ++
    "],\"limited_count\":" ++ toString limitedCount ++ "\x7d"

/-- The member `python_memory`. -/
def pythonMemoryJson (results : List MemrayProfileResult) : String :=
  "\x7b\"ready\":[" ++
    commas ((results.filter (·.ready)).map fun result =>
      identityJson result.identity ++ ",\"profile_id\":" ++ jsonText result.profileID ++ "\x7d") ++
    "],\"failed\":[" ++
    commas ((results.filter (!·.ready)).map fun result =>
      identityJson result.identity ++ ",\"reason\":" ++ jsonText result.reason ++ "\x7d") ++ "]\x7d"

/-- An entry of `build_id_report_to_json`. -/
def BuildIdWarmEntry.json (entry : BuildIdWarmEntry) : String :=
  "\x7b\"dso\":" ++ jsonText entry.dsoPath ++ ",\"build_id\":" ++ jsonText entry.buildId ++
    ",\"status\":" ++ jsonText entry.status ++
    (if entry.resolvedPath = "" then "" else ",\"resolved_path\":" ++
      jsonText entry.resolvedPath) ++
    (if entry.reason = "" then "" else ",\"reason\":" ++ jsonText entry.reason) ++ "\x7d"

def buildIdReportToJson (entries : List BuildIdWarmEntry) : String :=
  if entries = [] then "" else "\x7b\"dsos\":[" ++ commas (entries.map (·.json)) ++ "]\x7d"

/-! ## Filters -/

/-- `trim`. -/
def trimFrame (text : List Char) : List Char :=
  ((text.dropWhile isSpace).reverse.dropWhile isSpace).reverse

/-- `isxdigit`. -/
def isHexDigit (c : Char) : Bool := c.isDigit || ('a' ≤ c && c ≤ 'f') || ('A' ≤ c && c ≤ 'F')

def unresolvedFrame (raw : String) : Bool :=
  let frame := trimFrame raw.toList
  if frame = [] ∨ frame = "unknown".toList ∨ frame = "[unknown]".toList then true
  else if 2 < frame.length ∧ frame.head? = some '[' ∧ frame.getLast? = some ']' then true
  else
    match frame with
    | '0' :: 'x' :: digits =>
      let rest := digits.dropWhile isHexDigit
      rest.length < digits.length && rest.head?.all isSpace
    | _ => false

/-- `configured_process_start_ms_for_targets` and `configured_process_exe_for_targets`: a process
that is known by its number only is the first target of that number. -/
def configuredIdentity (targets : List ContinuousTargetProcess) (pid : Int) : ProcessIdentity :=
  match targets.find? (·.pid = pid) with
  | some target => ⟨pid, target.processStartMs, target.exe⟩
  | none => ⟨pid, 0, ""⟩

/-- A number is one of a target. -/
def pidTargeted (targets : List ContinuousTargetProcess) (pid : Int) : Bool :=
  identityTargeted targets (configuredIdentity targets pid)

/-- One runtime of `filter_runtime_report_to_session`. -/
def RuntimeMapInfo.filtered (targets : List ContinuousTargetProcess) (info : RuntimeMapInfo) :
    RuntimeMapInfo :=
  let readyPids := info.readyPids.filter (pidTargeted targets)
  let missingPids := info.missingPids.filter (pidTargeted targets)
  let detected := readyPids ≠ [] || missingPids ≠ []
  { detected
    ready := detected && readyPids ≠ [] && missingPids = []
    readyPids
    missingPids
    reason := if detected then info.reason else ""
    requiredFlag := info.requiredFlag }

/-- `filter_runtime_report_to_session`. -/
def RuntimeSymbolReport.filtered (targets : List ContinuousTargetProcess)
    (report : RuntimeSymbolReport) :
    RuntimeSymbolReport :=
  ⟨report.java.filtered targets, report.node.filtered targets, report.python.filtered targets⟩

/-- The files that samples name: those of their frames, and their executables. -/
def sampleMappings (samples : List AggregatedSample) : List String :=
  samples.flatMap fun sample =>
    (sample.frames.map (·.mappingFile)).filter (· ≠ "") ++ [sample.exe].filter (· ≠ "")

/-- The build ids of a session: those of the frames, and those of the files. -/
def sessionBuildIds (entries : List BuildIdEntry) (samples : List AggregatedSample) : List String :=
  samples.flatMap (fun sample => (sample.frames.map (·.buildId)).filter (· ≠ "")) ++
    (entries.filter fun entry => (sampleMappings samples).contains entry.dsoPath).map (·.buildId)

/-- `filterGo`. -/
def GoSymbolReport.filtered (mappings : List String) (report : GoSymbolReport) :
    GoSymbolReport where
  ready := report.ready.filter fun item => mappings.contains item.dsoPath
  pending := report.pending.filter fun item => mappings.contains item.dsoPath
  failed := report.failed.filter fun item => mappings.contains item.dsoPath

/-- The total weight of the frames that pass a test. -/
def frameWeight (test : String → Bool) (samples : List AggregatedSample) : Nat :=
  samples.foldl (fun total sample =>
    (sample.stack.filter test).foldl (fun total _ => addCount total sample.count) total) 0

/-- The texts of a set, in its order. -/
def setTexts (texts : List String) : List String := texts.eraseDups.mergeSort

/-- What `language_status_fragment_for_symbol_refs` is given. -/
structure LanguageInput where
  samples : List AggregatedSample
  runtimeReport : RuntimeSymbolReport
  goReport : GoSymbolReport
  pythonFallback : List PythonFallbackResult
  pythonLimitedCount : Nat
  targets : List ContinuousTargetProcess
  unwindMode : String
  deriving DecidableEq

def logicalSignalRequested (requested : List String) (logical : String) : Bool :=
  requested = [] || requested.contains logical

namespace PhysicalDiagnostics

variable (diagnostics : PhysicalDiagnostics) (samples : List AggregatedSample)
  (targets : List ContinuousTargetProcess)

/-- The diagnostics of the signals that the session has requested. -/
def requested (signals : List String) : PhysicalDiagnostics :=
  let cpu := if logicalSignalRequested signals "cpu_profile" then diagnostics
    else { diagnostics with
      runtimeReport := {}
      goReport := {}
      pythonFallback := []
      pythonFallbackLimitedCount := 0
      buildIdEntries := [] }
  if logicalSignalRequested signals "python_memory" then cpu else { cpu with memrayResults := [] }

/-- The captures of the session. -/
def sessionPython : List PythonFallbackResult :=
  diagnostics.pythonFallback.filter fun result => identityTargeted targets result.identity

/-- The count of captures that were left out, if the session has a capture. -/
def sessionLimitedCount : Nat :=
  if diagnostics.sessionPython targets = [] then 0 else diagnostics.pythonFallbackLimitedCount

/-- The entries on the files and the build ids of the session. -/
def sessionWarmEntries : List BuildIdWarmEntry :=
  diagnostics.buildIdWarmReport.filter fun entry =>
    (sampleMappings samples).contains entry.dsoPath ||
      (sessionBuildIds diagnostics.buildIdEntries samples).contains entry.buildId

/-- What the fragment on the languages is given. -/
def languageInput : LanguageInput where
  samples
  runtimeReport := diagnostics.runtimeReport.filtered targets
  goReport := diagnostics.goReport.filtered (sampleMappings samples)
  pythonFallback := diagnostics.sessionPython targets
  pythonLimitedCount := diagnostics.sessionLimitedCount targets
  targets
  unwindMode := if diagnostics.unwindMode = "" then "fp" else diagnostics.unwindMode

/-- The text up to the profiles of memory. -/
def refsHead : String :=
  let total := frameWeight (fun _ => true) samples
  let unresolved := frameWeight unresolvedFrame samples
  let status := if total = 0 then "not_applicable" else if unresolved = 0 then "complete"
    else if unresolved ≥ total then "missing" else "partial"
  let memray := diagnostics.memrayResults.filter fun result =>
    identityTargeted targets result.identity
  "\x7b\"symbol_status\":\"" ++ status ++ "\",\"frame_stats\":\x7b\"total_frame_weight\":" ++
    toString total ++ ",\"unresolved_frame_weight\":" ++ toString unresolved ++
    "\x7d,\"build_ids\":[" ++
    commas ((setTexts (sessionBuildIds diagnostics.buildIdEntries samples)).map jsonText) ++ "]," ++
    (if diagnostics.kallsymsSha256 = "" then ""
      else "\"kallsyms_sha256\":" ++ jsonText diagnostics.kallsymsSha256 ++ ",") ++
    "\"runtime_maps\":" ++ (diagnostics.runtimeReport.filtered targets).json ++ ",\"native_go\":" ++
    (diagnostics.goReport.filtered (sampleMappings samples)).json ++ ",\"python_fallback\":" ++
    pythonFallbackJson (diagnostics.sessionPython targets)
      (diagnostics.sessionLimitedCount targets) ++
    ",\"python_memory\":" ++ pythonMemoryJson memray

/-- The member `build_id_report`. -/
def refsReport : String :=
  let report := buildIdReportToJson (diagnostics.sessionWarmEntries samples)
  if report = "" then "" else ",\"build_id_report\":" ++ report

/-- The text after the fragment on the languages. -/
def refsTail : String :=
  (if diagnostics.runtimeEnrichmentDisabled then
    ",\"runtime_enrichment\":\x7b\"enabled\":false,\"reason\":" ++
      jsonText diagnostics.enrichmentDisabledReason ++ "\x7d"
  else "") ++ "\x7d"

/-- `rebuild_filtered_symbol_refs_for_targets`. -/
def rebuildFilteredSymbolRefs (languageStatus : LanguageInput → String) : String :=
  diagnostics.refsHead samples targets ++ diagnostics.refsReport samples ++ "," ++
    languageStatus (diagnostics.languageInput samples targets) ++ diagnostics.refsTail

end PhysicalDiagnostics

end MiniDrop.Agent
