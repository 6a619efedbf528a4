import TelemetryGate.Proofs.Results
import TelemetryGate.Proofs.Settings.Loading
import TelemetryGate.Proofs.Text.Cutting
import TelemetryGate.Reporting.SetupFault

/-!
# Valid settings

Settings are valid if their endpoint names a scheme that can be posted to and the log names known
words only. Validation reports nothing of valid settings, and of others a bad endpoint first and then
the first bad setting of the log, whatever the order of the modules is. Loading gives the settings
that the sources amount to if they are valid, and otherwise a fault that lists what is reported.
-/

namespace TelemetryGate

/-! ## What is valid -/

/-- A word names a level. -/
def NamesLevel (word : String) : Prop :=
  word ∈ ["trace", "debug", "info", "warn", "error", "off"]

instance (word : String) : Decidable (NamesLevel word) := inferInstanceAs (Decidable (_ ∈ _))

/-- A word names a layout of lines. -/
def NamesFormat (word : String) : Prop := word = "json" ∨ word = "text"

instance (word : String) : Decidable (NamesFormat word) := inferInstanceAs (Decidable (_ ∨ _))

/-- A word names an output. -/
def NamesOutput (word : String) : Prop := word = "stdout" ∨ word = "stderr" ∨ word = "file"

/-- Log settings name known words only. -/
structure LogSettings.Valid (s : LogSettings) : Prop where
  /-- The level is one. -/
  level : NamesLevel s.level
  /-- The layout is one. -/
  format : NamesFormat s.format
  /-- The output is one. -/
  output : NamesOutput s.output
  /-- The level of each module is one. -/
  modules : ∀ m ∈ s.modules, NamesLevel m.2

/-- A text starts with a scheme that can be posted to. -/
def NamesScheme (url : String) : Prop :=
  "http://".toList <+: url.toList ∨ "https://".toList <+: url.toList

/-- Settings name a scheme that can be posted to, and their log settings are valid. -/
structure Settings.Valid (s : Settings) : Prop where
  /-- The endpoint starts with a scheme. -/
  endpoint : NamesScheme s.endpoint
  /-- The log settings are valid. -/
  logging : s.logging.Valid

/-- The first setting of the log that is bad, in the order level, layout, output, modules. No module
comes before another one. -/
inductive LogSettings.FirstBad (s : LogSettings) : LogIssue → Prop where
  /-- The level is bad. -/
  | level (hlevel : ¬ NamesLevel s.level) : FirstBad s (.level s.level)
  /-- The layout is the first that is bad. -/
  | format (hlevel : NamesLevel s.level) (hformat : ¬ NamesFormat s.format) :
    FirstBad s (.format s.format)
  /-- The output is the first that is bad. -/
  | output (hlevel : NamesLevel s.level) (hformat : NamesFormat s.format)
    (houtput : ¬ NamesOutput s.output) : FirstBad s (.output s.output)
  /-- The level of a module is bad, and all else is not. -/
  | moduleLevel (hlevel : NamesLevel s.level) (hformat : NamesFormat s.format)
    (houtput : NamesOutput s.output) {name word : String} (hmodule : (name, word) ∈ s.modules)
    (hword : ¬ NamesLevel word) : FirstBad s (.moduleLevel name word)

/-- What there is to report of settings: a bad endpoint, and then the first bad setting of the
log. -/
inductive Settings.Reports (s : Settings) : List Issue → Prop where
  /-- Nothing is bad. -/
  | nothing (hurl : NamesScheme s.endpoint) (hlogging : s.logging.Valid) : Reports s []
  /-- The endpoint alone is bad. -/
  | endpoint (hurl : ¬ NamesScheme s.endpoint) (hlogging : s.logging.Valid) :
    Reports s [.endpoint s.endpoint]
  /-- The log settings alone are bad. -/
  | logging (hurl : NamesScheme s.endpoint) {issue : LogIssue} (hfirst : s.logging.FirstBad issue) :
    Reports s [.logging issue]
  /-- Both are bad. -/
  | both (hurl : ¬ NamesScheme s.endpoint) {issue : LogIssue} (hfirst : s.logging.FirstBad issue) :
    Reports s [.endpoint s.endpoint, .logging issue]

/-- No two modules have a bad level. -/
def LogSettings.OneBadModule (s : LogSettings) : Prop :=
  ∀ m ∈ s.modules, ∀ m' ∈ s.modules, ¬ NamesLevel m.2 → ¬ NamesLevel m'.2 → m = m'

instance (s : LogSettings) : Decidable s.OneBadModule :=
  inferInstanceAs (Decidable (∀ m ∈ s.modules, ∀ m' ∈ s.modules, _ → _ → _))

/-! ## What validation reports -/

theorem mem_formatWords_iff {word : String} : word ∈ formatWords ↔ NamesFormat word := by
  simp [formatWords, NamesFormat]

theorem mem_outputWords_iff {word : String} : word ∈ outputWords ↔ NamesOutput word := by
  simp [outputWords, NamesOutput]

namespace LogSettings

variable {s : LogSettings} {issue other : LogIssue}

theorem issue?_eq_none_iff_valid : s.issue? = none ↔ s.Valid := by
  rw [issue?_eq_none_iff, mem_formatWords_iff, mem_outputWords_iff]
  exact ⟨fun ⟨hlevel, hformat, houtput, hmodules⟩ => ⟨hlevel, hformat, houtput, hmodules⟩,
    fun h => ⟨h.level, h.format, h.output, h.modules⟩⟩

/-- An issue of log settings is that of the first setting that is bad. -/
theorem firstBad_of_issue? (h : s.issue? = some issue) : s.FirstBad issue := by
  rw [issue?] at h
  split at h
  · rename_i hlevel
    cases h
    exact .level hlevel
  · rename_i hlevel
    have hlevel := not_not.mp hlevel
    split at h
    · rename_i hformat
      cases h
      exact .format hlevel (mem_formatWords_iff.not.mp hformat)
    · rename_i hformat
      have hformat := mem_formatWords_iff.mp (not_not.mp hformat)
      split at h
      · rename_i houtput
        cases h
        exact .output hlevel hformat (mem_outputWords_iff.not.mp houtput)
      · rename_i houtput
        have houtput := mem_outputWords_iff.mp (not_not.mp houtput)
        obtain ⟨m, hfind, rfl⟩ := Option.map_eq_some_iff.mp h
        have hword : m.2 ∉ levelWords := by simpa using List.find?_some hfind
        exact .moduleLevel hlevel hformat houtput (List.mem_of_find?_eq_some hfind) hword

/-- Valid log settings have no first bad setting. -/
theorem FirstBad.not_valid (h : s.FirstBad issue) : ¬ s.Valid := by
  intro hvalid
  cases h with
  | level hlevel => exact hlevel hvalid.level
  | format _ hformat => exact hformat hvalid.format
  | output _ _ houtput => exact houtput hvalid.output
  | moduleLevel _ _ _ hmodule hword => exact hword (hvalid.modules _ hmodule)

/-- There is only one first bad setting, unless two modules have a bad level. -/
theorem FirstBad.unique (hone : s.OneBadModule) (h : s.FirstBad issue) (h' : s.FirstBad other) :
    issue = other := by
  cases h with
  | level hlevel =>
    cases h' with
    | level _ => rfl
    | format hother => exact absurd hother hlevel
    | output hother => exact absurd hother hlevel
    | moduleLevel hother => exact absurd hother hlevel
  | format hlevel hformat =>
    cases h' with
    | level hother => exact absurd hlevel hother
    | format _ _ => rfl
    | output _ hother => exact absurd hother hformat
    | moduleLevel _ hother => exact absurd hother hformat
  | output hlevel hformat houtput =>
    cases h' with
    | level hother => exact absurd hlevel hother
    | format _ hother => exact absurd hformat hother
    | output _ _ _ => rfl
    | moduleLevel _ _ hother => exact absurd hother houtput
  | moduleLevel hlevel hformat houtput hmodule hword =>
    cases h' with
    | level hother => exact absurd hlevel hother
    | format _ hother => exact absurd hformat hother
    | output _ _ hother => exact absurd houtput hother
    | moduleLevel _ _ _ hmodule' hword' =>
      obtain ⟨rfl, rfl⟩ := Prod.mk.inj (hone _ hmodule _ hmodule' hword hword')
      rfl

end LogSettings

namespace Settings

variable {s : Settings} {issues others : List Issue}

theorem hasUrl_eq_true_iff : s.hasUrl = true ↔ NamesScheme s.endpoint := by
  rw [hasUrl, Bool.or_eq_true, Text.startsWith_iff, Text.startsWith_iff]
  rfl

/-- What validation reports is what there is to report. -/
theorem reports_issues (s : Settings) : s.Reports s.issues := by
  unfold issues
  by_cases hurl : s.hasUrl = true
  · have hscheme := hasUrl_eq_true_iff.mp hurl
    rw [if_pos hurl, List.nil_append]
    cases hissue : s.logging.issue? with
    | none => exact .nothing hscheme (LogSettings.issue?_eq_none_iff_valid.mp hissue)
    | some issue => exact .logging hscheme (LogSettings.firstBad_of_issue? hissue)
  · have hscheme := hasUrl_eq_true_iff.not.mp hurl
    rw [if_neg hurl]
    cases hissue : s.logging.issue? with
    | none => exact .endpoint hscheme (LogSettings.issue?_eq_none_iff_valid.mp hissue)
    | some issue => exact .both hscheme (LogSettings.firstBad_of_issue? hissue)

/-- There is nothing to report of valid settings only. -/
theorem Reports.eq_nil_iff (h : s.Reports issues) : issues = [] ↔ s.Valid := by
  cases h with
  | nothing hurl hlogging => exact iff_of_true rfl ⟨hurl, hlogging⟩
  | endpoint hurl _ => exact iff_of_false (List.cons_ne_nil _ _) fun h => hurl h.endpoint
  | logging _ hfirst =>
    exact iff_of_false (List.cons_ne_nil _ _) fun h => hfirst.not_valid h.logging
  | both hurl _ => exact iff_of_false (List.cons_ne_nil _ _) fun h => hurl h.endpoint

/-- There is only one list to report, unless two modules have a bad level. -/
theorem Reports.unique (hone : s.logging.OneBadModule) (h : s.Reports issues)
    (h' : s.Reports others) : issues = others := by
  cases h with
  | nothing hurl hlogging =>
    cases h' with
    | nothing _ _ => rfl
    | endpoint hother _ => exact absurd hurl hother
    | logging _ hother => exact absurd hlogging hother.not_valid
    | both hother _ => exact absurd hurl hother
  | endpoint hurl hlogging =>
    cases h' with
    | nothing hother _ => exact absurd hother hurl
    | endpoint _ _ => rfl
    | logging hother _ => exact absurd hother hurl
    | both _ hother => exact absurd hlogging hother.not_valid
  | logging hurl hfirst =>
    cases h' with
    | nothing _ hother => exact absurd hother hfirst.not_valid
    | endpoint hother _ => exact absurd hurl hother
    | logging _ hfirst' => rw [hfirst.unique hone hfirst']
    | both hother _ => exact absurd hurl hother
  | both hurl hfirst =>
    cases h' with
    | nothing hother _ => exact absurd hother hurl
    | endpoint _ hother => exact absurd hother hfirst.not_valid
    | logging hother _ => exact absurd hother hurl
    | both _ hfirst' => rw [hfirst.unique hone hfirst']

/-- Validation accepts the valid settings. -/
theorem issues_eq_nil_iff_valid : s.issues = [] ↔ s.Valid := s.reports_issues.eq_nil_iff

/-! ## What loading gives -/

/-- The settings that the files and the environment amount to, before they are validated. -/
def Loading.unvalidated (w : World) (loading : Loading) : Except Fault Settings := do
  let layers ← fileLayers w (loading.files w)
  (Settings.layout w.environment Setting.Decoder.format (tree w.environment layers)).mapError
    .undecodable

/-- Loading ends with the validation of the settings that the sources amount to. -/
theorem Loading.result_eq_bind (w : World) (loading : Loading) :
    loading.result w = loading.unvalidated w >>= fun s =>
      if s.issues = [] then .ok s else .error (.invalid (s.issues.map (·.message))) := by
  have hmerged (layers : List Layer) : ofMerged w.environment (tree w.environment layers) =
      (Settings.layout w.environment Setting.Decoder.format
        (tree w.environment layers)).mapError .undecodable >>= fun s =>
          if s.issues = [] then .ok s else .error (.invalid (s.issues.map (·.message))) := by
    rw [ofMerged]
    cases Settings.layout w.environment Setting.Decoder.format (tree w.environment layers) with
    | error fault => rfl
    | ok s => exact checked_modules s
  rw [Loading.result_eq, ofFiles, Loading.unvalidated, bind_assoc]
  exact congrArg _ (funext hmerged)

/-- Settings are loaded exactly if the sources amount to them and they are valid. -/
theorem Loading.result_eq_ok_iff {w : World} {loading : Loading} :
    loading.result w = .ok s ↔ loading.unvalidated w = .ok s ∧ s.Valid := by
  rw [Loading.result_eq_bind, bind_eq_ok_iff]
  constructor
  · rintro ⟨other, hother, h⟩
    split at h
    · rename_i hissues
      cases h
      exact ⟨hother, issues_eq_nil_iff_valid.mp hissues⟩
    · cases h
  · rintro ⟨hs, hvalid⟩
    exact ⟨s, hs, if_pos (issues_eq_nil_iff_valid.mpr hvalid)⟩

/-- The text of the fault of settings that are not valid: a line that says so, and what is reported
of them, line by line. -/
def reportText (issues : List Issue) : String :=
  "Configuration error: " ++ ("Configuration validation failed:\n" ++
    "\n".intercalate (issues.map (·.message)))

theorem message_invalid (issues : List Issue) :
    (SetupFault.settings (Fault.invalid (issues.map (·.message))).message).message =
      reportText issues := rfl

/-- Validation accepts the valid settings and reports of all others what is bad. Loading gives
settings exactly if they are valid and the sources amount to them; if these amount to others, it
ends with a fault that lists what is reported of them. -/
theorem validation_is_exact :
    (∀ s : Settings, (s.issues = [] ↔ s.Valid) ∧ s.Reports s.issues ∧
      (s.logging.OneBadModule → ∀ issues, s.Reports issues → s.issues = issues)) ∧
    ∀ (w : World) (loading : Loading) (s : Settings),
      (loading.result w = .ok s ↔ loading.unvalidated w = .ok s ∧ s.Valid) ∧
      (loading.unvalidated w = .ok s → ¬ s.Valid → ∃ issues fault, s.Reports issues ∧
        loading.result w = .error fault ∧ fault = .invalid (issues.map (·.message)) ∧
          (SetupFault.settings fault.message).message = reportText issues) := by
  refine ⟨fun s => ⟨issues_eq_nil_iff_valid, s.reports_issues, fun hone issues h =>
    s.reports_issues.unique hone h⟩, fun w loading s => ⟨Loading.result_eq_ok_iff, ?_⟩⟩
  intro hs hvalid
  have hissues := issues_eq_nil_iff_valid.not.mpr hvalid
  refine ⟨s.issues, .invalid (s.issues.map (·.message)), s.reports_issues, ?_, rfl, ?_⟩
  · rw [Loading.result_eq_bind, hs]
    exact if_neg hissues
  · exact message_invalid _

/-- A workspace whose file gives a bad endpoint, and a bad layout and a bad level of a module to the
log. -/
def misconfiguredWorld : World where
  files := ⟨[(["ws"], .directory), (["ws", "config"], .directory),
    (["ws", "config", "telemetry.toml"],
      .file "endpoint = 'ftp://x'\nlogging = \x7bformat = 'xml', modules.a = 'loud'\x7d\n".toUTF8)]⟩
  cwd := []
  environment := []

/-- The settings that it amounts to. -/
def misconfigured : Settings :=
  { Settings.default [] with
    endpoint := "ftp://x"
    logging := { LogSettings.default [] with format := "xml", modules := [("a", "loud")] } }

/-- The endpoint and the layout are reported, and the level of the module is not. -/
theorem misconfigured_is_reported :
    (Loading.workspace "ws").unvalidated misconfiguredWorld = .ok misconfigured ∧
      ¬ misconfigured.Valid ∧ ∃ fault,
        (Loading.workspace "ws").result misconfiguredWorld = .error fault ∧
          (SetupFault.settings fault.message).message =
            "Configuration error: Configuration validation failed:\n" ++
              "Endpoint: 'ftp://x' is not an http(s) URL\n" ++
              "Logging: Invalid log format: xml (must be 'json' or 'text')" := by
  obtain ⟨hreports, hloading⟩ := validation_is_exact
  have hs : (Loading.workspace "ws").unvalidated misconfiguredWorld = .ok misconfigured := by
    decide +kernel
  have hbad : ¬ misconfigured.Valid := fun h => absurd h.logging.format (by decide)
  obtain ⟨issues, fault, hissues, hresult, -, hmessage⟩ := (hloading _ _ _).2 hs hbad
  refine ⟨hs, hbad, fault, hresult, ?_⟩
  rw [hmessage, ← (hreports misconfigured).2.2 (by decide) issues hissues]
  decide +kernel

end Settings

end TelemetryGate
