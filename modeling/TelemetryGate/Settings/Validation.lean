import TelemetryGate.Settings.Basic

/-!
# Validation

What is wrong with settings that could be read. The log settings are checked in the order level,
format, output, modules, and only the first issue is reported; the endpoint is checked apart.
-/

namespace TelemetryGate

/-- The levels that settings may name. -/
def levelWords : List String := ["trace", "debug", "info", "warn", "error", "off"]

/-- The layouts that settings may name. -/
def formatWords : List String := ["json", "text"]

/-- The outputs that settings may name. -/
def outputWords : List String := ["stdout", "stderr", "file"]

/-- What is wrong with log settings. -/
inductive LogIssue where
  /-- The level is unknown. -/
  | level (word : String)
  /-- The layout is unknown. -/
  | format (word : String)
  /-- The output is unknown. -/
  | output (word : String)
  /-- The level of a module is unknown. -/
  | moduleLevel (module word : String)
  deriving DecidableEq, Repr

/-- The text of an issue. -/
def LogIssue.message : LogIssue → String
  | .level word => "Invalid log level: " ++ word
  | .format word => "Invalid log format: " ++ word ++ " (must be 'json' or 'text')"
  | .output word =>
    "Invalid log output: " ++ word ++ " (must be 'stdout', 'stderr', or 'file')"
  | .moduleLevel module word => "Invalid log level for " ++ module ++ ": " ++ word

/-- The first issue of log settings. The modules are looked at in the order in which they stand. -/
def LogSettings.issue? (s : LogSettings) : Option LogIssue :=
  if s.level ∉ levelWords then some (.level s.level)
  else if s.format ∉ formatWords then some (.format s.format)
  else if s.output ∉ outputWords then some (.output s.output)
  else (s.modules.find? (·.2 ∉ levelWords)).map fun m => .moduleLevel m.1 m.2

/-- Log settings without issue name known words only. -/
theorem LogSettings.issue?_eq_none_iff {s : LogSettings} :
    s.issue? = none ↔ s.level ∈ levelWords ∧ s.format ∈ formatWords ∧ s.output ∈ outputWords ∧
      ∀ m ∈ s.modules, m.2 ∈ levelWords := by
  rw [issue?]
  by_cases hlevel : s.level ∈ levelWords
  · by_cases hformat : s.format ∈ formatWords
    · by_cases houtput : s.output ∈ outputWords
      · simp [hlevel, hformat, houtput]
      · simp [hlevel, hformat, houtput]
    · simp [hlevel, hformat]
  · simp [hlevel]

/-- What is wrong with settings. -/
inductive Issue where
  /-- The endpoint is no URL that can be posted to. -/
  | endpoint (url : String)
  /-- Something is wrong with the log settings. -/
  | logging (issue : LogIssue)
  deriving DecidableEq, Repr

/-- The text of an issue. -/
def Issue.message : Issue → String
  | .endpoint url => "Endpoint: '" ++ url ++ "' is not an http(s) URL"
  | .logging issue => "Logging: " ++ issue.message

/-- The endpoint names one of the two schemes that can be posted to. -/
def Settings.hasUrl (s : Settings) : Bool :=
  Text.startsWith s.endpoint "http://" || Text.startsWith s.endpoint "https://"

/-- The issues of settings: that of the endpoint, then that of the log. -/
def Settings.issues (s : Settings) : List Issue :=
  (if s.hasUrl then [] else [.endpoint s.endpoint]) ++
    s.logging.issue?.toList.map .logging

end TelemetryGate
