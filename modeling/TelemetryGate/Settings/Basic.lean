import TelemetryGate.Json.Printer
import TelemetryGate.Decoding.Format
import TelemetryGate.Environment

/-!
# Settings

The settings of telemetry and of its log, with their defaults, their record in any format, and their
JSON value. The default log file depends on the environment, hence so do the defaults.
-/

namespace TelemetryGate

open Decoding (Format Field)
open Filesystem (Path.join Path.isAbsolute)

/-- The settings of the log. -/
structure LogSettings where
  /-- The log is written at all. -/
  enabled : Bool
  /-- The least severe level that is written. -/
  level : String
  /-- The layout of the lines. -/
  format : String
  /-- Where the lines go. -/
  output : String
  /-- The file that they go to, if it is a file. -/
  file : String
  /-- Lines of text on a terminal are coloured. -/
  color : Bool
  /-- The levels of single modules. -/
  modules : Entries String
  deriving DecidableEq, Repr

/-- The settings of telemetry. -/
structure Settings where
  /-- Telemetry is sent, if there is a key. -/
  enabled : Bool
  /-- The instrumentation key. -/
  instrumentationKey : Option String
  /-- Where events are posted to. -/
  endpoint : String
  /-- The manifest that the key is read from when there is none here. -/
  manifest : Option String
  /-- The settings of the log. -/
  logging : LogSettings
  deriving DecidableEq, Repr

/-- The name of the project in paths. -/
def projectName : String := "qsharp-telemetry"

/-- The name of the log file. -/
def logFileName : String := "telemetry.log"

/-- The default log file: in the state directory of the user, or in the working directory when the
user has no home. -/
def defaultLogFile (v : Variables) : String :=
  match (v.get? "HOME").filter (· ≠ "") with
  | none => ".qsharp/telemetry.log"
  | some home =>
    let base := match (v.get? "XDG_STATE_HOME").filter (Path.isAbsolute ·) with
      | some state => state
      | none => Path.join home ".local/state"
    Path.join (Path.join base projectName) logFileName

/-- The endpoint that events are posted to by default. -/
def defaultEndpoint : String := "https://dc.services.visualstudio.com/v2/track"

/-- The settings of the log when none are given. -/
def LogSettings.default (v : Variables) : LogSettings where
  enabled := true
  level := "info"
  format := "text"
  output := "stderr"
  file := defaultLogFile v
  color := true
  modules := []

/-- The settings when none are given. -/
def Settings.default (v : Variables) : Settings where
  enabled := true
  instrumentationKey := none
  endpoint := defaultEndpoint
  manifest := none
  logging := .default v

section Layout

variable {ρ : Type → Type} [Functor ρ]

/-- The fields of log settings in any format. -/
def LogSettings.fields (f : Format ρ) : List (Field ρ LogSettings) :=
  [.of "enabled" f.flag fun s b => { s with enabled := b },
    .of "level" f.text fun s t => { s with level := t },
    .of "format" f.text fun s t => { s with format := t },
    .of "output" f.text fun s t => { s with output := t },
    .of "file" f.path fun s t => { s with file := t },
    .of "color" f.flag fun s b => { s with color := b },
    .of "modules" f.texts fun s m => { s with modules := m }]

/-- The record of log settings in any format. -/
def LogSettings.layout (v : Variables) (f : Format ρ) : ρ LogSettings :=
  f.record "struct LoggingConfig" (LogSettings.fields f) (.default v)

/-- The fields of settings in any format. -/
def Settings.fields (v : Variables) (f : Format ρ) : List (Field ρ Settings) :=
  [.of "enabled" f.flag fun s b => { s with enabled := b },
    .of "instrumentation_key" (f.optional f.text) fun s t => { s with instrumentationKey := t },
    .of "endpoint" f.text fun s t => { s with endpoint := t },
    .of "manifest" (f.optional f.path) fun s t => { s with manifest := t },
    .of "logging" (LogSettings.layout v f) fun s l => { s with logging := l }]

/-- The record of settings in any format. -/
def Settings.layout (v : Variables) (f : Format ρ) : ρ Settings :=
  f.record "struct TelemetryConfig" (Settings.fields v f) (.default v)

end Layout

/-- The JSON value of log settings. -/
def LogSettings.json (s : LogSettings) : Json.Value :=
  .object [("enabled", .bool s.enabled), ("level", .text s.level), ("format", .text s.format),
    ("output", .text s.output), ("file", .text s.file), ("color", .bool s.color),
    ("modules", .ofTexts s.modules)]

/-- The JSON value of a text that may be absent. -/
def optionalText : Option String → Json.Value
  | none => .null
  | some s => .text s

/-- The JSON value of settings. -/
def Settings.json (s : Settings) : Json.Value :=
  .object [("enabled", .bool s.enabled),
    ("instrumentation_key", optionalText s.instrumentationKey), ("endpoint", .text s.endpoint),
    ("manifest", optionalText s.manifest), ("logging", s.logging.json)]

end TelemetryGate
