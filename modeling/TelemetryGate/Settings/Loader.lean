import TelemetryGate.Log.Record
import TelemetryGate.Settings.File
import TelemetryGate.Settings.Override
import TelemetryGate.Settings.Validation
import TelemetryGate.Text.Blank

/-!
# Loading settings

Settings come in layers: the defaults, the file of the user, the files of the workspace and the
environment, each on top of those before. What comes out is checked. Tables are walked in the order
in which their entries stand; `Settings.MayLoad` is about all orders.
-/

namespace TelemetryGate.Settings

open Filesystem (Path.join)

/-- The places in the code that report on the search for files. -/
def globalTarget : String := "qsharp_telemetry::config::sources::global_file"

/-- The place that reports on the files of the workspace. -/
def workspaceTarget : String := "qsharp_telemetry::config::sources::workspace_file"

/-- The path of the user's file. -/
def globalPath? (v : Variables) : Option String :=
  let base := match (v.get? "XDG_CONFIG_HOME").filter (· ≠ "") with
    | some dir => some dir
    | none => (v.get? "HOME").map (Path.join · ".config")
  base.map fun dir => Path.join (Path.join dir projectName) "config.toml"

/-- The name of the variable that names the environment of a workspace. -/
def environmentVariable : String := "QSHARP_TELEMETRY_ENV"

/-- The environment of a workspace when none is named. -/
def defaultEnvironment : String := "development"

/-- The name of the environment of a workspace. -/
def environmentName (v : Variables) : String :=
  ((v.get? environmentVariable).filter fun name => Text.trim name ≠ "").getD defaultEnvironment

/-- The files that a workspace may have, the first one below. -/
def workspaceCandidates (root environment : String) : List String :=
  let dir := Path.join root "config"
  [Path.join dir "telemetry.toml", Path.join dir (environment ++ ".toml")]

/-- The files that a workspace has. -/
def workspaceFiles (w : World) (root environment : String) : List String :=
  (workspaceCandidates root environment).filter fun path => w.files.isFile w.cwd path

/-- The layer of defaults. All other defaults are those of the record. -/
def defaultLayer : Layer :=
  [("enabled", .scalar none (.bool true)), ("endpoint", .scalar none (.text defaultEndpoint))]

/-- The layers of some files, in their order. -/
def fileLayers (w : World) (files : List (String × Demand)) : Except Fault (List Layer) :=
  files.mapM fun f => fileLayer w f.2 f.1

/-- Settings, if there is nothing wrong with them. Their modules are looked at as they are listed
here. -/
def checked (s : Settings) (modules : Entries String) : Except Fault Settings :=
  match Settings.issues { s with logging := { s.logging with modules := modules } } with
  | [] => .ok s
  | issues => .error (.invalid (issues.map (·.message)))

theorem checked_eq (s : Settings) (modules : Entries String) : checked s modules =
    let issues := Settings.issues { s with logging := { s.logging with modules := modules } }
    if issues = [] then .ok s else .error (.invalid (issues.map (·.message))) := by
  rw [checked]
  split
  · rename_i hissues
    exact (if_pos hissues).symm
  · rename_i hissues
    exact (if_neg hissues).symm

/-- Looked at as they stand in the settings, the modules count with the other settings. -/
theorem checked_modules (s : Settings) : checked s s.logging.modules =
    if s.issues = [] then .ok s else .error (.invalid (s.issues.map (·.message))) :=
  checked_eq s s.logging.modules

/-- The settings that come from merged layers, if there is nothing wrong with them. -/
def ofMerged (v : Variables) (merged : Setting) : Except Fault Settings :=
  match Settings.layout v Setting.Decoder.format merged with
  | .error fault => .error (.undecodable fault)
  | .ok s => checked s s.logging.modules

/-- The settings that come from some files between the defaults and the environment. -/
def ofFiles (w : World) (files : List (String × Demand)) : Except Fault Settings := do
  let layers ← fileLayers w files
  ofMerged w.environment
    (Layer.merge (defaultLayer :: layers ++ [Override.layer w.environment]))

/-- The user's file, if something has its path, and what is reported otherwise. -/
def globalSource (w : World) : List (String × Demand) × List Log.Record :=
  match globalPath? w.environment with
  | none => ([], [])
  | some path =>
    if w.files.exists? w.cwd path then ([(path, .tolerant)], [])
    else ([], [⟨.debug, globalTarget, "no global telemetry config file",
      [("config_path", .shown path)]⟩])

/-- The files of a workspace, and what is reported if there are none. -/
def workspaceSource (w : World) (root : String) : List (String × Demand) × List Log.Record :=
  let environment := environmentName w.environment
  match workspaceFiles w root environment with
  | [] => ([], [⟨.debug, workspaceTarget, "no workspace telemetry config files",
      [("workspace", .shown root), ("environment", .shown environment)]⟩])
  | files => (files.map (·, .required), [])

/-- What loading settings gives: records, then settings or a fault. -/
structure Loaded where
  /-- What is reported on the way. -/
  records : List Log.Record
  /-- The settings. -/
  result : Except Fault Settings

/-- Load the settings of a workspace. -/
def load (w : World) (root : String) : Loaded :=
  let user := globalSource w
  let workspace := workspaceSource w root
  ⟨user.2 ++ workspace.2, ofFiles w (user.1 ++ workspace.1)⟩

/-- Load settings from one file. -/
def loadFile (w : World) (path : String) : Except Fault Settings := ofFiles w [(path, .required)]

end TelemetryGate.Settings
