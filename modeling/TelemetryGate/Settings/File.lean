import TelemetryGate.Environment
import TelemetryGate.Json.Document
import TelemetryGate.Settings.Decoder
import TelemetryGate.Settings.Merging
import TelemetryGate.Toml.Document

/-!
# Settings files

Finding a settings file and reading the layer that it gives. The ending of the file's name tells its
format. A path that names no file is tried with each known ending.
-/

namespace TelemetryGate

/-- The format of a settings file. -/
inductive FileFormat where
  /-- TOML text. -/
  | toml
  /-- JSON text. -/
  | json
  deriving DecidableEq, Repr

/-- The ending of the names of files of a format. -/
def FileFormat.ending : FileFormat → String
  | .toml => "toml"
  | .json => "json"

/-- All formats, in the order in which their endings are tried. -/
def FileFormat.all : List FileFormat := [.toml, .json]

namespace Settings

/-- Why settings cannot be had. -/
inductive Fault where
  /-- No file has the name. -/
  | missing (path : String)
  /-- The ending of the file's name is unknown. -/
  | unknownFormat (path : String)
  /-- The file cannot be read. -/
  | unreadable (fault : Filesystem.Fault)
  /-- The text of the file is not well formed. -/
  | malformed (origin : String)
  /-- The file holds something else than a table. -/
  | noTable (found : Decoding.Found) (origin : String)
  /-- A setting cannot be read. -/
  | undecodable (fault : Setting.Fault)
  /-- Settings have issues. -/
  | invalid (issues : List String)
  deriving DecidableEq, Repr

/-- The text of a fault. -/
def Fault.message : Fault → String
  | .missing path => "configuration file \"" ++ path ++ "\" not found"
  | .unknownFormat path =>
    "configuration file \"" ++ path ++ "\" is not of a registered file format"
  | .unreadable fault => fault.message
  | .malformed origin => "configuration file \"" ++ origin ++ "\" is not well formed"
  | .noTable found origin =>
    (Setting.Fault.kind found "a map" none (some origin)).message ++ " in " ++ origin
  | .undecodable fault => fault.message
  | .invalid issues => "Configuration validation failed:\n" ++ "\n".intercalate issues

/-- A settings file that was found. -/
structure Located where
  /-- The path of the file from the root. -/
  path : String
  /-- The format of the file. -/
  format : FileFormat
  deriving DecidableEq, Repr

/-- The path of the working directory. -/
def cwdPath (w : World) : String := "/" ++ "/".intercalate w.cwd

/-- A path with an ending added to its last name, if it has one. What stands in front of the name
stays as it is written. -/
def withEnding (path ending : String) : Option String :=
  match (Text.pieces '/' path).reverse.dropWhile fun s => s = "" ∨ s = "." with
  | [] => none
  | n :: before =>
    if n = ".." then none
    else some ("/".intercalate (before.reverse ++ [n ++ "." ++ ending]))

/-- The format of a file by the ending of its name. -/
def formatOf? (path : String) : Option FileFormat :=
  match (Filesystem.Path.components path).getLast? with
  | some (.name n) =>
    FileFormat.all.find? fun f => Filesystem.Path.extension? n = some f.ending
  | _ => none

/-- Find the file that a path means. -/
def locate (w : World) (path : String) : Except Fault Located :=
  let full := Filesystem.Path.join (cwdPath w) path
  if w.files.isFile w.cwd full then
    match formatOf? full with
    | some format => .ok ⟨full, format⟩
    | none => .error (.unknownFormat full)
  else
    let candidates := FileFormat.all.filterMap fun format =>
      (withEnding full format.ending).map fun p => (⟨p, format⟩ : Located)
    match candidates.find? fun c => w.files.isFile w.cwd c.path with
    | some c => .ok c
    | none => .error (.missing path)

/-- The name of a file in faults: its path from the working directory. -/
def Located.origin (w : World) (l : Located) : String :=
  Filesystem.Path.ofSteps
    (Filesystem.Path.relative (Filesystem.Path.components l.path) (w.cwd.map .name))

/-- The layer of a text in a format. -/
def layerOf (format : FileFormat) (origin source : String) : Except Fault Layer :=
  match format with
  | .toml =>
    match Toml.read source with
    | none => .error (.malformed origin)
    | some entries => .ok (Setting.ofTomlEntries (some origin) entries)
  | .json =>
    match Json.Value.ofText source with
    | .error _ => .error (.malformed origin)
    | .ok v =>
      match Setting.ofJson (some origin) v with
      | .table _ entries => .ok entries
      | s => .error (.noTable s.found origin)

/-- What a source of settings does when its file cannot be found or read. -/
inductive Demand where
  /-- That is a fault. -/
  | required
  /-- It gives no settings. -/
  | tolerant
  deriving DecidableEq, Repr

/-- The layer of the file that a path means. -/
def fileLayer (w : World) (demand : Demand) (path : String) : Except Fault Layer :=
  let found : Except Fault (Located × String) := do
    let l ← locate w path
    match w.files.readText w.cwd l.path with
    | .ok source => .ok (l, source)
    | .error fault => .error (.unreadable fault)
  match found, demand with
  | .ok (l, source), _ => layerOf l.format (l.origin w) source
  | .error _, .tolerant => .ok []
  | .error fault, .required => .error fault

end Settings

end TelemetryGate
