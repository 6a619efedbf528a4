import TelemetryGate.Log.Filter
import TelemetryGate.Log.Line
import TelemetryGate.Settings.Validation

/-!
# Installing a log

A host has at most one log. Installing one checks the settings, chooses the filter, opens the file if
the lines go to a file, takes the place of the log if it is still free, and takes the records of the
`log` interface if they go nowhere else. The first of these stages that fails gives the fault; what
was done before stays: directories, files, and in the end the log itself.
-/

namespace TelemetryGate.Log

open Filesystem (Location)

/-- Where the lines go. -/
inductive Sink where
  /-- The standard output. -/
  | stdout
  /-- The standard error. -/
  | stderr
  /-- The file at a place. -/
  | file (place : Location)
  deriving DecidableEq, Repr

/-- A log that is installed. -/
structure Logger where
  /-- Which records are written. -/
  filter : Filter
  /-- How they are written. -/
  layout : Layout
  /-- Where they are written to. -/
  sink : Sink
  deriving DecidableEq, Repr

/-- A running program as far as its log is concerned. -/
structure Host where
  /-- What the program sees of its machine. -/
  world : World
  /-- The log, once it is installed. -/
  logger : Option Logger := none
  /-- What was written to the standard output. -/
  stdout : String := ""
  /-- What was written to the standard error. -/
  stderr : String := ""
  /-- The records of the `log` interface go somewhere. Only one place can take them. -/
  forwarded : Bool := false
  /-- What speaks against values of fields in directives. -/
  against : Objections := fun _ => none

/-- Why a log cannot be installed. -/
inductive Fault where
  /-- The settings have an issue. -/
  | issue (i : LogIssue)
  /-- The level of a module makes no directive. -/
  | directive (fault : Directive.Fault)
  /-- The directory of the file cannot be made. -/
  | directory (fault : Filesystem.Fault)
  /-- The file of a path cannot be opened. -/
  | file (path : String) (fault : Filesystem.Fault)
  /-- There is a log already. -/
  | taken
  /-- The log is in place, but the records of the `log` interface go somewhere else already. -/
  | forwarded
  deriving DecidableEq, Repr

/-- The text of a fault. -/
def Fault.message : Fault → String
  | .issue i => i.message
  | .directive fault => "Invalid log directive: " ++ fault.message
  | .directory fault => "Failed to create log directory: " ++ fault.message
  | .file path fault =>
    "Failed to open log file " ++ Text.quotedPath path ++ ": " ++ fault.message
  | .taken => "a global default trace dispatcher has already been set"
  | .forwarded =>
    "attempted to set a logger after the logging system was already initialized"

namespace Host

/-- Write a text to a sink. -/
def put (h : Host) (sink : Sink) (s : String) : Host :=
  match sink with
  | .stdout => { h with stdout := h.stdout ++ s }
  | .stderr => { h with stderr := h.stderr ++ s }
  | .file place => { h with world := { h.world with files := h.world.files.append place s } }

/-- Write a record to the log, if there is one that lets it pass. -/
def write (h : Host) (time : String) (r : Record) : Host :=
  match h.logger with
  | none => h
  | some logger =>
    if logger.filter.admits r then h.put logger.sink (logger.layout.line time r) else h

/-- Open the file of a path and make the directories that it stands in. -/
def openFile (h : Host) (path : String) : Host × Except Fault Location :=
  match h.world.files.makeParents h.world.cwd path with
  | (files, some fault) => ({ h with world := { h.world with files } }, .error (.directory fault))
  | (files, none) =>
    match files.openAppend h.world.cwd path with
    | .error fault => ({ h with world := { h.world with files } }, .error (.file path fault))
    | .ok (files, place) => ({ h with world := { h.world with files } }, .ok place)

/-- Open the sink that log settings name. Settings without issue name no other outputs than these. -/
def openSink (h : Host) (s : LogSettings) : Host × Except Fault Sink :=
  if s.output = "stdout" then (h, .ok .stdout)
  else if s.output = "stderr" then (h, .ok .stderr)
  else
    match h.openFile s.file with
    | (h, .ok place) => (h, .ok (.file place))
    | (h, .error fault) => (h, .error fault)

/-- The layout that log settings name. Lines in a file are never coloured. -/
def layoutOf (s : LogSettings) : Layout :=
  if s.format = "json" then .json else .text (s.color && s.output ≠ "file")

/-- Take the place of the log, then that of the `log` interface. The first place stays taken even if
the second one is not free. -/
def install (h : Host) (logger : Logger) : Host × Except Fault Unit :=
  match h.logger with
  | some _ => (h, .error .taken)
  | none =>
    let h := { h with logger := some logger }
    if h.forwarded then (h, .error .forwarded) else ({ h with forwarded := true }, .ok ())

/-- Set up the log that settings describe; no settings stand for the defaults. -/
def setUpLog (h : Host) (settings : Option LogSettings) : Host × Except Fault Unit :=
  let s := settings.getD (.default h.world.environment)
  if !s.enabled then (h, .ok ())
  else
    match s.issue? with
    | some issue => (h, .error (.issue issue))
    | none =>
      match Filter.choose h.against h.world.environment s with
      | .error fault => (h, .error (.directive fault))
      | .ok filter =>
        match h.openSink s with
        | (h, .error fault) => (h, .error fault)
        | (h, .ok sink) => h.install ⟨filter, layoutOf s, sink⟩

end Host

end TelemetryGate.Log
