import TelemetryGate.Json.Reader
import TelemetryGate.Environment

/-!
# Package manifests

The packaging data of a host extension, of which the key is of interest. A manifest is a JSON record
whose fields may all be missing or `null`; any other fields are skipped.
-/

namespace TelemetryGate

open Decoding (Format Field)

/-- The packaging data of a host. -/
structure Manifest where
  /-- The name of the package. -/
  name : Option String := none
  /-- The version of the package. -/
  version : Option String := none
  /-- The instrumentation key. -/
  aiKey : Option String := none
  deriving DecidableEq, Repr

namespace Manifest

/-- The record of a manifest in any format. -/
def layout {ρ : Type → Type} [Functor ρ] (f : Format ρ) : ρ Manifest :=
  f.record "struct PackageManifest"
    [.of "name" (f.optional f.text) fun m s => { m with name := s },
      .of "version" (f.optional f.text) fun m s => { m with version := s },
      .of "aiKey" (f.optional f.text) fun m s => { m with aiKey := s }]
    {}

/-- Why there is no manifest. -/
inductive Fault where
  /-- The file of a path cannot be read. -/
  | unreadable (path : String) (fault : Filesystem.Fault)
  /-- The text is no manifest. -/
  | malformed (source : String) (fault : Json.Fault)
  deriving DecidableEq, Repr

/-- The text of a fault. -/
def Fault.message : Fault → String
  | .unreadable path fault =>
    "Failed to read package manifest " ++ Text.quotedPath path ++ ": " ++ fault.message
  | .malformed source fault => "Invalid package manifest: " ++ fault.message source

/-- The manifest of a JSON text. -/
def ofText (source : String) : Except Fault Manifest :=
  match (Json.Reader.whole (layout Json.Reader.format)).run source with
  | .ok m => .ok m
  | .error fault => .error (.malformed source fault)

/-- The manifest in the file of a path. -/
def load (w : World) (path : String) : Except Fault Manifest :=
  match w.files.readText w.cwd path with
  | .ok source => ofText source
  | .error fault => .error (.unreadable path fault)

end Manifest

end TelemetryGate
