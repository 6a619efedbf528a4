import TelemetryGate.Entries
import TelemetryGate.Filesystem.Tree

/-!
# The surroundings of a program

The variables that a program is started with, the file tree that it sees, and its working directory.
-/

namespace TelemetryGate

/-- The values of environment variables by their names. -/
abbrev Variables := Entries String

/-- What a program sees of the machine that it runs on. -/
structure World where
  /-- The file tree. -/
  files : Filesystem.Tree
  /-- The working directory. -/
  cwd : Filesystem.Location
  /-- The environment variables. -/
  environment : Variables

end TelemetryGate
