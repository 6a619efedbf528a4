import TelemetryGate.Manifest
import TelemetryGate.Settings.Basic
import TelemetryGate.Text.Blank

/-!
# Sources of keys

Where an instrumentation key can come from. A key is usable if something is left of it without the
blank characters at its ends.
-/

namespace TelemetryGate

/-- What holds a key. -/
inductive KeySource where
  /-- A text. -/
  | text (s : String)
  /-- A text that may be absent. -/
  | optional (s : Option String)
  /-- A manifest. -/
  | manifest (m : Manifest)
  /-- Settings. -/
  | settings (s : Settings)
  deriving DecidableEq, Repr

namespace KeySource

/-- The key as the source holds it. -/
def held : KeySource → Option String
  | .text s => some s
  | .optional s => s
  | .manifest m => m.aiKey
  | .settings s => s.instrumentationKey

/-- The key of the source without blank characters at its ends, if something is left. -/
def usableKey (source : KeySource) : Option String :=
  (source.held.map Text.trim).filter (· ≠ "")

end KeySource

end TelemetryGate
