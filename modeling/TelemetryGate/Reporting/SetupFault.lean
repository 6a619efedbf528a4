import TelemetryGate.Manifest

/-!
# Faults of setting up

Why something could not be set up. Sending events never fails; these faults come from loading
settings, reading manifests, connecting reporters, installing logs, and filling the slot of a process
twice.
-/

namespace TelemetryGate

/-- Why something could not be set up. -/
inductive SetupFault where
  /-- The slot of the process is filled. -/
  | alreadyFilled
  /-- There are no settings, for a stated reason. -/
  | settings (reason : String)
  /-- There is no manifest. -/
  | manifest (fault : Manifest.Fault)
  /-- There is no reporter, for a stated reason. -/
  | reporter (reason : String)
  /-- There is no log, for a stated reason. -/
  | logging (reason : String)
  deriving DecidableEq, Repr

/-- The text of a fault. -/
def SetupFault.message : SetupFault → String
  | .alreadyFilled => "Telemetry already initialized for this process"
  | .settings reason => "Configuration error: " ++ reason
  | .manifest fault => fault.message
  | .reporter reason => "Reporting client error: " ++ reason
  | .logging reason => "Logging error: " ++ reason

end TelemetryGate
