import TelemetryGate.Wire.Event

/-!
# Reporters in memory

A reporter that keeps the events which it is sent, in their order.
-/

namespace TelemetryGate

/-- A reporter that keeps its events. -/
structure MemoryReporter where
  /-- The key that it was connected with. -/
  key : Option String := none
  /-- The events that it was sent, the first one first. -/
  events : List WireEvent := []
  deriving DecidableEq, Repr

namespace MemoryReporter

/-- The reporter after one more event. -/
def send (r : MemoryReporter) (event : WireEvent) : MemoryReporter :=
  { r with events := r.events ++ [event] }

/-- How many events the reporter was sent. -/
def size (r : MemoryReporter) : Nat := r.events.length

/-- The reporter was sent nothing. -/
def isEmpty (r : MemoryReporter) : Bool := r.events.isEmpty

/-- The names of the events. -/
def names (r : MemoryReporter) : List String := r.events.map (·.name)

@[simp]
theorem events_send (r : MemoryReporter) (event : WireEvent) :
    (r.send event).events = r.events ++ [event] := rfl

@[simp]
theorem key_send (r : MemoryReporter) (event : WireEvent) : (r.send event).key = r.key := rfl

end MemoryReporter

end TelemetryGate
