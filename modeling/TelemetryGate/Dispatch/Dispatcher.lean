import TelemetryGate.KeySource
import TelemetryGate.Log.Record
import TelemetryGate.Reporting.SetupFault
import TelemetryGate.Wire.Event

/-!
# Dispatchers

A dispatcher stands between a host and a reporter. It is bound to a reporter if telemetry is not
switched off, a usable key is found and the reporter can be connected; then it announces itself once
and delivers every emission. In every other case emissions are dropped, which only the log tells.

What a dispatcher does is given as a list of effects, in their order, for any kind of reporter.
-/

namespace TelemetryGate

/-- What a dispatcher does to its surroundings, with reporters of some kind. -/
inductive Effect (ρ : Type) where
  /-- It reports something to the log. -/
  | logged (record : Log.Record)
  /-- It reads the manifest of a path. -/
  | manifestRead (path : String)
  /-- It asks for a reporter under a key, and for an endpoint if there is one. -/
  | connected (key : String) (endpoint : Option String)
  /-- It sends an event to a reporter. -/
  | delivered (reporter : ρ) (event : WireEvent)
  deriving Repr

/-- What makes a reporter for a key, and for an endpoint if there is one. -/
abbrev Connector (ρ : Type) := String → Option String → Except SetupFault ρ

/-- Whether a dispatcher passes events on. -/
inductive DispatcherState where
  /-- Not set up. -/
  | uninitialized
  /-- Set up without a reporter. -/
  | disabled
  /-- Bound to a reporter. -/
  | active
  deriving DecidableEq, Repr

/-- The name of a state. -/
def DispatcherState.name : DispatcherState → String
  | .uninitialized => "Uninitialized"
  | .disabled => "Disabled"
  | .active => "Active"

/-- What can be seen of a dispatcher: its state, and never its reporter. -/
structure Look where
  /-- The state. -/
  state : DispatcherState
  deriving DecidableEq, Repr

/-- The dispatcher is seen to pass events on. -/
def Look.isActive (l : Look) : Bool := l.state = .active

/-- A description of what is seen. -/
def Look.description (l : Look) : String :=
  "Telemetry \x7b state: " ++ l.state.name ++ ", .. \x7d"

/-- What stands between a host and a reporter. -/
inductive Dispatcher (ρ : Type) where
  /-- Not set up. -/
  | uninitialized
  /-- Set up without a reporter. -/
  | disabled
  /-- Bound to a reporter. -/
  | active (reporter : ρ)
  deriving DecidableEq, Repr

/-- What a dispatcher is set up from. -/
inductive Setup where
  /-- The key of a source. -/
  | key (source : KeySource)
  /-- Settings, with their key or that of their manifest. -/
  | settings (s : Settings)
  deriving DecidableEq, Repr

namespace Dispatcher

/-- The place that reports on dispatchers. -/
def target : String := "qsharp_telemetry::telemetry::dispatcher"

/-- A record about an event that is dropped. -/
def dropped (event : EventName) : Log.Record where
  level := .trace
  target := target
  message := "telemetry reporter not initialized; dropping event"
  fields := [("event", .quoted event.wireName)]

/-- The record of an event that was sent. -/
def sent (event : WireEvent) : Log.Record where
  level := .debug
  target := target
  message := "sent telemetry event"
  fields := [("event", .quoted event.name),
    ("properties", .shown (Json.Value.ofTexts event.properties).render),
    ("measurements", .shown (Json.Value.ofNumbers event.measurements).render)]

/-- The record of an emission without flat form. -/
def unencoded (event : EventName) (fault : Wire.Fault) : Log.Record where
  level := .warn
  target := target
  message := "failed to encode telemetry event"
  fields := [("event", .quoted event.wireName), ("error", .shown fault.message)]

/-- The record of settings that switch telemetry off. -/
def switchedOff : Log.Record :=
  ⟨.trace, target, "telemetry disabled by configuration", []⟩

/-- The record of a source without usable key. -/
def keyless : Log.Record :=
  ⟨.trace, target, "no instrumentation key available; telemetry disabled", []⟩

/-- The record of settings that lead to no source of a key. -/
def sourceless : Log.Record :=
  ⟨.trace, target, "no instrumentation key configured; telemetry disabled", []⟩

/-- The record of a reporter that could not be connected. -/
def unconnected (fault : SetupFault) : Log.Record :=
  ⟨.warn, target, "failed to construct telemetry reporter; telemetry disabled",
    [("error", .shown fault.message)]⟩

/-- The record of a manifest that could not be read. -/
def manifestUnread (path : String) (fault : Manifest.Fault) : Log.Record :=
  ⟨.warn, target, "failed to read package manifest",
    [("manifest", .shown path), ("error", .shown fault.message)]⟩

variable {ρ : Type}

/-- The state of a dispatcher. -/
def state : Dispatcher ρ → DispatcherState
  | .uninitialized => .uninitialized
  | .disabled => .disabled
  | .active _ => .active

/-- The reporter of a dispatcher. -/
def reporter? : Dispatcher ρ → Option ρ
  | .active r => some r
  | _ => none

/-- A dispatcher is bound to a reporter. -/
def isActive (d : Dispatcher ρ) : Bool := d.reporter?.isSome

@[simp]
theorem isActive_iff (d : Dispatcher ρ) : d.isActive = true ↔ d.state = .active := by
  cases d <;> simp [isActive, reporter?, state]

/-- What can be seen of a dispatcher. -/
def look (d : Dispatcher ρ) : Look := ⟨d.state⟩

/-- A description that does not tell the reporter. -/
def description (d : Dispatcher ρ) : String := d.look.description

/-- What an emission does. -/
def emit (d : Dispatcher ρ) (e : Emission) : List (Effect ρ) :=
  match d with
  | .active r =>
    match e.wire with
    | .ok event => [.delivered r event, .logged (sent event)]
    | .error fault => [.logged (unencoded e.event fault)]
  | _ => [.logged (dropped e.event)]

/-- What announces a dispatcher that was set up: the startup event if it is bound. -/
def announce (d : Dispatcher ρ) : List (Effect ρ) :=
  match d with
  | .active _ => d.emit .startup
  | _ => []

/-- What is not bound to a reporter delivers nothing. -/
theorem emit_of_isActive_eq_false {d : Dispatcher ρ} (h : d.isActive = false) (e : Emission) :
    d.emit e = [.logged (dropped e.event)] := by
  cases d with
  | active r => simp [isActive, reporter?] at h
  | _ => rfl

/-- Bind a dispatcher under the key of a source. -/
def bind (source : KeySource) (endpoint : Option String) (connect : Connector ρ) :
    List (Effect ρ) × Dispatcher ρ :=
  match source.usableKey with
  | none => ([.logged keyless], .disabled)
  | some key =>
    match connect key endpoint with
    | .ok r => ([.connected key endpoint], .active r)
    | .error fault => ([.connected key endpoint, .logged (unconnected fault)], .disabled)

/-- Bind a dispatcher under the key of settings, or that of their manifest if they have none. -/
def bindSettings (w : World) (s : Settings) (connect : Connector ρ) :
    List (Effect ρ) × Dispatcher ρ :=
  if !s.enabled then ([.logged switchedOff], .disabled)
  else if (KeySource.settings s).usableKey.isSome then bind (.settings s) (some s.endpoint) connect
  else
    match s.manifest with
    | none => ([.logged sourceless], .disabled)
    | some path =>
      match Manifest.load w path with
      | .error fault =>
        ([.manifestRead path, .logged (manifestUnread path fault), .logged sourceless], .disabled)
      | .ok m =>
        let (effects, d) := bind (.manifest m) (some s.endpoint) connect
        (.manifestRead path :: effects, d)

/-- Bind a dispatcher for what it is set up from. -/
def bindSetup (w : World) (setup : Setup) (connect : Connector ρ) :
    List (Effect ρ) × Dispatcher ρ :=
  match setup with
  | .key source => bind source none connect
  | .settings s => bindSettings w s connect

/-- Set up a dispatcher: bind it, then announce it. -/
def setUp (w : World) (setup : Setup) (connect : Connector ρ) : List (Effect ρ) × Dispatcher ρ :=
  let (effects, d) := bindSetup w setup connect
  (effects ++ d.announce, d)

end Dispatcher

end TelemetryGate
