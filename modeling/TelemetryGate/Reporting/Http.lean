import TelemetryGate.Log.Record
import TelemetryGate.Reporting.SetupFault
import TelemetryGate.Reporting.Status
import TelemetryGate.Wire.Event

/-!
# Reporters over HTTP

A reporter that posts each event to an endpoint, in an envelope that carries the key. What becomes of
a request is seen in the log only: nothing is reported of an event that the server accepts, and one
record of every other.
-/

namespace TelemetryGate

/-- What answers the requests of a program. -/
structure Network where
  /-- A request to an endpoint can be issued. -/
  reaches : String → Bool
  /-- The answer to a request, by the number of requests before it; there may be none. -/
  answer : Nat → Option Status
  /-- What is said of an event that could not be delivered. -/
  failure : String

/-- A network in which no request can be issued. -/
def Network.unreachable (failure : String) : Network := ⟨fun _ => false, fun _ => none, failure⟩

/-- A request that was issued: a document that is sent to an endpoint. -/
structure Request where
  /-- What is done with the document. -/
  method : String
  /-- Where it is sent to. -/
  endpoint : String
  /-- What kind of document it is. -/
  contentType : String
  /-- The document. -/
  body : Json.Value
  deriving Repr

/-- The request that posts a JSON document to an endpoint. -/
def Request.post (endpoint : String) (body : Json.Value) : Request :=
  ⟨"POST", endpoint, "application/json", body⟩

/-- A reporter that posts events. -/
structure HttpReporter where
  /-- The key that events are posted under. -/
  key : String
  /-- Where events are posted to. -/
  endpoint : String
  deriving DecidableEq, Repr

namespace HttpReporter

/-- What is said when nothing runs that could post events. -/
def noRuntime : String :=
  "no async runtime available: there is no reactor running, must be called from the context of a " ++
    "Tokio 1.x runtime"

/-- A reporter under a key for an endpoint. Something has to run that can post events, and then a
client has to be built; what keeps it from being built is told. -/
def connect (runtime : Bool) (key endpoint : String) (unbuilt : Option String := none) :
    Except SetupFault HttpReporter :=
  if !runtime then .error (.reporter noRuntime)
  else match unbuilt with
    | some reason => .error (.reporter reason)
    | none => .ok ⟨key, endpoint⟩

/-- A description that does not tell the key. -/
def description (r : HttpReporter) : String :=
  "HttpReporter \x7b endpoint: " ++ Text.quoted r.endpoint ++ ", .. \x7d"

/-- The document that is posted for an event. -/
def envelope (r : HttpReporter) (time : String) (event : WireEvent) : Json.Value :=
  .object [
    ("data", .object [
      ("baseData", .object [
        ("measurements", .ofNumbers event.measurements),
        ("name", .text event.name),
        ("properties", .ofTexts event.properties),
        ("ver", .int 2)]),
      ("baseType", .text "EventData")]),
    ("iKey", .text r.key),
    ("name", .text "Microsoft.ApplicationInsights.Event"),
    ("time", .text time)]

/-- The place that reports on deliveries. -/
def target : String := "qsharp_telemetry::telemetry::reporter::http"

/-- The record of an event that the server does not accept. -/
def rejected (event : WireEvent) (status : Status) : Log.Record where
  level := .debug
  target := target
  message := "telemetry endpoint rejected event"
  fields := [("event", .quoted event.name), ("status", .shown status.text)]

/-- The record of an event that could not be delivered. -/
def undelivered (event : WireEvent) (failure : String) : Log.Record where
  level := .debug
  target := target
  message := "telemetry delivery failed"
  fields := [("event", .quoted event.name), ("error", .shown failure)]

/-- Deliver an event when some requests were issued before: the request, if one is issued, and the
record of what became of it. -/
def deliver (r : HttpReporter) (network : Network) (before : Nat) (time : String)
    (event : WireEvent) : Option Request × Option Log.Record :=
  if network.reaches r.endpoint then
    (some (.post r.endpoint (r.envelope time event)),
      match network.answer before with
      | none => some (undelivered event network.failure)
      | some status => if status.isSuccess then none else some (rejected event status))
  else (none, some (undelivered event network.failure))

end HttpReporter

end TelemetryGate
