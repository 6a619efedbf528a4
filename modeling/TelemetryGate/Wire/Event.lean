import TelemetryGate.Catalogue.Emission
import TelemetryGate.Wire.Data
import TelemetryGate.Binary64.Rounding

/-!
# Wire events

What a reporting client receives: the name of an event, flat properties and flat measurements. The
payload of an emission is turned into data and flattened; absent fields, and numbers that are not
finite, are left out.
-/

namespace TelemetryGate

/-- An event in its flat form. -/
structure WireEvent where
  /-- The event. -/
  event : EventName
  /-- The properties in the order of their names. -/
  properties : Entries String
  /-- The measurements in the order of their names. -/
  measurements : Entries Binary64
  deriving DecidableEq, Repr

/-- The name under which the event is reported. -/
def WireEvent.name (w : WireEvent) : String := w.event.wireName

namespace Wire

/-- Why a payload has no flat form. -/
inductive Fault where
  /-- It has no JSON value. -/
  | encoding (fault : EncodingFault)
  /-- Its JSON value is no object. -/
  | notARecord (event : EventName)
  /-- A measurement is no number. -/
  | notNumeric (event : EventName) (field : String)
  deriving DecidableEq, Repr

/-- The text of a fault. -/
def Fault.message : Fault → String
  | .encoding fault => "Failed to serialize payload: " ++ fault.message
  | .notARecord event => "Payload for " ++ event.wireName ++ " is not a flat record"
  | .notNumeric event field =>
    "Measurement " ++ field ++ " of " ++ event.wireName ++ " is not numeric"

/-- The members of a payload. -/
def members (event : EventName) (payload : Data) : Except Fault (Entries Json.Value) :=
  match payload.json with
  | .error fault => .error (.encoding fault)
  | .ok (.object members) => .ok members
  | .ok _ => .error (.notARecord event)

/-- The text of one property: texts as they are, other values as JSON text, and nothing for `null`. -/
def propertyText : Json.Value → Option String
  | .null => none
  | .text s => some s
  | v => some v.render

/-- The properties among the members of a payload. -/
def properties (members : Entries Json.Value) : Entries String :=
  members.filterMap fun m => (propertyText m.2).map (m.1, ·)

/-- The measurements among the members of a payload, in the order of their names. -/
def measurements (event : EventName) :
    Entries Json.Value → Except Fault (Entries Binary64)
  | [] => .ok []
  | (_, .null) :: rest => measurements event rest
  | (key, .int i) :: rest => do
    let more ← measurements event rest
    .ok ((key, .ofInt i) :: more)
  | (key, .float x) :: rest => do
    let more ← measurements event rest
    .ok ((key, x) :: more)
  | (key, _) :: _ => .error (.notNumeric event key)

/-- The flat form of two payloads under the name of an event. -/
def flatten (event : EventName) (properties measurements : Data) : Except Fault WireEvent := do
  let texts ← members event properties
  let numbers ← members event measurements
  let flat ← Wire.measurements event numbers
  .ok ⟨event, Wire.properties texts, flat⟩

end Wire

open Wire (Data)

/-- The fields of a set of properties as data. A reason that is absent is no field. -/
def Properties.data {shape : PropertyShape} : Properties shape → Data
  | .empty => .ofFields []
  | .association id => .ofFields [("associationId", .text id)]
  | .debugSession id action =>
    .ofFields [("associationId", .text id), ("event", .text action.word)]
  | .openedDocument kind => .ofFields [("documentType", .text kind.word)]
  | .flowEnd id status reason =>
    .ofFields ([("associationId", .text id), ("flowStatus", .text status.word)] ++
      reason.toList.map (("reason", .text ·)))
  | .failure id reason =>
    .ofFields (("associationId", .text id) :: reason.toList.map (("reason", .text ·)))

/-- The fields of a set of measurements as data. -/
def Measurements.data {shape : MeasurementShape} : Measurements shape → Data
  | .empty => .ofFields []
  | .languageService t => .ofFields [("timeToStartMs", .float t)]
  | .openedDocument n => .ofFields [("linesOfCode", .int n.toNat)]
  | .completionList t n =>
    .ofFields [("timeToCompletionMs", .float t), ("completionListLength", .int n.toNat)]
  | .qir n => .ofFields [("qirLength", .int n.toNat)]
  | .duration t => .ofFields [("timeToCompleteMs", .float t)]

/-- The flat form of an emission. -/
def Emission.wire (e : Emission) : Except Wire.Fault WireEvent :=
  Wire.flatten e.event e.properties.data e.measurements.data

/-- The JSON value of a wire event, its parts in their own order. -/
def WireEvent.json (w : WireEvent) : Json.Value :=
  .object [("name", .text w.name), ("properties", .ofTexts w.properties),
    ("measurements", .ofNumbers w.measurements)]

end TelemetryGate
