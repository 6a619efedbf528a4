import TelemetryGate.Catalogue.EventName

/-!
# Shapes

What an event carries: properties, which are texts, and measurements, which are numbers. Each event
has one shape of either, and each shape declares its fields.
-/

namespace TelemetryGate

/-- The kind of value of a declared field. -/
inductive FieldKind where
  /-- Any text. -/
  | text
  /-- A word of a closed vocabulary. -/
  | enumerated
  /-- A number. -/
  | number
  deriving DecidableEq, Repr

/-- The name of a kind. -/
def FieldKind.name : FieldKind → String
  | .text => "Text"
  | .enumerated => "Enumerated"
  | .number => "Number"

/-- A field that a shape declares, by its name on the wire. -/
structure DeclaredField where
  /-- The name on the wire. -/
  name : String
  /-- The kind of its value. -/
  kind : FieldKind
  /-- Every payload of the shape has the field. -/
  required : Bool
  deriving DecidableEq, Repr

/-- The sets of properties that an event may carry. -/
inductive PropertyShape where
  /-- No properties. -/
  | empty
  /-- The id of the flow that the event belongs to. -/
  | association
  /-- The id of a debugging session, and what was done in it. -/
  | debugSession
  /-- The kind of a document. -/
  | openedDocument
  /-- The id of a flow, how it ended, and why. -/
  | flowEnd
  /-- The id of a failed request, and why it failed. -/
  | failure
  deriving DecidableEq, Repr

/-- The sets of measurements that an event may carry. -/
inductive MeasurementShape where
  /-- No measurements. -/
  | empty
  /-- How long the language service took to start. -/
  | languageService
  /-- How long an opened document is. -/
  | openedDocument
  /-- How long a completion list took, and its length. -/
  | completionList
  /-- How long the generated code is. -/
  | qir
  /-- How long an operation took. -/
  | duration
  deriving DecidableEq, Repr

/-- The declared fields of a set of properties. -/
def PropertyShape.fields : PropertyShape → List DeclaredField
  | .empty => []
  | .association => [⟨"associationId", .text, true⟩]
  | .debugSession => [⟨"associationId", .text, true⟩, ⟨"event", .enumerated, true⟩]
  | .openedDocument => [⟨"documentType", .enumerated, true⟩]
  | .flowEnd =>
    [⟨"associationId", .text, true⟩, ⟨"flowStatus", .enumerated, true⟩, ⟨"reason", .text, false⟩]
  | .failure => [⟨"associationId", .text, true⟩, ⟨"reason", .text, false⟩]

/-- The declared fields of a set of measurements. -/
def MeasurementShape.fields : MeasurementShape → List DeclaredField
  | .empty => []
  | .languageService => [⟨"timeToStartMs", .number, true⟩]
  | .openedDocument => [⟨"linesOfCode", .number, true⟩]
  | .completionList =>
    [⟨"timeToCompletionMs", .number, true⟩, ⟨"completionListLength", .number, true⟩]
  | .qir => [⟨"qirLength", .number, true⟩]
  | .duration => [⟨"timeToCompleteMs", .number, true⟩]

namespace EventName

/-- The properties that an event carries. -/
def propertyShape : EventName → PropertyShape
  | .debugSessionEvent => .debugSession
  | .launch | .generateQirStart | .generateQirEnd | .renderQuantumStateStart |
    .renderQuantumStateEnd | .submitToAzureStart | .authSessionStart | .queryWorkspacesStart |
    .getJobFilesStart | .queryWorkspaceStart | .checkCorsStart |
    .initializeRuntimeStart => .association
  | .openedDocument => .openedDocument
  | .submitToAzureEnd | .authSessionEnd | .queryWorkspacesEnd | .getJobFilesEnd |
    .queryWorkspaceEnd | .checkCorsEnd | .initializeRuntimeEnd => .flowEnd
  | .azureRequestFailed | .storageRequestFailed => .failure
  | _ => .empty

/-- The measurements that an event carries. -/
def measurementShape : EventName → MeasurementShape
  | .loadLanguageService => .languageService
  | .openedDocument => .openedDocument
  | .returnCompletionList => .completionList
  | .generateQirEnd => .qir
  | .renderQuantumStateEnd | .initializeRuntimeEnd => .duration
  | _ => .empty

end EventName

/-- The declared fields of one event. -/
structure EventSchema where
  /-- The event. -/
  event : EventName
  /-- The declared properties. -/
  properties : List DeclaredField
  /-- The declared measurements. -/
  measurements : List DeclaredField
  deriving DecidableEq, Repr

/-- The event carries nothing. -/
def EventSchema.isEmpty (s : EventSchema) : Bool := s.properties.isEmpty && s.measurements.isEmpty

/-- The schema of an event. -/
def EventName.schema (e : EventName) : EventSchema :=
  ⟨e, e.propertyShape.fields, e.measurementShape.fields⟩

end TelemetryGate
