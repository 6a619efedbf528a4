import TelemetryGate.Catalogue.Schema
import TelemetryGate.Catalogue.Vocabulary
import TelemetryGate.Binary64.Basic

/-!
# Emissions

An emission is an event together with a payload of exactly the shapes of that event: the types leave
no room for a missing, a further or a mistyped field.
-/

namespace TelemetryGate

/-- The properties of each shape. -/
inductive Properties : PropertyShape → Type where
  /-- No properties. -/
  | empty : Properties .empty
  /-- The id of a flow. -/
  | association (associationId : String) : Properties .association
  /-- The id of a debugging session and an action. -/
  | debugSession (associationId : String) (action : DebugAction) : Properties .debugSession
  /-- The kind of a document. -/
  | openedDocument (kind : DocumentKind) : Properties .openedDocument
  /-- The id of a flow, its outcome, and a reason if there is one. -/
  | flowEnd (associationId : String) (status : FlowStatus) (reason : Option String) :
      Properties .flowEnd
  /-- The id of a request, and a reason if there is one. -/
  | failure (associationId : String) (reason : Option String) : Properties .failure
  deriving DecidableEq, Repr

/-- The measurements of each shape: counts are words, durations are doubles. -/
inductive Measurements : MeasurementShape → Type where
  /-- No measurements. -/
  | empty : Measurements .empty
  /-- How long the language service took to start. -/
  | languageService (timeToStart : Binary64) : Measurements .languageService
  /-- How many lines a document has. -/
  | openedDocument (linesOfCode : UInt64) : Measurements .openedDocument
  /-- How long a completion list took, and its length. -/
  | completionList (timeToCompletion : Binary64) (length : UInt64) : Measurements .completionList
  /-- The length of the generated code. -/
  | qir (length : UInt64) : Measurements .qir
  /-- How long an operation took. -/
  | duration (timeToComplete : Binary64) : Measurements .duration
  deriving DecidableEq, Repr

namespace Properties

/-- The end of a flow that reached its goal. -/
def succeeded (associationId : String) : Properties .flowEnd :=
  .flowEnd associationId .succeeded none

/-- The end of a flow that failed, with the reason. -/
def failed (associationId reason : String) : Properties .flowEnd :=
  .flowEnd associationId .failed (some reason)

/-- The end of a flow that was aborted. -/
def aborted (associationId : String) (reason : Option String) : Properties .flowEnd :=
  .flowEnd associationId .aborted reason

end Properties

/-- An event with its payload. -/
structure Emission where
  /-- The event. -/
  event : EventName
  /-- The properties of the event's shape. -/
  properties : Properties event.propertyShape
  /-- The measurements of the event's shape. -/
  measurements : Measurements event.measurementShape

/-- An event whose two shapes are empty. -/
structure BareEvent where
  /-- The event. -/
  event : EventName
  /-- It has no properties. -/
  noProperties : event.propertyShape = .empty := by rfl
  /-- It has no measurements. -/
  noMeasurements : event.measurementShape = .empty := by rfl

/-- The only emission of an event without payload. -/
def BareEvent.emission (b : BareEvent) : Emission :=
  ⟨b.event, b.noProperties ▸ .empty, b.noMeasurements ▸ .empty⟩

/-- The bare event of a name, if its shapes are empty. -/
def EventName.bare? (e : EventName) : Option BareEvent :=
  if hp : e.propertyShape = .empty then
    if hm : e.measurementShape = .empty then some ⟨e, hp, hm⟩ else none
  else none

/-- The emission that announces that a reporter is bound. -/
def Emission.startup : Emission := ⟨.initializePlugin, .empty, .empty⟩

end TelemetryGate
