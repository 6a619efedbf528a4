/-!
# Vocabularies

The closed sets of words that enumerated properties are taken from. Each word has a name of its own
beside the word that is reported.
-/

namespace TelemetryGate

/-- How a flow that a user started came to its end. -/
inductive FlowStatus where
  /-- The user cancelled it or left; no error. -/
  | aborted
  /-- It reached its goal. -/
  | succeeded
  /-- It ended with an error. -/
  | failed
  deriving DecidableEq, Repr

namespace FlowStatus

/-- All outcomes in their declared order. -/
def all : List FlowStatus := [.aborted, .succeeded, .failed]

/-- The word that is reported, which is also the name. -/
def word : FlowStatus → String
  | .aborted => "Aborted"
  | .succeeded => "Succeeded"
  | .failed => "Failed"

end FlowStatus

/-- The kind of a document in an editor. -/
inductive DocumentKind where
  /-- A cell of a notebook. -/
  | notebookCell
  /-- A file of source text. -/
  | sourceFile
  /-- Anything else. -/
  | other
  deriving DecidableEq, Repr

namespace DocumentKind

/-- All kinds in their declared order. -/
def all : List DocumentKind := [.notebookCell, .sourceFile, .other]

/-- The name of a kind. -/
def name : DocumentKind → String
  | .notebookCell => "NotebookCell"
  | .sourceFile => "SourceFile"
  | .other => "Other"

/-- The word that is reported. -/
def word : DocumentKind → String
  | .notebookCell => "JupyterCell"
  | .sourceFile => "Qsharp"
  | .other => "Other"

end DocumentKind

/-- What was done in a debugging session. -/
inductive DebugAction where
  /-- One step into a call. -/
  | stepIn
  /-- On to the next stop. -/
  | proceed
  deriving DecidableEq, Repr

namespace DebugAction

/-- All actions in their declared order. -/
def all : List DebugAction := [.stepIn, .proceed]

/-- The word that is reported, which is also the name. -/
def word : DebugAction → String
  | .stepIn => "StepIn"
  | .proceed => "Continue"

end DebugAction

end TelemetryGate
