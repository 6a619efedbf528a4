/-!
# Event names

The closed catalogue of events. Each has a bare name and a wire name, and the declared order is the
order of the list of all of them.
-/

namespace TelemetryGate

/-- The events that can be sent, in their declared order. -/
inductive EventName where
  /-- The process has started; sent when a reporter is bound. -/
  | initializePlugin
  /-- The language service is ready. -/
  | loadLanguageService
  /-- A notebook cell was set up. -/
  | jupyterCellInitialized
  /-- A step inside a debugging session. -/
  | debugSessionEvent
  /-- A program was launched. -/
  | launch
  /-- A document was opened. -/
  | openedDocument
  /-- A completion list was returned. -/
  | returnCompletionList
  /-- The flow of generating intermediate code starts. -/
  | generateQirStart
  /-- The flow of generating intermediate code ends. -/
  | generateQirEnd
  /-- The flow of rendering a state starts. -/
  | renderQuantumStateStart
  /-- The flow of rendering a state ends. -/
  | renderQuantumStateEnd
  /-- The flow of submitting a job starts. -/
  | submitToAzureStart
  /-- The flow of submitting a job ends. -/
  | submitToAzureEnd
  /-- The flow of signing in starts. -/
  | authSessionStart
  /-- The flow of signing in ends. -/
  | authSessionEnd
  /-- The flow of listing workspaces starts. -/
  | queryWorkspacesStart
  /-- The flow of listing workspaces ends. -/
  | queryWorkspacesEnd
  /-- A request to the remote service failed outside any flow. -/
  | azureRequestFailed
  /-- A request to the storage failed outside any flow. -/
  | storageRequestFailed
  /-- The flow of fetching job files starts. -/
  | getJobFilesStart
  /-- The flow of fetching job files ends. -/
  | getJobFilesEnd
  /-- The flow of reading a workspace starts. -/
  | queryWorkspaceStart
  /-- The flow of reading a workspace ends. -/
  | queryWorkspaceEnd
  /-- The flow of the cross-origin check starts. -/
  | checkCorsStart
  /-- The flow of the cross-origin check ends. -/
  | checkCorsEnd
  /-- The flow of setting up the runtime starts. -/
  | initializeRuntimeStart
  /-- The flow of setting up the runtime ends. -/
  | initializeRuntimeEnd
  deriving DecidableEq, Repr

namespace EventName

/-- All events in their declared order. -/
def all : List EventName :=
  [.initializePlugin, .loadLanguageService, .jupyterCellInitialized, .debugSessionEvent,
   .launch, .openedDocument, .returnCompletionList, .generateQirStart, .generateQirEnd,
   .renderQuantumStateStart, .renderQuantumStateEnd, .submitToAzureStart, .submitToAzureEnd,
   .authSessionStart, .authSessionEnd, .queryWorkspacesStart, .queryWorkspacesEnd,
   .azureRequestFailed, .storageRequestFailed, .getJobFilesStart, .getJobFilesEnd,
   .queryWorkspaceStart, .queryWorkspaceEnd, .checkCorsStart, .checkCorsEnd,
   .initializeRuntimeStart, .initializeRuntimeEnd]

/-- The name of an event without its family. -/
def bareName : EventName → String
  | .initializePlugin => "InitializePlugin"
  | .loadLanguageService => "LoadLanguageService"
  | .jupyterCellInitialized => "JupyterCellInitialized"
  | .debugSessionEvent => "DebugSessionEvent"
  | .launch => "Launch"
  | .openedDocument => "OpenedDocument"
  | .returnCompletionList => "ReturnCompletionList"
  | .generateQirStart => "GenerateQirStart"
  | .generateQirEnd => "GenerateQirEnd"
  | .renderQuantumStateStart => "RenderQuantumStateStart"
  | .renderQuantumStateEnd => "RenderQuantumStateEnd"
  | .submitToAzureStart => "SubmitToAzureStart"
  | .submitToAzureEnd => "SubmitToAzureEnd"
  | .authSessionStart => "AuthSessionStart"
  | .authSessionEnd => "AuthSessionEnd"
  | .queryWorkspacesStart => "QueryWorkspacesStart"
  | .queryWorkspacesEnd => "QueryWorkspacesEnd"
  | .azureRequestFailed => "AzureRequestFailed"
  | .storageRequestFailed => "StorageRequestFailed"
  | .getJobFilesStart => "GetJobFilesStart"
  | .getJobFilesEnd => "GetJobFilesEnd"
  | .queryWorkspaceStart => "QueryWorkspaceStart"
  | .queryWorkspaceEnd => "QueryWorkspaceEnd"
  | .checkCorsStart => "CheckCorsStart"
  | .checkCorsEnd => "CheckCorsEnd"
  | .initializeRuntimeStart => "InitializeRuntimeStart"
  | .initializeRuntimeEnd => "InitializeRuntimeEnd"

/-- The name under which an event is reported. -/
def wireName (e : EventName) : String := "Qsharp." ++ e.bareName

/-- The event with a bare name. -/
def ofBareName? (name : String) : Option EventName := all.find? (·.bareName = name)

/-- The place of an event in the declared order. -/
def rank (e : EventName) : Nat := all.idxOf e

/-- The declared order. -/
instance : Ord EventName := ⟨fun a b => compare a.rank b.rank⟩

end EventName

end TelemetryGate
