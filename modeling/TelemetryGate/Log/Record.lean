import TelemetryGate.Text.Quoted

/-!
# Log records

What the library reports about itself: a level, the place that reports it, a message, and fields.
-/

namespace TelemetryGate.Log

/-- How severe a record is. -/
inductive Level where
  /-- Every step. -/
  | trace
  /-- What happened. -/
  | debug
  /-- What is worth knowing. -/
  | info
  /-- What is likely wrong. -/
  | warn
  /-- What failed. -/
  | error
  deriving DecidableEq, Repr

namespace Level

/-- All levels from the least severe up. -/
def all : List Level := [.trace, .debug, .info, .warn, .error]

/-- The place of a level among all, the least severe first. -/
def rank : Level → Nat
  | .trace => 0
  | .debug => 1
  | .info => 2
  | .warn => 3
  | .error => 4

/-- The name of a level in a line. -/
def name : Level → String
  | .trace => "TRACE"
  | .debug => "DEBUG"
  | .info => "INFO"
  | .warn => "WARN"
  | .error => "ERROR"

end Level

/-- The value of a field. -/
inductive FieldValue where
  /-- A text that is written as it is. -/
  | shown (s : String)
  /-- A text that is written between quotes. -/
  | quoted (s : String)
  deriving DecidableEq, Repr

/-- The text of a value, without quotes. -/
def FieldValue.text : FieldValue → String
  | .shown s => s
  | .quoted s => s

/-- A record. -/
structure Record where
  /-- How severe it is. -/
  level : Level
  /-- The place that reports it. -/
  target : String
  /-- What is reported. -/
  message : String
  /-- The details, in their order. -/
  fields : List (String × FieldValue) := []
  deriving DecidableEq, Repr

end TelemetryGate.Log
