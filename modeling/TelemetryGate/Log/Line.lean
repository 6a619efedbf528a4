import TelemetryGate.Json.Printer
import TelemetryGate.Log.Record

/-!
# Lines of the log

How a record is written: as text, plain or coloured for a terminal, or as a JSON object. Each record
ends in a line feed. In a text line the message is written without the characters that move a
terminal's cursor or change its colours, but with its line feeds.
-/

namespace TelemetryGate.Log

/-- How records are written. -/
inductive Layout where
  /-- Text, coloured or not. -/
  | text (coloured : Bool)
  /-- A JSON object. -/
  | json
  deriving DecidableEq, Repr

/-- How a part of a line is marked on a terminal. -/
inductive Mark where
  /-- Faint. -/
  | dim
  /-- Slanted. -/
  | italic
  /-- In the colour of a level. -/
  | colour (level : Level)
  deriving DecidableEq, Repr

/-- The number that turns a mark on. -/
def Mark.code : Mark → String
  | .dim => "2"
  | .italic => "3"
  | .colour .trace => "35"
  | .colour .debug => "34"
  | .colour .info => "32"
  | .colour .warn => "33"
  | .colour .error => "31"

/-- A text between the sequences that turn a mark on and off. -/
def Mark.around (m : Mark) (coloured : Bool) (s : String) : String :=
  if coloured then "\x1b[" ++ m.code ++ "m" ++ s ++ "\x1b[0m" else s

/-- A character of a message as it is written in a text line. -/
def messageChar (c : Char) : List Char :=
  match c with
  | '\x07' => ['\\', 'x', '0', '7']
  | '\x08' => ['\\', 'x', '0', '8']
  | '\x0c' => ['\\', 'x', '0', 'c']
  | '\x1b' => ['\\', 'x', '1', 'b']
  | '\x7f' => ['\\', 'x', '7', 'f']
  | c => if 0x80 ≤ c.toNat ∧ c.toNat ≤ 0x9F then Text.codePointEscape c else [c]

/-- A message as it is written in a text line. -/
def messageText (s : String) : String := String.ofList (s.toList.flatMap messageChar)

/-- The name of a level, filled up from the left to five characters. -/
def Level.column (l : Level) : String := "".pushn ' ' (5 - l.name.length) ++ l.name

/-- The value of a field as it is written in a text line. -/
def FieldValue.written : FieldValue → String
  | .shown s => s
  | .quoted s => Text.quoted s

/-- A field as it is written in a text line, with the blank before it. -/
def fieldText (coloured : Bool) (f : String × FieldValue) : String :=
  " " ++ Mark.italic.around coloured f.1 ++ Mark.dim.around coloured "=" ++ f.2.written

/-- A record as a line of text. -/
def Record.textLine (r : Record) (coloured : Bool) (time : String) : String :=
  Mark.dim.around coloured time ++ " " ++ (Mark.colour r.level).around coloured r.level.column ++
    " " ++ Mark.dim.around coloured r.target ++ Mark.dim.around coloured ":" ++ " " ++
    messageText r.message ++ String.join (r.fields.map (fieldText coloured))

/-- A record as a JSON value. -/
def Record.json (r : Record) (time : String) : Json.Value :=
  .object [("timestamp", .text time), ("level", .text r.level.name),
    ("fields", .object (("message", .text r.message) ::
      r.fields.map fun f => (f.1, .text f.2.text))),
    ("target", .text r.target)]

/-- A record with its time as it is written. -/
def Layout.body (l : Layout) (time : String) (r : Record) : String :=
  match l with
  | .text coloured => r.textLine coloured time
  | .json => (r.json time).render

/-- A record with the line feed at its end. -/
def Layout.line (l : Layout) (time : String) (r : Record) : String := l.body time r ++ "\n"

end TelemetryGate.Log
