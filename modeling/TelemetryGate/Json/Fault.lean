import TelemetryGate.Decoding.Mismatch

/-!
# Faults in JSON text

What can be wrong with JSON text, and where. The place of a fault is the number of bytes that have
been read; it is shown as a line and a column of bytes.
-/

namespace TelemetryGate.Json

open Decoding (Mismatch Wording)

/-- What is wrong. -/
inductive Cause where
  /-- The text ends inside an array. -/
  | endInArray
  /-- The text ends inside an object. -/
  | endInObject
  /-- The text ends inside a string. -/
  | endInText
  /-- The text ends where a value should stand. -/
  | endInValue
  /-- No colon after a key. -/
  | expectedColon
  /-- Neither comma nor bracket after an item. -/
  | expectedItemEnd
  /-- Neither comma nor brace after a member. -/
  | expectedMemberEnd
  /-- A word that is not `null`, `true` or `false`. -/
  | expectedWord
  /-- A character that starts no value. -/
  | expectedValue
  /-- An unknown escape, or a code that is not hexadecimal. -/
  | invalidEscape
  /-- A number that is not well formed. -/
  | invalidNumber
  /-- A number beyond the greatest double. -/
  | numberOutOfRange
  /-- A control character inside a string. -/
  | controlCharacter
  /-- A key that is not a string. -/
  | keyNotText
  /-- Half of a surrogate pair. -/
  | loneSurrogate
  /-- A comma before a closing bracket. -/
  | trailingComma
  /-- Something after the end. -/
  | trailingCharacters
  /-- No second code after the first of a surrogate pair. -/
  | unfinishedPair
  /-- More than 127 brackets inside one another. -/
  | tooDeep
  /-- Well-formed text that does not fit. -/
  | mismatch (m : Mismatch)
  deriving DecidableEq, Repr

/-- The text of a cause. -/
def Cause.message : Cause → String
  | .endInArray => "EOF while parsing a list"
  | .endInObject => "EOF while parsing an object"
  | .endInText => "EOF while parsing a string"
  | .endInValue => "EOF while parsing a value"
  | .expectedColon => "expected \x60:\x60"
  | .expectedItemEnd => "expected \x60,\x60 or \x60]\x60"
  | .expectedMemberEnd => "expected \x60,\x60 or \x60\x7d\x60"
  | .expectedWord => "expected ident"
  | .expectedValue => "expected value"
  | .invalidEscape => "invalid escape"
  | .invalidNumber => "invalid number"
  | .numberOutOfRange => "number out of range"
  | .controlCharacter => "control character (\\u0000-\\u001F) found while parsing a string"
  | .keyNotText => "key must be a string"
  | .loneSurrogate => "lone leading surrogate in hex escape"
  | .trailingComma => "trailing comma"
  | .trailingCharacters => "trailing characters"
  | .unfinishedPair => "unexpected end of hex escape"
  | .tooDeep => "recursion limit exceeded"
  | .mismatch m => m.message .json

/-- A cause and the number of bytes after which it was seen. -/
structure Fault where
  /-- What is wrong. -/
  cause : Cause
  /-- How many bytes were read. -/
  offset : Nat
  deriving DecidableEq, Repr

/-- A line, counted from one, and how many bytes of it were read. -/
structure Position where
  /-- The line. -/
  line : Nat
  /-- The bytes of the line that were read. -/
  column : Nat
  deriving DecidableEq, Repr

/-- The position after some bytes of a text, from the position before them. -/
def Position.after : List Char → Nat → Position → Position
  | _, 0, p => p
  | [], n, p => ⟨p.line, p.column + n⟩
  | c :: rest, n, p =>
    if c = '\n' then after rest (n - 1) ⟨p.line + 1, 0⟩
    else if n < c.utf8Size then ⟨p.line, p.column + n⟩
    else after rest (n - c.utf8Size) ⟨p.line, p.column + c.utf8Size⟩

/-- The text of a fault in a text. -/
def Fault.message (source : String) (f : Fault) : String :=
  let p := Position.after source.toList f.offset ⟨1, 0⟩
  f.cause.message ++ " at line " ++ toString p.line ++ " column " ++ toString p.column

end TelemetryGate.Json
