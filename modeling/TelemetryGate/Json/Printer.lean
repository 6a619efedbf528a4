import TelemetryGate.Json.Value
import TelemetryGate.Binary64.Layout

/-!
# JSON text

The compact text of a value: no white space, only the escapes that JSON demands, and the shortest
digits that read back for every double.
-/

namespace TelemetryGate.Json

/-- A character as it stands in JSON text. -/
def escapedChar (c : Char) : List Char :=
  if c = '"' then ['\\', '"']
  else if c = '\\' then ['\\', '\\']
  else if c = '\x08' then ['\\', 'b']
  else if c = '\x0c' then ['\\', 'f']
  else if c = '\n' then ['\\', 'n']
  else if c = '\r' then ['\\', 'r']
  else if c = '\t' then ['\\', 't']
  else if c.toNat < 0x20 then
    ['\\', 'u', '0', '0', Nat.digitChar (c.toNat / 16), Nat.digitChar (c.toNat % 16)]
  else [c]

/-- A text between quotes. -/
def textChars (s : String) : List Char := '"' :: s.toList.flatMap escapedChar ++ ['"']

mutual

/-- The characters of a value. -/
def Value.chars : Value → List Char
  | .null => "null".toList
  | .bool b => (if b then "true" else "false").toList
  | .int i => (toString i).toList
  | .float x => if x.isFinite then (x.text .json).toList else "null".toList
  | .text s => textChars s
  | .array items => '[' :: itemChars items ++ [']']
  | .object members => '\x7b' :: memberChars members ++ ['\x7d']

/-- The characters of the items of an array, with commas between them. -/
def itemChars : List Value → List Char
  | [] => []
  | [v] => v.chars
  | v :: w :: rest => v.chars ++ ',' :: itemChars (w :: rest)

/-- The characters of the members of an object, with commas between them. -/
def memberChars : List (String × Value) → List Char
  | [] => []
  | [(k, v)] => textChars k ++ ':' :: v.chars
  | (k, v) :: m :: rest => textChars k ++ ':' :: v.chars ++ ',' :: memberChars (m :: rest)

end

/-- The text of a value. -/
def Value.render (v : Value) : String := String.ofList v.chars

end TelemetryGate.Json
