import TelemetryGate.Text.UnprintableTable

/-!
# Quoted text

A text between double quotes, in which the quote, the backslash and every character that does not
print are written as escapes. In a quoted path the apostrophe is escaped as well.
-/

namespace TelemetryGate.Text

/-- The digits of a number in lower-case hexadecimal. -/
def hexDigits (n : Nat) : List Char := Nat.toDigits 16 n

/-- The escape of a character by its code point, such as `\u\x7b1b\x7d`. -/
def codePointEscape (c : Char) : List Char := ['\\', 'u', '\x7b'] ++ hexDigits c.toNat ++ ['\x7d']

/-- A character as it stands in quoted text. -/
def quotedChar (c : Char) : List Char :=
  match c with
  | '\x00' => ['\\', '0']
  | '\t' => ['\\', 't']
  | '\r' => ['\\', 'r']
  | '\n' => ['\\', 'n']
  | '"' => ['\\', '"']
  | '\\' => ['\\', '\\']
  | c => if inRanges c unprintable then codePointEscape c else [c]

/-- The text between double quotes with its escapes. -/
def quoted (s : String) : String :=
  String.ofList ('"' :: s.toList.flatMap quotedChar ++ ['"'])

/-- A character as it stands in a quoted path. -/
def quotedPathChar (c : Char) : List Char :=
  if c = '\x27' then ['\\', '\x27'] else quotedChar c

/-- The path between double quotes with its escapes. -/
def quotedPath (path : String) : String :=
  String.ofList ('"' :: path.toList.flatMap quotedPathChar ++ ['"'])

end TelemetryGate.Text
