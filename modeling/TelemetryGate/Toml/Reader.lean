/-!
# Reading TOML text

A reader takes characters from the front of a text or refuses it. Which of several faults a text has
is of no interest, so a refusal carries nothing.
-/

namespace TelemetryGate.Toml

/-- A reader of values of a type. -/
abbrev Reader (α : Type) := StateT (List Char) Option α

namespace Reader

variable {α : Type}

/-- The next character, which is not read. -/
def peek : Reader (Option Char) := fun cs => some (cs.head?, cs)

/-- Read a character of a class. -/
def satisfy (p : Char → Bool) : Reader Char := fun cs =>
  match cs with
  | c :: rest => if p c then some (c, rest) else none
  | [] => none

/-- Read one certain character. -/
def char (c : Char) : Reader Unit := do
  let _ ← satisfy (· = c)

/-- Read certain characters. -/
def word : List Char → Reader Unit
  | [] => pure ()
  | c :: rest => do
    char c
    word rest

/-- Read characters as long as they belong to a class. -/
def many (p : Char → Bool) : Reader (List Char) := fun cs =>
  some (cs.takeWhile p, cs.dropWhile p)

/-- What a reader finds, or nothing if it refuses; then nothing is read. -/
def optional (r : Reader α) : Reader (Option α) := fun cs =>
  match r cs with
  | some (a, rest) => some (some a, rest)
  | none => some (none, cs)

/-- Nothing is left to read. -/
def atEnd : Reader Bool := fun cs => some (cs.isEmpty, cs)

/-- A number that is more than the characters that are left, to bound loops by. -/
def bound : Reader Nat := fun cs => some (cs.length + 1, cs)

/-- The white space inside a line. -/
def isSpace (c : Char) : Bool := c = ' ' || c = '\t'

/-- Read white space inside a line. -/
def spaces : Reader Unit := do
  let _ ← many isSpace

/-- Read the end of a line: a line feed, with or without a carriage return before it. -/
def newline : Reader Unit := char '\n' <|> word ['\r', '\n']

/-- A character that may stand in a comment: anything but controls other than the tab. -/
def isPrintable (c : Char) : Bool := c = '\t' || (0x20 ≤ c.toNat && c.toNat ≠ 0x7F)

/-- Read a comment, up to the end of its line. -/
def comment : Reader Unit := do
  char '#'
  let _ ← many isPrintable

/-- Read what may follow a statement in its line, and the end of the line or of the text. -/
def lineEnd : Reader Unit := do
  spaces
  let _ ← optional comment
  if ← atEnd then pure () else newline

/-- Read white space, comments and ends of lines. The loop is bounded by `fuel`. -/
def blanksWithin : Nat → Reader Unit
  | 0 => failure
  | fuel + 1 => do
    spaces
    match ← peek with
    | some '#' => do
      comment
      blanksWithin fuel
    | some '\n' => do
      newline
      blanksWithin fuel
    | some '\r' => do
      newline
      blanksWithin fuel
    | _ => pure ()

/-- Read white space, comments and ends of lines. -/
def blanks : Reader Unit := do
  blanksWithin (← bound)

end Reader

end TelemetryGate.Toml
