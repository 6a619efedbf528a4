import TelemetryGate.Json.Fault

/-!
# Reading JSON text

A reader takes characters from a cursor or stops with a fault. A fault is placed where the cursor
stands, or one byte further when the next character is to blame.
-/

namespace TelemetryGate.Json

/-- What is left of a text, and how many bytes came before. -/
structure Cursor where
  /-- The characters that were not read yet. -/
  rest : List Char
  /-- The bytes that were read. -/
  offset : Nat
  deriving DecidableEq, Repr

/-- A reader of values of a type. -/
abbrev Reader (α : Type) := StateT Cursor (Except Fault) α

namespace Reader

/-- The cursor before a text. -/
def start (source : String) : Cursor := ⟨source.toList, 0⟩

/-- Stop with a fault after the bytes that were read. -/
def fail {α : Type} (cause : Cause) : Reader α := fun c => .error ⟨cause, c.offset⟩

/-- Stop with a fault after the first byte of the next character, or at the end. -/
def failAhead {α : Type} (cause : Cause) : Reader α := fun c =>
  .error ⟨cause, if c.rest.isEmpty then c.offset else c.offset + 1⟩

/-- The next character, which is not read. -/
def peek : Reader (Option Char) := fun c => .ok (c.rest.head?, c)

/-- Read one character. -/
def advance : Reader Unit := fun c =>
  match c.rest with
  | [] => .ok ((), c)
  | x :: rest => .ok ((), ⟨rest, c.offset + x.utf8Size⟩)

/-- Read the first byte of the next character only. Faults alone are seen afterwards. -/
def advanceByte : Reader Unit := fun c =>
  match c.rest with
  | [] => .ok ((), c)
  | _ :: rest => .ok ((), ⟨rest, c.offset + 1⟩)

/-- The white space of JSON text. -/
def isSpace (c : Char) : Bool := c = ' ' || c = '\n' || c = '\t' || c = '\r'

/-- How many bytes some characters take. -/
def byteCount : List Char → Nat
  | [] => 0
  | c :: rest => c.utf8Size + byteCount rest

/-- Read characters as long as they belong to a class. -/
def readWhile (p : Char → Bool) : Reader (List Char) := fun c =>
  let taken := c.rest.takeWhile p
  .ok (taken, ⟨c.rest.dropWhile p, c.offset + byteCount taken⟩)

/-- Read white space, then look at the next character. -/
def peekPastSpace : Reader (Option Char) := do
  let _ ← readWhile isSpace
  peek

/-- A number that is more than the characters that are left, to bound loops by. -/
def bound : Reader Nat := fun c => .ok (c.rest.length + 1, c)

/-- Read the rest of a word. A wrong character is read before the fault is reported. -/
def word : List Char → Reader Unit
  | [] => pure ()
  | expected :: rest => do
    match ← peek with
    | none => fail .endInValue
    | some c =>
      if c = expected then do
        advance
        word rest
      else do
        advanceByte
        fail .expectedWord

/-- Read the first letter, which was looked at, and the rest of a word. -/
def wordFrom (rest : String) : Reader Unit := do
  advance
  word rest.toList

/-- The value that a reader finds in a text. -/
def run {α : Type} (r : Reader α) (source : String) : Except Fault α :=
  (r (start source)).map (·.1)

/-- Read a value and the white space after it, and nothing else. -/
def whole {α : Type} (r : Reader α) : Reader α := do
  let a ← r
  match ← peekPastSpace with
  | none => pure a
  | some _ => failAhead .trailingCharacters

end Reader

end TelemetryGate.Json
