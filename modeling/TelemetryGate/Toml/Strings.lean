import TelemetryGate.Toml.Reader
import TelemetryGate.Text.Digits

/-!
# Strings in TOML text

One machine reads the four kinds of strings, from behind the opening quotes. A string over several
lines ends at three quotes, of up to five that follow one another; the first ones belong to the text.
-/

namespace TelemetryGate.Toml

/-- A kind of string. -/
structure StringKind where
  /-- It stands between single quotes and has no escapes. -/
  literal : Bool
  /-- It stands between triple quotes and may have several lines. -/
  multiline : Bool
  deriving DecidableEq, Repr

/-- The quote of a kind. -/
def StringKind.quote (k : StringKind) : Char := if k.literal then '\'' else '"'

/-- What the machine waits for. -/
inductive StringState where
  /-- A character of the text, an escape, or a quote. -/
  | plain
  /-- More quotes, after some of them. -/
  | quotes (count : Nat)
  /-- The character after a backslash. -/
  | escape
  /-- The digits of a code: how many are missing, and the value so far. -/
  | code (missing value : Nat)
  /-- The end of a line after a backslash and white space. -/
  | lineBreak
  /-- Text after a backslash at the end of a line; white space does not count. -/
  | joined
  /-- A line feed after a carriage return, and whether it counts. -/
  | lineFeed (counts : Bool)
  deriving DecidableEq, Repr

/-- What a character does. -/
inductive StringStep where
  /-- The string ends. -/
  | stop
  /-- The machine goes on, with some characters added to the text. -/
  | go (state : StringState) (add : List Char)
  /-- The character has no place here. -/
  | refuse

/-- A character of the text itself. -/
def plainStep (k : StringKind) (c : Char) : StringStep :=
  if c = k.quote then if k.multiline then .go (.quotes 1) [] else .stop
  else if c = '\\' ∧ !k.literal then .go .escape []
  else if c = '\n' then if k.multiline then .go .plain ['\n'] else .refuse
  else if c = '\r' then if k.multiline then .go (.lineFeed true) [] else .refuse
  else if Reader.isPrintable c then .go .plain [c]
  else .refuse

/-- The character after a backslash. -/
def escapeStep (k : StringKind) (c : Char) : StringStep :=
  match c with
  | 'b' => .go .plain ['\x08']
  | 'f' => .go .plain ['\x0c']
  | 'n' => .go .plain ['\n']
  | 'r' => .go .plain ['\r']
  | 't' => .go .plain ['\t']
  | '"' => .go .plain ['"']
  | '\\' => .go .plain ['\\']
  | 'u' => .go (.code 4 0) []
  | 'U' => .go (.code 8 0) []
  | c =>
    if !k.multiline then .refuse
    else if Reader.isSpace c then .go .lineBreak []
    else if c = '\n' then .go .joined []
    else if c = '\r' then .go (.lineFeed false) []
    else .refuse

/-- One step of the machine. A code has to be that of a character. -/
def StringState.step (k : StringKind) (c : Char) : StringState → StringStep
  | .plain => plainStep k c
  | .quotes n =>
    if c = k.quote then if n < 5 then .go (.quotes (n + 1)) [] else .refuse
    else if 3 ≤ n then .stop
    else match plainStep k c with
      | .go state add => .go state (List.replicate n k.quote ++ add)
      | other => other
  | .escape => escapeStep k c
  | .code missing value =>
    match Text.hexValue c with
    | none => .refuse
    | some d =>
      let value := value * 16 + d
      if missing ≠ 1 then .go (.code (missing - 1) value) []
      else if value.isValidChar then .go .plain [Char.ofNat value]
      else .refuse
  | .lineBreak =>
    if Reader.isSpace c then .go .lineBreak []
    else if c = '\n' then .go .joined []
    else if c = '\r' then .go (.lineFeed false) []
    else .refuse
  | .joined =>
    if Reader.isSpace c ∨ c = '\n' then .go .joined []
    else if c = '\r' then .go (.lineFeed false) []
    else plainStep k c
  | .lineFeed counts =>
    if c = '\n' then if counts then .go .plain ['\n'] else .go .joined [] else .refuse

/-- The quotes that belong to a text that ends in some quotes. -/
def innerQuotes (k : StringKind) : StringState → List Char
  | .quotes n => List.replicate (n - 3) k.quote
  | _ => []

/-- Run the machine. `acc` holds the text so far in reverse. Quotes that end a string over several
lines are only seen to be complete at the character after them, which is not read. -/
def scanString (k : StringKind) (acc : List Char) :
    StringState → List Char → Option (String × List Char)
  | state, [] =>
    match state with
    | .quotes n =>
      if 3 ≤ n then some (String.ofList (innerQuotes k (.quotes n) ++ acc).reverse, []) else none
    | _ => none
  | state, c :: rest =>
    match state.step k c with
    | .refuse => none
    | .go next add => scanString k (add.reverse ++ acc) next rest
    | .stop =>
      some (String.ofList (innerQuotes k state ++ acc).reverse,
        if k.multiline then c :: rest else rest)

namespace Reader

/-- Read a string of one line, quotes included. -/
def singleString (literal : Bool) : Reader String := do
  let k : StringKind := ⟨literal, false⟩
  char k.quote
  scanString k [] .plain

/-- Read a string over several lines, quotes included. A line end right after them does not count. -/
def multilineString (literal : Bool) : Reader String := do
  let k : StringKind := ⟨literal, true⟩
  word (List.replicate 3 k.quote)
  let _ ← optional newline
  scanString k [] .plain

/-- Read a string of any kind. -/
def string : Reader String :=
  multilineString false <|> singleString false <|> multilineString true <|> singleString true

end Reader

end TelemetryGate.Toml
