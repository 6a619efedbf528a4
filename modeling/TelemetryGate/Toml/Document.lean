import TelemetryGate.Toml.Strings
import TelemetryGate.Toml.Numbers
import TelemetryGate.Toml.Dates
import TelemetryGate.Toml.Draft

/-!
# TOML documents

Keys, arrays, inline tables and the statements of a document, and the table that a text stands for.
-/

namespace TelemetryGate.Toml

/-- The number of brackets inside one another, and of parts of a key, that are too many. -/
def depthLimit : Nat := 80

namespace Reader

/-- A character of a key without quotes. -/
def isKeyChar (c : Char) : Bool := c.isAlphanum || c = '-' || c = '_'

/-- Read one part of a key. -/
def keyPart : Reader String := do
  match ← peek with
  | some '"' => singleString false
  | some '\'' => singleString true
  | _ => do
    let first ← satisfy isKeyChar
    let more ← many isKeyChar
    pure (String.ofList (first :: more))

/-- Read the parts of a key, with the white space around them. The loop is bounded by `fuel`. -/
def keyParts : Nat → Reader (List String)
  | 0 => failure
  | fuel + 1 => do
    spaces
    let part ← keyPart
    spaces
    match ← peek with
    | some '.' => do
      char '.'
      let more ← keyParts fuel
      pure (part :: more)
    | _ => pure [part]

/-- Read a key: its path and its last part. -/
def key : Reader (List String × String) := do
  let parts ← keyParts (depthLimit - 1)
  match parts.getLast? with
  | some last => pure (parts.dropLast, last)
  | none => failure

/-- Read the items of an array behind its bracket, and the closing bracket. A comma may follow the
last item. The loop is bounded by `fuel`. -/
def arrayItems (item : Reader Value) : Nat → Reader (List Value)
  | 0 => failure
  | fuel + 1 => do
    blanks
    match ← peek with
    | some ']' => do
      char ']'
      pure []
    | _ => do
      let v ← item
      blanks
      match ← peek with
      | some ',' => do
        char ','
        let more ← arrayItems item fuel
        pure (v :: more)
      | _ => do
        char ']'
        pure [v]

/-- Read the pairs of an inline table, the first of which has to be there, and the closing brace. The
loop is bounded by `fuel`. -/
def inlinePairs (item : Reader Value) : Nat → Reader (List (List String × String × Value))
  | 0 => failure
  | fuel + 1 => do
    let (path, last) ← key
    char '='
    spaces
    let v ← item
    spaces
    match ← peek with
    | some ',' => do
      char ','
      let more ← inlinePairs item fuel
      pure ((path, last, v) :: more)
    | _ => do
      char '\x7d'
      pure [(path, last, v)]

/-- The entries of an inline table. -/
def inlineEntries (pairs : List (List String × String × Value)) :
    Option (List (String × Value)) := do
  let body ← pairs.foldlM (fun body p => Draft.addPair p.1 p.2.1 p.2.2 body) []
  some (Draft.values body)

/-- Read a value in which at most `depth` brackets are open at once. -/
def value : Nat → Reader Value
  | 0 => failure
  | depth + 1 => do
    match ← peek with
    | none => failure
    | some c =>
      if c = '"' ∨ c = '\'' then Value.text <$> string
      else if c = '[' then
        if depth = 0 then failure
        else do
          char '['
          let n ← bound
          Value.array <$> arrayItems (value depth) n
      else if c = '\x7b' then
        if depth = 0 then failure
        else do
          char '\x7b'
          spaces
          match ← peek with
          | some '\x7d' => do
            char '\x7d'
            pure (.table [])
          | _ => do
            let n ← bound
            let pairs ← inlinePairs (value depth) n
            match inlineEntries pairs with
            | some entries => pure (.table entries)
            | none => failure
      else if c = 't' then do
        word "true".toList
        pure (.bool true)
      else if c = 'f' then do
        word "false".toList
        pure (.bool false)
      else Value.moment <$> moment <|> Value.float <$> float <|> Value.int <$> integer

/-- Read a header between some brackets. -/
def header (left right : List Char) (make : List String → String → Statement) :
    Reader Statement := do
  word left
  let (path, last) ← key
  word right
  pure (make path last)

/-- Read a key and its value. -/
def pair : Reader Statement := do
  let (path, last) ← key
  char '='
  spaces
  let v ← value depthLimit
  pure (.pair path last v)

/-- Read a statement and the end of its line. -/
def statement : Reader Statement := do
  let s ← header ['[', '['] [']', ']'] .item <|> header ['['] [']'] .header <|> pair
  lineEnd
  pure s

/-- Read the statements of a document up to its end. The loop is bounded by `fuel`. -/
def statements : Nat → Reader (List Statement)
  | 0 => failure
  | fuel + 1 => do
    spaces
    match ← peek with
    | none => pure []
    | some c =>
      if c = '\n' ∨ c = '\r' then do
        newline
        statements fuel
      else if c = '#' then do
        lineEnd
        statements fuel
      else do
        let s ← statement
        let more ← statements fuel
        pure (s :: more)

end Reader

/-- The entries of the root table of a TOML text. A byte order mark in front does not count. -/
def read (source : String) : Option (List (String × Value)) := do
  let cs := match source.toList with
    | '\ufeff' :: rest => rest
    | cs => cs
  let (parts, rest) ← Reader.statements (cs.length + 1) cs
  if rest.isEmpty then entriesOf parts else none

end TelemetryGate.Toml
