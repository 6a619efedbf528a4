import TelemetryGate.Json.Skip
import TelemetryGate.Decoding.Format

/-!
# Reading typed values from JSON text

Values of a known kind are read while the text goes by, so that a fault has its place in the text.
A record may be written as an object or as an array of its fields in order.
-/

namespace TelemetryGate.Json.Reader

open Decoding (Format Field Found)

variable {α β σ : Type}

/-- Stop because a value of another kind was found. -/
def failMismatch (found : Found) (expected : String) : Reader α :=
  fail (.mismatch (.wrongKind found expected))

/-- Stop because the next value is of another kind. It is read first, unless it is in brackets. -/
def wrongKind (expected : String) : Reader α := do
  match ← peek with
  | none => failAhead .expectedValue
  | some c =>
    if c = 'n' then do
      wordFrom "ull"
      failMismatch .nothing expected
    else if c = 't' then do
      wordFrom "rue"
      failMismatch (.bool true) expected
    else if c = 'f' then do
      wordFrom "alse"
      failMismatch (.bool false) expected
    else if c = '"' then do
      advance
      let s ← stringBody
      failMismatch (.text s) expected
    else if c = '-' ∨ c.isDigit then do
      match ← number with
      | .int i => failMismatch (.int i) expected
      | .float x => failMismatch (.float x) expected
      | _ => failAhead .expectedValue
    else if c = '[' then failMismatch .list expected
    else if c = '\x7b' then failMismatch .table expected
    else failAhead .expectedValue

/-- Read white space, then go on with the next character, which has to be there. -/
def atValue (k : Char → Reader α) : Reader α := do
  match ← peekPastSpace with
  | none => failAhead .endInValue
  | some c => k c

/-- Read a truth value. -/
def flag : Reader Bool := atValue fun c =>
  if c = 't' then do
    wordFrom "rue"
    pure true
  else if c = 'f' then do
    wordFrom "alse"
    pure false
  else wrongKind "a boolean"

/-- Read a string, which is expected under a name. -/
def textOf (expected : String) : Reader String := atValue fun c =>
  if c = '"' then do
    advance
    stringBody
  else wrongKind expected

/-- Read the word `null`. -/
def unit : Reader Unit := atValue fun c =>
  if c = 'n' then wordFrom "ull" else wrongKind "unit"

/-- Read a value or the word `null`. -/
def optional (r : Reader α) : Reader (Option α) := do
  match ← peekPastSpace with
  | some 'n' => do
    wordFrom "ull"
    pure none
  | _ => some <$> r

/-- Look for a further item of an array. -/
def hasItem (first : Bool) : Reader Bool := do
  match ← peekPastSpace with
  | none => failAhead .endInArray
  | some c =>
    if c = ']' then pure false
    else if first then pure true
    else if c = ',' then do
      advance
      match ← peekPastSpace with
      | none => failAhead .endInValue
      | some d => if d = ']' then failAhead .trailingComma else pure true
    else failAhead .expectedItemEnd

/-- Look for a further key of an object. -/
def hasKey (first : Bool) : Reader Bool := do
  match ← peekPastSpace with
  | none => failAhead .endInObject
  | some c =>
    if c = '\x7d' then pure false
    else if first then
      if c = '"' then pure true else failAhead .keyNotText
    else if c = ',' then do
      advance
      match ← peekPastSpace with
      | none => failAhead .endInValue
      | some d =>
        if d = '"' then pure true
        else if d = '\x7d' then failAhead .trailingComma
        else failAhead .keyNotText
    else failAhead .expectedMemberEnd

/-- Read the colon after a key. -/
def colon : Reader Unit := do
  match ← peekPastSpace with
  | none => failAhead .endInObject
  | some c => if c = ':' then advance else failAhead .expectedColon

/-- Read the members of an object behind its brace: each key is handed on, and the step reads the
colon and the value. The loop is bounded by `fuel`. -/
def foldMembers (step : β → String → Reader β) : Nat → Bool → β → Reader β
  | 0, _, _ => fail .expectedValue
  | fuel + 1, first, acc => do
    if ← hasKey first then do
      advance
      let key ← stringBody
      let acc ← step acc key
      foldMembers step fuel false acc
    else do
      advance
      pure acc

/-- Read the items of an array behind its bracket. The loop is bounded by `fuel`. -/
def foldItems (step : β → Reader β) : Nat → Bool → β → Reader β
  | 0, _, _ => fail .expectedValue
  | fuel + 1, first, acc => do
    if ← hasItem first then do
      let acc ← step acc
      foldItems step fuel false acc
    else do
      advance
      pure acc

/-- Read an object of texts. A later text replaces an earlier one under the same key. -/
def texts : Reader (Entries String) := atValue fun c =>
  if c = '\x7b' then do
    advance
    let n ← bound
    foldMembers (fun acc key => do
      colon
      let s ← textOf "a string"
      pure (acc.put key s)) n true []
  else wrongKind "a map"

/-- Stop because a field is given twice. The place is behind the white space after the key and
behind a brace that closes the object there. -/
def repeatedField (name : String) : Reader α := do
  match ← peekPastSpace with
  | some '\x7d' => advance
  | _ => pure ()
  fail (.mismatch (.repeatedField name))

/-- Read one member of a record: a known field changes the record, any other is skipped. -/
def member (fields : List (Field Reader σ)) (acc : σ × List String) (key : String) :
    Reader (σ × List String) :=
  match fields.find? (·.name = key) with
  | none => do
    colon
    skipValue
    pure acc
  | some field =>
    if key ∈ acc.2 then repeatedField key
    else do
      colon
      let change ← field.read
      pure (change acc.1, key :: acc.2)

/-- Read the bracket that ends the array form of a record. -/
def endOfArray : Reader Unit := do
  match ← peekPastSpace with
  | none => failAhead .endInArray
  | some c =>
    if c = ']' then advance
    else if c = ',' then do
      advance
      match ← peekPastSpace with
      | some ']' => failAhead .trailingComma
      | _ => failAhead .trailingCharacters
    else failAhead .trailingCharacters

/-- Read the fields of a record from an array, behind its bracket. Fields that are missing at the end
leave the record as it is. -/
def positional : List (Field Reader σ) → Bool → σ → Reader σ
  | [], _, acc => do
    endOfArray
    pure acc
  | field :: rest, first, acc => do
    if ← hasItem first then do
      let change ← field.read
      positional rest false (change acc)
    else do
      advance
      pure acc

/-- Read a record, starting from given values. -/
def record (title : String) (fields : List (Field Reader σ)) (start : σ) : Reader σ :=
  atValue fun c =>
    if c = '[' then do
      advance
      positional fields true start
    else if c = '\x7b' then do
      advance
      let n ← bound
      let result ← foldMembers (member fields) n true (start, [])
      pure result.1
    else wrongKind title

/-- A word from a list, given with the values that the words stand for: a string, or an object with
the word as its only key and `null` under it. -/
def choice (words : List (String × α)) : Reader α := atValue fun c =>
  let known (expected : String) : Reader α := do
    let word ← textOf expected
    match words.find? (·.1 = word) with
    | some (_, a) => pure a
    | none => fail (.mismatch (.unknownWord word (words.map (·.1))))
  if c = '"' then known "variant identifier"
  else if c = '\x7b' then do
    advance
    let a ← known "variant identifier"
    colon
    unit
    match ← peekPastSpace with
    | none => fail .endInObject
    | some d =>
      if d = '\x7d' then do
        advance
        pure a
      else fail .expectedValue
  else failAhead .expectedValue

/-- JSON text as a format. -/
def format : Format Reader where
  flag := flag
  text := textOf "a string"
  path := textOf "path string"
  optional := optional
  texts := texts
  record := record

end TelemetryGate.Json.Reader
