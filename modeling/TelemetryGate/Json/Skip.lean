import TelemetryGate.Json.Strings
import TelemetryGate.Json.Numeral

/-!
# Skipping JSON values

Reading past a value that nobody asks for. The brackets that are open are kept on a stack, so values
may be nested to any depth.
-/

namespace TelemetryGate.Json

/-- An open bracket. -/
inductive Bracket where
  /-- A square bracket: items follow. -/
  | array
  /-- A brace: keys and values follow. -/
  | object
  deriving DecidableEq, Repr

/-- The character that closes a bracket. -/
def Bracket.close : Bracket → Char
  | .array => ']'
  | .object => '\x7d'

/-- The fault when the text ends inside a bracket. -/
def Bracket.endCause : Bracket → Cause
  | .array => .endInArray
  | .object => .endInObject

/-- The fault when neither a comma nor the closing bracket follows a value. -/
def Bracket.separatorCause : Bracket → Cause
  | .array => .expectedItemEnd
  | .object => .expectedMemberEnd

/-- What the skipping machine waits for. -/
inductive SkipState where
  /-- A value. -/
  | value
  /-- The first entry of the innermost bracket, or its end. -/
  | opened
  /-- A comma, or the end of the innermost bracket. -/
  | valued
  /-- An entry of the innermost bracket. -/
  | entry
  deriving DecidableEq, Repr

namespace Reader

/-- Read past a value that is not in brackets, or past an opening bracket, which is returned. -/
def skipSimple : Reader (Option Bracket) := do
  match ← peekPastSpace with
  | none => failAhead .endInValue
  | some c =>
    if c = 'n' then do
      wordFrom "ull"
      pure none
    else if c = 't' then do
      wordFrom "rue"
      pure none
    else if c = 'f' then do
      wordFrom "alse"
      pure none
    else if c = '"' then do
      advance
      skipStringBody
      pure none
    else if c = '-' ∨ c.isDigit then do
      skipNumber
      pure none
    else if c = '[' then do
      advance
      pure (some .array)
    else if c = '\x7b' then do
      advance
      pure (some .object)
    else failAhead .expectedValue

/-- Read past a key and its colon. -/
def skipKey : Reader Unit := do
  match ← peekPastSpace with
  | none => failAhead .endInObject
  | some c =>
    if c = '"' then do
      advance
      skipStringBody
    else failAhead .keyNotText
  match ← peekPastSpace with
  | none => failAhead .endInObject
  | some c => if c = ':' then advance else failAhead .expectedColon

/-- One step of the skipping machine: `none` when the value is complete. -/
def skipStep (state : SkipState) (stack : List Bracket) :
    Reader (Option (SkipState × List Bracket)) := do
  match state, stack with
  | .value, stack => do
    match ← skipSimple with
    | some b => pure (some (.opened, b :: stack))
    | none => pure (some (.valued, stack))
  | _, [] => pure none
  | .opened, b :: stack => do
    match ← peekPastSpace with
    | none => failAhead b.endCause
    | some c =>
      if c = b.close then do
        advance
        pure (some (.valued, stack))
      else pure (some (.entry, b :: stack))
  | .valued, b :: stack => do
    match ← peekPastSpace with
    | none => failAhead b.endCause
    | some c =>
      if c = ',' then do
        advance
        pure (some (.entry, b :: stack))
      else if c = b.close then do
        advance
        pure (some (.valued, stack))
      else failAhead b.separatorCause
  | .entry, b :: stack => do
    match b with
    | .array => pure ()
    | .object => skipKey
    pure (some (.value, b :: stack))

/-- Run the skipping machine. Each character is looked at in at most three steps. -/
def skipLoop : Nat → SkipState → List Bracket → Reader Unit
  | 0, _, _ => fail .expectedValue
  | fuel + 1, state, stack => do
    match ← skipStep state stack with
    | none => pure ()
    | some (state, stack) => skipLoop fuel state stack

/-- Read past one value. -/
def skipValue : Reader Unit := do
  let n ← bound
  skipLoop (3 * n + 3) .value []

end Reader

end TelemetryGate.Json
