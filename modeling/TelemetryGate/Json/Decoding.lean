import TelemetryGate.Json.Value
import TelemetryGate.Decoding.Format
import TelemetryGate.Decoding.Mismatch

/-!
# Reading typed values from JSON values

A value that was read before is taken apart again. Faults have no place in a text any more, and the
fields of a record are visited in the order of their keys.
-/

namespace TelemetryGate.Json

open Decoding (Found Mismatch Format Field)

/-- What a value is when it is found in the wrong place. -/
def Value.found : Value → Found
  | .null => .nothing
  | .bool b => .bool b
  | .int i => .int i
  | .float x => .float x
  | .text s => .text s
  | .array _ => .list
  | .object _ => .table

/-- A way to take a value apart. -/
abbrev Decoder (α : Type) := ReaderT Value (Except Mismatch) α

namespace Decoder

variable {α σ : Type}

/-- Refuse the value. -/
def wrongKind (expected : String) : Decoder α := fun v => .error (.wrongKind v.found expected)

/-- A truth value. -/
def flag : Decoder Bool := fun v =>
  match v with
  | .bool b => .ok b
  | v => wrongKind "a boolean" v

/-- A text, which is expected under a name. -/
def textOf (expected : String) : Decoder String := fun v =>
  match v with
  | .text s => .ok s
  | v => wrongKind expected v

/-- A value or `null`. -/
def optional (d : Decoder α) : Decoder (Option α) := fun v =>
  match v with
  | .null => .ok none
  | v => some <$> d v

/-- An object of texts. -/
def texts : Decoder (Entries String) := fun v =>
  match v with
  | .object members => do
    let pairs ← members.mapM fun m => (m.1, ·) <$> textOf "a string" m.2
    .ok (Entries.ofList pairs)
  | v => wrongKind "a map" v

/-- The fields of a record from the items of an array. -/
def positional (length : Nat) : List (Field Decoder σ) → List Value → σ → Except Mismatch σ
  | _, [], acc => .ok acc
  | [], _ :: _, _ => .error (.tooLong length)
  | field :: fields, v :: rest, acc => do
    let change ← field.read v
    positional length fields rest (change acc)

/-- The fields of a record from the members of an object. -/
def named (fields : List (Field Decoder σ)) : List (String × Value) → σ → Except Mismatch σ
  | [], acc => .ok acc
  | (key, v) :: rest, acc =>
    match fields.find? (·.name = key) with
    | none => named fields rest acc
    | some field => do
      let change ← field.read v
      named fields rest (change acc)

/-- A record, starting from given values. -/
def record (title : String) (fields : List (Field Decoder σ)) (start : σ) : Decoder σ := fun v =>
  match v with
  | .array items => positional items.length fields items start
  | .object members => named fields members start
  | v => wrongKind title v

/-- JSON values as a format. -/
def format : Format Decoder where
  flag := flag
  text := textOf "a string"
  path := textOf "path string"
  optional := optional
  texts := texts
  record := record

end Decoder

end TelemetryGate.Json
