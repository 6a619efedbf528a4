import TelemetryGate.Json.Printer

/-!
# Free data

Data of any shape, and its JSON value. Whole numbers have no bound, and anything may stand as a key;
both can keep data from having a JSON value. A later entry replaces an earlier one under the same
key text, and numbers that are not finite become `null`.
-/

namespace TelemetryGate.Wire

/-- Data of any shape. -/
inductive Data where
  /-- Nothing. -/
  | nothing
  /-- A truth value. -/
  | bool (b : Bool)
  /-- A whole number. -/
  | int (i : Int)
  /-- A double. -/
  | float (x : Binary64)
  /-- A text. -/
  | text (s : String)
  /-- A list. -/
  | list (items : List Data)
  /-- Values under keys, in the order in which they are given. -/
  | record (entries : List (Data × Data))
  deriving Repr, Inhabited

/-- Why data has no JSON value. -/
inductive EncodingFault where
  /-- A whole number fits in no word of 64 bits. -/
  | numberOutOfRange
  /-- A key is nothing, a list or a record. -/
  | keyNotText
  /-- A key is infinite or not a number. -/
  | keyNotFinite
  deriving DecidableEq, Repr

/-- The text of an encoding fault. -/
def EncodingFault.message : EncodingFault → String
  | .numberOutOfRange => "number out of range"
  | .keyNotText => "key must be a string"
  | .keyNotFinite => "float key must be finite (got NaN or +/-inf)"

/-- The text of a key. -/
def Data.key : Data → Except EncodingFault String
  | .bool b => .ok (if b then "true" else "false")
  | .int i => .ok (toString i)
  | .float x => if x.isFinite then .ok (x.text .json) else .error .keyNotFinite
  | .text s => .ok s
  | _ => .error .keyNotText

mutual

/-- The JSON value of data. The first fault in the order of the data counts. -/
def Data.json : Data → Except EncodingFault Json.Value
  | .nothing => .ok .null
  | .bool b => .ok (.bool b)
  | .int i =>
    if fitsSigned i || fitsUnsigned i then .ok (.int i) else .error .numberOutOfRange
  | .float x => .ok (.ofBinary64 x)
  | .text s => .ok (.text s)
  | .list items => do
    let values ← jsonItems items
    .ok (.array values)
  | .record entries => do
    let members ← jsonEntries entries []
    .ok (.object members)

/-- The JSON values of the items of a list. -/
def jsonItems : List Data → Except EncodingFault (List Json.Value)
  | [] => .ok []
  | d :: rest => do
    let v ← d.json
    let vs ← jsonItems rest
    .ok (v :: vs)

/-- The members of a record, added to those that came before. -/
def jsonEntries : List (Data × Data) → Entries Json.Value →
    Except EncodingFault (Entries Json.Value)
  | [], acc => .ok acc
  | (k, v) :: rest, acc => do
    let key ← k.key
    let value ← v.json
    jsonEntries rest (acc.put key value)

end

/-- A record with text keys. -/
def Data.ofFields (fields : List (String × Data)) : Data :=
  .record (fields.map fun f => (.text f.1, f.2))

end TelemetryGate.Wire
