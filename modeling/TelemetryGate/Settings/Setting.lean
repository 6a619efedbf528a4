import TelemetryGate.Decoding.Mismatch
import TelemetryGate.Entries
import TelemetryGate.Binary64.Rounding
import TelemetryGate.Json.Value
import TelemetryGate.Toml.Value

/-!
# Settings as they are given

The values that the layers of a configuration give: scalars, lists and tables. Each remembers the
place that it comes from; tables that come about by merging belong to no place.
-/

namespace TelemetryGate

open Decoding (Found)

/-- A value without parts. -/
inductive Scalar where
  /-- The empty value. -/
  | nothing
  /-- A truth value. -/
  | bool (b : Bool)
  /-- A whole number of 64 bits. -/
  | int (i : Int)
  /-- A double. -/
  | float (x : Binary64)
  /-- A text. -/
  | text (s : String)
  deriving DecidableEq, Repr

/-- A value that a layer gives. -/
inductive Setting where
  /-- A value without parts. -/
  | scalar (origin : Option String) (value : Scalar)
  /-- A list. -/
  | list (origin : Option String) (items : List Setting)
  /-- Values under keys. -/
  | table (origin : Option String) (entries : List (String × Setting))
  deriving Repr

namespace Setting

/-- A value that nobody gave. -/
def absent : Setting := .scalar none .nothing

/-- An empty table that belongs to no place. -/
def emptyTable : Setting := .table none []

/-- The place that a value comes from. -/
def origin : Setting → Option String
  | .scalar origin _ => origin
  | .list origin _ => origin
  | .table origin _ => origin

/-- What a value is when it is found in the wrong place. -/
def found : Setting → Found
  | .scalar _ .nothing => .nothing
  | .scalar _ (.bool b) => .bool b
  | .scalar _ (.int i) => .int i
  | .scalar _ (.float x) => .float x
  | .scalar _ (.text s) => .text s
  | .list _ _ => .list
  | .table _ _ => .table

/-- The entries of a table; any other value has none. -/
def entries : Setting → List (String × Setting)
  | .table _ entries => entries
  | _ => []

mutual

/-- The setting of a JSON value. Whole numbers beyond 64 bits with sign become doubles. -/
def ofJson (origin : Option String) : Json.Value → Setting
  | .null => .scalar origin .nothing
  | .bool b => .scalar origin (.bool b)
  | .int i =>
    if fitsSigned i then .scalar origin (.int i)
    else .scalar origin (.float (.ofInt i))
  | .float x => .scalar origin (.float x)
  | .text s => .scalar origin (.text s)
  | .array items => .list origin (ofJsonItems origin items)
  | .object members => .table origin (ofJsonMembers origin members)

/-- The settings of the items of an array. -/
def ofJsonItems (origin : Option String) : List Json.Value → List Setting
  | [] => []
  | v :: rest => ofJson origin v :: ofJsonItems origin rest

/-- The settings of the members of an object. -/
def ofJsonMembers (origin : Option String) : List (String × Json.Value) → List (String × Setting)
  | [] => []
  | (key, v) :: rest => (key, ofJson origin v) :: ofJsonMembers origin rest

end

mutual

/-- The setting of a TOML value. Dates and times become texts. -/
def ofToml (origin : Option String) : Toml.Value → Setting
  | .text s => .scalar origin (.text s)
  | .int i => .scalar origin (.int i)
  | .float x => .scalar origin (.float x)
  | .bool b => .scalar origin (.bool b)
  | .moment m => .scalar origin (.text m.text)
  | .array items => .list origin (ofTomlItems origin items)
  | .table entries => .table origin (ofTomlEntries origin entries)

/-- The settings of the items of an array. -/
def ofTomlItems (origin : Option String) : List Toml.Value → List Setting
  | [] => []
  | v :: rest => ofToml origin v :: ofTomlItems origin rest

/-- The settings of the entries of a table. -/
def ofTomlEntries (origin : Option String) : List (String × Toml.Value) → List (String × Setting)
  | [] => []
  | (key, v) :: rest => (key, ofToml origin v) :: ofTomlEntries origin rest

end

end Setting

end TelemetryGate
