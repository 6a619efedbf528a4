import TelemetryGate.Toml.Value
import TelemetryGate.Entries

/-!
# Tables under construction

A document names its tables in headers and in dotted keys. While it is read, each table remembers how
it came about, which decides what may still be added to it: a table with a header of its own gets no
second one and is not reached by dotted keys, and a table made by dotted keys gets no header.
-/

namespace TelemetryGate.Toml

/-- How a table came about. -/
inductive Naming where
  /-- It has a header of its own. -/
  | header
  /-- It is on the way to a table with a header. -/
  | passed
  /-- It is on the way of a dotted key. -/
  | dotted
  deriving DecidableEq, Repr

/-- A value or a table under construction. -/
inductive Draft where
  /-- A value that is complete. -/
  | leaf (v : Value)
  /-- A table. -/
  | table (naming : Naming) (entries : List (String × Draft))
  /-- The tables of an array, each started by a header of its own. -/
  | tables (items : List (List (String × Draft)))

namespace Draft

/-- The entries of a table. -/
abbrev Body := Entries Draft

/-- Change the table at the end of a path. Missing tables are made; in an array of tables the way
leads through the last one. The change is told whether dotted keys made the table. -/
def within (dotted : Bool) (change : Bool → Body → Option Body) :
    List String → Bool → Body → Option Body
  | [], made, body => change made body
  | key :: path, _, body =>
    match body.get? key with
    | none => do
      let inner ← within dotted change path dotted []
      some (body.put key (.table (if dotted then .dotted else .passed) inner))
    | some (.leaf _) => none
    | some (.table naming inner) =>
      if dotted ∧ naming = .header then none
      else do
        let inner ← within dotted change path (naming = .dotted) inner
        some (body.put key (.table naming inner))
    | some (.tables items) => do
      let last ← items.getLast?
      let inner ← within dotted change path false last
      some (body.put key (.tables (items.dropLast ++ [inner])))

/-- Add a value under a dotted key, given by its path and its last part. The table that it is added to
has to be made by dotted keys, unless the path is empty. -/
def addPair (path : List String) (key : String) (v : Value) (body : Body) : Option Body :=
  within true (fun made inner =>
    if made = path.isEmpty ∨ (inner.get? key).isSome then none
    else some (inner.put key (.leaf v))) path false body

/-- Start the table of a header. -/
def addHeader (path : List String) (key : String) (body : Body) : Option Body :=
  within false (fun _ inner =>
    match inner.get? key with
    | none => some (inner.put key (.table .header []))
    | some (.table .passed entries) => some (inner.put key (.table .header entries))
    | some _ => none) path false body

/-- Start a further table of an array. -/
def addItem (path : List String) (key : String) (body : Body) : Option Body :=
  within false (fun _ inner =>
    match inner.get? key with
    | none => some (inner.put key (.tables [[]]))
    | some (.tables items) => some (inner.put key (.tables (items ++ [[]])))
    | some _ => none) path false body

/-- Add a value under a dotted key to the table of the last header. -/
def addBelow (header path : List String) (key : String) (v : Value) (body : Body) : Option Body :=
  within false (fun _ inner => addPair path key v inner) header false body

mutual

/-- The value of a draft. -/
def value : Draft → Value
  | .leaf v => v
  | .table _ entries => .table (values entries)
  | .tables items => .array (itemValues items)

/-- The values of the entries of a table. -/
def values : List (String × Draft) → List (String × Value)
  | [] => []
  | (key, d) :: rest => (key, d.value) :: values rest

/-- The values of the tables of an array. -/
def itemValues : List (List (String × Draft)) → List Value
  | [] => []
  | entries :: rest => .table (values entries) :: itemValues rest

end

end Draft

/-- One statement of a document. The keys are given by their path and their last part. -/
inductive Statement where
  /-- A value under a key. -/
  | pair (path : List String) (key : String) (v : Value)
  /-- The header of a table. -/
  | header (path : List String) (key : String)
  /-- The header of a table in an array. -/
  | item (path : List String) (key : String)

/-- Carry out one statement: the document and the path of its last header change. -/
def Statement.apply (s : Statement) (state : Draft.Body × List String) :
    Option (Draft.Body × List String) :=
  match s with
  | .pair path key v => do
    let body ← Draft.addBelow state.2 path key v state.1
    some (body, state.2)
  | .header path key => do
    let body ← Draft.addHeader path key state.1
    some (body, path ++ [key])
  | .item path key => do
    let body ← Draft.addItem path key state.1
    some (body, path ++ [key])

/-- The entries of the document that some statements make. -/
def entriesOf (statements : List Statement) : Option (List (String × Value)) := do
  let (body, _) ← statements.foldlM (fun state s => s.apply state) ([], [])
  some (Draft.values body)

end TelemetryGate.Toml
