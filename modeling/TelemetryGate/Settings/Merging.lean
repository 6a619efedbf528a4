import TelemetryGate.Settings.KeyPath
import TelemetryGate.Settings.Setting

/-!
# Merging layers

Later layers come on top of earlier ones. A table goes into what is there entry by entry, and any
other value replaces what is there. Keys do not differ by case.
-/

namespace TelemetryGate

/-- The values that one source of settings gives, by the keys at its top. -/
abbrev Layer := List (String × Setting)

namespace Setting

/-- The place of a target that is a table; any other is replaced and belongs to no place. -/
def tableOrigin : Setting → Option String
  | .table origin _ => origin
  | _ => none

mutual

/-- Put a value under a key of a table. A target that is no table is replaced by one. -/
def put (key : String) : Setting → Setting → Setting
  | .table _ entries, target =>
    let key := Text.lower key
    let below := (Entries.get? key target.entries).getD emptyTable
    .table (tableOrigin target) (Entries.put key (putAll entries below) target.entries)
  | value, target =>
    .table (tableOrigin target) (Entries.put (Text.lower key) value target.entries)

/-- Put all entries of a table into a target. Without entries the target stays as it is. -/
def putAll : List (String × Setting) → Setting → Setting
  | [], target => target
  | (key, value) :: rest, target => putAll rest (put key value target)

end

/-- The items of a list; any other value has none. -/
def items : Setting → List Setting
  | .list _ items => items
  | _ => []

/-- The place of a target that is a list; any other is replaced and belongs to no place. -/
def listOrigin : Setting → Option String
  | .list origin _ => origin
  | _ => none

/-- A list that is long enough for an index, filled up with absent values. -/
def padTo (index : Nat) (items : List Setting) : List Setting :=
  items ++ List.replicate (index + 1 - items.length) absent

/-- The item that an index means. An index from the end beyond the start means the first item. -/
def itemIndex (i : Int) (length : Nat) : Nat :=
  if 0 ≤ i then i.toNat else length - i.natAbs

/-- Set the value at the end of some steps. What stands in the way of a step is replaced. -/
def setBelow (value : Setting) : List Access → Setting → Setting
  | [], _ => value
  | [.key name], target => put name value target
  | .key name :: rest, target =>
    let below := (Entries.get? name target.entries).getD absent
    .table (tableOrigin target) (Entries.put name (setBelow value rest below) target.entries)
  | .item i :: rest, target =>
    let index := itemIndex i target.items.length
    let items := padTo index target.items
    let below := (items[index]?).getD absent
    .list (listOrigin target) (items.set index (setBelow value rest below))

/-- Set the value at the place that a key of a layer stands for. -/
def setKey (key : String) (value root : Setting) : Setting :=
  let path := KeyPath.ofKey key
  setBelow value (.key path.top :: path.below) root

end Setting

/-- Put a layer on top of what is there, entry by entry in the order in which they stand. -/
def Layer.onto (layer : Layer) (root : Setting) : Setting :=
  layer.foldl (fun root e => Setting.setKey e.1 e.2 root) root

/-- All layers on top of one another, the first one below. -/
def Layer.merge (layers : List Layer) : Setting :=
  layers.foldl (fun root layer => layer.onto root) .emptyTable

end TelemetryGate
