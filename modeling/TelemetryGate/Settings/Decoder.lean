import TelemetryGate.Decoding.Format
import TelemetryGate.Settings.Setting
import TelemetryGate.Text.Casing

/-!
# Reading typed values from settings

Scalars are read leniently: texts and numbers may stand for truth values, and truth values and
numbers for texts. A fault in a scalar names its key and its place; a fault in the form of a record
does not.
-/

namespace TelemetryGate.Setting

open Decoding (Found Mismatch Wording Format Field)

/-- Why a setting cannot be read. -/
inductive Fault where
  /-- A value of the wrong kind, with its key and its place. -/
  | kind (found : Found) (expected : String) (key : Option String) (origin : Option String)
  /-- A record of the wrong form. -/
  | form (mismatch : Mismatch)
  deriving DecidableEq, Repr

/-- The text of a fault. -/
def Fault.message : Fault → String
  | .kind found expected key origin =>
    (Mismatch.wrongKind found expected).message .wide ++
      ((key.map fun k => " for key " ++ Decoding.marked k).getD "") ++
      ((origin.map (" in " ++ ·)).getD "")
  | .form mismatch => mismatch.message .plain

/-- A key in front of the key of a fault. A point joins them, unless a bracket follows or nothing. -/
def Fault.under (name : String) : Fault → Fault
  | .kind found expected key origin =>
    let inner := key.getD ""
    let joined := match inner.toList.head? with
      | none => name
      | some '[' => name ++ inner
      | some _ => name ++ "." ++ inner
    .kind found expected (some joined) origin
  | fault => fault

/-- An index in front of the key of a fault. -/
def Fault.atItem (index : Nat) : Fault → Fault
  | .kind found expected key origin =>
    .kind found expected (some ("[" ++ toString index ++ "]" ++ key.getD "")) origin
  | fault => fault

/-- A way to read a setting. -/
abbrev Decoder (α : Type) := ReaderT Setting (Except Fault) α

namespace Decoder

variable {α σ : Type}

/-- The texts that stand for a truth value, in lower case. -/
def flagWord? (word : String) : Option Bool :=
  if word ∈ ["1", "true", "on", "yes"] then some true
  else if word ∈ ["0", "false", "off", "no"] then some false
  else none

/-- A truth value. Numbers other than zero stand for true. -/
def flag : Decoder Bool := fun s =>
  match s with
  | .scalar _ (.bool b) => .ok b
  | .scalar _ (.int i) => .ok (i ≠ 0)
  | .scalar _ (.float x) => .ok (!x.isZero)
  | .scalar origin (.text t) =>
    let word := Text.lower t
    match flagWord? word with
    | some b => .ok b
    | none => .error (.kind (.text word) "a boolean" none origin)
  | s => .error (.kind s.found "a boolean" none s.origin)

/-- A text. Truth values and numbers are written out. -/
def text : Decoder String := fun s =>
  match s with
  | .scalar _ (.bool b) => .ok (if b then "true" else "false")
  | .scalar _ (.int i) => .ok (toString i)
  | .scalar _ (.float x) => .ok (x.text .plain)
  | .scalar _ (.text t) => .ok t
  | s => .error (.kind s.found "a string" none s.origin)

/-- A value or the empty value. -/
def optional (d : Decoder α) : Decoder (Option α) := fun s =>
  match s with
  | .scalar _ .nothing => .ok none
  | s => some <$> d s

/-- A reading with a fault placed under a key. -/
def under (name : String) (r : Except Fault α) : Except Fault α := r.mapError (Fault.under name)

/-- A table of texts. -/
def texts : Decoder (Entries String) := fun s =>
  match s with
  | .table _ entries => do
    let pairs ← entries.mapM fun e => (e.1, ·) <$> under e.1 (text e.2)
    .ok (Entries.ofList pairs)
  | s => .error (.form (.wrongKind s.found "a map"))

/-- The fields of a record from the items of a list, counted from an index. Further items do not
count. -/
def positional : Nat → List (Field Decoder σ) → List Setting → σ → Except Fault σ
  | index, field :: fields, s :: rest, acc => do
    let change ← (field.read s).mapError (Fault.atItem index)
    positional (index + 1) fields rest (change acc)
  | _, _, _, acc => .ok acc

/-- The fields of a record from the entries of a table. -/
def named (fields : List (Field Decoder σ)) : List (String × Setting) → σ → Except Fault σ
  | [], acc => .ok acc
  | (key, s) :: rest, acc =>
    match fields.find? (·.name = key) with
    | none => named fields rest acc
    | some field => do
      let change ← under key (field.read s)
      named fields rest (change acc)

/-- A record, starting from given values. -/
def record (title : String) (fields : List (Field Decoder σ)) (start : σ) : Decoder σ := fun s =>
  match s with
  | .list _ items => positional 0 fields items start
  | .table _ entries => named fields entries start
  | s => .error (.form (.wrongKind s.found title))

/-- Settings as a format. -/
def format : Format Decoder where
  flag := flag
  text := text
  path := text
  optional := optional
  texts := texts
  record := record

end Decoder

end TelemetryGate.Setting
