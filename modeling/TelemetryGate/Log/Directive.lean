import TelemetryGate.Log.Threshold
import TelemetryGate.Text.AlphanumericTable
import TelemetryGate.Text.Blank
import TelemetryGate.Text.Slice
import TelemetryGate.Text.Split

/-!
# Directives

A directive says which records pass: those of a target, inside a span, with some fields, from a
threshold on. It is written as `target[span{field,field=value}]=threshold`, where every part may be
missing; a lone word is a threshold if it can be one, else a target.

A directive is scanned without the blank characters at its ends, and its parts are cut at the places
found in the whole text, so that blank characters at its start move every part.

A value of a field is a truth value, a number or a pattern. What patterns there are is left open: a
text that is none of these speaks against the directive, and what it says is given from outside.
-/

namespace TelemetryGate.Log

/-- What speaks against a text as the value of a field, if anything does. -/
abbrev Objections := String → Option String

/-- A field that a record must have. -/
structure FieldDemand where
  /-- The name of the field. -/
  name : String
  /-- The value that is demanded, if one is. -/
  value : Option String
  deriving DecidableEq, Repr

/-- The demand of a text: a name, and a value behind an equals sign. What stands behind another equals
sign does not count. -/
def FieldDemand.ofText (s : String) : FieldDemand :=
  match Text.pieces '=' s with
  | [] => ⟨s, none⟩
  | name :: values => ⟨name, values.head?⟩

/-- Which records pass. -/
structure Directive where
  /-- What the target of a record starts with. -/
  target : Option String := none
  /-- The span around a record. -/
  span : Option String := none
  /-- The fields of a record. -/
  fields : List FieldDemand := []
  /-- What passes by its level. -/
  threshold : Threshold := .atLeast .trace
  deriving DecidableEq, Repr

namespace Directive

/-- Why a text is no directive. -/
inductive Fault where
  /-- It is not built like one. -/
  | malformed
  /-- Its last part is no threshold. -/
  | noThreshold
  /-- Something speaks against the value of a field. -/
  | field (objection : String)
  deriving DecidableEq, Repr

/-- The text of a fault. -/
def Fault.message : Fault → String
  | .malformed => "invalid filter directive"
  | .noThreshold =>
    "error parsing level filter: expected one of \"off\", \"error\", \"warn\", \"info\", " ++
      "\"debug\", \"trace\", or a number 0-5"
  | .field objection => "invalid field filter: " ++ objection

/-- Where a scan stands. The number is the place at which the part that is being scanned starts. -/
inductive Phase where
  /-- Before the first character. -/
  | start
  /-- In a target or a lone threshold. -/
  | word (start : Nat)
  /-- In the name of a span. -/
  | span (start : Nat)
  /-- In a field. -/
  | field (start : Nat)
  /-- Behind the fields. -/
  | fields
  /-- Behind the span. -/
  | tail
  /-- In the threshold. -/
  | threshold (start : Nat)
  /-- Behind everything. -/
  | done
  deriving DecidableEq, Repr

/-- A scan: where it stands, and what it has found. -/
structure Scan where
  /-- Where it stands. -/
  phase : Phase := .start
  /-- What it has found. -/
  found : Directive := {}
  deriving DecidableEq, Repr

/-- A character that a target can start with. -/
def startsTarget (c : Char) : Bool := c = '-' || c = ':' || c = '_' || Text.isAlphanumeric c

/-- A part of the text, if it can be cut out. -/
def part (cut : Option String) : Except Fault String :=
  match cut with
  | some s => .ok s
  | none => .error .malformed

/-- A directive of a lone word. -/
def ofWord (d : Directive) (word : String) : Directive :=
  if word = "" then { d with target := none, threshold := .atLeast .trace }
  else match Threshold.ofText? word with
    | some t => { d with target := none, threshold := t }
    | none => { d with target := some word, threshold := .atLeast .trace }

/-- A directive with the threshold of a text; an empty text lets everything pass. -/
def withThreshold (d : Directive) (s : String) : Except Fault Directive :=
  if s = "" then .ok { d with threshold := .atLeast .trace }
  else match Threshold.ofText? s with
    | some t => .ok { d with threshold := t }
    | none => .error .noThreshold

/-- A directive with one more field. -/
def withField (against : Objections) (d : Directive) (s : String) : Except Fault Directive :=
  if s = "" then .error .malformed
  else match (FieldDemand.ofText s).value.bind against with
    | some objection => .error (.field objection)
    | none => .ok { d with fields := d.fields ++ [.ofText s] }

/-- Scan the character at a place. -/
def Scan.step (against : Objections) (source : String) (s : Scan) (place : Nat) (c : Char) :
    Except Fault Scan :=
  let upTo (start : Nat) := part (Text.slice source start place)
  match s.phase with
  | .start =>
    if c = '[' then .ok { s with phase := .span (place + 1) }
    else if startsTarget c then .ok { s with phase := .word place }
    else .error .malformed
  | .word start =>
    if c = '=' then do
      let target ← upTo start
      .ok ⟨.threshold (place + 1), { s.found with target := some target }⟩
    else if c = '[' then do
      let target ← upTo start
      .ok ⟨.span (place + 1), { s.found with target := some target }⟩
    else if c = ',' then do
      let word ← part (Text.sliceFrom source start)
      .ok ⟨.done, s.found.ofWord word⟩
    else .ok s
  | .span start =>
    if c = ']' then do
      let span ← upTo start
      .ok ⟨.tail, { s.found with span := some span }⟩
    else if c = '\x7b' then do
      let span ← upTo start
      .ok ⟨.field (place + 1), { s.found with span := if span = "" then none else some span }⟩
    else .ok s
  | .field start =>
    if c = '\x7d' then do
      let d ← s.found.withField against (← upTo start)
      .ok ⟨.fields, d⟩
    else if c = ',' then do
      let d ← s.found.withField against (← upTo start)
      .ok ⟨.field (place + 1), d⟩
    else .ok s
  | .fields => if c = ']' then .ok { s with phase := .tail } else .error .malformed
  | .tail =>
    if c = '=' then .ok { s with phase := .threshold (place + 1) } else .error .malformed
  | .threshold start =>
    if c = ',' then do
      let d ← s.found.withThreshold (← upTo start)
      .ok ⟨.done, d⟩
    else .ok s
  | .done => .error .malformed

/-- Scan characters from a place on. -/
def Scan.run (against : Objections) (source : String) (s : Scan) (place : Nat) :
    List Char → Except Fault Scan
  | [] => .ok s
  | c :: rest => do
    let s ← s.step against source place c
    s.run against source (place + c.utf8Size) rest

/-- The directive of a scan that has come to the end of the text. -/
def Scan.finish (source : String) (s : Scan) : Except Fault Directive :=
  match s.phase with
  | .word start => do
    let word ← part (Text.sliceFrom source start)
    .ok (s.found.ofWord word)
  | .threshold start => do
    let rest ← part (Text.sliceFrom source start)
    s.found.withThreshold rest
  | .tail | .done => .ok s.found
  | _ => .error .malformed

/-- The directive of a text. -/
def ofText (against : Objections) (source : String) : Except Fault Directive := do
  let s ← Scan.run against source {} 0 (Text.trim source).toList
  s.finish source

end Directive

end TelemetryGate.Log
