import TelemetryGate.Environment
import TelemetryGate.Log.Directive
import TelemetryGate.Settings.Basic

/-!
# Filters

A filter decides which records pass. It holds the rules of its directives, the most specific first;
the first rule that covers a record decides, and a record that no rule covers does not pass. A rule
with a longer target is more specific than one with a shorter target or none, and of two rules with
the same target the later one stays.

The directives of the environment take the place of those of the settings, if all of them can be
read.
-/

namespace TelemetryGate.Log

/-- What decides about the records that it covers. -/
structure Rule where
  /-- What the target of a covered record starts with. -/
  target : Option String
  /-- The fields that a covered record has. -/
  fields : List String
  /-- What passes by its level. -/
  threshold : Threshold
  deriving DecidableEq, Repr

/-- A record has a field of a name. The message is such a field. -/
def Record.hasField (r : Record) (name : String) : Bool :=
  name = "message" || r.fields.any (·.1 = name)

namespace Rule

/-- How specific a rule is: first by the length of the target, then by the number of fields. -/
def compare (a b : Rule) : Ordering :=
  (Ord.compare (a.target.map String.utf8ByteSize) (b.target.map String.utf8ByteSize)).then <|
  (Ord.compare a.fields.length b.fields.length).then <|
  (Ord.compare a.target b.target).then (Ord.compare a.fields b.fields)

/-- A rule covers a record. -/
def covers (rule : Rule) (r : Record) : Bool :=
  rule.target.all (Text.startsWith r.target) && rule.fields.all r.hasField

end Rule

/-- The rule of a directive. Spans and values of fields are seen by no record, so that a directive
which demands one lets nothing through. -/
def Directive.rule? (d : Directive) : Option Rule :=
  if d.span = none ∧ d.fields.all (·.value = none) then
    some ⟨d.target, d.fields.map (·.name), d.threshold⟩
  else none

/-- What decides which records pass. -/
structure Filter where
  /-- The rules, the most specific first. -/
  rules : List Rule
  deriving DecidableEq, Repr

namespace Filter

/-- A rule among others, the most specific first. It takes the place of one that is just as
specific. -/
def insert (rule : Rule) : List Rule → List Rule
  | [] => [rule]
  | r :: rest =>
    match rule.compare r with
    | .gt => rule :: r :: rest
    | .eq => rule :: rest
    | .lt => r :: insert rule rest

/-- A filter with one more directive. -/
def add (f : Filter) (d : Directive) : Filter :=
  match d.rule? with
  | some rule => ⟨insert rule f.rules⟩
  | none => f

/-- The filter of some directives, the last one being the latest. -/
def ofDirectives (ds : List Directive) : Filter := ds.foldl add ⟨[]⟩

/-- A record passes. -/
def admits (f : Filter) (r : Record) : Bool :=
  match f.rules.find? (·.covers r) with
  | some rule => rule.threshold.admits r.level
  | none => false

/-- The name of the variable that holds directives. -/
def variableName : String := "QSHARP_TELEMETRY_LOG"

section

variable (against : Objections)

/-- The filter of a list of directives between commas. Nothing between two commas is no directive. -/
def ofText (s : String) : Except Directive.Fault Filter := do
  let ds ← ((Text.pieces ',' s).filter (· ≠ "")).mapM (Directive.ofText against)
  .ok (ofDirectives ds)

/-- The directive of a module and its level. -/
def moduleDirective (module level : String) : Except Directive.Fault Directive :=
  Directive.ofText against (module ++ "=" ++ level)

/-- The filter of log settings: their level, and the levels of single modules. When the log is off,
the levels of modules do not count. -/
def ofSettings (s : LogSettings) : Except Directive.Fault Filter := do
  let main ← ofText against s.level
  if s.level = "off" then .ok main
  else s.modules.foldlM (fun f m => return f.add (← moduleDirective against m.1 m.2)) main

/-- The filter of the environment, if all its directives can be read. -/
def ofVariables? (v : Variables) : Option Filter :=
  (v.get? variableName).bind fun s => (ofText against s).toOption

/-- The filter of the environment, or else of log settings. -/
def choose (v : Variables) (s : LogSettings) : Except Directive.Fault Filter :=
  match ofVariables? against v with
  | some f => .ok f
  | none => ofSettings against s

end

end Filter

end TelemetryGate.Log
