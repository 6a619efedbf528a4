import TelemetryGate.Text.Split

/-!
# Paths

A path is a text of names between slashes. The steps of a path say how it is walked: into a name, up
to the parent, or on the spot.
-/

namespace TelemetryGate.Filesystem

/-- One step of a walk. -/
inductive Step where
  /-- Stay in the directory. -/
  | here
  /-- Go to the parent directory. -/
  | up
  /-- Go to the entry of a name. -/
  | name (n : String)
  deriving DecidableEq, Repr

/-- The text of a step. -/
def Step.text : Step → String
  | .here => "."
  | .up => ".."
  | .name n => n

/-- The step that a segment between slashes stands for. -/
def Step.ofSegment (s : String) : Step := if s = "." then .here else if s = ".." then .up else .name s

namespace Path

/-- The walk starts at the root. -/
def isAbsolute (p : String) : Bool := p.toList.head? == some '/'

/-- The path ends in a slash. -/
def endsInSlash (p : String) : Bool := p.toList.getLast? == some '/'

/-- The steps of a path. Slashes that follow one another count as one. -/
def steps (p : String) : List Step :=
  ((Text.pieces '/' p).filter (· ≠ "")).map Step.ofSegment

/-- A path inside a directory; an absolute path stands for itself. -/
def join (base p : String) : String :=
  if isAbsolute p then p
  else if base = "" ∨ endsInSlash base then base ++ p
  else base ++ "/" ++ p

/-- The steps of a path that count: steps on the spot are left out, save one at the start of a path
that is not absolute. -/
def components (p : String) : List Step :=
  match steps p with
  | [] => []
  | s :: rest =>
    if s = .here ∧ !isAbsolute p then s :: rest.filter (· ≠ .here)
    else (s :: rest).filter (· ≠ .here)

/-- The steps to the directory that holds what a path names; the root and the empty path have none. -/
def parent? (p : String) : Option (List Step) :=
  match components p with
  | [] => none
  | cs => some cs.dropLast

/-- The part of a file name behind its last point, unless the point is its first character. -/
def extension? (name : String) : Option String :=
  let cs := name.toList
  let tail := (cs.reverse.takeWhile (· ≠ '.')).reverse
  if tail.length + 1 < cs.length then some (String.ofList tail) else none

/-- The steps from one place to another, both given by steps from the root. -/
def relative : List Step → List Step → List Step
  | s :: target, b :: base =>
    if s = b then relative target base else (b :: base).map (fun _ => .up) ++ s :: target
  | target, base => base.map (fun _ => .up) ++ target

/-- The text of some steps. -/
def ofSteps (steps : List Step) : String := "/".intercalate (steps.map Step.text)

end Path

end TelemetryGate.Filesystem
