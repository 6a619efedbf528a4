import TelemetryGate.Filesystem.Path

/-!
# File trees

A tree of directories and files without links, and the operations on it that can fail: looking up a
path, reading a text, making directories and opening a file to append to it. A walk fails at the
first step that leads nowhere.
-/

namespace TelemetryGate.Filesystem

/-- Why an operation on a tree fails. -/
inductive Fault where
  /-- Nothing has the name. -/
  | notFound
  /-- Something has the name already. -/
  | alreadyExists
  /-- A directory is needed. -/
  | notADirectory
  /-- A directory is of no use. -/
  | isADirectory
  /-- A name or path is too long. -/
  | nameTooLong
  /-- A path holds the NUL character. -/
  | nulInPath
  /-- A file holds no text. -/
  | notText
  deriving DecidableEq, Repr

/-- The text of a fault. -/
def Fault.message : Fault → String
  | .notFound => "No such file or directory (os error 2)"
  | .alreadyExists => "File exists (os error 17)"
  | .notADirectory => "Not a directory (os error 20)"
  | .isADirectory => "Is a directory (os error 21)"
  | .nameTooLong => "File name too long (os error 36)"
  | .nulInPath => "file name contained an unexpected NUL byte"
  | .notText => "stream did not contain valid UTF-8"

/-- A place in a tree: the names on the way from the root. -/
abbrev Location := List String

/-- What stands at a place. -/
inductive Node where
  /-- A file with its bytes. -/
  | file (content : ByteArray)
  /-- A directory. -/
  | directory

/-- The directories and files below the root, which is itself a directory. -/
structure Tree where
  /-- What stands at each place that is taken. -/
  nodes : List (Location × Node)

namespace Tree

/-- The tree with nothing below the root. -/
def empty : Tree := ⟨[]⟩

/-- What stands at a place. -/
def get? (t : Tree) (loc : Location) : Option Node :=
  if loc = [] then some .directory else (t.nodes.find? (·.1 = loc)).map (·.2)

/-- A directory stands at a place. -/
def isDirectory (t : Tree) (loc : Location) : Bool :=
  match t.get? loc with
  | some .directory => true
  | _ => false

/-- Set what stands at a place. -/
def set (t : Tree) (loc : Location) (node : Node) : Tree :=
  if t.nodes.any (·.1 = loc) then
    ⟨t.nodes.map fun e => if e.1 = loc then (loc, node) else e⟩
  else ⟨t.nodes ++ [(loc, node)]⟩

/-- Make sure that the directories on the way to a place are there. `done` is the way so far. -/
def setDirectories (t : Tree) (done : Location) : Location → Tree
  | [] => t
  | n :: rest =>
    let loc := done ++ [n]
    let t := if (t.get? loc).isSome then t else t.set loc .directory
    setDirectories t loc rest

/-- The longest name in bytes. -/
def longestName : Nat := 255

/-- The longest path in bytes, with the byte that ends it. -/
def longestPath : Nat := 4096

/-- Walk some steps from a place. Each step needs a directory to start from. -/
def walk (t : Tree) : Location → List Step → Except Fault Location
  | loc, [] => .ok loc
  | loc, s :: rest =>
    match t.get? loc with
    | none => .error .notFound
    | some (.file _) => .error .notADirectory
    | some .directory =>
      match s with
      | .here => t.walk loc rest
      | .up => t.walk loc.dropLast rest
      | .name n =>
        if longestName < n.utf8ByteSize then .error .nameTooLong else t.walk (loc ++ [n]) rest

/-- Where a walk along a path starts. -/
def origin (cwd : Location) (path : String) : Location := if Path.isAbsolute path then [] else cwd

/-- Whether a path can be walked at all. -/
def admits (path : String) : Except Fault Unit :=
  if path.toList.contains '\x00' then .error .nulInPath
  else if path = "" then .error .notFound
  else if longestPath ≤ path.utf8ByteSize then .error .nameTooLong
  else .ok ()

/-- What stands at a path. -/
def lookup (t : Tree) (cwd : Location) (path : String) : Except Fault Node := do
  admits path
  let loc ← t.walk (origin cwd path) (Path.steps path)
  match t.get? loc with
  | none => .error .notFound
  | some (.file content) =>
    if Path.endsInSlash path then .error .notADirectory else .ok (.file content)
  | some .directory => .ok .directory

/-- Something stands at a path. -/
def exists? (t : Tree) (cwd : Location) (path : String) : Bool := (t.lookup cwd path).isOk

/-- A file stands at a path. -/
def isFile (t : Tree) (cwd : Location) (path : String) : Bool :=
  match t.lookup cwd path with
  | .ok (.file _) => true
  | _ => false

/-- The text of the file at a path. -/
def readText (t : Tree) (cwd : Location) (path : String) : Except Fault String := do
  match ← t.lookup cwd path with
  | .directory => .error .isADirectory
  | .file content =>
    match String.fromUTF8? content with
    | some s => .ok s
    | none => .error .notText

/-- Make one directory. The steps are given from the last to the first. -/
def makeDirectory (t : Tree) (start : Location) : List Step → Except Fault Tree
  | [] => .error .alreadyExists
  | .name n :: before => do
    let place ← t.walk start before.reverse
    let loc ← t.walk place [.name n]
    match t.get? loc with
    | some _ => .error .alreadyExists
    | none => .ok (t.set loc .directory)
  | s :: before => do
    let _ ← t.walk start (s :: before).reverse
    .error .alreadyExists

/-- A directory stands where some steps, given from the last to the first, lead to. -/
def isDirectoryAt (t : Tree) (start : Location) (steps : List Step) : Bool :=
  match t.walk start steps.reverse with
  | .ok loc => t.isDirectory loc
  | .error _ => false

/-- Make a directory and those that it stands in, as far as they are missing. What was made before a
fault stays. The steps are given from the last to the first. -/
def makeDirectories (t : Tree) (start : Location) : List Step → Tree × Option Fault
  | [] => (t, none)
  | s :: before =>
    match t.makeDirectory start (s :: before) with
    | .ok t => (t, none)
    | .error .notFound =>
      match t.makeDirectories start before with
      | (t, some fault) => (t, some fault)
      | (t, none) =>
        match t.makeDirectory start (s :: before) with
        | .ok t => (t, none)
        | .error fault =>
          (t, if t.isDirectoryAt start (s :: before) then none else some fault)
    | .error fault => (t, if t.isDirectoryAt start (s :: before) then none else some fault)

/-- Make the directory that a path stands in, and those around it. -/
def makeParents (t : Tree) (cwd : Location) (path : String) : Tree × Option Fault :=
  match Path.parent? path with
  | none => (t, none)
  | some [] => (t, none)
  | some steps =>
    if steps.any fun s => s.text.toList.contains '\x00' then (t, some .nulInPath)
    else if longestPath ≤ (Path.ofSteps steps).utf8ByteSize then (t, some .nameTooLong)
    else t.makeDirectories (origin cwd path) steps.reverse

/-- Open the file at a path to append to it; a missing file is made. -/
def openAppend (t : Tree) (cwd : Location) (path : String) : Except Fault (Tree × Location) := do
  admits path
  match (Path.steps path).reverse with
  | .name n :: before =>
    let place ← t.walk (origin cwd path) before.reverse
    let loc ← t.walk place [.name n]
    if Path.endsInSlash path then .error .isADirectory
    else match t.get? loc with
      | some .directory => .error .isADirectory
      | some (.file _) => .ok (t, loc)
      | none => .ok (t.set loc (.file .empty), loc)
  | steps =>
    let _ ← t.walk (origin cwd path) steps.reverse
    .error .isADirectory

/-- Append a text to the file at a place. -/
def append (t : Tree) (loc : Location) (text : String) : Tree :=
  match t.get? loc with
  | some (.file content) => t.set loc (.file (content ++ text.toUTF8))
  | _ => t

end Tree

end TelemetryGate.Filesystem
