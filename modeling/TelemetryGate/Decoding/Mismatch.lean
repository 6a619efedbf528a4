import TelemetryGate.Binary64.Layout
import TelemetryGate.Text.Quoted

/-!
# Mismatches

What can be wrong with data that is well formed: a value of another kind than the one that is
expected, an unknown word, a field given twice. The wording of the found value differs between the
places that report it in the empty value and in numbers.
-/

namespace TelemetryGate.Decoding

/-- A value that was found where another kind was expected. -/
inductive Found where
  /-- The empty value. -/
  | nothing
  /-- A truth value. -/
  | bool (b : Bool)
  /-- A whole number. -/
  | int (i : Int)
  /-- A double. -/
  | float (x : Binary64)
  /-- A text. -/
  | text (s : String)
  /-- A list. -/
  | list
  /-- Values under keys. -/
  | table
  deriving DecidableEq, Repr

/-- How found values are named. -/
structure Wording where
  /-- The empty value. -/
  nothing : String
  /-- What stands before a whole number. -/
  integer : String
  /-- How doubles are written. -/
  floats : Binary64.Layout

/-- The wording of faults in JSON text. -/
def Wording.json : Wording := ⟨"null", "integer", .json⟩

/-- The wording of faults in values that come from several layers. -/
def Wording.plain : Wording := ⟨"unit value", "integer", .pointed⟩

/-- The wording of faults in a whole settings file. -/
def Wording.wide : Wording := ⟨"unit value", "64-bit integer", .plain⟩

/-- The text between grave accents. -/
def marked (s : String) : String := "\x60" ++ s ++ "\x60"

/-- The name of a found value. All but texts, lists and tables are marked with their value. -/
def Found.describe (w : Wording) : Found → String
  | .nothing => w.nothing
  | .bool b => "boolean " ++ marked (if b then "true" else "false")
  | .int i => w.integer ++ " " ++ marked (toString i)
  | .float x => "floating point " ++ marked (x.text w.floats)
  | .text s => "string " ++ Text.quoted s
  | .list => "sequence"
  | .table => "map"

/-- A fault in well-formed data. -/
inductive Mismatch where
  /-- A value of another kind. -/
  | wrongKind (found : Found) (expected : String)
  /-- A word that is none of the known ones. -/
  | unknownWord (word : String) (known : List String)
  /-- A field that is given twice. -/
  | repeatedField (name : String)
  /-- A list with more items than there are fields. -/
  | tooLong (length : Nat)
  deriving DecidableEq, Repr

/-- The names of the known words: two joined by `or`, more of them listed. -/
def alternatives : List String → String
  | [] => "there are no variants"
  | [a] => "expected " ++ marked a
  | [a, b] => "expected " ++ marked a ++ " or " ++ marked b
  | words => "expected one of " ++ ", ".intercalate (words.map marked)

/-- The text of a mismatch. -/
def Mismatch.message (w : Wording) : Mismatch → String
  | .wrongKind found expected =>
    "invalid type: " ++ found.describe w ++ ", expected " ++ expected
  | .unknownWord word known =>
    "unknown variant " ++ marked word ++ ", " ++ alternatives known
  | .repeatedField name => "duplicate field " ++ marked name
  | .tooLong length =>
    "invalid length " ++ toString length ++ ", expected fewer elements in array"

end TelemetryGate.Decoding
