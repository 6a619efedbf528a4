/-!
# Slices by bytes

Parts of a text between two places that are counted in encoded bytes. A place inside a character is
no place to cut at.
-/

namespace TelemetryGate.Text

/-- The rest of some characters behind a number of bytes. -/
def dropBytes : Nat → List Char → Option (List Char)
  | 0, cs => some cs
  | _ + 1, [] => none
  | n + 1, c :: rest => if c.utf8Size ≤ n + 1 then dropBytes (n + 1 - c.utf8Size) rest else none

/-- The first characters that fill a number of bytes. -/
def takeBytes : Nat → List Char → Option (List Char)
  | 0, _ => some []
  | _ + 1, [] => none
  | n + 1, c :: rest =>
    if c.utf8Size ≤ n + 1 then (takeBytes (n + 1 - c.utf8Size) rest).map (c :: ·) else none

/-- The part of a text from a place to its end. -/
def sliceFrom (s : String) (start : Nat) : Option String :=
  (dropBytes start s.toList).map String.ofList

/-- The part of a text between two places. -/
def slice (s : String) (start stop : Nat) : Option String :=
  (dropBytes start s.toList).bind fun cs => (takeBytes (stop - start) cs).map String.ofList

end TelemetryGate.Text
