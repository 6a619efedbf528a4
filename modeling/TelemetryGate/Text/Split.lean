/-!
# Cutting text

Cutting a list of characters at a separator, and replacing and removing parts of a text.
-/

namespace TelemetryGate.Text

/-- The pieces between the separators; there is always one more piece than separators. -/
def splitOn (sep : Char) : List Char → List (List Char)
  | [] => [[]]
  | c :: rest =>
    if c = sep then [] :: splitOn sep rest
    else match splitOn sep rest with
      | [] => [[c]]
      | piece :: more => (c :: piece) :: more

/-- The pieces of a text between separators. -/
def pieces (sep : Char) (s : String) : List String := (splitOn sep s.toList).map String.ofList

/-- The rest of a list behind another one that it starts with. -/
def dropStart? : List Char → List Char → Option (List Char)
  | [], cs => some cs
  | _ :: _, [] => none
  | p :: ps, c :: cs => if p = c then dropStart? ps cs else none

/-- A text starts with another one. -/
def startsWith (s start : String) : Bool := (dropStart? start.toList s.toList).isSome

/-- Replace each pair of underscores, from the left, by a point. -/
def pointed : List Char → List Char
  | '_' :: '_' :: rest => '.' :: pointed rest
  | c :: rest => c :: pointed rest
  | [] => []

/-- The lines of a text: each ends at a line feed, and a carriage return before it does not count.
What follows the last line feed is a line unless it is empty. -/
def lines (s : String) : List String :=
  let cut := splitOn '\n' s.toList
  let ended := cut.dropLast.map fun l => if l.getLast? = some '\r' then l.dropLast else l
  let unended := cut.getLast?.getD []
  (if unended.isEmpty then ended else ended ++ [unended]).map String.ofList

end TelemetryGate.Text
