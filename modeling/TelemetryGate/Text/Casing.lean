import TelemetryGate.Text.CasingTable

/-!
# Lower case

The lower case of a text. Every character has a lower case of its own, save two: the dotted capital
I becomes two characters, and the capital sigma becomes the final sigma at the end of a word.
-/

namespace TelemetryGate.Text

/-- A run lowers the characters that stand on its grid. -/
def CaseRun.covers (r : CaseRun) (n : Nat) : Bool :=
  r.first ≤ n && n ≤ r.last && (n - r.first) % r.stride == 0

/-- The lower case of a character, away from the two exceptions. -/
def lowerChar (c : Char) : Char :=
  match lowering.find? (·.covers c.toNat) with
  | some run => Char.ofNat (c.toNat + run.delta).toNat
  | none => c

/-- After the characters that the rule looks through there comes one that has a case. -/
def seesCased (cs : List Char) : Bool :=
  match cs.dropWhile (inRanges · caseIgnorable) with
  | c :: _ => inRanges c cased
  | [] => false

/-- A sigma ends a word if a letter stands before it and none after it. -/
def isFinalSigma (before after : List Char) : Bool := seesCased before && !seesCased after

/-- The lower case of a text, given what stands before it in reverse order. -/
def lowerFrom (before : List Char) : List Char → List Char
  | [] => []
  | c :: rest =>
    let here :=
      if c = 'Σ' then [if isFinalSigma before rest then 'ς' else 'σ']
      else if c.toNat = 0x130 then ['i', Char.ofNat 0x307]
      else [lowerChar c]
    here ++ lowerFrom (c :: before) rest

/-- The text in lower case. -/
def lower (s : String) : String := String.ofList (lowerFrom [] s.toList)

end TelemetryGate.Text
