import TelemetryGate.Json.Cursor
import TelemetryGate.Text.Digits

/-!
# Strings in JSON text

A machine that reads a string from behind its opening quote, character by character. It either keeps
the text or only skips it; a string that is skipped may hold halves of surrogate pairs, and a control
character in it is reported before it is read.
-/

namespace TelemetryGate.Json

/-- What the machine waits for. -/
inductive StringState where
  /-- A character of the text, an escape, or the closing quote. -/
  | plain
  /-- The character after a backslash. -/
  | escape
  /-- The digits of a code: the bytes that are missing, the value unless a digit was wrong, and the
  first half of a pair if this is the second. -/
  | code (missing : Nat) (value : Option Nat) (first : Option Nat)
  /-- The backslash of the second half of a pair. -/
  | pairBackslash (first : Nat)
  /-- The letter of the second half of a pair. -/
  | pairLetter (first : Nat)
  deriving DecidableEq, Repr

/-- The character that a one-letter escape stands for. -/
def shortEscape (c : Char) : Option Char :=
  match c with
  | '"' => some '"'
  | '\\' => some '\\'
  | '/' => some '/'
  | 'b' => some '\x08'
  | 'f' => some '\x0c'
  | 'n' => some '\n'
  | 'r' => some '\r'
  | 't' => some '\t'
  | _ => none

/-- The first half of a surrogate pair. -/
def isFirstHalf (n : Nat) : Bool := 0xD800 ≤ n && n ≤ 0xDBFF

/-- The second half of a surrogate pair. -/
def isSecondHalf (n : Nat) : Bool := 0xDC00 ≤ n && n ≤ 0xDFFF

/-- The character of a surrogate pair. -/
def pairChar (first second : Nat) : Char :=
  Char.ofNat (0x10000 + (first - 0xD800) * 0x400 + (second - 0xDC00))

/-- What a complete code does: the next state and what is added to the text. -/
def codeStep (keep : Bool) (value : Option Nat) (first : Option Nat) :
    Except Cause (StringState × List Char) :=
  match value, first with
  | none, _ => .error .invalidEscape
  | some n, none =>
    if !keep then .ok (.plain, [])
    else if isSecondHalf n then .error .loneSurrogate
    else if isFirstHalf n then .ok (.pairBackslash n, [])
    else .ok (.plain, [Char.ofNat n])
  | some n, some f =>
    if isSecondHalf n then .ok (.plain, [pairChar f n]) else .error .loneSurrogate

/-- Run the machine. `acc` holds the text so far in reverse. -/
def scanString (keep : Bool) (offset : Nat) (acc : List Char) :
    StringState → List Char → Except Fault (String × Cursor)
  | .code _ _ _, [] => .error ⟨.endInText, offset⟩
  | _, [] => .error ⟨.endInText, offset⟩
  | .plain, c :: rest =>
    if c = '"' then .ok (String.ofList acc.reverse, ⟨rest, offset + 1⟩)
    else if c = '\\' then scanString keep (offset + 1) acc .escape rest
    else if c.toNat < 0x20 then
      .error ⟨.controlCharacter, if keep then offset + 1 else offset⟩
    else scanString keep (offset + c.utf8Size) (if keep then c :: acc else acc) .plain rest
  | .escape, c :: rest =>
    if c = 'u' then scanString keep (offset + 1) acc (.code 4 (some 0) none) rest
    else match shortEscape c with
      | some e => scanString keep (offset + 1) (if keep then e :: acc else acc) .plain rest
      | none => .error ⟨.invalidEscape, offset + 1⟩
  | .code missing value first, c :: rest =>
    let value := value.bind fun v => (Text.hexValue c).map (v * 16 + ·)
    if c.utf8Size < missing then
      scanString keep (offset + c.utf8Size) acc (.code (missing - c.utf8Size) value first) rest
    else match codeStep keep value first with
      | .error cause => .error ⟨cause, offset + missing⟩
      | .ok (state, add) => scanString keep (offset + missing) (add ++ acc) state rest
  | .pairBackslash first, c :: rest =>
    if c = '\\' then scanString keep (offset + 1) acc (.pairLetter first) rest
    else .error ⟨.unfinishedPair, offset + 1⟩
  | .pairLetter first, c :: rest =>
    if c = 'u' then scanString keep (offset + 1) acc (.code 4 (some 0) (some first)) rest
    else .error ⟨.unfinishedPair, offset + 1⟩

namespace Reader

/-- Read a string after its opening quote. -/
def stringBody : Reader String := fun c => scanString true c.offset [] .plain c.rest

/-- Read past a string after its opening quote. -/
def skipStringBody : Reader Unit := fun c => do
  let (_, rest) ← scanString false c.offset [] .plain c.rest
  .ok ((), rest)

end Reader

end TelemetryGate.Json
