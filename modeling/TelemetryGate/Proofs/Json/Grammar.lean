import TelemetryGate.Json.Strings

/-!
# The grammar of JSON text

Every JSON text is a tree that keeps how the text is written: the white space, the letters of every
string with their escapes, the spelling of every number, the order of members and members that are
given twice. A string whose codes are surrogates without their other half belongs to the grammar but
stands for no text.
-/

namespace TelemetryGate.Json

/-- White space. -/
structure Blank where
  /-- The characters. -/
  chars : List Char
  /-- All of them are white space. -/
  isSpace : ∀ c ∈ chars, Reader.isSpace c = true

namespace Blank

/-- No white space. -/
def none : Blank := ⟨[], List.forall_mem_nil _⟩

/-- White space behind other white space. -/
def append (a b : Blank) : Blank where
  chars := a.chars ++ b.chars
  isSpace c hc := (List.mem_append.mp hc).elim (a.isSpace c) (b.isSpace c)

theorem append_chars (a b : Blank) (rest : List Char) :
    a.chars ++ (b.chars ++ rest) = (a.append b).chars ++ rest :=
  (List.append_assoc a.chars b.chars rest).symm

end Blank

/-! ## Strings -/

/-- An escape of one letter. -/
inductive ShortEscape where
  | quote
  | backslash
  | slash
  | backspace
  | formFeed
  | newline
  | carriageReturn
  | tab
  deriving DecidableEq, Repr

namespace ShortEscape

/-- The letter behind the backslash. -/
def mark : ShortEscape → Char
  | quote => '"'
  | backslash => '\\'
  | slash => '/'
  | backspace => 'b'
  | formFeed => 'f'
  | newline => 'n'
  | carriageReturn => 'r'
  | tab => 't'

/-- The character that is meant. -/
def meaning : ShortEscape → Char
  | quote => '"'
  | backslash => '\\'
  | slash => '/'
  | backspace => '\x08'
  | formFeed => '\x0c'
  | newline => '\n'
  | carriageReturn => '\r'
  | tab => '\t'

end ShortEscape

/-- A hexadecimal digit in either case. -/
structure HexDigit where
  /-- Its value. -/
  value : Fin 16
  /-- A letter is in upper case. -/
  upper : Bool
  deriving DecidableEq, Repr

/-- The character of a digit. -/
def HexDigit.char (d : HexDigit) : Char :=
  if d.upper then (Nat.digitChar d.value).toUpper else Nat.digitChar d.value

/-- The four digits of a code. -/
structure Code where
  first : HexDigit
  second : HexDigit
  third : HexDigit
  fourth : HexDigit
  deriving DecidableEq, Repr

namespace Code

/-- The digits of a code. -/
def chars (u : Code) : List Char := [u.first.char, u.second.char, u.third.char, u.fourth.char]

/-- The number that is written. -/
def value (u : Code) : Nat :=
  ((u.first.value * 16 + u.second.value) * 16 + u.third.value) * 16 + u.fourth.value

end Code

/-- A letter of a string. -/
inductive Letter where
  /-- A character that stands for itself. -/
  | plain (c : Char) (h : c ≠ '"' ∧ c ≠ '\\' ∧ 0x20 ≤ c.toNat)
  /-- A backslash and a letter. -/
  | short (e : ShortEscape)
  /-- A backslash, the letter `u` and the digits of a code. -/
  | code (u : Code)
  deriving DecidableEq, Repr

namespace Letter

/-- The characters of a letter. -/
def chars : Letter → List Char
  | plain c _ => [c]
  | short e => ['\\', e.mark]
  | code u => '\\' :: 'u' :: u.chars

/-- The characters that letters stand for, if every half of a surrogate pair has its other half. -/
def decode : List Letter → Option (List Char)
  | [] => some []
  | plain c _ :: rest => (c :: ·) <$> decode rest
  | short e :: rest => (e.meaning :: ·) <$> decode rest
  | code u :: rest =>
    if isSecondHalf u.value then none
    else if isFirstHalf u.value then
      match rest with
      | code u' :: rest =>
        if isSecondHalf u'.value then (pairChar u.value u'.value :: ·) <$> decode rest else none
      | _ => none
    else (Char.ofNat u.value :: ·) <$> decode rest

/-- A code that is no surrogate stands for a character by itself. -/
theorem decode_code {u : Code} (hsecond : isSecondHalf u.value = false)
    (hfirst : isFirstHalf u.value = false) (rest : List Letter) :
    decode (code u :: rest) = (Char.ofNat u.value :: ·) <$> decode rest := by
  rw [decode.eq_def]
  simp only [hsecond, hfirst, Bool.false_eq_true, if_false]

/-- The text that letters stand for. -/
def text? (letters : List Letter) : Option String := String.ofList <$> decode letters

/-- The characters behind the opening quote. -/
def body (letters : List Letter) : List Char := letters.flatMap chars ++ ['"']

end Letter

/-! ## Numbers -/

/-- Some digits, at least one. -/
structure Digits where
  /-- The characters. -/
  chars : List Char
  /-- There is one. -/
  ne_nil : chars ≠ []
  /-- All of them are digits. -/
  isDigit : ∀ c ∈ chars, c.isDigit = true

/-- How the exponent of a number is written. -/
structure ExponentText where
  /-- The mark is in upper case. -/
  upper : Bool
  /-- The sign, if there is one, and whether it is a minus. -/
  sign : Option Bool
  /-- The digits. -/
  digits : Digits

/-- The characters of an exponent. -/
def ExponentText.chars (e : ExponentText) : List Char :=
  (if e.upper then 'E' else 'e') :: e.sign.toList.map (if · then '-' else '+') ++ e.digits.chars

/-- How a number is written. -/
structure NumberText where
  /-- A minus sign stands before it. -/
  negative : Bool
  /-- The digits before the point. -/
  whole : Digits
  /-- A zero is the first of them only if it is all of them. -/
  leading : whole.chars = ['0'] ∨ ∃ c cs, whole.chars = c :: cs ∧ c ≠ '0'
  /-- The digits after the point. -/
  fraction : Option Digits
  /-- The exponent. -/
  exponent : Option ExponentText

namespace NumberText

/-- The characters of a point and the digits after it. -/
def fractionChars : Option Digits → List Char
  | none => []
  | some ds => '.' :: ds.chars

/-- The characters of an exponent that may be absent. -/
def exponentChars : Option ExponentText → List Char
  | none => []
  | some e => e.chars

/-- The characters behind the sign. -/
def body (n : NumberText) : List Char :=
  n.whole.chars ++ (fractionChars n.fraction ++ exponentChars n.exponent)

/-- The characters of a number. -/
def chars (n : NumberText) : List Char := (if n.negative then ['-'] else []) ++ n.body

/-- The sign is followed by a digit. -/
theorem body_eq_cons (n : NumberText) : ∃ c more, n.body = c :: more ∧ c.isDigit = true := by
  obtain ⟨c, more, hwhole⟩ := List.exists_cons_of_ne_nil n.whole.ne_nil
  have hc := n.whole.isDigit c (hwhole ▸ List.mem_cons_self)
  exact ⟨c, _, by rw [body, hwhole, List.cons_append], hc⟩

/-- A number starts with a minus sign or a digit. -/
theorem chars_eq_cons (n : NumberText) :
    ∃ c more, n.chars = c :: more ∧ (c = '-' ∨ c.isDigit = true) := by
  unfold chars
  cases n.negative with
  | true => exact ⟨'-', n.body, rfl, .inl rfl⟩
  | false =>
    obtain ⟨c, more, hbody, hc⟩ := n.body_eq_cons
    exact ⟨c, more, hbody, .inr hc⟩

end NumberText

/-! ## Values -/

/-- A value with white space around it. -/
structure Padded (α : Type) where
  /-- The white space before it. -/
  before : Blank
  /-- The value. -/
  value : α
  /-- The white space behind it. -/
  after : Blank

/-- A member of an object. -/
structure Member (α : Type) where
  /-- The white space before the key. -/
  before : Blank
  /-- The key. -/
  key : List Letter
  /-- The white space between the key and the colon. -/
  between : Blank
  /-- The white space behind the colon. -/
  gap : Blank
  /-- The value. -/
  value : α
  /-- The white space behind the value. -/
  after : Blank

/-- A JSON value as it is written. -/
inductive Tree where
  /-- The word `null`. -/
  | null
  /-- The word `true` or `false`. -/
  | bool (b : Bool)
  /-- A number. -/
  | number (n : NumberText)
  /-- A string. -/
  | text (letters : List Letter)
  /-- Items in square brackets. `inside` is the white space behind the opening bracket. -/
  | array (inside : Blank) (items : List (Padded Tree))
  /-- Members in braces. -/
  | object (inside : Blank) (members : List (Member Tree))

/-- What separates an entry from the one before it. -/
def comma (first : Bool) : List Char := if first then [] else [',']

namespace Tree

mutual

/-- The characters of a value. -/
def chars : Tree → List Char
  | .null => ['n', 'u', 'l', 'l']
  | .bool true => ['t', 'r', 'u', 'e']
  | .bool false => ['f', 'a', 'l', 's', 'e']
  | .number n => n.chars
  | .text letters => '"' :: Letter.body letters
  | .array inside items => '[' :: (inside.chars ++ (itemChars true items ++ [']']))
  | .object inside members => '\x7b' :: (inside.chars ++ (memberChars true members ++ ['\x7d']))

/-- The characters of items, with a comma before each of them but the first. -/
def itemChars (first : Bool) : List (Padded Tree) → List Char
  | [] => []
  | ⟨before, t, after⟩ :: rest =>
    comma first ++ (before.chars ++ (t.chars ++ (after.chars ++ itemChars false rest)))

/-- The characters of members, with a comma before each of them but the first. -/
def memberChars (first : Bool) : List (Member Tree) → List Char
  | [] => []
  | ⟨before, key, between, gap, t, after⟩ :: rest =>
    comma first ++ (before.chars ++ ('"' :: (Letter.body key ++ (between.chars ++
      (':' :: (gap.chars ++ (t.chars ++ (after.chars ++ memberChars false rest))))))))

end

/-- A character that a value can begin with. -/
def Starts (c : Char) : Prop :=
  c ∈ ['n', 't', 'f', '"', '[', '\x7b', '-'] ∨ c.isDigit = true

instance (c : Char) : Decidable (Starts c) :=
  inferInstanceAs (Decidable (c ∈ _ ∨ c.isDigit = true))

/-- No value begins with white space, a comma or a bracket that closes. -/
theorem Starts.ne {c d : Char} (h : Starts c) (hd : d ∈ [' ', '\n', '\t', '\r', ',', ']', '\x7d']) :
    c ≠ d := by
  have hall : [' ', '\n', '\t', '\r', ',', ']', '\x7d'].all fun d => !decide (Starts d) := by decide
  rintro rfl
  simpa [h] using List.all_eq_true.mp hall c hd

theorem Starts.isSpace {c : Char} (h : Starts c) : Reader.isSpace c = false := by
  simp [Reader.isSpace, h.ne]

theorem chars_eq_cons (t : Tree) : ∃ c more, t.chars = c :: more ∧ Starts c := by
  cases t with
  | null => exact ⟨_, _, rfl, by decide⟩
  | bool b => cases b <;> exact ⟨_, _, rfl, by decide⟩
  | number n =>
    obtain ⟨c, more, hchars, hc⟩ := n.chars_eq_cons
    obtain rfl | hc := hc
    · exact ⟨_, more, hchars, by decide⟩
    · exact ⟨c, more, hchars, .inr hc⟩
  | text letters => exact ⟨_, _, rfl, by decide⟩
  | array inside items => exact ⟨_, _, rfl, by decide⟩
  | object inside members => exact ⟨_, _, rfl, by decide⟩

end Tree

/-- The text of a value with white space around it. -/
def Padded.render (p : Padded Tree) : String :=
  String.ofList (p.before.chars ++ (p.value.chars ++ p.after.chars))

end TelemetryGate.Json
