import TelemetryGate.Proofs.Binary64.Decimals
import TelemetryGate.Proofs.Json.Reading
import TelemetryGate.Proofs.Text.Digits

/-!
# Reading numbers

A number is read into the parts that it is spelled with, whatever comes behind it that can come
behind a value. If numbers are valued exactly, or as the nearest double when they have a point or an
exponent, then whole numbers and finite doubles are read as what they were written for.
-/

namespace TelemetryGate.Json

/-! ## Spellings -/

/-- How a number is spelled. -/
structure Spelling where
  /-- A minus sign stands before it. -/
  negative : Bool
  /-- The digits before the point. -/
  whole : List Char
  /-- The digits after the point; without any there is no point. -/
  fraction : List Char
  /-- The digits of the exponent, and whether it is negative. -/
  exponent : Option (Bool × List Char)

namespace Spelling

/-- The characters of a point and of the digits after it. -/
def fractionChars : List Char → List Char
  | [] => []
  | cs => '.' :: cs

/-- The characters of an exponent. -/
def exponentChars : Option (Bool × List Char) → List Char
  | none => []
  | some (minus, cs) => 'e' :: (if minus then '-' else '+') :: cs

/-- The characters behind the sign. -/
def body (s : Spelling) : List Char :=
  s.whole ++ (fractionChars s.fraction ++ exponentChars s.exponent)

/-- All characters of a number. -/
def chars (s : Spelling) : List Char := (if s.negative then ['-'] else []) ++ s.body

/-- The parts that a spelling is read into. -/
def numeral (s : Spelling) : Numeral where
  negative := s.negative
  whole := s.whole.map Text.digitValue
  fraction := if s.fraction = [] then none else some (s.fraction.map Text.digitValue)
  exponent := s.exponent.map fun e => (e.1, e.2.map Text.digitValue)

/-- A number is spelled as JSON text asks for. -/
structure Regular (s : Spelling) : Prop where
  /-- There are digits before the point, and a zero is the first of them only if it is all of
  them. -/
  whole : s.whole = ['0'] ∨ ∃ c cs, s.whole = c :: cs ∧ c ≠ '0'
  /-- They are digits. -/
  isDigit_whole : ∀ c ∈ s.whole, c.isDigit
  /-- So are those after the point. -/
  isDigit_fraction : ∀ c ∈ s.fraction, c.isDigit
  /-- So are those of the exponent, of which there are some. -/
  exponent : ∀ e ∈ s.exponent, e.2 ≠ [] ∧ ∀ c ∈ e.2, c.isDigit

/-- The sign is followed by a digit. -/
theorem Regular.body_eq_cons {s : Spelling} (hs : s.Regular) :
    ∃ c more, s.body = c :: more ∧ c.isDigit := by
  have hdigits := hs.isDigit_whole
  obtain ⟨c, more, hwhole⟩ : ∃ c more, s.whole = c :: more := by
    obtain h | ⟨c, more, h, -⟩ := hs.whole
    · exact ⟨'0', [], h⟩
    · exact ⟨c, more, h⟩
  rw [hwhole] at hdigits
  exact ⟨c, _, by rw [body, hwhole, List.cons_append], hdigits c List.mem_cons_self⟩

/-- A number starts with a minus sign or a digit. -/
theorem Regular.chars_eq_cons {s : Spelling} (hs : s.Regular) :
    ∃ c more, s.chars = c :: more ∧ (c = '-' ∨ c.isDigit) := by
  unfold chars
  cases s.negative with
  | true => exact ⟨'-', s.body, rfl, .inl rfl⟩
  | false =>
    obtain ⟨c, more, hbody, hc⟩ := hs.body_eq_cons
    exact ⟨c, more, hbody, .inr hc⟩

end Spelling

/-- What can stand behind a value is no digit, no point and no mark of an exponent. -/
theorem EndsValue.endsNumber {rest : List Char} (h : EndsValue rest) :
    ∀ c ∈ rest.head?, c.isDigit = false ∧ c ≠ '.' ∧ isExponentMark c = false := by
  intro c hc
  rcases h c hc with rfl | rfl | rfl <;> decide

namespace Reader

variable {cs rest : List Char} (cause : Cause)

theorem reads_peek (cs : List Char) : Reads peek cs cs.head? cs := fun offset => ⟨offset, rfl⟩

theorem reads_digits (hcs : ∀ c ∈ cs, c.isDigit) (hrest : ∀ c ∈ rest.head?, c.isDigit = false) :
    Reads digits (cs ++ rest) (cs.map Text.digitValue) rest := by
  have hstop : rest.takeWhile Char.isDigit = [] ∧ rest.dropWhile Char.isDigit = rest := by
    cases rest with
    | nil => exact ⟨rfl, rfl⟩
    | cons c rest =>
      have hc := hrest c rfl
      exact ⟨List.takeWhile_cons_of_neg (by simp [hc]), List.dropWhile_cons_of_neg (by simp [hc])⟩
  have hread : Reads (readWhile Char.isDigit) (cs ++ rest) cs rest := by
    intro offset
    refine ⟨offset + byteCount cs, ?_⟩
    rw [readWhile]
    simp only [List.takeWhile_append_of_pos hcs, List.dropWhile_append_of_pos hcs, hstop.1, hstop.2,
      List.append_nil]
  exact hread.bind (reads_pure _ rest)

/-- The digits before the point are read. -/
theorem reads_wholePart (hwhole : cs = ['0'] ∨ ∃ c more, cs = c :: more ∧ c ≠ '0')
    (hcs : ∀ c ∈ cs, c.isDigit) (hrest : ∀ c ∈ rest.head?, c.isDigit = false) :
    Reads (wholePart cause) (cs ++ rest) (cs.map Text.digitValue) rest := by
  obtain rfl | ⟨c, more, rfl, hc⟩ := hwhole
  · refine (reads_peek _).bind ((reads_advance '0' rest).bind ((reads_peek rest).bind ?_))
    cases hhead : rest.head? with
    | none => exact reads_pure [0] rest
    | some c =>
      dsimp only
      rw [hrest c hhead]
      exact reads_pure [0] rest
  · refine (reads_peek _).bind ?_
    change Reads (if c = '0' then _ else if c.isDigit then digits else _) _ _ _
    rw [if_neg hc, if_pos (hcs c List.mem_cons_self)]
    exact reads_digits hcs hrest

/-- The digits after the point are read, and where no point is, none are. -/
theorem reads_fractionPart (hcs : ∀ c ∈ cs, c.isDigit)
    (hrest : ∀ c ∈ rest.head?, c.isDigit = false ∧ c ≠ '.') :
    Reads (fractionPart cause) (Spelling.fractionChars cs ++ rest)
      (if cs = [] then none else some (cs.map Text.digitValue)) rest := by
  refine (reads_peek _).bind ?_
  cases cs with
  | nil =>
    rw [if_pos rfl]
    dsimp only [Spelling.fractionChars, List.nil_append]
    split
    · rename_i hpoint
      exact absurd rfl (hrest '.' hpoint).2
    · exact reads_pure none rest
  | cons c more =>
    rw [if_neg (List.cons_ne_nil c more)]
    have hdigits := reads_digits hcs fun d hd => (hrest d hd).1
    exact (reads_advance '.' _).bind (hdigits.bind (reads_pure _ rest))

/-- The sign of an exponent is read. -/
theorem reads_exponentSign (minus : Bool) (rest : List Char) :
    Reads exponentSign ((if minus then '-' else '+') :: rest) minus rest := by
  cases minus <;> exact (reads_peek _).bind ((reads_advance _ rest).bind (reads_pure _ rest))

/-- Where no mark is, no exponent is read. -/
theorem reads_exponentPart_none (hrest : ∀ c ∈ rest.head?, isExponentMark c = false) :
    Reads (exponentPart cause) rest none rest := by
  refine (reads_peek _).bind ?_
  cases hhead : rest.head? with
  | none => exact reads_pure none rest
  | some c =>
    dsimp only
    rw [hrest c hhead]
    exact reads_pure none rest

/-- An exponent is read, and where no mark is, none is. -/
theorem reads_exponentPart {exponent : Option (Bool × List Char)}
    (hexponent : ∀ e ∈ exponent, e.2 ≠ [] ∧ ∀ c ∈ e.2, c.isDigit)
    (hrest : ∀ c ∈ rest.head?, c.isDigit = false ∧ isExponentMark c = false) :
    Reads (exponentPart cause) (Spelling.exponentChars exponent ++ rest)
      (exponent.map fun e => (e.1, e.2.map Text.digitValue)) rest := by
  cases exponent with
  | none => exact reads_exponentPart_none cause fun c hc => (hrest c hc).2
  | some e =>
    refine (reads_peek _).bind ?_
    obtain ⟨minus, cs⟩ := e
    obtain ⟨hne, hcs⟩ := hexponent (minus, cs) rfl
    have hdigits := reads_digits hcs fun d hd => (hrest d hd).1
    refine (reads_advance 'e' _).bind ((reads_exponentSign minus (cs ++ rest)).bind
      ((reads_peek _).bind ?_))
    cases cs with
    | nil => exact absurd rfl hne
    | cons d more =>
      change Reads (if d.isDigit then _ else _) _ _ _
      rw [if_pos (hcs d List.mem_cons_self)]
      exact hdigits.bind (reads_pure _ rest)

/-- What comes behind the sign of a number is read into its parts. -/
theorem reads_numeralFrom {s : Spelling} (hs : s.Regular) (hrest : EndsValue rest) :
    Reads (numeralFrom cause s.negative) (s.body ++ rest) s.numeral rest := by
  have hexponent : ∀ c ∈ (Spelling.exponentChars s.exponent ++ rest).head?,
      c.isDigit = false ∧ c ≠ '.' := by
    cases s.exponent with
    | none => exact fun c hc => (hrest.endsNumber c hc).imp_right And.left
    | some e =>
      rintro c ⟨⟩
      decide
  have hfraction : ∀ c ∈ (Spelling.fractionChars s.fraction ++
      (Spelling.exponentChars s.exponent ++ rest)).head?, c.isDigit = false := by
    cases s.fraction with
    | nil => exact fun c hc => (hexponent c hc).1
    | cons d ds =>
      rintro c ⟨⟩
      rfl
  rw [Spelling.body, List.append_assoc, List.append_assoc]
  refine (reads_wholePart cause hs.whole hs.isDigit_whole hfraction).bind ?_
  refine (reads_fractionPart cause hs.isDigit_fraction hexponent).bind ?_
  refine (reads_exponentPart cause hs.exponent fun c hc => ?_).bind (reads_pure _ rest)
  exact (hrest.endsNumber c hc).imp_right And.right

/-- The sign of a number is read, and then what comes behind it. -/
theorem reads_numeral_of_numeralFrom {negative : Bool} {n : Numeral}
    (hbody : ∃ c more, cs = c :: more ∧ c.isDigit = true)
    (h : Reads (numeralFrom cause negative) (cs ++ rest) n rest) :
    Reads (numeral cause) ((if negative then ['-'] else []) ++ cs ++ rest) n rest := by
  refine (reads_peek _).bind ?_
  cases negative with
  | true => exact (reads_advance '-' _).bind h
  | false =>
    obtain ⟨c, more, rfl, hc⟩ := hbody
    rw [if_neg Bool.false_ne_true, List.nil_append]
    dsimp only [List.cons_append, List.head?_cons]
    split
    · rename_i hminus
      rw [Option.some.inj hminus] at hc
      exact absurd hc (by decide)
    · exact h

/-- A number is read into its parts. -/
theorem reads_numeral {s : Spelling} (hs : s.Regular) (hrest : EndsValue rest) :
    Reads (numeral cause) (s.chars ++ rest) s.numeral rest :=
  reads_numeral_of_numeralFrom cause hs.body_eq_cons (reads_numeralFrom cause hs hrest)

end Reader

/-! ## Values -/

namespace Numeral

/-- All digits as one whole number. -/
def significand (n : Numeral) : Nat := Text.ofDigits 10 (n.whole ++ n.fraction.getD [])

/-- The power of ten that stands for an exponent. -/
def exponentPower : Option (Bool × List Nat) → Int
  | none => 0
  | some (minus, ds) => if minus then -(Text.ofDigits 10 ds : Int) else Text.ofDigits 10 ds

/-- The power of ten that all digits are multiplied by. -/
def power (n : Numeral) : Int := exponentPower n.exponent - (n.fraction.getD []).length

/-- Numbers as they are if they have neither point nor exponent, and else rounded to the nearest
double. -/
def nearest : Valuation := fun n =>
  match n.fraction, n.exponent with
  | none, none => .ok (.int (if n.negative then -(n.significand : Int) else n.significand))
  | _, _ =>
    let x := Binary64.ofDecimal n.negative n.significand n.power
    if x.isFinite then .ok (.float x) else .error 0

/-- A numeral with a point or an exponent is rounded. -/
theorem nearest_eq_float {n : Numeral} {x : Binary64}
    (hn : n.fraction.isSome ∨ n.exponent.isSome)
    (hx : Binary64.ofDecimal n.negative n.significand n.power = x) (hfinite : x.isFinite = true) :
    n.nearest = .ok (.float x) := by
  unfold nearest
  split
  · rename_i hfraction hexponent
    simp [hfraction, hexponent] at hn
  · dsimp only
    rw [hx, if_pos hfinite]

end Numeral

namespace Spelling

theorem fraction_numeral (s : Spelling) :
    s.numeral.fraction.getD [] = s.fraction.map Text.digitValue := by
  change (if s.fraction = [] then none else some (s.fraction.map Text.digitValue)).getD [] = _
  split
  · rename_i hnil
    rw [hnil]
    rfl
  · rfl

theorem significand_numeral (s : Spelling) :
    s.numeral.significand = Text.decimal (s.whole ++ s.fraction) := by
  rw [Numeral.significand, fraction_numeral, Text.decimal, List.map_append]
  rfl

theorem power_numeral (s : Spelling) :
    s.numeral.power = Numeral.exponentPower s.numeral.exponent - s.fraction.length := by
  rw [Numeral.power, fraction_numeral, List.length_map]

end Spelling

namespace Reader

variable {valued : Valuation} {s : Spelling}

/-- A value that is written as a number is read as what that number is valued. -/
theorem readsAs_spelling (depth : Nat) (hs : s.Regular) {written read : Value}
    (hwritten : written.chars = s.chars) (hread : valued s.numeral = .ok read) :
    ReadsAsBy valued (depth + 1) written read := by
  intro rest hrest
  have hnumber : Reads (numberBy valued) (s.chars ++ rest) read rest := by
    refine (reads_numeral .endInValue hs hrest).bind ?_
    rw [hread]
    exact reads_pure read rest
  obtain ⟨c, more, hchars, hc⟩ := hs.chars_eq_cons
  have hother (d : Char) (hd : d ≠ '-' ∧ d.isDigit = false) : c ≠ d := by
    rintro rfl
    exact absurd (hc.resolve_left hd.1) (by simp [hd.2])
  rw [hwritten, hchars, List.cons_append]
  rw [hchars, List.cons_append] at hnumber
  have hspace : isSpace c = false := by
    simp [isSpace, hother ' ' (by decide), hother '\n' (by decide), hother '\t' (by decide),
      hother '\r' (by decide)]
  refine .atValue hspace ?_
  rw [if_neg (hother 'n' (by decide)), if_neg (hother 't' (by decide)),
    if_neg (hother 'f' (by decide)), if_neg (hother '"' (by decide)), if_pos hc]
  exact hnumber

/-- A whole number is read as it is. -/
theorem readsAs_int (depth : Nat) (i : Int) :
    ReadsAsBy Numeral.nearest (depth + 1) (.int i) (.int i) := by
  have hregular : Spelling.Regular ⟨i < 0, Nat.toDigits 10 i.natAbs, [], none⟩ := by
    refine ⟨?_, Text.isDigit_toDigits _, nofun, nofun⟩
    rcases Nat.eq_zero_or_pos i.natAbs with hzero | hpos
    · exact .inl (by rw [hzero]; rfl)
    · exact .inr (Text.toDigits_eq_cons hpos)
  refine readsAs_spelling depth hregular ?_ ?_
  · rw [Value.chars, Text.toList_intText]
    simp [Spelling.chars, Spelling.body, Spelling.fractionChars, Spelling.exponentChars]
  · have hvalue := Spelling.significand_numeral ⟨i < 0, Nat.toDigits 10 i.natAbs, [], none⟩
    rw [List.append_nil, Text.decimal_toDigits] at hvalue
    change Except.ok (Value.int (if decide (i < 0) = true then -(Numeral.significand _ : Int)
      else Numeral.significand _)) = _
    rw [hvalue]
    congr 2
    split <;> rename_i hsign <;> simp at hsign <;> omega

end Reader

end TelemetryGate.Json
