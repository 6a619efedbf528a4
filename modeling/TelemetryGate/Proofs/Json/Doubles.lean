import TelemetryGate.Proofs.Json.Numbers
import TelemetryGate.Proofs.Json.Printing

/-!
# Reading doubles

The text of a finite double spells its shortest decimal, with a point or an exponent set among the
digits. So it is read as that double again.
-/

namespace TelemetryGate

namespace Json

namespace Spelling

/-- Digits with a point among them, or with zeros before or behind them; `e` is the exponent of the
first digit. -/
def positional (negative : Bool) (cs : List Char) (e : Int) : Spelling :=
  if e < 0 then ⟨negative, ['0'], List.replicate ((-e).toNat - 1) '0' ++ cs, none⟩
  else if cs.length ≤ e.toNat + 1 then
    ⟨negative, cs ++ List.replicate (e.toNat + 1 - cs.length) '0', ['0'], none⟩
  else ⟨negative, cs.take (e.toNat + 1), cs.drop (e.toNat + 1), none⟩

/-- Digits with one before the point, and the exponent of the first digit. -/
def scientific (negative : Bool) (cs : List Char) (e : Int) : Spelling :=
  ⟨negative, cs.take 1, cs.drop 1, some (e < 0, Nat.toDigits 10 e.natAbs)⟩

/-- A spelling of a decimal that is given by its digits and by the exponent of the first one. -/
structure Spells (s : Spelling) (negative : Bool) (cs : List Char) (e : Int) : Prop where
  /-- It is spelled as JSON text asks for. -/
  regular : s.Regular
  /-- It has the sign. -/
  negative : s.negative = negative
  /-- It has a point or an exponent. -/
  rounded : s.fraction ≠ [] ∨ s.exponent.isSome
  /-- It stands for the decimal. -/
  value : (s.numeral.significand : ℚ) * 10 ^ s.numeral.power =
    Text.decimal cs * 10 ^ (e + 1 - cs.length)

variable {cs : List Char} {e : Int} (negative : Bool)

theorem fractionChars_of_ne_nil (h : cs ≠ []) : fractionChars cs = '.' :: cs := by
  cases cs with
  | nil => exact absurd rfl h
  | cons c more => rfl

/-- The text of a double in positional notation. -/
theorem chars_positional {digits : String} (hdigits : digits.toList = cs) (hne : cs ≠ []) :
    (positional negative cs e).chars =
      (if negative then ['-'] else []) ++ (Binary64.positionalText digits e true).toList := by
  have hlength : digits.length = cs.length := by rw [← hdigits, String.length_toList]
  unfold positional Binary64.positionalText
  dsimp only
  rw [hlength]
  split
  · have hfraction : List.replicate ((-e).toNat - 1) '0' ++ cs ≠ [] := by simp [hne]
    simp [chars, body, fractionChars_of_ne_nil hfraction, exponentChars, Text.toList_pushn, hdigits]
  · split
    · simp [chars, body, fractionChars, exponentChars, Text.toList_pushn, hdigits]
    · rename_i hmore
      have hfraction : cs.drop (e.toNat + 1) ≠ [] := by simp; omega
      simp [chars, body, fractionChars_of_ne_nil hfraction, exponentChars, hdigits]

/-- The text of a double with an exponent. -/
theorem chars_scientific {digits : String} (hdigits : digits.toList = cs) :
    (scientific negative cs e).chars =
      (if negative then ['-'] else []) ++ (Binary64.scientificText digits e).toList := by
  have htail : (if (String.ofList (cs.drop 1)).isEmpty then ""
      else "." ++ String.ofList (cs.drop 1)).toList = fractionChars (cs.drop 1) := by
    cases cs.drop 1 with
    | nil => rfl
    | cons c more => simp [fractionChars]
  have hsign : (if e < 0 then "-" else "+").toList = [if e < 0 then '-' else '+'] := by
    split <;> rfl
  simp only [scientific, Binary64.scientificText, chars, body, exponentChars, String.toList_append,
    hdigits, htail, hsign, Text.toList_natText]
  cases negative <;> simp

/-! ## What they stand for -/

theorem isDigit_zeros (k : Nat) : ∀ c ∈ List.replicate k '0', c.isDigit := by
  intro c hc
  rw [List.eq_of_mem_replicate hc]
  rfl

/-- Digits behind a point and zeros. -/
theorem spells_fraction (hcs : ∀ c ∈ cs, c.isDigit) (hne : cs ≠ []) (he : e < 0) :
    Spells ⟨negative, ['0'], List.replicate ((-e).toNat - 1) '0' ++ cs, none⟩ negative cs e where
  regular := by
    refine ⟨.inl rfl, isDigit_zeros 1, fun c hc => ?_, nofun⟩
    exact (List.mem_append.mp hc).elim (isDigit_zeros _ c) (hcs c)
  negative := rfl
  rounded := .inl (by simp [hne])
  value := by
    have hdigits : Text.decimal (['0'] ++ (List.replicate ((-e).toNat - 1) '0' ++ cs)) =
        Text.decimal cs :=
      (Text.decimal_zeros_append 1 _).trans (Text.decimal_zeros_append _ cs)
    rw [significand_numeral, power_numeral, hdigits]
    congr 2
    rw [List.length_append, List.length_replicate]
    change 0 - _ = _
    omega

/-- Digits with zeros behind them, then a point and one more zero. -/
theorem spells_whole (hcs : ∀ c ∈ cs, c.isDigit) (he : 0 ≤ e) (hless : cs.length ≤ e.toNat + 1)
    (hlead : cs = ['0'] ∧ e = 0 ∨ ∃ c more, cs = c :: more ∧ c ≠ '0') :
    Spells ⟨negative, cs ++ List.replicate (e.toNat + 1 - cs.length) '0', ['0'], none⟩ negative cs
      e where
  regular := by
    refine ⟨?_, fun c hc => ?_, isDigit_zeros 1, nofun⟩
    · obtain ⟨rfl, rfl⟩ | ⟨c, more, rfl, hc⟩ := hlead
      · exact .inl rfl
      · exact .inr ⟨c, _, List.cons_append, hc⟩
    · exact (List.mem_append.mp hc).elim (hcs c) (isDigit_zeros _ c)
  negative := rfl
  rounded := .inl (List.cons_ne_nil _ _)
  value := by
    have hdigits : Text.decimal (cs ++ List.replicate (e.toNat + 1 - cs.length) '0' ++ ['0']) =
        10 * (10 ^ (e.toNat + 1 - cs.length) * Text.decimal cs) := by
      rw [← Text.decimal_append_zeros]
      exact Text.decimal_append_zeros 1 _
    have hpower : e + 1 - cs.length = ((e.toNat + 1 - cs.length : ℕ) : ℤ) := by omega
    rw [significand_numeral, power_numeral, hdigits, hpower, zpow_natCast]
    change _ * (10 : ℚ) ^ (0 - 1 : ℤ) = _
    push_cast
    rw [zpow_neg_one]
    ring

/-- Digits with a point among them. -/
theorem spells_split (hcs : ∀ c ∈ cs, c.isDigit) (he : 0 ≤ e) (hmore : e.toNat + 1 < cs.length)
    (hlead : ∃ c more, cs = c :: more ∧ c ≠ '0') :
    Spells ⟨negative, cs.take (e.toNat + 1), cs.drop (e.toNat + 1), none⟩ negative cs e where
  regular := by
    refine ⟨.inr ?_, fun c hc => hcs c (List.mem_of_mem_take hc),
      fun c hc => hcs c (List.mem_of_mem_drop hc), nofun⟩
    obtain ⟨c, more, rfl, hc⟩ := hlead
    exact ⟨c, _, List.take_succ_cons, hc⟩
  negative := rfl
  rounded := .inl (by simp; omega)
  value := by
    rw [significand_numeral, power_numeral, List.take_append_drop]
    congr 2
    rw [List.length_drop]
    change 0 - _ = _
    omega

/-- A spelling of digits with a point among them or with zeros before or behind them. -/
theorem spells_positional (hcs : ∀ c ∈ cs, c.isDigit)
    (hlead : cs = ['0'] ∧ e = 0 ∨ ∃ c more, cs = c :: more ∧ c ≠ '0') :
    (positional negative cs e).Spells negative cs e := by
  unfold positional
  split_ifs with he hless
  · refine spells_fraction negative hcs ?_ he
    obtain ⟨rfl, -⟩ | ⟨c, more, rfl, -⟩ := hlead <;> exact List.cons_ne_nil _ _
  · exact spells_whole negative hcs (by omega) hless hlead
  · refine spells_split negative hcs (by omega) (by omega) (hlead.resolve_left ?_)
    rintro ⟨rfl, rfl⟩
    exact hless le_rfl

/-- A spelling of digits with an exponent. -/
theorem spells_scientific (hcs : ∀ c ∈ cs, c.isDigit)
    (hlead : ∃ c more, cs = c :: more ∧ c ≠ '0') :
    (scientific negative cs e).Spells negative cs e where
  regular := by
    refine ⟨.inr ?_, fun c hc => hcs c (List.mem_of_mem_take hc),
      fun c hc => hcs c (List.mem_of_mem_drop hc), ?_⟩
    · obtain ⟨c, more, rfl, hc⟩ := hlead
      exact ⟨c, [], rfl, hc⟩
    · rintro _ ⟨⟩
      exact ⟨Nat.toDigits_ne_nil, Text.isDigit_toDigits _⟩
  negative := rfl
  rounded := .inr rfl
  value := by
    have hlength : 1 ≤ cs.length := by
      obtain ⟨c, more, rfl, -⟩ := hlead
      exact Nat.le_add_left 1 _
    have hexponent : Numeral.exponentPower (scientific negative cs e).numeral.exponent = e := by
      change (if decide (e < 0) = true then -(Text.decimal (Nat.toDigits 10 e.natAbs) : ℤ)
        else Text.decimal (Nat.toDigits 10 e.natAbs)) = e
      rw [Text.decimal_toDigits]
      split <;> rename_i hsign <;> simp at hsign <;> omega
    rw [significand_numeral, power_numeral, hexponent]
    change (Text.decimal (cs.take 1 ++ cs.drop 1) : ℚ) * 10 ^ (e - (cs.drop 1).length) = _
    rw [List.take_append_drop, List.length_drop]
    congr 2
    omega

end Spelling

/-! ## Doubles -/

end Json

namespace Binary64

/-- The characters of the digits of a decimal. -/
def Decimal.chars (d : Decimal) : List Char := Nat.toDigits 10 d.digits

/-- The exponent of the first digit of a decimal. -/
def Decimal.lead (d : Decimal) : Int := d.exponent + d.chars.length - 1

/-- The first digit of a shortest decimal is no zero, unless the double is zero. -/
theorem chars_shortest (x : Binary64) (tie : TieRule) :
    (x.shortest tie).chars = ['0'] ∧ (x.shortest tie).lead = 0 ∨
      ∃ c more, (x.shortest tie).chars = c :: more ∧ c ≠ '0' := by
  rcases Nat.eq_zero_or_pos x.magnitude with hzero | hpos
  · have hshortest : x.shortest tie = ⟨0, 0⟩ := if_pos hzero
    rw [hshortest]
    exact .inl ⟨rfl, rfl⟩
  · exact .inr (Text.toDigits_eq_cons (digits_shortest_pos hpos tie))

/-- The text of a finite double is its sign and the digits of its shortest decimal in one of two
notations. -/
theorem toList_text {x : Binary64} (hfinite : x.isFinite = true) :
    let d := x.shortest .toEven
    (x.text .json).toList = (if x.negative then ['-'] else []) ++
      (if -5 ≤ d.lead && d.lead ≤ 15 then positionalText (toString d.digits) d.lead true
        else scientificText (toString d.digits) d.lead).toList := by
  have hnan : x.isNaN = false := by
    simp only [isFinite, isNaN, decide_eq_true_eq, decide_eq_false_iff_not] at *
    omega
  have hsign : (if x.negative then "-" else "").toList = if x.negative then ['-'] else [] := by
    cases x.negative <;> rfl
  have hlength : (toString (x.shortest .toEven).digits).length =
      (x.shortest .toEven).chars.length := by
    rw [← String.length_toList, Decimal.chars, Text.toList_natText]
  unfold text
  simp only [hnan, hfinite, Bool.not_true, Bool.false_eq_true, if_false, Layout.json,
    String.toList_append, hsign, hlength, Decimal.lead]
  rfl

end Binary64

namespace Json

/-- The text of a finite double spells its shortest decimal. -/
theorem exists_spelling {x : Binary64} (hfinite : x.isFinite = true) :
    ∃ s : Spelling, s.chars = (x.text .json).toList ∧
      s.Spells x.negative (x.shortest .toEven).chars (x.shortest .toEven).lead := by
  have hdigits : (toString (x.shortest .toEven).digits).toList = (x.shortest .toEven).chars :=
    Text.toList_natText _
  have hcs : ∀ c ∈ (x.shortest .toEven).chars, c.isDigit := Text.isDigit_toDigits _
  have hlead := x.chars_shortest .toEven
  rw [Binary64.toList_text hfinite]
  generalize x.shortest .toEven = d at *
  by_cases hpositional : (decide (-5 ≤ d.lead) && decide (d.lead ≤ 15)) = true
  case pos =>
    rw [if_pos hpositional]
    exact ⟨_, Spelling.chars_positional x.negative hdigits Nat.toDigits_ne_nil,
      Spelling.spells_positional x.negative hcs hlead⟩
  case neg =>
    rw [if_neg hpositional]
    refine ⟨_, Spelling.chars_scientific x.negative hdigits,
      Spelling.spells_scientific x.negative hcs (hlead.resolve_left ?_)⟩
    -- zero is written without exponent
    rintro ⟨-, hzero⟩
    rw [hzero] at hpositional
    exact hpositional rfl

namespace Reader

/-- A finite double is read as it is. -/
theorem readsAs_float (depth : Nat) {x : Binary64} (hfinite : x.isFinite = true) :
    ReadsAsBy Numeral.nearest (depth + 1) (.float x) (.float x) := by
  obtain ⟨s, hchars, hs⟩ := exists_spelling hfinite
  have hwritten : (Value.float x).chars = s.chars := by
    rw [Value.chars, if_pos hfinite, hchars]
  refine readsAs_spelling depth hs.regular hwritten (Numeral.nearest_eq_float ?_ ?_ hfinite)
  · refine hs.rounded.imp (fun hfraction => ?_) fun hexponent => ?_
    · simp [Spelling.numeral, hfraction]
    · simpa [Spelling.numeral] using hexponent
  · have hnegative : s.numeral.negative = x.negative := hs.negative
    rw [hnegative]
    refine Binary64.ofDecimal_of_shortest hfinite .toEven (hs.value.trans ?_)
    rw [Binary64.Decimal.chars, Text.decimal_toDigits, Binary64.Decimal.lead,
      Binary64.Decimal.value, sub_add_cancel, ← Binary64.Decimal.chars, add_sub_cancel_right]

end Reader

end Json

end TelemetryGate
