import Mathlib.Data.Nat.Digits.Defs
import Mathlib.Tactic.SplitIfs
import TelemetryGate.Json.Printer
import TelemetryGate.Proofs.Text.Digits

/-!
# JSON text is one line

No control character stands in the text of a JSON value, whatever texts it holds and wherever they
stand: the printer escapes them in keys and values alike, and numbers have none.
-/

namespace TelemetryGate

namespace Text

/-- No control character is among some characters. -/
def NoControl (cs : List Char) : Prop := ∀ c ∈ cs, 0x20 ≤ c.toNat

instance (cs : List Char) : Decidable (NoControl cs) :=
  List.decidableBAll _ cs

variable {cs ds : List Char}

theorem noControl_append : NoControl (cs ++ ds) ↔ NoControl cs ∧ NoControl ds :=
  List.forall_mem_append

theorem noControl_cons {c : Char} : NoControl (c :: cs) ↔ 0x20 ≤ c.toNat ∧ NoControl cs :=
  List.forall_mem_cons

theorem NoControl.subset (h : NoControl ds) (hsub : cs ⊆ ds) : NoControl cs :=
  fun c hc => h c (hsub hc)

theorem le_toNat_digitChar : ∀ d < 16, 0x20 ≤ (Nat.digitChar d).toNat := by decide

/-- Digits are no control characters. -/
theorem noControl_toDigits {base : Nat} (hbase : 1 < base) (hmost : base ≤ 16) (n : Nat) :
    NoControl (Nat.toDigits base n) := by
  induction n using Nat.strongRecOn with
  | ind n ih =>
    by_cases hn : n < base
    · rw [Nat.toDigits_of_lt_base hn, noControl_cons]
      exact ⟨le_toNat_digitChar n (by omega), nofun⟩
    · have hle := Nat.not_lt.mp hn
      have hless : n / base < n := Nat.div_lt_self (by omega) hbase
      rw [Nat.toDigits_of_base_le hbase hle, noControl_append, noControl_cons]
      have hdigit : n % base < 16 := Nat.lt_of_lt_of_le (Nat.mod_lt n (by omega)) hmost
      exact ⟨ih _ hless, le_toNat_digitChar _ hdigit, nofun⟩

theorem noControl_natText (n : Nat) : NoControl (toString n).toList := by
  rw [toList_natText]
  exact noControl_toDigits (by decide) (by decide) n

theorem noControl_intText (i : Int) : NoControl (toString i).toList := by
  rw [toList_intText, noControl_append]
  refine ⟨?_, noControl_toDigits (by decide) (by decide) _⟩
  split <;> decide

theorem toList_pushn (s : String) (c : Char) (n : Nat) :
    (s.pushn c n).toList = s.toList ++ List.replicate n c := by
  induction n with
  | zero => simp [String.pushn, Nat.repeat]
  | succ n ih =>
    have hpush : s.pushn c (n + 1) = (s.pushn c n).push c := rfl
    rw [hpush, String.toList_push, ih, List.append_assoc, List.replicate_succ']

end Text

open Text (NoControl noControl_append noControl_cons)

namespace Binary64

/-- Zeros that fill up the digits of a number. -/
theorem noControl_zeros (n : Nat) : NoControl ("".pushn '0' n).toList := by
  rw [Text.toList_pushn]
  intro c hc
  obtain ⟨-, rfl⟩ := List.mem_replicate.mp (by simpa using hc)
  decide

theorem noControl_positionalText {digits : String} (h : NoControl digits.toList) (e : Int)
    (keepsPoint : Bool) : NoControl (positionalText digits e keepsPoint).toList := by
  have hpoint : NoControl (if keepsPoint then ".0" else "").toList := by
    cases keepsPoint <;> decide
  rw [positionalText]
  dsimp only
  by_cases he : e < 0
  · rw [if_pos he]
    simp only [String.toList_append, noControl_append]
    exact ⟨⟨by decide, noControl_zeros _⟩, h⟩
  · rw [if_neg he]
    by_cases hwhole : digits.length ≤ e.toNat + 1
    · rw [if_pos hwhole]
      simp only [String.toList_append, noControl_append]
      exact ⟨⟨h, noControl_zeros _⟩, hpoint⟩
    · rw [if_neg hwhole]
      simp only [String.toList_append, String.toList_ofList, noControl_append]
      exact ⟨⟨h.subset (List.take_subset _ _), by decide⟩, h.subset (List.drop_subset _ _)⟩

theorem noControl_scientificText {digits : String} (h : NoControl digits.toList) (e : Int) :
    NoControl (scientificText digits e).toList := by
  have hsign : NoControl (if e < 0 then "-" else "+").toList := by
    split <;> decide
  have htail : NoControl (if (String.ofList (digits.toList.drop 1)).isEmpty then ""
      else "." ++ String.ofList (digits.toList.drop 1)).toList := by
    split
    · decide
    · simp only [String.toList_append, String.toList_ofList, noControl_append]
      exact ⟨by decide, h.subset (List.drop_subset _ _)⟩
  simp only [scientificText, String.toList_append, String.toList_ofList, noControl_append]
  exact ⟨⟨⟨⟨h.subset (List.take_subset _ _), htail⟩, by decide⟩, hsign⟩,
    Text.noControl_natText e.natAbs⟩

/-- The text of a double has no control character in any layout. -/
theorem noControl_text (layout : Layout) (x : Binary64) : NoControl (x.text layout).toList := by
  have hsign : NoControl (if x.negative then "-" else "").toList := by
    cases x.negative <;> decide
  unfold text
  dsimp only
  generalize x.shortest layout.tie = d
  have hdigits := Text.noControl_natText d.digits
  generalize toString d.digits = digits at hdigits ⊢
  have hwritten (isPositional : Bool) (e : Int) : NoControl (if isPositional then
      positionalText digits e layout.keepsPoint else scientificText digits e).toList := by
    cases isPositional with
    | true => exact noControl_positionalText hdigits e _
    | false => exact noControl_scientificText hdigits e
  by_cases hnan : x.isNaN
  · rw [if_pos hnan]
    decide
  · rw [if_neg hnan]
    by_cases hinf : !x.isFinite
    · rw [if_pos hinf, String.toList_append, noControl_append]
      exact ⟨hsign, by decide⟩
    · rw [if_neg hinf, String.toList_append, noControl_append]
      exact ⟨hsign, hwritten _ _⟩

end Binary64

namespace Json

/-- Every character is written without control characters. -/
theorem noControl_escapedChar (c : Char) : NoControl (escapedChar c) := by
  rw [escapedChar]
  split_ifs with hquote hbackslash hb hf hn hr ht hcontrol
  case pos => decide
  case pos => decide
  case pos => decide
  case pos => decide
  case pos => decide
  case pos => decide
  case pos => decide
  case pos =>
    simp only [noControl_cons]
    have hhigh := Text.le_toNat_digitChar (c.toNat / 16) (by omega)
    have hlow := Text.le_toNat_digitChar (c.toNat % 16) (by omega)
    exact ⟨by decide, by decide, by decide, by decide, hhigh, hlow, by decide⟩
  case neg => simpa [NoControl] using hcontrol

theorem noControl_textChars (s : String) : NoControl (textChars s) := by
  rw [textChars, List.cons_append, noControl_cons, noControl_append]
  refine ⟨by decide, ?_, by decide⟩
  intro d hd
  obtain ⟨c, -, hc⟩ := List.mem_flatMap.mp hd
  exact noControl_escapedChar c d hc

mutual

/-- No control character stands in the text of a value. -/
theorem Value.noControl_chars : ∀ v : Value, NoControl v.chars
  | .null => by
    rw [Value.chars]
    decide
  | .bool b => by
    rw [Value.chars]
    cases b <;> decide
  | .int i => by
    rw [Value.chars]
    exact Text.noControl_intText i
  | .float x => by
    rw [Value.chars]
    split
    · exact x.noControl_text .json
    · decide
  | .text s => by
    rw [Value.chars]
    exact noControl_textChars s
  | .array items => by
    rw [Value.chars, List.cons_append, noControl_cons, noControl_append]
    exact ⟨by decide, noControl_itemChars items, by decide⟩
  | .object members => by
    rw [Value.chars, List.cons_append, noControl_cons, noControl_append]
    exact ⟨by decide, noControl_memberChars members, by decide⟩

theorem noControl_itemChars : ∀ items : List Value, NoControl (itemChars items)
  | [] => nofun
  | [v] => by
    rw [itemChars]
    exact v.noControl_chars
  | v :: w :: rest => by
    rw [itemChars, noControl_append, noControl_cons]
    exact ⟨v.noControl_chars, by decide, noControl_itemChars (w :: rest)⟩

theorem noControl_memberChars : ∀ members : List (String × Value), NoControl (memberChars members)
  | [] => nofun
  | [(k, v)] => by
    rw [memberChars, noControl_append, noControl_cons]
    exact ⟨noControl_textChars k, by decide, v.noControl_chars⟩
  | (k, v) :: m :: rest => by
    simp only [memberChars, List.cons_append, List.append_assoc, noControl_append, noControl_cons]
    exact ⟨noControl_textChars k, by decide, v.noControl_chars, by decide,
      noControl_memberChars (m :: rest)⟩

end

end Json

end TelemetryGate
