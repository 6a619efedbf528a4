import TelemetryGate.Proofs.Settings.Keys
import TelemetryGate.Proofs.Text.Digits
import TelemetryGate.Settings.Decoder
import TelemetryGate.Settings.Override

/-!
# Texts of the environment, read and written out again

The value of a variable is read as a truth value or a number if it can be, and where a text is asked
for it is written out again. This file says for which texts that is the way back: for the two truth
values in lower case, for numbers in the form that they are written in, and for all texts that read
as neither.
-/

namespace TelemetryGate

namespace Text

/-- A digit is its own lower case. -/
theorem lowerChar_of_isDigit {c : Char} (h : c.isDigit) : lowerChar c = c := by
  obtain ⟨hmin, hmax⟩ := Char.isDigit_iff_toNat.mp h
  have hbounds : 48 ≤ c.toNat ∧ c.toNat ≤ 57 := ⟨hmin, hmax⟩
  rw [lowerChar_ascii (by omega), if_neg (by omega)]

/-- Lowering a text keeps its digits. -/
theorem mem_lowerFrom_of_isDigit {c : Char} (hc : c.isDigit) {cs : List Char} (h : c ∈ cs)
    (before : List Char) : c ∈ lowerFrom before cs := by
  induction cs generalizing before with
  | nil => cases h
  | cons a rest ih =>
    rw [lowerFrom]
    rcases List.mem_cons.mp h with rfl | h
    · have hsigma : c ≠ 'Σ' := by
        rintro rfl
        exact absurd hc (by decide)
      have hdotted : c.toNat ≠ 0x130 := by
        have hbound := (Char.isDigit_iff_toNat.mp hc).2
        change c.toNat ≤ 57 at hbound
        omega
      rw [if_neg hsigma, if_neg hdotted, lowerChar_of_isDigit hc]
      exact List.mem_cons_self
    · exact List.mem_append_right _ (ih h _)

end Text

namespace Override

/-- A text that starts with a digit has no sign. -/
theorem sign_of_isDigit {c : Char} (h : c.isDigit) (rest : List Char) :
    sign (c :: rest) = (false, c :: rest) := by
  have hplus : c ≠ '+' := by
    rintro rfl
    exact absurd h (by decide)
  have hminus : c ≠ '-' := by
    rintro rfl
    exact absurd h (by decide)
  simp [sign, hplus, hminus]

/-- The digits of a number behind a sign are read as a whole number, if a word holds it. -/
theorem int?_of_sign {cs : List Char} {minus : Bool} {n : Nat} {i : Int}
    (hsign : sign cs = (minus, Nat.toDigits 10 n)) (hi : (if minus then -(n : Int) else n) = i)
    (h : fitsSigned i) : int? cs = some i := by
  have hne : (Nat.toDigits 10 n).isEmpty = false :=
    List.isEmpty_eq_false_iff.mpr Nat.toDigits_ne_nil
  have hall : (Nat.toDigits 10 n).all Char.isDigit = true :=
    List.all_eq_true.mpr (Text.isDigit_toDigits n)
  simp [int?, hsign, hne, hall, Text.decimal_toDigits, hi, h]

/-- The whole number that a number is written as is read back. -/
theorem int?_toString {i : Int} (h : fitsSigned i) : int? (toString i).toList = some i := by
  cases i with
  | ofNat n =>
    have hcs : (toString (Int.ofNat n)).toList = Nat.toDigits 10 n := Text.toList_intText _
    have hsign : sign (Nat.toDigits 10 n) = (false, Nat.toDigits 10 n) := by
      cases hdigits : Nat.toDigits 10 n with
      | nil => exact absurd hdigits Nat.toDigits_ne_nil
      | cons c rest =>
        have hc : c ∈ Nat.toDigits 10 n := hdigits ▸ List.mem_cons_self
        exact sign_of_isDigit (Text.isDigit_toDigits n c hc) rest
    rw [hcs]
    exact int?_of_sign hsign rfl h
  | negSucc n =>
    have hcs : (toString (Int.negSucc n)).toList = '-' :: Nat.toDigits 10 (n + 1) := by
      rw [Text.toList_intText, if_pos (Int.negSucc_lt_zero n)]
      rfl
    have hsign : sign ('-' :: Nat.toDigits 10 (n + 1)) = (true, Nat.toDigits 10 (n + 1)) := by
      rw [sign]
    rw [hcs]
    exact int?_of_sign hsign rfl h

/-- What reads as a whole number is digits behind a sign, and a word holds it. -/
theorem digits_of_int? {cs : List Char} {i : Int} (h : int? cs = some i) :
    (sign cs).2 ≠ [] ∧ (∀ c ∈ (sign cs).2, c.isDigit) ∧ fitsSigned i := by
  rw [int?] at h
  obtain ⟨hdigits, h⟩ := Option.ite_none_left_eq_some.mp h
  obtain ⟨hfits, h⟩ := Option.ite_none_right_eq_some.mp h
  simp only [not_or, Bool.not_eq_true, Bool.not_eq_false', List.isEmpty_eq_false_iff,
    List.all_eq_true] at hdigits
  rw [Option.some.inj h] at hfits
  exact ⟨hdigits.1, hdigits.2, hfits⟩

/-- A text holds what follows its sign. -/
theorem mem_of_mem_sign {cs : List Char} {c : Char} (h : c ∈ (sign cs).2) : c ∈ cs := by
  rw [sign.eq_def] at h
  split at h
  · exact List.mem_cons_of_mem _ h
  · exact List.mem_cons_of_mem _ h
  · exact h

/-- What reads as a whole number is no truth value. -/
theorem lower_ne_of_int? {s : String} {i : Int} (h : int? s.toList = some i) :
    Text.lower s ≠ "true" ∧ Text.lower s ≠ "false" := by
  obtain ⟨hne, hdigits, -⟩ := digits_of_int? h
  obtain ⟨c, hc⟩ := List.exists_mem_of_ne_nil _ hne
  have hlower : c ∈ (Text.lower s).toList := by
    rw [Text.lower, String.toList_ofList]
    exact Text.mem_lowerFrom_of_isDigit (hdigits c hc) (mem_of_mem_sign hc) []
  have hword (word : String) (hword : word.toList.all fun a => !a.isDigit) :
      Text.lower s ≠ word := by
    rintro rfl
    have hnot := List.all_eq_true.mp hword c hlower
    rw [hdigits c hc] at hnot
    cases hnot
  exact ⟨hword "true" (by decide), hword "false" (by decide)⟩

/-- What reads as a whole number would read as a double too. -/
theorem float?_ne_none_of_int? {cs : List Char} {i : Int} (h : int? cs = some i) :
    float? cs ≠ none := by
  obtain ⟨hne, hdigits, -⟩ := digits_of_int? h
  have htake : (sign cs).2.takeWhile Char.isDigit = (sign cs).2 :=
    List.takeWhile_eq_self_iff.mpr hdigits
  have hdrop : (sign cs).2.dropWhile Char.isDigit = [] := List.dropWhile_eq_nil_iff.mpr hdigits
  rw [float?]
  simp only [htake, hdrop]
  split
  · exact Option.some_ne_none _
  · split
    · exact Option.some_ne_none _
    · simp [hne]

/-- What a text reads as: a truth value in any case, a whole number that a word holds, a double, or
else the text itself. -/
inductive ReadsAs (s : String) : Scalar → Prop where
  /-- It reads as a truth value. -/
  | truth (b : Bool) (h : Text.lower s = if b then "true" else "false") : ReadsAs s (.bool b)
  /-- It reads as a whole number. -/
  | whole (i : Int) (h : int? s.toList = some i) : ReadsAs s (.int i)
  /-- It reads as a double. -/
  | double (x : Binary64) (notTruth : Text.lower s ∉ ["true", "false"])
    (notWhole : int? s.toList = none) (h : float? s.toList = some x) : ReadsAs s (.float x)
  /-- It reads as nothing else. -/
  | text (notTruth : Text.lower s ∉ ["true", "false"]) (notNumber : float? s.toList = none) :
    ReadsAs s (.text s)

theorem readsAs_scalar (s : String) : ReadsAs s (scalar s) := by
  unfold scalar
  split
  · rename_i htrue
    exact .truth true htrue
  · rename_i hfalse
    exact .truth false hfalse
  · rename_i htrue hfalse
    have hword : Text.lower s ∉ ["true", "false"] := by simpa using ⟨htrue, hfalse⟩
    cases hwhole : int? s.toList with
    | some i => exact .whole i hwhole
    | none =>
      cases hnumber : float? s.toList with
      | some x => exact .double x hword hwhole hnumber
      | none => exact .text hword hnumber

/-- What is no truth value is read as a number if it can be. -/
theorem scalar_of_not_truth {s : String} (h : Text.lower s ∉ ["true", "false"]) :
    scalar s = ((int? s.toList).map Scalar.int).getD
      (((float? s.toList).map Scalar.float).getD (.text s)) := by
  unfold scalar
  split
  · rename_i htrue
    simp [htrue] at h
  · rename_i hfalse
    simp [hfalse] at h
  · cases int? s.toList with
    | some i => rfl
    | none => cases float? s.toList <;> rfl

/-- A text reads as one value only. -/
theorem ReadsAs.scalar_eq {s : String} {v : Scalar} (h : ReadsAs s v) : scalar s = v := by
  cases h with
  | truth b h =>
    rw [scalar, h]
    cases b <;> rfl
  | whole i h =>
    have hword : Text.lower s ∉ ["true", "false"] := by simp [lower_ne_of_int? h]
    rw [scalar_of_not_truth hword, h]
    rfl
  | double x hword hwhole h =>
    rw [scalar_of_not_truth hword, hwhole, h]
    rfl
  | text hword hnumber =>
    have hwhole : int? s.toList = none := by
      by_contra hsome
      obtain ⟨i, hi⟩ := Option.ne_none_iff_exists'.mp hsome
      exact float?_ne_none_of_int? hi hnumber
    rw [scalar_of_not_truth hword, hwhole, hnumber]
    rfl

end Override

/-- The text that a value without parts is written as. -/
def Scalar.written : Scalar → String
  | .nothing => ""
  | .bool b => if b then "true" else "false"
  | .int i => toString i
  | .float x => x.text .plain
  | .text t => t

namespace Override

/-- A text stays as it is when it is read and written out again. -/
inductive Verbatim (s : String) : Prop where
  /-- It is a truth value in lower case. -/
  | truth (b : Bool) (h : s = if b then "true" else "false")
  /-- It is a whole number that a word holds, as it is written. -/
  | whole (i : Int) (fits : fitsSigned i) (h : s = toString i)
  /-- It is a double as it is written. -/
  | double (x : Binary64) (reads : ReadsAs s (.float x)) (h : s = x.text .plain)
  /-- It reads as nothing else. -/
  | text (reads : ReadsAs s (.text s))

/-- What a text reads as is written as the text again exactly if the text is one that stays. -/
theorem written_scalar_eq_self_iff {s : String} : (scalar s).written = s ↔ Verbatim s := by
  constructor
  · intro h
    have hreads := readsAs_scalar s
    generalize scalar s = v at h hreads
    cases hreads with
    | truth b => exact .truth b h.symm
    | whole i hi => exact .whole i (digits_of_int? hi).2.2 h.symm
    | double x hword hwhole hx => exact .double x (.double x hword hwhole hx) h.symm
    | text hword hnumber => exact .text (.text hword hnumber)
  · intro h
    cases h with
    | truth b h =>
      subst h
      cases b <;> decide
    | whole i fits h =>
      have hreads : ReadsAs s (.int i) := .whole i (h ▸ int?_toString fits)
      rw [hreads.scalar_eq, h]
      rfl
    | double x reads h =>
      rw [reads.scalar_eq]
      exact h.symm
    | text reads => rw [reads.scalar_eq]; rfl

/-- A text that is asked for is read as what the value of the variable is written as. -/
theorem text_scalar (origin : Option String) (s : String) :
    Setting.Decoder.text (.scalar origin (scalar s)) = .ok (scalar s).written := by
  have hreads := readsAs_scalar s
  generalize scalar s = v at hreads
  cases hreads <;> rfl

/-- So is a text that may be absent: the value of a variable is never the empty value. -/
theorem optional_text_scalar (origin : Option String) (s : String) :
    Setting.Decoder.optional Setting.Decoder.text (.scalar origin (scalar s)) =
      .ok (some (scalar s).written) := by
  have hreads := readsAs_scalar s
  generalize scalar s = v at hreads
  cases hreads <;> rfl

end Override

end TelemetryGate
