import Mathlib.Data.List.DropRight
import TelemetryGate.Proofs.Text.Cutting
import TelemetryGate.Text.AlphanumericTable
import TelemetryGate.Text.Blank

/-!
# Trimmed texts

Trimming leaves a text that starts with no blank character, and drops nothing from the end of such a
text but blank characters. So trimming twice is trimming once.
-/

namespace TelemetryGate.Text

/-- A list that starts with no blank character loses none at its start. -/
theorem dropBlank_eq_self {cs : List Char} (h : ∀ c ∈ cs.head?, isBlank c = false) :
    dropBlank cs = cs := by
  cases cs with
  | nil => rfl
  | cons c rest =>
    have hc : isBlank c = false := h c rfl
    rw [dropBlank, List.dropWhile_cons_of_neg (Bool.eq_false_iff.mp hc)]

/-- What is left after dropping starts with no blank character. -/
theorem head?_dropBlank (cs : List Char) : ∀ c ∈ (dropBlank cs).head?, isBlank c = false := by
  intro c hc
  have hnot := List.head?_dropWhile_not isBlank cs
  rw [dropBlank] at hc
  rw [Option.mem_def.mp hc] at hnot
  exact hnot

/-- Dropping at the end keeps a front of the list. -/
theorem dropBlankEnd_prefix (cs : List Char) : dropBlankEnd cs <+: cs :=
  List.rdropWhile_prefix isBlank cs

/-- A front of a list starts as the list does. -/
theorem head?_dropBlankEnd {cs : List Char} {c : Char} (h : c ∈ (dropBlankEnd cs).head?) :
    c ∈ cs.head? := by
  obtain ⟨rest, hrest⟩ := dropBlankEnd_prefix cs
  rw [← hrest, List.head?_append, Option.mem_def.mp h]
  rfl

/-- A list that ends with no blank character loses none at its end. -/
theorem dropBlankEnd_eq_self {cs : List Char} (h : ∀ c ∈ cs.getLast?, isBlank c = false) :
    dropBlankEnd cs = cs :=
  List.rdropWhile_eq_self_iff.mpr fun hne =>
    Bool.eq_false_iff.mp (h _ (List.getLast?_eq_some_getLast hne))

/-- What is left after dropping at the end ends with no blank character. -/
theorem getLast?_dropBlankEnd (cs : List Char) :
    ∀ c ∈ (dropBlankEnd cs).getLast?, isBlank c = false := by
  intro c hc
  rw [dropBlankEnd, List.getLast?_reverse] at hc
  exact head?_dropBlank cs.reverse c hc

/-- A text without blank characters is trimmed. -/
theorem trim_eq_self {s : String} (h : ∀ c ∈ s.toList, isBlank c = false) : trim s = s := by
  have hstart : dropBlank s.toList = s.toList :=
    dropBlank_eq_self fun c hc => h c (List.mem_of_head? hc)
  have hend : dropBlankEnd s.toList = s.toList :=
    dropBlankEnd_eq_self fun c hc => h c (List.mem_of_getLast? hc)
  rw [trim, hstart, hend, String.ofList_toList]

/-- Trimming drops the blank characters at the start only of a text that ends in others. -/
theorem toList_trim {s : String} {front back : List Char} (h : s.toList = front ++ back)
    (hne : back ≠ []) (hback : ∀ c ∈ back, isBlank c = false) :
    (trim s).toList = dropBlank front ++ back := by
  have hstart : dropBlank s.toList = dropBlank front ++ back := by
    rw [h, dropBlank, dropBlank, List.dropWhile_append]
    split
    · rename_i hempty
      rw [List.isEmpty_iff.mp hempty, List.nil_append]
      exact dropBlank_eq_self fun c hc => hback c (List.mem_of_head? hc)
    · rfl
  have hend : dropBlankEnd (dropBlank front ++ back) = dropBlank front ++ back := by
    refine dropBlankEnd_eq_self fun c hc => ?_
    rw [List.getLast?_append_of_ne_nil _ hne] at hc
    exact hback c (List.mem_of_getLast? hc)
  rw [trim, String.toList_ofList, hstart, hend]

/-- A list without the blank characters at its start has fewer bytes, or is the list. -/
theorem byteLength_dropBlank (cs : List Char) : dropBlank cs = cs ∨
    byteLength (dropBlank cs) < byteLength cs := by
  have hsplit := List.takeWhile_append_dropWhile (p := isBlank) (l := cs)
  rw [← dropBlank] at hsplit
  cases hblank : cs.takeWhile isBlank with
  | nil =>
    rw [hblank, List.nil_append] at hsplit
    exact .inl hsplit
  | cons c blank =>
    right
    have hpos := c.utf8Size_pos
    have hlength := congrArg byteLength hsplit
    rw [hblank, byteLength_append, byteLength_cons] at hlength
    omega

/-- Trimming twice is trimming once. -/
@[simp]
theorem trim_trim (s : String) : trim (trim s) = trim s := by
  have hstart : ∀ c ∈ (dropBlankEnd (dropBlank s.toList)).head?, isBlank c = false :=
    fun c hc => head?_dropBlank s.toList c (head?_dropBlankEnd hc)
  rw [trim, trim, String.toList_ofList, dropBlank_eq_self hstart,
    dropBlankEnd_eq_self (getLast?_dropBlankEnd _)]

/-- A character of a class lies in one of its ranges. -/
theorem exists_range {c : Char} {ranges : List CharRange} (h : inRanges c ranges = true) :
    ∃ r ∈ ranges, r.first ≤ c.toNat ∧ c.toNat ≤ r.last := by
  induction ranges with
  | nil => cases h
  | cons r rest ih =>
    rw [inRanges] at h
    split at h
    · cases h
    · rcases Bool.or_eq_true_iff.mp h with hr | hrest
      · obtain ⟨hfirst, hlast⟩ := Bool.and_eq_true_iff.mp hr
        exact ⟨r, List.mem_cons_self, of_decide_eq_true hfirst, of_decide_eq_true hlast⟩
      · obtain ⟨other, hmem, hother⟩ := ih hrest
        exact ⟨other, List.mem_cons_of_mem _ hmem, hother⟩

/-- No range of letters and digits meets a range of blank characters. -/
theorem alphanumeric_apart : ∀ r ∈ blankRanges, ∀ other ∈ alphanumeric,
    other.last < r.first ∨ r.last < other.first := by
  decide +kernel

/-- A letter or digit is not blank. -/
theorem isBlank_of_isAlphanumeric {c : Char} (h : isAlphanumeric c = true) :
    isBlank c = false := by
  rw [Bool.eq_false_iff]
  intro hblank
  obtain ⟨r, hr, hfirst, hlast⟩ := exists_range hblank
  obtain ⟨other, hother, hfirst', hlast'⟩ := exists_range h
  rcases alphanumeric_apart r hr other hother with hapart | hapart <;> omega

end TelemetryGate.Text
