import TelemetryGate.Proofs.Text.Trimming

/-!
# Cores of texts

The core of a text is what lies between the blank characters at its ends. It starts and ends with
characters that are not blank, while there may be blank ones in between. A text that is not all blank
has one core, which trimming gives, and no blank characters that are put around a text change it.
-/

namespace TelemetryGate.Text

/-- A text that is not empty and has no blank character at either end. -/
structure Trimmed (s : String) : Prop where
  /-- There is something. -/
  ne_empty : s ≠ ""
  /-- It does not start with a blank character. -/
  first : ∀ c ∈ s.toList.head?, isBlank c = false
  /-- It does not end with a blank character. -/
  last : ∀ c ∈ s.toList.getLast?, isBlank c = false

/-- Blank texts to put before and after a text. -/
structure Pad where
  /-- What comes before. -/
  front : String
  /-- What comes after. -/
  back : String
  /-- What comes before is blank. -/
  front_blank : isAllBlank front = true
  /-- What comes after is blank. -/
  back_blank : isAllBlank back = true

/-- A text with a pad around it. -/
def Pad.around (p : Pad) (s : String) : String := p.front ++ s ++ p.back

/-- A trimmed text that is a text but for the blank characters around it. -/
structure CoreOf (core s : String) : Prop where
  /-- There are no more blank characters at its ends. -/
  trimmed : Trimmed core
  /-- Around it there are only blank characters. -/
  around : ∃ p : Pad, p.around core = s

theorem isAllBlank_iff {s : String} : isAllBlank s = true ↔ ∀ c ∈ s.toList, isBlank c = true :=
  List.all_eq_true

theorem toList_around (p : Pad) (s : String) :
    (p.around s).toList = p.front.toList ++ (s.toList ++ p.back.toList) := by
  rw [Pad.around, String.toList_append, String.toList_append, List.append_assoc]

/-- Blank characters at the end of a list are dropped with those before them. -/
theorem dropBlankEnd_append {cs blank : List Char} (h : ∀ c ∈ blank, isBlank c = true) :
    dropBlankEnd (cs ++ blank) = dropBlankEnd cs := by
  have hreverse : ∀ c ∈ blank.reverse, isBlank c = true := fun c hc => h c (List.mem_reverse.mp hc)
  rw [dropBlankEnd, List.reverse_append, List.dropWhile_append_of_pos hreverse, dropBlankEnd]

/-- Trimming does not see what blank characters are put around a text. -/
@[simp]
theorem trim_around (p : Pad) (s : String) : trim (p.around s) = trim s := by
  have hback := isAllBlank_iff.mp p.back_blank
  rw [trim, toList_around, dropBlank, List.dropWhile_append_of_pos (isAllBlank_iff.mp p.front_blank),
    List.dropWhile_append]
  split
  · -- the text is all blank: what is dropped at the start goes on into the pad
    rename_i hempty
    rw [List.dropWhile_eq_nil_iff.mpr hback, trim, dropBlank, List.isEmpty_iff.mp hempty]
  · rw [dropBlankEnd_append hback, trim, dropBlank]

/-- Every text is what trimming leaves of it, with blank characters around it. -/
theorem exists_around (s : String) : ∃ p : Pad, p.around (trim s) = s := by
  let front := s.toList.takeWhile isBlank
  let back := (dropBlank s.toList).rtakeWhile isBlank
  have hfront : ∀ c ∈ front, isBlank c = true := fun _ hc => List.mem_takeWhile_imp hc
  have hback : ∀ c ∈ back, isBlank c = true := fun _ hc => List.mem_rtakeWhile_imp hc
  have hstart : front ++ dropBlank s.toList = s.toList := List.takeWhile_append_dropWhile
  have hend : dropBlankEnd (dropBlank s.toList) ++ back = dropBlank s.toList :=
    List.rdropWhile_append_rtakeWhile
  refine ⟨⟨.ofList front, .ofList back, ?_, ?_⟩, String.toList_inj.mp ?_⟩
  · rwa [isAllBlank_iff, String.toList_ofList]
  · rwa [isAllBlank_iff, String.toList_ofList]
  · simp only [toList_around, trim, String.toList_ofList, hend, hstart]

/-- Nothing is left of a text exactly if it is all blank. -/
theorem trim_eq_empty_iff {s : String} : trim s = "" ↔ isAllBlank s = true := by
  constructor
  · intro hempty
    obtain ⟨p, hp⟩ := exists_around s
    rw [hempty] at hp
    rw [← hp, isAllBlank_iff, toList_around, String.toList_empty, List.nil_append,
      List.forall_mem_append]
    exact ⟨isAllBlank_iff.mp p.front_blank, isAllBlank_iff.mp p.back_blank⟩
  · intro hblank
    rw [trim, dropBlank, List.dropWhile_eq_nil_iff.mpr (isAllBlank_iff.mp hblank)]
    rfl

/-- A trimmed text stays as it is. -/
theorem Trimmed.trim_eq {s : String} (h : Trimmed s) : trim s = s := by
  rw [trim, dropBlank_eq_self h.first, dropBlankEnd_eq_self h.last, String.ofList_toList]

/-- What trimming leaves of a text is trimmed, if something is left. -/
theorem trimmed_trim {s : String} (h : trim s ≠ "") : Trimmed (trim s) where
  ne_empty := h
  first c hc := by
    rw [trim, String.toList_ofList] at hc
    exact head?_dropBlank s.toList c (head?_dropBlankEnd hc)
  last c hc := by
    rw [trim, String.toList_ofList] at hc
    exact getLast?_dropBlankEnd _ c hc

/-- The core of a text is what trimming leaves of it, if something is left. -/
theorem coreOf_iff {core s : String} : CoreOf core s ↔ trim s = core ∧ core ≠ "" := by
  constructor
  · rintro ⟨htrimmed, p, rfl⟩
    exact ⟨(trim_around p core).trans htrimmed.trim_eq, htrimmed.ne_empty⟩
  · rintro ⟨rfl, hne⟩
    exact ⟨trimmed_trim hne, exists_around s⟩

end TelemetryGate.Text
