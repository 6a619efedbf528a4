import TelemetryGate.Dispatch.Dispatcher
import TelemetryGate.Log.Line
import TelemetryGate.Proofs.Json.Printing

/-!
# A record is one line

In every layout a record is written without line breaks if its own parts have none. The records of
dispatchers are such, whatever texts an emission carries: the names of events are quoted, and the
texts of the payload are shown as JSON text, which escapes every control character.
-/

namespace TelemetryGate

namespace Text

/-- No line ends among some characters. -/
def Unbroken (cs : List Char) : Prop := ∀ c ∈ cs, c ≠ '\n' ∧ c ≠ '\r'

instance (cs : List Char) : Decidable (Unbroken cs) :=
  List.decidableBAll _ cs

theorem unbroken_append {cs ds : List Char} :
    Unbroken (cs ++ ds) ↔ Unbroken cs ∧ Unbroken ds :=
  List.forall_mem_append

/-- Line breaks are control characters. -/
theorem NoControl.unbroken {cs : List Char} (h : NoControl cs) : Unbroken cs := by
  intro c hc
  have hle := h c hc
  constructor
  · rintro rfl
    exact absurd hle (by decide)
  · rintro rfl
    exact absurd hle (by decide)

theorem noControl_codePointEscape (c : Char) : NoControl (codePointEscape c) := by
  rw [codePointEscape, noControl_append, noControl_append]
  exact ⟨⟨by decide, noControl_toDigits (by decide) (by decide) _⟩, by decide⟩

/-- Control characters do not print. -/
theorem inRanges_unprintable {c : Char} (h : c.toNat < 0x20) : inRanges c unprintable = true := by
  obtain ⟨rest, hrest⟩ : ∃ rest, unprintable = ⟨0x0, 0x1F⟩ :: rest := ⟨_, rfl⟩
  have hcontains : CharRange.contains ⟨0x0, 0x1F⟩ c = true := by
    simp only [CharRange.contains, Bool.and_eq_true, decide_eq_true_eq]
    omega
  rw [hrest, inRanges, if_neg (Nat.not_lt_zero _), hcontains, Bool.true_or]

theorem noControl_quotedChar (c : Char) : NoControl (quotedChar c) := by
  unfold quotedChar
  split
  case h_7 =>
    split
    · exact noControl_codePointEscape c
    · rename_i hprints
      rw [noControl_cons]
      refine ⟨Nat.not_lt.mp fun hcontrol => hprints (inRanges_unprintable hcontrol), nofun⟩
  all_goals decide

/-- Quoted text has no control character. -/
theorem noControl_quoted (s : String) : NoControl (quoted s).toList := by
  rw [quoted, String.toList_ofList, List.cons_append, noControl_cons, noControl_append]
  refine ⟨by decide, ?_, by decide⟩
  intro d hd
  obtain ⟨c, -, hc⟩ := List.mem_flatMap.mp hd
  exact noControl_quotedChar c d hc

end Text

open Text (Unbroken unbroken_append)

namespace Log

/-- The parts of a record, as they are written, have no line breaks. -/
structure Record.Unbroken (r : Record) : Prop where
  /-- The place that reports it has none. -/
  target : Text.Unbroken r.target.toList
  /-- The message has none. -/
  message : Text.Unbroken r.message.toList
  /-- The fields have none. -/
  fields : ∀ f ∈ r.fields, Text.Unbroken f.1.toList ∧ Text.Unbroken f.2.written.toList

theorem unbroken_around {s : String} (h : Unbroken s.toList) (m : Mark) (coloured : Bool) :
    Unbroken (m.around coloured s).toList := by
  cases coloured with
  | false => exact h
  | true =>
    have hcode : Unbroken m.code.toList := by
      cases m with
      | colour level => cases level <;> decide
      | _ => decide
    simp only [Mark.around, if_true, String.toList_append, unbroken_append]
    exact ⟨⟨⟨⟨by decide, hcode⟩, by decide⟩, h⟩, by decide⟩

theorem unbroken_messageText {s : String} (h : Unbroken s.toList) :
    Unbroken (messageText s).toList := by
  rw [messageText, String.toList_ofList]
  intro d hd
  obtain ⟨c, hc, hwritten⟩ := List.mem_flatMap.mp hd
  have hchar : Unbroken (messageChar c) := by
    unfold messageChar
    split
    case h_6 =>
      split
      · exact (Text.noControl_codePointEscape c).unbroken
      · intro d hd
        rw [List.mem_singleton.mp hd]
        exact h c hc
    all_goals decide
  exact hchar d hwritten

theorem unbroken_column (l : Level) : Unbroken l.column.toList := by
  cases l <;> decide

theorem unbroken_fieldText {f : String × FieldValue} (hname : Unbroken f.1.toList)
    (hvalue : Unbroken f.2.written.toList) (coloured : Bool) :
    Unbroken (fieldText coloured f).toList := by
  simp only [fieldText, String.toList_append, unbroken_append]
  exact ⟨⟨⟨by decide, unbroken_around hname _ _⟩, unbroken_around (by decide) _ _⟩, hvalue⟩

/-- A record without line breaks is written on one line in every layout. -/
theorem Record.Unbroken.body {r : Record} (h : r.Unbroken) {time : String}
    (htime : Text.Unbroken time.toList) (layout : Layout) :
    Text.Unbroken (layout.body time r).toList := by
  cases layout with
  | json =>
    have htext := Json.Value.noControl_chars (r.json time)
    rw [Layout.body, Json.Value.render, String.toList_ofList]
    exact htext.unbroken
  | text coloured =>
    have hfields : Text.Unbroken (String.join (r.fields.map (fieldText coloured))).toList := by
      rw [String.toList_join]
      intro c hc
      obtain ⟨text, htext, hmem⟩ := List.mem_flatMap.mp hc
      obtain ⟨f, hf, rfl⟩ := List.mem_map.mp htext
      obtain ⟨hname, hvalue⟩ := h.fields f hf
      exact unbroken_fieldText hname hvalue coloured c hmem
    simp only [Layout.body, Record.textLine, String.toList_append, unbroken_append]
    exact ⟨⟨⟨⟨⟨⟨⟨⟨unbroken_around htime _ _, by decide⟩, unbroken_around (unbroken_column _) _ _⟩,
      by decide⟩, unbroken_around h.target _ _⟩, unbroken_around (by decide) _ _⟩, by decide⟩,
      unbroken_messageText h.message⟩, hfields⟩

end Log

namespace Dispatcher

theorem unbroken_render (v : Json.Value) : Unbroken v.render.toList := by
  rw [Json.Value.render, String.toList_ofList]
  exact v.noControl_chars.unbroken

/-- The record of an event that was sent has no line breaks, whatever the event holds. -/
theorem unbroken_sent (event : WireEvent) : (sent event).Unbroken where
  target := by
    simp only [sent]
    decide
  message := by
    simp only [sent]
    decide
  fields := by
    simp only [sent, List.forall_mem_cons, List.not_mem_nil, false_imp_iff, implies_true, and_true]
    exact ⟨⟨by decide, (Text.noControl_quoted _).unbroken⟩, ⟨by decide, unbroken_render _⟩,
      ⟨by decide, unbroken_render _⟩⟩

/-- So has that of an event that is dropped. -/
theorem unbroken_dropped (event : EventName) : (dropped event).Unbroken where
  target := by
    simp only [dropped]
    decide
  message := by
    simp only [dropped]
    decide
  fields := by
    simp only [dropped, List.forall_mem_cons, List.not_mem_nil, false_imp_iff, implies_true,
      and_true]
    exact ⟨by decide, (Text.noControl_quoted _).unbroken⟩

end Dispatcher

end TelemetryGate
