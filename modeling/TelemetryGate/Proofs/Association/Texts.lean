import TelemetryGate.AssociationId
import TelemetryGate.Proofs.Filesystem.Paths
import TelemetryGate.Proofs.Text.Digits

/-!
# Texts of ids

The text of an id is cut at its hyphens into the word and three numbers, since a decimal number has
no hyphen in it. So the id can be read back from its text, and different ids have different texts.
-/

namespace TelemetryGate

namespace Text

theorem hyphen_not_mem_natText (n : Nat) : '-' ∉ (toString n).toList := by
  rw [toList_natText]
  intro hmem
  exact absurd (isDigit_toDigits n '-' hmem) (by decide)

end Text

namespace AssociationId

/-- The id that a text stands for: the numbers between its hyphens, behind the first piece. -/
def ofText? (s : String) : Option AssociationId :=
  match Text.pieces '-' s with
  | [_, time, process, sequence] =>
    some ⟨.ofNat (Text.decimal time.toList), .ofNat (Text.decimal process.toList),
      .ofNat (Text.decimal sequence.toList)⟩
  | _ => none

/-- The hyphens of an id stand between its word and its three numbers, and nowhere else. -/
theorem pieces_text (id : AssociationId) : Text.pieces '-' id.text =
    [word, toString id.time.toNat, toString id.process.toNat, toString id.sequence.toNat] := by
  have hparts : ∀ part ∈ [word, toString id.time.toNat, toString id.process.toNat,
      toString id.sequence.toNat].map String.toList, '-' ∉ part := by
    intro part hpart
    simp only [List.map_cons, List.map_nil, List.mem_cons, List.not_mem_nil, or_false] at hpart
    rcases hpart with rfl | rfl | rfl | rfl
    · decide
    all_goals exact Text.hyphen_not_mem_natText _
  have hcut := Text.splitOn_intercalate (by simp) hparts
  rw [Text.pieces, text, String.toList_intercalate]
  change (Text.splitOn '-' (['-'].intercalate _)).map String.ofList = _
  rw [hcut, List.map_map]
  simp

/-- An id is read back from its text. -/
@[simp]
theorem ofText?_text (id : AssociationId) : ofText? id.text = some id := by
  rw [ofText?, pieces_text]
  simp only [Text.decimal_natText, UInt64.ofNat_toNat, UInt32.ofNat_toNat]

/-- Ids with the same text are the same. -/
theorem text_injective : Function.Injective text := by
  intro id other h
  have hread := congrArg ofText? h
  rw [ofText?_text, ofText?_text] at hread
  exact Option.some.inj hread

end AssociationId

end TelemetryGate
