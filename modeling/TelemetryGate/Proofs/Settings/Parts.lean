import TelemetryGate.Proofs.Decoding
import TelemetryGate.Settings.Basic

/-!
# Parts of settings

Every setting belongs to one field of the record that settings are read as, in any format.
-/

namespace TelemetryGate

open Decoding (Field Format IsPart)

variable {ρ : Type → Type} [Functor ρ]

/-- The settings of the log are parts of their record. -/
structure LogSettings.HasParts (f : Format ρ) : Prop where
  enabled : IsPart (LogSettings.fields f) LogSettings.enabled "enabled" f.flag
  level : IsPart (LogSettings.fields f) LogSettings.level "level" f.text
  format : IsPart (LogSettings.fields f) LogSettings.format "format" f.text
  output : IsPart (LogSettings.fields f) LogSettings.output "output" f.text
  file : IsPart (LogSettings.fields f) LogSettings.file "file" f.path
  color : IsPart (LogSettings.fields f) LogSettings.color "color" f.flag
  modules : IsPart (LogSettings.fields f) LogSettings.modules "modules" f.texts

theorem LogSettings.hasParts (f : Format ρ) : HasParts f := by
  constructor
  all_goals
    refine ⟨by simp [fields, Field.of], ?_⟩
    simp only [fields, List.forall_mem_cons]
    repeat' apply And.intro
  all_goals first
    | exact .own fun _ _ => rfl
    | exact .other (by decide) fun _ _ => rfl
    | exact List.forall_mem_nil _

/-- The settings are parts of their record, and the log is one as a whole. -/
structure Settings.HasParts (v : Variables) (f : Format ρ) : Prop where
  enabled : IsPart (Settings.fields v f) Settings.enabled "enabled" f.flag
  instrumentationKey : IsPart (Settings.fields v f) Settings.instrumentationKey
    "instrumentation_key" (f.optional f.text)
  endpoint : IsPart (Settings.fields v f) Settings.endpoint "endpoint" f.text
  manifest : IsPart (Settings.fields v f) Settings.manifest "manifest" (f.optional f.path)
  logging : IsPart (Settings.fields v f) Settings.logging "logging" (LogSettings.layout v f)

theorem Settings.hasParts (v : Variables) (f : Format ρ) : HasParts v f := by
  constructor
  all_goals
    refine ⟨by simp [fields, Field.of], ?_⟩
    simp only [fields, List.forall_mem_cons]
    repeat' apply And.intro
  all_goals first
    | exact .own fun _ _ => rfl
    | exact .other (by decide) fun _ _ => rfl
    | exact List.forall_mem_nil _

end TelemetryGate
