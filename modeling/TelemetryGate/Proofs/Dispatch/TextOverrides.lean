import TelemetryGate.Proofs.Dispatch.Selection
import TelemetryGate.Proofs.Settings.Loading
import TelemetryGate.Proofs.Settings.Written

/-!
# Texts from the environment

A text setting that a variable overrides is not the text of the variable: it is what that text reads
as, written out again. Leading zeros, a plus sign, an exponent or capital letters of a truth value
are lost on the way, and a key that looks like a number is asked for in another form than it was
given in.
-/

namespace TelemetryGate

open Effect (requests)
open Setting (overlaps)
open Setting.Decoder

namespace Setting

/-- What has something below it is a table. -/
theorem isTable_of_at? {s value : Setting} {key : String} {path : List String}
    (h : s.at? (key :: path) = some value) : s.isTable := by
  cases s with
  | scalar _ _ => cases h
  | list _ _ => cases h
  | table _ _ => rfl

end Setting

namespace Settings

/-- The settings that are texts of the user. -/
inductive TextSetting where
  /-- The instrumentation key. -/
  | instrumentationKey
  /-- The path of the manifest. -/
  | manifest
  /-- The path of the log file. -/
  | logFile
  deriving DecidableEq, Repr

namespace TextSetting

/-- The variable that overrides a text setting. -/
def override : TextSetting → String
  | .instrumentationKey => "QSHARP_TELEMETRY__INSTRUMENTATION_KEY"
  | .manifest => "QSHARP_TELEMETRY__MANIFEST"
  | .logFile => "QSHARP_TELEMETRY__LOGGING__FILE"

/-- The place of a text setting. -/
def place : TextSetting → List String
  | .instrumentationKey => ["instrumentation_key"]
  | .manifest => ["manifest"]
  | .logFile => ["logging", "file"]

/-- A text setting, if it is given. -/
def get? (s : Settings) : TextSetting → Option String
  | .instrumentationKey => s.instrumentationKey
  | .manifest => s.manifest
  | .logFile => some s.logging.file

/-- The variable overrides the place of the setting. -/
theorem place?_override (t : TextSetting) :
    Override.place? t.override = some (t.place.map .key) := by
  cases t <;> decide +kernel

end TextSetting

/-- A variable overrides a text setting with some text, and no other variable overlaps it. -/
structure Overrides (v : Variables) (t : TextSetting) (text : String) : Prop where
  /-- The variable is set. -/
  given : (t.override, text) ∈ v
  /-- No other variable overlaps the place of the setting. -/
  alone : ∀ other ∈ v, other ≠ (t.override, text) →
    (Override.place? other.1).all fun steps => !overlaps steps t.place

/-- A text setting whose place holds a value of the environment is what that value is written as. -/
theorem get?_of_at? {v : Variables} {layers : List Layer} {s : Settings}
    (hlayout : Settings.layout v Setting.Decoder.format (tree v layers) = .ok s) {t : TextSetting}
    {origin : Option String} {text : String}
    (h : (tree v layers).at? t.place = some (.scalar origin (Override.scalar text))) :
    t.get? s = some (Override.scalar text).written := by
  have htop := topReadFrom_tree hlayout
  cases t with
  | instrumentationKey =>
    have hread := htop.instrumentationKey
    rw [TextSetting.place] at h
    rw [h, Reads, Override.optional_text_scalar] at hread
    exact (Except.ok.inj hread).symm
  | manifest =>
    have hread := htop.manifest
    rw [TextSetting.place] at h
    rw [h, Reads, Override.optional_text_scalar] at hread
    exact (Except.ok.inj hread).symm
  | logFile =>
    rw [TextSetting.place] at h
    -- The file stands below the log, so the log is a table.
    have hlogging : (tree v layers).TableUnder "logging" := by
      intro log hlog
      rw [Setting.at?_cons, hlog] at h
      exact Setting.isTable_of_at? h
    have hread := (readFrom_of_layout (isTable_tree v layers) (ordered_tree v layers) hlogging
      hlayout).logging.file
    rw [h, Reads, Override.text_scalar] at hread
    exact congrArg some (Except.ok.inj hread).symm

/-- What becomes of a text setting that is overridden with some text. -/
structure TakesText (s : Settings) (t : TextSetting) (text : String) : Prop where
  /-- The setting is what the text reads as, written out again. -/
  written : t.get? s = some (Override.scalar text).written
  /-- It is the text itself exactly if that one stays as it is. -/
  verbatim : t.get? s = some text ↔ Override.Verbatim text
  /-- A reporter is asked for under the key that is written out, without blank characters at its
  ends, if there is anything else in it and telemetry is switched on. -/
  requests : t = .instrumentationKey → s.enabled = true →
    Text.trim (Override.scalar text).written ≠ "" →
      ∀ {ρ : Type} (w : World) (connect : Connector ρ),
        requests (Dispatcher.setUp w (.settings s) connect).1 =
          [(Text.trim (Override.scalar text).written, some s.endpoint)]

/-- However settings are loaded and whatever the files hold, a text setting takes the text that a
variable overrides it with as this text is read and written out again. -/
theorem Overrides.takesText {w : World} {loading : Loading} {s : Settings}
    (hload : loading.result w = .ok s) {t : TextSetting} {text : String}
    (h : Overrides w.environment t text) : s.TakesText t text := by
  obtain ⟨layers, -, hlayout⟩ := exists_layers_of_result hload
  have hplace : (tree w.environment layers).at? t.place =
      some (.scalar (some Override.origin) (Override.scalar text)) := by
    rw [tree, Layer.merge_append]
    exact Override.at?_onto_layer h.given t.place?_override h.alone _
  have hwritten := get?_of_at? hlayout hplace
  refine ⟨hwritten, ?_, ?_⟩
  · rw [hwritten, Option.some.injEq]
    exact Override.written_scalar_eq_self_iff
  · rintro rfl henabled hne ρ w' connect
    have hkey : s.HoldsKey (Text.trim (Override.scalar text).written) := ⟨_, hwritten, rfl, hne⟩
    exact Dispatcher.requests_setUp_settings
      (Setup.key?_settings_iff.mpr ⟨henabled, .inl hkey⟩) connect

/-- A workspace without files, with a variable that overrides a text setting. -/
def overriddenWorld (t : TextSetting) (text : String) : World where
  files := ⟨[]⟩
  cwd := []
  environment := [(t.override, text)]

theorem overrides_overriddenWorld (t : TextSetting) (text : String) :
    Overrides (overriddenWorld t text).environment t text where
  given := List.mem_singleton_self _
  alone _ hother hne := absurd (List.mem_singleton.mp hother) hne

/-- The name of a manifest reads as no number, so it stays as it is. -/
theorem overriddenWorld_takesText :
    (Loading.workspace "ws").result (overriddenWorld .manifest "package.json") =
        .ok { Settings.default [] with manifest := some "package.json" } ∧
      TakesText { Settings.default [] with manifest := some "package.json" } .manifest
        "package.json" := by
  have hload : (Loading.workspace "ws").result (overriddenWorld .manifest "package.json") =
      .ok { Settings.default [] with manifest := some "package.json" } := by decide +kernel
  exact ⟨hload, Overrides.takesText hload (overrides_overriddenWorld _ _)⟩

/-- A key of digits loses its leading zeros. -/
theorem not_get?_eq_of_overrides : ¬ ∀ (w : World) (loading : Loading) (s : Settings)
    (t : TextSetting) (text : String), loading.result w = .ok s →
      Overrides w.environment t text → t.get? s = some text := by
  intro h
  have hload : (Loading.workspace "ws").result (overriddenWorld .instrumentationKey "007") =
      .ok { Settings.default [] with instrumentationKey := some "7" } := by decide +kernel
  have hkey := h _ _ _ _ _ hload (overrides_overriddenWorld .instrumentationKey "007")
  exact absurd hkey (by decide)

end Settings

end TelemetryGate
