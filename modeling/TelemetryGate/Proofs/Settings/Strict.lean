import TelemetryGate.Dispatch.Dispatcher
import TelemetryGate.Proofs.Json.Compact
import TelemetryGate.Proofs.Json.Following
import TelemetryGate.Settings.Validation

/-!
# Settings in JSON text

Settings that are read from JSON text alone, without files and layers, are what the fields of the text
say. What settings are written as is read as the same settings again, whatever their texts are, and in
whatever order the modules of the log are written.
-/

namespace TelemetryGate

open Json (Tree)
open Json.Reader (Follows follows_flag follows_textOf follows_texts follows_record)
open Json.Tree.Decoder (record_compactMember text_ofText optional_text_ofOptionalText
  texts_ofTexts)

/-! ## What is read -/

theorem LogSettings.follows_layout (v : Variables) :
    Follows (layout v Json.Reader.format) (layout v Json.Tree.Decoder.format) := by
  have htext := follows_textOf "a string"
  have hpath := follows_textOf "path string"
  unfold layout fields
  dsimp only [Json.Reader.format, Json.Tree.Decoder.format]
  refine follows_record ?_ _ _
  refine .cons (follows_flag.field _ _) (.cons (htext.field _ _) (.cons (htext.field _ _) ?_))
  refine .cons (htext.field _ _) (.cons (hpath.field _ _) (.cons (follows_flag.field _ _) ?_))
  exact .cons (follows_texts.field _ _) .nil

theorem Settings.follows_layout (v : Variables) :
    Follows (layout v Json.Reader.format) (layout v Json.Tree.Decoder.format) := by
  have htext := follows_textOf "a string"
  have hpath := follows_textOf "path string"
  have hlogging := LogSettings.follows_layout v
  unfold layout fields
  dsimp only [Json.Reader.format, Json.Tree.Decoder.format] at hlogging ⊢
  refine follows_record ?_ _ _
  refine .cons (follows_flag.field _ _) (.cons (htext.optional.field _ _) ?_)
  refine .cons (htext.field _ _) (.cons (hpath.optional.field _ _) ?_)
  exact .cons (hlogging.field _ _) .nil

/-! ## What is written -/

/-- The members that log settings are written as, with the modules in some order. -/
def LogSettings.writtenMembers (s : LogSettings) (modules : Entries String) : List (String × Tree) :=
  [("enabled", .bool s.enabled), ("level", .ofText s.level), ("format", .ofText s.format),
    ("output", .ofText s.output), ("file", .ofText s.file), ("color", .bool s.color),
    ("modules", .ofTexts modules)]

/-- Log settings as they are written. -/
def LogSettings.written (s : LogSettings) (modules : Entries String) : Tree :=
  .compact (s.writtenMembers modules)

theorem LogSettings.chars_written (s : LogSettings) (modules : Entries String) :
    (s.written modules).chars = (LogSettings.json { s with modules }).chars := by
  apply Tree.chars_compact
  refine .cons ⟨rfl, Tree.chars_bool _⟩ (.cons ⟨rfl, Tree.chars_ofText _⟩ ?_)
  refine .cons ⟨rfl, Tree.chars_ofText _⟩ (.cons ⟨rfl, Tree.chars_ofText _⟩ ?_)
  refine .cons ⟨rfl, Tree.chars_ofText _⟩ (.cons ⟨rfl, Tree.chars_bool _⟩ ?_)
  exact .cons ⟨rfl, Tree.chars_ofTexts _⟩ .nil

/-- The members that settings are written as, with the modules of the log in some order. -/
def Settings.writtenMembers (s : Settings) (modules : Entries String) : List (String × Tree) :=
  [("enabled", .bool s.enabled), ("instrumentation_key", .ofOptionalText s.instrumentationKey),
    ("endpoint", .ofText s.endpoint), ("manifest", .ofOptionalText s.manifest),
    ("logging", s.logging.written modules)]

/-- Settings as they are written. -/
def Settings.written (s : Settings) (modules : Entries String) : Tree :=
  .compact (s.writtenMembers modules)

theorem chars_ofOptionalText (s : Option String) :
    (Tree.ofOptionalText s).chars = (optionalText s).chars := by
  cases s with
  | none => rfl
  | some s => exact Tree.chars_ofText s

theorem Settings.chars_written (s : Settings) (modules : Entries String) :
    (s.written modules).chars =
      (Settings.json { s with logging := { s.logging with modules } }).chars := by
  apply Tree.chars_compact
  refine .cons ⟨rfl, Tree.chars_bool _⟩ (.cons ⟨rfl, chars_ofOptionalText _⟩ ?_)
  refine .cons ⟨rfl, Tree.chars_ofText _⟩ (.cons ⟨rfl, chars_ofOptionalText _⟩ ?_)
  exact .cons ⟨rfl, s.logging.chars_written modules⟩ .nil

/-- Log settings are what they are written as. -/
theorem LogSettings.layout_written (v : Variables) {s : LogSettings} {modules : Entries String}
    (hperm : modules.Perm s.modules) (hrising : Entries.Rising s.modules) :
    layout v Json.Tree.Decoder.format (s.written modules) = some s := by
  refine Eq.trans (record_compactMember (a := s.enabled) rfl rfl (by decide) _ _) ?_
  refine Eq.trans (record_compactMember (text_ofText s.level) rfl (by decide) _ _) ?_
  refine Eq.trans (record_compactMember (text_ofText s.format) rfl (by decide) _ _) ?_
  refine Eq.trans (record_compactMember (text_ofText s.output) rfl (by decide) _ _) ?_
  refine Eq.trans (record_compactMember (text_ofText s.file) rfl (by decide) _ _) ?_
  refine Eq.trans (record_compactMember (a := s.color) rfl rfl (by decide) _ _) ?_
  refine Eq.trans
    (record_compactMember (texts_ofTexts hperm hrising) rfl (by decide) _ _) ?_
  rfl

/-- Settings are what they are written as. -/
theorem Settings.layout_written (v : Variables) {s : Settings} {modules : Entries String}
    (hperm : modules.Perm s.logging.modules) (hrising : Entries.Rising s.logging.modules) :
    layout v Json.Tree.Decoder.format (s.written modules) = some s := by
  have hlogging := LogSettings.layout_written v hperm hrising
  refine Eq.trans (record_compactMember (a := s.enabled) rfl rfl (by decide) _ _) ?_
  refine Eq.trans (record_compactMember
    (optional_text_ofOptionalText s.instrumentationKey) rfl (by decide) _ _) ?_
  refine Eq.trans (record_compactMember (text_ofText s.endpoint) rfl (by decide) _ _) ?_
  refine Eq.trans (record_compactMember
    (optional_text_ofOptionalText s.manifest) rfl (by decide) _ _) ?_
  refine Eq.trans (record_compactMember hlogging rfl (by decide) _ _) ?_
  rfl

/-! ## Reading what was written -/

/-- What JSON text is read as without files and layers. -/
def Settings.ofText (v : Variables) (source : String) : Except Json.Fault Settings :=
  (Json.Reader.whole (layout v Json.Reader.format)).run source

/-- What JSON text is read as for the log alone. -/
def LogSettings.ofText (v : Variables) (source : String) : Except Json.Fault LogSettings :=
  (Json.Reader.whole (layout v Json.Reader.format)).run source

theorem LogSettings.ofText_render (v : Variables) {s : LogSettings} {modules : Entries String}
    (hperm : modules.Perm s.modules) (hrising : Entries.Rising s.modules) :
    ofText v (LogSettings.json { s with modules }).render = .ok s := by
  rw [← Tree.render_eq (s.chars_written modules)]
  exact (follows_layout v).run_eq_ok (layout_written v hperm hrising)

theorem Settings.ofText_render (v : Variables) {s : Settings} {modules : Entries String}
    (hperm : modules.Perm s.logging.modules) (hrising : Entries.Rising s.logging.modules) :
    ofText v (Settings.json { s with logging := { s.logging with modules } }).render = .ok s := by
  rw [← Tree.render_eq (s.chars_written modules)]
  exact (follows_layout v).run_eq_ok (layout_written v hperm hrising)

/-- Settings, and those of the log alone, come back from the JSON text that they are written as, with
the modules in any order. So they have the same issues and the same usable key afterwards, and a
dispatcher is set up from them in the same way. -/
theorem Settings.strict_round_trip (v : Variables) :
    (∀ (s : Settings) (modules : Entries String), Entries.Rising s.logging.modules →
      modules.Perm s.logging.modules →
        ofText v (json { s with logging := { s.logging with modules } }).render = .ok s) ∧
    (∀ (l : LogSettings) (modules : Entries String), Entries.Rising l.modules →
      modules.Perm l.modules →
        LogSettings.ofText v (LogSettings.json { l with modules }).render = .ok l) ∧
    (∀ (s r : Settings) (modules : Entries String), Entries.Rising s.logging.modules →
      modules.Perm s.logging.modules →
        ofText v (json { s with logging := { s.logging with modules } }).render = .ok r →
          r.issues = s.issues ∧ r.logging.issue? = s.logging.issue? ∧
            (KeySource.settings r).usableKey = (KeySource.settings s).usableKey ∧
            ∀ (ρ : Type) (w : World) (connect : Connector ρ),
              Dispatcher.setUp w (.settings r) connect =
                Dispatcher.setUp w (.settings s) connect) := by
  refine ⟨fun s modules hrising hperm => ofText_render v hperm hrising,
    fun l modules hrising hperm => LogSettings.ofText_render v hperm hrising,
    fun s r modules hrising hperm hread => ?_⟩
  obtain rfl : r = s := Except.ok.inj (hread.symm.trans (ofText_render v hperm hrising))
  exact ⟨rfl, rfl, rfl, fun _ _ _ => rfl⟩

/-- Settings with texts that have to be escaped and levels for two modules. -/
def strangeSettings : Settings where
  enabled := false
  instrumentationKey := some " \"é\\\x01 "
  endpoint := "no address"
  manifest := none
  logging :=
    { enabled := true, level := "loud", format := "", output := "\t", file := "a/\x7f.log",
      color := false, modules := [("", "off"), ("a::b", "trace")] }

/-- They come back when the modules are written the other way round. -/
theorem strangeSettings_come_back :
    Settings.ofText [("HOME", "/home/me")] (Settings.json { strangeSettings with
      logging := { strangeSettings.logging with
        modules := [("a::b", "trace"), ("", "off")] } }).render = .ok strangeSettings :=
  (Settings.strict_round_trip [("HOME", "/home/me")]).1 strangeSettings _
    (List.pairwise_pair.mpr (by decide +kernel)) (.swap _ _ _)

end TelemetryGate
