import TelemetryGate.Proofs.Dispatch.Selection
import TelemetryGate.Proofs.Text.Cores

/-!
# Blank characters around keys

The usable key of a source is the core of the text that the source holds. So it stays the same
whatever blank characters are put around that text, in a source, in settings or in the manifest that
settings name, and so does all that binding does.
-/

namespace TelemetryGate

open Effect (requests)
open Text (CoreOf Pad Trimmed isAllBlank)

/-! ## Keys with a pad around them -/

/-- A manifest with a pad around its key. -/
def Manifest.padded (p : Pad) (m : Manifest) : Manifest := { m with aiKey := m.aiKey.map p.around }

/-- Settings with a pad around their own key. -/
def Settings.padded (p : Pad) (s : Settings) : Settings :=
  { s with instrumentationKey := s.instrumentationKey.map p.around }

/-- A source with a pad around its key. -/
def KeySource.padded (p : Pad) : KeySource → KeySource
  | .text s => .text (p.around s)
  | .optional s => .optional (s.map p.around)
  | .manifest m => .manifest (m.padded p)
  | .settings s => .settings (s.padded p)

/-- A setup with a pad around its key. -/
def Setup.padded (p : Pad) : Setup → Setup
  | .key source => .key (source.padded p)
  | .settings s => .settings (s.padded p)

namespace KeySource

@[simp]
theorem held_padded (p : Pad) (source : KeySource) :
    (source.padded p).held = source.held.map p.around := by
  cases source <;> rfl

/-- A pad does not change the usable key. -/
@[simp]
theorem usableKey_padded (p : Pad) (source : KeySource) :
    (source.padded p).usableKey = source.usableKey := by
  have htrim : Text.trim ∘ p.around = Text.trim := funext (Text.trim_around p)
  rw [usableKey, held_padded, Option.map_map, htrim, usableKey]

/-- The usable key is the core of the text that the source holds. -/
theorem usableKey_eq_some_iff_coreOf {source : KeySource} {key : String} :
    source.usableKey = some key ↔ ∃ raw, source.held = some raw ∧ CoreOf key raw := by
  simp only [usableKey_eq_some_iff, Text.coreOf_iff]

/-- There is no usable key exactly if the source holds no text or a blank one. -/
theorem usableKey_eq_none_iff {source : KeySource} :
    source.usableKey = none ↔
      source.held = none ∨ ∃ raw, source.held = some raw ∧ isAllBlank raw = true := by
  rw [usableKey]
  cases source.held with
  | none => simp
  | some raw => simp [Option.filter, Text.trim_eq_empty_iff]

/-- What the usable key of a source is. -/
structure UsesCore (source : KeySource) : Prop where
  /-- There is none exactly if the key is absent or blank. -/
  none : source.usableKey = none ↔
    source.held = none ∨ ∃ raw, source.held = some raw ∧ isAllBlank raw = true
  /-- Of a key that is not blank it is the one core. -/
  core : ∀ raw, source.held = some raw → isAllBlank raw = false →
    ∃ key, source.usableKey = some key ∧ ∀ u, CoreOf u raw ↔ u = key
  /-- As a text it is usable and stays the same. -/
  again : ∀ key, source.usableKey = some key → (text key).usableKey = some key
  /-- Blank characters around the key do not change it. -/
  padded : ∀ p, (source.padded p).usableKey = source.usableKey

theorem usesCore (source : KeySource) : source.UsesCore where
  none := usableKey_eq_none_iff
  core := by
    intro raw hheld hraw
    have hne : Text.trim raw ≠ "" := fun hempty =>
      Bool.false_ne_true (hraw.symm.trans (Text.trim_eq_empty_iff.mp hempty))
    refine ⟨Text.trim raw, usableKey_eq_some_iff.mpr ⟨raw, hheld, rfl, hne⟩, fun u => ?_⟩
    rw [Text.coreOf_iff]
    constructor
    · rintro ⟨htrim, -⟩
      exact htrim.symm
    · rintro rfl
      exact ⟨rfl, hne⟩
  again _ := usableKey_text
  padded p := usableKey_padded p source

end KeySource

/-- The key that a setup leads to is usable in some source. -/
theorem Setup.exists_usableKey {w : World} {setup : Setup} {key : String}
    (h : setup.key? w = some key) : ∃ source : KeySource, source.usableKey = some key := by
  cases setup with
  | key source => exact ⟨source, h⟩
  | settings s =>
    obtain ⟨-, hown | ⟨-, hholds⟩⟩ := key?_settings_iff.mp h
    · exact ⟨.settings s, Settings.holdsKey_iff.mp hown⟩
    · obtain ⟨path, m, -, -, hm⟩ := Settings.manifestHoldsKey_iff.mp hholds
      exact ⟨.manifest m, hm⟩

/-- The key that a setup leads to is trimmed. -/
theorem Setup.trimmed_of_key? {w : World} {setup : Setup} {key : String}
    (h : setup.key? w = some key) : Trimmed key := by
  obtain ⟨source, husable⟩ := exists_usableKey h
  obtain ⟨raw, -, hcore⟩ := KeySource.usableKey_eq_some_iff_coreOf.mp husable
  exact hcore.trimmed

namespace Dispatcher

variable {ρ : Type}

/-- Binding uses nothing of a source but its usable key. -/
theorem bind_congr {source source' : KeySource} (h : source.usableKey = source'.usableKey)
    (endpoint : Option String) (connect : Connector ρ) :
    bind source endpoint connect = bind source' endpoint connect := by
  unfold bind
  rw [h]

/-- A pad around the key of settings does not change what binding does. -/
theorem bindSettings_padded (p : Pad) (w : World) (s : Settings) (connect : Connector ρ) :
    bindSettings w (s.padded p) connect = bindSettings w s connect := by
  have husable : (KeySource.settings (s.padded p)).usableKey = (KeySource.settings s).usableKey :=
    KeySource.usableKey_padded p (.settings s)
  unfold bindSettings
  rw [husable, bind_congr husable]
  rfl

/-- A pad around the key of the manifest that is read does not change what binding does. -/
theorem bindSettings_padded_manifest (q : Pad) {w w' : World} {s : Settings}
    (h : ∀ path ∈ (Setup.settings s).manifest?,
      Manifest.load w' path = (Manifest.load w path).map (Manifest.padded q))
    (connect : Connector ρ) : bindSettings w' s connect = bindSettings w s connect := by
  by_cases henabled : s.enabled
  · cases hown : (KeySource.settings s).usableKey with
    | some key => simp [bindSettings, henabled, hown]
    | none =>
      cases hpath : s.manifest with
      | none => simp [bindSettings, henabled, hown, hpath]
      | some path =>
        have hload := h path (by simp [Setup.manifest?, henabled, hown, hpath])
        simp only [bindSettings, henabled, hown, hpath, hload]
        cases Manifest.load w path with
        | error fault => rfl
        | ok m =>
          have hbind :=
            bind_congr (KeySource.usableKey_padded q (.manifest m)) (some s.endpoint) connect
          exact congrArg (fun result => (.manifestRead path :: result.1, result.2)) hbind
  · simp [bindSettings, henabled]

/-- A pad around the key of a setup does not change what binding does. -/
theorem bindSetup_padded (p : Pad) (w : World) (setup : Setup) (connect : Connector ρ) :
    bindSetup w (setup.padded p) connect = bindSetup w setup connect := by
  cases setup with
  | key source => exact bind_congr (KeySource.usableKey_padded p source) none connect
  | settings s => exact bindSettings_padded p w s connect

/-- A pad around the key of the manifest that is read for a setup does not change what binding
does. -/
theorem bindSetup_padded_manifest (q : Pad) {w w' : World} {setup : Setup}
    (h : ∀ path ∈ setup.manifest?,
      Manifest.load w' path = (Manifest.load w path).map (Manifest.padded q))
    (connect : Connector ρ) : bindSetup w' setup connect = bindSetup w setup connect := by
  cases setup with
  | key source => rfl
  | settings s => exact bindSettings_padded_manifest q h connect

/-- A reporter is only asked for under a trimmed key. -/
theorem trimmed_of_mem_requests {w : World} {setup : Setup} {connect : Connector ρ} {key : String}
    {endpoint : Option String} (h : (key, endpoint) ∈ requests (bindSetup w setup connect).1) :
    Trimmed key := by
  rw [(bindSetup_binds w setup connect).requests, List.mem_map] at h
  obtain ⟨own, hkey, heq⟩ := h
  obtain ⟨rfl, -⟩ := Prod.mk.inj heq
  exact Setup.trimmed_of_key? (Option.mem_toList.mp hkey)

end Dispatcher

open Dispatcher (bindSetup)

/-- How the key of a setup is bound. -/
structure Setup.BindsCore {ρ : Type} (w : World) (setup : Setup) (connect : Connector ρ) :
    Prop where
  /-- The connector is asked for a trimmed key only. -/
  asked : ∀ key endpoint, (key, endpoint) ∈ requests (bindSetup w setup connect).1 → Trimmed key
  /-- Blank characters around the key of the source or of the settings change nothing. -/
  padded : ∀ p, bindSetup w (setup.padded p) connect = bindSetup w setup connect
  /-- Blank characters around the key of the manifest which is read change nothing. -/
  manifest : ∀ p w', (∀ path ∈ setup.manifest?,
      Manifest.load w' path = (Manifest.load w path).map (Manifest.padded p)) →
    bindSetup w' setup connect = bindSetup w setup connect

theorem Setup.bindsCore {ρ : Type} (w : World) (setup : Setup) (connect : Connector ρ) :
    setup.BindsCore w connect where
  asked _ _ := Dispatcher.trimmed_of_mem_requests
  padded p := Dispatcher.bindSetup_padded p w setup connect
  manifest p _ h := Dispatcher.bindSetup_padded_manifest p h connect

end TelemetryGate
