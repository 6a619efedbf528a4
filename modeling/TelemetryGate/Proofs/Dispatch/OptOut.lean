import TelemetryGate.Proofs.Dispatch.Selection
import TelemetryGate.Proofs.Settings.Loading

/-!
# Opting out

Who sets the switch of telemetry to false in the last source that sets it is left alone. However the
settings were loaded and whatever else the sources give, the dispatcher that is set up from them, for
itself or for the slot of the process, only ever reports to the log: it asks for no reporter, reads
no manifest and sends nothing.
-/

namespace TelemetryGate

open Setting.Decoder

namespace Settings

/-- A layer sets the switch of telemetry, and to false only. -/
def SwitchesOff (layer : Layer) : Prop :=
  layer.values "enabled" ≠ [] ∧ ∀ value ∈ layer.values "enabled", value = .bool false

instance (layer : Layer) : Decidable (SwitchesOff layer) :=
  inferInstanceAs (Decidable (_ ∧ _))

/-- The last source that sets the switch of telemetry sets it to false. Lists and tables in its place
do not set it. -/
inductive OptsOut (w : World) (loading : Loading) : Prop where
  /-- That source is a file. -/
  | file {before after : List (String × Demand)} {path : String} {demand : Demand} {layer : Layer}
      (files : loading.files w = before ++ (path, demand) :: after)
      (found : fileLayer w demand path = .ok layer)
      (off : SwitchesOff layer)
      (later : ∀ file ∈ after, ∀ above, fileLayer w file.2 file.1 = .ok above →
        above.values "enabled" = [])
      (overrides : ∀ v ∈ w.environment, Override.place? v.1 ≠ some [.key "enabled"])
  /-- That source is the environment. -/
  | environment {name value : String} (mem : (name, value) ∈ w.environment)
      (place : Override.place? name = some [.key "enabled"])
      (off : ∀ v ∈ w.environment, Override.place? v.1 = some [.key "enabled"] →
        Text.lower v.2 = "false")

end Settings

/-- In any case `false` reads as the truth value. -/
theorem Override.scalar_of_lower_eq_false {s : String} (h : Text.lower s = "false") :
    scalar s = .bool false := by
  rw [scalar, h]
  rfl

namespace Settings

/-- At the switch of telemetry stands false, or something that is no value. -/
theorem OptsOut.agrees {w : World} {loading : Loading} (h : OptsOut w loading)
    {layers : List Layer} (hlayers : fileLayers w (loading.files w) = .ok layers) :
    ∃ origin, Setting.Agrees ((tree w.environment layers).at? ["enabled"])
      (some (.scalar origin (.bool false))) := by
  cases h with
  | @file before after path demand layer files found off later overrides =>
    rw [files] at hlayers
    obtain ⟨below, above, habove, rfl⟩ := exists_layers_around found hlayers
    have hlater : ∀ other ∈ above ++ [Override.layer w.environment],
        other.values "enabled" = [] := by
      intro other hother
      rcases List.mem_append.mp hother with hother | hother
      · obtain ⟨file, hfile, hlayer⟩ := exists_file_of_mem habove hother
        exact later file hfile other hlayer
      · obtain rfl := List.mem_singleton.mp hother
        by_contra hne
        obtain ⟨value, hvalue⟩ := List.exists_mem_of_ne_nil _ hne
        obtain ⟨v, hv, hplace, -⟩ := Override.exists_variable_of_mem_values hvalue
        exact overrides v hv hplace
    have hsplit : defaultLayer :: (below ++ layer :: above) ++ [Override.layer w.environment] =
        (defaultLayer :: below) ++ layer :: (above ++ [Override.layer w.environment]) := by simp
    rw [tree, hsplit]
    exact Layer.agrees_merge off.1 off.2 hlater
  | environment mem place off =>
    refine Layer.agrees_merge (Override.values_ne_nil_of_place? mem place) ?_ (by simp)
    intro value hvalue
    obtain ⟨v, hv, hplace, rfl⟩ := Override.exists_variable_of_mem_values hvalue
    exact Override.scalar_of_lower_eq_false (off v hv hplace)

/-- Whoever opts out has telemetry switched off. -/
theorem OptsOut.enabled {w : World} {loading : Loading} (h : OptsOut w loading) {s : Settings}
    (hload : loading.result w = .ok s) : s.enabled = false := by
  obtain ⟨layers, hlayers, hlayout⟩ := exists_layers_of_result hload
  obtain ⟨origin, hagrees⟩ := h.agrees hlayers
  have hread := rejectsCompound_flag.reads hagrees (topReadFrom_tree hlayout).enabled
  exact (Except.ok.inj hread).symm

end Settings

/-- Some effects only report to the log: no reporter is asked for, no manifest is read and nothing
is sent. -/
def Effect.Silent {ρ : Type} (effects : List (Effect ρ)) : Prop :=
  ∀ effect ∈ effects, ∃ record, effect = .logged record

open Effect (Silent)

namespace Dispatcher

variable {ρ : Type}

/-- Settings that switch telemetry off lead to a disabled dispatcher, which is not announced. -/
theorem setUp_of_switchedOff {s : Settings} (h : s.enabled = false) (w : World)
    (connect : Connector ρ) :
    setUp w (.settings s) connect = ([.logged switchedOff], .disabled) := by
  simp [setUp, bindSetup, bindSettings, announce, h]

/-- Setting it up and emitting through it only reports. -/
theorem silent_life_of_switchedOff {s : Settings} (h : s.enabled = false) (w : World)
    (connect : Connector ρ) (emissions : List Emission) :
    Silent (life w (.settings s) connect emissions) := by
  rw [life, setUp_of_switchedOff h]
  intro effect heffect
  rcases List.mem_append.mp heffect with hsetup | hemitted
  · exact ⟨switchedOff, List.mem_singleton.mp hsetup⟩
  · obtain ⟨e, -, he⟩ := List.mem_flatMap.mp hemitted
    rw [emit_of_isActive_eq_false rfl] at he
    exact ⟨dropped e.event, List.mem_singleton.mp he⟩

end Dispatcher

/-- Filling an empty slot and emitting through it does what setting up a dispatcher and emitting
through that one does. -/
theorem Slot.fill_empty_emit {ρ : Type} (w : World) (setup : Setup) (connect : Connector ρ)
    (emissions : List Emission) :
    (({} : Slot ρ).fill w setup connect).1 ++
      emissions.flatMap (({} : Slot ρ).fill w setup connect).2.1.emit =
        Dispatcher.life w setup connect emissions := rfl

open Dispatcher (setUp life)

/-- With these settings telemetry stays off, whatever is emitted: through a dispatcher that is set up
from them, and through an empty slot that is filled with one. -/
structure Settings.StaysOff {ρ : Type} (s : Settings) (w : World) (connect : Connector ρ)
    (emissions : List Emission) : Prop where
  /-- The dispatcher is disabled. -/
  disabled : (setUp w (.settings s) connect).2 = .disabled
  /-- Setting it up and emitting through it only reports. -/
  silent : Silent (life w (.settings s) connect emissions)
  /-- The slot is filled with a disabled dispatcher. -/
  filled : (({} : Slot ρ).fill w (.settings s) connect).2 = (⟨some .disabled⟩, .ok .disabled)
  /-- Filling it and emitting through it only reports. -/
  slotSilent : Silent ((({} : Slot ρ).fill w (.settings s) connect).1 ++
    emissions.flatMap (({} : Slot ρ).fill w (.settings s) connect).2.1.emit)

/-- Whoever opts out is left alone, in every world that settings are loaded in and whatever becomes
of it afterwards, for every way to connect a reporter and whatever is emitted. -/
theorem Settings.OptsOut.staysOff {w : World} {loading : Loading} (h : OptsOut w loading)
    {s : Settings} (hload : loading.result w = .ok s) {ρ : Type} (later : World)
    (connect : Connector ρ) (emissions : List Emission) :
    s.enabled = false ∧ s.StaysOff later connect emissions := by
  have henabled := h.enabled hload
  have hsetUp := Dispatcher.setUp_of_switchedOff henabled later connect
  have hsilent := Dispatcher.silent_life_of_switchedOff henabled later connect emissions
  refine ⟨henabled, ?_, hsilent, ?_, ?_⟩
  · rw [hsetUp]
  · rw [Slot.fill_of_empty rfl, hsetUp]
    rfl
  · rw [Slot.fill_empty_emit]
    exact hsilent

namespace Settings

/-- A workspace that gives a key and switches telemetry on, but off again in the file of
developers. -/
def guardedWorld (environment : Variables) : World where
  files := ⟨[(["ws"], .directory), (["ws", "config"], .directory),
    (["ws", "config", "telemetry.toml"],
      .file "enabled = true\ninstrumentation_key = 'key'\n".toUTF8),
    (["ws", "config", "development.toml"], .file "enabled = false\n".toUTF8)]⟩
  cwd := []
  environment := environment

/-- Its settings. -/
def guardedSettings : Settings :=
  { Settings.default [] with enabled := false, instrumentationKey := some "key" }

/-- Variables that name another environment and opt out themselves. -/
def guardingVariables : Variables :=
  [(environmentVariable, "ci"), ("QSHARP_TELEMETRY__ENABLED", "False")]

/-- The file of developers opts out, and where it does not count, a variable does. -/
theorem guardedWorld_staysOff :
    guardedSettings.StaysOff (guardedWorld []) (fun key _ => .ok key) [.startup] ∧
      guardedSettings.StaysOff (guardedWorld guardingVariables) (fun key _ => .ok key)
        [.startup] := by
  have hfile : (Loading.workspace "ws").result (guardedWorld []) = .ok guardedSettings := by
    decide +kernel
  have hvariable : (Loading.workspace "ws").result (guardedWorld guardingVariables) =
      .ok guardedSettings := by
    decide +kernel
  have hfileOut : OptsOut (guardedWorld []) (.workspace "ws") := by
    have hfiles : (Loading.workspace "ws").files (guardedWorld []) =
        [("ws/config/telemetry.toml", .required)] ++
          [("ws/config/development.toml", .required)] := by decide +kernel
    have hcheck : (fileLayer (guardedWorld []) .required "ws/config/development.toml").toOption.any
        fun layer => decide (SwitchesOff layer) := by decide +kernel
    cases hlayer : fileLayer (guardedWorld []) .required "ws/config/development.toml" with
    | error fault =>
      rw [hlayer] at hcheck
      cases hcheck
    | ok layer =>
      rw [hlayer] at hcheck
      exact .file hfiles hlayer (of_decide_eq_true hcheck) (by simp) (by decide)
  have hvariableOut : OptsOut (guardedWorld guardingVariables) (.workspace "ws") := by
    have hmem : ("QSHARP_TELEMETRY__ENABLED", "False") ∈ guardingVariables := by decide
    exact .environment hmem (by decide +kernel) (by decide +kernel)
  exact ⟨(OptsOut.staysOff hfileOut hfile _ _ _).2,
    (OptsOut.staysOff hvariableOut hvariable _ _ _).2⟩

end Settings

end TelemetryGate
