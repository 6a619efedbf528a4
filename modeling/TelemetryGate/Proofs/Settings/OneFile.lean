import TelemetryGate.Proofs.Settings.Gaining
import TelemetryGate.Proofs.Settings.Precedence
import TelemetryGate.Proofs.Settings.Walking

/-!
# Settings from one file

A text may give the same settings, or be at fault as well, wherever it is the only settings file: as
the file that settings are loaded from, as the user's file, as the file of all environments of a
workspace, and as the file of its own environment. Where the environment is named like the file of
all environments that file is loaded twice, which makes a difference to keys that count the items of
a list from its end.
-/

namespace TelemetryGate.Settings

open Filesystem (Path.join)

/-- The layers of a text, loaded once or more, between the defaults and the environment. -/
def textLayers (v : Variables) (entries : List (String × Toml.Value)) (times : Nat) : List Layer :=
  defaultLayer :: List.replicate times (Setting.ofTomlEntries none entries) ++ [Override.layer v]

/-- A configuration, or none, that a TOML text may give when it is loaded so many times between the
defaults and the environment. -/
def TextMayYield (v : Variables) (text : String) (times : Nat) (told : Option Settings) : Prop :=
  match Toml.read text with
  | none => told = none
  | some entries => MayYield v (textLayers v entries times) told

/-- The settings that it gives, if any, where tables are walked in the order in which their entries
stand. -/
def ofText? (v : Variables) (text : String) (times : Nat) : Option Settings :=
  (Toml.read text).bind fun entries =>
    (ofMerged v (Layer.merge (textLayers v entries times))).toOption

/-- No key of a text counts the items of a list from its end. -/
def CountsForward (text : String) : Prop :=
  ∀ entries ∈ Toml.read text, Layer.CountsForward (Setting.ofTomlEntries none entries)

instance (text : String) : Decidable (CountsForward text) :=
  inferInstanceAs (Decidable (∀ entries ∈ Toml.read text, _))

/-- A text and the variables give no setting twice. -/
structure TextGivesOnce (v : Variables) (text : String) : Prop where
  /-- The text gives no setting twice. -/
  text : ∀ entries ∈ Toml.read text, Layer.GivesOnce (Setting.ofTomlEntries none entries)
  /-- The variables give no setting twice. -/
  overrides : Override.GivesOnce v

instance (v : Variables) (text : String) : Decidable (TextGivesOnce v text) :=
  decidable_of_iff ((∀ entries ∈ Toml.read text,
      Layer.GivesOnce (Setting.ofTomlEntries none entries)) ∧ Override.GivesOnce v)
    ⟨fun h => ⟨h.1, h.2⟩, fun h => ⟨h.text, h.overrides⟩⟩

/-- What gives no setting twice counts the items of lists from their start. -/
theorem TextGivesOnce.countsForward {v : Variables} {text : String} (h : TextGivesOnce v text) :
    CountsForward text := fun entries hread => (h.text entries hread).forward

/-- The text of the file at a path, which is read from the root. -/
def HasText (w : World) (path text : String) : Prop :=
  w.files.readText w.cwd (Path.join (cwdPath w) path) = .ok text

instance (w : World) (path text : String) : Decidable (HasText w path text) :=
  inferInstanceAs (Decidable (_ = _))

/-- Nothing has the path of the user's file, if there is such a path. -/
def NoUserFile (w : World) : Prop :=
  ∀ path, globalPath? w.environment = some path → w.files.exists? w.cwd path = false

/-- The only settings file is a TOML file with a text. -/
inductive OnlyFile (w : World) (text : String) : Loading → Prop where
  /-- Settings are loaded from it. -/
  | file {path : String} (hformat : formatOf? (Path.join (cwdPath w) path) = some .toml)
    (htext : HasText w path text) : OnlyFile w text (.file path)
  /-- It is the user's file. -/
  | user {root path : String} (hpath : globalPath? w.environment = some path)
    (htext : HasText w path text)
    (hshared : w.files.isFile w.cwd (Path.join (Path.join root "config") "telemetry.toml") = false)
    (hown : w.files.isFile w.cwd
      (Path.join (Path.join root "config") (environmentName w.environment ++ ".toml")) = false) :
    OnlyFile w text (.workspace root)
  /-- It is the file of all environments. -/
  | shared {root : String} (huser : NoUserFile w)
    (htext : HasText w (Path.join (Path.join root "config") "telemetry.toml") text)
    (hown : environmentName w.environment ≠ "telemetry" → w.files.isFile w.cwd
      (Path.join (Path.join root "config") (environmentName w.environment ++ ".toml")) = false) :
    OnlyFile w text (.workspace root)
  /-- It is the file of the workspace's own environment. -/
  | own {root : String} (huser : NoUserFile w)
    (hshared : environmentName w.environment ≠ "telemetry" →
      w.files.isFile w.cwd (Path.join (Path.join root "config") "telemetry.toml") = false)
    (htext : HasText w
      (Path.join (Path.join root "config") (environmentName w.environment ++ ".toml")) text) :
    OnlyFile w text (.workspace root)

/-! ## Layers -/

theorem mapValues_ofTomlEntries (origin : Option String) (entries : List (String × Toml.Value)) :
    Entries.mapValues Setting.unplaced (Setting.ofTomlEntries origin entries) =
      Setting.ofTomlEntries none entries := by
  rw [← Setting.unplacedEntries_eq, Setting.unplaced_ofTomlEntries]

/-- The layers of a text differ from those of its file in their places only. -/
theorem unplaced_textLayers (v : Variables) (origin : Option String)
    (entries : List (String × Toml.Value)) (times : Nat) :
    (textLayers v entries times).map (Entries.mapValues Setting.unplaced) =
      (defaultLayer :: List.replicate times (Setting.ofTomlEntries origin entries) ++
        [Override.layer v]).map (Entries.mapValues Setting.unplaced) := by
  simp only [textLayers, List.cons_append, List.map_cons, List.map_append, List.map_replicate,
    mapValues_ofTomlEntries]

/-- A text that is loaded twice may give what it may give when it is loaded once. -/
theorem CountsForward.textMayYield_twice_iff {v : Variables} {text : String}
    (hforward : CountsForward text) {told : Option Settings} :
    TextMayYield v text 2 told ↔ TextMayYield v text 1 told := by
  rw [TextMayYield, TextMayYield]
  cases hread : Toml.read text with
  | none => exact Iff.rfl
  | some entries => exact mayYield_twice_iff (hforward entries hread)

theorem CountsForward.ofText?_twice {v : Variables} {text : String}
    (hforward : CountsForward text) : ofText? v text 2 = ofText? v text 1 := by
  refine Option.bind_congr fun entries hread => ?_
  have hlayer := hforward entries hread
  have hmerge : Layer.merge (textLayers v entries 2) = Layer.merge (textLayers v entries 1) :=
    congrArg (Layer.onto (Override.layer v)) (hlayer.onto_reordered .refl .refl _)
  rw [hmerge]

/-- A text that gives no setting twice may give one configuration only, or none. -/
theorem TextGivesOnce.eq_ofText? {v : Variables} {text : String} (honce : TextGivesOnce v text)
    {told : Option Settings} (h : TextMayYield v text 1 told) : told = ofText? v text 1 := by
  rw [TextMayYield] at h
  rw [ofText?]
  cases hread : Toml.read text with
  | none =>
    simp only [hread] at h
    exact h
  | some entries =>
    simp only [hread] at h
    obtain ⟨walked, hwalked, rfl⟩ := h
    have hlayers : ∀ layer ∈ textLayers v entries 1, Layer.GivesOnce layer :=
      List.forall_mem_cons.mpr ⟨givesOnce_defaultLayer, List.forall_mem_cons.mpr
        ⟨honce.text entries hread, List.forall_mem_singleton.mpr honce.overrides.layer⟩⟩
    rw [Layer.merge_reordered hlayers hwalked]
    rfl

theorem fileLayers_replicate {w : World} {path : String} {demand : Demand} {layer : Layer}
    (h : fileLayer w demand path = .ok layer) (times : Nat) :
    fileLayers w (List.replicate times (path, demand)) = .ok (List.replicate times layer) := by
  induction times with
  | zero => rfl
  | succ n ih =>
    rw [fileLayers] at ih
    rw [List.replicate_succ, fileLayers, List.mapM_cons, h, ih]
    rfl

section

variable {w : World} {path text : String}
  (hformat : formatOf? (Path.join (cwdPath w) path) = some .toml) (htext : HasText w path text)
include hformat htext

/-- A TOML file gives the layer of its text as often as it is loaded. -/
theorem fileLayers_of_read {entries : List (String × Toml.Value)}
    (hread : Toml.read text = some entries) (demand : Demand) (times : Nat) :
    ∃ origin, fileLayers w (List.replicate times (path, demand)) =
      .ok (List.replicate times (Setting.ofTomlEntries origin entries)) := by
  have hlayer := fileLayer_eq_layerOf htext hformat demand
  rw [layerOf] at hlayer
  simp only [hread] at hlayer
  exact ⟨_, fileLayers_replicate hlayer times⟩

/-- A file whose text is not well formed is at fault however often it is loaded. -/
theorem fileLayers_of_read_eq_none (hread : Toml.read text = none) (demand : Demand) (more : Nat) :
    ∃ fault, fileLayers w (List.replicate (more + 1) (path, demand)) = .error fault := by
  have hlayer := fileLayer_eq_layerOf htext hformat demand
  rw [layerOf] at hlayer
  simp only [hread] at hlayer
  rw [fileLayers, List.replicate_succ, List.mapM_cons, hlayer]
  exact ⟨_, rfl⟩

end

/-! ## Files -/

theorem environmentName_ne_empty (v : Variables) : environmentName v ≠ "" := by
  rw [environmentName]
  cases hname : (v.get? environmentVariable).filter fun name => Text.trim name ≠ "" with
  | none => decide
  | some name =>
    have hblank := (Option.filter_eq_some_iff.mp hname).2
    rintro rfl
    exact absurd hblank (by decide +kernel)

theorem globalSource_of_noUserFile {w : World} (h : NoUserFile w) : (globalSource w).1 = [] := by
  rw [globalSource]
  cases hpath : globalPath? w.environment with
  | none => rfl
  | some path => simp only [h path hpath]; rfl

/-- A file with a text that is read from the root stands at its path. -/
theorem HasText.isFile {w : World} (hcwd : w.files.Stands w.cwd) {dir name text : String}
    (hname : name ≠ "") (h : HasText w (Path.join dir name) text) :
    w.files.isFile w.cwd (Path.join dir name) = true :=
  isFile_of_readText
    (readText_of_join_cwdPath hcwd (Filesystem.Path.join_ne_empty dir hname) h)

/-- The files of a workspace in an environment that is named like the file of all environments. -/
theorem workspaceFiles_telemetry (w : World) (root : String) :
    workspaceFiles w root "telemetry" =
      if w.files.isFile w.cwd (Path.join (Path.join root "config") "telemetry.toml") then
        [Path.join (Path.join root "config") "telemetry.toml",
          Path.join (Path.join root "config") "telemetry.toml"]
      else [] := by
  have hending : "telemetry" ++ ".toml" = "telemetry.toml" := rfl
  rw [workspaceFiles, workspaceCandidates, hending]
  generalize Path.join (Path.join root "config") "telemetry.toml" = path
  cases hfile : w.files.isFile w.cwd path <;> simp [hfile]

/-- Without the user's file, the files of a workspace are loaded. -/
theorem files_of_noUserFile {w : World} {root : String} (huser : NoUserFile w) :
    (Loading.workspace root).files w =
      (workspaceFiles w root (environmentName w.environment)).map (·, .required) := by
  rw [Loading.files, globalSource_of_noUserFile huser, workspaceSource_files, List.nil_append]

/-- The only settings file is loaded once, or twice where the environment is named like the file of
all environments. -/
structure LoadsText (w : World) (text : String) (files : List (String × Demand)) (times : Nat) :
    Prop where
  /-- It is a TOML file with the text, which is loaded so many times. -/
  file : ∃ path demand, formatOf? (Path.join (cwdPath w) path) = some .toml ∧
    HasText w path text ∧ files = List.replicate times (path, demand)
  /-- It is loaded at most twice. -/
  times : times = 1 ∨ times = 2 ∧ environmentName w.environment = "telemetry"

namespace LoadsText

variable {w : World} {text : String} {files : List (String × Demand)} {times : Nat}
  (h : LoadsText w text files times)
include h

theorem exists_mayGive_iff {told : Option Settings} :
    (∃ r, MayGive w files r ∧ r.toOption = told) ↔
      TextMayYield w.environment text times told := by
  obtain ⟨⟨path, demand, hformat, htext, rfl⟩, htimes⟩ := h
  rw [TextMayYield]
  cases hread : Toml.read text with
  | none =>
    have hpositive : times = times - 1 + 1 := by omega
    obtain ⟨fault, hfault⟩ := fileLayers_of_read_eq_none hformat htext hread demand (times - 1)
    rw [hpositive]
    exact exists_mayGive_iff_of_error hfault
  | some entries =>
    obtain ⟨origin, hlayers⟩ := fileLayers_of_read hformat htext hread demand times
    have hplaces := unplaced_textLayers w.environment origin entries times
    rw [Settings.exists_mayGive_iff hlayers]
    exact ⟨fun hyield => hyield.of_unplaced hplaces,
      fun hyield => hyield.of_unplaced hplaces.symm⟩

theorem toOption_ofFiles : (ofFiles w files).toOption = ofText? w.environment text times := by
  obtain ⟨⟨path, demand, hformat, htext, rfl⟩, htimes⟩ := h
  rw [ofText?, ofFiles]
  cases hread : Toml.read text with
  | none =>
    have hpositive : times = times - 1 + 1 := by omega
    obtain ⟨fault, hfault⟩ := fileLayers_of_read_eq_none hformat htext hread demand (times - 1)
    rw [hpositive, hfault]
    rfl
  | some entries =>
    obtain ⟨origin, hlayers⟩ := fileLayers_of_read hformat htext hread demand times
    have hplaces := unplaced_textLayers w.environment origin entries times
    rw [hlayers, Option.bind_some]
    refine toOption_ofMerged_congr w.environment ?_
    rw [Layer.unplaced_merge, Layer.unplaced_merge, hplaces]

end LoadsText

theorem OnlyFile.exists_loadsText {w : World} (hcwd : w.files.Stands w.cwd) {text : String}
    {loading : Loading} (hplain : '/' ∉ (environmentName w.environment).toList)
    (h : OnlyFile w text loading) : ∃ times, LoadsText w text (loading.files w) times := by
  cases h with
  | @file path hformat htext => exact ⟨1, ⟨path, .required, hformat, htext, rfl⟩, .inl rfl⟩
  | @user root path hpath htext hshared hown =>
    obtain ⟨dir, rfl⟩ := exists_globalPath? hpath
    have hexists := exists?_of_isFile (htext.isFile hcwd (by decide))
    have huser : (globalSource w).1 = [(Path.join dir "config.toml", .tolerant)] := by
      rw [globalSource, hpath]
      simp only [hexists, if_true]
    have hnone : workspaceFiles w root (environmentName w.environment) = [] := by
      simp only [workspaceFiles, workspaceCandidates, List.filter_cons, hshared, hown]
      rfl
    refine ⟨1, ⟨_, .tolerant, formatOf?_config _ dir, htext, ?_⟩, .inl rfl⟩
    rw [Loading.files, huser, workspaceSource_files, hnone]
    rfl
  | @shared root huser htext hown =>
    have hfile := htext.isFile hcwd (by decide)
    have hname : "telemetry" ≠ "" := by decide
    have hformat : formatOf? (Path.join (cwdPath w) (Path.join (Path.join root "config")
      "telemetry.toml")) = some .toml := formatOf?_join_of_plain hname (by decide) _ _
    by_cases hsame : environmentName w.environment = "telemetry"
    · refine ⟨2, ⟨_, .required, hformat, htext, ?_⟩, .inr ⟨rfl, hsame⟩⟩
      rw [files_of_noUserFile huser, hsame, workspaceFiles_telemetry, if_pos hfile]
      rfl
    · refine ⟨1, ⟨_, .required, hformat, htext, ?_⟩, .inl rfl⟩
      rw [files_of_noUserFile huser]
      simp only [workspaceFiles, workspaceCandidates, List.filter_cons, hfile, hown hsame]
      rfl
  | @own root huser hshared htext =>
    have hfile := htext.isFile hcwd (append_toml_ne _ (by decide))
    have hformat := formatOf?_join_of_plain (environmentName_ne_empty w.environment) hplain
      (cwdPath w) (Path.join root "config")
    by_cases hsame : environmentName w.environment = "telemetry"
    · refine ⟨2, ⟨_, .required, hformat, htext, ?_⟩, .inr ⟨rfl, hsame⟩⟩
      have hending : "telemetry" ++ ".toml" = "telemetry.toml" := rfl
      rw [hsame, hending] at hfile
      rw [files_of_noUserFile huser, hsame, workspaceFiles_telemetry, if_pos hfile, hending]
      rfl
    · refine ⟨1, ⟨_, .required, hformat, htext, ?_⟩, .inl rfl⟩
      rw [files_of_noUserFile huser]
      simp only [workspaceFiles, workspaceCandidates, List.filter_cons, hfile, hshared hsame]
      rfl

namespace OnlyFile

variable {w : World} (hcwd : w.files.Stands w.cwd) {text : String} {loading : Loading}
  (hplain : '/' ∉ (environmentName w.environment).toList)
  (hagain : environmentName w.environment = "telemetry" → CountsForward text)
  (h : OnlyFile w text loading)
include hcwd hplain hagain h

/-- What may come of loading the only settings file is what its text may give. -/
theorem exists_mayGive_iff (told : Option Settings) :
    (∃ r, loading.MayGive w r ∧ r.toOption = told) ↔
      TextMayYield w.environment text 1 told := by
  obtain ⟨times, hloads⟩ := h.exists_loadsText hcwd hplain
  rw [Loading.mayGive_eq, hloads.exists_mayGive_iff]
  obtain rfl | ⟨rfl, hname⟩ := hloads.times
  · exact Iff.rfl
  · exact (hagain hname).textMayYield_twice_iff

/-- What comes of loading it in the order in which its keys stand is what its text gives. -/
theorem toOption_result : (loading.result w).toOption = ofText? w.environment text 1 := by
  obtain ⟨times, hloads⟩ := h.exists_loadsText hcwd hplain
  rw [Loading.result_eq, hloads.toOption_ofFiles]
  obtain rfl | ⟨rfl, hname⟩ := hloads.times
  · rfl
  · exact (hagain hname).ofText?_twice

end OnlyFile

/-- Wherever a text is the only settings file, in worlds with the same variables, the same settings
may come of loading it, or none, and where tables are walked in the order in which their entries
stand the same settings do. Where the environment is named like the file of all environments, which
is then loaded twice, this takes that the text counts the items of lists from their start. If
neither the text nor the variables give a setting twice, all orders give the same settings
everywhere, or fail everywhere. -/
theorem mayGive_iff_of_onlyFile {w w' : World} (hcwd : w.files.Stands w.cwd)
    (hcwd' : w'.files.Stands w'.cwd) (henvironment : w.environment = w'.environment)
    (hplain : '/' ∉ (environmentName w.environment).toList) {text : String}
    {loading loading' : Loading} (h : OnlyFile w text loading) (h' : OnlyFile w' text loading') :
    ((environmentName w.environment = "telemetry" → CountsForward text) →
      (loading.result w).toOption = (loading'.result w').toOption ∧
        ∀ told, (∃ r, loading.MayGive w r ∧ r.toOption = told) ↔
          ∃ r, loading'.MayGive w' r ∧ r.toOption = told) ∧
      (TextGivesOnce w.environment text → ∀ r r', loading.MayGive w r → loading'.MayGive w' r' →
        r.toOption = r'.toOption) := by
  have hplain' := henvironment ▸ hplain
  refine ⟨fun hagain => ⟨?_, fun told => ?_⟩, fun honce r r' hr hr' => ?_⟩
  · rw [h.toOption_result hcwd hplain hagain, henvironment]
    exact (h'.toOption_result hcwd' hplain' (henvironment ▸ hagain)).symm
  · rw [h.exists_mayGive_iff hcwd hplain hagain, henvironment]
    exact (h'.exists_mayGive_iff hcwd' hplain' (henvironment ▸ hagain) told).symm
  · have hforward := honce.countsForward
    have hmay := (h.exists_mayGive_iff hcwd hplain (fun _ => hforward) _).mp ⟨r, hr, rfl⟩
    have hmay' := (h'.exists_mayGive_iff hcwd' hplain' (fun _ => hforward) _).mp ⟨r', hr', rfl⟩
    rw [honce.eq_ofText? hmay, henvironment]
    exact ((henvironment ▸ honce).eq_ofText? hmay').symm

/-- An environment that is named like the file of all environments, with an override. -/
def soleEnvironment : Variables :=
  [("HOME", "/home"), ("QSHARP_TELEMETRY_ENV", "telemetry"),
    ("QSharp_Telemetry__Manifest", "keys.json")]

/-- A world with a text in one file. -/
def soleWorld (text : String) (place : Filesystem.Location) : World where
  files := ⟨[(["ws"], .directory), (["ws", "config"], .directory), (place, .file text.toUTF8)]⟩
  cwd := []
  environment := soleEnvironment

/-- The text is the only file of the workspace if it is read from there. -/
theorem onlyFile_workspace {text : String}
    (htext : HasText (soleWorld text ["ws", "config", "telemetry.toml"]) "ws/config/telemetry.toml"
      text) : OnlyFile (soleWorld text ["ws", "config", "telemetry.toml"]) text
        (.workspace "ws") := by
  have hname : environmentName soleEnvironment = "telemetry" := by decide +kernel
  have hglobal : globalPath? soleEnvironment =
      some "/home/.config/qsharp-telemetry/config.toml" := by decide +kernel
  refine .shared (fun path hpath => ?_) htext fun hother => absurd hname hother
  cases hglobal.symm.trans hpath
  rfl

/-- A text that gives a key and the level of a module. -/
def soleText : String := "instrumentation_key = 'key'\n[logging.modules]\nserver = 'debug'\n"

/-- The settings that the text gives there. -/
def soleSettings : Settings :=
  let default := Settings.default soleEnvironment
  { default with
    instrumentationKey := some "key"
    manifest := some "keys.json"
    logging := { default.logging with modules := [("server", "debug")] } }

/-- The file of the workspace, which is loaded twice, gives what the single file gives, in whatever
order its keys are walked. -/
theorem result_onlyFile_workspace : TextGivesOnce soleEnvironment soleText ∧
    OnlyFile (soleWorld soleText ["settings.toml"]) soleText (.file "settings.toml") ∧
    OnlyFile (soleWorld soleText ["ws", "config", "telemetry.toml"]) soleText (.workspace "ws") ∧
    ((Loading.workspace "ws").result
      (soleWorld soleText ["ws", "config", "telemetry.toml"])).toOption = some soleSettings ∧
    ∀ r, (Loading.workspace "ws").MayGive
      (soleWorld soleText ["ws", "config", "telemetry.toml"]) r →
        r.toOption = some soleSettings := by
  have honce : TextGivesOnce soleEnvironment soleText := by decide +kernel
  have hfile : OnlyFile (soleWorld soleText ["settings.toml"]) soleText (.file "settings.toml") :=
    .file (by decide +kernel) (by decide +kernel)
  have hworkspace := @onlyFile_workspace soleText (by decide +kernel)
  have hcwd : (soleWorld soleText ["settings.toml"]).files.Stands [] := ⟨by decide, by decide⟩
  have hcwd' : (soleWorld soleText ["ws", "config", "telemetry.toml"]).files.Stands [] :=
    ⟨by decide, by decide⟩
  obtain ⟨hsame, hany⟩ :=
    mayGive_iff_of_onlyFile hcwd hcwd' rfl (by decide +kernel) hfile hworkspace
  have hsettings : ((Loading.file "settings.toml").result
      (soleWorld soleText ["settings.toml"])).toOption = some soleSettings := by decide +kernel
  have hlisted := (hsame fun _ => honce.countsForward).1.symm.trans hsettings
  refine ⟨honce, hfile, hworkspace, hlisted, fun r hr => ?_⟩
  exact (hany honce _ r (mayGive_ofFiles _ _) hr).symm.trans hsettings

/-- A text whose second key means the first item of a list until its third key is set, and the
second item from then on. -/
def shiftingText : String :=
  "\"LOGGING[0]\" = true\n\"Logging[-1]\" = 'info'\n\"logging[1]\" = 'debug'\n"

/-- The layer of the text. -/
def shiftingLayer : Layer :=
  [("LOGGING[0]", .scalar none (.bool true)), ("Logging[-1]", .scalar none (.text "info")),
    ("logging[1]", .scalar none (.text "debug"))]

/-- Where the environment is named like the file of all environments a text that counts the items of
a list from its end may give settings as a file of the workspace, and fail as a single file. -/
theorem not_result_eq_of_onlyFile : ¬ ∀ (w w' : World) (text : String) (loading loading' : Loading),
    w.files.Stands w.cwd → w'.files.Stands w'.cwd → w.environment = w'.environment →
      '/' ∉ (environmentName w.environment).toList → OnlyFile w text loading →
        OnlyFile w' text loading' →
          (loading.result w).toOption = (loading'.result w').toOption := by
  intro hclaim
  have htext : HasText (soleWorld shiftingText ["settings.toml"]) "settings.toml" shiftingText := by
    decide +kernel
  have htext' : HasText (soleWorld shiftingText ["ws", "config", "telemetry.toml"])
      "ws/config/telemetry.toml" shiftingText := by decide +kernel
  have hlayer : (Toml.read shiftingText).map (Setting.ofTomlEntries none) = some shiftingLayer := by
    decide +kernel
  obtain ⟨entries, hread, hentries⟩ := Option.map_eq_some_iff.mp hlayer
  have hsame := hclaim (soleWorld shiftingText ["settings.toml"])
    (soleWorld shiftingText ["ws", "config", "telemetry.toml"]) shiftingText
    (.file "settings.toml") (.workspace "ws") ⟨by decide, by decide⟩ ⟨by decide, by decide⟩ rfl
    (by decide +kernel) (.file (by decide +kernel) htext) (onlyFile_workspace htext')
  have honce : LoadsText (soleWorld shiftingText ["settings.toml"]) shiftingText
      ((Loading.file "settings.toml").files (soleWorld shiftingText ["settings.toml"])) 1 :=
    ⟨⟨"settings.toml", .required, by decide +kernel, htext, rfl⟩, .inl rfl⟩
  have htwice : LoadsText (soleWorld shiftingText ["ws", "config", "telemetry.toml"]) shiftingText
      ((Loading.workspace "ws").files (soleWorld shiftingText ["ws", "config", "telemetry.toml"]))
      2 :=
    ⟨⟨"ws/config/telemetry.toml", .required, by decide +kernel, htext', by decide +kernel⟩,
      .inr ⟨rfl, by decide +kernel⟩⟩
  rw [Loading.result_eq, Loading.result_eq, honce.toOption_ofFiles, htwice.toOption_ofFiles,
    ofText?, ofText?, hread, Option.bind_some, Option.bind_some, textLayers, textLayers,
    hentries] at hsame
  have hfails : (ofMerged soleEnvironment (Layer.merge [defaultLayer, shiftingLayer,
      Override.layer soleEnvironment])).toOption.isSome = false := by decide +kernel
  have hloads : (ofMerged soleEnvironment (Layer.merge [defaultLayer, shiftingLayer, shiftingLayer,
      Override.layer soleEnvironment])).toOption.isSome = true := by decide +kernel
  have hboth := hfails.symm.trans ((congrArg Option.isSome hsame).trans hloads)
  cases hboth

end TelemetryGate.Settings
