import TelemetryGate.Proofs.Results
import TelemetryGate.Proofs.Settings.Defaults
import TelemetryGate.Proofs.Settings.Members
import TelemetryGate.Proofs.Settings.Origins
import Mathlib.Data.List.Forall2

/-!
# Settings that are left out

Leaving a setting out is the same as giving its default: in an object of JSON text, and in the files
that settings are loaded from, as long as nothing gives a list on the way to the setting.
-/

namespace TelemetryGate

/-! ## Layers without places -/

namespace Setting

/-- What a value gives does not depend on where it comes from. -/
theorem gives_of_unplaced {path : List String} {steps : List Access} {value : Setting}
    (h : Gives path steps value.unplaced) : Gives path steps value := by
  induction path generalizing steps value with
  | nil => trivial
  | cons key path ih =>
    cases steps with
    | cons step rest =>
      cases step with
      | item i => cases h
      | key name => exact ⟨h.1, ih h.2⟩
    | nil =>
      cases value with
      | scalar _ _ => rwa [unplaced] at h
      | list _ _ => rwa [unplaced] at h
      | table origin entries =>
        rw [unplaced, unplacedEntries_eq] at h
        obtain ⟨_, he, hkey, hgives⟩ := h
        obtain ⟨e, hmem, rfl⟩ := List.mem_map.mp he
        exact ⟨e, hmem, hkey, ih hgives⟩

theorem blocks_of_unplaced {path : List String} {steps : List Access} {value : Setting}
    (h : Blocks path steps value.unplaced) : Blocks path steps value := by
  induction path generalizing steps value with
  | nil => cases h
  | cons key path ih =>
    cases steps with
    | cons step rest =>
      cases step with
      | item i => trivial
      | key name => exact ⟨h.1, ih h.2⟩
    | nil =>
      cases value with
      | scalar _ _ => rwa [unplaced] at h
      | list _ _ => trivial
      | table origin entries =>
        rw [unplaced, unplacedEntries_eq] at h
        obtain ⟨_, he, hkey, hblocks⟩ := h
        obtain ⟨e, hmem, rfl⟩ := List.mem_map.mp he
        exact ⟨e, hmem, hkey, ih hblocks⟩

end Setting

namespace Layer

variable {layer : Layer} {path : List String}

/-- A layer that does not tell where it comes from. -/
def unplaced (layer : Layer) : Layer := Entries.mapValues Setting.unplaced layer

theorem gives_of_unplaced (h : layer.unplaced.Gives path) : layer.Gives path := by
  obtain ⟨_, he, hgives⟩ := h
  obtain ⟨e, hmem, rfl⟩ := List.mem_map.mp he
  exact ⟨e, hmem, Setting.gives_of_unplaced hgives⟩

theorem blocks_of_unplaced (h : layer.unplaced.Blocks path) : layer.Blocks path := by
  obtain ⟨_, he, hblocks⟩ := h
  obtain ⟨e, hmem, rfl⟩ := List.mem_map.mp he
  exact ⟨e, hmem, Setting.blocks_of_unplaced hblocks⟩

/-- A layer gives the same as another one, or a value at a place in addition. -/
def KeepsOrGains (path : List String) (d : Setting) (layer layer' : Layer) : Prop :=
  layer'.unplaced = layer.unplaced ∨ layer.unplaced.Gains path d layer'.unplaced

end Layer

/-! ## Settings of layers -/

namespace Settings

open Json (Blank Letter Member Tree)
open Setting (Grows emptyTable)

variable {v : Variables} {path : List String} {d : Setting}

/-- The layer of defaults has the default of a setting or nothing. -/
theorem grows_defaultLayer (hpath : path ≠ []) (hd : (defaultTree v).at? path = some d) :
    Grows path d (.table none defaultLayer) (.table none defaultLayer) := by
  obtain ⟨name, rfl, hmem⟩ | ⟨name, rfl, hmem⟩ := mem_of_at?_defaultTree hpath hd
  · refine ⟨.inl rfl, ?_, rfl, fun _ _ => trivial⟩
    rw [Setting.at?_singleton]
    simp only [defaultEntries, savedEntries, List.mem_cons, Prod.mk.injEq, List.not_mem_nil,
      or_false] at hmem
    rcases hmem with ⟨rfl, rfl⟩ | ⟨rfl, rfl⟩ | ⟨rfl, rfl⟩ | ⟨rfl, rfl⟩ | ⟨rfl, rfl⟩
    · exact .inr rfl
    · exact .inr rfl
    all_goals exact .inl rfl
  · refine ⟨.inl rfl, .inl rfl, rfl, ?_⟩
    rintro below ⟨⟩

theorem unplaced_tree (v : Variables) (layers : List Layer) : (tree v layers).unplaced =
    ((layers ++ [Override.layer v]).map Layer.unplaced).foldl
      (fun root layer => layer.onto root) (.table none defaultLayer) := by
  have hdefault : Entries.mapValues Setting.unplaced defaultLayer = defaultLayer := by
    simp only [defaultLayer, Entries.mapValues, List.map_cons, List.map_nil, Setting.unplaced]
  rw [tree, Layer.unplaced_merge, List.cons_append, List.map_cons, hdefault, Layer.merge,
    List.foldl_cons, onto_defaultLayer]
  rfl

/-- Layers that give nothing might as well not be there. -/
theorem tree_replicate_nil (v : Variables) (n : Nat) : tree v (List.replicate n []) = tree v [] := by
  have hnothing (root : Setting) :
      (List.replicate n ([] : Layer)).foldl (fun root layer => Layer.onto layer root) root = root := by
    induction n with
    | zero => rfl
    | succ n ih => exact ih
  rw [tree, tree, Layer.merge, Layer.merge, List.cons_append, List.cons_append, List.foldl_cons,
    List.foldl_cons, List.foldl_append, hnothing, List.nil_append]

/-- Where no layer gives a setting, and none a list on the way to it, layers that give its default in
addition amount to the same settings. -/
theorem ofMerged_of_gains (hpath : path ≠ []) (hd : (defaultTree v).at? path = some d)
    {layers layers' : List Layer}
    (hgains : List.Forall₂ (Layer.KeepsOrGains path d) layers layers')
    (hgives : ∀ layer ∈ layers ++ [Override.layer v], ¬ layer.Gives path)
    (hblocks : ∀ layer ∈ layers ++ [Override.layer v], ¬ layer.Blocks path) {s : Settings}
    (h : ofMerged v (tree v layers) = .ok s) : ofMerged v (tree v layers') = .ok s := by
  obtain ⟨hread, hvalid⟩ := layout_of_ofMerged h
  have hgrows : Grows path d (tree v layers).unplaced (tree v layers').unplaced := by
    rw [unplaced_tree, unplaced_tree]
    refine Layer.grows_foldl (lower_of_at?_defaultTree hpath hd) ?_ ?_ ?_
      (grows_defaultLayer hpath hd)
    · rw [List.forall₂_map_left_iff, List.forall₂_map_right_iff]
      exact List.rel_append hgains (.cons (.inl rfl) .nil)
    · intro _ hlayer h
      obtain ⟨layer, hmem, rfl⟩ := List.mem_map.mp hlayer
      exact hgives layer hmem (Layer.gives_of_unplaced h)
    · intro _ hlayer h
      obtain ⟨layer, hmem, rfl⟩ := List.mem_map.mp hlayer
      exact hblocks layer hmem (Layer.blocks_of_unplaced h)
  have hplain := (ignoresPlaces_layout v).eq_ok_iff.mpr hread
  have hplain' : layout v Setting.Decoder.format (tree v layers').unplaced = .ok s := by
    rcases hgrows.sets with hsame | hset
    · rw [hsame, hplain]
    · have htable : (tree v layers).unplaced.isTable := by
        rw [tree, Layer.unplaced_merge]
        exact Layer.isTable_merge _
      have hordered : (tree v layers).unplaced.Ordered := by
        rw [tree, Layer.unplaced_merge]
        exact Layer.ordered_merge _
      rw [hset]
      exact layout_setBelow hpath hd htable hordered hgrows.vacant hgrows.free hplain
  exact ofMerged_eq_ok ((ignoresPlaces_layout v).eq_ok_iff.mp hplain') hvalid

/-! ## Settings of files -/

namespace Loading

variable {w w' : World} {loading : Loading} {s : Settings}

/-- A source of settings gives a layer: one of the files that they are loaded from, or the
environment. -/
def Source (w : World) (loading : Loading) (layer : Layer) : Prop :=
  (∃ file ∈ loading.files w, fileLayer w file.2 file.1 = .ok layer) ∨
    layer = Override.layer w.environment

/-- The files of a world give a value at a place in addition to what those of another world give. -/
inductive GivesMore (loading : Loading) (path : List String) (d : Setting) (w w' : World) : Prop
  /-- The lowest file gives it. Another path may lead to that file too. -/
  | lowest {file : String × Demand} {rest : List (String × Demand)} {layer layer' : Layer}
    (henvironment : w'.environment = w.environment) (hfiles : loading.files w = file :: rest)
    (hfiles' : loading.files w' = file :: rest)
    (hlayer : fileLayer w file.2 file.1 = .ok layer)
    (hlayer' : fileLayer w' file.2 file.1 = .ok layer')
    (hgains : layer.unplaced.Gains path d layer'.unplaced)
    (hrest : ∀ other ∈ rest, ∀ found, fileLayer w other.2 other.1 = .ok found →
      ∃ found', fileLayer w' other.2 other.1 = .ok found' ∧ found.KeepsOrGains path d found')
  /-- There are no files, and then the user's file gives it. -/
  | user {user : String} (henvironment : w'.environment = w.environment)
    (hfiles : loading.files w = []) (huser : globalPath? w.environment = some user)
    (hmem : (user, .tolerant) ∈ loading.files w')
    (hlayers : ∀ file ∈ loading.files w', ∃ layer, fileLayer w' file.2 file.1 = .ok layer ∧
      Layer.Gains path d [] layer.unplaced)

/-- If the layer of every file keeps or gains, the files have layers that do. -/
theorem exists_fileLayers {files : List (String × Demand)} {layers : List Layer}
    (h : fileLayers w files = .ok layers)
    (heach : ∀ file ∈ files, ∀ found, fileLayer w file.2 file.1 = .ok found →
      ∃ found', fileLayer w' file.2 file.1 = .ok found' ∧ found.KeepsOrGains path d found') :
    ∃ layers', fileLayers w' files = .ok layers' ∧
      List.Forall₂ (Layer.KeepsOrGains path d) layers layers' := by
  induction files generalizing layers with
  | nil =>
    cases h
    exact ⟨[], rfl, .nil⟩
  | cons file rest ih =>
    obtain ⟨hfirst, hmore⟩ := List.forall_mem_cons.mp heach
    obtain ⟨found, more, hfound, hrest, rfl⟩ := mapM_cons_eq_ok_iff.mp h
    obtain ⟨found', hfound', hgains⟩ := hfirst found hfound
    obtain ⟨more', hrest', hgainsRest⟩ := ih hrest hmore
    exact ⟨found' :: more', mapM_cons_eq_ok_iff.mpr ⟨found', more', hfound', hrest', rfl⟩,
      .cons hgains hgainsRest⟩

/-- If the layer of every file gains on nothing, the files have layers that do. -/
theorem exists_fileLayers_of_gains {files : List (String × Demand)}
    (heach : ∀ file ∈ files, ∃ layer, fileLayer w' file.2 file.1 = .ok layer ∧
      Layer.Gains path d [] layer.unplaced) :
    ∃ layers', fileLayers w' files = .ok layers' ∧
      List.Forall₂ (Layer.KeepsOrGains path d) (List.replicate files.length []) layers' := by
  induction files with
  | nil => exact ⟨[], rfl, .nil⟩
  | cons file rest ih =>
    obtain ⟨⟨layer, hlayer, hgains⟩, hmore⟩ := List.forall_mem_cons.mp heach
    obtain ⟨more, hrest, hgainsRest⟩ := ih hmore
    exact ⟨layer :: more, mapM_cons_eq_ok_iff.mpr ⟨layer, more, hlayer, hrest, rfl⟩,
      .cons (.inr hgains) hgainsRest⟩

theorem result_eq_ok_iff_ofMerged : loading.result w = .ok s ↔ ∃ layers,
    fileLayers w (loading.files w) = .ok layers ∧
      ofMerged w.environment (tree w.environment layers) = .ok s := by
  rw [result_eq]
  exact bind_eq_ok_iff

/-- The layers that settings are loaded from are those of sources. -/
theorem source_of_mem {layers : List Layer}
    (hlayers : fileLayers w (loading.files w) = .ok layers) {layer : Layer}
    (hmem : layer ∈ layers ++ [Override.layer w.environment]) : loading.Source w layer := by
  rcases List.mem_append.mp hmem with hmem | hmem
  · exact .inl (exists_file_of_mem hlayers hmem)
  · exact .inr (List.mem_singleton.mp hmem)

/-- Where no source gives a setting, and none a list on the way to it, the lowest file may give its
default in addition. -/
theorem result_of_givesMore (hpath : path ≠ [])
    (hd : (defaultTree w.environment).at? path = some d)
    (hgives : ∀ layer, loading.Source w layer → ¬ layer.Gives path)
    (hblocks : ∀ layer, loading.Source w layer → ¬ layer.Blocks path)
    (hmore : loading.GivesMore path d w w') (h : loading.result w = .ok s) :
    loading.result w' = .ok s := by
  obtain ⟨layers, hlayers, hmerged⟩ := result_eq_ok_iff_ofMerged.mp h
  have hsource (layer : Layer) (hmem : layer ∈ layers ++ [Override.layer w.environment]) :
      loading.Source w layer := source_of_mem hlayers hmem
  cases hmore with
  | @lowest file rest layer layer' henvironment hfiles hfiles' hlayer hlayer' hgains hrest =>
    have heach : ∀ other ∈ loading.files w, ∀ found, fileLayer w other.2 other.1 = .ok found →
        ∃ found', fileLayer w' other.2 other.1 = .ok found' ∧
          found.KeepsOrGains path d found' := by
      rw [hfiles]
      refine List.forall_mem_cons.mpr ⟨fun found hfound => ?_, hrest⟩
      obtain rfl := Except.ok.inj (hlayer.symm.trans hfound)
      exact ⟨layer', hlayer', .inr hgains⟩
    obtain ⟨layers', hlayers', hforall⟩ := exists_fileLayers hlayers heach
    rw [hfiles, ← hfiles'] at hlayers'
    refine result_eq_ok_iff_ofMerged.mpr ⟨layers', hlayers', ?_⟩
    rw [henvironment]
    exact ofMerged_of_gains hpath hd hforall (fun layer hmem => hgives layer (hsource layer hmem))
      (fun layer hmem => hblocks layer (hsource layer hmem)) hmerged
  | user henvironment hfiles _ _ hnew =>
    obtain rfl : layers = [] := by
      rw [hfiles] at hlayers
      exact (Except.ok.inj hlayers).symm
    obtain ⟨layers', hlayers', hforall⟩ := exists_fileLayers_of_gains hnew
    refine result_eq_ok_iff_ofMerged.mpr ⟨layers', hlayers', ?_⟩
    rw [henvironment]
    rw [← tree_replicate_nil _ (loading.files w').length] at hmerged
    -- Besides the environment there are layers without entries only.
    have hquiet (layer : Layer) (hmem : layer ∈ List.replicate (loading.files w').length [] ++
        [Override.layer w.environment]) : ¬ layer.Gives path ∧ ¬ layer.Blocks path := by
      rcases List.mem_append.mp hmem with hmem | hmem
      · rw [List.eq_of_mem_replicate hmem]
        exact ⟨fun ⟨_, he, _⟩ => List.not_mem_nil he, fun ⟨_, he, _⟩ => List.not_mem_nil he⟩
      · have henvironment := hsource layer (List.mem_append_right _ hmem)
        exact ⟨hgives layer henvironment, hblocks layer henvironment⟩
    exact ofMerged_of_gains hpath hd hforall (fun layer hmem => (hquiet layer hmem).1)
      (fun layer hmem => (hquiet layer hmem).2) hmerged

end Loading

/-! ## Leaving out and giving defaults -/

/-- The members of an object that gives the address and the level of the log. -/
def fewMembers : List (Member Tree) :=
  [Tree.compactMember ("endpoint", .ofText "e"),
    Tree.compactMember ("logging", .compact [("level", .ofText "warn")])]

/-- The settings of the object. -/
def fewSettings : Settings :=
  { Settings.default [] with
    endpoint := "e", logging := { LogSettings.default [] with level := "warn" } }

/-- A workspace with a file that gives the level of the log and something more. -/
def briefWorld (more : String) : World where
  files := ⟨[(["ws"], .directory), (["ws", "config"], .directory),
    (["ws", "config", "telemetry.toml"],
      .file ("[Logging]\n" ++ more ++ "level = 'debug'\n").toUTF8)]⟩
  cwd := []
  environment := []

/-- The layer of the file. -/
def briefLayer (more : List (String × Setting)) : Layer :=
  [("Logging", .table (some "ws/config/telemetry.toml")
    (more ++ [("level", .scalar (some "ws/config/telemetry.toml") (.text "debug"))]))]

/-- The settings of the workspace. -/
def briefSettings : Settings :=
  { Settings.default [] with logging := { LogSettings.default [] with level := "debug" } }

/-- A workspace that gives the log as a list. The file of its environment, above the list, is the
user's file too. -/
def sharedWorld (text : String) : World where
  files := ⟨[(["ws"], .directory), (["ws", "config"], .directory),
    (["ws", "config", "qsharp-telemetry"], .directory),
    (["ws", "config", "qsharp-telemetry", "config.toml"], .file text.toUTF8),
    (["ws", "config", "telemetry.toml"], .file "logging = [false]\n".toUTF8)]⟩
  cwd := []
  environment := [("XDG_CONFIG_HOME", "/ws/config"),
    (environmentVariable, "qsharp-telemetry/config")]

/-- Its settings. -/
def sharedSettings : Settings :=
  let default := Settings.default (sharedWorld "").environment
  { default with logging := { default.logging with enabled := false } }

/-- The text that gives the level of the log its default. -/
def sharedText : String := "[logging]\nlevel = 'info'\n"

/-- The layer of the text. -/
def sharedLayer : Layer :=
  let place := some "ws/config/qsharp-telemetry/config.toml"
  [("logging", .table place [("level", .scalar place (.text "info"))])]

/-- The layer that gives the log as a list. -/
def listLayer : Layer :=
  let place := some "ws/config/telemetry.toml"
  [("logging", .list place [.scalar place (.bool false)])]

/-- The files that settings are loaded from, whatever text the shared one has. -/
def sharedFiles : List (String × Demand) :=
  [("ws/config/telemetry.toml", .required), ("ws/config/qsharp-telemetry/config.toml", .required)]

end Settings

end TelemetryGate
