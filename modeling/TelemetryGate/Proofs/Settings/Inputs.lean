import TelemetryGate.Proofs.Settings.Contents
import TelemetryGate.Proofs.Settings.Gaining
import TelemetryGate.Proofs.Settings.Walking

/-!
# What loading reads

Of the world that settings are loaded in little counts: the working directory, the files at three
paths, the values of four variables, and the variables that override settings. Worlds that agree on
this give the same reports and, where no source gives a setting twice, the same settings, however
they differ elsewhere. Where a source does, the orders in which tables are walked decide what comes
out; what may come out is the same in both worlds if they list the variables in the same order, or
if no two of them override the same key.
-/

namespace TelemetryGate.Settings

open Filesystem (Path.join)

/-! ## Variables -/

/-- A variable that loading reads: one of four, or one whose name starts like those of the
overrides, in either case. -/
def isInput (name : String) : Bool :=
  ["HOME", "XDG_CONFIG_HOME", "XDG_STATE_HOME", environmentVariable].contains name ||
    Text.startsWith (Text.lower name) Override.nameStart

/-- The variables that loading reads. -/
def inputs (v : Variables) : Variables := v.filter fun e => isInput e.1

theorem get?_inputs {v : Variables} {name : String} (h : isInput name = true) :
    (inputs v).get? name = v.get? name := by
  rw [inputs, Entries.get?_filter, if_pos h]

/-- What overrides a setting is read. -/
theorem isInput_of_key? {name key : String} (h : Override.key? name = some key) :
    isInput name = true := by
  obtain ⟨rest, hrest, -⟩ := Option.map_eq_some_iff.mp h
  rw [isInput, Bool.or_eq_true, Text.startsWith, hrest]
  exact .inr rfl

/-- What overrides settings is among the variables that loading reads. -/
theorem entries_inputs (v : Variables) : Override.entries (inputs v) = Override.entries v := by
  rw [Override.entries, Override.entries, inputs, List.filterMap_filter]
  congr 1
  funext e
  split
  · rfl
  · rename_i hname
    cases hkey : Override.key? e.1 with
    | none => rfl
    | some key => exact absurd (isInput_of_key? hkey) hname

/-- Environments that list the variables that loading reads in the same order give the same
overrides. -/
theorem layer_congr {v v' : Variables} (h : inputs v = inputs v') :
    Override.layer v = Override.layer v' := by
  change Entries.ofList (Override.entries v) = Entries.ofList (Override.entries v')
  rw [← entries_inputs v, h, entries_inputs]

section SameValues

variable {v v' : Variables} (h : ∀ name, isInput name → v.get? name = v'.get? name)
include h

/-- Environments that name no variable twice list the same variables among those that are read, if
the values of these are the same. -/
theorem inputs_perm (hnames : (v.map (·.1)).Nodup) (hnames' : (v'.map (·.1)).Nodup) :
    (inputs v).Perm (inputs v') := by
  have hnodup : (inputs v).Nodup := hnames.of_map.filter _
  have hnodup' : (inputs v').Nodup := hnames'.of_map.filter _
  refine (List.perm_ext_iff_of_nodup hnodup hnodup').mpr ?_
  rintro ⟨name, value⟩
  rw [inputs, inputs, List.mem_filter, List.mem_filter]
  refine and_congr_left fun hname => ?_
  rw [← Entries.get?_eq_some_iff_of_nodup hnames, ← Entries.get?_eq_some_iff_of_nodup hnames',
    h name hname]

/-- In whatever order variables are listed, they give the same overrides, if no two of them override
the same key. -/
theorem layer_of_keys (hnames : (v.map (·.1)).Nodup) (hnames' : (v'.map (·.1)).Nodup)
    (hkeys : ((Override.entries v).map (·.1)).Nodup) : Override.layer v = Override.layer v' := by
  have hentries : (Override.entries v).Perm (Override.entries v') := by
    rw [← entries_inputs v, ← entries_inputs v']
    exact (inputs_perm h hnames hnames').filterMap _
  exact Entries.ofList_perm hkeys hentries

theorem globalPath?_congr : globalPath? v = globalPath? v' := by
  have hhome := h "HOME" (by decide)
  have hconfig := h "XDG_CONFIG_HOME" (by decide)
  rw [globalPath?, globalPath?, hhome, hconfig]

theorem environmentName_congr : environmentName v = environmentName v' := by
  rw [environmentName, environmentName, h environmentVariable (by decide)]

theorem default_congr : LogSettings.default v = LogSettings.default v' := by
  have hhome := h "HOME" (by decide)
  have hstate := h "XDG_STATE_HOME" (by decide)
  rw [LogSettings.default, LogSettings.default, defaultLogFile, defaultLogFile, hhome, hstate]

/-- Settings are read with the same defaults. -/
theorem layout_congr : Settings.layout v Setting.Decoder.format =
    Settings.layout v' Setting.Decoder.format := by
  rw [Settings.layout, Settings.layout, Settings.fields, Settings.fields, LogSettings.layout,
    LogSettings.layout, Settings.default, Settings.default, default_congr h]

theorem ofMerged_congr (merged : Setting) : ofMerged v merged = ofMerged v' merged := by
  rw [ofMerged, ofMerged, layout_congr h]

theorem MayRead.congr {merged : Setting} {r : Except Fault Settings} (hr : MayRead v merged r) :
    MayRead v' merged r := by
  cases hr with
  | fault hwalked hread => exact .fault hwalked (layout_congr h ▸ hread)
  | read hwalked hread hmodules => exact .read hwalked (layout_congr h ▸ hread) hmodules

end SameValues

/-! ## Files -/

/-- The bytes of the file at a path, if a file stands there. -/
def fileAt? (w : World) (path : String) : Option ByteArray :=
  match w.files.lookup w.cwd path with
  | .ok (.file content) => some content
  | _ => none

theorem fileAt?_eq_some_iff {w : World} {path : String} {content : ByteArray} :
    fileAt? w path = some content ↔ w.files.lookup w.cwd path = .ok (.file content) := by
  rw [fileAt?]
  split
  · rename_i found hfound
    simp [hfound]
  · rename_i hnot
    simpa using hnot content

theorem isFile_eq_isSome (w : World) (path : String) :
    w.files.isFile w.cwd path = (fileAt? w path).isSome := by
  rw [Filesystem.Tree.isFile, fileAt?]
  cases w.files.lookup w.cwd path with
  | error fault => rfl
  | ok node => cases node <;> rfl

/-- What is there and no directory is a file. -/
theorem exists?_eq_isSome {w : World} {path : String}
    (h : w.files.lookup w.cwd path ≠ .ok .directory) :
    w.files.exists? w.cwd path = (fileAt? w path).isSome := by
  rw [Filesystem.Tree.exists?, fileAt?]
  cases hlookup : w.files.lookup w.cwd path with
  | error fault => rfl
  | ok node =>
    cases node with
    | file content => rfl
    | directory => exact absurd hlookup h

section TwoWorlds

variable {w w' : World} (hcwd : w.cwd = w'.cwd)
include hcwd

theorem cwdPath_congr : cwdPath w = cwdPath w' := by rw [cwdPath, cwdPath, hcwd]

/-- What is found at the same place with the same text gives the same layer or the same fault. -/
theorem fileLayer_of_locate {path : String} (hlocate : locate w path = locate w' path)
    (hread : ∀ l, locate w' path = .ok l →
      w.files.readText w.cwd l.path = w'.files.readText w'.cwd l.path) (demand : Demand) :
    fileLayer w demand path = fileLayer w' demand path := by
  unfold fileLayer
  rw [hlocate]
  cases hl : locate w' path with
  | error fault => cases demand <;> rfl
  | ok l =>
    have horigin : l.origin w = l.origin w' := by rw [Located.origin, Located.origin, hcwd]
    simp only [bind, Except.bind, hread l hl]
    cases w'.files.readText w'.cwd l.path with
    | error fault => cases demand <;> rfl
    | ok source => exact congrArg (layerOf l.format · source) horigin

variable (hstands : w.files.Stands w.cwd) (hstands' : w'.files.Stands w'.cwd)
include hstands hstands'

/-- Files with the same bytes at the same path give the same layer or the same fault. -/
theorem fileLayer_congr {dir name : String} {content : ByteArray}
    (h : w.files.lookup w.cwd (Path.join dir (name ++ ".toml")) = .ok (.file content))
    (h' : w'.files.lookup w'.cwd (Path.join dir (name ++ ".toml")) = .ok (.file content))
    (demand : Demand) : fileLayer w demand (Path.join dir (name ++ ".toml")) =
      fileLayer w' demand (Path.join dir (name ++ ".toml")) := by
  have hpath := cwdPath_congr hcwd
  by_cases hlong : Overlong w (Path.join dir (name ++ ".toml"))
  · -- The file is not found from the root in either world.
    have hlong' : Overlong w' (Path.join dir (name ++ ".toml")) := by
      unfold Overlong at hlong ⊢
      rwa [← hpath]
    have hmissing' := locate_of_overlong hlong'
    refine fileLayer_of_locate hcwd ((locate_of_overlong hlong).trans hmissing'.symm) ?_ demand
    intro l hl
    rw [hmissing'] at hl
    cases hl
  · have hlong' : ¬ Overlong w' (Path.join dir (name ++ ".toml")) := by
      unfold Overlong at hlong ⊢
      rwa [← hpath]
    have hroot := lookup_file_from_root hstands h hlong
    have hroot' := lookup_file_from_root hstands' h' hlong'
    generalize Path.join dir (name ++ ".toml") = path at *
    have hfile : w.files.isFile w.cwd (Path.join (cwdPath w) path) = true := by
      rw [Filesystem.Tree.isFile, hroot]
    have hfile' : w'.files.isFile w'.cwd (Path.join (cwdPath w') path) = true := by
      rw [Filesystem.Tree.isFile, hroot']
    have hlocate' := locate_of_isFile hfile'
    refine fileLayer_of_locate hcwd ?_ ?_ demand
    · rw [locate_of_isFile hfile, hlocate', hpath]
    · intro l hl
      have hl : l.path = Path.join (cwdPath w') path := by
        rw [hlocate'] at hl
        split at hl
        · cases hl
          rfl
        · cases hl
      rw [hl, Filesystem.Tree.readText, Filesystem.Tree.readText, hroot', ← hpath, hroot]

end TwoWorlds

/-- Of a workspace its files are loaded, all required. -/
theorem exists_of_mem_workspaceSource {w : World} {root : String} {file : String × Demand}
    (h : file ∈ (workspaceSource w root).1) :
    ∃ path ∈ workspaceFiles w root (environmentName w.environment), file = (path, .required) := by
  delta workspaceSource at h
  cases hfiles : workspaceFiles w root (environmentName w.environment) with
  | nil => simp [hfiles] at h
  | cons path rest =>
    simp only [hfiles] at h
    obtain ⟨path, hpath, rfl⟩ := List.mem_map.mp h
    exact ⟨path, hpath, rfl⟩

theorem fileLayers_congr {w w' : World} {files : List (String × Demand)}
    (h : ∀ file ∈ files, fileLayer w file.2 file.1 = fileLayer w' file.2 file.1) :
    fileLayers w files = fileLayers w' files := by
  induction files with
  | nil => rfl
  | cons file rest ih =>
    have hrest := ih fun other hother => h other (List.mem_cons_of_mem _ hother)
    rw [fileLayers, fileLayers] at hrest
    rw [fileLayers, fileLayers, List.mapM_cons, List.mapM_cons, h file List.mem_cons_self, hrest]

/-- Files that give the same layers in two worlds may give the same settings, if these give the same
defaults and overrides. -/
theorem MayGive.congr {w w' : World} {files files' : List (String × Demand)}
    (h : ∀ name, isInput name → w.environment.get? name = w'.environment.get? name)
    (hfiles : fileLayers w files = fileLayers w' files')
    (hoverrides : Override.layer w.environment = Override.layer w'.environment)
    {r : Except Fault Settings} (hr : MayGive w files r) : MayGive w' files' r := by
  cases hr with
  | fault hfault => exact .fault (hfiles ▸ hfault)
  | merged hfound hwalked hread =>
    exact .merged (hfiles ▸ hfound) (hoverrides ▸ hwalked) (hread.congr h)

/-! ## Loading -/

/-- Two worlds agree on what loading the settings of a workspace reads. -/
structure AgreeOn (root : String) (w w' : World) : Prop where
  /-- They have the same working directory, which stands in both. -/
  cwd : w.cwd = w'.cwd
  stands : w.files.Stands w.cwd
  stands' : w'.files.Stands w'.cwd
  /-- Neither names a variable twice. -/
  names : (w.environment.map (·.1)).Nodup
  names' : (w'.environment.map (·.1)).Nodup
  /-- The variables that loading reads have the same values. -/
  environment : ∀ name, isInput name → w.environment.get? name = w'.environment.get? name
  /-- No directory has the path of the user's file, and a file with the same bytes in both worlds,
  if any. -/
  user : ∀ path, globalPath? w.environment = some path →
    w.files.lookup w.cwd path ≠ .ok .directory ∧ w'.files.lookup w'.cwd path ≠ .ok .directory ∧
      fileAt? w path = fileAt? w' path
  /-- The files of the workspace are there in both worlds or in none, with the same bytes. -/
  workspace : ∀ path ∈ workspaceCandidates root (environmentName w.environment),
    fileAt? w path = fileAt? w' path

namespace AgreeOn

variable {root : String} {w w' : World} (h : AgreeOn root w w')
include h

/-- The user's file is there in both worlds or in none. -/
theorem globalSource_eq : globalSource w = globalSource w' := by
  rw [globalSource, globalSource, ← globalPath?_congr h.environment]
  cases hpath : globalPath? w.environment with
  | none => rfl
  | some path =>
    obtain ⟨hnot, hnot', hsame⟩ := h.user path hpath
    simp only [exists?_eq_isSome hnot, exists?_eq_isSome hnot', hsame]

theorem workspaceFiles_eq : workspaceFiles w root (environmentName w.environment) =
    workspaceFiles w' root (environmentName w.environment) := by
  rw [workspaceFiles, workspaceFiles]
  refine List.filter_congr fun path hpath => ?_
  rw [isFile_eq_isSome, isFile_eq_isSome, h.workspace path hpath]

theorem workspaceSource_eq : workspaceSource w root = workspaceSource w' root := by
  delta workspaceSource
  simp only [← environmentName_congr h.environment, h.workspaceFiles_eq]

/-- The user's file gives the same in both worlds. -/
theorem fileLayer_user {file : String × Demand} (hmem : file ∈ (globalSource w').1) :
    fileLayer w file.2 file.1 = fileLayer w' file.2 file.1 := by
  rw [globalSource, ← globalPath?_congr h.environment] at hmem
  cases hpath : globalPath? w.environment with
  | none => simp [hpath] at hmem
  | some path =>
    obtain ⟨hnot, hnot', hsame⟩ := h.user path hpath
    obtain ⟨dir, hdir⟩ := exists_globalPath? hpath
    simp only [hpath, exists?_eq_isSome hnot'] at hmem
    cases hcontent : fileAt? w' path with
    | none => simp [hcontent] at hmem
    | some content =>
      simp only [hcontent, Option.isSome_some, if_true, List.mem_singleton] at hmem
      rw [hmem]
      have hfile := fileAt?_eq_some_iff.mp (hsame.trans hcontent)
      have hfile' := fileAt?_eq_some_iff.mp hcontent
      have hname : path = Path.join dir ("config" ++ ".toml") := hdir
      rw [hname] at hfile hfile' ⊢
      exact fileLayer_congr h.cwd h.stands h.stands' hfile hfile' .tolerant

/-- A file of the workspace gives the same in both worlds. -/
theorem fileLayer_workspace {file : String × Demand}
    (hmem : file ∈ (workspaceSource w' root).1) :
    fileLayer w file.2 file.1 = fileLayer w' file.2 file.1 := by
  obtain ⟨path, hpath, rfl⟩ := exists_of_mem_workspaceSource hmem
  rw [workspaceFiles, ← environmentName_congr h.environment] at hpath
  obtain ⟨hcandidate, hfound⟩ := List.mem_filter.mp hpath
  have hname : ∃ dir name, path = Path.join dir (name ++ ".toml") := by
    rcases List.mem_cons.mp hcandidate with hshared | hown
    · exact ⟨_, "telemetry", hshared⟩
    · exact ⟨_, _, List.mem_singleton.mp hown⟩
  rw [isFile_eq_isSome] at hfound
  obtain ⟨content, hcontent⟩ := Option.isSome_iff_exists.mp hfound
  have hfile := fileAt?_eq_some_iff.mp ((h.workspace path hcandidate).trans hcontent)
  have hfile' := fileAt?_eq_some_iff.mp hcontent
  obtain ⟨dir, name, hname⟩ := hname
  rw [hname] at hfile hfile' ⊢
  exact fileLayer_congr h.cwd h.stands h.stands' hfile hfile' .required

/-- The same files are loaded. -/
theorem files_eq : (Loading.workspace root).files w = (Loading.workspace root).files w' := by
  rw [Loading.files, Loading.files, h.globalSource_eq, h.workspaceSource_eq]

/-- Every file that is loaded gives the same in both worlds. -/
theorem fileLayers_eq : fileLayers w ((Loading.workspace root).files w) =
    fileLayers w' ((Loading.workspace root).files w') := by
  rw [h.files_eq]
  refine fileLayers_congr fun file hfile => ?_
  rcases List.mem_append.mp hfile with huser | hworkspace
  · exact h.fileLayer_user huser
  · exact h.fileLayer_workspace hworkspace

variable (hoverrides : Override.layer w.environment = Override.layer w'.environment)
include hoverrides

/-- With the same overrides, the same comes out. -/
theorem result_eq : (load w root).result = (load w' root).result := by
  change ofFiles w ((Loading.workspace root).files w) =
    ofFiles w' ((Loading.workspace root).files w')
  rw [ofFiles, ofFiles, h.fileLayers_eq, hoverrides]
  exact congrArg _ (funext fun layers => ofMerged_congr h.environment _)

/-- With the same overrides, the same may come out. -/
theorem mayLoad_iff {r : Except Fault Settings} : MayLoad w root r ↔ MayLoad w' root r :=
  ⟨fun hr => MayGive.congr h.environment h.fileLayers_eq hoverrides hr,
    fun hr => MayGive.congr (fun name hname => (h.environment name hname).symm)
      h.fileLayers_eq.symm hoverrides.symm hr⟩

end AgreeOn

/-- In worlds that agree on what is read, loading the settings of a workspace gives the same
reports. If both list the variables in the same order, or no two variables override the same key,
the same settings and faults may come out, and do where tables are walked in the order in which
their entries stand. If no source gives a setting twice, all orders in both worlds give the same
settings, or all fail. -/
theorem load_eq_of_agreeOn {root : String} {w w' : World} (h : AgreeOn root w w') :
    (load w root).records = (load w' root).records ∧
      (inputs w.environment = inputs w'.environment ∨
          ((Override.entries w.environment).map (·.1)).Nodup →
        (load w root).result = (load w' root).result ∧
          ∀ r, MayLoad w root r ↔ MayLoad w' root r) ∧
      (GivesOnce w ((Loading.workspace root).files w) → ∀ r r', MayLoad w root r →
        MayLoad w' root r' → r.toOption = r'.toOption) := by
  have hoverrides (hvariables : inputs w.environment = inputs w'.environment ∨
      ((Override.entries w.environment).map (·.1)).Nodup) :
      Override.layer w.environment = Override.layer w'.environment := by
    obtain hlisted | hkeys := hvariables
    · exact layer_congr hlisted
    · exact layer_of_keys h.environment h.names h.names' hkeys
  refine ⟨?_, fun hvariables => ?_, fun honce r r' hr hr' => ?_⟩
  · rw [load, load, h.globalSource_eq, h.workspaceSource_eq]
  · exact ⟨h.result_eq (hoverrides hvariables), fun r => h.mayLoad_iff (hoverrides hvariables)⟩
  · have hother := (h.mayLoad_iff (hoverrides (.inr honce.overrides.keys))).mpr hr'
    exact (MayGive.toOption_eq honce hr).trans (MayGive.toOption_eq honce hother).symm

/-- A workspace in the environment of tests. -/
def plainWorld : World where
  files := ⟨[(["home"], .directory), (["home", ".config"], .directory),
    (["home", ".config", "qsharp-telemetry"], .directory),
    (["home", ".config", "qsharp-telemetry", "config.toml"],
      .file "manifest = 'keys.json'\n".toUTF8),
    (["ws"], .directory), (["ws", "config"], .directory),
    (["ws", "config", "test.toml"], .file "instrumentation_key = 'key'\n".toUTF8)]⟩
  cwd := []
  environment := [("HOME", "/home"), ("QSHARP_TELEMETRY_ENV", "test"),
    ("QSharp_Telemetry__Logging__Level", "debug")]

/-- The same workspace with the file of another environment, a manifest, a log file, and variables
that are no overrides. -/
def clutteredWorld : World where
  files := ⟨plainWorld.files.nodes ++ [
    (["ws", "config", "production.toml"], .file "enabled = false\n".toUTF8),
    (["ws", "config", "test.json"], .file "\x7b\"enabled\": false\x7d".toUTF8),
    (["keys.json"], .file "\x7b\"instrumentation_key\": \"other\"\x7d".toUTF8),
    ([".qsharp"], .directory), ([".qsharp", "telemetry.log"], .file "enabled = false\n".toUTF8)]⟩
  cwd := []
  environment := [("HOME", "/home"), ("QSHARP_TELEMETRY_ENABLED", "false"),
    ("QSHARP_TELEMETRY_ENV", "test"), ("QSHARP_TELEMETRY_LOG", "off"),
    ("QSharp_Telemetry__Logging__Level", "debug")]

/-- The settings of the plain workspace. -/
def plainSettings : Settings :=
  let default := Settings.default plainWorld.environment
  { default with
    instrumentationKey := some "key"
    manifest := some "keys.json"
    logging := { default.logging with level := "debug" } }

theorem inputs_clutteredWorld :
    inputs plainWorld.environment = inputs clutteredWorld.environment := by decide +kernel

theorem agreeOn_clutteredWorld : AgreeOn "ws" plainWorld clutteredWorld where
  cwd := rfl
  stands := ⟨by decide, by decide⟩
  stands' := ⟨by decide, by decide⟩
  names := by decide
  names' := by decide
  environment name hname := by
    rw [← get?_inputs hname, inputs_clutteredWorld, get?_inputs hname]
  user := by
    intro path hpath
    have hname : globalPath? plainWorld.environment =
        some "/home/.config/qsharp-telemetry/config.toml" := by decide +kernel
    cases hname.symm.trans hpath
    have hfile : plainWorld.files.lookup plainWorld.cwd
        "/home/.config/qsharp-telemetry/config.toml" =
          .ok (.file "manifest = 'keys.json'\n".toUTF8) := by rfl
    have hfile' : clutteredWorld.files.lookup clutteredWorld.cwd
        "/home/.config/qsharp-telemetry/config.toml" =
          .ok (.file "manifest = 'keys.json'\n".toUTF8) := by rfl
    rw [fileAt?, fileAt?, hfile, hfile']
    exact ⟨by rintro ⟨⟩, by rintro ⟨⟩, rfl⟩
  workspace := by
    intro path hpath
    rcases List.mem_cons.mp hpath with rfl | hpath
    · rfl
    · cases List.mem_singleton.mp hpath
      rfl

/-- What else stands in the workspace and among the variables has no influence: in whatever order
tables are walked, the settings are those of the plain workspace. -/
theorem load_clutteredWorld : AgreeOn "ws" plainWorld clutteredWorld ∧
    GivesOnce plainWorld ((Loading.workspace "ws").files plainWorld) ∧
    (load plainWorld "ws").result = (load clutteredWorld "ws").result ∧
    ∀ r, MayLoad clutteredWorld "ws" r → r.toOption = some plainSettings := by
  have honce : GivesOnce plainWorld ((Loading.workspace "ws").files plainWorld) := by
    decide +kernel
  obtain ⟨-, hlisted, hany⟩ := load_eq_of_agreeOn agreeOn_clutteredWorld
  refine ⟨agreeOn_clutteredWorld, honce, (hlisted (.inl inputs_clutteredWorld)).1, fun r hr => ?_⟩
  have hplain : (load plainWorld "ws").result = .ok plainSettings := by decide +kernel
  have hsame := hany honce (load plainWorld "ws").result r (mayGive_ofFiles _ _) hr
  rw [← hsame, hplain]
  rfl

/-! ## Settings given twice -/

/-- A workspace whose file gives a setting twice, in different cases. -/
def twiceWorld : World where
  files := ⟨[(["ws"], .directory), (["ws", "config"], .directory),
    (["ws", "config", "telemetry.toml"], .file "ENABLED = false
enabled = true
".toUTF8)]⟩
  cwd := []
  environment := [("HOME", "/home")]

/-- The layer of its file, walked from its end. -/
def twiceLayer : Layer :=
  [("enabled", .scalar (some "ws/config/telemetry.toml") (.bool true)),
    ("ENABLED", .scalar (some "ws/config/telemetry.toml") (.bool false))]

/-- A file that gives a setting twice may give either value, so loading it again in the same world
may give other settings. -/
theorem not_load_eq_of_agreeOn : ¬ ∀ (root : String) (w w' : World), AgreeOn root w w' →
    ∀ r r', MayLoad w root r → MayLoad w' root r' → r = r' := by
  intro hclaim
  have hagree : AgreeOn "ws" twiceWorld twiceWorld := by
    refine ⟨rfl, ⟨by decide, by decide⟩, ⟨by decide, by decide⟩, by decide, by decide,
      fun _ _ => rfl, fun path hpath => ?_, fun _ _ => rfl⟩
    have hname : globalPath? twiceWorld.environment =
        some "/home/.config/qsharp-telemetry/config.toml" := by decide +kernel
    cases hname.symm.trans hpath
    have hnone : twiceWorld.files.lookup twiceWorld.cwd
        "/home/.config/qsharp-telemetry/config.toml" = .error .notFound := by rfl
    rw [hnone]
    exact ⟨by rintro ⟨⟩, by rintro ⟨⟩, rfl⟩
  have hfiles : fileLayers twiceWorld ((Loading.workspace "ws").files twiceWorld) =
      .ok [twiceLayer.reverse] := by decide +kernel
  have hload {layer : Layer} (hlayer : Layer.Reordered twiceLayer.reverse layer) :
      MayLoad twiceWorld "ws"
        (ofMerged twiceWorld.environment (Layer.merge [defaultLayer, layer, []])) :=
    .merged hfiles (.cons .refl (.cons hlayer (.cons .refl .nil))) (mayRead_ofMerged _ _)
  have hswap : Layer.Reordered twiceLayer.reverse twiceLayer := .single (.here [] [] (by decide))
  have hsame := hclaim "ws" twiceWorld twiceWorld hagree _ _ (hload .refl) (hload hswap)
  have hon : (ofMerged twiceWorld.environment (Layer.merge [defaultLayer, twiceLayer.reverse,
      []])).toOption.map (·.enabled) = some true := by decide +kernel
  have hoff : (ofMerged twiceWorld.environment (Layer.merge [defaultLayer, twiceLayer,
      []])).toOption.map (·.enabled) = some false := by decide +kernel
  have hswitch := congrArg (fun r => r.toOption.map (·.enabled)) hsame
  exact absurd (hon.symm.trans (hswitch.trans hoff)) (by decide)

end TelemetryGate.Settings
