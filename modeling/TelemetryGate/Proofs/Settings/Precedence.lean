import TelemetryGate.Proofs.Settings.Files
import TelemetryGate.Proofs.Settings.Layers
import TelemetryGate.Proofs.Settings.Records

/-!
# The precedence of sources

Loading the settings of a workspace reads each setting from the last source that gives it: the
user's file, the two files of the workspace and the environment, in this order. A source that gives
some settings leaves all others as they were, down to the single modules of the log.
-/

namespace TelemetryGate

open Filesystem (Path.join)

/-- What the last of some sources that gives something at a place gives there. -/
def lastGiven (sources : List (List String → Option Setting)) (path : List String) :
    Option Setting :=
  sources.foldl (fun given gives => (gives path).or given) none

namespace Setting.Decoder

variable {α : Type}

/-- A default that is given below everything else does not count as given. -/
theorem Reads.of_or {d : Decoder α} {given below : Option Setting} {default a : α}
    (hbelow : ∀ s, below = some s → d s = .ok default) (h : Reads d (given.or below) default a) :
    Reads d given default a := by
  cases given with
  | some s => exact h
  | none =>
    cases below with
    | none => exact h
    | some s =>
      rw [Option.none_or, Reads, hbelow s rfl] at h
      exact (Except.ok.inj h).symm

end Setting.Decoder

open Setting.Decoder

/-- Settings that are read from where they stand are read from what is told of these places. -/
theorem Settings.ReadFrom.agree {s default : Settings} {got told : List String → Option Setting}
    (h : s.ReadFrom default got)
    (hagrees : ∀ path, IsSetting path → Setting.Agrees (got path) (told path)) :
    s.ReadFrom default told where
  enabled := rejectsCompound_flag.reads (hagrees _ (isSetting_top _)) h.enabled
  instrumentationKey :=
    rejectsCompound_text.optional.reads (hagrees _ (isSetting_top _)) h.instrumentationKey
  endpoint := rejectsCompound_text.reads (hagrees _ (isSetting_top _)) h.endpoint
  manifest := rejectsCompound_text.optional.reads (hagrees _ (isSetting_top _)) h.manifest
  logging :=
    { enabled := rejectsCompound_flag.reads (hagrees _ (isSetting_logging _)) h.logging.enabled
      level := rejectsCompound_text.reads (hagrees _ (isSetting_logging _)) h.logging.level
      format := rejectsCompound_text.reads (hagrees _ (isSetting_logging _)) h.logging.format
      output := rejectsCompound_text.reads (hagrees _ (isSetting_logging _)) h.logging.output
      file := rejectsCompound_text.reads (hagrees _ (isSetting_logging _)) h.logging.file
      color := rejectsCompound_flag.reads (hagrees _ (isSetting_logging _)) h.logging.color
      modules := fun name => rejectsCompound_text.some.reads (hagrees _ (isSetting_module name))
        (h.logging.modules name) }

/-- The layer of defaults gives what the record has by default. -/
theorem Settings.ReadFrom.of_defaultLayer {s : Settings} {v : Variables}
    {given : List String → Option Setting}
    (h : s.ReadFrom (.default v) fun path => (given path).or (Layer.gives? defaultLayer path)) :
    s.ReadFrom (.default v) given where
  enabled := h.enabled.of_or (by rintro _ ⟨⟩; rfl)
  instrumentationKey := h.instrumentationKey.of_or (by rintro _ ⟨⟩)
  endpoint := h.endpoint.of_or (by rintro _ ⟨⟩; rfl)
  manifest := h.manifest.of_or (by rintro _ ⟨⟩)
  logging :=
    { enabled := h.logging.enabled.of_or (by rintro _ ⟨⟩)
      level := h.logging.level.of_or (by rintro _ ⟨⟩)
      format := h.logging.format.of_or (by rintro _ ⟨⟩)
      output := h.logging.output.of_or (by rintro _ ⟨⟩)
      file := h.logging.file.of_or (by rintro _ ⟨⟩)
      color := h.logging.color.of_or (by rintro _ ⟨⟩)
      modules := fun name => (h.logging.modules name).of_or (by rintro _ ⟨⟩) }

namespace Settings

/-- What the settings files of a workspace give. -/
structure FileSources (w : World) (root : String) (user shared own : Layer) : Prop where
  /-- The user's file, for which there may be no place. -/
  user : match globalPath? w.environment with
    | none => user = []
    | some path => FileGives w path user
  /-- The file of all environments. -/
  shared : FileGives w (Path.join (Path.join root "config") "telemetry.toml") shared
  /-- The file of the workspace's own environment. -/
  own : FileGives w
    (Path.join (Path.join root "config") (environmentName w.environment ++ ".toml")) own

/-- The files of a workspace are all required. -/
theorem workspaceSource_files (w : World) (root : String) : (workspaceSource w root).1 =
    (workspaceFiles w root (environmentName w.environment)).map (·, .required) := by
  delta workspaceSource
  dsimp only
  cases workspaceFiles w root (environmentName w.environment) with
  | nil => rfl
  | cons path rest => rfl

/-- The result of loading comes from the user's file and the files of the workspace. -/
theorem load_result (w : World) (root : String) : (load w root).result =
    ofFiles w ((globalSource w).1 ++
      (workspaceFiles w root (environmentName w.environment)).map (·, .required)) := by
  change ofFiles w ((globalSource w).1 ++ (workspaceSource w root).1) = _
  rw [workspaceSource_files]

/-- The files of a workspace are the one of all environments and the one of its own environment. -/
theorem workspaceFiles_split (w : World) (root environment : String) :
    (workspaceFiles w root environment).map (·, Demand.required) =
      ([Path.join (Path.join root "config") ("telemetry" ++ ".toml")].filter fun path =>
          w.files.isFile w.cwd path).map (·, .required) ++
        ([Path.join (Path.join root "config") (environment ++ ".toml")].filter fun path =>
          w.files.isFile w.cwd path).map (·, .required) := by
  rw [← List.map_append, ← List.filter_append]
  rfl

/-- The layers of the files, put on top of one another, do what the layers that the files give do. -/
theorem foldl_workspaceFiles {w : World} (hcwd : w.files.Stands w.cwd) {root : String}
    {user shared own : Layer} (h : FileSources w root user shared own) {layers : List Layer}
    (hlayers : fileLayers w ((globalSource w).1 ++
      (workspaceFiles w root (environmentName w.environment)).map (·, .required)) = .ok layers)
    (merged : Setting) : layers.foldl (fun root layer => layer.onto root) merged =
      own.onto (shared.onto (user.onto merged)) := by
  have hshared :
      FileGives w (Path.join (Path.join root "config") ("telemetry" ++ ".toml")) shared := h.shared
  rw [workspaceFiles_split] at hlayers
  obtain ⟨first, rest, hfirst, hrest, rfl⟩ := fileLayers_append hlayers
  obtain ⟨second, third, hsecond, hthird, rfl⟩ := fileLayers_append hrest
  have huserLayers := amountTo_globalSource hcwd h.user first hfirst
  have hsharedLayers := amountTo_workspaceFile hcwd hshared second hsecond
  have hownLayers := amountTo_workspaceFile hcwd h.own third hthird
  rw [List.foldl_append, List.foldl_append, huserLayers, hsharedLayers, hownLayers]

/-- What is read is the merger of what the sources give, each on top of the ones before. -/
theorem layout_of_load {w : World} (hcwd : w.files.Stands w.cwd) {root : String}
    {user shared own : Layer} {s : Settings}
    (hload : (load w root).result = .ok s) (h : FileSources w root user shared own) :
    Settings.layout w.environment Setting.Decoder.format
      ((Override.layer w.environment).onto (own.onto (shared.onto (user.onto
        (Layer.onto defaultLayer .emptyTable))))) = .ok s := by
  rw [load_result] at hload
  obtain ⟨layers, hlayers, hlayout⟩ := layout_of_ofFiles hload
  have hmerge : Layer.merge (defaultLayer :: layers ++ [Override.layer w.environment]) =
      (Override.layer w.environment).onto (own.onto (shared.onto (user.onto
        (Layer.onto defaultLayer .emptyTable)))) := by
    rw [Layer.merge, List.foldl_append, List.foldl_cons, List.foldl_cons, List.foldl_nil,
      foldl_workspaceFiles hcwd h hlayers]
  rwa [hmerge] at hlayout

/-- Each setting is read from the last source that gives it, and is the default if none does. -/
theorem load_reads_last {w : World} (hcwd : w.files.Stands w.cwd) {root : String}
    {user shared own : Layer} {s : Settings} (hload : (load w root).result = .ok s)
    (hsources : FileSources w root user shared own)
    (huser : user.Plain) (hshared : shared.Plain) (hown : own.Plain)
    (henv : Override.Orderly w.environment) :
    s.ReadFrom (.default w.environment)
      (lastGiven [user.gives?, shared.gives?, own.gives?, Override.gives? w.environment]) := by
  have hdefaults : Layer.Plain defaultLayer := by
    constructor
    · decide +kernel
    · decide +kernel
    · decide +kernel
  have hmerged := ((((Setting.represents_emptyTable.onto hdefaults).onto huser).onto hshared).onto
    hown).overrides henv
  have hread := readFrom_of_layout hmerged.table hmerged.ordered hmerged.logging
    (layout_of_load hcwd hload hsources)
  apply ReadFrom.of_defaultLayer
  apply hread.agree
  intro path hpath
  have hagrees := hmerged.settings path hpath
  simpa [lastGiven, Option.or_assoc] using hagrees

/-- The layer of the file at a path, if it holds TOML text. -/
def layerAt (w : World) (path : String) : Layer :=
  match w.files.readText w.cwd (Path.join (cwdPath w) path) with
  | .ok source => Setting.ofTomlEntries
      (some ((⟨Path.join (cwdPath w) path, .toml⟩ : Located).origin w)) ((Toml.read source).getD [])
  | .error _ => []

theorem fileGives_layerAt {w : World} {path source : String}
    (hsource : w.files.readText w.cwd (Path.join (cwdPath w) path) = .ok source)
    (hread : (Toml.read source).isSome) : FileGives w path (layerAt w path) := by
  obtain ⟨entries, hentries⟩ := Option.isSome_iff_exists.mp hread
  have hlayer : layerAt w path = Setting.ofTomlEntries
      (some ((⟨Path.join (cwdPath w) path, .toml⟩ : Located).origin w)) entries := by
    unfold layerAt
    rw [hsource]
    dsimp only
    rw [hentries, Option.getD_some]
  rw [hlayer]
  exact .text hsource hentries

/-- A workspace whose settings come from all four sources. -/
def layeredWorld : World where
  files := ⟨[(["home"], .directory), (["home", ".config"], .directory),
    (["home", ".config", "qsharp-telemetry"], .directory),
    (["home", ".config", "qsharp-telemetry", "config.toml"],
      .file "[logging]\nlevel = 'warn'\ncolor = false\n".toUTF8),
    (["ws"], .directory), (["ws", "config"], .directory),
    (["ws", "config", "telemetry.toml"],
      .file "[logging.modules]\na = 'debug'\nb = 'info'\n".toUTF8),
    (["ws", "config", "development.toml"], .file "logging.modules.b = 'trace'\n".toUTF8)]⟩
  cwd := []
  environment := [("HOME", "/home"), ("QSHARP_TELEMETRY__ENABLED", "0")]

/-- Its settings. -/
def layeredSettings : Settings where
  enabled := false
  instrumentationKey := none
  endpoint := defaultEndpoint
  manifest := none
  logging :=
    { enabled := true, level := "warn", format := "text", output := "stderr"
      file := "/home/.local/state/qsharp-telemetry/telemetry.log", color := false
      modules := [("a", "debug"), ("b", "trace")] }

/-- The user's level and colour stay when the workspace gives modules, and the module of the one file
stays when the other file gives another one. -/
theorem load_layeredWorld : (load layeredWorld "ws").result = .ok layeredSettings ∧
    layeredSettings.ReadFrom (.default layeredWorld.environment)
      (lastGiven [(layerAt layeredWorld "/home/.config/qsharp-telemetry/config.toml").gives?,
        (layerAt layeredWorld "ws/config/telemetry.toml").gives?,
        (layerAt layeredWorld "ws/config/development.toml").gives?,
        Override.gives? layeredWorld.environment]) := by
  have hload : (load layeredWorld "ws").result = .ok layeredSettings := by decide +kernel
  have hgives (path source : String)
      (hsource : layeredWorld.files.readText layeredWorld.cwd
        (Path.join (cwdPath layeredWorld) path) = .ok source) (hread : (Toml.read source).isSome) :
      FileGives layeredWorld path (layerAt layeredWorld path) :=
    fileGives_layerAt hsource hread
  refine ⟨hload, load_reads_last ⟨by decide, by decide⟩ hload ⟨?_, ?_, ?_⟩ ?_ ?_ ?_ ?_⟩
  · exact hgives _ "[logging]\nlevel = 'warn'\ncolor = false\n" (by decide +kernel)
      (by decide +kernel)
  · exact hgives _ "[logging.modules]\na = 'debug'\nb = 'info'\n" (by decide +kernel)
      (by decide +kernel)
  · exact hgives _ "logging.modules.b = 'trace'\n" (by decide +kernel) (by decide +kernel)
  · exact ⟨by decide +kernel, by decide +kernel, by decide +kernel⟩
  · exact ⟨by decide +kernel, by decide +kernel, by decide +kernel⟩
  · exact ⟨by decide +kernel, by decide +kernel, by decide +kernel⟩
  · exact ⟨by decide +kernel, by decide +kernel⟩

/-- A workspace whose file has an empty table in place of a truth value. -/
def emptyTableWorld : World where
  files := ⟨[(["ws"], .directory), (["ws", "config"], .directory),
    (["ws", "config", "telemetry.toml"], .file "enabled = \x7b\x7d\n".toUTF8)]⟩
  cwd := []
  environment := []

/-- An empty table must not count as given: it cannot be read as a truth value, and yet loading
succeeds. -/
theorem not_load_reads_last_of_at? : ¬ ∀ (w : World) (root : String) (user shared own : Layer)
    (s : Settings), w.files.Stands w.cwd → (load w root).result = .ok s →
      FileSources w root user shared own → user.Plain → shared.Plain → own.Plain →
        Override.Orderly w.environment → s.ReadFrom (.default w.environment)
          (lastGiven [user.at?, shared.at?, own.at?, Override.gives? w.environment]) := by
  intro h
  have hsource : emptyTableWorld.files.readText emptyTableWorld.cwd
      (Path.join (cwdPath emptyTableWorld)
        (Path.join (Path.join "ws" "config") "telemetry.toml")) = .ok "enabled = \x7b\x7d\n" := by
    decide +kernel
  have hshared := fileGives_layerAt hsource (by decide +kernel)
  have hnot : ∀ given, ¬ Reads flag (given ["enabled"]) true true →
      ¬ (Settings.default []).ReadFrom (.default []) given :=
    fun given hgiven hread => hgiven hread.enabled
  refine hnot _ ?_ (h emptyTableWorld "ws" [] _ [] (.default []) ⟨by decide, by decide⟩
    (by decide +kernel) ⟨rfl, hshared, .absent (by decide +kernel)⟩
    ⟨by decide, by decide, by decide⟩ ⟨by decide +kernel, by decide +kernel, by decide +kernel⟩
    ⟨by decide, by decide, by decide⟩ ⟨by decide, by decide⟩)
  decide +kernel

end Settings

end TelemetryGate
