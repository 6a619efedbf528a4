import TelemetryGate.Proofs.Filesystem.Folders
import TelemetryGate.Proofs.Settings.Precedence

/-!
# Where the files of a workspace stand

The settings of a workspace belong into its folder `config`. The name of its environment is put into
the path of a file there as it is, so it decides how far the folder reaches: a name without slashes
names a file of the folder, and any other name a file of the folder that the name itself leads to.
-/

namespace TelemetryGate.Settings

open Filesystem (Path.join Path.folder Path.lastName Path.steps)

/-- The path of the folder of a workspace is not empty. -/
theorem configFolder_ne_empty (root : String) : Path.join root "config" ≠ "" :=
  Filesystem.Path.join_ne_empty root (by decide)

/-- The file of an environment stands in the folder that the environment's name leads to from the
folder of the workspace. -/
theorem leadsInto_environmentFile {w : World} {root environment : String}
    (h : w.files.isFile w.cwd (Path.join (Path.join root "config") (environment ++ ".toml")) =
      true) :
    w.files.LeadsInto w.cwd (Path.join (Path.join root "config") (Path.folder environment))
      (Path.join (Path.join root "config") (environment ++ ".toml"))
      (Path.lastName environment ++ ".toml") := by
  have hending : '/' ∉ ".toml".toList := by decide
  have hsteps := steps_toml (Filesystem.Path.slash_not_mem_lastName environment)
  rw [← Filesystem.Path.lastName_append hending] at hsteps
  have hinto := Filesystem.Tree.leadsInto_of_isFile (configFolder_ne_empty root) hsteps h
  rwa [Filesystem.Path.folder_append hending, Filesystem.Path.lastName_append hending] at hinto

/-- The files of a workspace are its own file in its folder and the file of its environment. The
latter stands in the folder too if the environment's name has no slash. Otherwise it stands in the
folder exactly if the name leads back to it. -/
theorem leadsInto_of_mem_workspaceFiles {w : World} {root path : String}
    (h : path ∈ workspaceFiles w root (environmentName w.environment)) :
    let config := Path.join root "config"
    let environment := environmentName w.environment
    (load w root).result = ofFiles w ((globalSource w).1 ++
        (workspaceFiles w root environment).map (·, .required)) ∧
      (path = Path.join config "telemetry.toml" ∧
          w.files.LeadsInto w.cwd config path "telemetry.toml" ∨
        path = Path.join config (environment ++ ".toml") ∧
          w.files.LeadsInto w.cwd (Path.join config (Path.folder environment)) path
            (Path.lastName environment ++ ".toml") ∧
          ('/' ∉ environment.toList →
            w.files.LeadsInto w.cwd config path (environment ++ ".toml")) ∧
          (w.files.LeadAlike w.cwd config (Path.join config (Path.folder environment)) ↔
            ∃ name, w.files.LeadsInto w.cwd config path name)) := by
  intro config environment
  refine ⟨load_result w root, ?_⟩
  obtain ⟨hcandidate, hfile⟩ := List.mem_filter.mp h
  rw [workspaceCandidates, List.mem_cons, List.mem_singleton] at hcandidate
  rcases hcandidate with rfl | rfl
  · left
    exact ⟨rfl, Filesystem.Tree.leadsInto_of_isFile_name (configFolder_ne_empty root) (by decide)
      (by decide) hfile⟩
  · right
    have hinto := leadsInto_environmentFile hfile
    refine ⟨rfl, hinto, fun hslash => ?_, hinto.leadAlike_iff⟩
    exact Filesystem.Tree.leadsInto_of_isFile_name (configFolder_ne_empty root)
      (slash_not_mem_append_toml hslash) (steps_toml hslash) hfile

/-- A workspace whose environment names a file next to the folder of the workspace. -/
def strayWorld : World where
  files := ⟨[(["ws"], .directory), (["ws", "config"], .directory),
    (["ws", "config", "telemetry.toml"], .file "enabled = true\n".toUTF8),
    (["ws", "evil.toml"], .file "enabled = false\n".toUTF8)]⟩
  cwd := []
  environment := [(environmentVariable, "../evil")]

/-- Its path. -/
theorem leadsTo_strayFile :
    strayWorld.files.LeadsTo strayWorld.cwd "ws/config/../evil.toml" ["ws", "evil.toml"] := by
  decide +kernel

/-- The file next to the folder is one of the files of the workspace. -/
theorem leadsInto_strayFile :
    strayWorld.files.LeadsInto strayWorld.cwd "ws/config/../" "ws/config/../evil.toml"
      "evil.toml" := by
  have hmem : "ws/config/../evil.toml" ∈
      workspaceFiles strayWorld "ws" (environmentName strayWorld.environment) := by decide +kernel
  obtain ⟨-, ⟨hbase, -⟩ | ⟨-, hinto, -, -⟩⟩ := leadsInto_of_mem_workspaceFiles hmem
  · exact absurd hbase (by decide)
  · exact hinto

/-- A file of a workspace need not stand in its folder: settings are loaded from the file next to
it. -/
theorem not_leadsInto_of_mem_workspaceFiles : ¬ ∀ (w : World) (root path : String),
    path ∈ workspaceFiles w root (environmentName w.environment) →
      ∃ name, w.files.LeadsInto w.cwd (Path.join root "config") path name := by
  intro h
  obtain ⟨name, place, hconfig, hpath⟩ := h strayWorld "ws" "ws/config/../evil.toml"
    (by decide +kernel)
  have hfolder : strayWorld.files.LeadsTo strayWorld.cwd (Path.join "ws" "config")
      ["ws", "config"] := by decide +kernel
  obtain rfl := hconfig.unique hfolder
  have hlength := congrArg List.length (leadsTo_strayFile.unique hpath)
  cases hlength

end TelemetryGate.Settings
