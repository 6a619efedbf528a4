import TelemetryGate.Proofs.Settings.Files
import TelemetryGate.Proofs.Settings.Merging
import TelemetryGate.Proofs.Settings.Records

/-!
# What loaded settings are read from

Settings are loaded for a workspace or from one file. Either way the layers of some files are put on
top of the defaults and the overrides of the environment on top of those, and the settings are read
from the tree that comes out, whatever the layers hold.
-/

namespace TelemetryGate.Settings

/-- What settings are loaded from. -/
inductive Loading where
  /-- A workspace and the user's file. -/
  | workspace (root : String)
  /-- One file. -/
  | file (path : String)
  deriving DecidableEq, Repr

namespace Loading

/-- What comes of loading. -/
def result (w : World) : Loading → Except Fault Settings
  | .workspace root => (load w root).result
  | .file path => loadFile w path

/-- The files that settings are loaded from, the first one below. -/
def files (w : World) : Loading → List (String × Demand)
  | .workspace root => (globalSource w).1 ++ (workspaceSource w root).1
  | .file path => [(path, .required)]

theorem result_eq (w : World) (loading : Loading) :
    loading.result w = ofFiles w (loading.files w) := by
  cases loading <;> rfl

end Loading

/-- The tree of settings that comes of some layers between the defaults and the environment. -/
def tree (v : Variables) (layers : List Layer) : Setting :=
  Layer.merge (defaultLayer :: layers ++ [Override.layer v])

/-- The layers of the files that settings are loaded from. -/
theorem exists_layers_of_result {w : World} {loading : Loading} {s : Settings}
    (h : loading.result w = .ok s) : ∃ layers, fileLayers w (loading.files w) = .ok layers ∧
      Settings.layout w.environment Setting.Decoder.format (tree w.environment layers) = .ok s := by
  rw [Loading.result_eq] at h
  exact layout_of_ofFiles h

theorem isTable_tree (v : Variables) (layers : List Layer) : (tree v layers).isTable :=
  Layer.isTable_merge _

theorem ordered_tree (v : Variables) (layers : List Layer) : (tree v layers).Ordered :=
  Layer.ordered_merge _

/-- The settings at the top are read from what stands under their names in the tree. -/
theorem topReadFrom_tree {v : Variables} {layers : List Layer} {s : Settings}
    (h : Settings.layout v Setting.Decoder.format (tree v layers) = .ok s) :
    s.TopReadFrom v fun name => (tree v layers).at? [name] :=
  topReadFrom_of_layout (isTable_tree v layers) (ordered_tree v layers) h

/-- The layer of a file stands between those of the files below it and those of the files above
it. -/
theorem exists_layers_around {w : World} {before after : List (String × Demand)} {path : String}
    {demand : Demand} {layer : Layer} {layers : List Layer}
    (hlayer : fileLayer w demand path = .ok layer)
    (h : fileLayers w (before ++ (path, demand) :: after) = .ok layers) :
    ∃ below above, fileLayers w after = .ok above ∧ layers = below ++ layer :: above := by
  obtain ⟨below, rest, -, hrest, rfl⟩ := fileLayers_append h
  obtain ⟨found, above, hfound, habove, rfl⟩ := fileLayers_cons hrest
  obtain rfl := Except.ok.inj (hlayer.symm.trans hfound)
  exact ⟨below, above, habove, rfl⟩

end TelemetryGate.Settings
