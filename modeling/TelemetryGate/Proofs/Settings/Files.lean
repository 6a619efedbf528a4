import TelemetryGate.Proofs.Filesystem.Paths
import TelemetryGate.Settings.Loader

/-!
# The layers of settings files

A settings file is looked for by its path from the root, and the ending of its last name tells its
format. What is looked for here ends in the ending of TOML files, so what is found is read as TOML,
unless the name has nothing in front of its ending.
-/

namespace TelemetryGate

namespace Settings

open Filesystem (Path.join Path.steps)

/-- What ends in the ending of TOML files is no shorter than the ending. -/
theorem append_toml_ne (n : String) {short : String} (hshort : short.length < 5) :
    n ++ ".toml" ≠ short := by
  rintro rfl
  have hlength : ".toml".length = 5 := rfl
  rw [String.length_append, hlength] at hshort
  omega

theorem slash_not_mem_append_toml {n : String} (hn : '/' ∉ n.toList) :
    '/' ∉ (n ++ ".toml").toList := by
  rw [String.toList_append, List.mem_append]
  exact not_or.mpr ⟨hn, by decide⟩

/-- A name with the ending of TOML files is walked into. -/
theorem steps_toml {n : String} (hn : '/' ∉ n.toList) :
    Path.steps (n ++ ".toml") = [.name (n ++ ".toml")] :=
  Filesystem.Path.steps_of_name (slash_not_mem_append_toml hn) (append_toml_ne n (by decide))
    (append_toml_ne n (by decide)) (append_toml_ne n (by decide))

/-- A path that ends in the ending of TOML files ends in a name. -/
theorem exists_steps_toml (front : String) : ∃ before n,
    Path.steps (front ++ ".toml") = before ++ [.name (n ++ ".toml")] ∧
      (n = "" → front = "" ∨ Filesystem.Path.endsInSlash front) := by
  rcases Filesystem.Path.exists_last_slash front with hslash | ⟨dir, n, rfl, hn⟩
  · exact ⟨[], front, steps_toml hslash, .inl⟩
  · refine ⟨Path.steps dir, n, ?_, ?_⟩
    · rw [String.append_assoc, Filesystem.Path.steps_append_slash, steps_toml hn]
    · rintro rfl
      right
      rw [Filesystem.Path.endsInSlash, String.append_empty, String.toList_append]
      simp

/-- What ends in the ending of TOML files is a TOML file, if it is a settings file. -/
theorem formatOf?_toml_cases (front : String) :
    formatOf? (front ++ ".toml") = some .toml ∨ formatOf? (front ++ ".toml") = none ∧
      (front = "" ∨ Filesystem.Path.endsInSlash front) := by
  obtain ⟨before, n, hsteps, hempty⟩ := exists_steps_toml front
  rw [formatOf?, Filesystem.Path.components_getLast? hsteps]
  simp only [Filesystem.Path.extension?_toml]
  by_cases hn : n = ""
  · right
    exact ⟨by simp [hn, FileFormat.all], hempty hn⟩
  · left
    simp [hn, FileFormat.all, FileFormat.ending]

/-- A path to a name that ends so is the path of a TOML file, if of a settings file. -/
theorem formatOf?_join (base dir name : String) :
    formatOf? (Path.join base (Path.join dir (name ++ ".toml"))) = some .toml ∨
      formatOf? (Path.join base (Path.join dir (name ++ ".toml"))) = none := by
  obtain ⟨inner, hinner⟩ := Filesystem.Path.exists_join_eq dir (name ++ ".toml")
  obtain ⟨outer, houter⟩ := Filesystem.Path.exists_join_eq base (Path.join dir (name ++ ".toml"))
  rw [houter, hinner, ← String.append_assoc, ← String.append_assoc]
  exact (formatOf?_toml_cases _).imp_right And.left

/-- A path to a name without slashes is one of a TOML file, unless the name is empty. -/
theorem formatOf?_join_of_plain {name : String} (hname : name ≠ "") (hslash : '/' ∉ name.toList)
    (base dir : String) :
    formatOf? (Path.join base (Path.join dir (name ++ ".toml"))) = some .toml := by
  obtain ⟨inner, hinner⟩ := Filesystem.Path.exists_join_eq dir (name ++ ".toml")
  obtain ⟨outer, houter⟩ := Filesystem.Path.exists_join_eq base (Path.join dir (name ++ ".toml"))
  have hpath : Path.join base (Path.join dir (name ++ ".toml")) =
      outer ++ inner ++ name ++ ".toml" := by
    rw [houter, hinner, ← String.append_assoc, ← String.append_assoc]
  rw [hpath]
  refine (formatOf?_toml_cases _).resolve_right ?_
  rintro ⟨-, hempty | hends⟩
  · exact hname (String.append_eq_empty_iff.mp hempty).2
  · obtain ⟨last, hlast⟩ : ∃ last, name.toList.getLast? = some last :=
      Option.ne_none_iff_exists'.mp (by simpa using hname)
    rw [Filesystem.Path.endsInSlash, String.toList_append, List.getLast?_append, hlast,
      Option.some_or, beq_iff_eq, Option.some.injEq] at hends
    exact hslash (hends ▸ List.mem_of_getLast? hlast)

/-- The path of the user's file is one of a TOML file. -/
theorem formatOf?_config (base dir : String) :
    formatOf? (Path.join base (Path.join dir "config.toml")) = some .toml :=
  have hname : "config" ≠ "" := by decide
  formatOf?_join_of_plain hname (by decide) base dir

/-- What the file at a path gives: nothing if nothing stands there, and else what its text stands
for. The text is read from the root. -/
inductive FileGives (w : World) (path : String) : Layer → Prop where
  /-- Nothing stands at the path. -/
  | absent (h : w.files.exists? w.cwd path = false) : FileGives w path []
  /-- A TOML text stands there. -/
  | text {source : String} {entries : List (String × Toml.Value)}
    (hsource : w.files.readText w.cwd (Path.join (cwdPath w) path) = .ok source)
    (hread : Toml.read source = some entries) :
    FileGives w path (Setting.ofTomlEntries
      (some ((⟨Path.join (cwdPath w) path, .toml⟩ : Located).origin w)) entries)

/-- A text is read from paths only that can be walked. -/
theorem admits_of_readText {w : World} {path source : String}
    (h : w.files.readText w.cwd path = .ok source) :
    Filesystem.Tree.admits path = .ok () := by
  rw [Filesystem.Tree.readText, Filesystem.Tree.lookup] at h
  cases hadmits : Filesystem.Tree.admits path with
  | ok _ => rfl
  | error fault =>
    rw [hadmits] at h
    cases h

/-- What stands at a path is the same from the root and from the working directory. -/
theorem lookup_join_cwdPath {w : World} (hcwd : w.files.Stands w.cwd) {path : String}
    (hempty : path ≠ "")
    (hadmits : Filesystem.Tree.admits (Path.join (cwdPath w) path) = .ok ()) :
    w.files.lookup w.cwd (Path.join (cwdPath w) path) = w.files.lookup w.cwd path := by
  have habsolute : Filesystem.Path.isAbsolute (cwdPath w) := by
    rw [cwdPath, Filesystem.Path.isAbsolute, String.toList_append]
    rfl
  have hsteps : Path.steps (cwdPath w) = w.cwd.map .name := by
    have h := Filesystem.Path.steps_append_slash "" ("/".intercalate w.cwd)
    rw [String.empty_append] at h
    rw [cwdPath, h, Filesystem.Tree.steps_intercalate hcwd.names]
    rfl
  exact Filesystem.Tree.lookup_join habsolute hsteps hcwd.walk hempty hadmits

/-- The text of a file is the same from the root and from the working directory. -/
theorem readText_of_join_cwdPath {w : World} (hcwd : w.files.Stands w.cwd) {path source : String}
    (hempty : path ≠ "")
    (hsource : w.files.readText w.cwd (Path.join (cwdPath w) path) = .ok source) :
    w.files.readText w.cwd path = .ok source := by
  rw [Filesystem.Tree.readText,
    ← lookup_join_cwdPath hcwd hempty (admits_of_readText hsource)]
  exact hsource

theorem isFile_of_readText {w : World} {path source : String}
    (h : w.files.readText w.cwd path = .ok source) : w.files.isFile w.cwd path = true := by
  rw [Filesystem.Tree.readText] at h
  rw [Filesystem.Tree.isFile]
  cases hlookup : w.files.lookup w.cwd path with
  | error fault =>
    rw [hlookup] at h
    cases h
  | ok node =>
    rw [hlookup] at h
    cases node with
    | file content => rfl
    | directory => cases h

theorem exists?_of_isFile {w : World} {path : String} (h : w.files.isFile w.cwd path = true) :
    w.files.exists? w.cwd path = true := by
  rw [Filesystem.Tree.isFile] at h
  rw [Filesystem.Tree.exists?]
  cases hlookup : w.files.lookup w.cwd path with
  | error fault =>
    rw [hlookup] at h
    cases h
  | ok node => rfl

/-- A file at its path from the root is found, if its format is known. -/
theorem locate_of_isFile {w : World} {path : String}
    (h : w.files.isFile w.cwd (Path.join (cwdPath w) path) = true) :
    locate w path = match formatOf? (Path.join (cwdPath w) path) with
      | some format => .ok ⟨Path.join (cwdPath w) path, format⟩
      | none => .error (.unknownFormat (Path.join (cwdPath w) path)) := by
  unfold locate
  generalize Path.join (cwdPath w) path = full at *
  exact if_pos h

/-- A file at its path from the root has the layer of its text. -/
theorem fileLayer_eq_layerOf {w : World} {path source : String} {format : FileFormat}
    (hsource : w.files.readText w.cwd (Path.join (cwdPath w) path) = .ok source)
    (hformat : formatOf? (Path.join (cwdPath w) path) = some format) (demand : Demand) :
    fileLayer w demand path =
      layerOf format ((⟨Path.join (cwdPath w) path, format⟩ : Located).origin w) source := by
  have hlocate : locate w path = .ok ⟨Path.join (cwdPath w) path, format⟩ := by
    have hfile := isFile_of_readText hsource
    rw [locate_of_isFile hfile, hformat]
  unfold fileLayer
  rw [hlocate]
  simp only [bind, Except.bind]
  rw [hsource]

/-- A TOML file gives the entries of its text. -/
theorem fileLayer_eq {w : World} {path source : String} {entries : List (String × Toml.Value)}
    (hsource : w.files.readText w.cwd (Path.join (cwdPath w) path) = .ok source)
    (read : Toml.read source = some entries)
    (hformat : formatOf? (Path.join (cwdPath w) path) = some .toml) (demand : Demand) :
    fileLayer w demand path = .ok (Setting.ofTomlEntries
      (some ((⟨Path.join (cwdPath w) path, .toml⟩ : Located).origin w)) entries) := by
  rw [fileLayer_eq_layerOf hsource hformat]
  simp only [layerOf, read]

/-- A file of an unknown format cannot be required. -/
theorem fileLayer_of_formatOf?_eq_none {w : World} {path source : String}
    (hsource : w.files.readText w.cwd (Path.join (cwdPath w) path) = .ok source)
    (hformat : formatOf? (Path.join (cwdPath w) path) = none) :
    fileLayer w .required path = .error (.unknownFormat (Path.join (cwdPath w) path)) := by
  have hlocate : locate w path = .error (.unknownFormat (Path.join (cwdPath w) path)) := by
    have hfile := isFile_of_readText hsource
    rw [locate_of_isFile hfile, hformat]
  unfold fileLayer
  rw [hlocate]
  rfl

/-- The layers of files are that of the first file and those of the others. -/
theorem fileLayers_cons {w : World} {file : String × Demand} {rest : List (String × Demand)}
    {layers : List Layer} (h : fileLayers w (file :: rest) = .ok layers) : ∃ layer more,
      fileLayer w file.2 file.1 = .ok layer ∧ fileLayers w rest = .ok more ∧
        layers = layer :: more := by
  rw [fileLayers, List.mapM_cons] at h
  cases hlayer : fileLayer w file.2 file.1 with
  | error fault =>
    rw [hlayer] at h
    cases h
  | ok layer =>
    cases hmore : fileLayers w rest with
    | error fault =>
      rw [fileLayers] at hmore
      rw [hlayer, hmore] at h
      cases h
    | ok more =>
      rw [fileLayers] at hmore
      rw [hlayer, hmore] at h
      cases h
      exact ⟨layer, more, rfl, rfl, rfl⟩

/-- The layers of files in two parts. -/
theorem fileLayers_append {w : World} {before after : List (String × Demand)} {layers : List Layer}
    (h : fileLayers w (before ++ after) = .ok layers) : ∃ first second,
      fileLayers w before = .ok first ∧ fileLayers w after = .ok second ∧
        layers = first ++ second := by
  induction before generalizing layers with
  | nil => exact ⟨[], layers, rfl, h, rfl⟩
  | cons file rest ih =>
    obtain ⟨layer, more, hlayer, hmore, rfl⟩ := fileLayers_cons h
    obtain ⟨first, second, hfirst, hsecond, rfl⟩ := ih hmore
    refine ⟨layer :: first, second, ?_, hsecond, rfl⟩
    rw [fileLayers] at hfirst
    rw [fileLayers, List.mapM_cons, hlayer, hfirst]
    rfl

/-- Every layer of some files is that of one of them. -/
theorem exists_file_of_mem {w : World} {files : List (String × Demand)} {layers : List Layer}
    (h : fileLayers w files = .ok layers) {layer : Layer} (hmem : layer ∈ layers) :
    ∃ file ∈ files, fileLayer w file.2 file.1 = .ok layer := by
  induction files generalizing layers with
  | nil =>
    cases h
    cases hmem
  | cons file rest ih =>
    obtain ⟨first, more, hfirst, hmore, rfl⟩ := fileLayers_cons h
    rcases List.mem_cons.mp hmem with rfl | hmem
    · exact ⟨file, List.mem_cons_self, hfirst⟩
    · obtain ⟨other, hother, hlayer⟩ := ih hmore hmem
      exact ⟨other, List.mem_cons_of_mem _ hother, hlayer⟩

/-- Settings that come from files come from their merged layers, the defaults below and the
environment on top. -/
theorem ofMerged_of_ofFiles {w : World} {files : List (String × Demand)} {s : Settings}
    (h : ofFiles w files = .ok s) : ∃ layers, fileLayers w files = .ok layers ∧
      ofMerged w.environment
        (Layer.merge (defaultLayer :: layers ++ [Override.layer w.environment])) = .ok s := by
  rw [ofFiles] at h
  cases hlayers : fileLayers w files with
  | error fault =>
    rw [hlayers] at h
    cases h
  | ok layers =>
    rw [hlayers] at h
    exact ⟨layers, rfl, h⟩

/-- Settings that come from merged layers are what they read as, and have no issues. -/
theorem layout_of_ofMerged {v : Variables} {merged : Setting} {s : Settings}
    (h : ofMerged v merged = .ok s) :
    Settings.layout v Setting.Decoder.format merged = .ok s ∧ s.issues = [] := by
  rw [ofMerged] at h
  split at h
  · cases h
  · rename_i read hread
    rw [checked_modules] at h
    split at h
    · rename_i hissues
      cases h
      exact ⟨hread, hissues⟩
    · cases h

/-- Settings that come from files are what the merged layers read as. -/
theorem layout_of_ofFiles {w : World} {files : List (String × Demand)} {s : Settings}
    (h : ofFiles w files = .ok s) : ∃ layers, fileLayers w files = .ok layers ∧
      Settings.layout w.environment Setting.Decoder.format
        (Layer.merge (defaultLayer :: layers ++ [Override.layer w.environment])) = .ok s := by
  obtain ⟨layers, hlayers, hmerged⟩ := ofMerged_of_ofFiles h
  exact ⟨layers, hlayers, (layout_of_ofMerged hmerged).1⟩

/-- Some files amount to a layer if their layers, put on top of one another, do what it does. -/
def AmountTo (w : World) (files : List (String × Demand)) (layer : Layer) : Prop :=
  ∀ layers, fileLayers w files = .ok layers →
    ∀ root, layers.foldl (fun root layer => layer.onto root) root = layer.onto root

theorem amountTo_nil (w : World) : AmountTo w [] [] := by
  rintro layers ⟨⟩ root
  rfl

theorem amountTo_singleton {w : World} {path : String} {demand : Demand} {layer : Layer}
    (h : ∀ found, fileLayer w demand path = .ok found → found = layer) :
    AmountTo w [(path, demand)] layer := by
  intro layers hlayers root
  obtain ⟨found, more, hfound, hmore, rfl⟩ := fileLayers_cons hlayers
  cases hmore
  rw [h found hfound]
  rfl

/-- The user's file has its name. -/
theorem exists_globalPath? {v : Variables} {path : String} (h : globalPath? v = some path) :
    ∃ dir, path = Path.join dir "config.toml" := by
  obtain ⟨dir, -, hpath⟩ := Option.map_eq_some_iff.mp h
  exact ⟨_, hpath.symm⟩

/-- The user's file amounts to what it gives. -/
theorem amountTo_globalSource {w : World} (hcwd : w.files.Stands w.cwd) {layer : Layer}
    (h : match globalPath? w.environment with
      | none => layer = []
      | some path => FileGives w path layer) : AmountTo w (globalSource w).1 layer := by
  rw [globalSource]
  cases hpath : globalPath? w.environment with
  | none =>
    rw [hpath] at h
    cases h
    exact amountTo_nil w
  | some path =>
    rw [hpath] at h
    cases h with
    | absent habsent =>
      simp only [habsent]
      exact amountTo_nil w
    | text hsource hread =>
      obtain ⟨dir, rfl⟩ := exists_globalPath? hpath
      have hempty := Filesystem.Path.join_ne_empty dir (p := "config.toml") (by decide)
      have hnear := readText_of_join_cwdPath hcwd hempty hsource
      have hexists := exists?_of_isFile (isFile_of_readText hnear)
      have hformat := formatOf?_config (cwdPath w) dir
      simp only [hexists]
      refine amountTo_singleton fun found hfound => ?_
      rw [fileLayer_eq hsource hread hformat] at hfound
      exact (Except.ok.inj hfound).symm

/-- A file of the workspace amounts to what it gives. -/
theorem amountTo_workspaceFile {w : World} (hcwd : w.files.Stands w.cwd) {dir name : String}
    {layer : Layer}
    (h : FileGives w (Path.join dir (name ++ ".toml")) layer) :
    AmountTo w (([Path.join dir (name ++ ".toml")].filter fun path =>
      w.files.isFile w.cwd path).map (·, .required)) layer := by
  cases h with
  | absent habsent =>
    have hfile : w.files.isFile w.cwd (Path.join dir (name ++ ".toml")) = false := by
      cases hfile : w.files.isFile w.cwd (Path.join dir (name ++ ".toml")) with
      | false => rfl
      | true =>
        rw [exists?_of_isFile hfile] at habsent
        cases habsent
    simp only [List.filter_cons, hfile]
    exact amountTo_nil w
  | text hsource hread =>
    have hname : name ++ ".toml" ≠ "" := by
      intro h
      exact absurd (String.append_eq_empty_iff.mp h).2 (by decide)
    have hempty := Filesystem.Path.join_ne_empty dir hname
    have hnear := readText_of_join_cwdPath hcwd hempty hsource
    simp only [List.filter_cons, isFile_of_readText hnear, if_true]
    refine amountTo_singleton fun found hfound => ?_
    rcases formatOf?_join (cwdPath w) dir name with hformat | hformat
    · rw [fileLayer_eq hsource hread hformat] at hfound
      exact (Except.ok.inj hfound).symm
    · rw [fileLayer_of_formatOf?_eq_none hsource hformat] at hfound
      cases hfound

end Settings

end TelemetryGate
