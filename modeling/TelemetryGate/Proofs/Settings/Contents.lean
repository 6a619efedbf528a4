import TelemetryGate.Proofs.Settings.Precedence

/-!
# What becomes of the files that are there

Loading the settings of a workspace fails, or puts what each file says in its place in the order. The
files of the workspace are required, so one whose bytes are no text is a fault. The user's file is
not: where its bytes are no text, or its path from the root is too long, settings are loaded as if it
were not there.
-/

namespace TelemetryGate

namespace Text

/-- The pieces of a text, put together again, are the text. -/
theorem intercalate_pieces (s : String) : "/".intercalate (pieces '/' s) = s := by
  have hcut : ∀ cs : List Char,
      "/".intercalate ((splitOn '/' cs).map String.ofList) = String.ofList cs := by
    intro cs
    induction cs with
    | nil => rfl
    | cons c rest ih =>
      rw [splitOn]
      cases hrest : splitOn '/' rest with
      | nil => exact absurd hrest (splitOn_ne_nil '/' rest)
      | cons piece more =>
        rw [hrest] at ih
        split
        · rename_i hc
          rw [List.map_cons, List.map_cons, String.intercalate_cons_cons, ← List.map_cons, ih, hc,
            ← String.toList_inj]
          simp
        · cases more with
          | nil =>
            rw [← String.toList_inj] at ih ⊢
            simpa using ih
          | cons next more =>
            rw [List.map_cons, List.map_cons, String.intercalate_cons_cons] at ih ⊢
            rw [← String.toList_inj] at ih ⊢
            simpa using ih
  rw [pieces, hcut, String.ofList_toList]

/-- What none of some texts holds is not in their path. -/
theorem not_mem_intercalate {c : Char} (hc : c ≠ '/') {parts : List String}
    (h : ∀ part ∈ parts, c ∉ part.toList) : c ∉ ("/".intercalate parts).toList := by
  induction parts with
  | nil => simp
  | cons part rest ih =>
    have hpart := h part List.mem_cons_self
    have hrest := ih fun other hother => h other (List.mem_cons_of_mem _ hother)
    cases rest with
    | nil => simpa using hpart
    | cons next more =>
      rw [String.intercalate_cons_cons, String.toList_append, String.toList_append,
        List.mem_append, List.mem_append]
      rintro ((hmem | hmem) | hmem)
      · exact hpart hmem
      · exact hc (List.mem_singleton.mp hmem)
      · exact hrest hmem

end Text

namespace Settings

open Filesystem (Path.join Path.endsInSlash Tree.admits Tree.longestPath)

/-- An ending is added behind what ends in the ending of TOML files. -/
theorem withEnding_toml (front : String) (format : FileFormat) :
    withEnding (front ++ ".toml") format.ending =
      some (front ++ ".toml" ++ "." ++ format.ending) := by
  have hempty (n : String) : n ++ ".toml" ≠ "" := append_toml_ne n (by decide)
  have hhere (n : String) : n ++ ".toml" ≠ "." := append_toml_ne n (by decide)
  have hup (n : String) : n ++ ".toml" ≠ ".." := append_toml_ne n (by decide)
  rcases Filesystem.Path.exists_last_slash front with hfront | ⟨dir, n, rfl, hn⟩
  · rw [withEnding, Text.pieces_of_not_mem (slash_not_mem_append_toml hfront)]
    simp [hempty, hhere, hup]
  · have hpath : dir ++ "/" ++ n ++ ".toml" = dir ++ "/" ++ (n ++ ".toml") := String.append_assoc
    have hslash : '/' ∉ (n ++ ".toml" ++ "." ++ format.ending).toList := by
      have hending : '/' ∉ ("." ++ format.ending).toList := by cases format <;> decide
      rw [String.append_assoc, String.toList_append, List.mem_append]
      exact not_or.mpr ⟨slash_not_mem_append_toml hn, hending⟩
    have hwhole := Text.intercalate_pieces (dir ++ "/" ++ (n ++ ".toml" ++ "." ++ format.ending))
    rw [Text.pieces_append_slash, Text.pieces_of_not_mem hslash] at hwhole
    rw [withEnding, hpath, Text.pieces_append_slash,
      Text.pieces_of_not_mem (slash_not_mem_append_toml hn)]
    simpa [hempty, hhere, hup, String.append_assoc] using hwhole

/-- The path of a file from the root is too long to be walked. -/
def Overlong (w : World) (path : String) : Prop :=
  Tree.longestPath ≤ (Path.join (cwdPath w) path).utf8ByteSize

instance (w : World) (path : String) : Decidable (Overlong w path) :=
  inferInstanceAs (Decidable (_ ≤ _))

/-- A path that can be walked can be walked from the root, unless it is too long then. -/
theorem admits_join_cwdPath {w : World} (hcwd : w.files.Stands w.cwd) {path : String}
    (hadmits : Tree.admits path = .ok ()) (hlong : ¬ Overlong w path) :
    Tree.admits (Path.join (cwdPath w) path) = .ok () := by
  obtain ⟨hnul, hempty, -⟩ := Filesystem.Tree.admits_eq_ok_iff.mp hadmits
  have hbase : '\x00' ∉ (cwdPath w).toList := by
    have hnames : ∀ n ∈ w.cwd, '\x00' ∉ n.toList := by
      intro n hn
      have hentry := hcwd.names n hn
      simp only [Filesystem.Tree.isEntryName, Bool.and_eq_true, Bool.not_eq_true',
        List.contains_eq_mem, decide_eq_false_iff_not] at hentry
      exact hentry.2
    rw [cwdPath, String.toList_append, List.mem_append]
    exact not_or.mpr ⟨by decide, Text.not_mem_intercalate (by decide) hnames⟩
  refine Filesystem.Tree.admits_eq_ok_iff.mpr
    ⟨?_, Filesystem.Path.join_ne_empty _ hempty, Nat.not_le.mp hlong⟩
  rw [Path.join]
  split
  · exact hnul
  · split
    · rw [String.toList_append, List.mem_append]
      exact not_or.mpr ⟨hbase, hnul⟩
    · rw [String.toList_append, String.toList_append, List.mem_append, List.mem_append]
      exact not_or.mpr ⟨not_or.mpr ⟨hbase, by decide⟩, hnul⟩

theorem isFile_eq_false_of_long {w : World} {path : String}
    (h : Tree.longestPath ≤ path.utf8ByteSize) : w.files.isFile w.cwd path = false := by
  rw [Filesystem.Tree.isFile, Filesystem.Tree.lookup]
  cases hadmits : Tree.admits path with
  | error fault => rfl
  | ok _ => exact absurd (Filesystem.Tree.admits_eq_ok_iff.mp hadmits).2.2 (Nat.not_lt.mpr h)

/-- A file whose path from the root is too long is not found, with any ending. -/
theorem locate_of_overlong {w : World} {dir name : String}
    (h : Overlong w (Path.join dir (name ++ ".toml"))) :
    locate w (Path.join dir (name ++ ".toml")) =
      .error (.missing (Path.join dir (name ++ ".toml"))) := by
  obtain ⟨inner, hinner⟩ := Filesystem.Path.exists_join_eq dir (name ++ ".toml")
  obtain ⟨outer, houter⟩ :=
    Filesystem.Path.exists_join_eq (cwdPath w) (Path.join dir (name ++ ".toml"))
  have hfull : Path.join (cwdPath w) (Path.join dir (name ++ ".toml")) =
      outer ++ inner ++ name ++ ".toml" := by
    rw [houter, hinner, ← String.append_assoc, ← String.append_assoc]
  have hlong := h
  rw [Overlong, hfull] at hlong
  have hnot := isFile_eq_false_of_long (w := w) hlong
  have hcandidate (format : FileFormat) :
      w.files.isFile w.cwd (outer ++ inner ++ name ++ ".toml" ++ "." ++ format.ending) = false := by
    apply isFile_eq_false_of_long
    rw [String.utf8ByteSize_append, String.utf8ByteSize_append]
    omega
  unfold locate
  rw [hfull]
  simp [hnot, FileFormat.all, withEnding_toml, hcandidate]

/-- Bytes are those of a TOML text, and a layer is what the text stands for. -/
def Holds (w : World) (path : String) (content : ByteArray) (layer : Layer) : Prop :=
  ∃ source entries, String.fromUTF8? content = some source ∧ Toml.read source = some entries ∧
    layer = Setting.ofTomlEntries
      (some ((⟨Path.join (cwdPath w) path, .toml⟩ : Located).origin w)) entries

/-- The text of a file cannot be had: its bytes are no text, or its path is too long. -/
def Lost (w : World) (path : String) (content : ByteArray) : Prop :=
  String.fromUTF8? content = none ∨ Overlong w path

instance (w : World) (path : String) (content : ByteArray) : Decidable (Lost w path content) :=
  inferInstanceAs (Decidable (_ ∨ _))

section File

variable {w : World} (hcwd : w.files.Stands w.cwd) {dir name : String} {content : ByteArray}
  (hfile : w.files.lookup w.cwd (Path.join dir (name ++ ".toml")) = .ok (.file content))
include hcwd hfile

/-- A file is the same from the root, unless its path is too long then. -/
theorem lookup_file_from_root (hlong : ¬ Overlong w (Path.join dir (name ++ ".toml"))) :
    w.files.lookup w.cwd (Path.join (cwdPath w) (Path.join dir (name ++ ".toml"))) =
      .ok (.file content) := by
  have hadmits : Tree.admits (Path.join dir (name ++ ".toml")) = .ok () := by
    rw [Filesystem.Tree.lookup] at hfile
    cases hadmits : Tree.admits (Path.join dir (name ++ ".toml")) with
    | ok _ => rfl
    | error fault =>
      rw [hadmits] at hfile
      cases hfile
  have hempty := (Filesystem.Tree.admits_eq_ok_iff.mp hadmits).2.1
  rw [lookup_join_cwdPath hcwd hempty (admits_join_cwdPath hcwd hadmits hlong), hfile]

/-- The text of a lost file is not read. -/
theorem readText_of_lost (hlost : Lost w (Path.join dir (name ++ ".toml")) content)
    {l : Located} (hl : locate w (Path.join dir (name ++ ".toml")) = .ok l) :
    ∃ fault, w.files.readText w.cwd l.path = .error fault := by
  by_cases hlong : Overlong w (Path.join dir (name ++ ".toml"))
  · rw [locate_of_overlong hlong] at hl
    cases hl
  · have hbytes := hlost.resolve_right hlong
    have hroot := lookup_file_from_root hcwd hfile hlong
    have hfound : w.files.isFile w.cwd
        (Path.join (cwdPath w) (Path.join dir (name ++ ".toml"))) = true := by
      rw [Filesystem.Tree.isFile, hroot]
    have hnotText : w.files.readText w.cwd
        (Path.join (cwdPath w) (Path.join dir (name ++ ".toml"))) = .error .notText := by
      rw [Filesystem.Tree.readText, hroot]
      simp only [bind, Except.bind, hbytes]
    rw [locate_of_isFile hfound] at hl
    split at hl
    · cases hl
      exact ⟨_, hnotText⟩
    · cases hl

/-- A lost file is a fault if it is required, and gives nothing otherwise. -/
theorem fileLayer_of_lost (hlost : Lost w (Path.join dir (name ++ ".toml")) content) :
    (∃ fault, fileLayer w .required (Path.join dir (name ++ ".toml")) = .error fault) ∧
      fileLayer w .tolerant (Path.join dir (name ++ ".toml")) = .ok [] := by
  have hread := fun l hl => readText_of_lost hcwd hfile hlost (l := l) hl
  unfold fileLayer
  cases hl : locate w (Path.join dir (name ++ ".toml")) with
  | error fault => exact ⟨⟨fault, rfl⟩, rfl⟩
  | ok l =>
    obtain ⟨fault, hfault⟩ := hread l hl
    simp only [bind, Except.bind, hfault]
    exact ⟨⟨_, rfl⟩, trivial⟩

/-- A file that is not lost gives what its text stands for, if it gives anything. -/
theorem holds_of_fileLayer (hkept : ¬ Lost w (Path.join dir (name ++ ".toml")) content)
    {demand : Demand} {layer : Layer}
    (hformat : formatOf? (Path.join (cwdPath w) (Path.join dir (name ++ ".toml"))) = some .toml ∨
      demand = .required)
    (h : fileLayer w demand (Path.join dir (name ++ ".toml")) = .ok layer) :
    Holds w (Path.join dir (name ++ ".toml")) content layer := by
  obtain ⟨hbytes, hlong⟩ := not_or.mp hkept
  obtain ⟨source, hsource⟩ := Option.ne_none_iff_exists'.mp hbytes
  have hread : w.files.readText w.cwd
      (Path.join (cwdPath w) (Path.join dir (name ++ ".toml"))) = .ok source := by
    rw [Filesystem.Tree.readText, lookup_file_from_root hcwd hfile hlong]
    simp only [bind, Except.bind, hsource]
  have htoml : formatOf? (Path.join (cwdPath w) (Path.join dir (name ++ ".toml"))) =
      some .toml := by
    rcases hformat with hformat | rfl
    · exact hformat
    · refine (formatOf?_join (cwdPath w) dir name).resolve_right fun hnone => ?_
      rw [fileLayer_of_formatOf?_eq_none hread hnone] at h
      cases h
  rw [fileLayer_eq_layerOf hread htoml, layerOf] at h
  cases hentries : Toml.read source with
  | none =>
    rw [hentries] at h
    cases h
  | some entries =>
    rw [hentries] at h
    exact ⟨source, entries, hsource, hentries, (Except.ok.inj h).symm⟩

end File

/-- What a layer tells of a required file: what its text stands for, and nothing if there is no
file. -/
def TellsFile (w : World) (path : String) (layer : Layer) : Prop :=
  match w.files.lookup w.cwd path with
  | .ok (.file content) => Holds w path content layer
  | _ => layer = []

/-- What a layer tells of the user's file: what its text stands for, unless it is lost, and nothing
if nothing has its path. -/
def TellsUserFile (w : World) (layer : Layer) : Prop :=
  match globalPath? w.environment with
  | none => layer = []
  | some path =>
    match w.files.lookup w.cwd path with
    | .ok (.file content) => if Lost w path content then layer = [] else Holds w path content layer
    | .ok .directory => True
    | .error _ => layer = []

/-- A file of the workspace amounts to a layer that tells of it. -/
theorem exists_tellsFile {w : World} (hcwd : w.files.Stands w.cwd) {dir name : String}
    {layers : List Layer}
    (h : fileLayers w (([Path.join dir (name ++ ".toml")].filter fun path =>
      w.files.isFile w.cwd path).map (·, .required)) = .ok layers) :
    ∃ layer, TellsFile w (Path.join dir (name ++ ".toml")) layer ∧
      ∀ root, layers.foldl (fun root layer => layer.onto root) root = layer.onto root := by
  unfold TellsFile
  cases hlookup : w.files.lookup w.cwd (Path.join dir (name ++ ".toml")) with
  | error fault =>
    simp only [List.filter_cons, Filesystem.Tree.isFile, hlookup] at h
    cases h
    exact ⟨[], rfl, fun root => rfl⟩
  | ok node =>
    cases node with
    | directory =>
      simp only [List.filter_cons, Filesystem.Tree.isFile, hlookup] at h
      cases h
      exact ⟨[], rfl, fun root => rfl⟩
    | file content =>
      simp only [List.filter_cons, Filesystem.Tree.isFile, hlookup] at h
      obtain ⟨layer, more, hlayer, hmore, rfl⟩ := fileLayers_cons h
      cases hmore
      refine ⟨layer, ?_, fun root => rfl⟩
      by_cases hlost : Lost w (Path.join dir (name ++ ".toml")) content
      · obtain ⟨fault, hfault⟩ := (fileLayer_of_lost hcwd hlookup hlost).1
        rw [hfault] at hlayer
        cases hlayer
      · exact holds_of_fileLayer hcwd hlookup hlost (.inr rfl) hlayer

/-- The user's file amounts to a layer that tells of it. -/
theorem exists_tellsUserFile {w : World} (hcwd : w.files.Stands w.cwd) {layers : List Layer}
    (h : fileLayers w (globalSource w).1 = .ok layers) :
    ∃ layer, TellsUserFile w layer ∧
      ∀ root, layers.foldl (fun root layer => layer.onto root) root = layer.onto root := by
  unfold TellsUserFile
  rw [globalSource] at h
  cases hpath : globalPath? w.environment with
  | none =>
    rw [hpath] at h
    cases h
    exact ⟨[], rfl, fun root => rfl⟩
  | some path =>
    rw [hpath] at h
    obtain ⟨dir, rfl⟩ := exists_globalPath? hpath
    dsimp only
    cases hlookup : w.files.lookup w.cwd (Path.join dir "config.toml") with
    | error fault =>
      simp only [Filesystem.Tree.exists?, hlookup] at h
      cases h
      exact ⟨[], rfl, fun root => rfl⟩
    | ok node =>
      simp only [Filesystem.Tree.exists?, hlookup] at h
      obtain ⟨layer, more, hlayer, hmore, rfl⟩ := fileLayers_cons h
      cases hmore
      refine ⟨layer, ?_, fun root => rfl⟩
      cases node with
      | directory => trivial
      | file content =>
        have hfile : w.files.lookup w.cwd (Path.join dir ("config" ++ ".toml")) =
            .ok (.file content) := hlookup
        dsimp only
        split
        · rename_i hlost
          have hnothing := (fileLayer_of_lost hcwd hfile hlost).2
          exact (Except.ok.inj (hnothing.symm.trans hlayer)).symm
        · rename_i hkept
          exact holds_of_fileLayer hcwd hfile hkept (.inl (formatOf?_config (cwdPath w) dir)) hlayer

/-- The settings of a workspace come from what the files tell, each in its place. -/
theorem load_keeps_files {w : World} (hcwd : w.files.Stands w.cwd) {root : String} {s : Settings}
    (hload : (load w root).result = .ok s) : ∃ user shared own,
      TellsUserFile w user ∧
      TellsFile w (Path.join (Path.join root "config") "telemetry.toml") shared ∧
      TellsFile w
        (Path.join (Path.join root "config") (environmentName w.environment ++ ".toml")) own ∧
      ofMerged w.environment
        (Layer.merge [defaultLayer, user, shared, own, Override.layer w.environment]) = .ok s := by
  rw [load_result, workspaceFiles_split] at hload
  obtain ⟨layers, hlayers, hmerged⟩ := ofMerged_of_ofFiles hload
  obtain ⟨first, rest, hfirst, hrest, rfl⟩ := fileLayers_append hlayers
  obtain ⟨second, third, hsecond, hthird, rfl⟩ := fileLayers_append hrest
  obtain ⟨user, huser, hfoldUser⟩ := exists_tellsUserFile hcwd hfirst
  obtain ⟨shared, hshared, hfoldShared⟩ := exists_tellsFile hcwd hsecond
  obtain ⟨own, hown, hfoldOwn⟩ := exists_tellsFile hcwd hthird
  refine ⟨user, shared, own, huser, hshared, hown, ?_⟩
  simpa [Layer.merge, List.foldl_append, hfoldUser, hfoldShared, hfoldOwn] using hmerged

/-- The bytes of a file that switches telemetry off, with a comment that is no text. -/
def lostContent : ByteArray := ("enabled = false # ".toUTF8.push 0xff).push 0x0a

/-- A user whose file is lost, and a workspace that gives a key. -/
def lostWorld : World where
  files := ⟨[(["home"], .directory), (["home", ".config"], .directory),
    (["home", ".config", "qsharp-telemetry"], .directory),
    (["home", ".config", "qsharp-telemetry", "config.toml"], .file lostContent),
    (["ws"], .directory), (["ws", "config"], .directory),
    (["ws", "config", "telemetry.toml"], .file "instrumentation_key = 'key'\n".toUTF8)]⟩
  cwd := []
  environment := [("HOME", "/home")]

/-- The settings of the workspace, in which telemetry is on. -/
def lostSettings : Settings :=
  { Settings.default lostWorld.environment with instrumentationKey := some "key" }

theorem load_lostWorld : (load lostWorld "ws").result = .ok lostSettings := by decide +kernel

/-- The key comes from the workspace, and nothing from the user's file. -/
theorem load_keeps_files_of_lostWorld : (load lostWorld "ws").result = .ok lostSettings ∧
    ∃ user shared own, TellsUserFile lostWorld user ∧
      TellsFile lostWorld "ws/config/telemetry.toml" shared ∧
      TellsFile lostWorld "ws/config/development.toml" own ∧
      ofMerged lostWorld.environment (Layer.merge [defaultLayer, user, shared, own,
        Override.layer lostWorld.environment]) = .ok lostSettings :=
  ⟨load_lostWorld, load_keeps_files (w := lostWorld) ⟨by decide, by decide⟩ load_lostWorld⟩

/-- The user's file can be lost without a fault: settings are loaded, telemetry is on, and the bytes
of the file that switches it off are no text. -/
theorem not_holds_of_load : ¬ ∀ (w : World) (root path : String) (content : ByteArray)
    (s : Settings), w.files.Stands w.cwd → globalPath? w.environment = some path →
      w.files.lookup w.cwd path = .ok (.file content) → (load w root).result = .ok s →
        ∃ layer, Holds w path content layer := by
  intro h
  obtain ⟨layer, source, entries, hsource, -⟩ := h lostWorld "ws"
    "/home/.config/qsharp-telemetry/config.toml" lostContent lostSettings ⟨by decide, by decide⟩
    (by decide +kernel) (by rfl) load_lostWorld
  have hnone : String.fromUTF8? lostContent = none := by decide +kernel
  rw [hnone] at hsource
  cases hsource

end Settings

end TelemetryGate
