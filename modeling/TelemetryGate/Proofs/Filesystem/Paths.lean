import TelemetryGate.Filesystem.Tree

/-!
# Paths and walks

A path that is put into a directory is walked by the steps of the directory and then by its own. In
a tree in which the working directory stands, a file is therefore read alike from there and from the
root.
-/

namespace TelemetryGate

namespace Text

theorem splitOn_ne_nil (sep : Char) (cs : List Char) : splitOn sep cs ≠ [] := by
  induction cs with
  | nil => exact List.cons_ne_nil _ _
  | cons c rest ih =>
    rw [splitOn]
    split
    · exact List.cons_ne_nil _ _
    · split
      · exact List.cons_ne_nil _ _
      · exact List.cons_ne_nil _ _

theorem splitOn_of_not_mem {sep : Char} {cs : List Char} (h : sep ∉ cs) :
    splitOn sep cs = [cs] := by
  induction cs with
  | nil => rfl
  | cons c rest ih =>
    have hc : c ≠ sep := fun hc => h (hc ▸ List.mem_cons_self)
    have hrest : sep ∉ rest := fun hmem => h (List.mem_cons_of_mem _ hmem)
    rw [splitOn, if_neg hc, ih hrest]

/-- A separator cuts a text in two parts that are cut on their own. -/
theorem splitOn_append_cons (sep : Char) (cs rest : List Char) :
    splitOn sep (cs ++ sep :: rest) = splitOn sep cs ++ splitOn sep rest := by
  induction cs with
  | nil => simp [splitOn]
  | cons c cs ih =>
    rw [List.cons_append, splitOn, splitOn, ih]
    split
    · rfl
    · cases hcs : splitOn sep cs with
      | nil => exact absurd hcs (splitOn_ne_nil sep cs)
      | cons piece more => rfl

/-- What is put together from parts without the separator is cut into these parts. -/
theorem splitOn_intercalate {sep : Char} {parts : List (List Char)} (hne : parts ≠ [])
    (h : ∀ part ∈ parts, sep ∉ part) : splitOn sep ([sep].intercalate parts) = parts := by
  induction parts with
  | nil => exact absurd rfl hne
  | cons part rest ih =>
    have hpart := splitOn_of_not_mem (h part List.mem_cons_self)
    cases rest with
    | nil => rw [List.intercalate_singleton, hpart]
    | cons next more =>
      have hrest := ih (List.cons_ne_nil _ _) fun p hp => h p (List.mem_cons_of_mem _ hp)
      rw [List.intercalate_cons_cons, List.append_assoc, List.singleton_append,
        splitOn_append_cons, hpart, hrest, List.singleton_append]

theorem pieces_append_slash (front back : String) :
    pieces '/' (front ++ "/" ++ back) = pieces '/' front ++ pieces '/' back := by
  have hcut : (front ++ "/" ++ back).toList = front.toList ++ '/' :: back.toList := by
    rw [String.toList_append, String.toList_append, List.append_assoc]
    rfl
  rw [pieces, hcut, splitOn_append_cons, List.map_append]
  rfl

theorem pieces_of_not_mem {s : String} (h : '/' ∉ s.toList) : pieces '/' s = [s] := by
  rw [pieces, splitOn_of_not_mem h, List.map_singleton, String.ofList_toList]

end Text

namespace Filesystem.Path

/-- A path in two parts is walked part by part. -/
theorem steps_append_slash (front back : String) :
    steps (front ++ "/" ++ back) = steps front ++ steps back := by
  rw [steps, Text.pieces_append_slash, List.filter_append, List.map_append]
  rfl

/-- The last step that leads to a name counts. -/
theorem components_getLast? {p : String} {front : List Step} {n : String}
    (h : steps p = front ++ [.name n]) : (components p).getLast? = some (.name n) := by
  rw [components, h]
  cases front with
  | nil => simp
  | cons s front =>
    simp only [List.cons_append, List.filter_append]
    split
    · rw [← List.cons_append]
      exact List.getLast?_concat
    · simp

/-- A name is walked into. -/
theorem steps_of_name {n : String} (hslash : '/' ∉ n.toList) (hempty : n ≠ "") (hhere : n ≠ ".")
    (hup : n ≠ "..") : steps n = [.name n] := by
  have hstep : Step.ofSegment n = .name n := by rw [Step.ofSegment, if_neg hhere, if_neg hup]
  rw [steps, Text.pieces_of_not_mem hslash]
  simp [hempty, hstep]

/-- The ending of a name, unless nothing stands in front of it. -/
theorem extension?_toml (n : String) :
    extension? (n ++ ".toml") = if n = "" then none else some "toml" := by
  have hcs : (n ++ ".toml").toList = n.toList ++ ['.', 't', 'o', 'm', 'l'] := by
    rw [String.toList_append]
    rfl
  have htail : (((n ++ ".toml").toList.reverse.takeWhile (· ≠ '.')).reverse) =
      ['t', 'o', 'm', 'l'] := by
    rw [hcs, List.reverse_append]
    rfl
  rw [extension?, htail, hcs]
  by_cases hn : n = ""
  · subst hn
    simp
  · have hlength : n.toList.length ≠ 0 := by simpa using hn
    have hlt : ['t', 'o', 'm', 'l'].length + 1 <
        (n.toList ++ ['.', 't', 'o', 'm', 'l']).length := by
      simp only [List.length_append, List.length_cons, List.length_nil]
      omega
    rw [if_neg hn, if_pos hlt]

/-- A path inside a directory ends in the path that is put there. -/
theorem exists_join_eq (base p : String) : ∃ front, join base p = front ++ p := by
  rw [join]
  split
  · exact ⟨"", String.empty_append.symm⟩
  · split
    · exact ⟨base, rfl⟩
    · exact ⟨base ++ "/", rfl⟩

/-- A path inside a directory is not empty if the path that is put there is not. -/
theorem join_ne_empty (base : String) {p : String} (h : p ≠ "") : join base p ≠ "" := by
  obtain ⟨front, hfront⟩ := exists_join_eq base p
  rw [hfront]
  intro hempty
  exact h (String.append_eq_empty_iff.mp hempty).2

/-- A path is a name, or has a last slash. -/
theorem exists_last_slash (p : String) :
    '/' ∉ p.toList ∨ ∃ dir n, p = dir ++ "/" ++ n ∧ '/' ∉ n.toList := by
  by_cases hslash : '/' ∈ p.toList
  · right
    obtain ⟨after, before, hreverse, hafter⟩ :=
      List.eq_append_cons_of_mem (List.mem_reverse.mpr hslash)
    have hp := congrArg List.reverse hreverse
    refine ⟨String.ofList before.reverse, String.ofList after.reverse, ?_, by simpa using hafter⟩
    rw [← String.toList_inj]
    simpa using hp
  · exact .inl hslash

/-- What stands behind a slash is walked after what stands in front of it. -/
theorem steps_append {front : String} (h : front = "" ∨ endsInSlash front) (back : String) :
    steps (front ++ back) = steps front ++ steps back := by
  rcases h with rfl | hslash
  · rw [String.empty_append]
    rfl
  · obtain ⟨dir, hdir⟩ := List.getLast?_eq_some_iff.mp (beq_iff_eq.mp hslash)
    have hfront : front = String.ofList dir ++ "/" ++ "" := by
      rw [← String.toList_inj, hdir]
      simp
    have hempty : steps "" = [] := rfl
    rw [hfront, steps_append_slash (String.ofList dir) "", hempty, List.append_nil,
      String.append_empty]
    exact steps_append_slash (String.ofList dir) back

/-- A path inside a directory is walked through the directory. -/
theorem steps_join {p : String} (hp : isAbsolute p = false) (base : String) :
    steps (join base p) = steps base ++ steps p := by
  rw [join, hp, if_neg Bool.false_ne_true]
  split
  · rename_i hbase
    exact steps_append hbase p
  · exact steps_append_slash base p

/-- What is put into an absolute directory is absolute. -/
theorem isAbsolute_join {base : String} (hbase : isAbsolute base) (p : String) :
    isAbsolute (join base p) := by
  rw [isAbsolute, beq_iff_eq] at hbase
  obtain ⟨rest, hrest⟩ := List.head?_eq_some_iff.mp hbase
  rw [join]
  split
  · assumption
  · split
    · rw [isAbsolute, String.toList_append, hrest]
      rfl
    · rw [isAbsolute, String.toList_append, String.toList_append, hrest]
      rfl

end Filesystem.Path

namespace Filesystem.Tree

/-- A walk goes on where its first part leads to. -/
theorem walk_append (t : Tree) (loc : Location) (first second : List Step) :
    t.walk loc (first ++ second) = (t.walk loc first).bind fun loc => t.walk loc second := by
  induction first generalizing loc with
  | nil => simp only [List.nil_append, walk, Except.bind]
  | cons s rest ih =>
    simp only [List.cons_append, walk]
    cases t.get? loc with
    | none => rfl
    | some node =>
      cases node with
      | file content => rfl
      | directory =>
        cases s with
        | here => exact ih loc
        | up => exact ih loc.dropLast
        | name n =>
          simp only
          split
          · rfl
          · exact ih (loc ++ [n])

/-- A text can stand for an entry of a directory. -/
def isEntryName (n : String) : Bool :=
  n ≠ "" && n ≠ "." && n ≠ ".." && !n.toList.contains '/' && !n.toList.contains '\x00'

/-- A directory stands in a tree if the walk to it from the root succeeds. -/
structure Stands (t : Tree) (loc : Location) : Prop where
  /-- It has a path. -/
  names : ∀ n ∈ loc, isEntryName n
  /-- The path can be walked. -/
  walk : t.walk [] (loc.map .name) = .ok loc

/-- The path of a place is walked name by name. -/
theorem steps_intercalate {loc : Location} (h : ∀ n ∈ loc, isEntryName n) :
    Path.steps ("/".intercalate loc) = loc.map .name := by
  have hname : ∀ n ∈ loc, Path.steps n = [.name n] := by
    intro n hn
    have hentry := h n hn
    simp only [isEntryName, Bool.and_eq_true, decide_eq_true_eq, Bool.not_eq_true',
      List.contains_eq_mem, decide_eq_false_iff_not] at hentry
    obtain ⟨⟨⟨⟨hempty, hhere⟩, hup⟩, hslash⟩, -⟩ := hentry
    exact Path.steps_of_name hslash hempty hhere hup
  clear h
  induction loc with
  | nil => rfl
  | cons n rest ih =>
    have hrest := ih fun m hm => hname m (List.mem_cons_of_mem _ hm)
    cases rest with
    | nil => simpa using hname n List.mem_cons_self
    | cons m more =>
      rw [String.intercalate_cons_cons, Path.steps_append_slash, hname n List.mem_cons_self, hrest]
      rfl

/-- A path can be walked if it is neither empty nor too long and has no NUL character. -/
theorem admits_eq_ok_iff {path : String} :
    admits path = .ok () ↔
      '\x00' ∉ path.toList ∧ path ≠ "" ∧ path.utf8ByteSize < longestPath := by
  have hcontains : path.toList.contains '\x00' = true ↔ '\x00' ∈ path.toList :=
    List.contains_iff_mem
  rw [admits]
  split
  · rename_i hnul
    exact iff_of_false nofun fun h => h.1 (hcontains.mp hnul)
  · rename_i hnul
    split
    · rename_i hempty
      exact iff_of_false nofun fun h => h.2.1 hempty
    · rename_i hempty
      split
      · rename_i hlength
        exact iff_of_false nofun fun h => Nat.not_le.mpr h.2.2 hlength
      · rename_i hlength
        exact iff_of_true rfl
          ⟨fun hmem => hnul (hcontains.mpr hmem), hempty, Nat.not_le.mp hlength⟩

/-- If a path inside a directory can be walked then so can the path on its own. -/
theorem admits_of_join {base path : String} (hempty : path ≠ "")
    (h : admits (Path.join base path) = .ok ()) : admits path = .ok () := by
  obtain ⟨front, hfront⟩ := Path.exists_join_eq base path
  obtain ⟨hnul, -, hlength⟩ := admits_eq_ok_iff.mp (hfront ▸ h)
  rw [String.toList_append, List.mem_append] at hnul
  rw [String.utf8ByteSize_append] at hlength
  exact admits_eq_ok_iff.mpr
    ⟨fun hmem => hnul (.inr hmem), hempty, Nat.lt_of_le_of_lt (Nat.le_add_left _ _) hlength⟩

/-- From a directory that stands, a path leads to where it leads to from the root with the path of
the directory in front. -/
theorem lookup_join {t : Tree} {cwd : Location} {base path : String}
    (habsolute : Path.isAbsolute base) (hsteps : Path.steps base = cwd.map .name)
    (hwalk : t.walk [] (cwd.map .name) = .ok cwd) (hempty : path ≠ "")
    (hjoin : admits (Path.join base path) = .ok ()) :
    t.lookup cwd (Path.join base path) = t.lookup cwd path := by
  cases hrelative : Path.isAbsolute path with
  | true => rw [Path.join, if_pos hrelative]
  | false =>
    have horigin : origin cwd (Path.join base path) = [] :=
      if_pos (Path.isAbsolute_join habsolute path)
    have hstart : origin cwd path = cwd := by
      rw [origin, hrelative, if_neg Bool.false_ne_true]
    have hends : Path.endsInSlash (Path.join base path) = Path.endsInSlash path := by
      obtain ⟨front, hfront⟩ := Path.exists_join_eq base path
      have hchars : path.toList ≠ [] := by simpa using hempty
      rw [hfront, Path.endsInSlash, Path.endsInSlash, String.toList_append, List.getLast?_append,
        List.getLast?_eq_some_getLast hchars]
      rfl
    rw [lookup, lookup, hjoin, admits_of_join hempty hjoin, horigin, hstart, hends,
      Path.steps_join hrelative, hsteps, walk_append, hwalk]
    rfl

/-- A file with the bytes of a text holds the text. -/
theorem readText_of_lookup {t : Tree} {cwd : Location} {path source : String}
    (h : t.lookup cwd path = .ok (.file source.toUTF8)) : t.readText cwd path = .ok source := by
  have hdecode : String.fromUTF8? source.toUTF8 = some source := dif_pos source.isValidUTF8
  rw [readText, h]
  simp only [bind, Except.bind, hdecode]

end Filesystem.Tree

end TelemetryGate
