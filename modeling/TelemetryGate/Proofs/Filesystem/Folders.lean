import Mathlib.Data.List.TakeWhile
import TelemetryGate.Proofs.Filesystem.Paths

/-!
# Folders

The last slash of a path cuts it in the path of a folder and a name. What is put into a directory
stands in the folder that its own path has there, which need not be the directory: the folder may be
a part of it, lead out of it, or start at the root.
-/

namespace TelemetryGate.Filesystem

namespace Path

/-- A path up to its last slash. -/
def folder (p : String) : String := String.ofList (p.toList.reverse.dropWhile (· ≠ '/')).reverse

/-- The name behind the last slash of a path. -/
def lastName (p : String) : String := String.ofList (p.toList.reverse.takeWhile (· ≠ '/')).reverse

theorem folder_append_lastName (p : String) : folder p ++ lastName p = p := by
  rw [folder, lastName, ← String.ofList_append, ← List.reverse_append, List.takeWhile_append_dropWhile,
    List.reverse_reverse, String.ofList_toList]

theorem folder_eq_empty_or_endsInSlash (p : String) : folder p = "" ∨ endsInSlash (folder p) := by
  have hlast := List.head?_dropWhile_not (fun c => decide (c ≠ '/')) p.toList.reverse
  rw [endsInSlash, folder, String.toList_ofList, List.getLast?_reverse]
  cases hrest : p.toList.reverse.dropWhile (· ≠ '/') with
  | nil => exact .inl rfl
  | cons c rest =>
    rw [hrest] at hlast
    right
    simpa using hlast

section WithoutSlash

variable {n : String} (hn : '/' ∉ n.toList)
include hn

private theorem ne_slash_of_mem_reverse {c : Char} (h : c ∈ n.toList.reverse) :
    decide (c ≠ '/') = true :=
  decide_eq_true fun hc => hn (hc ▸ List.mem_reverse.mp h)

/-- What has no slash belongs to the last name. -/
theorem folder_append (p : String) : folder (p ++ n) = folder p := by
  rw [folder, folder, String.toList_append, List.reverse_append,
    List.dropWhile_append_of_pos fun c => ne_slash_of_mem_reverse hn]

theorem lastName_append (p : String) : lastName (p ++ n) = lastName p ++ n := by
  rw [lastName, lastName, String.toList_append, List.reverse_append,
    List.takeWhile_append_of_pos fun c => ne_slash_of_mem_reverse hn, List.reverse_append,
    List.reverse_reverse, String.ofList_append, String.ofList_toList]

theorem folder_of_not_mem : folder n = "" := by
  have h := folder_append hn ""
  rwa [String.empty_append] at h

theorem lastName_of_not_mem : lastName n = n := by
  have h := lastName_append hn ""
  rwa [String.empty_append] at h

end WithoutSlash

theorem slash_not_mem_lastName (p : String) : '/' ∉ (lastName p).toList := by
  rw [lastName, String.toList_ofList, List.mem_reverse]
  intro hmem
  simpa using List.mem_takeWhile_imp hmem

theorem isAbsolute_append {front : String} (h : front ≠ "") (back : String) :
    isAbsolute (front ++ back) = isAbsolute front := by
  have hchars : front.toList ≠ [] := by simpa using h
  rw [isAbsolute, isAbsolute, String.toList_append, List.head?_append,
    List.head?_eq_some_head hchars]
  rfl

theorem not_isAbsolute {n : String} (hn : '/' ∉ n.toList) : isAbsolute n = false := by
  rw [isAbsolute, beq_eq_false_iff_ne]
  exact fun hhead => hn (List.mem_of_mem_head? hhead)

/-- Whether a path is absolute is told by its folder. -/
theorem isAbsolute_folder (p : String) : isAbsolute (folder p) = isAbsolute p := by
  have hp := folder_append_lastName p
  by_cases hfolder : folder p = ""
  · rw [hfolder, String.empty_append] at hp
    rw [hfolder, ← hp, not_isAbsolute (slash_not_mem_lastName p)]
    rfl
  · rw [← isAbsolute_append hfolder (lastName p), hp]

/-- What is put into a directory is put into a folder of it. -/
theorem join_eq_append (base p : String) : join base p = join base (folder p) ++ lastName p := by
  rw [join, join, isAbsolute_folder]
  split
  · exact (folder_append_lastName p).symm
  · split
    · simp only [String.append_assoc, folder_append_lastName]
    · simp only [String.append_assoc, folder_append_lastName]

theorem endsInSlash_append {front back : String} (h : back ≠ "") :
    endsInSlash (front ++ back) = endsInSlash back := by
  have hchars : back.toList ≠ [] := by simpa using h
  rw [endsInSlash, endsInSlash, String.toList_append, List.getLast?_append,
    List.getLast?_eq_some_getLast hchars]
  rfl

/-- The path of a folder in a directory ends in a slash. -/
theorem endsInSlash_join_folder {base : String} (hbase : base ≠ "") (p : String) :
    endsInSlash (join base (folder p)) := by
  rcases folder_eq_empty_or_endsInSlash p with hfolder | hfolder
  · rw [hfolder, join, if_neg (by decide), String.append_empty, String.append_empty]
    split
    · rename_i hslash
      exact hslash.resolve_left hbase
    · rw [endsInSlash_append (by decide)]
      rfl
  · obtain ⟨front, hfront⟩ := exists_join_eq base (folder p)
    have hne : folder p ≠ "" := by
      rintro hempty
      rw [hempty] at hfolder
      cases hfolder
    rwa [hfront, endsInSlash_append hne]

end Path

namespace Tree

/-- A path leads to a place. -/
def LeadsTo (t : Tree) (cwd : Location) (path : String) (place : Location) : Prop :=
  t.walk (origin cwd path) (Path.steps path) = .ok place

instance (t : Tree) (cwd : Location) (path : String) (place : Location) :
    Decidable (t.LeadsTo cwd path place) :=
  inferInstanceAs (Decidable (_ = _))

/-- A path leads to a name directly inside the folder that another path leads to. -/
def LeadsInto (t : Tree) (cwd : Location) (folder path name : String) : Prop :=
  ∃ place, t.LeadsTo cwd folder place ∧ t.LeadsTo cwd path (place ++ [name])

/-- Two paths lead to one place. -/
def LeadAlike (t : Tree) (cwd : Location) (path other : String) : Prop :=
  ∃ place, t.LeadsTo cwd path place ∧ t.LeadsTo cwd other place

variable {t : Tree} {cwd : Location}

theorem LeadsTo.unique {path : String} {place other : Location} (h : t.LeadsTo cwd path place)
    (hother : t.LeadsTo cwd path other) : place = other :=
  Except.ok.inj (h.symm.trans hother)

/-- A file stands at a path only if the path leads somewhere. -/
theorem exists_leadsTo_of_isFile {path : String} (h : t.isFile cwd path = true) :
    ∃ place, t.LeadsTo cwd path place := by
  rw [isFile, lookup] at h
  cases hadmits : admits path with
  | error fault =>
    rw [hadmits] at h
    cases h
  | ok _ =>
    cases hwalk : t.walk (origin cwd path) (Path.steps path) with
    | error fault =>
      rw [hadmits, hwalk] at h
      cases h
    | ok place => exact ⟨place, hwalk⟩

/-- A walk that ends in a name ends inside the place where the name is looked up. -/
theorem exists_of_walk_name {loc place : Location} {before : List Step} {n : String}
    (h : t.walk loc (before ++ [.name n]) = .ok place) :
    ∃ dir, t.walk loc before = .ok dir ∧ place = dir ++ [n] := by
  rw [walk_append] at h
  cases hbefore : t.walk loc before with
  | error fault =>
    rw [hbefore] at h
    cases h
  | ok dir =>
    rw [hbefore] at h
    refine ⟨dir, rfl, ?_⟩
    change t.walk dir [.name n] = .ok place at h
    rw [walk] at h
    split at h
    · cases h
    · cases h
    · split at h
      · cases h
      · exact (Except.ok.inj h).symm

/-- A file at a path inside a directory stands in the folder of the path there. -/
theorem leadsInto_of_isFile {base path : String} (hbase : base ≠ "")
    (hname : Path.steps (Path.lastName path) = [.name (Path.lastName path)])
    (h : t.isFile cwd (Path.join base path) = true) :
    t.LeadsInto cwd (Path.join base (Path.folder path)) (Path.join base path)
      (Path.lastName path) := by
  have hslash := Path.endsInSlash_join_folder hbase path
  have hfolder : Path.join base (Path.folder path) ≠ "" := by
    rintro hempty
    rw [hempty] at hslash
    cases hslash
  have hsteps : Path.steps (Path.join base path) =
      Path.steps (Path.join base (Path.folder path)) ++ [.name (Path.lastName path)] := by
    rw [Path.join_eq_append base path, Path.steps_append (.inr hslash), hname]
  have horigin : origin cwd (Path.join base path) =
      origin cwd (Path.join base (Path.folder path)) := by
    rw [origin, origin, Path.join_eq_append base path, Path.isAbsolute_append hfolder]
  obtain ⟨place, hplace⟩ := exists_leadsTo_of_isFile h
  have hwalk := hplace
  rw [LeadsTo, hsteps, horigin] at hwalk
  obtain ⟨dir, hdir, rfl⟩ := exists_of_walk_name hwalk
  exact ⟨dir, hdir, hplace⟩

/-- A slash at the end of a path leads nowhere else. -/
theorem leadsTo_join_empty {base : String} {place : Location} :
    t.LeadsTo cwd (Path.join base "") place ↔ t.LeadsTo cwd base place := by
  have hsteps : Path.steps (Path.join base "") = Path.steps base :=
    (Path.steps_join (by decide) base).trans (List.append_nil _)
  have habsolute : Path.isAbsolute (Path.join base "") = Path.isAbsolute base := by
    by_cases hbase : base = ""
    · subst hbase
      rfl
    · rw [Path.join, if_neg (by decide)]
      split
      · rw [String.append_empty]
      · rw [String.append_empty, Path.isAbsolute_append hbase]
  rw [LeadsTo, LeadsTo, hsteps, origin, origin, habsolute]

/-- A file at a name inside a directory stands directly inside the directory. -/
theorem leadsInto_of_isFile_name {base n : String} (hbase : base ≠ "") (hn : '/' ∉ n.toList)
    (hname : Path.steps n = [.name n]) (h : t.isFile cwd (Path.join base n) = true) :
    t.LeadsInto cwd base (Path.join base n) n := by
  have hlast := Path.lastName_of_not_mem hn
  obtain ⟨place, hplace, hpath⟩ := leadsInto_of_isFile hbase (by rw [hlast, hname]) h
  rw [Path.folder_of_not_mem hn] at hplace
  rw [hlast] at hpath
  exact ⟨place, leadsTo_join_empty.mp hplace, hpath⟩

/-- What stands in one folder stands directly inside another one only if both are one folder. -/
theorem LeadsInto.leadAlike_iff {folder other path name : String}
    (h : t.LeadsInto cwd folder path name) :
    t.LeadAlike cwd other folder ↔ ∃ n, t.LeadsInto cwd other path n := by
  obtain ⟨place, hfolder, hpath⟩ := h
  constructor
  · rintro ⟨same, hother, hsame⟩
    obtain rfl := hsame.unique hfolder
    exact ⟨name, same, hother, hpath⟩
  · rintro ⟨n, dir, hdir, hinto⟩
    obtain ⟨rfl, -⟩ := List.append_inj' (hinto.unique hpath) rfl
    exact ⟨dir, hdir, hfolder⟩

end Tree

end TelemetryGate.Filesystem
