import TelemetryGate.Proofs.Filesystem.Folders
import TelemetryGate.Proofs.Filesystem.Keeping

/-!
# What making directories makes

Making the directories around a file makes nothing but directories, and only such as stand on the
way to the file; opening the file makes nothing but the file, without content. Both only fill places
that are free, so what stands somewhere stays there. Where the file stands already nothing is made at
all.
-/

namespace TelemetryGate.Filesystem.Tree

variable {t t' t'' : Tree} {start loc place : Location} {steps : List Step}

/-! ## Walks -/

/-- Where one step leads from a place. -/
inductive Takes : Step → Location → Location → Prop where
  /-- A step on the spot. -/
  | here (loc : Location) : Takes .here loc loc
  /-- A step to the parent. -/
  | up (loc : Location) : Takes .up loc loc.dropLast
  /-- A step to a name that is not too long. -/
  | name (loc : Location) {n : String} (fits : n.utf8ByteSize ≤ longestName) :
    Takes (.name n) loc (loc ++ [n])

/-- A walk succeeds if it starts from a directory and goes on from where its first step leads. -/
theorem walk_cons_iff {s : Step} {rest : List Step} :
    t.walk start (s :: rest) = .ok loc ↔
      t.get? start = some .directory ∧ ∃ next, Takes s start next ∧ t.walk next rest = .ok loc := by
  cases hnode : t.get? start with
  | none => cases s <;> simp [walk, hnode]
  | some node =>
    cases node with
    | file content => cases s <;> simp [walk, hnode]
    | directory =>
      constructor
      · intro hwalk
        refine ⟨rfl, ?_⟩
        cases s with
        | here => exact ⟨start, .here start, by simpa [walk, hnode] using hwalk⟩
        | up => exact ⟨_, .up start, by simpa [walk, hnode] using hwalk⟩
        | name n =>
          simp only [walk, hnode] at hwalk
          split at hwalk
          · cases hwalk
          · rename_i hfits
            exact ⟨_, .name start (Nat.not_lt.mp hfits), hwalk⟩
      · rintro ⟨-, next, hstep, hwalk⟩
        cases hstep with
        | here => simpa [walk, hnode] using hwalk
        | up => simpa [walk, hnode] using hwalk
        | name _ hfits => simpa [walk, hnode, Nat.not_lt.mpr hfits] using hwalk

/-- A walk that succeeds in a tree leads to the same place in a tree that keeps it. -/
theorem Keeps.walk (h : t.Keeps t') (hwalk : t.walk start steps = .ok loc) :
    t'.walk start steps = .ok loc := by
  induction steps generalizing start with
  | nil => exact hwalk
  | cons s rest ih =>
    obtain ⟨hdirectory, next, hstep, hrest⟩ := walk_cons_iff.mp hwalk
    exact walk_cons_iff.mpr ⟨h start _ hdirectory, next, hstep, ih hrest⟩

/-- Steps on the spot can be left out of a walk. -/
theorem walk_filter (hwalk : t.walk start steps = .ok loc) :
    t.walk start (steps.filter (· ≠ .here)) = .ok loc := by
  induction steps generalizing start with
  | nil => exact hwalk
  | cons s rest ih =>
    obtain ⟨hdirectory, next, hstep, hrest⟩ := walk_cons_iff.mp hwalk
    cases hstep with
    | here => exact ih hrest
    | up => exact walk_cons_iff.mpr ⟨hdirectory, _, .up start, ih hrest⟩
    | name _ hfits => exact walk_cons_iff.mpr ⟨hdirectory, _, .name start hfits, ih hrest⟩

/-- The steps of a path that count lead where all its steps lead. -/
theorem walk_components {path : String} (hwalk : t.walk start (Path.steps path) = .ok loc) :
    t.walk start (Path.components path) = .ok loc := by
  rw [Path.components]
  cases hsteps : Path.steps path with
  | nil => rwa [hsteps] at hwalk
  | cons s rest =>
    rw [hsteps] at hwalk
    dsimp only
    split
    · rename_i hhere
      obtain ⟨rfl, -⟩ := hhere
      obtain ⟨hdirectory, next, hstep, hrest⟩ := walk_cons_iff.mp hwalk
      exact walk_cons_iff.mpr ⟨hdirectory, next, hstep, walk_filter hrest⟩
    · exact walk_filter hwalk

/-- A walk can be stopped after each step. -/
theorem exists_walk_of_append {first rest : List Step}
    (hwalk : t.walk start (first ++ rest) = .ok loc) :
    ∃ mid, t.walk start first = .ok mid ∧ t.walk mid rest = .ok loc := by
  rw [walk_append] at hwalk
  cases hfirst : t.walk start first with
  | error fault =>
    rw [hfirst] at hwalk
    cases hwalk
  | ok mid =>
    rw [hfirst] at hwalk
    exact ⟨mid, rfl, hwalk⟩

/-! ## Directories on the way -/

/-- A place that some first steps of a way lead to. -/
def OnTheWay (t : Tree) (start : Location) (steps : List Step) (loc : Location) : Prop :=
  ∃ first, first <+: steps ∧ t.walk start first = .ok loc

/-- All that was made between two trees are directories on a way. -/
structure MadeOnTheWay (t t' : Tree) (start : Location) (steps : List Step) : Prop where
  /-- What stood somewhere stands there still. -/
  keeps : t.Keeps t'
  /-- What stands at a free place now is a directory on the way. -/
  made : ∀ loc node, t'.get? loc = some node → t.get? loc = none →
    node = .directory ∧ t'.OnTheWay start steps loc

theorem MadeOnTheWay.refl (t : Tree) (start : Location) (steps : List Step) :
    t.MadeOnTheWay t start steps := by
  refine ⟨.refl t, fun loc node hnode hfree => ?_⟩
  rw [hnode] at hfree
  cases hfree

/-- What was made on the first steps of a way, and then on all of it, was made on the way. -/
theorem MadeOnTheWay.trans {first : List Step} (hfirst : first <+: steps)
    (h : t.MadeOnTheWay t' start first) (h' : t'.MadeOnTheWay t'' start steps) :
    t.MadeOnTheWay t'' start steps := by
  refine ⟨h.keeps.trans h'.keeps, fun loc node hnode hfree => ?_⟩
  cases hmid : t'.get? loc with
  | none => exact h'.made loc node hnode hmid
  | some found =>
    obtain rfl := Option.some.inj (hnode.symm.trans (h'.keeps loc found hmid))
    obtain ⟨hdirectory, way, hway, hwalk⟩ := h.made loc node hmid hfree
    exact ⟨hdirectory, way, hway.trans hfirst, h'.keeps.walk hwalk⟩

/-- Filling a free place that a way leads to with a directory. -/
theorem madeOnTheWay_set (hfree : t.get? loc = none) (hwalk : t.walk start steps = .ok loc) :
    t.MadeOnTheWay (t.set loc .directory) start steps := by
  have hkeeps := keeps_set hfree .directory
  have hroot : loc ≠ [] := by
    rintro rfl
    cases hfree
  refine ⟨hkeeps, fun other node hnode hother => ?_⟩
  by_cases hsame : other = loc
  · subst hsame
    rw [get?_set_self t hroot] at hnode
    cases hnode
    exact ⟨rfl, steps, List.prefix_rfl, hkeeps.walk hwalk⟩
  · rw [get?_set_of_ne t hsame, hother] at hnode
    cases hnode

/-- Making one directory makes it at the free place where the steps lead to. The steps are given from
the last to the first. -/
theorem makeDirectory_cases (h : t.makeDirectory start steps = .ok t') :
    ∃ loc, t.walk start steps.reverse = .ok loc ∧ t.get? loc = none ∧
      t' = t.set loc .directory := by
  match steps with
  | [] => cases h
  | .name n :: before =>
    simp only [makeDirectory, bind, Except.bind] at h
    split at h
    · cases h
    · rename_i dir hdir
      split at h
      · cases h
      · rename_i loc hloc
        split at h
        · cases h
        · rename_i hfree
          cases h
          refine ⟨loc, ?_, hfree, rfl⟩
          rw [List.reverse_cons, walk_append, hdir]
          exact hloc
  | .here :: before | .up :: before =>
    simp only [makeDirectory, bind, Except.bind] at h
    split at h <;> cases h

theorem makeDirectory_made (h : t.makeDirectory start steps = .ok t') :
    t.MadeOnTheWay t' start steps.reverse := by
  obtain ⟨loc, hwalk, hfree, rfl⟩ := makeDirectory_cases h
  exact madeOnTheWay_set hfree hwalk

/-- Making directories makes them on the way, also where it fails. The steps are given from the last
to the first. -/
theorem makeDirectories_made (t : Tree) (start : Location) (steps : List Step) :
    t.MadeOnTheWay (t.makeDirectories start steps).1 start steps.reverse := by
  induction steps generalizing t with
  | nil => exact .refl t start _
  | cons s before ih =>
    have hfirst : before.reverse <+: (s :: before).reverse := by
      rw [List.reverse_cons]
      exact List.prefix_append _ _
    rw [makeDirectories]
    split
    · rename_i made hmade
      exact makeDirectory_made hmade
    · have hparents := ih t
      split
      · rename_i parents fault hfail
        rw [hfail] at hparents
        exact hparents.trans hfirst (.refl parents start _)
      · rename_i parents hdone
        rw [hdone] at hparents
        split
        · rename_i made hmade
          exact hparents.trans hfirst (makeDirectory_made hmade)
        · exact hparents.trans hfirst (.refl parents start _)
    · exact .refl t start _

/-- Nothing is made where the steps lead to a directory. The steps are given from the last to the
first. -/
theorem makeDirectories_of_walk (hwalk : t.walk start steps.reverse = .ok loc)
    (hdirectory : t.get? loc = some .directory) : (t.makeDirectories start steps).1 = t := by
  cases steps with
  | nil => rfl
  | cons s before =>
    have hexists : t.makeDirectory start (s :: before) = .error .alreadyExists := by
      cases s with
      | name n =>
        rw [List.reverse_cons] at hwalk
        obtain ⟨dir, hdir, hname⟩ := exists_walk_of_append hwalk
        simp only [makeDirectory, hdir, hname, hdirectory, bind, Except.bind]
      | here => simp only [makeDirectory, hwalk, bind, Except.bind]
      | up => simp only [makeDirectory, hwalk, bind, Except.bind]
    simp only [makeDirectories, hexists]

/-! ## The directories around a file, and the file -/

/-- The way to what a path names, without the last step. -/
def wayTo (path : String) : List Step := (Path.components path).dropLast

/-- Making the directories around what a path names makes those on the way to it, or nothing. -/
theorem makeParents_cases (t : Tree) (cwd : Location) (path : String) :
    (t.makeParents cwd path).1 = t ∨ Path.components path ≠ [] ∧
      (t.makeParents cwd path).1 =
        (t.makeDirectories (origin cwd path) (wayTo path).reverse).1 := by
  unfold makeParents
  split
  · exact .inl rfl
  · exact .inl rfl
  · rename_i steps _ hparent
    split
    · exact .inl rfl
    · split
      · exact .inl rfl
      · rw [Path.parent?] at hparent
        split at hparent
        · cases hparent
        · rename_i hsome
          obtain rfl := Option.some.inj hparent
          exact .inr ⟨hsome, rfl⟩

/-- All that is made are directories on the way. -/
theorem makeParents_made (t : Tree) (cwd : Location) (path : String) :
    t.MadeOnTheWay (t.makeParents cwd path).1 (origin cwd path) (wayTo path) := by
  rcases t.makeParents_cases cwd path with hnone | ⟨-, hmade⟩
  · rw [hnone]
    exact .refl t _ _
  · rw [hmade]
    have hdirectories := t.makeDirectories_made (origin cwd path) (wayTo path).reverse
    rwa [List.reverse_reverse (wayTo path)] at hdirectories

/-- Where a file stands at a path no directories are made around it. -/
theorem makeParents_of_isFile {cwd : Location} {path : String} (h : t.isFile cwd path = true) :
    (t.makeParents cwd path).1 = t := by
  rcases t.makeParents_cases cwd path with hnone | ⟨hsome, hmade⟩
  · exact hnone
  · obtain ⟨place, hplace⟩ := exists_leadsTo_of_isFile h
    have hwalk := walk_components hplace
    -- The last step starts from a directory, which is the one that would be made.
    rw [← List.dropLast_append_getLast hsome] at hwalk
    obtain ⟨dir, hdir, hlast⟩ := exists_walk_of_append hwalk
    rw [hmade]
    refine makeDirectories_of_walk ?_ (walk_cons_iff.mp hlast).1
    rwa [List.reverse_reverse]

/-- Opening a file leaves the tree as it is, or makes the file without content at a free place that
the path leads to. -/
theorem openAppend_cases {cwd : Location} {path : String}
    (h : t.openAppend cwd path = .ok (t', place)) :
    t.LeadsTo cwd path place ∧ ((t' = t ∧ ∃ content, t.get? place = some (.file content)) ∨
      (t.get? place = none ∧ t' = t.set place (.file .empty))) := by
  simp only [openAppend, bind, Except.bind] at h
  split at h
  · cases h
  · split at h
    · rename_i n before hsteps
      split at h
      · cases h
      · rename_i dir hdir
        split at h
        · cases h
        · rename_i loc hloc
          have hleads : t.LeadsTo cwd path loc := by
            rw [LeadsTo, ← List.reverse_reverse (Path.steps path), hsteps, List.reverse_cons,
              walk_append, hdir]
            exact hloc
          by_cases hslash : Path.endsInSlash path
          · rw [if_pos hslash] at h
            cases h
          · rw [if_neg hslash] at h
            cases hnode : t.get? loc with
            | none =>
              rw [hnode] at h
              cases h
              exact ⟨hleads, .inr ⟨hnode, rfl⟩⟩
            | some node =>
              rw [hnode] at h
              cases node with
              | directory => cases h
              | file content =>
                cases h
                exact ⟨hleads, .inl ⟨rfl, content, hnode⟩⟩
    · split at h <;> cases h

/-- Opening a file keeps the tree, and a file stands at the place that is opened. -/
theorem openAppend_keeps {cwd : Location} {path : String}
    (h : t.openAppend cwd path = .ok (t', place)) :
    t.Keeps t' ∧ ∃ content, t'.get? place = some (.file content) := by
  obtain ⟨-, ⟨rfl, hcontent⟩ | ⟨hfree, rfl⟩⟩ := openAppend_cases h
  · exact ⟨.refl t', hcontent⟩
  · have hroot : place ≠ [] := by
      rintro rfl
      cases hfree
    exact ⟨keeps_set hfree _, _, t.get?_set_self hroot _⟩

/-- Opening a file that stands at a path leaves the tree as it is. -/
theorem openAppend_of_isFile {cwd : Location} {path : String} (hfile : t.isFile cwd path = true)
    (h : t.openAppend cwd path = .ok (t', place)) : t' = t := by
  obtain ⟨hleads, ⟨hsame, -⟩ | ⟨hfree, -⟩⟩ := openAppend_cases h
  · exact hsame
  · rw [isFile, lookup] at hfile
    cases hadmits : admits path with
    | error fault =>
      rw [hadmits] at hfile
      cases hfile
    | ok _ =>
      rw [LeadsTo] at hleads
      simp only [hadmits, hleads, hfree, bind, Except.bind] at hfile
      cases hfile

end TelemetryGate.Filesystem.Tree
