import TelemetryGate.Proofs.Settings.Layers

/-!
# What merging leaves at a place

Layers may hold anything: keys in any case, keys that name places deeper down, lists and tables in
the way of settings. The tree that they are merged to is a table in order all the same. A key at its
top holds the last value without parts that a layer set there, unless it holds a list or a table;
and a place keeps what it holds as long as no layer sets something on the way to it or below it.
-/

namespace TelemetryGate

namespace Setting

variable {origin : Option String} {steps : List Access} {path : List String}

/-! ## Places that are left alone -/

/-- Some steps end at a place, on the way to it or below it, or turn into a list on the way. -/
def overlaps : List Access → List String → Bool
  | .key name :: steps, key :: path => name == key && overlaps steps path
  | _, _ => true

/-- The steps to a place overlap it. -/
theorem overlaps_self (path : List String) : overlaps (path.map .key) path = true := by
  induction path with
  | nil => rfl
  | cons key path ih => simpa [overlaps] using ih

/-- Setting a value leaves the places alone that the steps do not overlap. -/
theorem at?_setBelow_of_apart (value : Setting) (hlower : LowerBefore steps)
    (h : overlaps (lowered steps) path = false) (target : Setting) :
    (setBelow value steps target).at? path = target.at? path := by
  induction steps generalizing path target with
  | nil => cases h
  | cons step rest ih =>
    cases path with
    | nil => cases step <;> cases h
    | cons key path =>
      cases step with
      | item i => cases h
      | key name =>
        cases rest with
        | nil =>
          have hkey : key ≠ Text.lower name := by
            rintro rfl
            cases path <;> simp [lowered, overlaps] at h
          rw [setBelow, at?_cons, get?_put, if_neg hkey, at?_cons]
        | cons next rest =>
          have hname : Text.lower name = name := hlower name (by simp)
          rw [at?_setBelow_cons (List.cons_ne_nil _ _)]
          split
          · rename_i hkey
            subst hkey
            have hbelow : overlaps (lowered (next :: rest)) path = false := by
              simpa [lowered, overlaps, hname] using h
            have hpath : path ≠ [] := by
              rintro rfl
              cases next <;> cases hbelow
            rw [ih (fun n hn => hlower n (List.mem_cons_of_mem _ hn)) hbelow,
              at?_cons_eq_getD hpath absent rfl]
          · rfl

/-- A value without parts stands at the end of the steps that it was set at. -/
theorem at?_setBelow_self (value : Scalar) (hlower : LowerBefore steps)
    (h : lowered steps = path.map .key) (target : Setting) :
    (setBelow (scalar origin value) steps target).at? path = some (scalar origin value) := by
  induction steps generalizing path target with
  | nil =>
    obtain rfl : path = [] := by simpa [lowered] using h.symm
    rfl
  | cons step rest ih =>
    cases path with
    | nil => cases h
    | cons key path =>
      obtain ⟨hstep, hrest⟩ := List.cons.inj h
      cases step with
      | item i => cases hstep
      | key name =>
        have hkey : Text.lower name = key := Access.key.inj hstep
        cases rest with
        | nil =>
          obtain rfl : path = [] := by simpa using hrest.symm
          rw [setBelow, at?_singleton, get?_put, if_pos hkey.symm]
          rfl
        | cons next rest =>
          have hname : Text.lower name = name := hlower name (by simp)
          rw [at?_setBelow_cons (List.cons_ne_nil _ _), if_pos (hkey.symm.trans hname)]
          exact ih (fun n hn => hlower n (List.mem_cons_of_mem _ hn)) hrest _

/-! ## Keys at the top -/

/-- A list or a table that is put somewhere leaves what was there, or something with parts. -/
theorem agrees_laidOn_of_isCompound {value : Setting} (h : value.isCompound)
    (below? : Option Setting) : Agrees (some (value.laidOn below?)) below? := by
  cases value with
  | scalar _ _ => cases h
  | list origin items => exact .inr ⟨_, rfl, rfl⟩
  | table origin entries =>
    cases entries with
    | nil => exact agrees_laidOn (.table origin []) below?
    | cons e rest =>
      have htable := isTable_putAll_of_ne_nil (List.cons_ne_nil e rest) (below?.getD emptyTable)
      exact .inr ⟨_, rfl, isCompound_of_isTable htable⟩

/-- The value without parts that an entry of a layer sets a key at the top to. -/
def set? (key : String) (e : String × Setting) : Option Scalar :=
  match e.2 with
  | .scalar _ value => if (KeyPath.ofKey e.1).steps = [.key key] then some value else none
  | _ => none

/-- An entry that sets a key puts its value there. -/
theorem exists_at?_setKey_of_set? {key : String} {e : String × Setting} {value : Scalar}
    (h : set? key e = some value) (root : Setting) :
    ∃ origin, (setKey e.1 e.2 root).at? [key] = some (.scalar origin value) := by
  obtain ⟨place, setting⟩ := e
  cases setting with
  | list _ _ => cases h
  | table _ _ => cases h
  | scalar origin v =>
    obtain ⟨hplace, hvalue⟩ : (KeyPath.ofKey place).steps = [.key key] ∧ v = value := by
      simpa [set?] using h
    subst hvalue
    have hpath : (KeyPath.ofKey place).steps = [key].map .key := hplace
    exact ⟨origin, at?_setBelow_self v (KeyPath.lowerBefore_ofKey place) hpath root⟩

/-- An entry that does not set a key leaves what stands there, or something with parts. -/
theorem agrees_setKey_of_set?_eq_none {key : String} {e : String × Setting}
    (h : set? key e = none) (root : Setting) :
    Agrees ((setKey e.1 e.2 root).at? [key]) (root.at? [key]) := by
  obtain ⟨place, value⟩ := e
  rw [set?, KeyPath.steps] at h
  rw [setKey]
  generalize (KeyPath.ofKey place).top = top at *
  generalize (KeyPath.ofKey place).below = below at *
  cases below with
  | nil =>
    rw [setBelow, at?_singleton, at?_singleton, get?_put]
    split
    · rename_i hkey
      cases value with
      | scalar _ _ => simp [lowered, hkey] at h
      | list _ _ => exact agrees_laidOn_of_isCompound rfl _
      | table _ _ => exact agrees_laidOn_of_isCompound rfl _
    · exact .refl _
  | cons next rest =>
    rw [at?_setBelow_cons (List.cons_ne_nil _ _)]
    split
    · exact .inr ⟨_, rfl, isCompound_setBelow value next rest _⟩
    · exact .refl _

end Setting

open Setting (Agrees overlaps)

namespace Layer

variable {layer : Layer} {key : String}

/-- Putting a layer on top leaves a table. -/
theorem isTable_onto {root : Setting} (h : root.isTable) (layer : Layer) :
    (layer.onto root).isTable := by
  induction layer generalizing root with
  | nil => exact h
  | cons e rest ih => exact ih (Setting.isTable_setBelow e.2 _ _ root)

/-- It leaves the tables in order. -/
theorem ordered_onto {root : Setting} (h : root.Ordered) (layer : Layer) :
    (layer.onto root).Ordered := by
  induction layer generalizing root with
  | nil => exact h
  | cons e rest ih => exact ih (h.setBelow e.2 (List.cons_ne_nil _ _))

/-- What all layers keep is true of the tree that they are merged to. -/
theorem merge_induction {P : Setting → Prop} (hempty : P .emptyTable)
    (honto : ∀ root, P root → ∀ layer : Layer, P (layer.onto root)) (layers : List Layer) :
    P (merge layers) := by
  induction layers using List.reverseRecOn with
  | nil => exact hempty
  | append_singleton layers layer ih =>
    rw [merge, List.foldl_append]
    exact honto _ ih layer

theorem isTable_merge (layers : List Layer) : (merge layers).isTable :=
  merge_induction (P := fun root => root.isTable) rfl (fun _ => isTable_onto) layers

theorem ordered_merge (layers : List Layer) : (merge layers).Ordered :=
  merge_induction (Setting.ordered_of_entries rfl) (fun _ => ordered_onto) layers

/-- The layers on top are put on what those below are merged to. -/
theorem merge_append (below above : List Layer) :
    merge (below ++ above) = above.foldl (fun root layer => layer.onto root) (merge below) :=
  List.foldl_append

/-! ## Layers that set a key -/

/-- The values without parts that a layer sets a key at the top to. -/
def values (key : String) (layer : Layer) : List Scalar := layer.filterMap (Setting.set? key)

/-- What a layer does not set stays, or makes room for something with parts. -/
theorem agrees_onto_of_values_eq_nil (h : layer.values key = []) {root : Setting}
    {told : Option Setting} (hroot : Agrees (root.at? [key]) told) :
    Agrees ((layer.onto root).at? [key]) told := by
  induction layer generalizing root with
  | nil => exact hroot
  | cons e rest ih =>
    obtain ⟨hfirst, hrest⟩ := List.forall_mem_cons.mp (List.filterMap_eq_nil_iff.mp h)
    refine ih (List.filterMap_eq_nil_iff.mpr hrest) ?_
    exact (Setting.agrees_setKey_of_set?_eq_none hfirst root).trans hroot

/-- What a layer sets to one value only has that value, or is something with parts. -/
theorem agrees_onto_of_values {value : Scalar} (hne : layer.values key ≠ [])
    (hall : ∀ v ∈ layer.values key, v = value) (root : Setting) :
    ∃ origin, Agrees ((layer.onto root).at? [key]) (some (.scalar origin value)) := by
  induction layer generalizing root with
  | nil => exact absurd rfl hne
  | cons e rest ih =>
    by_cases hrest : values key rest = []
    · -- No later entry sets the key, so the first one does.
      cases hfirst : Setting.set? key e with
      | none => exact absurd ((List.filterMap_cons_none hfirst).trans hrest) hne
      | some v =>
        have hvalues : values key (e :: rest) = v :: values key rest :=
          List.filterMap_cons_some hfirst
        obtain rfl := hall v (hvalues ▸ List.mem_cons_self)
        obtain ⟨origin, hset⟩ := Setting.exists_at?_setKey_of_set? hfirst root
        exact ⟨origin, agrees_onto_of_values_eq_nil hrest (hset ▸ .refl _)⟩
    · refine ih hrest (fun v hv => hall v ?_) _
      obtain ⟨a, ha, hset⟩ := List.mem_filterMap.mp hv
      exact List.mem_filterMap.mpr ⟨a, List.mem_cons_of_mem _ ha, hset⟩

/-- A key that the last layer that sets it sets to one value only has that value, or is something
with parts. -/
theorem agrees_merge {below above : List Layer} {value : Scalar} (hne : layer.values key ≠ [])
    (hall : ∀ v ∈ layer.values key, v = value) (habove : ∀ later ∈ above, later.values key = []) :
    ∃ origin, Agrees ((merge (below ++ layer :: above)).at? [key])
      (some (.scalar origin value)) := by
  obtain ⟨origin, hstart⟩ := agrees_onto_of_values hne hall (merge below)
  refine ⟨origin, ?_⟩
  rw [merge_append, List.foldl_cons]
  generalize layer.onto (merge below) = root at hstart
  induction above generalizing root with
  | nil => exact hstart
  | cons later rest ih =>
    exact ih (fun l hl => habove l (List.mem_cons_of_mem _ hl)) _
      (agrees_onto_of_values_eq_nil (habove later List.mem_cons_self) hstart)

/-! ## Layers that leave a place alone -/

variable {path : List String}

/-- A place that no entry of a layer overlaps stays as it is. -/
theorem at?_onto_of_apart
    (h : ∀ e ∈ layer, overlaps (KeyPath.ofKey e.1).steps path = false) (root : Setting) :
    (layer.onto root).at? path = root.at? path := by
  induction layer generalizing root with
  | nil => rfl
  | cons e rest ih =>
    have hfirst : (Setting.setKey e.1 e.2 root).at? path = root.at? path :=
      Setting.at?_setBelow_of_apart e.2 (KeyPath.lowerBefore_ofKey e.1) (h e List.mem_cons_self)
        root
    rw [← hfirst]
    exact ih (fun a ha => h a (List.mem_cons_of_mem _ ha)) _

/-- An entry that no other entry of a layer overlaps stands at its place. -/
theorem at?_onto_of_mem {place : String} {origin : Option String} {value : Scalar}
    (hmem : (place, .scalar origin value) ∈ layer)
    (hplace : (KeyPath.ofKey place).steps = path.map .key)
    (hapart : ∀ e ∈ layer, e ≠ (place, .scalar origin value) →
      overlaps (KeyPath.ofKey e.1).steps path = false) (root : Setting) :
    (layer.onto root).at? path = some (.scalar origin value) := by
  induction layer generalizing root with
  | nil => cases hmem
  | cons e rest ih =>
    by_cases hlater : (place, .scalar origin value) ∈ rest
    · exact ih hlater (fun a ha => hapart a (List.mem_cons_of_mem _ ha)) _
    · obtain rfl : (place, .scalar origin value) = e := by
        rcases List.mem_cons.mp hmem with h | h
        · exact h
        · exact absurd h hlater
      have hfirst : (Setting.setKey place (.scalar origin value) root).at? path =
          some (.scalar origin value) :=
        Setting.at?_setBelow_self value (KeyPath.lowerBefore_ofKey place) hplace root
      rw [← hfirst]
      refine at?_onto_of_apart (fun a ha => hapart a (List.mem_cons_of_mem _ ha) ?_) _
      rintro rfl
      exact hlater ha

end Layer

/-! ## The layer of overrides -/

namespace Override

variable {environment : Variables} {key : String}

/-- What the overrides set a key to is the value of a variable with that place. -/
theorem exists_variable_of_mem_values {value : Scalar}
    (h : value ∈ (layer environment).values key) :
    ∃ v ∈ environment, place? v.1 = some [.key key] ∧ scalar v.2 = value := by
  obtain ⟨⟨place, setting⟩, hmem, hset⟩ := List.mem_filterMap.mp h
  obtain ⟨v, hv, hkey, rfl⟩ := exists_variable_of_mem_layer hmem
  obtain ⟨hplace, hvalue⟩ : (KeyPath.ofKey place).steps = [.key key] ∧ scalar v.2 = value := by
    simpa [Setting.set?] using hset
  exact ⟨v, hv, by rw [place?, hkey, Option.map_some, hplace], hvalue⟩

/-- A variable sets the key that is its place, if only by another variable for the same key. -/
theorem values_ne_nil_of_place? {v : String × String} (hv : v ∈ environment)
    (hplace : place? v.1 = some [.key key]) : (layer environment).values key ≠ [] := by
  obtain ⟨place, hkey, hsteps⟩ := Option.map_eq_some_iff.mp hplace
  obtain ⟨setting, hmem⟩ := exists_mem_layer hv hkey
  obtain ⟨other, -, -, rfl⟩ := exists_variable_of_mem_layer hmem
  exact List.ne_nil_of_mem (List.mem_filterMap.mpr ⟨_, hmem, if_pos hsteps⟩)

/-- Where no other variable overlaps its place, the value of a variable stands there. -/
theorem at?_onto_layer {name value : String} {path : List String}
    (hmem : (name, value) ∈ environment) (hplace : place? name = some (path.map .key))
    (hapart : ∀ other ∈ environment, other ≠ (name, value) →
      (place? other.1).all fun steps => !overlaps steps path) (root : Setting) :
    ((layer environment).onto root).at? path = some (.scalar (some origin) (scalar value)) := by
  obtain ⟨key, hkey, hsteps⟩ := Option.map_eq_some_iff.mp hplace
  have hvariable : ∀ e ∈ layer environment, overlaps (KeyPath.ofKey e.1).steps path = true →
      e = (key, .scalar (some origin) (scalar value)) := by
    rintro ⟨k, setting⟩ he hoverlaps
    obtain ⟨v, hv, hk, rfl⟩ := exists_variable_of_mem_layer he
    by_cases heq : v = (name, value)
    · subst heq
      have hkeys : k = key := Option.some.inj (hk.symm.trans hkey)
      rw [hkeys]
    · have hnot := hapart v hv heq
      simp [place?, hk, hoverlaps] at hnot
  obtain ⟨setting, hlayer⟩ := exists_mem_layer hmem hkey
  have hentry := hvariable _ hlayer (hsteps ▸ Setting.overlaps_self path)
  rw [hentry] at hlayer
  refine Layer.at?_onto_of_mem hlayer hsteps (fun e he hne => ?_) root
  by_contra hoverlaps
  exact hne (hvariable e he (by simpa using hoverlaps))

end Override

end TelemetryGate
