import TelemetryGate.Proofs.Settings.Keys
import TelemetryGate.Settings.Override
import Mathlib.Data.List.Nodup

/-!
# What layers tell of settings

A tree of merged layers represents what the layers tell: each place of a setting holds what the last
layer that gives something there gives. Putting a file on top and carrying out the overrides of the
environment both keep this, provided that the log and its modules are tables wherever they are
given.
-/

namespace TelemetryGate

open Setting (tidyKeys Agrees replaces lowered)

/-- The places that hold the tables of the settings. -/
def tablePlaces : List (List String) := [["logging"], ["logging", "modules"]]

/-- The place of a setting: all that is passed on the way to it are the tables of the settings. -/
def IsSetting (path : List String) : Prop :=
  path ≠ [] ∧ ∀ front, front ≠ [] → front ≠ path → front <+: path → front ∈ tablePlaces

theorem isSetting_top (key : String) : IsSetting [key] := by
  refine ⟨List.cons_ne_nil _ _, ?_⟩
  intro front hne hpath hfront
  simp only [List.prefix_cons_iff, List.prefix_nil] at hfront
  grind

theorem isSetting_logging (key : String) : IsSetting ["logging", key] := by
  refine ⟨List.cons_ne_nil _ _, ?_⟩
  intro front hne hpath hfront
  simp only [List.prefix_cons_iff, List.prefix_nil] at hfront
  grind [tablePlaces]

theorem isSetting_module (name : String) : IsSetting ["logging", "modules", name] := by
  refine ⟨List.cons_ne_nil _ _, ?_⟩
  intro front hne hpath hfront
  simp only [List.prefix_cons_iff, List.prefix_nil] at hfront
  grind [tablePlaces]

/-! ## Files -/

/-- What stands at a place of a layer. -/
def Layer.at? (layer : Layer) (path : List String) : Option Setting :=
  (Setting.table none layer).at? path

/-- What a layer gives at a place. -/
def Layer.gives? (layer : Layer) (path : List String) : Option Setting :=
  (Setting.table none layer).gives? path

/-- A layer of plain keys: keys are in lower case and occur once, those at the top are names, and
the log and its modules are tables if they are given. -/
structure Layer.Plain (layer : Layer) : Prop where
  /-- Keys are in lower case and occur once. -/
  tidy : (Setting.table none layer).tidy
  /-- The keys at the top are names. -/
  names : ∀ e ∈ layer, e.1.toList.all KeyPath.isNameChar
  /-- The log and its modules are tables. -/
  tables : ∀ path ∈ tablePlaces, (layer.at? path).all Setting.isTable

/-- A layer whose keys are names in lower case is put on top key by key. -/
theorem Layer.onto_eq_putAll (layer : Layer)
    (h : ∀ key ∈ layer.map (·.1), key.toList.all KeyPath.isNameChar ∧ Text.lower key = key)
    (root : Setting) : layer.onto root = Setting.putAll layer root := by
  induction layer generalizing root with
  | nil => simp only [Layer.onto, List.foldl_nil, Setting.putAll]
  | cons e rest ih =>
    obtain ⟨hname, hkey⟩ := h e.1 (by simp)
    have hplace : KeyPath.ofKey e.1 = ⟨e.1, []⟩ := by rw [KeyPath.ofKey_of_plain hname, hkey]
    have hset : Setting.setKey e.1 e.2 root = Setting.put e.1 e.2 root := by
      simp only [Setting.setKey, hplace, Setting.setBelow]
    rw [Layer.onto, List.foldl_cons, hset, Setting.putAll]
    exact ih (fun key hmem => h key (List.mem_cons_of_mem _ hmem)) _

/-- A layer of plain keys is put on top key by key. -/
theorem Layer.Plain.onto {layer : Layer} (h : layer.Plain) (root : Setting) :
    layer.onto root = Setting.putAll layer root := by
  have hall := (Bool.and_eq_true_iff.mp (Bool.and_eq_true_iff.mp h.tidy).1).2
  have hkeys : ∀ e ∈ layer, Text.lower e.1 = e.1 := by simpa using hall
  refine Layer.onto_eq_putAll layer (fun key hmem => ?_) root
  obtain ⟨e, he, rfl⟩ := List.mem_map.mp hmem
  exact ⟨h.names e he, hkeys e he⟩

/-- The way to a setting is open in a layer of plain keys. -/
theorem Layer.Plain.opensTo {layer : Layer} (h : layer.Plain) {path : List String}
    (hpath : IsSetting path) : (Setting.table none layer).OpensTo path := by
  intro front hne hend hfront value hvalue
  have htable := h.tables front (hpath.2 front hne hend hfront)
  rw [Layer.at?, hvalue] at htable
  exact htable

/-! ## Overrides -/

namespace Override

/-- The place that a variable overrides, if it overrides one. -/
def place? (name : String) : Option (List Access) :=
  (key? name).map fun key => (KeyPath.ofKey key).steps

/-- What the variables give at a place. -/
def gives? (environment : Variables) (path : List String) : Option Setting :=
  environment.findSome? fun v =>
    if place? v.1 = some (path.map .key) then some (.scalar (some origin) (scalar v.2)) else none

/-- Variables that override no place twice and leave the log and its modules tables. -/
structure Orderly (environment : Variables) : Prop where
  /-- No place is overridden twice. -/
  once : (environment.filterMap fun v => place? v.1).Nodup
  /-- The log and its modules are tables. -/
  tables : ∀ v ∈ environment, ∀ path ∈ tablePlaces,
    (place? v.1).all fun steps => !replaces steps path

/-- The overrides of variables by their keys. -/
def entries (environment : Variables) : List (String × Setting) :=
  environment.filterMap fun v => (key? v.1).map (·, .scalar (some origin) (scalar v.2))

theorem mem_entries_iff {environment : Variables} {e : String × Setting} :
    e ∈ entries environment ↔
      ∃ v ∈ environment, key? v.1 = some e.1 ∧ e.2 = .scalar (some origin) (scalar v.2) := by
  obtain ⟨key, value⟩ := e
  simp only [entries, List.mem_filterMap, Option.map_eq_some_iff, Prod.mk.injEq]
  grind

/-- Every entry of the layer is the override of a variable. -/
theorem exists_variable_of_mem_layer {environment : Variables} {e : String × Setting}
    (h : e ∈ layer environment) : ∃ v ∈ environment, key? v.1 = some e.1 ∧
      e.2 = .scalar (some origin) (scalar v.2) :=
  mem_entries_iff.mp (Entries.mem_of_mem_ofList h)

/-- Every key that a variable overrides is in the layer. -/
theorem exists_mem_layer {environment : Variables} {v : String × String} (hv : v ∈ environment)
    {key : String} (hkey : key? v.1 = some key) : ∃ value, (key, value) ∈ layer environment := by
  have hmem : (key, .scalar (some origin) (scalar v.2)) ∈ entries environment :=
    mem_entries_iff.mpr ⟨v, hv, hkey, rfl⟩
  exact Entries.exists_mem_ofList hmem

/-- No two overrides have the same place. -/
theorem nodup_entries {environment : Variables} (h : Orderly environment) :
    ((entries environment).map fun e => (KeyPath.ofKey e.1).steps).Nodup := by
  have hplaces : (entries environment).map (fun e => (KeyPath.ofKey e.1).steps) =
      environment.filterMap fun v => place? v.1 := by
    rw [entries, List.map_filterMap]
    congr 1
    funext v
    rw [place?, Option.map_map]
    rfl
  rw [hplaces]
  exact h.once

/-- The layer holds the overrides in another order. -/
theorem layer_perm {environment : Variables} (h : Orderly environment) :
    (layer environment).Perm (entries environment) := by
  have hplaces := nodup_entries h
  have hkeys : ((entries environment).map (·.1)).Nodup := by
    apply List.Nodup.of_map (fun key => (KeyPath.ofKey key).steps)
    rw [List.map_map]
    exact hplaces
  have hrising : Entries.Rising (layer environment) := Entries.rising_ofList _
  have hlayer : (layer environment).Nodup := hrising.nodup_keys.of_map
  rw [List.perm_ext_iff_of_nodup hlayer hplaces.of_map]
  intro e
  have hget : Entries.get? e.1 (layer environment) = some e.2 ↔ e ∈ layer environment :=
    hrising.get?_eq_some_iff
  exact hget.symm.trans (Entries.get?_ofList_eq_some_iff hkeys)

/-- What is told of places once more is told of one of them. -/
def tell (told : List String → Option Setting) (e : String × Setting) :
    List String → Option Setting :=
  fun path => if (KeyPath.ofKey e.1).steps = path.map .key then some e.2 else told path

/-- If each place is told of once, then what is told of a place stays, whatever else is told. -/
theorem foldl_tell {layer : Layer}
    (honce : (layer.map fun e => (KeyPath.ofKey e.1).steps).Nodup) (path : List String)
    (told : List String → Option Setting) :
    (∀ e ∈ layer, (KeyPath.ofKey e.1).steps = path.map .key →
        layer.foldl tell told path = some e.2) ∧
      ((∀ e ∈ layer, (KeyPath.ofKey e.1).steps ≠ path.map .key) →
        layer.foldl tell told path = told path) := by
  induction layer generalizing told with
  | nil => exact ⟨nofun, fun _ => rfl⟩
  | cons e rest ih =>
    obtain ⟨hnot, hrest⟩ := List.nodup_cons.mp honce
    obtain ⟨hgiven, hkept⟩ := ih hrest (tell told e)
    constructor
    · intro a ha hplace
      rcases List.mem_cons.mp ha with rfl | ha
      · have hother : ∀ b ∈ rest, (KeyPath.ofKey b.1).steps ≠ path.map .key := fun b hb hsame =>
          hnot (List.mem_map.mpr ⟨b, hb, hsame.trans hplace.symm⟩)
        rw [List.foldl_cons, hkept hother, tell, if_pos hplace]
      · exact hgiven a ha hplace
    · intro hother
      rw [List.foldl_cons, hkept fun a ha => hother a (List.mem_cons_of_mem _ ha), tell,
        if_neg (hother e List.mem_cons_self)]

/-- What the layer of some variables tells is what the variables give. -/
theorem foldl_tell_layer {environment : Variables} (h : Orderly environment)
    (told : List String → Option Setting) (path : List String) :
    (layer environment).foldl tell told path = (gives? environment path).or (told path) := by
  have hperm := layer_perm h
  have honce : ((layer environment).map fun e => (KeyPath.ofKey e.1).steps).Nodup :=
    (hperm.map _).nodup_iff.mpr (nodup_entries h)
  obtain ⟨hgiven, hkept⟩ := foldl_tell honce path told
  cases hgives : gives? environment path with
  | some value =>
    obtain ⟨v, hv, hvalue⟩ := List.exists_of_findSome?_eq_some hgives
    split at hvalue
    · rename_i hplace
      obtain ⟨key, hkey, hsteps⟩ := Option.map_eq_some_iff.mp hplace
      have hmem : (key, value) ∈ layer environment :=
        hperm.mem_iff.mpr (mem_entries_iff.mpr ⟨v, hv, hkey, (Option.some.inj hvalue).symm⟩)
      exact hgiven _ hmem hsteps
    · cases hvalue
  | none =>
    apply hkept
    intro e he hsteps
    obtain ⟨v, hv, hkey, -⟩ := exists_variable_of_mem_layer he
    have hnone := List.findSome?_eq_none_iff.mp hgives v hv
    have hplace : place? v.1 = some (path.map .key) := by rw [place?, hkey, Option.map_some, hsteps]
    rw [if_pos hplace] at hnone
    cases hnone

end Override

/-! ## Merged layers -/

namespace Setting

/-- A tree of merged layers represents what the layers tell of settings. -/
structure Represents (root : Setting) (told : List String → Option Setting) : Prop where
  /-- It is a table. -/
  table : root.isTable
  /-- Its tables are in order. -/
  ordered : root.Ordered
  /-- The log is a table if it is there. -/
  logging : root.TableUnder "logging"
  /-- The settings stand where they are told to be, unless they are none. -/
  settings : ∀ path, IsSetting path → Agrees (root.at? path) (told path)

theorem represents_emptyTable : emptyTable.Represents fun _ => none where
  table := rfl
  ordered := ordered_of_entries rfl
  logging _ h := nomatch h
  settings path h := by
    cases path with
    | nil => exact absurd rfl h.1
    | cons key path => exact .refl none

/-- Putting a layer of plain keys on top tells what the layer gives. -/
theorem Represents.onto {root : Setting} {told : List String → Option Setting}
    (h : root.Represents told) {layer : Layer} (hlayer : layer.Plain) :
    (layer.onto root).Represents fun path => (layer.gives? path).or (told path) := by
  rw [hlayer.onto]
  have hkeys : tidyKeys layer := (Bool.and_eq_true_iff.mp hlayer.tidy).1
  constructor
  · exact isTable_putAll h.table layer
  · exact h.ordered.putAll layer
  · apply h.logging.putAll hkeys
    intro value hvalue
    have htable := hlayer.tables ["logging"] (by decide)
    rw [Layer.at?, at?_singleton, entries, hvalue] at htable
    exact htable
  · intro path hpath
    have hstep := agrees_putAll hpath.1 hlayer.tidy (hlayer.opensTo hpath) root
    exact hstep.trans ((h.settings path hpath).or _)

/-- Carrying out an override tells its value. -/
theorem Represents.setKey {root : Setting} {told : List String → Option Setting}
    (h : root.Represents told) {key : String}
    (htables : ∀ path ∈ tablePlaces, replaces (KeyPath.ofKey key).steps path = false)
    (origin : Option String) (value : Scalar) :
    (setKey key (.scalar origin value) root).Represents
      (Override.tell told (key, .scalar origin value)) := by
  have hlower := KeyPath.lowerBefore_ofKey key
  constructor
  · exact isTable_setBelow _ _ _ _
  · exact h.ordered.setBelow _ (List.cons_ne_nil _ _)
  · exact h.logging.setBelow _ hlower (htables ["logging"] (by decide))
  · intro path hpath
    have hway : ∀ front, front ≠ path → front <+: path →
        replaces (KeyPath.ofKey key).steps front = false := by
      intro front hend hfront
      by_cases hne : front = []
      · subst hne
        rfl
      · exact htables front (hpath.2 front hne hend hfront)
    have hstep : Agrees ((Setting.setKey key (.scalar origin value) root).at? path)
        (if (KeyPath.ofKey key).steps = path.map .key then some (.scalar origin value)
          else root.at? path) := agrees_setBelow hlower hway root
    rw [Override.tell]
    split
    · rename_i hplace
      rwa [if_pos hplace] at hstep
    · rename_i hplace
      rw [if_neg hplace] at hstep
      exact hstep.trans (h.settings path hpath)

/-- Carrying out one override after the other tells all their values. -/
theorem Represents.foldl_tell {layer : Layer} {root : Setting}
    {told : List String → Option Setting} (h : root.Represents told)
    (hscalar : ∀ e ∈ layer, ∃ origin value, e.2 = .scalar origin value)
    (htables : ∀ e ∈ layer, ∀ path ∈ tablePlaces, replaces (KeyPath.ofKey e.1).steps path = false) :
    (layer.onto root).Represents (layer.foldl Override.tell told) := by
  induction layer generalizing root told with
  | nil => exact h
  | cons e rest ih =>
    obtain ⟨key, setting⟩ := e
    obtain ⟨origin, value, rfl⟩ := hscalar (key, setting) List.mem_cons_self
    have hstep := h.setKey (htables _ List.mem_cons_self) origin value
    exact ih hstep (fun a ha => hscalar a (List.mem_cons_of_mem _ ha))
      fun a ha => htables a (List.mem_cons_of_mem _ ha)

/-- Carrying out the overrides of the environment tells what its variables give. -/
theorem Represents.overrides {root : Setting} {told : List String → Option Setting}
    (h : root.Represents told) {environment : Variables} (henv : Override.Orderly environment) :
    ((Override.layer environment).onto root).Represents
      fun path => (Override.gives? environment path).or (told path) := by
  have hscalar : ∀ e ∈ Override.layer environment, ∃ origin value, e.2 = .scalar origin value := by
    intro e he
    obtain ⟨v, -, -, hvalue⟩ := Override.exists_variable_of_mem_layer he
    exact ⟨_, _, hvalue⟩
  have htables : ∀ e ∈ Override.layer environment, ∀ path ∈ tablePlaces,
      replaces (KeyPath.ofKey e.1).steps path = false := by
    intro e he path hpath
    obtain ⟨v, hv, hkey, -⟩ := Override.exists_variable_of_mem_layer he
    simpa [Override.place?, hkey] using henv.tables v hv path hpath
  have hfold := h.foldl_tell hscalar htables
  have htold : (Override.layer environment).foldl Override.tell told =
      fun path => (Override.gives? environment path).or (told path) := by
    funext path
    exact Override.foldl_tell_layer henv told path
  rwa [htold] at hfold

end Setting

end TelemetryGate
