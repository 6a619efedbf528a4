import TelemetryGate.Proofs.Settings.Loading
import TelemetryGate.Proofs.Entries

/-!
# Where settings come from

Every setting remembers the place that it comes from, for the sake of faults. What settings are
loaded from layers does not depend on it: layers can be put on top of one another without their
places, and what is left reads as the same settings or is at fault as well.
-/

namespace TelemetryGate

namespace Setting

mutual

/-- The setting with no places. -/
def unplaced : Setting → Setting
  | .scalar _ value => .scalar none value
  | .list _ items => .list none (unplacedItems items)
  | .table _ entries => .table none (unplacedEntries entries)

/-- The items with no places. -/
def unplacedItems : List Setting → List Setting
  | [] => []
  | s :: rest => s.unplaced :: unplacedItems rest

/-- The entries with no places. -/
def unplacedEntries : List (String × Setting) → List (String × Setting)
  | [] => []
  | (key, s) :: rest => (key, s.unplaced) :: unplacedEntries rest

end

theorem unplacedItems_eq (items : List Setting) : unplacedItems items = items.map unplaced := by
  induction items with
  | nil => rw [unplacedItems, List.map_nil]
  | cons s rest ih => rw [unplacedItems, ih, List.map_cons]

theorem unplacedEntries_eq (entries : List (String × Setting)) :
    unplacedEntries entries = Entries.mapValues unplaced entries := by
  induction entries with
  | nil => rw [unplacedEntries]; rfl
  | cons e rest ih =>
    obtain ⟨key, s⟩ := e
    rw [unplacedEntries, ih]
    rfl

@[simp]
theorem entries_unplaced (s : Setting) :
    s.unplaced.entries = Entries.mapValues unplaced s.entries := by
  cases s with
  | table origin entries => rw [unplaced, unplacedEntries_eq]; rfl
  | _ => rw [unplaced]; rfl

@[simp]
theorem items_unplaced (s : Setting) : s.unplaced.items = s.items.map unplaced := by
  cases s with
  | list origin items => rw [unplaced, unplacedItems_eq]; rfl
  | _ => rw [unplaced]; rfl

@[simp]
theorem tableOrigin_unplaced (s : Setting) : tableOrigin s.unplaced = none := by
  cases s <;> rw [unplaced] <;> rfl

@[simp]
theorem listOrigin_unplaced (s : Setting) : listOrigin s.unplaced = none := by
  cases s <;> rw [unplaced] <;> rfl

mutual

/-- What a TOML value stands for differs from place to place in nothing else. -/
theorem unplaced_ofToml (origin : Option String) : ∀ v : Toml.Value,
    (ofToml origin v).unplaced = ofToml none v
  | .text s | .int i | .float x | .bool b | .moment m => by simp only [ofToml, unplaced]
  | .array items => by simp only [ofToml, unplaced, unplaced_ofTomlItems origin items]
  | .table entries => by simp only [ofToml, unplaced, unplaced_ofTomlEntries origin entries]

theorem unplaced_ofTomlItems (origin : Option String) : ∀ items : List Toml.Value,
    unplacedItems (ofTomlItems origin items) = ofTomlItems none items
  | [] => by simp only [ofTomlItems, unplacedItems]
  | v :: rest => by
    simp only [ofTomlItems, unplacedItems, unplaced_ofToml origin v,
      unplaced_ofTomlItems origin rest]

theorem unplaced_ofTomlEntries (origin : Option String) :
    ∀ entries : List (String × Toml.Value),
      unplacedEntries (ofTomlEntries origin entries) = ofTomlEntries none entries
  | [] => by simp only [ofTomlEntries, unplacedEntries]
  | (key, v) :: rest => by
    simp only [ofTomlEntries, unplacedEntries, unplaced_ofToml origin v,
      unplaced_ofTomlEntries origin rest]

end

/-! ## Merging -/

/-- What stands under a key, or a value that has no place either. -/
theorem unplaced_below {default : Setting} (hdefault : default.unplaced = default) (key : String)
    (s : Setting) : ((Entries.get? key s.entries).getD default).unplaced =
      (Entries.get? key s.unplaced.entries).getD default := by
  rw [entries_unplaced, Entries.get?_mapValues]
  cases Entries.get? key s.entries with
  | none => exact hdefault
  | some value => rfl

theorem unplaced_emptyTable : emptyTable.unplaced = emptyTable := by
  simp only [emptyTable, unplaced, unplacedEntries]

theorem unplaced_absent : absent.unplaced = absent := by
  simp only [absent, unplaced]

theorem unplaced_putEntry (s value : Setting) (key : String) :
    (Setting.table (tableOrigin s) (Entries.put key value s.entries)).unplaced =
      .table (tableOrigin s.unplaced) (Entries.put key value.unplaced s.unplaced.entries) := by
  rw [unplaced, unplacedEntries_eq, ← Entries.put_mapValues, tableOrigin_unplaced, entries_unplaced]

mutual

theorem unplaced_put (key : String) : ∀ value target : Setting,
    (put key value target).unplaced = put key value.unplaced target.unplaced
  | .table origin entries, target => by
    rw [put, unplaced_putEntry, unplaced_putAll entries, unplaced_below unplaced_emptyTable,
      unplaced, put]
  | .scalar origin value, target => by
    simp only [put, unplaced_putEntry, unplaced]
  | .list origin items, target => by
    simp only [put, unplaced_putEntry, unplaced]

theorem unplaced_putAll : ∀ (entries : List (String × Setting)) (target : Setting),
    (putAll entries target).unplaced = putAll (unplacedEntries entries) target.unplaced
  | [], target => by simp only [putAll, unplacedEntries]
  | (key, value) :: rest, target => by
    simp only [putAll, unplacedEntries, unplaced_putAll rest, unplaced_put key value]

end

theorem map_unplaced_padTo (index : Nat) (items : List Setting) :
    (padTo index items).map unplaced = padTo index (items.map unplaced) := by
  simp [padTo, unplaced_absent]

theorem unplaced_setBelow (value : Setting) (path : List Access) (target : Setting) :
    (setBelow value path target).unplaced = setBelow value.unplaced path target.unplaced := by
  induction path generalizing target with
  | nil => rw [setBelow, setBelow]
  | cons access rest ih =>
    cases access with
    | key name =>
      cases rest with
      | nil => rw [setBelow, setBelow, unplaced_put]
      | cons next more =>
        rw [setBelow, setBelow, unplaced_putEntry, ih, unplaced_below unplaced_absent]
        · exact List.cons_ne_nil next more
        · exact List.cons_ne_nil next more
    | item i =>
      have hbelow (index : Nat) : ((padTo index target.items)[index]?.getD absent).unplaced =
          (padTo index (target.items.map unplaced))[index]?.getD absent := by
        rw [← map_unplaced_padTo, List.getElem?_map]
        cases (padTo index target.items)[index]? with
        | none => exact unplaced_absent
        | some value => rfl
      simp only [setBelow, unplaced, unplacedItems_eq, List.map_set, map_unplaced_padTo, ih, hbelow,
        listOrigin_unplaced, items_unplaced, List.length_map]

theorem unplaced_setKey (key : String) (value root : Setting) :
    (setKey key value root).unplaced = setKey key value.unplaced root.unplaced :=
  unplaced_setBelow value _ root

end Setting

theorem Layer.unplaced_onto (layer : Layer) (root : Setting) :
    (layer.onto root).unplaced =
      Layer.onto (Entries.mapValues Setting.unplaced layer) root.unplaced := by
  induction layer generalizing root with
  | nil => rfl
  | cons e rest ih =>
    exact (ih _).trans (congrArg _ (Setting.unplaced_setKey e.1 e.2 root))

theorem Layer.unplaced_merge (layers : List Layer) :
    (Layer.merge layers).unplaced =
      Layer.merge (layers.map (Entries.mapValues Setting.unplaced)) := by
  have hfold (root : Setting) :
      (layers.foldl (fun root layer => layer.onto root) root).unplaced =
        (layers.map (Entries.mapValues Setting.unplaced)).foldl
          (fun root layer => Layer.onto layer root) root.unplaced := by
    induction layers generalizing root with
    | nil => rfl
    | cons layer rest ih =>
      rw [List.foldl_cons, ih, Layer.unplaced_onto, List.map_cons, List.foldl_cons]
  rw [Layer.merge, hfold, Setting.unplaced_emptyTable, Layer.merge]

/-! ## Reading -/

section ToOption

variable {ε ε' α β : Type}

theorem toOption_bind (x : Except ε α) (f : α → Except ε β) :
    (x >>= f).toOption = x.toOption.bind fun a => (f a).toOption := by
  cases x <;> rfl

theorem toOption_map (f : α → β) (x : Except ε α) : (f <$> x).toOption = x.toOption.map f := by
  cases x <;> rfl

theorem toOption_mapM {f : α → Except ε β} {g : α → α}
    (h : ∀ a, (f (g a)).toOption = (f a).toOption) (l : List α) :
    ((l.map g).mapM f).toOption = (l.mapM f).toOption := by
  induction l with
  | nil => rfl
  | cons a rest ih =>
    rw [List.map_cons, List.mapM_cons, List.mapM_cons]
    simp only [toOption_bind, h, ih]

theorem toOption_mapError (f : ε → ε') (x : Except ε α) :
    (x.mapError f).toOption = x.toOption := by
  cases x <;> rfl

end ToOption

namespace Setting.Decoder

open Decoding (Field)

variable {α σ : Type}

/-- What is read, if anything is, does not depend on where the setting comes from. -/
def IgnoresPlaces (d : Decoder α) : Prop := ∀ s : Setting, (d s.unplaced).toOption = (d s).toOption

theorem IgnoresPlaces.eq_ok_iff {d : Decoder α} (h : IgnoresPlaces d) {s : Setting} {a : α} :
    d s.unplaced = .ok a ↔ d s = .ok a := by
  have hsame := h s
  cases hplain : d s.unplaced <;> cases hread : d s <;>
    simp [hplain, hread, Except.toOption] at hsame ⊢
  rw [hsame]

theorem ignoresPlaces_flag : IgnoresPlaces flag := by
  intro s
  cases s with
  | scalar origin value =>
    rw [unplaced]
    cases value with
    | text t =>
      simp only [flag]
      cases flagWord? (Text.lower t) <;> rfl
    | _ => rfl
  | _ => rw [unplaced]; rfl

theorem ignoresPlaces_text : IgnoresPlaces text := by
  intro s
  cases s with
  | scalar origin value =>
    rw [unplaced]
    cases value <;> rfl
  | _ => rw [unplaced]; rfl

theorem IgnoresPlaces.optional {d : Decoder α} (h : IgnoresPlaces d) :
    IgnoresPlaces (optional d) := by
  intro s
  have hread := h s
  cases s with
  | scalar origin value =>
    rw [Setting.unplaced] at hread ⊢
    cases value with
    | nothing => rfl
    | _ =>
      simp only [Decoder.optional, toOption_map, hread]
  | _ =>
    rw [Setting.unplaced] at hread ⊢
    simp only [Decoder.optional, toOption_map, hread]

theorem ignoresPlaces_texts : IgnoresPlaces texts := by
  intro s
  cases s with
  | table origin entries =>
    rw [Setting.unplaced, unplacedEntries_eq, texts, texts, Entries.mapValues, toOption_bind,
      toOption_bind, toOption_mapM fun e => ?_]
    rw [toOption_map, under, toOption_mapError, ignoresPlaces_text, toOption_map, under,
      toOption_mapError]
  | _ => rw [Setting.unplaced]; rfl

theorem IgnoresPlaces.field {name : String} {d : Decoder α} {set : σ → α → σ}
    (h : IgnoresPlaces d) : IgnoresPlaces (Field.of name d set).read := by
  intro s
  change ((fun a r => set r a) <$> d s.unplaced).toOption = ((fun a r => set r a) <$> d s).toOption
  rw [toOption_map, toOption_map, h]

variable {fields : List (Field Decoder σ)}

theorem ignoresPlaces_named (h : ∀ field ∈ fields, IgnoresPlaces field.read)
    (entries : List (String × Setting)) (start : σ) :
    (named fields (Entries.mapValues Setting.unplaced entries) start).toOption =
      (named fields entries start).toOption := by
  induction entries generalizing start with
  | nil => rfl
  | cons e rest ih =>
    obtain ⟨key, s⟩ := e
    rw [Entries.mapValues] at ih
    rw [Entries.mapValues, List.map_cons, named, named]
    cases hfind : fields.find? (·.name = key) with
    | none => exact ih start
    | some field =>
      have hfield := h field (List.mem_of_find?_eq_some hfind)
      simp only [toOption_bind, under, toOption_mapError, hfield s, ih]

theorem ignoresPlaces_positional (h : ∀ field ∈ fields, IgnoresPlaces field.read) (index : Nat)
    (items : List Setting) (start : σ) :
    (positional index fields (items.map Setting.unplaced) start).toOption =
      (positional index fields items start).toOption := by
  induction items generalizing index fields start with
  | nil => cases fields <;> rfl
  | cons s rest ih =>
    cases fields with
    | nil => rfl
    | cons field fields =>
      obtain ⟨hfield, hfields⟩ := List.forall_mem_cons.mp h
      rw [List.map_cons, positional, positional]
      simp only [toOption_bind, toOption_mapError, hfield s, ih hfields]

theorem ignoresPlaces_record (title : String) (h : ∀ field ∈ fields, IgnoresPlaces field.read)
    (start : σ) : IgnoresPlaces (record title fields start) := by
  intro s
  cases s with
  | scalar origin value => rw [Setting.unplaced]; rfl
  | list origin items =>
    rw [Setting.unplaced, unplacedItems_eq]
    exact ignoresPlaces_positional h 0 items start
  | table origin entries =>
    rw [Setting.unplaced, unplacedEntries_eq]
    exact ignoresPlaces_named h entries start

end Setting.Decoder

open Setting.Decoder (IgnoresPlaces)

theorem LogSettings.ignoresPlaces_layout (v : Variables) :
    IgnoresPlaces (LogSettings.layout v Setting.Decoder.format) := by
  have hflag := Setting.Decoder.ignoresPlaces_flag
  have htext := Setting.Decoder.ignoresPlaces_text
  have htexts := Setting.Decoder.ignoresPlaces_texts
  refine Setting.Decoder.ignoresPlaces_record _ ?_ _
  simp only [LogSettings.fields, List.forall_mem_cons]
  exact ⟨hflag.field, htext.field, htext.field, htext.field, htext.field, hflag.field, htexts.field,
    List.forall_mem_nil _⟩

theorem Settings.ignoresPlaces_layout (v : Variables) :
    IgnoresPlaces (Settings.layout v Setting.Decoder.format) := by
  have hflag := Setting.Decoder.ignoresPlaces_flag
  have htext := Setting.Decoder.ignoresPlaces_text
  refine Setting.Decoder.ignoresPlaces_record _ ?_ _
  simp only [Settings.fields, List.forall_mem_cons]
  exact ⟨hflag.field, htext.optional.field, htext.field, htext.optional.field,
    (LogSettings.ignoresPlaces_layout v).field, List.forall_mem_nil _⟩

/-- Settings come out where nothing is wrong with them, the modules as they are looked at. -/
theorem Settings.toOption_checked (s : Settings) (modules : Entries String) :
    (checked s modules).toOption =
      if issues { s with logging := { s.logging with modules := modules } } = [] then some s
      else none := by
  rw [checked_eq]
  dsimp only
  split <;> rfl

/-- Merged layers give what they read as, if nothing is wrong with it. -/
theorem Settings.toOption_ofMerged_eq (v : Variables) (merged : Setting) :
    (Settings.ofMerged v merged).toOption =
      (Settings.layout v Setting.Decoder.format merged).toOption.bind fun s =>
        (checked s s.logging.modules).toOption := by
  rw [Settings.ofMerged]
  cases Settings.layout v Setting.Decoder.format merged <;> rfl

/-- The settings that come from merged layers do not depend on the places of the layers. -/
theorem Settings.toOption_ofMerged (v : Variables) (merged : Setting) :
    (Settings.ofMerged v merged.unplaced).toOption = (Settings.ofMerged v merged).toOption := by
  rw [toOption_ofMerged_eq, toOption_ofMerged_eq, Settings.ignoresPlaces_layout]

theorem Settings.toOption_ofMerged_congr (v : Variables) {merged merged' : Setting}
    (h : merged.unplaced = merged'.unplaced) :
    (Settings.ofMerged v merged).toOption = (Settings.ofMerged v merged').toOption := by
  rw [← toOption_ofMerged, h, toOption_ofMerged]

end TelemetryGate
