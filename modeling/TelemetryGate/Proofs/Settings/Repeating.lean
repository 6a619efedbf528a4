import TelemetryGate.Proofs.Entries
import TelemetryGate.Settings.Merging

/-!
# Putting a layer on top twice

What a layer does is a list of edits, each at one place. An edit undoes what it did before, whatever
other edits stand between: so a layer that is put on top twice does what it does once. Edits that
count the items of a list from its end are left out, since they mean another item once the list has
grown.
-/

namespace TelemetryGate

/-- A step does not count the items of a list from its end. -/
def Access.countsForward : Access → Bool
  | .key _ => true
  | .item i => 0 ≤ i

/-- A change of a setting at one place. -/
inductive Edit where
  /-- The setting becomes a value. -/
  | write (value : Setting)
  /-- The setting stays. Where there is none there is an empty table. -/
  | keep
  /-- The entry of a table is changed. -/
  | key (name : String) (inner : Edit)
  /-- The item of a list is changed. -/
  | item (index : Nat) (inner : Edit)

namespace Edit

open Setting (absent emptyTable tableOrigin listOrigin padTo)

/-- The setting after an edit of the one that is there, if any. -/
def run : Edit → Option Setting → Setting
  | .write value, _ => value
  | .keep, target => target.getD emptyTable
  | .key name inner, target =>
    let s := target.getD absent
    .table (tableOrigin s) (Entries.put name (inner.run (Entries.get? name s.entries)) s.entries)
  | .item index inner, target =>
    let s := target.getD absent
    .list (listOrigin s)
      ((padTo index s.items).set index (inner.run (padTo index s.items)[index]?))

/-- What there is after some edits, one after the other. -/
def runAll (edits : List Edit) (target : Option Setting) : Option Setting :=
  edits.foldl (fun target edit => some (edit.run target)) target

/-! ## Lists -/

/-- The item of a list, or the absent value beyond its end. -/
def itemAt (items : List Setting) (n : Nat) : Setting := (items[n]?).getD absent

theorem length_padTo (index : Nat) (items : List Setting) :
    (padTo index items).length = max items.length (index + 1) := by
  simp only [padTo, List.length_append, List.length_replicate]
  omega

theorem itemAt_padTo (index : Nat) (items : List Setting) (n : Nat) :
    itemAt (padTo index items) n = itemAt items n := by
  simp only [itemAt, padTo, List.getElem?_append, List.getElem?_replicate]
  split
  · rfl
  · rename_i hnot
    rw [List.getElem?_eq_none (Nat.not_lt.mp hnot)]
    split <;> rfl

theorem getElem?_padTo (index : Nat) (items : List Setting) :
    (padTo index items)[index]? = some (itemAt items index) := by
  rw [← itemAt_padTo index items index, itemAt]
  have hlt : index < (padTo index items).length := by
    rw [length_padTo]
    omega
  rw [List.getElem?_eq_getElem hlt]
  rfl

/-- Lists of the same length with the same items are the same. -/
theorem eq_of_itemAt {items items' : List Setting} (hlength : items.length = items'.length)
    (h : ∀ n, itemAt items n = itemAt items' n) : items = items' := by
  refine List.ext_getElem hlength fun n hn hn' => ?_
  have hitem := h n
  rwa [itemAt, itemAt, List.getElem?_eq_getElem hn, List.getElem?_eq_getElem hn'] at hitem

theorem itemAt_set (items : List Setting) (index n : Nat) (s : Setting) :
    itemAt (items.set index s) n =
      if n = index ∧ index < items.length then s else itemAt items n := by
  simp only [itemAt, List.getElem?_set]
  by_cases hn : index = n
  · subst hn
    by_cases hlt : index < items.length <;> simp [hlt]
  · simp [hn, Ne.symm hn]

/-- A list with an item set, filled up to it. -/
def setItem (index : Nat) (s : Setting) (items : List Setting) : List Setting :=
  (padTo index items).set index s

theorem length_setItem (index : Nat) (s : Setting) (items : List Setting) :
    (setItem index s items).length = max items.length (index + 1) := by
  rw [setItem, List.length_set, length_padTo]

theorem itemAt_setItem (index : Nat) (s : Setting) (items : List Setting) (n : Nat) :
    itemAt (setItem index s items) n = if n = index then s else itemAt items n := by
  rw [setItem, itemAt_set, length_padTo, itemAt_padTo]
  have hlt : index < max items.length (index + 1) := by omega
  simp only [hlt, and_true]

/-- Of two settings of one item the later one counts. -/
theorem setItem_setItem (index : Nat) (s s' : Setting) (items : List Setting) :
    setItem index s (setItem index s' items) = setItem index s items := by
  refine eq_of_itemAt ?_ fun n => ?_
  · simp only [length_setItem]
    omega
  · simp only [itemAt_setItem]
    split <;> rfl

/-- Different items can be set in either order. -/
theorem setItem_comm {index other : Nat} (h : index ≠ other) (s s' : Setting)
    (items : List Setting) :
    setItem index s (setItem other s' items) = setItem other s' (setItem index s items) := by
  refine eq_of_itemAt ?_ fun n => ?_
  · simp only [length_setItem]
    omega
  · simp only [itemAt_setItem]
    split
    · rename_i hn
      rw [if_neg fun hother => h (hn.symm.trans hother)]
    · rfl

/-! ## Absorption -/

theorem run_key (name : String) (inner : Edit) (target : Option Setting) :
    (key name inner).run target = .table (tableOrigin (target.getD absent))
      (Entries.put name (inner.run (Entries.get? name (target.getD absent).entries))
        (target.getD absent).entries) := rfl

theorem run_item (index : Nat) (inner : Edit) (target : Option Setting) :
    (item index inner).run target = .list (listOrigin (target.getD absent))
      (setItem index (inner.run (some (itemAt (target.getD absent).items index)))
        (target.getD absent).items) := by
  rw [setItem, ← getElem?_padTo]
  rfl

/-- To put an empty table where nothing is makes no difference to an edit. -/
theorem run_keep (b : Edit) (target : Option Setting) :
    b.run (some (keep.run target)) = b.run target := by
  cases target with
  | none => cases b <;> rfl
  | some s => rfl

/-- An edit does nothing more when it is carried out again. -/
theorem run_run (g : Edit) (target : Option Setting) :
    g.run (some (g.run target)) = g.run target := by
  induction g generalizing target with
  | write value => rfl
  | keep => rfl
  | key name inner ih =>
    simp only [run_key, Option.getD_some, Setting.entries, tableOrigin, Entries.get?_put_self, ih,
      Entries.put_put]
  | item index inner ih =>
    simp only [run_item, Option.getD_some, Setting.items, listOrigin, itemAt_setItem, if_true, ih,
      setItem_setItem]

/-- Tables that are equal once an entry is changed stay so when entries were changed before. -/
theorem run_key_congr {name other : String} {inner edit : Edit} {es es' : List (String × Setting)}
    (hinner : inner.run (Entries.get? name es) = inner.run (Entries.get? name es') →
      inner.run (some (edit.run (Entries.get? name es))) =
        inner.run (some (edit.run (Entries.get? name es'))))
    (h : Entries.put name (inner.run (Entries.get? name es)) es =
      Entries.put name (inner.run (Entries.get? name es')) es') :
    let changed := Entries.put other (edit.run (Entries.get? other es)) es
    let changed' := Entries.put other (edit.run (Entries.get? other es')) es'
    Entries.put name (inner.run (Entries.get? name changed)) changed =
      Entries.put name (inner.run (Entries.get? name changed')) changed' := by
  intro changed changed'
  by_cases hname : name = other
  · subst hname
    have hvalue := congrArg (Entries.get? name) h
    simp only [Entries.get?_put_self, Option.some.injEq] at hvalue
    have hput (value : Setting) : Entries.put name value es = Entries.put name value es' := by
      rw [← Entries.put_put name value _ es, h, Entries.put_put]
    simp only [changed, changed', Entries.get?_put_self, Entries.put_put, hinner hvalue, hput]
  · have hother := congrArg (Entries.get? other) h
    simp only [Entries.get?_put_of_ne (Ne.symm hname)] at hother
    simp only [changed, changed', Entries.get?_put_of_ne hname, Entries.put_comm hname, h, hother]

/-- Lists that are equal once an item is changed stay so when items were changed before. -/
theorem run_item_congr {index other : Nat} {inner edit : Edit} {items items' : List Setting}
    (hinner : inner.run (some (itemAt items index)) = inner.run (some (itemAt items' index)) →
      inner.run (some (edit.run (some (itemAt items index)))) =
        inner.run (some (edit.run (some (itemAt items' index)))))
    (h : setItem index (inner.run (some (itemAt items index))) items =
      setItem index (inner.run (some (itemAt items' index))) items') :
    let changed := setItem other (edit.run (some (itemAt items other))) items
    let changed' := setItem other (edit.run (some (itemAt items' other))) items'
    setItem index (inner.run (some (itemAt changed index))) changed =
      setItem index (inner.run (some (itemAt changed' index))) changed' := by
  intro changed changed'
  by_cases hindex : index = other
  · subst hindex
    have hvalue := congrArg (itemAt · index) h
    simp only [itemAt_setItem, if_true] at hvalue
    have hset (value : Setting) : setItem index value items = setItem index value items' := by
      rw [← setItem_setItem index value _ items, h, setItem_setItem]
    simp only [changed, changed', itemAt_setItem, if_true, setItem_setItem, hinner hvalue, hset]
  · have hother := congrArg (itemAt · other) h
    simp only [itemAt_setItem, if_neg (Ne.symm hindex)] at hother
    simp only [changed, changed', itemAt_setItem, if_neg hindex, setItem_comm hindex, h, hother]

/-- Targets that an edit makes equal it makes equal after any other edit, too. -/
theorem run_congr (g b : Edit) {u v : Option Setting} (h : g.run u = g.run v) :
    g.run (some (b.run u)) = g.run (some (b.run v)) := by
  induction g generalizing b u v with
  | write value => rfl
  | keep =>
    change b.run u = b.run v
    rw [← run_keep b u, h, run_keep]
  | key name inner ih =>
    cases b with
    | write value => rfl
    | item index edit => rfl
    | keep => rw [run_keep, run_keep, h]
    | key other edit =>
      obtain ⟨horigin, hentries⟩ := Setting.table.inj h
      exact congrArg₂ Setting.table horigin (run_key_congr (ih edit) hentries)
  | item index inner ih =>
    cases b with
    | write value => rfl
    | key name edit => rfl
    | keep => rw [run_keep, run_keep, h]
    | item other edit =>
      rw [run_item, run_item] at h
      obtain ⟨horigin, hitems⟩ := Setting.list.inj h
      simp only [run_item]
      exact congrArg₂ Setting.list horigin (run_item_congr (ih edit) hitems)

theorem runAll_cons (b : Edit) (edits : List Edit) (target : Option Setting) :
    runAll (b :: edits) target = runAll edits (some (b.run target)) := rfl

theorem runAll_append (before after : List Edit) (target : Option Setting) :
    runAll (before ++ after) target = runAll after (runAll before target) :=
  List.foldl_append

/-- Targets that an edit makes equal it makes equal after any other edits, too. -/
theorem run_runAll_congr (g : Edit) (edits : List Edit) {u v : Option Setting}
    (h : g.run u = g.run v) : g.run (runAll edits u) = g.run (runAll edits v) := by
  induction edits generalizing u v with
  | nil => exact h
  | cons b rest ih => exact ih (run_congr g b h)

/-- An edit that is carried out again later need not be carried out at first. -/
theorem runAll_absorb (g : Edit) (edits after : List Edit) (target : Option Setting) :
    runAll (g :: edits ++ g :: after) target = runAll (edits ++ g :: after) target := by
  have hsame := run_runAll_congr g edits (run_run g target)
  rw [runAll_append, runAll_append, runAll_cons, runAll_cons, runAll_cons, hsame]

/-- Edits that are all carried out again later need not be carried out at first. -/
theorem runAll_of_subset {edits later : List Edit} (h : edits ⊆ later) (target : Option Setting) :
    runAll (edits ++ later) target = runAll later target := by
  induction edits with
  | nil => rfl
  | cons g rest ih =>
    obtain ⟨hlater, hrest⟩ := List.cons_subset.mp h
    obtain ⟨before, after, rfl⟩ := List.append_of_mem hlater
    have habsorb := runAll_absorb g (rest ++ before) after target
    simp only [List.append_assoc, List.cons_append] at habsorb ih ⊢
    rw [habsorb, ih hrest]

theorem runAll_runAll (edits : List Edit) (target : Option Setting) :
    runAll edits (runAll edits target) = runAll edits target := by
  rw [← runAll_append]
  exact runAll_of_subset (List.Subset.refl edits) target

end Edit

/-! ## The edits of a layer -/

namespace Setting

open Edit (runAll)

mutual

/-- The edits that put a value under a key. -/
def putEdits (key : String) : Setting → List Edit
  | .table _ entries =>
    .key (Text.lower key) .keep :: (putAllEdits entries).map (.key (Text.lower key))
  | value => [.key (Text.lower key) (.write value)]

/-- The edits that put all entries into a target. -/
def putAllEdits : List (String × Setting) → List Edit
  | [] => []
  | (key, value) :: rest => putEdits key value ++ putAllEdits rest

end

/-- The edits that set a value at the end of some steps. -/
def belowEdits (value : Setting) : List Access → List Edit
  | [] => [.write value]
  | [.key name] => putEdits name value
  | .key name :: rest => (belowEdits value rest).map (.key name)
  | .item i :: rest => (belowEdits value rest).map (.item i.toNat)

/-- Further edits of an entry act on what stands there. -/
theorem runAll_key (name : String) (edits : List Edit) {s value : Setting} {origin : Option String}
    {entries : List (String × Setting)} (h : runAll edits (some s) = some value) :
    runAll (edits.map (.key name)) (some (.table origin (Entries.put name s entries))) =
      some (.table origin (Entries.put name value entries)) := by
  induction edits generalizing s with
  | nil =>
    cases h
    rfl
  | cons edit rest ih =>
    rw [Edit.runAll_cons] at h
    have hrun : (Edit.key name edit).run (some (.table origin (Entries.put name s entries))) =
        .table origin (Entries.put name (edit.run (some s)) entries) := by
      simp only [Edit.run_key, Option.getD_some, Setting.entries, tableOrigin,
        Entries.get?_put_self, Entries.put_put]
    rw [List.map_cons, Edit.runAll_cons, hrun, ih h]

/-- Further edits of an item act on what stands there. -/
theorem runAll_item (index : Nat) (edits : List Edit) {s value : Setting} {origin : Option String}
    {items : List Setting} (h : runAll edits (some s) = some value) :
    runAll (edits.map (.item index)) (some (.list origin (Edit.setItem index s items))) =
      some (.list origin (Edit.setItem index value items)) := by
  induction edits generalizing s with
  | nil =>
    cases h
    rfl
  | cons edit rest ih =>
    rw [Edit.runAll_cons] at h
    have hrun : (Edit.item index edit).run (some (.list origin (Edit.setItem index s items))) =
        .list origin (Edit.setItem index (edit.run (some s)) items) := by
      simp only [Edit.run_item, Option.getD_some, Setting.items, listOrigin, Edit.itemAt_setItem,
        if_true, Edit.setItem_setItem]
    rw [List.map_cons, Edit.runAll_cons, hrun, ih h]

mutual

theorem runAll_putEdits (key : String) : ∀ value target : Setting,
    runAll (putEdits key value) (some target) = some (put key value target)
  | .table origin entries, target => by
    have hentries := runAll_putAllEdits entries
      ((Entries.get? (Text.lower key) target.entries).getD emptyTable)
    rw [putEdits, Edit.runAll_cons, Edit.run_key, put]
    exact runAll_key _ _ hentries
  | .scalar origin value, target => by
    simp only [putEdits, put]
    rfl
  | .list origin items, target => by
    simp only [putEdits, put]
    rfl

theorem runAll_putAllEdits : ∀ (entries : List (String × Setting)) (target : Setting),
    runAll (putAllEdits entries) (some target) = some (putAll entries target)
  | [], target => by
    rw [putAllEdits, putAll]
    rfl
  | (key, value) :: rest, target => by
    rw [putAllEdits, putAll, Edit.runAll_append, runAll_putEdits key value,
      runAll_putAllEdits rest]

end

/-- The edits that set a value are not empty, and start with one that does something. -/
theorem exists_belowEdits (value : Setting) (path : List Access) :
    ∃ edit more, belowEdits value path = edit :: more ∧ edit ≠ .keep := by
  induction path with
  | nil => exact ⟨_, _, rfl, by rintro ⟨⟩⟩
  | cons access rest ih =>
    obtain ⟨edit, more, hedits, -⟩ := ih
    cases access with
    | key name =>
      cases rest with
      | nil => cases value <;> exact ⟨_, _, by simp only [belowEdits, putEdits]; rfl, by rintro ⟨⟩⟩
      | cons next steps =>
        refine ⟨.key name edit, more.map (.key name), ?_, by rintro ⟨⟩⟩
        simp only [belowEdits, hedits, List.map_cons]
    | item i =>
      refine ⟨.item i.toNat edit, more.map (.item i.toNat), ?_, by rintro ⟨⟩⟩
      simp only [belowEdits, hedits, List.map_cons]

theorem run_absent {edit : Edit} (h : edit ≠ .keep) (target : Option Setting) :
    edit.run (some (target.getD absent)) = edit.run target := by
  cases target with
  | some s => rfl
  | none =>
    cases edit with
    | keep => exact absurd rfl h
    | _ => rfl

/-- The edits that set a value at the end of some steps do so. -/
theorem runAll_belowEdits (value : Setting) {path : List Access}
    (hpath : ∀ access ∈ path, access.countsForward = true) (target : Setting) :
    runAll (belowEdits value path) (some target) = some (setBelow value path target) := by
  induction path generalizing target with
  | nil => rw [belowEdits, setBelow]; rfl
  | cons access rest ih =>
    have hrest := ih fun other hother => hpath other (List.mem_cons_of_mem _ hother)
    obtain ⟨edit, more, hedits, hkeep⟩ := exists_belowEdits value rest
    cases access with
    | key name =>
      cases rest with
      | nil =>
        rw [belowEdits, setBelow]
        exact runAll_putEdits name value target
      | cons next steps =>
        have hbelow := hrest ((Entries.get? name target.entries).getD absent)
        rw [hedits, Edit.runAll_cons, run_absent hkeep] at hbelow
        simp only [belowEdits, setBelow, hedits, List.map_cons, Edit.runAll_cons, Edit.run_key,
          Option.getD_some]
        exact runAll_key name more hbelow
    | item i =>
      have hindex : itemIndex i target.items.length = i.toNat :=
        if_pos (of_decide_eq_true (hpath _ List.mem_cons_self))
      have hbelow := hrest (Edit.itemAt target.items i.toNat)
      rw [hedits, Edit.runAll_cons] at hbelow
      simp only [belowEdits, setBelow, hedits, List.map_cons, Edit.runAll_cons, Edit.run_item,
        Option.getD_some, hindex, Edit.getElem?_padTo]
      exact runAll_item i.toNat more hbelow

end Setting

/-- No key of a layer counts the items of a list from its end. -/
def Layer.CountsForward (layer : Layer) : Prop :=
  ∀ e ∈ layer, ∀ access ∈ (KeyPath.ofKey e.1).below, access.countsForward = true

instance (layer : Layer) : Decidable layer.CountsForward :=
  inferInstanceAs (Decidable (∀ e ∈ layer, _))

/-- The edits of a layer. -/
def Layer.edits (layer : Layer) : List Edit :=
  layer.flatMap fun e =>
    let path := KeyPath.ofKey e.1
    Setting.belowEdits e.2 (.key path.top :: path.below)

theorem Layer.CountsForward.runAll_edits {layer : Layer} (h : layer.CountsForward)
    (root : Setting) : Edit.runAll layer.edits (some root) = some (layer.onto root) := by
  induction layer generalizing root with
  | nil => rfl
  | cons e rest ih =>
    have hpath : ∀ access ∈ .key (KeyPath.ofKey e.1).top :: (KeyPath.ofKey e.1).below,
        access.countsForward = true :=
      List.forall_mem_cons.mpr ⟨rfl, h e List.mem_cons_self⟩
    have hset := Setting.runAll_belowEdits e.2 hpath root
    have hrest := ih (fun other hother => h other (List.mem_cons_of_mem _ hother))
      (Setting.setKey e.1 e.2 root)
    rw [edits, List.flatMap_cons, Edit.runAll_append, hset]
    exact hrest

/-- A layer below makes no difference to one that carries out the same edits on top of it. -/
theorem Layer.CountsForward.onto_onto {lower upper : Layer} (hlower : lower.CountsForward)
    (hupper : upper.CountsForward) (hedits : lower.edits ⊆ upper.edits) (root : Setting) :
    upper.onto (lower.onto root) = upper.onto root := by
  have hagain := Edit.runAll_of_subset hedits (some root)
  rw [Edit.runAll_append, hlower.runAll_edits, hupper.runAll_edits, hupper.runAll_edits] at hagain
  exact Option.some.inj hagain

/-- An index from the end means another item once the list has grown. -/
example :
    let layer : Layer := [("a[-1].b", .absent), ("a[1].c", .absent)]
    let sizes (s : Setting) := s.entries.flatMap fun e => e.2.items.map (·.entries.length)
    sizes (layer.onto .emptyTable) = [1, 1] ∧
      sizes (layer.onto (layer.onto .emptyTable)) = [1, 2] := by
  decide +kernel

/-! ## Setting a value twice -/

namespace Setting

open Edit (itemAt setItem)

/-- An index means the same item once that item is set. -/
theorem itemIndex_setItem (i : Int) (s : Setting) (items : List Setting) :
    itemIndex i (setItem (itemIndex i items.length) s items).length =
      itemIndex i items.length := by
  rw [Edit.length_setItem]
  unfold itemIndex
  split <;> omega

theorem setBelow_item (value : Setting) (i : Int) (rest : List Access) (target : Setting) :
    setBelow value (.item i :: rest) target =
      .list (listOrigin target) (setItem (itemIndex i target.items.length)
        (setBelow value rest (itemAt target.items (itemIndex i target.items.length)))
        target.items) := by
  rw [setBelow, Edit.getElem?_padTo]
  rfl

/-- A value that is set at the end of some steps can be set there again, from whatever end items are
counted. -/
theorem setBelow_setBelow (value : Setting) (path : List Access) (target : Setting) :
    setBelow value path (setBelow value path target) = setBelow value path target := by
  induction path generalizing target with
  | nil => rfl
  | cons access rest ih =>
    cases access with
    | key name =>
      cases rest with
      | nil =>
        have hagain := Edit.runAll_runAll (putEdits name value) (some target)
        rw [runAll_putEdits, runAll_putEdits] at hagain
        exact Option.some.inj hagain
      | cons next steps =>
        simp only [setBelow, entries, tableOrigin, Entries.get?_put_self, Option.getD_some, ih,
          Entries.put_put]
    | item i =>
      simp only [setBelow_item, items, listOrigin, itemIndex_setItem, Edit.itemAt_setItem, if_true,
        ih, Edit.setItem_setItem]

end Setting

end TelemetryGate
