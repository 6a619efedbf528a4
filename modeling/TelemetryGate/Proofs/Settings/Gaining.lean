import TelemetryGate.Proofs.Settings.Merging
import TelemetryGate.Proofs.Settings.Repeating

/-!
# Layers that give one thing more

A layer gives a setting if one of its entries leads to the place of the setting, or below it. Where no
layer gives a setting, giving it a value in some of them sets that value in the tree that the layers
are merged to, unless something that is put on top later replaces it.
-/

namespace TelemetryGate

namespace Setting

variable {key other : String} {f g : Option Setting → Setting}

/-! ## Changes under a key -/

/-- A table with a change of what stands under a key. -/
def atKey (key : String) (f : Option Setting → Setting) (s : Setting) : Setting :=
  .table (tableOrigin s) (Entries.put key (f (Entries.get? key s.entries)) s.entries)

theorem get?_atKey_self (key : String) (f : Option Setting → Setting) (s : Setting) :
    Entries.get? key (atKey key f s).entries = some (f (Entries.get? key s.entries)) :=
  Entries.get?_put_self key _ s.entries

theorem get?_atKey_of_ne (h : other ≠ key) (f : Option Setting → Setting) (s : Setting) :
    Entries.get? other (atKey key f s).entries = Entries.get? other s.entries :=
  Entries.get?_put_of_ne h _ s.entries

/-- Changes under different keys can be made in either order. -/
theorem atKey_comm (h : key ≠ other) (f g : Option Setting → Setting) (s : Setting) :
    atKey key f (atKey other g s) = atKey other g (atKey key f s) := by
  simp only [atKey, tableOrigin, entries, Entries.get?_put_of_ne h, Entries.get?_put_of_ne h.symm,
    Entries.put_comm h]

/-- Two changes under one key are one. -/
theorem atKey_atKey (key : String) (f g : Option Setting → Setting) (s : Setting) :
    atKey key f (atKey key g s) = atKey key (fun below? => f (some (g below?))) s := by
  simp only [atKey, tableOrigin, entries, Entries.get?_put_self, Entries.put_put]

theorem atKey_congr {s : Setting}
    (h : f (Entries.get? key s.entries) = g (Entries.get? key s.entries)) :
    atKey key f s = atKey key g s := by
  rw [atKey, atKey, h]

/-- Putting a value under a key is a change under the key. -/
theorem put_eq_atKey (key : String) (value target : Setting) :
    put key value target = atKey (Text.lower key) value.laidOn target := by
  cases value <;> simp only [put, laidOn, atKey]

/-- What setting a value at the end of some steps makes of what stands where they start. -/
def change (value : Setting) : List Access → Option Setting → Setting
  | [], below? => value.laidOn below?
  | step :: rest, below? => setBelow value (step :: rest) (below?.getD absent)

/-- Setting a value behind a key is a change under the key. -/
theorem setBelow_eq_atKey {name : String} {rest : List Access}
    (hlower : LowerBefore (.key name :: rest)) (value target : Setting) :
    setBelow value (.key name :: rest) target =
      atKey (Text.lower name) (change value rest) target := by
  cases rest with
  | nil => exact put_eq_atKey name value target
  | cons step rest =>
    have hname : Text.lower name = name := hlower name (by simp)
    rw [hname]
    simp only [setBelow, atKey, change]

/-- Putting a table under a key puts its entries on top of what stands there. -/
theorem setBelow_table (hkey : Text.lower key = key) (origin : Option String)
    (entries : List (String × Setting)) (s : Setting) :
    setBelow (.table origin entries) [.key key] s =
      atKey key (fun below? => putAll entries (below?.getD emptyTable)) s := by
  rw [setBelow, put_eq_atKey, hkey]
  rfl

theorem put_eq_setBelow (key : String) (value s : Setting) :
    put key value s = setBelow value [.key (Text.lower key)] s := by
  rw [setBelow, put_eq_atKey, put_eq_atKey, Text.lower_lower]

theorem putAll_append (before after : List (String × Setting)) (s : Setting) :
    putAll (before ++ after) s = putAll after (putAll before s) := by
  induction before generalizing s with
  | nil => rfl
  | cons e rest ih => exact ih _

/-- What has no entries is as good as nothing where a value is set behind a key. -/
theorem setBelow_blank {name : String} {rest : List Access}
    (hlower : LowerBefore (.key name :: rest)) (value : Setting) (below? : Option Setting) :
    setBelow value (.key name :: rest) (below?.getD emptyTable) =
      change value (.key name :: rest) below? := by
  rw [change, setBelow_eq_atKey hlower, setBelow_eq_atKey hlower]
  cases below? <;> rfl

/-- A value does nothing more where it is put again. -/
theorem laidOn_laidOn (value : Setting) (below? : Option Setting) :
    value.laidOn (some (value.laidOn below?)) = value.laidOn below? := by
  cases value with
  | scalar _ _ => rfl
  | list _ _ => rfl
  | table origin entries =>
    have hagain := Edit.runAll_runAll (putAllEdits entries) (some (below?.getD emptyTable))
    rw [runAll_putAllEdits, runAll_putAllEdits] at hagain
    exact Option.some.inj hagain

/-- A value that stands as it is where nothing was stands as it is on itself. -/
theorem laidOn_eq_self {value : Setting} (h : value.laidOn none = value) {below? : Option Setting}
    (hbelow : below? = none ∨ below? = some value) : value.laidOn below? = value := by
  rcases hbelow with rfl | rfl
  · exact h
  · have hagain := laidOn_laidOn value none
    rwa [h] at hagain

/-! ## Equality -/

mutual

/-- Whether two values are the same. -/
def decEq : (s t : Setting) → Decidable (s = t)
  | .scalar a x, .scalar b y => decidable_of_iff (a = b ∧ x = y) (by simp)
  | .list a xs, .list b ys =>
    have := decEqItems xs ys
    decidable_of_iff (a = b ∧ xs = ys) (by simp)
  | .table a es, .table b fs =>
    have := decEqEntries es fs
    decidable_of_iff (a = b ∧ es = fs) (by simp)
  | .scalar _ _, .list _ _ => .isFalse (by simp)
  | .scalar _ _, .table _ _ => .isFalse (by simp)
  | .list _ _, .scalar _ _ => .isFalse (by simp)
  | .list _ _, .table _ _ => .isFalse (by simp)
  | .table _ _, .scalar _ _ => .isFalse (by simp)
  | .table _ _, .list _ _ => .isFalse (by simp)

/-- Whether two lists have the same items. -/
def decEqItems : (xs ys : List Setting) → Decidable (xs = ys)
  | [], [] => .isTrue rfl
  | x :: xs, y :: ys =>
    have := decEq x y
    have := decEqItems xs ys
    decidable_of_iff (x = y ∧ xs = ys) (by simp)
  | [], _ :: _ => .isFalse (by simp)
  | _ :: _, [] => .isFalse (by simp)

/-- Whether two tables have the same entries. -/
def decEqEntries : (es fs : List (String × Setting)) → Decidable (es = fs)
  | [], [] => .isTrue rfl
  | (k, x) :: es, (l, y) :: fs =>
    have := decEq x y
    have := decEqEntries es fs
    decidable_of_iff (k = l ∧ x = y ∧ es = fs) (by simp [and_assoc])
  | [], _ :: _ => .isFalse (by simp)
  | _ :: _, [] => .isFalse (by simp)

end

instance : DecidableEq Setting := decEq

/-! ## What an entry gives -/

/-- A value that is set at the end of some steps gives something at a place, or below it. -/
def Gives : List String → List Access → Setting → Prop
  | [], _, _ => True
  | key :: path, .key name :: steps, value => Text.lower name = key ∧ Gives path steps value
  | key :: path, [], .table _ entries => ∃ e ∈ entries, Text.lower e.1 = key ∧ Gives path [] e.2
  | _ :: _, _, _ => False

/-- A value that is set at the end of some steps gives a list on the way to a place. -/
def Blocks : List String → List Access → Setting → Prop
  | [], _, _ => False
  | key :: path, .key name :: steps, value => Text.lower name = key ∧ Blocks path steps value
  | key :: path, [], .table _ entries => ∃ e ∈ entries, Text.lower e.1 = key ∧ Blocks path [] e.2
  | _ :: _, [], .scalar _ _ => False
  | _ :: _, _, _ => True

instance decidableGives : (path : List String) → (steps : List Access) → (value : Setting) →
    Decidable (Gives path steps value)
  | [], _, _ => .isTrue trivial
  | key :: path, .key name :: steps, value =>
    have := decidableGives path steps value
    inferInstanceAs (Decidable (Text.lower name = key ∧ Gives path steps value))
  | key :: path, [], .table _ entries =>
    have (e : String × Setting) := decidableGives path [] e.2
    inferInstanceAs (Decidable (∃ e ∈ entries, Text.lower e.1 = key ∧ Gives path [] e.2))
  | _ :: _, .item _ :: _, _ => .isFalse id
  | _ :: _, [], .scalar _ _ => .isFalse id
  | _ :: _, [], .list _ _ => .isFalse id

instance decidableBlocks : (path : List String) → (steps : List Access) → (value : Setting) →
    Decidable (Blocks path steps value)
  | [], _, _ => .isFalse id
  | key :: path, .key name :: steps, value =>
    have := decidableBlocks path steps value
    inferInstanceAs (Decidable (Text.lower name = key ∧ Blocks path steps value))
  | key :: path, [], .table _ entries =>
    have (e : String × Setting) := decidableBlocks path [] e.2
    inferInstanceAs (Decidable (∃ e ∈ entries, Text.lower e.1 = key ∧ Blocks path [] e.2))
  | _ :: _, .item _ :: _, _ => .isTrue trivial
  | _ :: _, [], .scalar _ _ => .isFalse id
  | _ :: _, [], .list _ _ => .isTrue trivial

/-- A list. -/
def isList : Setting → Bool
  | .list _ _ => true
  | _ => false

/-- There is no list on the way to a place. -/
def ListFree : List String → Setting → Prop
  | [], _ => True
  | key :: path, s => s.isList = false ∧
      ∀ below, Entries.get? key s.entries = some below → ListFree path below

theorem listFree_of_entries {s : Setting} (hlist : s.isList = false) (h : s.entries = [])
    (path : List String) : ListFree path s := by
  cases path with
  | nil => trivial
  | cons key path =>
    refine ⟨hlist, fun below hbelow => ?_⟩
    rw [h] at hbelow
    cases hbelow

/-! ## Trees that grow -/

/-- A tree and one in which a value may have been set in addition, at a place that held nothing else
and that no list is on the way to. -/
structure Grows (path : List String) (d s s' : Setting) : Prop where
  /-- The value was set, or nothing has changed. -/
  sets : s' = s ∨ s' = setBelow d (path.map .key) s
  /-- Nothing else stands at the place. -/
  vacant : s.at? path = none ∨ s.at? path = some d
  /-- No list is on the way. -/
  free : ListFree path s

section Grows

variable {path : List String} {d s s' : Setting}

theorem lowerBefore_singleton (key : String) : LowerBefore [.key key] := by
  intro name hname
  cases hname

theorem lowerBefore_map (hlower : ∀ key ∈ path, Text.lower key = key) :
    LowerBefore (path.map .key) := by
  intro name hname
  obtain ⟨key, hkey, heq⟩ := List.mem_map.mp (List.dropLast_subset _ hname)
  obtain rfl := Access.key.inj heq
  exact hlower key hkey

/-- Setting a value at a place is a change under its first key. -/
theorem setBelow_path {p : String} {ps : List String}
    (hlower : ∀ key ∈ p :: ps, Text.lower key = key) (d s : Setting) :
    setBelow d ((p :: ps).map .key) s = atKey p (change d (ps.map .key)) s := by
  have hset := setBelow_eq_atKey (lowerBefore_map hlower) d s
  rwa [hlower p List.mem_cons_self] at hset

/-- A tree grows in what stands under the first key of the place. -/
theorem Grows.below {p q : String} {ps : List String} (h : Grows (p :: q :: ps) d s s')
    (hlower : ∀ key ∈ p :: q :: ps, Text.lower key = key) {blank : Setting}
    (hblank : blank = absent ∨ blank = emptyTable) :
    Grows (q :: ps) d ((Entries.get? p s.entries).getD blank)
      ((Entries.get? p s'.entries).getD blank) := by
  have hentries : blank.entries = [] := by rcases hblank with rfl | rfl <;> rfl
  constructor
  · rcases h.sets with rfl | rfl
    · exact .inl rfl
    · right
      have hrest : ∀ key ∈ q :: ps, Text.lower key = key := fun key hkey =>
        hlower key (List.mem_cons_of_mem _ hkey)
      rw [setBelow_path hlower, get?_atKey_self, Option.getD_some]
      rcases hblank with rfl | rfl
      · rfl
      · exact (setBelow_blank (lowerBefore_map hrest) d _).symm
  · have hvacant := h.vacant
    rwa [at?_cons_eq_getD (List.cons_ne_nil q ps) blank hentries] at hvacant
  · cases hget : Entries.get? p s.entries with
    | some below => exact h.free.2 below hget
    | none =>
      refine listFree_of_entries ?_ hentries _
      rcases hblank with rfl | rfl <;> rfl

/-- If what stands under the first key of the place grows, then the tree does. -/
theorem Grows.under {p q : String} {ps : List String} (h : Grows (p :: q :: ps) d s s')
    (hlower : ∀ key ∈ p :: q :: ps, Text.lower key = key) {f f' : Option Setting → Setting}
    (hbelow : Grows (q :: ps) d (f (Entries.get? p s.entries)) (f' (Entries.get? p s'.entries))) :
    Grows (p :: q :: ps) d (atKey p f s) (atKey p f' s') := by
  constructor
  · rw [setBelow_path hlower, atKey_atKey]
    rcases h.sets with rfl | rfl
    · exact hbelow.sets.imp atKey_congr atKey_congr
    · rw [setBelow_path hlower, get?_atKey_self] at hbelow
      rw [setBelow_path hlower, atKey_atKey]
      exact hbelow.sets.imp atKey_congr atKey_congr
  · rw [at?_cons, get?_atKey_self]
    exact hbelow.vacant
  · refine ⟨rfl, fun below hget => ?_⟩
    rw [get?_atKey_self] at hget
    obtain rfl := Option.some.inj hget
    exact hbelow.free

/-- A change under another key does not disturb the growth. -/
theorem Grows.beside {p : String} {ps : List String} (h : Grows (p :: ps) d s s')
    (hlower : ∀ key ∈ p :: ps, Text.lower key = key) (hne : key ≠ p)
    (f : Option Setting → Setting) : Grows (p :: ps) d (atKey key f s) (atKey key f s') := by
  constructor
  · rcases h.sets with rfl | rfl
    · exact .inl rfl
    · right
      rw [setBelow_path hlower, setBelow_path hlower, atKey_comm hne]
  · rw [at?_cons, get?_atKey_of_ne hne.symm]
    exact h.vacant
  · refine ⟨rfl, fun below hget => ?_⟩
    rw [get?_atKey_of_ne hne.symm] at hget
    exact h.free.2 below hget

/-- If no entry of a table disturbs the growth, then the table does not. -/
theorem Grows.putAll {p : String} {ps : List String} (origin : Option String)
    {entries : List (String × Setting)}
    (hput : ∀ key value, ¬ Gives (p :: ps) [.key key] value → ¬ Blocks (p :: ps) [.key key] value →
      ∀ {s s'}, Grows (p :: ps) d s s' → Grows (p :: ps) d (put key value s) (put key value s'))
    (hgives : ¬ Gives (p :: ps) [] (.table origin entries))
    (hblocks : ¬ Blocks (p :: ps) [] (.table origin entries)) (h : Grows (p :: ps) d s s') :
    Grows (p :: ps) d (putAll entries s) (putAll entries s') := by
  induction entries generalizing s s' with
  | nil => exact h
  | cons e rest ih =>
    refine ih (fun ⟨a, ha, hg⟩ => hgives ⟨a, List.mem_cons_of_mem _ ha, hg⟩)
      (fun ⟨a, ha, hb⟩ => hblocks ⟨a, List.mem_cons_of_mem _ ha, hb⟩) ?_
    exact hput e.1 e.2 (fun hg => hgives ⟨e, List.mem_cons_self, hg⟩)
      (fun hb => hblocks ⟨e, List.mem_cons_self, hb⟩) h

/-- Setting a value that gives nothing at the place and no list on the way to it does not disturb the
growth. -/
theorem Grows.setBelow (hlower : ∀ key ∈ path, Text.lower key = key) {value : Setting}
    {steps : List Access} (hsteps : LowerBefore steps) (hne : steps ≠ [])
    (hgives : ¬ Gives path steps value) (hblocks : ¬ Blocks path steps value)
    (h : Grows path d s s') :
    Grows path d (setBelow value steps s) (setBelow value steps s') := by
  induction path generalizing steps value s s' with
  | nil => exact absurd trivial hgives
  | cons p path ih =>
    have hpath : ∀ key ∈ path, Text.lower key = key := fun key hkey =>
      hlower key (List.mem_cons_of_mem _ hkey)
    cases steps with
    | nil => exact absurd rfl hne
    | cons step rest =>
      cases step with
      | item i => exact absurd trivial hblocks
      | key name =>
        rw [setBelow_eq_atKey hsteps, setBelow_eq_atKey hsteps]
        by_cases hname : Text.lower name = p
        · subst hname
          cases path with
          | nil => exact absurd ⟨rfl, trivial⟩ hgives
          | cons q path =>
            apply h.under hlower
            cases rest with
            | cons next rest =>
              refine ih hpath (fun n hn => hsteps n (List.mem_cons_of_mem _ hn))
                (List.cons_ne_nil _ _) (fun hg => hgives ⟨rfl, hg⟩) (fun hb => hblocks ⟨rfl, hb⟩) ?_
              exact h.below hlower (.inl rfl)
            | nil =>
              cases value with
              | scalar origin value => exact ⟨.inl rfl, .inl rfl, listFree_of_entries rfl rfl _⟩
              | list origin items => exact absurd ⟨rfl, trivial⟩ hblocks
              | table origin entries =>
                refine Grows.putAll origin ?_ (fun hg => hgives ⟨rfl, hg⟩) (fun hb => hblocks ⟨rfl, hb⟩)
                  (h.below hlower (.inr rfl))
                intro key value hg hb t t' ht
                exact ih hpath (lowerBefore_singleton key) (List.cons_ne_nil _ _) hg hb ht
        · exact h.beside hlower hname _

/-- Setting the value once more does not disturb the growth. -/
theorem Grows.gains (h : Grows path d s s') :
    Grows path d s (Setting.setBelow d (path.map .key) s') := by
  refine ⟨.inr ?_, h.vacant, h.free⟩
  rcases h.sets with rfl | rfl
  · rfl
  · exact setBelow_setBelow d _ s

end Grows

end Setting

/-! ## Layers -/

open Setting (Grows emptyTable)

namespace Layer

variable {path : List String} {d s s' : Setting} {layer layer' : Layer}

/-- A layer gives something at a place, or below it. -/
def Gives (layer : Layer) (path : List String) : Prop :=
  ∃ e ∈ layer, Setting.Gives path (KeyPath.ofKey e.1).steps e.2

/-- A layer gives a list on the way to a place. -/
def Blocks (layer : Layer) (path : List String) : Prop :=
  ∃ e ∈ layer, Setting.Blocks path (KeyPath.ofKey e.1).steps e.2

instance (layer : Layer) (path : List String) : Decidable (layer.Gives path) :=
  inferInstanceAs (Decidable (∃ e ∈ layer, _))

instance (layer : Layer) (path : List String) : Decidable (layer.Blocks path) :=
  inferInstanceAs (Decidable (∃ e ∈ layer, _))

/-- A layer gives a value at a place in addition to what another layer gives: a new entry leads to the
place, or a table that is there, or a new one, holds the value. -/
inductive Gains (path : List String) (d : Setting) : Layer → Layer → Prop
  | entry {before after : Layer} {key : String}
    (hkey : (KeyPath.ofKey key).steps = path.map .key) :
    Gains path d (before ++ after) (before ++ (key, d) :: after)
  | table {before after : Layer} {key top name : String} {origin : Option String}
    (hkey : (KeyPath.ofKey key).steps = [.key top]) (hpath : path = [top, Text.lower name]) :
    Gains path d (before ++ after) (before ++ (key, .table origin [(name, d)]) :: after)
  | inside {before after : Layer} {key top name : String} {origin : Option String}
    {inner more : List (String × Setting)}
    (hkey : (KeyPath.ofKey key).steps = [.key top]) (hpath : path = [top, Text.lower name]) :
    Gains path d (before ++ (key, .table origin (inner ++ more)) :: after)
      (before ++ (key, .table origin (inner ++ (name, d) :: more)) :: after)

theorem onto_cons (e : String × Setting) (layer : Layer) (root : Setting) :
    Layer.onto (e :: layer) root =
      layer.onto (Setting.setBelow e.2 (KeyPath.ofKey e.1).steps root) := by
  rw [KeyPath.steps_ofKey]
  rfl

theorem onto_append (before after : Layer) (root : Setting) :
    Layer.onto (before ++ after) root = after.onto (before.onto root) := List.foldl_append

/-- Putting a layer on top that gives nothing at the place and no list on the way to it does not
disturb the growth. -/
theorem grows_onto (hlower : ∀ key ∈ path, Text.lower key = key) (hgives : ¬ layer.Gives path)
    (hblocks : ¬ layer.Blocks path) (h : Grows path d s s') :
    Grows path d (layer.onto s) (layer.onto s') := by
  induction layer generalizing s s' with
  | nil => exact h
  | cons e rest ih =>
    rw [onto_cons, onto_cons]
    refine ih (fun ⟨a, ha, hg⟩ => hgives ⟨a, List.mem_cons_of_mem _ ha, hg⟩)
      (fun ⟨a, ha, hb⟩ => hblocks ⟨a, List.mem_cons_of_mem _ ha, hb⟩) ?_
    refine h.setBelow hlower ?_ ?_ (fun hg => hgives ⟨e, List.mem_cons_self, hg⟩)
      fun hb => hblocks ⟨e, List.mem_cons_self, hb⟩
    · rw [KeyPath.steps_ofKey]
      exact KeyPath.lowerBefore_ofKey e.1
    · rw [KeyPath.steps_ofKey]
      exact List.cons_ne_nil _ _

/-- Putting a layer on top of one tree and one that gains a value on top of the other grows them. -/
theorem Gains.grows (hgains : layer.Gains path d layer')
    (hlower : ∀ key ∈ path, Text.lower key = key) (hgives : ¬ layer.Gives path)
    (hblocks : ¬ layer.Blocks path) (h : Grows path d s s') :
    Grows path d (layer.onto s) (layer'.onto s') := by
  have hpart {part : Layer} (hpart : part ⊆ layer) {t t' : Setting} (ht : Grows path d t t') :
      Grows path d (part.onto t) (part.onto t') :=
    grows_onto hlower (fun ⟨e, he, hg⟩ => hgives ⟨e, hpart he, hg⟩)
      (fun ⟨e, he, hb⟩ => hblocks ⟨e, hpart he, hb⟩) ht
  cases hgains with
  | @entry before after key hkey =>
    rw [onto_append, onto_append, onto_cons, hkey]
    exact hpart (List.subset_append_right _ _) (hpart (List.subset_append_left _ _) h).gains
  | @table before after key top name origin hkey hpath =>
    subst hpath
    have htop : Text.lower top = top := hlower top List.mem_cons_self
    have hset (t : Setting) : Setting.setBelow (.table origin [(name, d)]) [.key top] t =
        Setting.setBelow d ([top, Text.lower name].map .key) t := by
      rw [Setting.setBelow_table htop, Setting.setBelow_path hlower]
      congr 1
      funext below?
      rw [Setting.putAll, Setting.putAll, Setting.put_eq_setBelow]
      exact Setting.setBelow_blank (Setting.lowerBefore_singleton _) d below?
    rw [onto_append, onto_append, onto_cons, hkey, hset]
    exact hpart (List.subset_append_right _ _) (hpart (List.subset_append_left _ _) h).gains
  | @inside before after key top name origin inner more hkey hpath =>
    subst hpath
    have htop : Text.lower top = top := hlower top List.mem_cons_self
    have hafter : after ⊆ before ++ (key, .table origin (inner ++ more)) :: after :=
      List.Subset.trans (List.subset_cons_self _ _) (List.subset_append_right _ _)
    rw [onto_append, onto_append, onto_cons, onto_cons, hkey, Setting.setBelow_table htop,
      Setting.setBelow_table htop]
    refine hpart hafter ((hpart (List.subset_append_left _ _) h).under hlower ?_)
    have hentries (entries : List (String × Setting)) (hsub : entries ⊆ inner ++ more)
        {t t' : Setting} (ht : Grows [Text.lower name] d t t') :
        Grows [Text.lower name] d (Setting.putAll entries t) (Setting.putAll entries t') := by
      have hmem : (key, .table origin (inner ++ more)) ∈
          before ++ (key, .table origin (inner ++ more)) :: after := by simp
      refine Grows.putAll origin (fun k value hg hb {_ _} hgrows => ?_) ?_ ?_ ht
      · exact hgrows.setBelow (fun k hk => hlower k (List.mem_cons_of_mem _ hk))
          (Setting.lowerBefore_singleton k) (List.cons_ne_nil _ _) hg hb
      · rintro ⟨e, he, hg⟩
        exact hgives ⟨_, hmem, hkey ▸ ⟨htop, e, hsub he, hg⟩⟩
      · rintro ⟨e, he, hb⟩
        exact hblocks ⟨_, hmem, hkey ▸ ⟨htop, e, hsub he, hb⟩⟩
    have hbelow := (hpart (List.subset_append_left _ _) h).below hlower (.inr rfl)
    rw [Setting.putAll_append, Setting.putAll_append, Setting.putAll, Setting.put_eq_setBelow]
    exact hentries more (List.subset_append_right _ _)
      (hentries inner (List.subset_append_left _ _) hbelow).gains

/-- Layers some of which gain a value grow the tree that they are put on top of. -/
theorem grows_foldl {layers layers' : List Layer} (hlower : ∀ key ∈ path, Text.lower key = key)
    (hgains : List.Forall₂ (fun layer layer' => layer' = layer ∨ layer.Gains path d layer')
      layers layers') (hgives : ∀ layer ∈ layers, ¬ layer.Gives path)
    (hblocks : ∀ layer ∈ layers, ¬ layer.Blocks path) (h : Grows path d s s') :
    Grows path d (layers.foldl (fun root layer => layer.onto root) s)
      (layers'.foldl (fun root layer => layer.onto root) s') := by
  induction hgains generalizing s s' with
  | nil => exact h
  | cons hfirst _ ih =>
    obtain ⟨hgives, hgivesRest⟩ := List.forall_mem_cons.mp hgives
    obtain ⟨hblocks, hblocksRest⟩ := List.forall_mem_cons.mp hblocks
    refine ih hgivesRest hblocksRest ?_
    rcases hfirst with rfl | hgains
    · exact grows_onto hlower hgives hblocks h
    · exact hgains.grows hlower hgives hblocks h

end Layer

end TelemetryGate
