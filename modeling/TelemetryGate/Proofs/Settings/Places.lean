import TelemetryGate.Proofs.Entries
import TelemetryGate.Settings.Merging

/-!
# Places in merged settings

A setting is found under its keys, from the top of the tree of tables on. This file says what stands
at a place after a table was put on top of a tree, or a value was set at the end of some steps. What
is put there never disturbs another place, as long as it does not put something else than a table on
the way to it.
-/

namespace TelemetryGate.Setting

/-- The value under some keys, from the top on. -/
def at? : List String → Setting → Option Setting
  | [], s => some s
  | key :: path, s => (Entries.get? key s.entries).bind (at? path)

/-- A table. -/
def isTable : Setting → Bool
  | .table _ _ => true
  | _ => false

/-- A value that has parts, if only by its kind. -/
def isCompound : Setting → Bool
  | .scalar _ _ => false
  | _ => true

theorem isCompound_of_isTable {s : Setting} (h : s.isTable) : s.isCompound := by
  cases s with
  | scalar _ _ => cases h
  | list _ _ => rfl
  | table _ _ => rfl

/-- The entries hold no key twice, and the keys are in lower case. -/
def tidyKeys {α : Type} (entries : List (String × α)) : Bool :=
  (entries.map (·.1)).Nodup && entries.all fun e => Text.lower e.1 == e.1

mutual

/-- All tables hold no key twice, and their keys are in lower case. Tables in lists do not count. -/
def tidy : Setting → Bool
  | .table _ entries => tidyKeys entries && tidyEntries entries
  | _ => true

/-- The values of some entries are tidy. -/
def tidyEntries : List (String × Setting) → Bool
  | [] => true
  | (_, value) :: rest => value.tidy && tidyEntries rest

end

@[simp]
theorem at?_nil (s : Setting) : s.at? [] = some s := rfl

theorem at?_cons (key : String) (path : List String) (s : Setting) :
    s.at? (key :: path) = (Entries.get? key s.entries).bind (at? path) := rfl

/-- What stands under a key at the top. -/
theorem at?_singleton (key : String) (s : Setting) : s.at? [key] = Entries.get? key s.entries := by
  rw [at?_cons]
  cases Entries.get? key s.entries <;> rfl

/-- Below a missing key there is as little as below a value without entries. -/
theorem at?_cons_eq_getD {path : List String} (hpath : path ≠ []) (blank : Setting)
    (hblank : blank.entries = []) (key : String) (s : Setting) :
    s.at? (key :: path) = ((Entries.get? key s.entries).getD blank).at? path := by
  rw [at?_cons]
  cases Entries.get? key s.entries with
  | some below => rfl
  | none =>
    cases path with
    | nil => exact absurd rfl hpath
    | cons k path =>
      rw [Option.getD_none, at?_cons, hblank]
      rfl

/-- A place is looked up in what stands under its first key. -/
theorem at?_below (key : String) (path : List String) (s : Setting) :
    s.at? (key :: path) = (s.at? [key]).bind (at? path) := by
  rw [at?_cons, at?_singleton]

/-- The values of tidy entries are tidy. -/
theorem tidy_of_mem {entries : List (String × Setting)} (h : tidyEntries entries)
    {e : String × Setting} (he : e ∈ entries) : e.2.tidy := by
  induction entries with
  | nil => cases he
  | cons a rest ih =>
    obtain ⟨hvalue, hrest⟩ := Bool.and_eq_true_iff.mp h
    rcases List.mem_cons.mp he with rfl | he
    · exact hvalue
    · exact ih hrest he

/-! ## Putting tables on top -/

/-- What a value makes of what stands where it is put: a table goes into it, and any other value
replaces it. -/
def laidOn (value : Setting) (below? : Option Setting) : Setting :=
  match value with
  | .table _ entries => putAll entries (below?.getD emptyTable)
  | value => value

/-- What putting a value under a key writes. -/
theorem entries_put (key : String) (value target : Setting) :
    (put key value target).entries = Entries.put (Text.lower key)
      (value.laidOn (Entries.get? (Text.lower key) target.entries)) target.entries := by
  cases value <;> simp only [put, laidOn, entries]

/-- What stands under a key after a value was put under one. -/
theorem get?_put (key : String) (value target : Setting) (other : String) :
    Entries.get? other (put key value target).entries =
      if other = Text.lower key then some (value.laidOn (Entries.get? other target.entries))
      else Entries.get? other target.entries := by
  rw [entries_put, Entries.get?_put]
  split
  · rename_i h
    rw [h]
  · rfl

/-- What stands under a key after tidy entries were put on top. -/
theorem get?_putAll {entries : List (String × Setting)} (h : tidyKeys entries) (target : Setting)
    (key : String) : Entries.get? key (putAll entries target).entries =
      ((Entries.get? key entries).map (laidOn · (Entries.get? key target.entries))).or
        (Entries.get? key target.entries) := by
  induction entries generalizing target with
  | nil => simp [putAll, Entries.get?]
  | cons e rest ih =>
    obtain ⟨k, value⟩ := e
    obtain ⟨⟨hnot, hnodup⟩, hk, hall⟩ :
        ((∀ v, (k, v) ∉ rest) ∧ (rest.map (·.1)).Nodup) ∧ Text.lower k = k ∧
          rest.all fun e => Text.lower e.1 == e.1 := by
      simpa [tidyKeys] using h
    have hrest : tidyKeys rest := by simpa [tidyKeys] using ⟨hnodup, by simpa using hall⟩
    rw [putAll, ih hrest, get?_put, hk]
    by_cases hkey : key = k
    · have hnone : Entries.get? key rest = none :=
        Entries.get?_eq_none fun e he heq => hnot e.2 (hkey ▸ heq ▸ he)
      simp [hkey ▸ hnone, hkey, Entries.get?]
    · simp [hkey, Ne.symm hkey, Entries.get?]

/-- Putting makes a table of any target. -/
theorem isTable_put (key : String) (value target : Setting) : (put key value target).isTable := by
  cases value <;> simp only [put, isTable]

/-- A table stays a table when entries are put on top. -/
theorem isTable_putAll {target : Setting} (h : target.isTable)
    (entries : List (String × Setting)) : (putAll entries target).isTable := by
  induction entries generalizing target with
  | nil => exact h
  | cons e rest ih =>
    apply ih
    exact isTable_put e.1 e.2 target

/-- Any value becomes a table when there are entries to put on top. -/
theorem isTable_putAll_of_ne_nil {entries : List (String × Setting)} (h : entries ≠ [])
    (target : Setting) : (putAll entries target).isTable := by
  cases entries with
  | nil => exact absurd rfl h
  | cons e rest => exact isTable_putAll (isTable_put e.1 e.2 target) rest

/-! ## What is told of a place -/

/-- What stands at a place is what was told of it, unless it is a list or a table. -/
def Agrees (got told : Option Setting) : Prop := got = told ∨ ∃ s, got = some s ∧ s.isCompound

theorem Agrees.refl (got : Option Setting) : Agrees got got := .inl rfl

theorem Agrees.trans {after before told : Option Setting} (hafter : Agrees after before)
    (hbefore : Agrees before told) : Agrees after told := by
  rcases hafter with rfl | hcompound
  · exact hbefore
  · exact .inr hcompound

/-- What a change gives to a place comes before what the place held. -/
theorem Agrees.or {before told : Option Setting} (h : Agrees before told)
    (given : Option Setting) : Agrees (given.or before) (given.or told) := by
  cases given with
  | none => exact h
  | some value => exact .refl _

/-- An empty table, which gives no setting. -/
def isEmptyTable : Setting → Bool
  | .table _ [] => true
  | _ => false

/-- What a table gives at a place. -/
def gives? (s : Setting) (path : List String) : Option Setting :=
  (s.at? path).filter fun value => !value.isEmptyTable

/-- There is nothing but tables on the way to a place. -/
def OpensTo (path : List String) (s : Setting) : Prop :=
  ∀ front, front ≠ [] → front ≠ path → front <+: path →
    ∀ value, s.at? front = some value → value.isTable

/-- The way goes on below its first key. -/
theorem OpensTo.below {key : String} {path : List String} {s below : Setting}
    (h : s.OpensTo (key :: path)) (hbelow : Entries.get? key s.entries = some below) :
    below.OpensTo path := by
  intro front hne hpath hfront value hvalue
  refine h (key :: front) (List.cons_ne_nil _ _) ?_ ?_ value ?_
  · simpa using hpath
  · simpa using hfront
  · rw [at?_cons, hbelow]
    exact hvalue

/-- A value that is put somewhere stands there, save an empty table. -/
theorem agrees_laidOn (value : Setting) (below? : Option Setting) :
    Agrees (some (value.laidOn below?))
      (((some value).filter fun value => !value.isEmptyTable).or below?) := by
  cases value with
  | scalar origin value => exact .inl rfl
  | list origin items => exact .inl rfl
  | table origin entries =>
    cases entries with
    | nil =>
      cases below? with
      | none => exact .inr ⟨emptyTable, rfl, rfl⟩
      | some below => exact .inl rfl
    | cons e rest =>
      have htable := isTable_putAll_of_ne_nil (List.cons_ne_nil e rest) (below?.getD emptyTable)
      exact .inr ⟨_, rfl, isCompound_of_isTable htable⟩

/-- After a tidy table was put on top of a tree, a place holds what the table gives it, or what it
held before. -/
theorem agrees_putAll {path : List String} (hpath : path ≠ []) {origin : Option String}
    {entries : List (String × Setting)} (htidy : (table origin entries).tidy)
    (hopens : (table origin entries).OpensTo path) (target : Setting) :
    Agrees ((putAll entries target).at? path)
      (((table origin entries).gives? path).or (target.at? path)) := by
  induction path generalizing origin entries target with
  | nil => exact absurd rfl hpath
  | cons key path ih =>
    obtain ⟨hkeys, hvalues⟩ := Bool.and_eq_true_iff.mp htidy
    rw [gives?, at?_cons, at?_cons, get?_putAll hkeys]
    change Agrees _ ((((Entries.get? key entries).bind (at? path)).filter _).or _)
    cases hget : Entries.get? key entries with
    | none => exact .refl _
    | some value =>
      rw [Option.map_some, Option.some_or, Option.bind_some, Option.bind_some]
      by_cases hend : path = []
      · subst hend
        rw [at?_singleton]
        exact agrees_laidOn value (Entries.get? key target.entries)
      · -- The value is on the way, so it is a table and goes into what is there.
        have htable : value.isTable :=
          hopens [key] (List.cons_ne_nil _ _) (by simp [Ne.symm hend]) (by simp) value
            ((at?_singleton _ _).trans hget)
        cases value with
        | scalar _ _ => cases htable
        | list _ _ => cases htable
        | table _ inner =>
          rw [at?_cons_eq_getD hend emptyTable rfl key target]
          exact ih hend (tidy_of_mem hvalues (Entries.mem_of_get? hget)) (hopens.below hget) _

/-! ## Setting single values -/

/-- Some steps end at a place, or go on from it into a list: whatever is set there, what stands at
the place afterwards is no table. -/
def replaces : List Access → List String → Bool
  | [], [] => true
  | .item _ :: _, [] => true
  | .key name :: steps, key :: path => name == key && replaces steps path
  | _, _ => false

/-- All names but the last one are in lower case. The last one is lowered when it is used. -/
def LowerBefore (steps : List Access) : Prop :=
  ∀ name, .key name ∈ steps.dropLast → Text.lower name = name

/-- Where a value that is set stands. -/
def lowered (steps : List Access) : List Access :=
  steps.map fun
    | .key name => .key (Text.lower name)
    | .item i => .item i

/-- Steps that lead somewhere lead into something with parts. -/
theorem isCompound_setBelow (value : Setting) (step : Access) (rest : List Access)
    (target : Setting) : (setBelow value (step :: rest) target).isCompound := by
  cases step with
  | item i => simp only [setBelow, isCompound]
  | key name =>
    cases rest with
    | nil => cases value <;> simp only [setBelow, put, isCompound]
    | cons next rest => simp only [setBelow, isCompound]

/-- What stands at a place below a key after a value was set on the way through that key. -/
theorem at?_setBelow_cons {value : Setting} {name : String} {rest : List Access}
    (hrest : rest ≠ []) (key : String) (path : List String) (target : Setting) :
    (setBelow value (.key name :: rest) target).at? (key :: path) =
      if key = name then
        (setBelow value rest ((Entries.get? name target.entries).getD absent)).at? path
      else target.at? (key :: path) := by
  cases rest with
  | nil => exact absurd rfl hrest
  | cons next rest =>
    simp only [at?_cons, setBelow, entries, Entries.get?_put]
    split
    · rfl
    · rfl

/-- After a value was set at the end of some steps, a place holds that value if the steps lead
there, and else what it held before. -/
theorem agrees_setBelow {origin : Option String} {value : Scalar} {steps : List Access}
    (hlower : LowerBefore steps) {path : List String}
    (hreplaces : ∀ front, front ≠ path → front <+: path → replaces (lowered steps) front = false)
    (target : Setting) :
    Agrees ((setBelow (scalar origin value) steps target).at? path)
      (if lowered steps = path.map .key then some (scalar origin value) else target.at? path) := by
  induction steps generalizing path target with
  | nil =>
    cases path with
    | nil => exact .inl rfl
    | cons key path => exact absurd (hreplaces [] (by simp) (by simp)) (by simp [lowered, replaces])
  | cons step rest ih =>
    cases path with
    | nil => exact .inr ⟨_, rfl, isCompound_setBelow _ step rest target⟩
    | cons key path =>
      cases step with
      | item i => exact absurd (hreplaces [] (by simp) (by simp)) (by simp [lowered, replaces])
      | key name =>
        cases rest with
        | nil =>
          rw [setBelow, at?_cons, get?_put]
          by_cases hkey : key = Text.lower name
          · have hpath : path = [] := by
              by_contra hne
              have hfront := hreplaces [key] (by simp [Ne.symm hne]) (by simp)
              simp [lowered, replaces, hkey] at hfront
            subst hpath
            simpa [lowered, hkey, laidOn] using .refl _
          · simpa [lowered, hkey, Ne.symm hkey, at?_cons] using .refl _
        | cons next rest =>
          have hname : Text.lower name = name := hlower name (by simp)
          rw [at?_setBelow_cons (List.cons_ne_nil _ _)]
          by_cases hkey : key = name
          · subst hkey
            have hlower' : LowerBefore (next :: rest) := fun n hn =>
              hlower n (List.mem_cons_of_mem _ hn)
            have hway : ∀ front, front ≠ path → front <+: path →
                replaces (lowered (next :: rest)) front = false := by
              intro front hne hfront
              have h := hreplaces (key :: front) (by simpa using hne) (by simpa using hfront)
              simpa [lowered, replaces, hname] using h
            have hbelow := ih hlower' hway ((Entries.get? key target.entries).getD absent)
            cases path with
            | nil => exact .inr ⟨_, by rw [if_pos rfl]; rfl, isCompound_setBelow _ next rest _⟩
            | cons k path =>
              rw [if_pos rfl, at?_cons_eq_getD (List.cons_ne_nil k path) absent rfl]
              simpa [lowered, hname] using hbelow
          · simpa [lowered, hname, hkey, Ne.symm hkey] using .refl _

/-! ## What merging keeps -/

/-- The keys of all tables that have a place are in order. -/
def Ordered (s : Setting) : Prop :=
  ∀ path value, s.at? path = some value → Entries.Rising value.entries

theorem ordered_of_entries {s : Setting} (h : s.entries = []) : s.Ordered := by
  intro path value hvalue
  cases path with
  | nil =>
    cases hvalue
    rw [h]
    exact Entries.rising_nil
  | cons key path =>
    rw [at?_cons, h] at hvalue
    cases hvalue

/-- What stands below a key is ordered too. -/
theorem Ordered.below {s : Setting} (h : s.Ordered) (blank : Setting) (hblank : blank.entries = [])
    (key : String) : ((Entries.get? key s.entries).getD blank).Ordered := by
  cases hget : Entries.get? key s.entries with
  | none => exact ordered_of_entries hblank
  | some below =>
    intro path value hvalue
    apply h (key :: path) value
    rw [at?_cons, hget]
    exact hvalue

/-- What is written under a key of ordered tables leaves them ordered, if it is ordered itself. -/
theorem Ordered.putEntry {s target : Setting} (h : target.Ordered) {key : String} (value : Setting)
    (hvalue : value.Ordered) (hs : s.entries = Entries.put key value target.entries) :
    s.Ordered := by
  intro path found hfound
  cases path with
  | nil =>
    cases hfound
    rw [hs]
    exact (h [] target rfl).put key value
  | cons k path =>
    rw [at?_cons, hs, Entries.get?_put] at hfound
    split at hfound
    · exact hvalue path found hfound
    · exact h (k :: path) found hfound

mutual

/-- Putting a value under a key keeps the order: what is put in a table is put there entry by
entry. -/
theorem Ordered.put {target : Setting} (h : target.Ordered) (key : String) :
    (value : Setting) → (put key value target).Ordered
  | .scalar origin value =>
    h.putEntry (.scalar origin value) (ordered_of_entries rfl) (entries_put key _ target)
  | .list origin items =>
    h.putEntry (.list origin items) (ordered_of_entries rfl) (entries_put key _ target)
  | .table origin inner =>
    h.putEntry _ (Ordered.putAll (h.below emptyTable rfl _) inner)
      (entries_put key (.table origin inner) target)

/-- So does putting the entries of a table on top. -/
theorem Ordered.putAll {target : Setting} (h : target.Ordered) :
    (entries : List (String × Setting)) → (putAll entries target).Ordered
  | [] => h
  | (key, value) :: rest => Ordered.putAll (Ordered.put h key value) rest

end

/-- So does setting a value at the end of some steps. -/
theorem Ordered.setBelow {target : Setting} (h : target.Ordered) (value : Setting)
    {steps : List Access} (hsteps : steps ≠ []) : (setBelow value steps target).Ordered := by
  induction steps generalizing target with
  | nil => exact absurd rfl hsteps
  | cons step rest ih =>
    cases step with
    | item i => exact ordered_of_entries (by simp only [Setting.setBelow, entries])
    | key name =>
      cases rest with
      | nil => exact h.put name value
      | cons next rest =>
        exact h.putEntry _ (ih (h.below absent rfl name) (List.cons_ne_nil _ _)) rfl

/-- Only a table stands under a key, if anything. -/
def TableUnder (key : String) (s : Setting) : Prop :=
  ∀ value, Entries.get? key s.entries = some value → value.isTable

theorem TableUnder.putAll {key : String} {target : Setting} (h : target.TableUnder key)
    {entries : List (String × Setting)} (hkeys : tidyKeys entries)
    (hentries : ∀ value, Entries.get? key entries = some value → value.isTable) :
    (putAll entries target).TableUnder key := by
  intro value hvalue
  rw [get?_putAll hkeys] at hvalue
  cases hget : Entries.get? key entries with
  | none =>
    apply h
    simpa [hget] using hvalue
  | some put =>
    rw [hget, Option.map_some, Option.some_or] at hvalue
    cases hvalue
    have htable := hentries put hget
    cases put with
    | scalar _ _ => cases htable
    | list _ _ => cases htable
    | table _ inner =>
      apply isTable_putAll
      cases hbelow : Entries.get? key target.entries with
      | none => rfl
      | some below => exact h below hbelow

/-- Setting a value below a key makes a table. -/
theorem isTable_setBelow (value : Setting) (name : String) (rest : List Access)
    (target : Setting) : (setBelow value (.key name :: rest) target).isTable := by
  cases rest with
  | nil => exact isTable_put name value target
  | cons next rest => simp only [setBelow, isTable]

theorem TableUnder.setBelow {key : String} {target : Setting} (h : target.TableUnder key)
    (value : Setting) {name : String} {rest : List Access}
    (hlower : LowerBefore (.key name :: rest))
    (hreplaces : replaces (lowered (.key name :: rest)) [key] = false) :
    (setBelow value (.key name :: rest) target).TableUnder key := by
  intro found hfound
  cases rest with
  | nil =>
    rw [Setting.setBelow, get?_put] at hfound
    split at hfound
    · rename_i hkey
      simp [lowered, replaces, hkey] at hreplaces
    · exact h found hfound
  | cons next rest =>
    have hname : Text.lower name = name := hlower name (by simp)
    rw [← at?_singleton, at?_setBelow_cons (List.cons_ne_nil _ _)] at hfound
    split at hfound
    · rename_i hkey
      cases hfound
      cases next with
      | item i => simp [lowered, replaces, hname, hkey] at hreplaces
      | key n => exact isTable_setBelow value n rest _
    · rw [at?_singleton] at hfound
      exact h found hfound

end TelemetryGate.Setting
