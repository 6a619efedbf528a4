import TelemetryGate.Entries
import Mathlib.Data.List.Induction
import Mathlib.Data.List.Nodup

/-!
# Entries as finite maps

Entries built by `put` are in strictly rising order of their keys, so each key occurs once and
`get?` tells all there is to know about them. This file gives the reading of every way in which
entries are built: writing one key, collecting a list, and changing or leaving out single values.
-/

namespace TelemetryGate.Entries

variable {α β : Type}

theorem key_ne_of_lt {key other : String} (h : key < other) : key ≠ other := by
  rintro rfl
  exact String.lt_irrefl key h

/-- The keys stand in strictly rising order, so none occurs twice. -/
def Rising (es : Entries α) : Prop := es.Pairwise fun a b => a.1 < b.1

theorem rising_nil : Rising ([] : Entries α) := .nil

theorem rising_cons {e : String × α} {es : Entries α} :
    Rising (e :: es) ↔ (∀ a ∈ es, e.1 < a.1) ∧ Rising es := List.pairwise_cons

/-- Only the keys count for the order. -/
theorem rising_of_keys {es : Entries α} (h : (es.map (·.1)).Pairwise (· < ·)) : Rising es :=
  List.pairwise_map.mp h

/-- What `put` holds is the new entry and entries that were there before. -/
theorem mem_of_mem_put {key : String} {value : α} {es : Entries α} {e : String × α}
    (h : e ∈ put key value es) : e = (key, value) ∨ e ∈ es := by
  induction es with
  | nil => simpa [put] using h
  | cons a rest ih =>
    obtain ⟨k, v⟩ := a
    simp only [put] at h
    split at h
    · simpa using h
    · split at h
      · rcases List.mem_cons.mp h with h | h
        · exact .inl h
        · exact .inr (List.mem_cons_of_mem _ h)
      · rcases List.mem_cons.mp h with h | h
        · exact .inr (h ▸ List.mem_cons_self)
        · exact (ih h).imp_right (List.mem_cons_of_mem _)

/-- Writing a key keeps the order. -/
theorem Rising.put {es : Entries α} (h : Rising es) (key : String) (value : α) :
    Rising (put key value es) := by
  induction es with
  | nil => exact rising_cons.mpr ⟨by simp, rising_nil⟩
  | cons a rest ih =>
    obtain ⟨k, v⟩ := a
    obtain ⟨hk, hrest⟩ := rising_cons.mp h
    simp only [Entries.put]
    split
    · rename_i hlt
      refine rising_cons.mpr ⟨fun e he => ?_, h⟩
      rcases List.mem_cons.mp he with rfl | he
      · exact hlt
      · exact String.lt_trans hlt (hk e he)
    · split
      · rename_i heq
        subst heq
        exact rising_cons.mpr ⟨hk, hrest⟩
      · rename_i hlt hne
        have hgt : k < key := by grind
        refine rising_cons.mpr ⟨fun e he => ?_, ih hrest⟩
        rcases mem_of_mem_put he with rfl | he
        · exact hgt
        · exact hk e he

/-- Collected entries are in order. -/
theorem rising_ofList (l : List (String × α)) : Rising (ofList l) := by
  suffices ∀ acc : Entries α, Rising acc →
      Rising (l.foldl (fun acc e => put e.1 e.2 acc) acc) from this [] rising_nil
  induction l with
  | nil => exact fun acc h => h
  | cons e rest ih => exact fun acc h => ih _ (h.put e.1 e.2)

/-- Reading after writing, for any key. -/
theorem get?_put (key other : String) (value : α) (es : Entries α) :
    (put key value es).get? other = if other = key then some value else es.get? other := by
  split
  · rename_i h
    rw [h, get?_put_self]
  · rename_i h
    rw [get?_put_of_ne h]

/-- Of two writings to one key the later one counts. -/
theorem put_put (key : String) (value value' : α) (es : Entries α) :
    put key value (put key value' es) = put key value es := by
  induction es with
  | nil => grind [put]
  | cons e rest ih => grind [put]

/-- Different keys can be written in either order. -/
theorem put_comm {key other : String} (h : key ≠ other) (a b : α) (es : Entries α) :
    put key a (put other b es) = put other b (put key a es) := by
  induction es with
  | nil => grind [put]
  | cons e rest ih => grind [put]

/-- What is read is there. -/
theorem mem_of_get? {key : String} {value : α} {es : Entries α} (h : es.get? key = some value) :
    (key, value) ∈ es := by
  induction es with
  | nil => simp [get?] at h
  | cons a rest ih => grind [get?]

/-- A key that no entry has reads as nothing. -/
theorem get?_eq_none {key : String} {es : Entries α} (h : ∀ e ∈ es, e.1 ≠ key) :
    es.get? key = none := by
  cases hget : es.get? key with
  | none => rfl
  | some v => exact absurd rfl (h _ (mem_of_get? hget))

/-- In entries that hold no key twice, reading finds exactly what is there. -/
theorem get?_eq_some_iff_of_nodup {es : Entries α} (h : (es.map (·.1)).Nodup) {key : String}
    {value : α} : es.get? key = some value ↔ (key, value) ∈ es := by
  refine ⟨mem_of_get?, fun hmem => ?_⟩
  induction es with
  | nil => cases hmem
  | cons a rest ih =>
    obtain ⟨hnot, hrest⟩ := List.nodup_cons.mp h
    rcases List.mem_cons.mp hmem with rfl | hmem
    · rw [get?, if_pos rfl]
    · have hne : a.1 ≠ key := by
        rintro rfl
        exact hnot (List.mem_map_of_mem (f := (·.1)) hmem)
      rw [get?, if_neg hne]
      exact ih hrest hmem

/-- Entries in order hold no key twice. -/
theorem Rising.nodup_keys {es : Entries α} (h : Rising es) : (es.map (·.1)).Nodup :=
  List.pairwise_map.mpr (h.imp key_ne_of_lt)

/-- In entries in order, reading finds exactly what is there. -/
theorem Rising.get?_eq_some_iff {es : Entries α} (h : Rising es) {key : String} {value : α} :
    es.get? key = some value ↔ (key, value) ∈ es :=
  get?_eq_some_iff_of_nodup h.nodup_keys

/-- The keys are those that read as something. -/
theorem mem_keys_iff {key : String} {es : Entries α} :
    key ∈ es.keys ↔ (es.get? key).isSome := by
  induction es with
  | nil => simp [keys, get?]
  | cons a rest ih => grind [keys, get?]

/-- The last entry of a list is written last. -/
theorem ofList_append (l : List (String × α)) (e : String × α) :
    ofList (l ++ [e]) = put e.1 e.2 (ofList l) := by
  rw [ofList, List.foldl_append]
  rfl

/-- Of the values that a list gives to a key the last one counts. -/
theorem get?_ofList_append (key : String) (l : List (String × α)) (e : String × α) :
    (ofList (l ++ [e])).get? key = if key = e.1 then some e.2 else (ofList l).get? key := by
  rw [ofList_append, get?_put]

/-- What is collected is in the list. -/
theorem mem_of_mem_ofList {l : List (String × α)} {e : String × α} (h : e ∈ ofList l) : e ∈ l := by
  induction l using List.reverseRecOn with
  | nil => cases h
  | append_singleton l a ih =>
    rw [ofList_append] at h
    rcases mem_of_mem_put h with rfl | h
    · simp
    · exact List.mem_append_left _ (ih h)

/-- Every key of the list is collected, with one of its values. -/
theorem exists_mem_ofList {l : List (String × α)} {key : String} {value : α}
    (h : (key, value) ∈ l) : ∃ last, (key, last) ∈ ofList l := by
  suffices ∃ last, (ofList l).get? key = some last from this.imp fun _ => mem_of_get?
  induction l using List.reverseRecOn with
  | nil => cases h
  | append_singleton l a ih =>
    rw [get?_ofList_append]
    split
    · exact ⟨a.2, rfl⟩
    · rename_i hne
      rcases List.mem_append.mp h with h | h
      · exact ih h
      · obtain rfl := List.mem_singleton.mp h
        exact absurd rfl hne

/-- A list that gives no key twice is read as it stands. -/
theorem get?_ofList_eq_some_iff {l : List (String × α)} (h : (l.map (·.1)).Nodup) {key : String}
    {value : α} : (ofList l).get? key = some value ↔ (key, value) ∈ l := by
  induction l using List.reverseRecOn with
  | nil => simp [ofList, get?]
  | append_singleton l e ih =>
    obtain ⟨k, v⟩ := e
    rw [List.map_append, List.nodup_append] at h
    obtain ⟨hl, -, hdisjoint⟩ := h
    rw [get?_ofList_append]
    by_cases hkey : key = k
    · subst hkey
      have hnot : (key, value) ∉ l := fun hmem =>
        hdisjoint key (List.mem_map_of_mem (f := (·.1)) hmem) key (by simp) rfl
      simp [hnot, eq_comm]
    · simp [hkey, ih hl]

/-- A key behind all others is written at the end. -/
theorem put_of_forall_lt {key : String} {es : Entries α} (h : ∀ e ∈ es, e.1 < key) (value : α) :
    put key value es = es ++ [(key, value)] := by
  induction es with
  | nil => rfl
  | cons a rest ih =>
    have hlt : a.1 < key := h a List.mem_cons_self
    have hnot : ¬ key < a.1 := String.lt_asymm hlt
    have hne : key ≠ a.1 := (key_ne_of_lt hlt).symm
    simp only [put, if_neg hnot, if_neg hne, List.cons_append]
    rw [ih fun e he => h e (List.mem_cons_of_mem _ he)]

/-- Entries in order are collected as they are. -/
theorem Rising.ofList_eq {es : Entries α} (h : Rising es) : ofList es = es := by
  induction es using List.reverseRecOn with
  | nil => rfl
  | append_singleton es e ih =>
    obtain ⟨hes, -, hlast⟩ := List.pairwise_append.mp h
    rw [ofList_append, ih hes]
    exact put_of_forall_lt (fun a ha => hlast a ha e (List.mem_singleton_self e)) e.2

/-- Entries in order are the same if they hold the same. -/
theorem Rising.ext {es es' : Entries α} (h : Rising es) (h' : Rising es')
    (hmem : ∀ e, e ∈ es ↔ e ∈ es') : es = es' := by
  have hperm : es.Perm es' :=
    (List.perm_ext_iff_of_nodup h.nodup_keys.of_map h'.nodup_keys.of_map).mpr hmem
  exact hperm.eq_of_pairwise (fun a b _ _ hlt hgt => absurd hgt (String.lt_asymm hlt)) h h'

/-- Entries in order are the same if they read the same. -/
theorem Rising.ext_get? {es es' : Entries α} (h : Rising es) (h' : Rising es')
    (hget : ∀ key value, es.get? key = some value ↔ es'.get? key = some value) : es = es' := by
  refine h.ext h' fun e => ?_
  rw [← h.get?_eq_some_iff, ← h'.get?_eq_some_iff]
  exact hget e.1 e.2

/-- Putting what is there changes nothing. -/
theorem Rising.put_get? {es : Entries α} (h : Rising es) {key : String} {value : α}
    (hget : es.get? key = some value) : Entries.put key value es = es := by
  refine (h.put key value).ext_get? h fun other v => ?_
  rw [get?_put]
  split
  · rename_i heq
    rw [heq, hget]
  · rfl

/-- The order of a list that gives no key twice makes no difference to what is collected. -/
theorem ofList_perm {l l' : List (String × α)} (h : (l.map (·.1)).Nodup) (hperm : l.Perm l') :
    ofList l = ofList l' := by
  have h' : (l'.map (·.1)).Nodup := (hperm.map _).nodup_iff.mp h
  refine (rising_ofList l).ext_get? (rising_ofList l') fun key value => ?_
  rw [get?_ofList_eq_some_iff h, get?_ofList_eq_some_iff h', hperm.mem_iff]

/-- Entries in order are collected from a list that holds them in any order. -/
theorem Rising.ofList_of_perm {es : Entries α} (h : Rising es) {l : List (String × α)}
    (hperm : l.Perm es) : ofList l = es :=
  (ofList_perm ((hperm.map _).nodup_iff.mpr h.nodup_keys) hperm).trans h.ofList_eq

theorem get?_mapValues (f : α → β) (key : String) (es : Entries α) :
    (mapValues f es).get? key = (es.get? key).map f := by
  induction es with
  | nil => rfl
  | cons a rest ih =>
    rw [mapValues, List.map_cons, get?, get?]
    split
    · rfl
    · exact ih

/-- Changing the values and writing a key can be done in either order. -/
theorem put_mapValues (f : α → β) (key : String) (value : α) (es : Entries α) :
    put key (f value) (mapValues f es) = mapValues f (put key value es) := by
  induction es with
  | nil => rfl
  | cons a rest ih => grind [put, mapValues]

/-- Collecting a list with changed values changes the values that are collected. -/
theorem ofList_map (f : α → β) (l : List (String × α)) :
    ofList (l.map fun e => (e.1, f e.2)) = mapValues f (ofList l) := by
  induction l using List.reverseRecOn with
  | nil => rfl
  | append_singleton l e ih =>
    rw [List.map_append, List.map_singleton, ofList_append, ih, ofList_append]
    exact put_mapValues f e.1 e.2 _

/-- Changing values, or leaving out some, acts on each key apart. -/
theorem Rising.get?_filterMap {es : Entries α} (h : Rising es) (f : α → Option β) (key : String) :
    Entries.get? key (es.filterMap fun e => (f e.2).map (e.1, ·)) = (es.get? key).bind f := by
  induction es with
  | nil => rfl
  | cons a rest ih =>
    obtain ⟨k, v⟩ := a
    obtain ⟨hk, hrest⟩ := rising_cons.mp h
    have hrest' := ih hrest
    by_cases hkey : k = key
    · subst hkey
      have hnone : Entries.get? k rest = none := get?_eq_none fun e he =>
        (key_ne_of_lt (hk e he)).symm
      rw [hnone, Option.bind_none] at hrest'
      cases hf : f v <;> simp [hf, get?, hrest']
    · cases hf : f v <;> simp [hf, get?, hkey, hrest']

/-- Leaving out entries by their keys leaves the others as they are. -/
theorem get?_filter (p : String → Bool) (key : String) (es : Entries α) :
    Entries.get? key (es.filter fun e => p e.1) = if p key then es.get? key else none := by
  induction es with
  | nil => simp [get?]
  | cons a rest ih => grind [get?]

/-- What is left after leaving out some entries is still in order. -/
theorem Rising.filterMap {es : Entries α} (h : Rising es) (f : α → Option β) :
    Rising (es.filterMap fun e => (f e.2).map (e.1, ·)) := by
  refine List.Pairwise.filterMap _ (fun a b hlt c hc d hd => ?_) h
  obtain ⟨_, _, rfl⟩ := Option.map_eq_some_iff.mp hc
  obtain ⟨_, _, rfl⟩ := Option.map_eq_some_iff.mp hd
  exact hlt

end TelemetryGate.Entries
