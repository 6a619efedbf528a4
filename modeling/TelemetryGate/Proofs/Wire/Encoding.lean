import TelemetryGate.Proofs.Entries
import TelemetryGate.Proofs.Results
import TelemetryGate.Wire.Data

/-!
# The meaning of free data

Data means a JSON value, or it has none: then a whole number in it is too great or too small, or
something in it stands as a key that cannot be one. A record means the object of the last values
that are given under each key text, so that the order in which they are given does not matter
otherwise.
-/

namespace TelemetryGate.Wire

namespace Data

/-- Induction over data and the data in it, where that has a meaning of its own. -/
@[elab_as_elim]
theorem induct {P : Data → Prop} (nothing : P .nothing) (bool : ∀ b, P (.bool b))
    (int : ∀ i, P (.int i)) (float : ∀ x, P (.float x)) (text : ∀ s, P (.text s))
    (list : ∀ items, (∀ d ∈ items, P d) → P (.list items))
    (record : ∀ entries, (∀ e ∈ entries, P e.2) → P (.record entries)) (d : Data) : P d := by
  refine @Data.rec P (fun items => ∀ d ∈ items, P d) (fun entries => ∀ e ∈ entries, P e.2)
    (fun e => P e.2) nothing bool int float text list record ?_ ?_ ?_ ?_ ?_ d
  · exact List.forall_mem_nil _
  · exact fun d items hd hitems => List.forall_mem_cons.mpr ⟨hd, hitems⟩
  · exact List.forall_mem_nil _
  · exact fun e entries he hentries => List.forall_mem_cons.mpr ⟨he, hentries⟩
  · exact fun k v _ hv => hv

/-! ## What data means -/

/-- Data that can be a key. -/
inductive IsKey : Data → Prop where
  /-- A text. -/
  | text (s : String) : IsKey (.text s)
  /-- A whole number of any size. -/
  | int (i : Int) : IsKey (.int i)
  /-- A truth value. -/
  | bool (b : Bool) : IsKey (.bool b)
  /-- A finite double. -/
  | float {x : Binary64} (finite : x.isFinite = true) : IsKey (.float x)

/-- A whole number that a word of 64 bits holds, with sign or without. -/
def Fits (i : Int) : Prop := -(twoPow 63 : Int) ≤ i ∧ i < twoPow 64

/-- Data whose whole numbers fit and whose keys are keys. -/
inductive Encodable : Data → Prop where
  /-- Nothing. -/
  | nothing : Encodable .nothing
  /-- A truth value. -/
  | bool (b : Bool) : Encodable (.bool b)
  /-- A whole number that fits. -/
  | int {i : Int} (fits : Fits i) : Encodable (.int i)
  /-- A double. -/
  | float (x : Binary64) : Encodable (.float x)
  /-- A text. -/
  | text (s : String) : Encodable (.text s)
  /-- A list of such data. -/
  | list {items : List Data} (each : ∀ d ∈ items, Encodable d) : Encodable (.list items)
  /-- Such data under keys. -/
  | record {entries : List (Data × Data)} (keys : ∀ e ∈ entries, IsKey e.1)
    (values : ∀ e ∈ entries, Encodable e.2) : Encodable (.record entries)

/-- The last value that is given under a key text. -/
def lastGiven (key : String) (entries : List (Data × Data)) : Option Data :=
  (entries.reverse.find? fun e => e.1.key.toOption = some key).map (·.2)

/-- What data means as a JSON value. -/
inductive Means : Data → Json.Value → Prop where
  /-- Nothing. -/
  | nothing : Means .nothing .null
  /-- A truth value. -/
  | bool (b : Bool) : Means (.bool b) (.bool b)
  /-- A whole number that fits. -/
  | int {i : Int} (fits : Fits i) : Means (.int i) (.int i)
  /-- A finite double. -/
  | float {x : Binary64} (finite : x.isFinite = true) : Means (.float x) (.float x)
  /-- A double that is not finite. -/
  | notFinite {x : Binary64} (infinite : x.isFinite = false) : Means (.float x) .null
  /-- A text. -/
  | text (s : String) : Means (.text s) (.text s)
  /-- The values of the items of a list, in their order. -/
  | list {items : List Data} {values : List Json.Value} (length : values.length = items.length)
    (each : ∀ (i : Nat) d v, items[i]? = some d → values[i]? = some v → Means d v) :
    Means (.list items) (.array values)
  /-- The values of a record, in the order of their key texts: each key text has the last value that
  is given under it. Values that do not count have to be encodable too. -/
  | record {entries : List (Data × Data)} {members : Entries Json.Value}
    (encodable : Encodable (.record entries)) (rising : members.Rising)
    (keys : ∀ key, (members.get? key).isSome = (lastGiven key entries).isSome)
    (each : ∀ key d v, lastGiven key entries = some d → members.get? key = some v → Means d v) :
    Means (.record entries) (.object members)

/-- The first thing for which data has no JSON value. The key of an entry comes before its value. -/
inductive Fails : Data → EncodingFault → Prop where
  /-- A whole number does not fit. -/
  | int {i : Int} (beyond : ¬ Fits i) : Fails (.int i) .numberOutOfRange
  /-- Some item of a list fails, and those before it do not. -/
  | list {before : List Data} {d : Data} {after : List Data} {fault : EncodingFault}
    (sound : ∀ b ∈ before, Encodable b) (fails : Fails d fault) :
    Fails (.list (before ++ d :: after)) fault
  /-- Some key of a record is none, and the entries before it do not fail. -/
  | key {before : List (Data × Data)} {k v : Data} {after : List (Data × Data)}
    {fault : EncodingFault} (sound : ∀ b ∈ before, IsKey b.1 ∧ Encodable b.2)
    (unkeyed : k.key = .error fault) : Fails (.record (before ++ (k, v) :: after)) fault
  /-- Some value of a record fails, and neither its key nor the entries before it do. -/
  | value {before : List (Data × Data)} {k v : Data} {after : List (Data × Data)}
    {fault : EncodingFault} (sound : ∀ b ∈ before, IsKey b.1 ∧ Encodable b.2) (keyed : IsKey k)
    (fails : Fails v fault) : Fails (.record (before ++ (k, v) :: after)) fault

/-! ## The encoding, part by part -/

/-- The member of an entry. -/
def member (e : Data × Data) : Except EncodingFault (String × Json.Value) := do
  let key ← e.1.key
  let value ← e.2.json
  .ok (key, value)

theorem isKey_iff {d : Data} : d.IsKey ↔ ∃ key, d.key = .ok key := by
  constructor
  · rintro (s | i | b | finite)
    · exact ⟨_, rfl⟩
    · exact ⟨_, rfl⟩
    · exact ⟨_, rfl⟩
    · exact ⟨_, if_pos finite⟩
  · rintro ⟨s, hs⟩
    cases d with
    | text t => exact .text t
    | int i => exact .int i
    | bool b => exact .bool b
    | float x =>
      rw [key] at hs
      split at hs
      · exact .float ‹_›
      · cases hs
    | _ => cases hs

theorem fits_iff {i : Int} : (fitsSigned i || fitsUnsigned i) = true ↔ Fits i := by
  have hle : twoPow 63 ≤ twoPow 64 := by decide
  simp only [fitsSigned, fitsUnsigned, Fits, Bool.or_eq_true, Bool.and_eq_true, decide_eq_true_eq]
  omega

end Data

open Data (member lastGiven)

theorem jsonItems_eq (items : List Data) : jsonItems items = items.mapM Data.json := by
  induction items with
  | nil => rfl
  | cons d rest ih => rw [jsonItems, ih, List.mapM_cons]; rfl

theorem jsonEntries_eq (entries : List (Data × Data)) (acc : Entries Json.Value) :
    jsonEntries entries acc = entries.mapM member >>= fun members =>
      .ok (members.foldl (fun acc e => acc.put e.1 e.2) acc) := by
  induction entries generalizing acc with
  | nil => rfl
  | cons e rest ih =>
    obtain ⟨k, v⟩ := e
    rw [jsonEntries, List.mapM_cons, member]
    cases k.key with
    | error fault => rfl
    | ok key =>
      cases v.json with
      | error fault => rfl
      | ok value =>
        change jsonEntries rest (acc.put key value) = _
        rw [ih]
        cases rest.mapM member <;> rfl

namespace Data

theorem json_list (items : List Data) :
    (list items).json = items.mapM json >>= fun values => .ok (.array values) := by
  rw [json, jsonItems_eq]

theorem json_record (entries : List (Data × Data)) :
    (record entries).json = entries.mapM member >>= fun members =>
      .ok (.object (Entries.ofList members)) := by
  rw [json, jsonEntries_eq]
  cases entries.mapM member <;> rfl

theorem member_eq_ok_iff {e : Data × Data} {m : String × Json.Value} :
    member e = .ok m ↔ e.1.key = .ok m.1 ∧ e.2.json = .ok m.2 := by
  rw [member, bind_eq_ok_iff]
  constructor
  · rintro ⟨key, hkey, h⟩
    obtain ⟨value, hvalue, h⟩ := bind_eq_ok_iff.mp h
    cases h
    exact ⟨hkey, hvalue⟩
  · rintro ⟨hkey, hvalue⟩
    exact ⟨m.1, hkey, bind_eq_ok_iff.mpr ⟨m.2, hvalue, rfl⟩⟩

/-- An entry is a member if it stands under a key and its value has a JSON value. -/
theorem exists_member_iff_json {e : Data × Data} :
    (∃ m, member e = .ok m) ↔ e.1.IsKey ∧ ∃ v, e.2.json = .ok v := by
  simp only [member_eq_ok_iff, isKey_iff, Prod.exists, exists_and_left, exists_and_right]

theorem member_eq_error_iff {e : Data × Data} {fault : EncodingFault} :
    member e = .error fault ↔ e.1.key = .error fault ∨ e.1.IsKey ∧ e.2.json = .error fault := by
  rw [member, bind_eq_error_iff, isKey_iff, ← exists_and_right]
  refine or_congr_right (exists_congr fun key => and_congr_right fun _ => ?_)
  rw [bind_eq_error_iff]
  constructor
  · rintro (h | ⟨value, -, h⟩)
    · exact h
    · cases h
  · exact .inl

/-! ## Which data has a JSON value -/

/-- Encodable data is the data that has a JSON value. -/
theorem exists_json_iff {d : Data} : (∃ v, d.json = .ok v) ↔ d.Encodable := by
  induction d using induct with
  | nothing => exact iff_of_true ⟨_, rfl⟩ .nothing
  | bool b => exact iff_of_true ⟨_, rfl⟩ (.bool b)
  | int i =>
    rw [json]
    constructor
    · rintro ⟨v, h⟩
      split at h
      · exact .int (fits_iff.mp ‹_›)
      · cases h
    · intro h
      cases h with
      | int fits => exact ⟨_, if_pos (fits_iff.mpr fits)⟩
  | float x => exact iff_of_true ⟨_, rfl⟩ (.float x)
  | text s => exact iff_of_true ⟨_, rfl⟩ (.text s)
  | list items ih =>
    simp only [json_list, bind_eq_ok_iff]
    have hitems : (∃ values, items.mapM json = .ok values) ↔ ∀ d ∈ items, d.Encodable :=
      exists_mapM_iff.trans (forall₂_congr ih)
    constructor
    · rintro ⟨_, values, hvalues, -⟩
      exact .list (hitems.mp ⟨values, hvalues⟩)
    · intro h
      cases h with
      | list each =>
        obtain ⟨values, hvalues⟩ := hitems.mpr each
        exact ⟨_, values, hvalues, rfl⟩
  | record entries ih =>
    simp only [json_record, bind_eq_ok_iff]
    have hmember (e : Data × Data) (he : e ∈ entries) :
        (∃ m, member e = .ok m) ↔ e.1.IsKey ∧ e.2.Encodable := by
      rw [exists_member_iff_json, ih e he]
    have hentries : (∃ members, entries.mapM member = .ok members) ↔
        ∀ e ∈ entries, e.1.IsKey ∧ e.2.Encodable :=
      exists_mapM_iff.trans (forall₂_congr hmember)
    constructor
    · rintro ⟨_, members, hmembers, -⟩
      have hall := hentries.mp ⟨members, hmembers⟩
      exact .record (fun e he => (hall e he).1) fun e he => (hall e he).2
    · intro h
      cases h with
      | record keys values =>
        obtain ⟨members, hmembers⟩ := hentries.mpr fun e he => ⟨keys e he, values e he⟩
        exact ⟨_, members, hmembers, rfl⟩

theorem exists_member_iff {e : Data × Data} :
    (∃ m, member e = .ok m) ↔ e.1.IsKey ∧ e.2.Encodable := by
  rw [exists_member_iff_json, exists_json_iff]

/-! ## Its JSON value -/

theorem lastGiven_concat (key : String) (entries : List (Data × Data)) (e : Data × Data) :
    lastGiven key (entries ++ [e]) =
      if e.1.key = .ok key then some e.2 else lastGiven key entries := by
  rw [lastGiven, lastGiven, List.reverse_append, List.reverse_singleton, List.singleton_append,
    List.find?_cons]
  cases e.1.key with
  | error fault => simp [Except.toOption]
  | ok other =>
    by_cases hkey : other = key
    · simp [Except.toOption, hkey]
    · simp [Except.toOption, hkey]

/-- The last value that is given is among the values. -/
theorem mem_of_lastGiven {key : String} {entries : List (Data × Data)} {d : Data}
    (h : lastGiven key entries = some d) : ∃ e ∈ entries, e.2 = d := by
  obtain ⟨e, he, rfl⟩ := Option.map_eq_some_iff.mp h
  exact ⟨e, List.mem_reverse.mp (List.mem_of_find?_eq_some he), rfl⟩

/-- The last value that is given is encodable if all are. -/
theorem Encodable.of_lastGiven {entries : List (Data × Data)} (h : Encodable (.record entries))
    {key : String} {d : Data} (hd : lastGiven key entries = some d) : d.Encodable := by
  cases h with
  | record keys values =>
    obtain ⟨e, he, rfl⟩ := mem_of_lastGiven hd
    exact values e he

/-- The members of a record are the JSON values of the last values given. -/
theorem get?_members {entries : List (Data × Data)} {members : List (String × Json.Value)}
    (h : entries.mapM member = .ok members) {key : String} {v : Json.Value} :
    (Entries.ofList members).get? key = some v ↔
      ∃ d, lastGiven key entries = some d ∧ d.json = .ok v := by
  induction entries using List.reverseRecOn generalizing members with
  | nil =>
    cases h
    exact iff_of_false (by simp [Entries.ofList, Entries.get?]) (by simp [lastGiven])
  | append_singleton entries e ih =>
    obtain ⟨front, m, hfront, hm, rfl⟩ := mapM_concat_eq_ok_iff.mp h
    obtain ⟨hkey, hvalue⟩ := member_eq_ok_iff.mp hm
    rw [Entries.get?_ofList_append, lastGiven_concat, hkey]
    by_cases heq : key = m.1
    · rw [if_pos heq, if_pos (by rw [heq])]
      simp [hvalue]
    · rw [if_neg heq, if_neg (by rintro ⟨⟩; exact heq rfl)]
      exact ih hfront

/-- What is there for one side of a record is there for the other one. -/
theorem exists_of_isSome_eq {α β : Type} {x : Option α} {y : Option β} (h : x.isSome = y.isSome)
    {a : α} (hx : x = some a) : ∃ b, y = some b := by
  rwa [hx, Option.isSome_some, eq_comm, Option.isSome_iff_exists] at h

/-- The JSON value of data is what the data means. -/
theorem means_of_json {d : Data} {v : Json.Value} (h : d.json = .ok v) : d.Means v := by
  induction d using induct generalizing v with
  | nothing =>
    cases h
    exact .nothing
  | bool b =>
    cases h
    exact .bool b
  | int i =>
    rw [json] at h
    split at h
    · cases h
      exact .int (fits_iff.mp ‹_›)
    · cases h
  | float x =>
    cases h
    rw [Json.Value.ofBinary64]
    split
    · exact .float ‹_›
    · exact .notFinite (Bool.eq_false_iff.mpr ‹_›)
  | text s =>
    cases h
    exact .text s
  | list items ih =>
    rw [json_list, bind_eq_ok_iff] at h
    obtain ⟨values, hvalues, h⟩ := h
    cases h
    obtain ⟨length, each⟩ := mapM_eq_ok_iff.mp hvalues
    exact .list length fun i d v hd hv => ih d (List.mem_of_getElem? hd) (each i d v hd hv)
  | record entries ih =>
    have hencodable := exists_json_iff.mp ⟨v, h⟩
    rw [json_record, bind_eq_ok_iff] at h
    obtain ⟨members, hmembers, h⟩ := h
    cases h
    refine .record hencodable (Entries.rising_ofList members) (fun key => ?_)
      fun key d v hd hv => ?_
    · rw [Bool.eq_iff_iff, Option.isSome_iff_exists, Option.isSome_iff_exists]
      simp only [get?_members hmembers]
      constructor
      · rintro ⟨v, d, hd, -⟩
        exact ⟨d, hd⟩
      · rintro ⟨d, hd⟩
        obtain ⟨v, hv⟩ := exists_json_iff.mpr (hencodable.of_lastGiven hd)
        exact ⟨v, d, hd, hv⟩
    · obtain ⟨other, hother, hjson⟩ := (get?_members hmembers).mp hv
      obtain rfl := Option.some.inj (hd.symm.trans hother)
      obtain ⟨e, he, rfl⟩ := mem_of_lastGiven hd
      exact ih e he hjson

/-- Data that means something is encodable. -/
theorem Means.encodable {d : Data} {v : Json.Value} (h : d.Means v) : d.Encodable := by
  induction d using induct generalizing v with
  | nothing => exact .nothing
  | bool b => exact .bool b
  | int i =>
    cases h with
    | int fits => exact .int fits
  | float x => exact .float x
  | text s => exact .text s
  | list items ih =>
    cases h with
    | @list _ values length each =>
      refine .list fun d hd => ?_
      obtain ⟨i, hi, rfl⟩ := List.getElem_of_mem hd
      have hvalue : i < values.length := length ▸ hi
      exact ih _ hd (each i _ _ (List.getElem?_eq_getElem hi) (List.getElem?_eq_getElem hvalue))
  | record entries ih =>
    cases h with
    | record encodable _ _ _ => exact encodable

/-- Data means one value at most. -/
theorem Means.unique {d : Data} {v w : Json.Value} (hv : d.Means v) (hw : d.Means w) : v = w := by
  induction d using induct generalizing v w with
  | nothing =>
    cases hv
    cases hw
    rfl
  | bool b =>
    cases hv
    cases hw
    rfl
  | int i =>
    cases hv
    cases hw
    rfl
  | float x =>
    cases hv with
    | float finite =>
      cases hw with
      | float _ => rfl
      | notFinite infinite => exact absurd finite (Bool.eq_false_iff.mp infinite)
    | notFinite infinite =>
      cases hw with
      | float finite => exact absurd finite (Bool.eq_false_iff.mp infinite)
      | notFinite _ => rfl
  | text s =>
    cases hv
    cases hw
    rfl
  | list items ih =>
    cases hv with
    | list length each =>
      cases hw with
      | list length' each' =>
        refine congrArg _ (List.ext_getElem (length.trans length'.symm) fun i hi hi' => ?_)
        have hitem : i < items.length := length ▸ hi
        exact ih items[i] (List.getElem_mem hitem)
          (each i _ _ (List.getElem?_eq_getElem hitem) (List.getElem?_eq_getElem hi))
          (each' i _ _ (List.getElem?_eq_getElem hitem) (List.getElem?_eq_getElem hi'))
  | record entries ih =>
    cases hv with
    | @record _ members _ rising keys each =>
      cases hw with
      | @record _ members' _ rising' keys' each' =>
        have hsame (key : String) : members.get? key = members'.get? key := by
          cases hlast : lastGiven key entries with
          | none =>
            have hnone := keys key
            have hnone' := keys' key
            rw [hlast, Option.isSome_none, Option.isSome_eq_false_iff, Option.isNone_iff_eq_none]
              at hnone hnone'
            rw [hnone, hnone']
          | some d =>
            obtain ⟨v, hv⟩ := exists_of_isSome_eq (keys key).symm hlast
            obtain ⟨w, hw⟩ := exists_of_isSome_eq (keys' key).symm hlast
            obtain ⟨e, he, rfl⟩ := mem_of_lastGiven hlast
            rw [hv, hw, ih e he (each key _ v hlast hv) (each' key _ w hlast hw)]
        exact congrArg _ (rising.ext_get? rising' fun key value => by rw [hsame])

/-- Data has a JSON value exactly if it means that value. -/
theorem json_eq_ok_iff {d : Data} {v : Json.Value} : d.json = .ok v ↔ d.Means v := by
  constructor
  · exact means_of_json
  · intro h
    obtain ⟨w, hw⟩ := exists_json_iff.mpr h.encodable
    rwa [h.unique (means_of_json hw)]

/-- Data without a JSON value fails with the fault of the first thing in it that has none. -/
theorem json_eq_error_iff {d : Data} {fault : EncodingFault} :
    d.json = .error fault ↔ d.Fails fault := by
  induction d using induct generalizing fault with
  | nothing => exact iff_of_false nofun nofun
  | bool b => exact iff_of_false nofun nofun
  | int i =>
    rw [json]
    constructor
    · intro h
      split at h
      · cases h
      · cases h
        exact .int (mt fits_iff.mpr ‹_›)
    · intro h
      cases h with
      | int beyond => exact if_neg (mt fits_iff.mp beyond)
  | float x => exact iff_of_false nofun nofun
  | text s => exact iff_of_false nofun nofun
  | list items ih =>
    have hlist : (list items).json = .error fault ↔ items.mapM json = .error fault := by
      rw [json_list, bind_eq_error_iff]
      simp
    rw [hlist, mapM_eq_error_iff]
    constructor
    · rintro ⟨before, d, after, rfl, hbefore, hd⟩
      refine .list (fun b hb => exists_json_iff.mp (hbefore b hb)) ?_
      exact (ih d (by simp)).mp hd
    · intro h
      cases h with
      | @list before d after _ sound fails =>
        refine ⟨before, d, after, rfl, fun b hb => exists_json_iff.mpr (sound b hb), ?_⟩
        exact (ih d (by simp)).mpr fails
  | record entries ih =>
    have hrecord : (record entries).json = .error fault ↔ entries.mapM member = .error fault := by
      rw [json_record, bind_eq_error_iff]
      simp
    rw [hrecord, mapM_eq_error_iff]
    constructor
    · rintro ⟨before, ⟨k, v⟩, after, rfl, hbefore, he⟩
      have sound : ∀ b ∈ before, b.1.IsKey ∧ b.2.Encodable :=
        fun b hb => exists_member_iff.mp (hbefore b hb)
      rcases member_eq_error_iff.mp he with hkey | ⟨hkey, hvalue⟩
      · exact .key sound hkey
      · exact .value sound hkey ((ih (k, v) (by simp)).mp hvalue)
    · intro h
      cases h with
      | @key before k v after _ sound unkeyed =>
        refine ⟨before, (k, v), after, rfl, fun b hb => exists_member_iff.mpr (sound b hb), ?_⟩
        exact member_eq_error_iff.mpr (.inl unkeyed)
      | @value before k v after _ sound keyed fails =>
        refine ⟨before, (k, v), after, rfl, fun b hb => exists_member_iff.mpr (sound b hb), ?_⟩
        exact member_eq_error_iff.mpr (.inr ⟨keyed, (ih (k, v) (by simp)).mpr fails⟩)

end Data

end TelemetryGate.Wire
