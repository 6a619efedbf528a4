import Mathlib.Data.List.Nodup
import TelemetryGate.Proofs.Decoding
import TelemetryGate.Proofs.Json.Grammar

/-!
# Typed values of written values

What a written value stands for where a value of a known kind is expected, if it stands for one. The
members of an object go by their keys: a field of a record may be given once, and members that are no
fields may hold anything.
-/

namespace TelemetryGate.Json.Tree

open Decoding (Field Format IsPart name_of_find?)

/-- What a written value stands for, if anything. -/
abbrev Decoder (α : Type) := ReaderT Tree Option α

namespace Decoder

variable {α β σ : Type}

/-- A truth value. -/
def flag : Decoder Bool
  | .bool b => some b
  | _ => none

/-- A text. -/
def text : Decoder String
  | .text letters => Letter.text? letters
  | _ => none

/-- A value or `null`. -/
def optional (d : Decoder α) : Decoder (Option α)
  | .null => some none
  | t => some <$> d t

/-- What members make of something, one after the other. Every key has to be a text. -/
def foldMembers (step : β → String → Tree → Option β) : List (Member Tree) → β → Option β
  | [], acc => some acc
  | m :: rest, acc =>
    (Letter.text? m.key).bind fun key => (step acc key m.value).bind fun acc =>
      foldMembers step rest acc

/-- An object of texts. -/
def texts : Decoder (Entries String)
  | .object _ members => foldMembers (fun acc key t => acc.put key <$> text t) members []
  | _ => none

/-- One member of a record: a known field changes the record and may be given once, any other is
ignored. -/
def member (fields : List (Field Decoder σ)) (acc : σ × List String) (key : String) (t : Tree) :
    Option (σ × List String) :=
  match fields.find? (·.name = key) with
  | none => some acc
  | some field =>
    if key ∈ acc.2 then none else (fun change => (change acc.1, key :: acc.2)) <$> field.read t

/-- The fields of a record from the items of an array. -/
def positional : List (Field Decoder σ) → List (Padded Tree) → σ → Option σ
  | _, [], acc => some acc
  | [], _ :: _, _ => none
  | field :: fields, item :: rest, acc =>
    (field.read item.value).bind fun change => positional fields rest (change acc)

/-- A record, starting from given values. -/
def record (fields : List (Field Decoder σ)) (start : σ) : Decoder σ
  | .array _ items => positional fields items start
  | .object _ members => (·.1) <$> foldMembers (member fields) members (start, [])
  | _ => none

/-- Written values as a format. -/
def format : Format Decoder where
  flag := flag
  text := text
  path := text
  optional := optional
  texts := texts
  record _ := record

/-! ## What fields have -/

/-- What is given by the values under a key: the default without any, what a single one stands for, and
nothing if there are more. -/
def given (d : Decoder α) (default : α) : List Tree → Option α
  | [] => some default
  | [t] => d t
  | _ :: _ :: _ => none

end Decoder

/-- The values of the members with a key. -/
def valuesUnder (name : String) (members : List (Member Tree)) : List Tree :=
  (members.filter fun m => Letter.text? m.key = some name).map (·.value)

theorem valuesUnder_cons (name : String) (m : Member Tree) (members : List (Member Tree)) :
    valuesUnder name (m :: members) =
      if Letter.text? m.key = some name then m.value :: valuesUnder name members
      else valuesUnder name members := by
  by_cases h : Letter.text? m.key = some name <;> simp [valuesUnder, h]

/-- A member with another key is not among the values under a key. -/
theorem valuesUnder_cons_of_ne {name key : String} {m : Member Tree}
    (hkey : Letter.text? m.key = some key) (hne : key ≠ name) (members : List (Member Tree)) :
    valuesUnder name (m :: members) = valuesUnder name members := by
  rw [valuesUnder_cons, hkey, if_neg fun h => hne (Option.some.inj h)]

theorem valuesUnder_cons_self {name : String} {m : Member Tree}
    (hkey : Letter.text? m.key = some name) (members : List (Member Tree)) :
    valuesUnder name (m :: members) = m.value :: valuesUnder name members := by
  rw [valuesUnder_cons, if_pos hkey]

namespace Decoder

variable {α β σ : Type} {fields : List (Field Decoder σ)} {name : String}

/-- A step with a key and a value comes before those of the members that follow. -/
theorem foldMembers_cons {step : β → String → Tree → Option β} {m : Member Tree} {key : String}
    (hkey : Letter.text? m.key = some key) (members : List (Member Tree)) (acc : β) :
    foldMembers step (m :: members) acc =
      (step acc key m.value).bind (foldMembers step members) := by
  rw [foldMembers, hkey]
  rfl

/-- What is given by several values is given by the first of them, which is the only one. -/
theorem given_cons_eq_some_iff {d : Decoder α} {default a : α} {t : Tree} {more : List Tree} :
    d.given default (t :: more) = some a ↔ more = [] ∧ d t = some a := by
  cases more with
  | nil => simp [given]
  | cons t' more => simp [given]

/-- What the values under the key of a field have to be for a record to be read, if fields with some
keys were given before. -/
def Readable (seen : List String) (members : List (Member Tree)) (field : Field Decoder σ) : Prop :=
  if field.name ∈ seen then valuesUnder field.name members = []
  else (field.read.given id (valuesUnder field.name members)).isSome

section Readable

variable {seen : List String} {members : List (Member Tree)} {m : Member Tree} {key : String}
  {field : Field Decoder σ}

theorem readable_nil (seen : List String) (field : Field Decoder σ) : Readable seen [] field := by
  unfold Readable
  split
  · rfl
  · rfl

/-- A member with another key is of no account for a field. -/
theorem readable_cons_of_ne (hkey : Letter.text? m.key = some key) (hne : key ≠ field.name) :
    Readable seen (m :: members) field ↔ Readable seen members field := by
  rw [Readable, Readable, valuesUnder_cons_of_ne hkey hne]

theorem readable_seen_of_ne (hne : key ≠ field.name) :
    Readable (key :: seen) members field ↔ Readable seen members field := by
  have hmem : field.name ∈ key :: seen ↔ field.name ∈ seen := by simp [hne.symm]
  rw [Readable, Readable]
  simp only [hmem]

/-- A member of the field has to be the only one, and its value has to be one of the field. -/
theorem readable_cons_self (hkey : Letter.text? m.key = some field.name) :
    Readable seen (m :: members) field ↔
      field.name ∉ seen ∧ (field.read m.value).isSome ∧
        Readable (field.name :: seen) members field := by
  have hseen : Readable (field.name :: seen) members field ↔
      valuesUnder field.name members = [] := by
    rw [Readable, if_pos List.mem_cons_self]
  rw [hseen, Readable, valuesUnder_cons_self hkey]
  split
  · rename_i hmem
    simp [hmem]
  · rename_i hmem
    simp only [Option.isSome_iff_exists, given_cons_eq_some_iff, exists_and_left, hmem,
      not_false_eq_true, true_and]
    exact and_comm

/-- If fields have different names, a member of one of them counts for that one alone. -/
theorem forall_readable_cons (hnodup : (fields.map (·.name)).Nodup) (hfield : field ∈ fields)
    (hkey : Letter.text? m.key = some field.name) :
    (∀ other ∈ fields, Readable seen (m :: members) other) ↔
      field.name ∉ seen ∧ (field.read m.value).isSome ∧
        ∀ other ∈ fields, Readable (field.name :: seen) members other := by
  have hother (other : Field Decoder σ) (hne : field.name ≠ other.name) :
      Readable seen (m :: members) other ↔ Readable (field.name :: seen) members other :=
    (readable_cons_of_ne hkey hne).trans (readable_seen_of_ne hne).symm
  constructor
  · intro h
    obtain ⟨hseen, hread, hself⟩ := (readable_cons_self hkey).mp (h field hfield)
    refine ⟨hseen, hread, fun other hmore => ?_⟩
    by_cases hname : field.name = other.name
    · rwa [← List.inj_on_of_nodup_map hnodup hfield hmore hname]
    · exact (hother other hname).mp (h other hmore)
  · rintro ⟨hseen, hread, h⟩ other hmore
    by_cases hname : field.name = other.name
    · rw [← List.inj_on_of_nodup_map hnodup hfield hmore hname]
      exact (readable_cons_self hkey).mpr ⟨hseen, hread, h field hfield⟩
    · exact (hother other hname).mpr (h other hmore)

end Readable

/-- A record is read exactly if every key is a text and every field is given at most once, with a value
that it can have. -/
theorem foldMembers_isSome_iff (hnodup : (fields.map (·.name)).Nodup)
    (members : List (Member Tree)) (acc : σ × List String) :
    (foldMembers (member fields) members acc).isSome ↔
      (∀ m ∈ members, (Letter.text? m.key).isSome) ∧
        ∀ field ∈ fields, Readable acc.2 members field := by
  induction members generalizing acc with
  | nil => simp [foldMembers, readable_nil]
  | cons m members ih =>
    rw [List.forall_mem_cons]
    cases hkey : Letter.text? m.key with
    | none => simp [foldMembers, hkey]
    | some key =>
      rw [foldMembers_cons hkey, member]
      cases hfind : fields.find? (·.name = key) with
      | none =>
        have hne : ∀ field ∈ fields, key ≠ field.name := fun field hfield => by
          simpa [eq_comm] using List.find?_eq_none.mp hfind field hfield
        have hsame : (∀ field ∈ fields, Readable acc.2 (m :: members) field) ↔
            ∀ field ∈ fields, Readable acc.2 members field :=
          forall₂_congr fun field hfield => readable_cons_of_ne hkey (hne field hfield)
        rw [hsame]
        simpa using ih acc
      | some field =>
        obtain rfl := name_of_find? hfind
        have hmem := List.mem_of_find?_eq_some hfind
        rw [forall_readable_cons hnodup hmem hkey]
        dsimp only
        by_cases hseen : field.name ∈ acc.2
        · simp [hseen]
        · rw [if_neg hseen]
          cases hread : field.read m.value with
          | none => simp
          | some change =>
            have hmore := ih (change acc.1, field.name :: acc.2)
            simpa [hseen] using hmore

/-- A field of a record fills a part of it if it has the name of the part, and else leaves the part
alone. -/
def Fills (part : σ → α) (name : String) (d : Decoder α) (field : Field Decoder σ) : Prop :=
  ∀ t change, field.read t = some change →
    if field.name = name then ∃ a, d t = some a ∧ ∀ r, part (change r) = a
    else ∀ r, part (change r) = part r

/-- The change that a field makes comes from its value. -/
theorem read_of {d : Decoder α} {set : σ → α → σ} {t : Tree} {change : σ → σ}
    (h : (Field.of name d set).read t = some change) :
    ∃ a, d t = some a ∧ change = fun r => set r a := by
  obtain ⟨a, ha, hchange⟩ := Option.map_eq_some_iff.mp h
  exact ⟨a, ha, hchange.symm⟩

theorem fills_of_sets {part : σ → α} {d : Decoder α} {field : Field Decoder σ}
    (h : field.Sets part name d) : Fills part name d field := by
  intro t change hread
  cases h with
  | @own set sets =>
    obtain ⟨a, ha, rfl⟩ := read_of hread
    rw [if_pos (show (Field.of name d set).name = name from rfl)]
    exact ⟨a, ha, fun r => sets r a⟩
  | @other _ name' value' set differs keeps =>
    obtain ⟨b, -, rfl⟩ := read_of hread
    rw [if_neg (show (Field.of name' value' set).name ≠ name from differs)]
    exact fun r => keeps r b

/-- A part of a record is what is given under its name, whatever the other members are and in whatever
order they stand. -/
theorem given_of_foldMembers {part : σ → α} {d : Decoder α} (hpart : IsPart fields part name d)
    {members : List (Member Tree)} {acc result : σ × List String}
    (h : foldMembers (member fields) members acc = some result) :
    if name ∈ acc.2 then valuesUnder name members = [] ∧ part result.1 = part acc.1
    else d.given (part acc.1) (valuesUnder name members) = some (part result.1) := by
  induction members generalizing acc with
  | nil =>
    cases h
    split
    · exact ⟨rfl, rfl⟩
    · rfl
  | cons m members ih =>
    cases hkey : Letter.text? m.key with
    | none => simp [foldMembers, hkey] at h
    | some key =>
      rw [foldMembers_cons hkey, member] at h
      cases hfind : fields.find? (·.name = key) with
      | none =>
        have hne := hpart.ne_of_find?_eq_none hfind
        rw [hfind] at h
        rw [valuesUnder_cons_of_ne hkey hne]
        exact ih h
      | some field =>
        obtain rfl := name_of_find? hfind
        rw [hfind] at h
        dsimp only at h
        split at h
        · cases h
        · rename_i hseen
          cases hread : field.read m.value with
          | none => simp [hread] at h
          | some change =>
            rw [hread] at h
            have hfill := fills_of_sets (hpart.sets field (List.mem_of_find?_eq_some hfind))
              m.value change hread
            have hrest := ih h
            by_cases heq : field.name = name
            · subst heq
              obtain ⟨a, ha, hset⟩ := (if_pos rfl).mp hfill
              obtain ⟨hnone, hresult⟩ := (if_pos List.mem_cons_self).mp hrest
              rw [if_neg hseen, valuesUnder_cons_self hkey, given_cons_eq_some_iff, hresult, hset]
              exact ⟨hnone, ha⟩
            · rw [if_neg heq] at hfill
              have hmem : name ∈ field.name :: acc.2 ↔ name ∈ acc.2 := by simp [Ne.symm heq]
              rw [valuesUnder_cons_of_ne hkey heq]
              simp only [hmem, hfill] at hrest
              exact hrest

/-- An object is read as a record exactly if every key is a text and every field is given at most once,
with a value that it can have. -/
theorem record_isSome_iff (hnodup : (fields.map (·.name)).Nodup) (start : σ) (inside : Blank)
    (members : List (Member Tree)) :
    (record fields start (.object inside members)).isSome ↔
      (∀ m ∈ members, (Letter.text? m.key).isSome) ∧
        ∀ field ∈ fields, (field.read.given id (valuesUnder field.name members)).isSome := by
  have hfold := foldMembers_isSome_iff hnodup members (start, [])
  have hreadable (field : Field Decoder σ) : Readable [] members field ↔
      (field.read.given id (valuesUnder field.name members)).isSome := by
    rw [Readable, if_neg List.not_mem_nil]
  simp only [hreadable] at hfold
  rw [← hfold, record]
  exact (congrArg (· = true) Option.isSome_map).to_iff

/-- A part of a record that is read from an object is what is given under its name. -/
theorem given_of_record {part : σ → α} {d : Decoder α} (hpart : IsPart fields part name d)
    {start r : σ} {inside : Blank} {members : List (Member Tree)}
    (h : record fields start (.object inside members) = some r) :
    d.given (part start) (valuesUnder name members) = some (part r) := by
  obtain ⟨result, hresult, rfl⟩ := Option.map_eq_some_iff.mp h
  exact (if_neg List.not_mem_nil).mp (given_of_foldMembers hpart hresult)

/-- What is read from an object is known exactly by something that follows from it, determines it and
is enough to read every field. -/
theorem record_eq_some_iff {G : σ → Prop} {start : σ} {inside : Blank} {members : List (Member Tree)}
    (hnodup : (fields.map (·.name)).Nodup)
    (hgiven : ∀ r, record fields start (.object inside members) = some r → G r)
    (hunique : ∀ s r, G s → G r → s = r)
    (hread : ∀ s, G s → ∀ field ∈ fields,
      (field.read.given id (valuesUnder field.name members)).isSome) {s : σ} :
    record fields start (.object inside members) = some s ↔
      (∀ m ∈ members, (Letter.text? m.key).isSome) ∧ G s := by
  have hiff := record_isSome_iff hnodup start inside members
  constructor
  · intro h
    exact ⟨(hiff.mp (Option.isSome_of_eq_some h)).1, hgiven s h⟩
  · rintro ⟨hkeys, hs⟩
    obtain ⟨r, hr⟩ := Option.isSome_iff_exists.mp (hiff.mpr ⟨hkeys, hread s hs⟩)
    rwa [hunique s r hs (hgiven r hr)]

/-- Whether something is given does not depend on what is made of it. -/
theorem given_map_isSome (f : α → β) (d : Decoder α) (a : α) (b : β) (values : List Tree) :
    ((f <$> d : Decoder β).given b values).isSome = (d.given a values).isSome := by
  cases values with
  | nil => rfl
  | cons t more =>
    cases more with
    | nil => exact Option.isSome_map
    | cons t' more => rfl

/-- A field can be read if its value is given. -/
theorem given_of_isSome {d : Decoder α} {a b : α} {values : List Tree} {set : σ → α → σ}
    (h : d.given a values = some b) :
    ((Field.of name d set).read.given id values).isSome := by
  rw [Field.of, given_map_isSome _ _ a, h]
  rfl

end Decoder

end TelemetryGate.Json.Tree
