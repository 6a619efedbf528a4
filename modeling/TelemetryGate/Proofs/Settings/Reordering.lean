import Mathlib.Data.List.Pairwise
import TelemetryGate.Proofs.Results
import TelemetryGate.Proofs.Settings.Origins
import TelemetryGate.Proofs.Settings.Saving
import TelemetryGate.Settings.Walk

/-!
# Reading in any order

The order in which the tables of a setting are walked decides which of two faults is found, and
nothing else: a setting whose tables are walked in another order reads as the same settings or is at
fault as well. Neighbours in a table have different keys, so they change different parts of a record
or none.
-/

namespace TelemetryGate

namespace Setting.Decoder

open Decoding (Field)

variable {α β σ : Type}

/-- What is read, if anything is, does not depend on the order in which tables are walked. -/
def IgnoresOrder (d : Decoder α) : Prop :=
  ∀ s s' : Setting, Swap true s s' → (d s').toOption = (d s).toOption

theorem IgnoresOrder.reordered {d : Decoder α} (hd : IgnoresOrder d) {s s' : Setting}
    (h : s.Reordered s') : (d s').toOption = (d s).toOption := by
  induction h with
  | refl => rfl
  | tail _ hswap ih => exact (hd _ _ hswap).trans ih

theorem ignoresOrder_flag : IgnoresOrder flag := by
  rintro s s' (_ | _ | _) <;> rfl

theorem ignoresOrder_text : IgnoresOrder text := by
  rintro s s' (_ | _ | _) <;> rfl

theorem IgnoresOrder.optional {d : Decoder α} (hd : IgnoresOrder d) :
    IgnoresOrder (optional d) := by
  intro s s' h
  have hread := hd s s' h
  cases h <;> simp only [Decoder.optional, toOption_map, hread]

/-! ## Tables of texts -/

theorem toOption_mapM_append {ε : Type} (f : α → Except ε β) (before after : List α) :
    ((before ++ after).mapM f).toOption =
      (before.mapM f).toOption.bind fun bs => (after.mapM f).toOption.map (bs ++ ·) := by
  rw [List.mapM_append, toOption_bind]
  refine Option.bind_congr fun bs _ => ?_
  rw [toOption_bind]
  cases (after.mapM f).toOption <;> rfl

theorem toOption_mapM_cons {ε : Type} (f : α → Except ε β) (a : α) (rest : List α) :
    ((a :: rest).mapM f).toOption =
      (f a).toOption.bind fun b => (rest.mapM f).toOption.map (b :: ·) := by
  rw [List.mapM_cons, toOption_bind]
  refine Option.bind_congr fun b _ => ?_
  rw [toOption_bind]
  cases (rest.mapM f).toOption <;> rfl

/-- Neighbours with different keys can be collected in either order. -/
theorem ofList_swap (before after : List (String × α)) {a b : String × α} (hne : a.1 ≠ b.1) :
    Entries.ofList (before ++ b :: a :: after) = Entries.ofList (before ++ a :: b :: after) := by
  simp only [Entries.ofList, List.foldl_append, List.foldl_cons, Entries.put_comm hne]

/-- A text under its key. -/
def keyed (e : String × Setting) : Except Fault (String × String) :=
  (e.1, ·) <$> under e.1 (text e.2)

theorem toOption_texts_table (origin : Option String) (entries : List (String × Setting)) :
    (texts (.table origin entries)).toOption =
      (entries.mapM keyed).toOption.map Entries.ofList := by
  rw [texts, toOption_bind]
  exact Option.map_eq_bind.symm

theorem toOption_keyed (e : String × Setting) :
    (keyed e).toOption = (text e.2).toOption.map (e.1, ·) := by
  rw [keyed, toOption_map, under, toOption_mapError]

theorem ignoresOrder_texts : IgnoresOrder texts := by
  intro s s' h
  cases h with
  | here origin before after hne =>
    rename_i a b
    simp only [toOption_texts_table, toOption_mapM_append, toOption_mapM_cons, toOption_keyed]
    cases (before.mapM keyed).toOption with
    | none => rfl
    | some bs =>
      cases (text a.2).toOption <;> cases (text b.2).toOption <;>
        cases (after.mapM keyed).toOption <;> try rfl
      exact congrArg some (ofList_swap _ _ hne)
  | entry origin before after key h =>
    simp only [toOption_texts_table, toOption_mapM_append, toOption_mapM_cons, toOption_keyed,
      ignoresOrder_text _ _ h]
  | item origin before after hlists h => rfl

/-! ## Records -/

/-- The changes that two fields make can be made in either order. -/
def FieldsCommute (f g : Field Decoder σ) : Prop :=
  ∀ s t change change', f.read s = .ok change → g.read t = .ok change' →
    ∀ r, change' (change r) = change (change' r)

instance : Std.Symm (FieldsCommute (σ := σ)) where
  symm _ _ h s t change change' hs ht r := (h t s change' change ht hs r).symm

theorem fieldsCommute_of {name name' : String} {d : Decoder α} {d' : Decoder β}
    {set : σ → α → σ} {set' : σ → β → σ} (h : ∀ r a b, set' (set r a) b = set (set' r b) a) :
    FieldsCommute (Field.of name d set) (Field.of name' d' set') := by
  intro s t change change' hs ht r
  obtain ⟨a, -, rfl⟩ := map_eq_ok_iff.mp hs
  obtain ⟨b, -, rfl⟩ := map_eq_ok_iff.mp ht
  exact h r a b

variable {fields : List (Field Decoder σ)}

theorem named_append (before after : List (String × Setting)) (start : σ) :
    named fields (before ++ after) start =
      named fields before start >>= fun r => named fields after r := by
  induction before generalizing start with
  | nil => rfl
  | cons e rest ih =>
    rw [List.cons_append, named, named]
    cases fields.find? (·.name = e.1) with
    | none => exact ih start
    | some field => simp only [ih, bind_assoc]

theorem named_swap (hcommute : fields.Pairwise FieldsCommute) {a b : String × Setting}
    (hne : a.1 ≠ b.1) (after : List (String × Setting)) (start : σ) :
    (named fields (b :: a :: after) start).toOption =
      (named fields (a :: b :: after) start).toOption := by
  simp only [named]
  cases ha : fields.find? (·.name = a.1) with
  | none => cases fields.find? (·.name = b.1) <;> rfl
  | some f =>
    cases hb : fields.find? (·.name = b.1) with
    | none => rfl
    | some g =>
      have hfg : f ≠ g := by
        rintro rfl
        exact hne ((Decoding.name_of_find? ha).symm.trans (Decoding.name_of_find? hb))
      have hchange := hcommute.forall (List.mem_of_find?_eq_some ha)
        (List.mem_of_find?_eq_some hb) hfg a.2 b.2
      simp only [toOption_bind, under, toOption_mapError]
      cases hf : f.read a.2 with
      | error fault => cases g.read b.2 <;> rfl
      | ok change =>
        cases hg : g.read b.2 with
        | error fault => rfl
        | ok change' =>
          exact congrArg (fun r => (named fields after r).toOption)
            (hchange change change' hf hg start).symm

theorem toOption_named_entry (h : ∀ field ∈ fields, IgnoresOrder field.read) {s s' : Setting}
    (hswap : Swap true s s') (key : String) (after : List (String × Setting)) (start : σ) :
    (named fields ((key, s') :: after) start).toOption =
      (named fields ((key, s) :: after) start).toOption := by
  simp only [named]
  cases hfind : fields.find? (·.name = key) with
  | none => rfl
  | some field =>
    have hfield := h field (List.mem_of_find?_eq_some hfind) s s' hswap
    simp only [toOption_bind, under, toOption_mapError, hfield]

theorem toOption_positional_item (h : ∀ field ∈ fields, IgnoresOrder field.read) {s s' : Setting}
    (hswap : Swap true s s') (before after : List Setting) (index : Nat) (start : σ) :
    (positional index fields (before ++ s' :: after) start).toOption =
      (positional index fields (before ++ s :: after) start).toOption := by
  induction before generalizing index fields start with
  | nil =>
    cases fields with
    | nil => rfl
    | cons field fields =>
      have hfield := h field List.mem_cons_self s s' hswap
      simp only [List.nil_append, positional, toOption_bind, toOption_mapError, hfield]
  | cons first before ih =>
    cases fields with
    | nil => rfl
    | cons field fields =>
      have hrest := (List.forall_mem_cons.mp h).2
      simp only [List.cons_append, positional, toOption_bind, ih hrest]

theorem ignoresOrder_record (title : String) (h : ∀ field ∈ fields, IgnoresOrder field.read)
    (hcommute : fields.Pairwise FieldsCommute) (start : σ) :
    IgnoresOrder (record title fields start) := by
  intro s s' hswap
  cases hswap with
  | here origin before after hne =>
    simp only [record, named_append, toOption_bind, named_swap hcommute hne]
  | entry origin before after key hswap =>
    simp only [record, named_append, toOption_bind, toOption_named_entry h hswap]
  | item origin before after hlists hswap =>
    exact toOption_positional_item h hswap before after 0 start

theorem IgnoresOrder.field {name : String} {d : Decoder α} {set : σ → α → σ}
    (hd : IgnoresOrder d) : IgnoresOrder (Field.of name d set).read := by
  intro s s' h
  change ((fun a r => set r a) <$> d s').toOption = ((fun a r => set r a) <$> d s).toOption
  rw [toOption_map, toOption_map, hd s s' h]

end Setting.Decoder

open Setting.Decoder (IgnoresOrder fieldsCommute_of)

theorem LogSettings.ignoresOrder_layout (v : Variables) :
    IgnoresOrder (LogSettings.layout v Setting.Decoder.format) := by
  have hflag := Setting.Decoder.ignoresOrder_flag
  have htext := Setting.Decoder.ignoresOrder_text
  have htexts := Setting.Decoder.ignoresOrder_texts
  refine Setting.Decoder.ignoresOrder_record _ ?_ ?_ _
  · simp only [LogSettings.fields, List.forall_mem_cons]
    exact ⟨hflag.field, htext.field, htext.field, htext.field, htext.field, hflag.field,
      htexts.field, List.forall_mem_nil _⟩
  · simp only [LogSettings.fields, List.pairwise_cons, List.forall_mem_cons]
    repeat' apply And.intro
    all_goals first
      | exact fieldsCommute_of fun _ _ _ => rfl
      | exact List.forall_mem_nil _
      | exact .nil

theorem Settings.ignoresOrder_layout (v : Variables) :
    IgnoresOrder (Settings.layout v Setting.Decoder.format) := by
  have hflag := Setting.Decoder.ignoresOrder_flag
  have htext := Setting.Decoder.ignoresOrder_text
  refine Setting.Decoder.ignoresOrder_record _ ?_ ?_ _
  · simp only [Settings.fields, List.forall_mem_cons]
    exact ⟨hflag.field, htext.optional.field, htext.field, htext.optional.field,
      (LogSettings.ignoresOrder_layout v).field, List.forall_mem_nil _⟩
  · simp only [Settings.fields, List.pairwise_cons, List.forall_mem_cons]
    repeat' apply And.intro
    all_goals first
      | exact fieldsCommute_of fun _ _ _ => rfl
      | exact List.forall_mem_nil _
      | exact .nil

namespace Settings

/-- Whether something is wrong with settings does not depend on the order of the modules. -/
theorem toOption_checked_perm (s : Settings) {modules : Entries String}
    (h : s.logging.modules.Perm modules) :
    (checked s modules).toOption = (checked s s.logging.modules).toOption := by
  have hissues : issues { s with logging := { s.logging with modules := modules } } = [] ↔
      s.issues = [] := by
    simp only [issues_eq_nil_iff, LogSettings.issue?_eq_none_iff, h.mem_iff]
    exact Iff.rfl
  rw [toOption_checked, toOption_checked]
  exact if_congr hissues rfl rfl

/-- Merged layers may give one configuration only, or none. -/
theorem MayRead.toOption_eq {v : Variables} {merged : Setting} {r : Except Fault Settings}
    (h : MayRead v merged r) : r.toOption = (ofMerged v merged).toOption := by
  rw [toOption_ofMerged_eq]
  cases h with
  | fault hwalked hread =>
    rw [← (ignoresOrder_layout v).reordered hwalked, hread]
    rfl
  | read hwalked hread hmodules =>
    rw [← (ignoresOrder_layout v).reordered hwalked, hread, toOption_checked_perm _ hmodules]
    rfl

end Settings

end TelemetryGate
