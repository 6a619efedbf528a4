import TelemetryGate.Proofs.Settings.Parts
import TelemetryGate.Proofs.Settings.Places
import TelemetryGate.Settings.Decoder

/-!
# What records are read from

A record that is read from the entries of a table has each of its parts from the entry of that name,
or from the record of defaults if there is no such entry, whatever the other entries are and in
whatever order they stand.
-/

namespace TelemetryGate.Setting.Decoder

open Decoding (Field IsPart name_of_find?)

variable {α β σ : Type}

/-- A part is read from the setting that is given, and is the default if none is given. -/
def Reads (d : Decoder α) (given : Option Setting) (default a : α) : Prop :=
  match given with
  | none => a = default
  | some s => d s = .ok a

instance [DecidableEq α] (d : Decoder α) (given : Option Setting) (default a : α) :
    Decidable (Reads d given default a) :=
  match given with
  | none => inferInstanceAs (Decidable (a = default))
  | some s => inferInstanceAs (Decidable (d s = .ok a))

/-- A field of a record fills a part of it if it has the name of the part, and else leaves the part
alone. -/
def Fills (part : σ → α) (name : String) (d : Decoder α) (field : Field Decoder σ) : Prop :=
  ∀ s change, field.read s = .ok change →
    if field.name = name then ∃ a, d s = .ok a ∧ ∀ r, part (change r) = a
    else ∀ r, part (change r) = part r

/-- The change that a field makes comes from its value. -/
theorem read_of {name : String} {d : Decoder α} {set : σ → α → σ} {s : Setting}
    {change : σ → σ} (h : (Field.of name d set).read s = .ok change) :
    ∃ a, d s = .ok a ∧ change = fun r => set r a := by
  change Except.map _ (d s) = .ok change at h
  cases hd : d s with
  | error fault =>
    rw [hd] at h
    cases h
  | ok a =>
    rw [hd] at h
    cases h
    exact ⟨a, rfl, rfl⟩

theorem fills_of_sets {part : σ → α} {name : String} {d : Decoder α} {field : Field Decoder σ}
    (h : field.Sets part name d) : Fills part name d field := by
  intro s change hread
  cases h with
  | @own set sets =>
    obtain ⟨a, ha, rfl⟩ := read_of hread
    rw [if_pos (show (Field.of name d set).name = name from rfl)]
    exact ⟨a, ha, fun r => sets r a⟩
  | @other _ name' value' set differs keeps =>
    obtain ⟨b, -, rfl⟩ := read_of hread
    rw [if_neg (show (Field.of name' value' set).name ≠ name from differs)]
    exact fun r => keeps r b

/-- A part of a record is read from the entry of its name. -/
theorem reads_named {fields : List (Field Decoder σ)} {part : σ → α} {name : String}
    {d : Decoder α} (hpart : IsPart fields part name d) {entries : List (String × Setting)}
    (hrising : Entries.Rising entries) {start r : σ} (h : named fields entries start = .ok r) :
    Reads d (Entries.get? name entries) (part start) (part r) := by
  induction entries generalizing start with
  | nil =>
    cases h
    rfl
  | cons e rest ih =>
    obtain ⟨key, s⟩ := e
    obtain ⟨hbefore, hrest⟩ := Entries.rising_cons.mp hrising
    rw [named] at h
    cases hfind : fields.find? (·.name = key) with
    | none =>
      rw [hfind] at h
      rw [Entries.get?, if_neg (hpart.ne_of_find?_eq_none hfind)]
      exact ih hrest h
    | some field =>
      rw [hfind] at h
      have hfield := fills_of_sets (hpart.sets field (List.mem_of_find?_eq_some hfind))
      have hkey := name_of_find? hfind
      cases hread : field.read s with
      | error fault =>
        simp only [hread, under, Except.mapError] at h
        cases h
      | ok change =>
        simp only [hread, under, Except.mapError] at h
        have hread := hfield s change hread
        have hrest := ih hrest h
        rw [hkey] at hread
        split at hread
        · rename_i heq
          subst heq
          -- The keys rise, so no later entry has the name.
          have hnone : Entries.get? key rest = none := Entries.get?_eq_none fun a ha heq => by
            have hlt := hbefore a ha
            rw [heq] at hlt
            exact String.lt_irrefl _ hlt
          obtain ⟨a, ha, hset⟩ := hread
          rw [hnone, Reads, hset] at hrest
          rw [Entries.get?, if_pos rfl, hrest]
          exact ha
        · rename_i hne
          rw [Entries.get?, if_neg hne]
          rw [hread start] at hrest
          exact hrest

/-- A record that is not given is read like one without entries. -/
theorem named_of_reads {title : String} {fields : List (Field Decoder σ)} {start r : σ}
    {given : Option Setting} (hgiven : ∀ s, given = some s → s.isTable)
    (h : Reads (record title fields start) given start r) :
    named fields ((given.map entries).getD []) start = .ok r := by
  cases given with
  | none =>
    cases h
    rfl
  | some s =>
    cases s with
    | scalar _ _ => cases hgiven _ rfl
    | list _ _ => cases hgiven _ rfl
    | table _ entries => exact h

/-- Texts under keys are read entry by entry. -/
theorem reads_mapM {entries : List (String × Setting)} {pairs : List (String × String)}
    (h : (entries.mapM fun e => (e.1, ·) <$> under e.1 (text e.2)) = .ok pairs) :
    pairs.map (·.1) = entries.map (·.1) ∧
      ∀ name, Reads (some <$> text) (Entries.get? name entries) none (Entries.get? name pairs) := by
  induction entries generalizing pairs with
  | nil =>
    cases h
    exact ⟨rfl, fun name => rfl⟩
  | cons e rest ih =>
    obtain ⟨key, s⟩ := e
    rw [List.mapM_cons] at h
    cases htext : text s with
    | error fault =>
      rw [htext] at h
      cases h
    | ok t =>
      rw [htext] at h
      cases hrest : rest.mapM fun e => (e.1, ·) <$> under e.1 (text e.2) with
      | error fault =>
        rw [hrest] at h
        cases h
      | ok more =>
        rw [hrest] at h
        cases h
        obtain ⟨hkeys, hreads⟩ := ih hrest
        refine ⟨by simpa using hkeys, fun name => ?_⟩
        rw [Entries.get?, Entries.get?]
        split
        · change (some <$> text s) = _
          rw [htext]
          rfl
        · exact hreads name

/-- A text under a key is read from the entry of that key. -/
theorem reads_texts {given : Option Setting} {m : Entries String}
    (hrising : ∀ s, given = some s → Entries.Rising s.entries) (h : Reads texts given [] m)
    (name : String) :
    Reads (some <$> text) (given.bind fun s => Entries.get? name s.entries) none (m.get? name) := by
  cases given with
  | none =>
    cases h
    rfl
  | some s =>
    cases s with
    | scalar _ _ => cases h
    | list _ _ => cases h
    | table origin entries =>
      have hentries : Entries.Rising entries := hrising _ rfl
      rw [Reads, texts] at h
      cases hpairs : entries.mapM fun e => (e.1, ·) <$> under e.1 (text e.2) with
      | error fault =>
        rw [hpairs] at h
        cases h
      | ok pairs =>
        rw [hpairs] at h
        cases h
        obtain ⟨hkeys, hreads⟩ := reads_mapM hpairs
        have hpairs : Entries.Rising pairs :=
          List.pairwise_map.mp (hkeys ▸ List.pairwise_map.mpr hentries)
        rw [hpairs.ofList_eq]
        exact hreads name

/-- Lists and tables cannot be read. -/
def RejectsCompound (d : Decoder α) : Prop := ∀ s a, s.isCompound → d s ≠ .ok a

theorem rejectsCompound_flag : RejectsCompound flag := by
  intro s b hs hread
  cases s with
  | scalar _ _ => cases hs
  | list _ _ => cases hread
  | table _ _ => cases hread

theorem rejectsCompound_text : RejectsCompound text := by
  intro s t hs hread
  cases s with
  | scalar _ _ => cases hs
  | list _ _ => cases hread
  | table _ _ => cases hread

theorem RejectsCompound.some {d : Decoder α} (h : RejectsCompound d) :
    RejectsCompound (Option.some <$> d) := by
  intro s a hs hread
  change Except.map _ (d s) = _ at hread
  cases hd : d s with
  | error fault =>
    rw [hd] at hread
    cases hread
  | ok b => exact h s b hs hd

theorem RejectsCompound.optional {d : Decoder α} (h : RejectsCompound d) :
    RejectsCompound (optional d) := by
  intro s a hs hread
  cases s with
  | scalar _ _ => cases hs
  | list origin items => exact h.some (.list origin items) a hs hread
  | table origin entries => exact h.some (.table origin entries) a hs hread

/-- What is read from a place is read from what is told of it. -/
theorem RejectsCompound.reads {d : Decoder α} (hd : RejectsCompound d)
    {got told : Option Setting} (hagrees : Agrees got told) {default a : α}
    (h : Reads d got default a) : Reads d told default a := by
  rcases hagrees with rfl | ⟨s, rfl, hcompound⟩
  · exact h
  · exact absurd h (hd s a hcompound)

end TelemetryGate.Setting.Decoder

namespace TelemetryGate

open Decoding (IsPart)
open Setting.Decoder

/-- The settings of the log are read from what is given under their names. -/
structure LogSettings.ReadFrom (s default : LogSettings)
    (given : List String → Option Setting) : Prop where
  enabled : Reads flag (given ["enabled"]) default.enabled s.enabled
  level : Reads text (given ["level"]) default.level s.level
  format : Reads text (given ["format"]) default.format s.format
  output : Reads text (given ["output"]) default.output s.output
  file : Reads text (given ["file"]) default.file s.file
  color : Reads flag (given ["color"]) default.color s.color
  modules : ∀ name, Reads (some <$> text) (given ["modules", name]) (default.modules.get? name)
    (s.modules.get? name)

/-- All settings are read from what is given at their places. -/
structure Settings.ReadFrom (s default : Settings) (given : List String → Option Setting) :
    Prop where
  enabled : Reads flag (given ["enabled"]) default.enabled s.enabled
  instrumentationKey : Reads (optional text) (given ["instrumentation_key"])
    default.instrumentationKey s.instrumentationKey
  endpoint : Reads text (given ["endpoint"]) default.endpoint s.endpoint
  manifest : Reads (optional text) (given ["manifest"]) default.manifest s.manifest
  logging : s.logging.ReadFrom default.logging fun path => given ("logging" :: path)

/-- The settings of the log are read from the entries of their table. -/
theorem LogSettings.readFrom_of_reads {v : Variables} {given : Option Setting} {s : LogSettings}
    (htable : ∀ t, given = some t → t.isTable) (hordered : ∀ t, given = some t → t.Ordered)
    (h : Reads (LogSettings.layout v Setting.Decoder.format) given (.default v) s) :
    s.ReadFrom (.default v) fun path => given.bind (Setting.at? path) := by
  have hnamed := named_of_reads htable h
  have hrising : Entries.Rising ((given.map Setting.entries).getD []) := by
    cases given with
    | none => exact Entries.rising_nil
    | some t => exact hordered t rfl [] t rfl
  have hgiven : ∀ name, given.bind (Setting.at? [name]) =
      Entries.get? name ((given.map Setting.entries).getD []) := by
    intro name
    cases given with
    | none => rfl
    | some t => exact Setting.at?_singleton name t
  have hread {α : Type} {part : LogSettings → α} {name : String} {d : Setting.Decoder α}
      (hpart : IsPart (LogSettings.fields Setting.Decoder.format) part name d) :
      Reads d (given.bind (Setting.at? [name])) (part (.default v)) (part s) :=
    hgiven name ▸ reads_named hpart hrising hnamed
  have hmodules : Reads texts (given.bind (Setting.at? ["modules"])) [] s.modules →
      ∀ name, Reads (some <$> text) (given.bind (Setting.at? ["modules", name])) none
        (s.modules.get? name) := by
    intro h name
    have hpart : (given.bind (Setting.at? ["modules"])).bind
        (fun t => Entries.get? name t.entries) = given.bind (Setting.at? ["modules", name]) := by
      rw [Option.bind_assoc]
      congr 1
      funext t
      rw [Setting.at?_below "modules" [name]]
      congr 1
      funext modules
      exact (Setting.at?_singleton name modules).symm
    rw [← hpart]
    refine reads_texts (fun t ht => ?_) h name
    obtain ⟨log, hlog, hmodules⟩ := Option.bind_eq_some_iff.mp ht
    exact hordered log hlog ["modules"] t hmodules
  have hparts := LogSettings.hasParts Setting.Decoder.format
  constructor
  case enabled => exact hread hparts.enabled
  case level => exact hread hparts.level
  case format => exact hread hparts.format
  case output => exact hread hparts.output
  case file => exact hread hparts.file
  case color => exact hread hparts.color
  case modules => exact hmodules (hread hparts.modules)

/-- The settings at the top, and those of the log as a whole, are read from what is given under
their names. -/
structure Settings.TopReadFrom (s : Settings) (v : Variables) (given : String → Option Setting) :
    Prop where
  enabled : Reads flag (given "enabled") (Settings.default v).enabled s.enabled
  instrumentationKey : Reads (optional text) (given "instrumentation_key")
    (Settings.default v).instrumentationKey s.instrumentationKey
  endpoint : Reads text (given "endpoint") (Settings.default v).endpoint s.endpoint
  manifest : Reads (optional text) (given "manifest") (Settings.default v).manifest s.manifest
  logging : Reads (LogSettings.layout v Setting.Decoder.format) (given "logging")
    (Settings.default v).logging s.logging

/-- The settings are read from the entries of a table. -/
theorem Settings.topReadFrom_of_layout {v : Variables} {root : Setting} {s : Settings}
    (htable : root.isTable) (hordered : root.Ordered)
    (h : Settings.layout v Setting.Decoder.format root = .ok s) :
    s.TopReadFrom v fun name => root.at? [name] := by
  have hnamed :
      named (Settings.fields v Setting.Decoder.format) root.entries (.default v) = .ok s :=
    named_of_reads (fun t ht => Option.some.inj ht ▸ htable) (show Reads _ (some root) _ _ from h)
  have hrising : Entries.Rising root.entries := hordered [] root rfl
  have hread {α : Type} {part : Settings → α} {name : String} {d : Setting.Decoder α}
      (hpart : IsPart (Settings.fields v Setting.Decoder.format) part name d) :
      Reads d (root.at? [name]) (part (.default v)) (part s) :=
    Setting.at?_singleton name root ▸ reads_named hpart hrising hnamed
  have hparts := Settings.hasParts v Setting.Decoder.format
  constructor
  case enabled => exact hread hparts.enabled
  case instrumentationKey => exact hread hparts.instrumentationKey
  case endpoint => exact hread hparts.endpoint
  case manifest => exact hread hparts.manifest
  case logging => exact hread hparts.logging

/-- The settings of the log are read from the entries of their table too, if the log is a table
where it is there. -/
theorem Settings.readFrom_of_layout {v : Variables} {root : Setting} {s : Settings}
    (htable : root.isTable) (hordered : root.Ordered) (hlogging : root.TableUnder "logging")
    (h : Settings.layout v Setting.Decoder.format root = .ok s) :
    s.ReadFrom (.default v) fun path => root.at? path := by
  have htop := topReadFrom_of_layout htable hordered h
  have hlog := LogSettings.readFrom_of_reads
    (fun t ht => hlogging t (Setting.at?_singleton "logging" root ▸ ht))
    (fun t ht path value hvalue => hordered ("logging" :: path) value (by
      rw [Setting.at?_below, ht]
      exact hvalue)) htop.logging
  have hplace : (fun path => (root.at? ["logging"]).bind (Setting.at? path)) =
      fun path => root.at? ("logging" :: path) := by
    funext path
    exact (Setting.at?_below "logging" path root).symm
  rw [hplace] at hlog
  exact ⟨htop.enabled, htop.instrumentationKey, htop.endpoint, htop.manifest, hlog⟩

end TelemetryGate
