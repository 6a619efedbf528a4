import TelemetryGate.Proofs.Settings.Parts
import TelemetryGate.Proofs.Settings.Strict

/-!
# Settings of JSON objects

Settings that are read from a JSON object are what its members say, field by field. So a member whose
value is the default can be left out, at the top and inside the log, and what is left out can be given
its default.
-/

namespace TelemetryGate

open Decoding (Field)
open Json (Blank Letter Member Padded Tree)
open Json.Tree (valuesUnder)

/-! ## Changed members -/

namespace Json.Tree

/-- The members without those of some keys. -/
def without (names : List String) (members : List (Member Tree)) : List (Member Tree) :=
  members.filter fun m => (Letter.text? m.key).all (· ∉ names)

/-- The members with other values under some keys. -/
def revalue (names : List String) (f : String → Tree → Tree) (members : List (Member Tree)) :
    List (Member Tree) :=
  members.map fun m =>
    match Letter.text? m.key with
    | none => m
    | some name => if name ∈ names then { m with value := f name m.value } else m

/-- An object with changed members. Any other value stays as it is. -/
def inObject (f : List (Member Tree) → List (Member Tree)) : Tree → Tree
  | .object inside members => .object inside (f members)
  | t => t

theorem valuesUnder_without (names : List String) (name : String) (members : List (Member Tree)) :
    valuesUnder name (without names members) =
      if name ∈ names then [] else valuesUnder name members := by
  rw [valuesUnder, without, List.filter_filter]
  split
  · rename_i hmem
    have hnone : members.filter (fun m => decide (Letter.text? m.key = some name) &&
        (Letter.text? m.key).all (· ∉ names)) = [] := by
      refine List.filter_eq_nil_iff.mpr fun m _ h => ?_
      obtain ⟨hkey, hall⟩ := Bool.and_eq_true_iff.mp h
      simp [of_decide_eq_true hkey, hmem] at hall
    rw [hnone, List.map_nil]
  · rename_i hmem
    rw [valuesUnder]
    congr 1
    refine List.filter_congr fun m _ => ?_
    by_cases hkey : Letter.text? m.key = some name <;> simp [hkey, hmem]

theorem valuesUnder_revalue (names : List String) (f : String → Tree → Tree) (name : String)
    (members : List (Member Tree)) : valuesUnder name (revalue names f members) =
      if name ∈ names then (valuesUnder name members).map (f name)
      else valuesUnder name members := by
  induction members with
  | nil => split <;> rfl
  | cons m members ih =>
    rw [revalue, List.map_cons, ← revalue]
    cases hkey : Letter.text? m.key with
    | none => simpa [valuesUnder_cons, hkey] using ih
    | some key =>
      by_cases hmem : key ∈ names
      · by_cases hname : key = name
        · subst hname
          simpa [valuesUnder_cons, hkey, hmem] using ih
        · simpa [valuesUnder_cons, hkey, hmem, hname] using ih
      · by_cases hname : key = name
        · subst hname
          simpa [valuesUnder_cons, hkey, hmem] using ih
        · simpa [valuesUnder_cons, hkey, hmem, hname] using ih

theorem valuesUnder_append (name : String) (front back : List (Member Tree)) :
    valuesUnder name (front ++ back) = valuesUnder name front ++ valuesUnder name back := by
  rw [valuesUnder, List.filter_append, List.map_append, ← valuesUnder, ← valuesUnder]

/-- A member under a key without values is the only one there. -/
theorem valuesUnder_insert {front back : List (Member Tree)} {m : Member Tree} {f : String → Tree}
    {name : String} (hkey : Letter.text? m.key = some name) (hvalue : m.value = f name)
    (hvacant : valuesUnder name (front ++ back) = []) (other : String) :
    valuesUnder other (front ++ m :: back) = valuesUnder other (front ++ back) ∨
      valuesUnder other (front ++ back) = [] ∧ valuesUnder other (front ++ m :: back) = [f other] := by
  by_cases hname : name = other
  · subst hname
    obtain ⟨hfront, hback⟩ : valuesUnder name front = [] ∧ valuesUnder name back = [] := by
      rwa [valuesUnder_append, List.append_eq_nil_iff] at hvacant
    right
    rw [valuesUnder_append, valuesUnder_append, valuesUnder_cons_self hkey, hfront, hback, hvalue]
    exact ⟨rfl, rfl⟩
  · left
    rw [valuesUnder_append, valuesUnder_append, valuesUnder_cons_of_ne hkey hname]

/-- Left out or changed members leave keys that are texts. -/
theorem keys_without {names : List String} {members : List (Member Tree)}
    (h : ∀ m ∈ members, (Letter.text? m.key).isSome) :
    ∀ m ∈ without names members, (Letter.text? m.key).isSome :=
  fun m hm => h m (List.mem_of_mem_filter hm)

theorem keys_insert {front back : List (Member Tree)} {m : Member Tree} {name : String}
    (h : ∀ other ∈ front ++ back, (Letter.text? other.key).isSome)
    (hkey : Letter.text? m.key = some name) :
    ∀ other ∈ front ++ m :: back, (Letter.text? other.key).isSome := by
  obtain ⟨hfront, hback⟩ := List.forall_mem_append.mp h
  exact List.forall_mem_append.mpr
    ⟨hfront, List.forall_mem_cons.mpr ⟨Option.isSome_of_eq_some hkey, hback⟩⟩

theorem keys_revalue {names : List String} {f : String → Tree → Tree}
    {members : List (Member Tree)} (h : ∀ m ∈ members, (Letter.text? m.key).isSome) :
    ∀ m ∈ revalue names f members, (Letter.text? m.key).isSome := by
  intro m hm
  obtain ⟨original, horiginal, rfl⟩ := List.mem_map.mp hm
  have hkey := h original horiginal
  cases htext : Letter.text? original.key with
  | none => simp [htext] at hkey
  | some name =>
    dsimp only
    split
    · exact hkey
    · exact hkey

namespace Decoder

variable {α : Type} {d : Decoder α} {a b : α} {values values' : List Tree}

theorem given_ite {p : Prop} [Decidable p] (h' : d.given a values' = some a)
    (h : d.given a values = some b) :
    d.given a (if p then values' else values) = some (if p then a else b) := by
  split
  · exact h'
  · exact h

/-- A single value among others is one that is given alone. -/
theorem given_append_cons_eq_some_iff {before after : List Tree} {t : Tree} :
    d.given a (before ++ t :: after) = some b ↔ before = [] ∧ after = [] ∧ d t = some b := by
  cases before with
  | nil => rw [List.nil_append, given_cons_eq_some_iff, eq_self, true_and]
  | cons t' before =>
    rw [List.cons_append, given_cons_eq_some_iff]
    simp

/-- Where nothing is given, a value that stands for the default may be. -/
theorem given_of_vacant {t : Tree} (ht : d.given a [t] = some a) (h : d.given a values = some b)
    (hvalues : values' = values ∨ values = [] ∧ values' = [t]) : d.given a values' = some b := by
  rcases hvalues with rfl | ⟨rfl, rfl⟩
  · exact h
  · obtain rfl : a = b := Option.some.inj h
    exact ht

/-- A value that stands for the default gives the default, in whatever place. -/
theorem given_map {t : Tree} (ht : d.given a [t] = some a) (h : d.given a values = some b) :
    d.given a (values.map fun _ => t) = some a := by
  cases values with
  | nil => rfl
  | cons t' more =>
    obtain ⟨rfl, -⟩ := given_cons_eq_some_iff.mp h
    exact ht

end Decoder

end Json.Tree

open Json.Tree (without revalue inObject valuesUnder_without valuesUnder_revalue valuesUnder_append
  valuesUnder_insert valuesUnder_cons_self valuesUnder_cons_of_ne keys_without keys_insert keys_revalue)
open Json.Tree.Decoder (flag text texts given_of_record given_of_isSome given_ite given_of_vacant
  given_map given_cons_eq_some_iff given_append_cons_eq_some_iff record_eq_some_iff)

/-! ## What members say -/

/-- The settings of the log are those that are given by some values, or the default ones. -/
structure LogSettings.GivenBy (s : LogSettings) (v : Variables) (values : String → List Tree) :
    Prop where
  enabled : flag.given (LogSettings.default v).enabled (values "enabled") = some s.enabled
  level : text.given (LogSettings.default v).level (values "level") = some s.level
  format : text.given (LogSettings.default v).format (values "format") = some s.format
  output : text.given (LogSettings.default v).output (values "output") = some s.output
  file : text.given (LogSettings.default v).file (values "file") = some s.file
  color : flag.given (LogSettings.default v).color (values "color") = some s.color
  modules : texts.given (LogSettings.default v).modules (values "modules") = some s.modules

/-- The settings are those that are given by some values, or the default ones. -/
structure Settings.GivenBy (s : Settings) (v : Variables) (values : String → List Tree) : Prop where
  enabled : flag.given (Settings.default v).enabled (values "enabled") = some s.enabled
  instrumentationKey : text.optional.given (Settings.default v).instrumentationKey
    (values "instrumentation_key") = some s.instrumentationKey
  endpoint : text.given (Settings.default v).endpoint (values "endpoint") = some s.endpoint
  manifest : text.optional.given (Settings.default v).manifest (values "manifest") =
    some s.manifest
  logging : (LogSettings.layout v Json.Tree.Decoder.format).given (Settings.default v).logging
    (values "logging") = some s.logging

section Object

variable {v : Variables} {inside : Blank} {members : List (Member Tree)}

theorem LogSettings.layout_eq (v : Variables) (t : Tree) : layout v Json.Tree.Decoder.format t =
    Json.Tree.Decoder.record (fields Json.Tree.Decoder.format) (.default v) t := rfl

theorem LogSettings.givenBy_of_layout {s : LogSettings}
    (h : layout v Json.Tree.Decoder.format (.object inside members) = some s) :
    s.GivenBy v fun name => valuesUnder name members := by
  rw [layout_eq] at h
  have hparts := LogSettings.hasParts Json.Tree.Decoder.format
  constructor
  case enabled => exact given_of_record hparts.enabled h
  case level => exact given_of_record hparts.level h
  case format => exact given_of_record hparts.format h
  case output => exact given_of_record hparts.output h
  case file => exact given_of_record hparts.file h
  case color => exact given_of_record hparts.color h
  case modules => exact given_of_record hparts.modules h

theorem LogSettings.GivenBy.unique {values : String → List Tree} {s r : LogSettings}
    (hs : s.GivenBy v values) (hr : r.GivenBy v values) : s = r := by
  obtain ⟨enabled, level, format, output, file, color, modules⟩ := s
  obtain rfl := Option.some.inj (hs.enabled.symm.trans hr.enabled)
  obtain rfl := Option.some.inj (hs.level.symm.trans hr.level)
  obtain rfl := Option.some.inj (hs.format.symm.trans hr.format)
  obtain rfl := Option.some.inj (hs.output.symm.trans hr.output)
  obtain rfl := Option.some.inj (hs.file.symm.trans hr.file)
  obtain rfl := Option.some.inj (hs.color.symm.trans hr.color)
  obtain rfl := Option.some.inj (hs.modules.symm.trans hr.modules)
  rfl

/-- An object is read as the settings of the log that its members say. -/
theorem LogSettings.layout_object_iff {s : LogSettings} :
    layout v Json.Tree.Decoder.format (.object inside members) = some s ↔
      (∀ m ∈ members, (Letter.text? m.key).isSome) ∧
        s.GivenBy v fun name => valuesUnder name members := by
  rw [layout_eq]
  refine record_eq_some_iff (by decide) (fun r hr => givenBy_of_layout ((layout_eq v _).trans hr))
    (fun s r hs hr => hs.unique hr) fun s hs => ?_
  simp only [fields, List.forall_mem_cons]
  exact ⟨given_of_isSome hs.enabled, given_of_isSome hs.level, given_of_isSome hs.format,
    given_of_isSome hs.output, given_of_isSome hs.file, given_of_isSome hs.color,
    given_of_isSome hs.modules, List.forall_mem_nil _⟩

theorem Settings.layout_eq (v : Variables) (t : Tree) : layout v Json.Tree.Decoder.format t =
    Json.Tree.Decoder.record (fields v Json.Tree.Decoder.format) (.default v) t := rfl

theorem Settings.givenBy_of_layout {s : Settings}
    (h : layout v Json.Tree.Decoder.format (.object inside members) = some s) :
    s.GivenBy v fun name => valuesUnder name members := by
  rw [layout_eq] at h
  have hparts := Settings.hasParts v Json.Tree.Decoder.format
  constructor
  case enabled => exact given_of_record hparts.enabled h
  case instrumentationKey => exact given_of_record hparts.instrumentationKey h
  case endpoint => exact given_of_record hparts.endpoint h
  case manifest => exact given_of_record hparts.manifest h
  case logging => exact given_of_record hparts.logging h

theorem Settings.GivenBy.unique {values : String → List Tree} {s r : Settings}
    (hs : s.GivenBy v values) (hr : r.GivenBy v values) : s = r := by
  obtain ⟨enabled, instrumentationKey, endpoint, manifest, logging⟩ := s
  obtain rfl := Option.some.inj (hs.enabled.symm.trans hr.enabled)
  obtain rfl := Option.some.inj (hs.instrumentationKey.symm.trans hr.instrumentationKey)
  obtain rfl := Option.some.inj (hs.endpoint.symm.trans hr.endpoint)
  obtain rfl := Option.some.inj (hs.manifest.symm.trans hr.manifest)
  obtain rfl := Option.some.inj (hs.logging.symm.trans hr.logging)
  rfl

/-- An object is read as the settings that its members say. -/
theorem Settings.layout_object_iff {s : Settings} :
    layout v Json.Tree.Decoder.format (.object inside members) = some s ↔
      (∀ m ∈ members, (Letter.text? m.key).isSome) ∧
        s.GivenBy v fun name => valuesUnder name members := by
  have hnames : (fields v Json.Tree.Decoder.format).map (·.name) =
      ["enabled", "instrumentation_key", "endpoint", "manifest", "logging"] := rfl
  rw [layout_eq]
  refine record_eq_some_iff (by rw [hnames]; decide)
    (fun r hr => givenBy_of_layout ((layout_eq v _).trans hr)) (fun s r hs hr => hs.unique hr)
    fun s hs => ?_
  simp only [fields, List.forall_mem_cons]
  exact ⟨given_of_isSome hs.enabled, given_of_isSome hs.instrumentationKey,
    given_of_isSome hs.endpoint, given_of_isSome hs.manifest, given_of_isSome hs.logging,
    List.forall_mem_nil _⟩

end Object

/-! ## Defaults -/

section Default

variable {v : Variables} {values values' : String → List Tree}

/-- The settings of the log, some of them as they are by default. -/
def LogSettings.reset (names : List String) (v : Variables) (s : LogSettings) : LogSettings where
  enabled := if "enabled" ∈ names then (LogSettings.default v).enabled else s.enabled
  level := if "level" ∈ names then (LogSettings.default v).level else s.level
  format := if "format" ∈ names then (LogSettings.default v).format else s.format
  output := if "output" ∈ names then (LogSettings.default v).output else s.output
  file := if "file" ∈ names then (LogSettings.default v).file else s.file
  color := if "color" ∈ names then (LogSettings.default v).color else s.color
  modules := if "modules" ∈ names then (LogSettings.default v).modules else s.modules

/-- The settings, some of them as they are by default. -/
def Settings.reset (names : List String) (v : Variables) (s : Settings) : Settings where
  enabled := if "enabled" ∈ names then (Settings.default v).enabled else s.enabled
  instrumentationKey := if "instrumentation_key" ∈ names then (Settings.default v).instrumentationKey
    else s.instrumentationKey
  endpoint := if "endpoint" ∈ names then (Settings.default v).endpoint else s.endpoint
  manifest := if "manifest" ∈ names then (Settings.default v).manifest else s.manifest
  logging := if "logging" ∈ names then (Settings.default v).logging else s.logging

/-- Values that give the defaults, for some of the settings, reset them. -/
theorem LogSettings.GivenBy.reset {s : LogSettings}
    (hdefault : (LogSettings.default v).GivenBy v values') (h : s.GivenBy v values)
    (names : List String) :
    (s.reset names v).GivenBy v fun name => if name ∈ names then values' name else values name where
  enabled := given_ite hdefault.enabled h.enabled
  level := given_ite hdefault.level h.level
  format := given_ite hdefault.format h.format
  output := given_ite hdefault.output h.output
  file := given_ite hdefault.file h.file
  color := given_ite hdefault.color h.color
  modules := given_ite hdefault.modules h.modules

theorem Settings.GivenBy.reset {s : Settings} (hdefault : (Settings.default v).GivenBy v values')
    (h : s.GivenBy v values) (names : List String) :
    (s.reset names v).GivenBy v fun name => if name ∈ names then values' name else values name where
  enabled := given_ite hdefault.enabled h.enabled
  instrumentationKey := given_ite hdefault.instrumentationKey h.instrumentationKey
  endpoint := given_ite hdefault.endpoint h.endpoint
  manifest := given_ite hdefault.manifest h.manifest
  logging := given_ite hdefault.logging h.logging

/-- Nothing gives the defaults. -/
theorem LogSettings.givenBy_nothing (v : Variables) :
    (LogSettings.default v).GivenBy v fun _ => [] := by
  constructor <;> rfl

theorem Settings.givenBy_nothing (v : Variables) : (Settings.default v).GivenBy v fun _ => [] := by
  constructor <;> rfl

/-- The value that a setting of the log is written as by default. -/
def LogSettings.defaultValue (v : Variables) (name : String) : Tree :=
  (Entries.get? name ((LogSettings.default v).writtenMembers [])).getD .null

/-- The value that a setting is written as by default. -/
def Settings.defaultValue (v : Variables) (name : String) : Tree :=
  (Entries.get? name ((Settings.default v).writtenMembers [])).getD .null

/-- So do the default values. -/
theorem LogSettings.givenBy_defaultValue (v : Variables) :
    (LogSettings.default v).GivenBy v fun name => [LogSettings.defaultValue v name] where
  enabled := rfl
  level := Json.Tree.Decoder.text_ofText _
  format := Json.Tree.Decoder.text_ofText _
  output := Json.Tree.Decoder.text_ofText _
  file := Json.Tree.Decoder.text_ofText _
  color := rfl
  modules := Json.Tree.Decoder.texts_ofTexts (.refl _) Entries.rising_nil

theorem Settings.givenBy_defaultValue (v : Variables) :
    (Settings.default v).GivenBy v fun name => [Settings.defaultValue v name] where
  enabled := rfl
  instrumentationKey := rfl
  endpoint := Json.Tree.Decoder.text_ofText _
  manifest := rfl
  logging := LogSettings.layout_written v (.refl _) Entries.rising_nil

/-- So do the default values in place of those that are given. -/
theorem LogSettings.GivenBy.defaultValue {s : LogSettings} (h : s.GivenBy v values) :
    (LogSettings.default v).GivenBy v fun name =>
      (values name).map fun _ => LogSettings.defaultValue v name where
  enabled := given_map (givenBy_defaultValue v).enabled h.enabled
  level := given_map (givenBy_defaultValue v).level h.level
  format := given_map (givenBy_defaultValue v).format h.format
  output := given_map (givenBy_defaultValue v).output h.output
  file := given_map (givenBy_defaultValue v).file h.file
  color := given_map (givenBy_defaultValue v).color h.color
  modules := given_map (givenBy_defaultValue v).modules h.modules

theorem Settings.GivenBy.defaultValue {s : Settings} (h : s.GivenBy v values) :
    (Settings.default v).GivenBy v fun name =>
      (values name).map fun _ => Settings.defaultValue v name where
  enabled := given_map (givenBy_defaultValue v).enabled h.enabled
  instrumentationKey := given_map (givenBy_defaultValue v).instrumentationKey h.instrumentationKey
  endpoint := given_map (givenBy_defaultValue v).endpoint h.endpoint
  manifest := given_map (givenBy_defaultValue v).manifest h.manifest
  logging := given_map (givenBy_defaultValue v).logging h.logging

/-- Default values where nothing is given change nothing. -/
theorem LogSettings.GivenBy.complete {s : LogSettings} (h : s.GivenBy v values)
    (hvalues : ∀ name, values' name = values name ∨
      values name = [] ∧ values' name = [LogSettings.defaultValue v name]) :
    s.GivenBy v values' where
  enabled := given_of_vacant (givenBy_defaultValue v).enabled h.enabled (hvalues _)
  level := given_of_vacant (givenBy_defaultValue v).level h.level (hvalues _)
  format := given_of_vacant (givenBy_defaultValue v).format h.format (hvalues _)
  output := given_of_vacant (givenBy_defaultValue v).output h.output (hvalues _)
  file := given_of_vacant (givenBy_defaultValue v).file h.file (hvalues _)
  color := given_of_vacant (givenBy_defaultValue v).color h.color (hvalues _)
  modules := given_of_vacant (givenBy_defaultValue v).modules h.modules (hvalues _)

theorem Settings.GivenBy.complete {s : Settings} (h : s.GivenBy v values)
    (hvalues : ∀ name, values' name = values name ∨
      values name = [] ∧ values' name = [Settings.defaultValue v name]) :
    s.GivenBy v values' where
  enabled := given_of_vacant (givenBy_defaultValue v).enabled h.enabled (hvalues _)
  instrumentationKey :=
    given_of_vacant (givenBy_defaultValue v).instrumentationKey h.instrumentationKey (hvalues _)
  endpoint := given_of_vacant (givenBy_defaultValue v).endpoint h.endpoint (hvalues _)
  manifest := given_of_vacant (givenBy_defaultValue v).manifest h.manifest (hvalues _)
  logging := given_of_vacant (givenBy_defaultValue v).logging h.logging (hvalues _)

/-! ## Leaving out -/

/-- Log settings that are read from an object are the same if some of its members are left out as if
they are given their defaults. -/
theorem LogSettings.layout_changed {s : LogSettings} {t : Tree}
    (h : layout v Json.Tree.Decoder.format t = some s) (names : List String) :
    ∃ r, layout v Json.Tree.Decoder.format (inObject (without names) t) = some r ∧
      layout v Json.Tree.Decoder.format
        (inObject (revalue names fun name _ => defaultValue v name) t) = some r := by
  cases t with
  | object inside members =>
    obtain ⟨hkeys, hs⟩ := layout_object_iff.mp h
    refine ⟨s.reset names v, layout_object_iff.mpr ⟨keys_without hkeys, ?_⟩,
      layout_object_iff.mpr ⟨keys_revalue hkeys, ?_⟩⟩
    · simp only [valuesUnder_without]
      exact (givenBy_nothing v).reset hs names
    · simp only [valuesUnder_revalue]
      exact hs.defaultValue.reset hs names
  | _ => exact ⟨s, h, h⟩

/-- The members with some settings left out, at the top and in the object of the log. -/
def Settings.leaveOut (names logNames : List String) (members : List (Member Tree)) :
    List (Member Tree) :=
  without names (revalue ["logging"] (fun _ => inObject (without logNames)) members)

/-- The members with some settings given their defaults, at the top and in the object of the log. -/
def Settings.giveDefaults (v : Variables) (names logNames : List String)
    (members : List (Member Tree)) : List (Member Tree) :=
  revalue names (fun name _ => defaultValue v name) (revalue ["logging"] (fun _ =>
    inObject (revalue logNames fun name _ => LogSettings.defaultValue v name)) members)

/-- Other values for the log change the log alone. -/
theorem Settings.GivenBy.relog {s : Settings} (h : s.GivenBy v values) {l : LogSettings}
    {changed : String → List Tree}
    (hl : (LogSettings.layout v Json.Tree.Decoder.format).given (Settings.default v).logging
      (changed "logging") = some l)
    (hother : ∀ name, name ≠ "logging" → changed name = values name) :
    ({ s with logging := l } : Settings).GivenBy v changed where
  enabled := (hother "enabled" (by decide)).symm ▸ h.enabled
  instrumentationKey := (hother "instrumentation_key" (by decide)).symm ▸ h.instrumentationKey
  endpoint := (hother "endpoint" (by decide)).symm ▸ h.endpoint
  manifest := (hother "manifest" (by decide)).symm ▸ h.manifest
  logging := hl

theorem Settings.GivenBy.withLogging {s : Settings} (h : s.GivenBy v values) {f : Tree → Tree}
    {l : LogSettings} (hl : (LogSettings.layout v Json.Tree.Decoder.format).given
      (Settings.default v).logging ((values "logging").map f) = some l) :
    ({ s with logging := l } : Settings).GivenBy v fun name =>
      if name ∈ ["logging"] then (values name).map f else values name :=
  h.relog hl fun _ hname => if_neg (mt List.mem_singleton.mp hname)

/-- Settings that are read from an object are the same if some of its members are left out as if they
are given their defaults. -/
theorem Settings.layout_changed {s : Settings} {inside : Blank} {members : List (Member Tree)}
    (h : layout v Json.Tree.Decoder.format (.object inside members) = some s)
    (names logNames : List String) : ∃ r,
      layout v Json.Tree.Decoder.format (.object inside (leaveOut names logNames members)) = some r ∧
        layout v Json.Tree.Decoder.format (.object inside (giveDefaults v names logNames members)) =
          some r := by
  obtain ⟨hkeys, hs⟩ := layout_object_iff.mp h
  obtain ⟨l, hout, hdefaults⟩ : ∃ l,
      (LogSettings.layout v Json.Tree.Decoder.format).given (Settings.default v).logging
          ((valuesUnder "logging" members).map (inObject (without logNames))) = some l ∧
        (LogSettings.layout v Json.Tree.Decoder.format).given (Settings.default v).logging
          ((valuesUnder "logging" members).map
            (inObject (revalue logNames fun name _ => LogSettings.defaultValue v name))) =
              some l := by
    have hlogging := hs.logging
    cases hvalues : valuesUnder "logging" members with
    | nil => exact ⟨_, rfl, rfl⟩
    | cons t more =>
      rw [hvalues] at hlogging
      obtain ⟨rfl, ht⟩ := given_cons_eq_some_iff.mp hlogging
      exact LogSettings.layout_changed ht logNames
  refine ⟨({ s with logging := l } : Settings).reset names v,
    layout_object_iff.mpr ⟨keys_without (keys_revalue hkeys), ?_⟩,
    layout_object_iff.mpr ⟨keys_revalue (keys_revalue hkeys), ?_⟩⟩
  · simp only [leaveOut, valuesUnder_without, valuesUnder_revalue]
    exact (givenBy_nothing v).reset (hs.withLogging hout) names
  · have hlog := hs.withLogging hdefaults
    have hdefault := hlog.defaultValue.reset hlog names
    simpa only [giveDefaults, valuesUnder_revalue] using hdefault

/-- Log settings that are read from an object are the same if one that is left out is given its
default. -/
theorem LogSettings.layout_insert {s : LogSettings} {inside : Blank} {front back : List (Member Tree)}
    {m : Member Tree} {name : String} (hkey : Letter.text? m.key = some name)
    (hvalue : m.value = defaultValue v name) (hvacant : valuesUnder name (front ++ back) = [])
    (h : layout v Json.Tree.Decoder.format (.object inside (front ++ back)) = some s) :
    layout v Json.Tree.Decoder.format (.object inside (front ++ m :: back)) = some s := by
  obtain ⟨hkeys, hs⟩ := layout_object_iff.mp h
  exact layout_object_iff.mpr
    ⟨keys_insert hkeys hkey, hs.complete (valuesUnder_insert hkey hvalue hvacant)⟩

/-- An object has a setting with its default in addition, at the top or in the object of the log. -/
inductive Settings.Completes (v : Variables) : List (Member Tree) → List (Member Tree) → Prop
  | top {front back : List (Member Tree)} {m : Member Tree} {name : String}
    (hkey : Letter.text? m.key = some name) (hvalue : m.value = defaultValue v name)
    (hvacant : valuesUnder name (front ++ back) = []) :
    Completes v (front ++ back) (front ++ m :: back)
  | log {front back logFront logBack : List (Member Tree)} {l l' m : Member Tree} {inside : Blank}
    {name : String} (hlog : Letter.text? l.key = some "logging")
    (hl : l.value = .object inside (logFront ++ logBack))
    (hl' : l' = { l with value := .object inside (logFront ++ m :: logBack) })
    (hkey : Letter.text? m.key = some name) (hvalue : m.value = LogSettings.defaultValue v name)
    (hvacant : valuesUnder name (logFront ++ logBack) = []) :
    Completes v (front ++ l :: back) (front ++ l' :: back)

/-- Settings that are read from an object are the same if one that is left out is given its
default. -/
theorem Settings.layout_completes {s : Settings} {inside : Blank}
    {members members' : List (Member Tree)}
    (h : layout v Json.Tree.Decoder.format (.object inside members) = some s)
    (hcompletes : Completes v members members') :
    layout v Json.Tree.Decoder.format (.object inside members') = some s := by
  obtain ⟨hkeys, hs⟩ := layout_object_iff.mp h
  cases hcompletes with
  | @top front back m name hkey hvalue hvacant =>
    exact layout_object_iff.mpr
      ⟨keys_insert hkeys hkey, hs.complete (valuesUnder_insert hkey hvalue hvacant)⟩
  | @log front back logFront logBack l l' m logInside name hlog hl hl' hkey hvalue hvacant =>
    have hlog' : Letter.text? l'.key = some "logging" := by rw [hl', hlog]
    obtain ⟨hfront, hback, hread⟩ :
        valuesUnder "logging" front = [] ∧ valuesUnder "logging" back = [] ∧
          LogSettings.layout v Json.Tree.Decoder.format l.value = some s.logging := by
      have hlogging := hs.logging
      rwa [valuesUnder_append, valuesUnder_cons_self hlog, given_append_cons_eq_some_iff]
        at hlogging
    rw [hl] at hread
    have hread' : LogSettings.layout v Json.Tree.Decoder.format l'.value = some s.logging := by
      rw [hl']
      exact LogSettings.layout_insert hkey hvalue hvacant hread
    refine layout_object_iff.mpr ⟨?_, hs.relog ?_ fun other hother => ?_⟩
    · obtain ⟨hfrontKeys, hbackKeys⟩ := List.forall_mem_append.mp hkeys
      exact List.forall_mem_append.mpr ⟨hfrontKeys, List.forall_mem_cons.mpr
        ⟨Option.isSome_of_eq_some hlog', (List.forall_mem_cons.mp hbackKeys).2⟩⟩
    · rw [valuesUnder_append, valuesUnder_cons_self hlog']
      exact given_append_cons_eq_some_iff.mpr ⟨hfront, hback, hread'⟩
    · rw [valuesUnder_append, valuesUnder_append, valuesUnder_cons_of_ne hlog hother.symm,
        valuesUnder_cons_of_ne hlog' hother.symm]

/-- The text of an object in some white space. -/
def Settings.objectText (before inside after : Blank) (members : List (Member Tree)) : String :=
  Padded.render ⟨before, .object inside members, after⟩

/-- Settings that are read from the text of an object are the same if some of its members are left out
as if they are given their defaults. -/
theorem Settings.ofText_changed {s : Settings} {before inside after : Blank}
    {members : List (Member Tree)} (h : ofText v (objectText before inside after members) = .ok s)
    (names logNames : List String) : ∃ r,
      ofText v (objectText before inside after (leaveOut names logNames members)) = .ok r ∧
        ofText v (objectText before inside after (giveDefaults v names logNames members)) = .ok r := by
  obtain ⟨r, hout, hdefaults⟩ :=
    layout_changed ((follows_layout v).run_eq_ok_iff.mp h) names logNames
  exact ⟨r, (follows_layout v).run_eq_ok hout, (follows_layout v).run_eq_ok hdefaults⟩

/-- Settings that are read from the text of an object are the same if one that is left out is given its
default. -/
theorem Settings.ofText_completes {s : Settings} {before inside after : Blank}
    {members members' : List (Member Tree)}
    (h : ofText v (objectText before inside after members) = .ok s)
    (hcompletes : Completes v members members') :
    ofText v (objectText before inside after members') = .ok s :=
  (follows_layout v).run_eq_ok
    (layout_completes ((follows_layout v).run_eq_ok_iff.mp h) hcompletes)

end Default

end TelemetryGate
