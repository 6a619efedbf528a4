import TelemetryGate.Proofs.Settings.Gaining
import TelemetryGate.Proofs.Settings.Records
import TelemetryGate.Proofs.Settings.Saving

/-!
# Defaults that are given

Settings that are read from a tree are the same if a setting that the tree does not have is given its
default.
-/

namespace TelemetryGate

namespace Setting.Decoder

open Decoding (Field IsPart name_of_find?)

variable {α σ : Type} {fields : List (Field Decoder σ)} {name : String} {start : σ}

/-- A part that a record starts from need not be given. -/
theorem named_put_default {part : σ → α} {d : Decoder α} {set : σ → α → σ} {x : Setting} {a : α}
    {entries : List (String × Setting)} (hpart : IsPart fields part name d)
    (hfind : fields.find? (·.name = name) = some (.of name d set)) (hread : d x = .ok a)
    (hset : ∀ r, part r = a → set r a = r) (hget : Entries.get? name entries = none)
    (hstart : part start = a) :
    named fields (Entries.put name x entries) start = named fields entries start := by
  have hfirst {start : σ} (hstart : part start = a) (entries : List (String × Setting)) :
      named fields ((name, x) :: entries) start = named fields entries start := by
    rw [named_cons_of hread hfind, hset start hstart]
  induction entries generalizing start with
  | nil => exact hfirst hstart []
  | cons e rest ih =>
    obtain ⟨key, s⟩ := e
    rw [Entries.get?] at hget
    split at hget
    · cases hget
    · rename_i hkey
      rw [Entries.put]
      split
      · exact hfirst hstart _
      · rw [if_neg (Ne.symm hkey), named, named]
        cases hfound : fields.find? (·.name = key) with
        | none => exact ih hget hstart
        | some field =>
          have hname := name_of_find? hfound
          cases hchange : field.read s with
          | error fault =>
            simp only [hchange]
            rfl
          | ok change =>
            have hfill := fills_of_sets (hpart.sets field (List.mem_of_find?_eq_some hfound))
              s change hchange
            rw [hname, if_neg hkey] at hfill
            simp only [hchange]
            exact ih hget ((hfill start).trans hstart)

/-- Another value for a part that is read like the one that is given gives the same record. -/
theorem named_put_congr {x x' : Setting} {entries : List (String × Setting)}
    (hread : ∀ field, fields.find? (·.name = name) = some field → field.read x' = field.read x)
    (hrising : Entries.Rising entries) (hget : Entries.get? name entries = some x) :
    named fields (Entries.put name x' entries) start = named fields entries start := by
  induction entries generalizing start with
  | nil => cases hget
  | cons e rest ih =>
    obtain ⟨key, s⟩ := e
    obtain ⟨hbefore, hrest⟩ := Entries.rising_cons.mp hrising
    rw [Entries.get?] at hget
    split at hget
    · rename_i hkey
      subst hkey
      obtain rfl := Option.some.inj hget
      rw [Entries.put, if_neg (String.lt_irrefl key), if_pos rfl, named, named]
      cases hfound : fields.find? (·.name = key) with
      | none => rfl
      | some field => simp only [hread field hfound]
    · rename_i hkey
      have hlater : key < name := hbefore _ (Entries.mem_of_get? hget)
      rw [Entries.put, if_neg (String.lt_asymm hlater), if_neg (Ne.symm hkey), named, named]
      cases hfound : fields.find? (·.name = key) with
      | none => exact ih hrest hget
      | some field =>
        cases hchange : field.read s with
        | error fault =>
          simp only [hchange]
          rfl
        | ok change =>
          simp only [hchange]
          exact ih hrest hget

end Setting.Decoder

open Setting (emptyTable ListFree)
open Setting.Decoder (named named_put_default named_put_congr flag_ofFlag text_ofText
  optional_text_ofOptionalText texts_ofText)

/-! ## The tree of defaults -/

/-- The entries of the default settings of the log. -/
def LogSettings.defaultEntries (v : Variables) : List (String × Setting) :=
  Settings.loggingEntries none (LogSettings.default v) emptyTable

/-- There is nothing inside a default setting of the log. -/
theorem LogSettings.entries_of_mem_defaultEntries {v : Variables} {name : String} {d : Setting}
    (h : (name, d) ∈ defaultEntries v) : d.entries = [] := by
  simp only [defaultEntries, Settings.loggingEntries, List.mem_cons, Prod.mk.injEq,
    List.not_mem_nil, or_false] at h
  rcases h with ⟨-, rfl⟩ | ⟨-, rfl⟩ | ⟨-, rfl⟩ | ⟨-, rfl⟩ | ⟨-, rfl⟩ | ⟨-, rfl⟩ | ⟨-, rfl⟩
  all_goals rfl

namespace Settings

/-- The entries of the default settings. -/
def defaultEntries (v : Variables) : List (String × Setting) :=
  savedEntries none (Settings.default v) (.table none (LogSettings.defaultEntries v))

/-- The tree of the default settings. -/
def defaultTree (v : Variables) : Setting := .table none (defaultEntries v)

/-- A default stands at the top, or is one of the log. -/
theorem mem_of_at?_defaultTree {v : Variables} {path : List String} {d : Setting}
    (hpath : path ≠ []) (h : (defaultTree v).at? path = some d) :
    (∃ name, path = [name] ∧ (name, d) ∈ defaultEntries v) ∨
      ∃ name, path = ["logging", name] ∧ (name, d) ∈ LogSettings.defaultEntries v := by
  cases path with
  | nil => exact absurd rfl hpath
  | cons name path =>
    rw [Setting.at?_cons] at h
    obtain ⟨t, ht, hd⟩ := Option.bind_eq_some_iff.mp h
    have hmem : (name, t) ∈ defaultEntries v := Entries.mem_of_get? ht
    cases path with
    | nil =>
      obtain rfl := Option.some.inj hd
      exact .inl ⟨name, rfl, hmem⟩
    | cons next path =>
      right
      obtain ⟨inner, hinner, hend⟩ := Option.bind_eq_some_iff.mp hd
      simp only [defaultEntries, savedEntries, List.mem_cons, Prod.mk.injEq, List.not_mem_nil,
        or_false] at hmem
      rcases hmem with ⟨rfl, rfl⟩ | ⟨rfl, rfl⟩ | ⟨rfl, rfl⟩ | ⟨rfl, rfl⟩ | ⟨rfl, rfl⟩
      case inr.inr.inr.inl =>
        have hmem := Entries.mem_of_get? hinner
        cases path with
        | nil =>
          obtain rfl := Option.some.inj hend
          exact ⟨next, rfl, hmem⟩
        | cons deeper path =>
          have hnothing := LogSettings.entries_of_mem_defaultEntries hmem
          rw [Setting.at?_cons, hnothing] at hend
          cases hend
      all_goals cases hinner

end Settings

/-- The log is the same if one of its settings that is not given is given its default. -/
theorem LogSettings.named_put {v : Variables} {name : String} {d : Setting}
    {entries : List (String × Setting)} (hd : (name, d) ∈ defaultEntries v)
    (hrising : Entries.Rising entries)
    (hvacant : Entries.get? name entries = none ∨ Entries.get? name entries = some d) :
    named (fields Setting.Decoder.format) (Entries.put name d entries) (default v) =
      named (fields Setting.Decoder.format) entries (default v) := by
  rcases hvacant with hget | hget
  · suffices ∀ e ∈ defaultEntries v, Entries.get? e.1 entries = none →
        named (fields Setting.Decoder.format) (Entries.put e.1 e.2 entries) (default v) =
          named (fields Setting.Decoder.format) entries (default v) from this (name, d) hd hget
    simp only [defaultEntries, Settings.loggingEntries, List.forall_mem_cons]
    have hparts := LogSettings.hasParts Setting.Decoder.format
    refine ⟨?color, ?enabled, ?file, ?format, ?level, ?modules, ?output, List.forall_mem_nil _⟩
    all_goals intro hget
    case color =>
      exact named_put_default hparts.color rfl (flag_ofFlag none _) (fun r h => by rw [← h]) hget rfl
    case enabled =>
      exact named_put_default hparts.enabled rfl (flag_ofFlag none _) (fun r h => by rw [← h]) hget
        rfl
    case file =>
      exact named_put_default hparts.file rfl (text_ofText none _) (fun r h => by rw [← h]) hget rfl
    case format =>
      exact named_put_default hparts.format rfl (text_ofText none _) (fun r h => by rw [← h]) hget
        rfl
    case level =>
      exact named_put_default hparts.level rfl (text_ofText none _) (fun r h => by rw [← h]) hget rfl
    case modules =>
      exact named_put_default hparts.modules rfl (texts_ofText none none Entries.rising_nil)
        (fun r h => by rw [← h]) hget rfl
    case output =>
      exact named_put_default hparts.output rfl (text_ofText none _) (fun r h => by rw [← h]) hget
        rfl
  · rw [hrising.put_get? hget]

/-- Settings are the same if one of them that is not given is given its default, be it with any value
for the log that is read as the default one. -/
theorem Settings.named_put {v : Variables} {name : String} {d log : Setting}
    {entries : List (String × Setting)}
    (hlog : LogSettings.layout v Setting.Decoder.format log = .ok (LogSettings.default v))
    (hd : (name, d) ∈ savedEntries none (Settings.default v) log)
    (hget : Entries.get? name entries = none) :
    named (fields v Setting.Decoder.format) (Entries.put name d entries) (default v) =
      named (fields v Setting.Decoder.format) entries (default v) := by
  suffices ∀ e ∈ savedEntries none (Settings.default v) log, Entries.get? e.1 entries = none →
      named (fields v Setting.Decoder.format) (Entries.put e.1 e.2 entries) (default v) =
        named (fields v Setting.Decoder.format) entries (default v) from this (name, d) hd hget
  simp only [savedEntries, List.forall_mem_cons]
  have hparts := Settings.hasParts v Setting.Decoder.format
  refine ⟨?enabled, ?endpoint, ?instrumentationKey, ?logging, ?manifest, List.forall_mem_nil _⟩
  all_goals intro hget
  case enabled =>
    exact named_put_default hparts.enabled rfl (flag_ofFlag none _) (fun r h => by rw [← h]) hget rfl
  case endpoint =>
    exact named_put_default hparts.endpoint rfl (text_ofText none _) (fun r h => by rw [← h]) hget
      rfl
  case instrumentationKey =>
    exact named_put_default (d := Setting.Decoder.text.optional) hparts.instrumentationKey rfl
      (optional_text_ofOptionalText none _) (fun r h => by rw [← h]) hget rfl
  case logging =>
    exact named_put_default hparts.logging rfl hlog (fun r h => by rw [← h]) hget rfl
  case manifest =>
    exact named_put_default (d := Setting.Decoder.text.optional) hparts.manifest rfl
      (optional_text_ofOptionalText none _) (fun r h => by rw [← h]) hget rfl

namespace Settings

variable {v : Variables} {name : String} {d : Setting} {path : List String}

/-- A default that is put where nothing is stands there. -/
theorem laidOn_of_mem_defaultEntries (h : (name, d) ∈ defaultEntries v) : d.laidOn none = d := by
  simp only [defaultEntries, savedEntries, List.mem_cons, Prod.mk.injEq, List.not_mem_nil,
    or_false] at h
  rcases h with ⟨-, rfl⟩ | ⟨-, rfl⟩ | ⟨-, rfl⟩ | ⟨-, rfl⟩ | ⟨-, rfl⟩
  case inr.inr.inr.inl => exact putAll_loggingEntries none (LogSettings.default v)
  all_goals rfl

theorem laidOn_of_mem_logEntries (h : (name, d) ∈ LogSettings.defaultEntries v) :
    d.laidOn none = d := by
  simp only [LogSettings.defaultEntries, loggingEntries, List.mem_cons, Prod.mk.injEq,
    List.not_mem_nil, or_false] at h
  rcases h with ⟨-, rfl⟩ | ⟨-, rfl⟩ | ⟨-, rfl⟩ | ⟨-, rfl⟩ | ⟨-, rfl⟩ | ⟨-, rfl⟩ | ⟨-, rfl⟩
  all_goals rfl

theorem lower_logging : Text.lower "logging" = "logging" :=
  Text.lower_of_isSmall (by decide +kernel)

/-- The keys of the defaults are in lower case. -/
theorem lower_of_mem_defaultEntries (h : (name, d) ∈ defaultEntries v) : Text.lower name = name := by
  have hsmall : ["enabled", "endpoint", "instrumentation_key", "logging", "manifest"].all
      fun key => key.toList.all Text.isSmall := by decide +kernel
  exact Text.lower_of_isSmall (List.all_eq_true.mp hsmall name (List.mem_map_of_mem (f := (·.1)) h))

theorem lower_of_mem_logEntries (h : (name, d) ∈ LogSettings.defaultEntries v) :
    Text.lower name = name := by
  have hsmall : ["color", "enabled", "file", "format", "level", "modules", "output"].all
      fun key => key.toList.all Text.isSmall := by decide +kernel
  exact Text.lower_of_isSmall (List.all_eq_true.mp hsmall name (List.mem_map_of_mem (f := (·.1)) h))

/-- The keys on the way to a default are in lower case. -/
theorem lower_of_at?_defaultTree (hpath : path ≠ []) (hd : (defaultTree v).at? path = some d) :
    ∀ key ∈ path, Text.lower key = key := by
  obtain ⟨name, rfl, hmem⟩ | ⟨name, rfl, hmem⟩ := mem_of_at?_defaultTree hpath hd
  · exact List.forall_mem_singleton.mpr (lower_of_mem_defaultEntries hmem)
  · exact List.forall_mem_cons.mpr
      ⟨lower_logging, List.forall_mem_singleton.mpr (lower_of_mem_logEntries hmem)⟩

/-- The log is read as if one of its settings that is not given were not put there with its
default. -/
theorem layout_put_log (h : (name, d) ∈ LogSettings.defaultEntries v) {log : Setting}
    (hrising : Entries.Rising log.entries)
    (hvacant : Entries.get? name log.entries = none ∨ Entries.get? name log.entries = some d) :
    LogSettings.layout v Setting.Decoder.format (Setting.put name d log) =
      named (LogSettings.fields Setting.Decoder.format) log.entries (.default v) := by
  rw [Setting.put_eq_atKey, lower_of_mem_logEntries h, Setting.atKey,
    Setting.laidOn_eq_self (laidOn_of_mem_logEntries h) hvacant]
  exact LogSettings.named_put h hrising hvacant

/-- Settings are read as if one at the top that is not given were not put there with its default. -/
theorem layout_put_top (h : (name, d) ∈ defaultEntries v) (origin : Option String)
    {entries : List (String × Setting)} (hrising : Entries.Rising entries)
    (hvacant : Entries.get? name entries = none ∨ Entries.get? name entries = some d) :
    layout v Setting.Decoder.format (Setting.put name d (.table origin entries)) =
      named (fields v Setting.Decoder.format) entries (default v) := by
  rw [Setting.put_eq_atKey, lower_of_mem_defaultEntries h, Setting.atKey, Setting.entries,
    Setting.laidOn_eq_self (laidOn_of_mem_defaultEntries h) hvacant]
  change named (fields v Setting.Decoder.format) (Entries.put name d entries) (default v) = _
  rcases hvacant with hget | hget
  · exact named_put (layout_loggingEntries v none (LogSettings.default v) Entries.rising_nil) h hget
  · rw [hrising.put_get? hget]

/-- A log that is read stays what it is read as if one of its settings that is not given is put there
with its default. -/
theorem layout_put_log_eq (h : (name, d) ∈ LogSettings.defaultEntries v) {log : Setting}
    {l : LogSettings} (hread : LogSettings.layout v Setting.Decoder.format log = .ok l)
    (hlist : log.isList = false) (hrising : Entries.Rising log.entries)
    (hvacant : Entries.get? name log.entries = none ∨ Entries.get? name log.entries = some d) :
    LogSettings.layout v Setting.Decoder.format (Setting.put name d log) = .ok l := by
  rw [layout_put_log h hrising hvacant]
  cases log with
  | scalar _ _ => cases hread
  | list _ _ => cases hlist
  | table _ _ => exact hread

/-- Settings are read as if a setting that is not given were not set to its default. -/
theorem layout_setBelow (hpath : path ≠ []) (hd : (defaultTree v).at? path = some d)
    {root : Setting} {s : Settings} (htable : root.isTable) (hordered : root.Ordered)
    (hvacant : root.at? path = none ∨ root.at? path = some d) (hfree : ListFree path root)
    (h : layout v Setting.Decoder.format root = .ok s) :
    layout v Setting.Decoder.format (Setting.setBelow d (path.map .key) root) = .ok s := by
  cases root with
  | scalar _ _ => cases htable
  | list _ _ => cases htable
  | table origin entries =>
    have hrising : Entries.Rising entries := hordered [] _ rfl
    have hnamed : named (fields v Setting.Decoder.format) entries (default v) = .ok s := h
    obtain ⟨name, rfl, hmem⟩ | ⟨name, rfl, hmem⟩ := mem_of_at?_defaultTree hpath hd
    · rw [Setting.at?_singleton, Setting.entries] at hvacant
      change layout v Setting.Decoder.format (Setting.put name d (.table origin entries)) = _
      rw [layout_put_top hmem origin hrising hvacant, hnamed]
    · rw [Setting.setBelow_path (lower_of_at?_defaultTree hpath hd)]
      change named (fields v Setting.Decoder.format) (Entries.put "logging"
        (Setting.put name d ((Entries.get? "logging" entries).getD Setting.absent)) entries) _ = _
      cases hget : Entries.get? "logging" entries with
      | none =>
        have hlog : LogSettings.layout v Setting.Decoder.format
            (Setting.put name d Setting.absent) = .ok (.default v) :=
          layout_put_log hmem Entries.rising_nil (.inl rfl)
        rw [Option.getD_none, named_put hlog (by simp [savedEntries]) hget, hnamed]
      | some log =>
        have hread := (topReadFrom_of_layout htable hordered h).logging
        rw [Setting.at?_singleton, Setting.entries, hget] at hread
        rw [Setting.at?_cons, Setting.entries, hget, Option.bind_some, Setting.at?_singleton]
          at hvacant
        have hlogRising := hordered ["logging"] log ((Setting.at?_singleton _ _).trans hget)
        have hput := layout_put_log_eq hmem hread (hfree.2 log hget).1 hlogRising hvacant
        rw [Option.getD_some, named_put_congr (fun field hfield => ?_) hrising hget, hnamed]
        obtain rfl := Option.some.inj (hfield.symm.trans rfl)
        exact congrArg (Except.map _) (hput.trans hread.symm)

end Settings

end TelemetryGate
