import TelemetryGate.Proofs.Json.Reading
import TelemetryGate.Proofs.Settings.Files
import TelemetryGate.Proofs.Settings.Merging
import Mathlib.Data.List.Forall2

/-!
# Saved settings

Settings that are saved as JSON text are loaded back from it as they were, save for the names of the
modules of the log: a layer is put on top of another one with its keys in lower case, and the modules
are keys of their table. So the settings come back the same exactly if the names of all modules are
in lower case.
-/

namespace TelemetryGate

open Filesystem (Path.join)

/-! ## The text -/

namespace Settings

/-- A file holds some settings as they are saved, with the modules in any order. -/
structure Saved (w : World) (path : String) (s : Settings) : Prop where
  /-- It is a file of JSON text. -/
  format : formatOf? (Path.join (cwdPath w) path) = some .json
  /-- The text is that of the settings. -/
  text : ∃ modules, modules.Perm s.logging.modules ∧
    w.files.readText w.cwd (Path.join (cwdPath w) path) =
      .ok (Settings.json { s with logging := { s.logging with modules } }).render

/-- The value that saved log settings are read as. -/
def loggingMembers (s : LogSettings) : List (String × Json.Value) :=
  [("color", .bool s.color), ("enabled", .bool s.enabled), ("file", .text s.file),
    ("format", .text s.format), ("level", .text s.level), ("modules", .ofTexts s.modules),
    ("output", .text s.output)]

/-- The members that saved settings are read as, in the order of their keys. -/
def members (s : Settings) : List (String × Json.Value) :=
  [("enabled", .bool s.enabled), ("endpoint", .text s.endpoint),
    ("instrumentation_key", optionalText s.instrumentationKey),
    ("logging", .object (loggingMembers s.logging)), ("manifest", optionalText s.manifest)]

open Json.Reader (ReadsAs readsAs_bool readsAs_text readsAs_null readsAs_object readsAs_ofTexts)

theorem readsAs_optionalText (depth : Nat) (s : Option String) :
    ReadsAs (depth + 1) (optionalText s) (optionalText s) := by
  cases s with
  | none => exact readsAs_null depth
  | some s => exact readsAs_text depth s

/-- Saved log settings are read as their members. -/
theorem readsAs_logging (depth : Nat) {s : LogSettings} (hrising : Entries.Rising s.modules)
    {modules : Entries String} (hperm : modules.Perm s.modules) :
    ReadsAs (depth + 3) (LogSettings.json { s with modules }) (.object (loggingMembers s)) := by
  have hread : Entries.ofList [("enabled", Json.Value.bool s.enabled), ("level", .text s.level),
      ("format", .text s.format), ("output", .text s.output), ("file", .text s.file),
      ("color", .bool s.color), ("modules", .ofTexts s.modules)] = loggingMembers s := by
    simp only [Entries.ofList, List.foldl_cons, List.foldl_nil, Entries.put, String.reduceLT,
      String.reduceEq, if_true, if_false, loggingMembers]
  rw [← hread]
  apply readsAs_object
  refine .cons ⟨rfl, readsAs_bool _ _⟩ (.cons ⟨rfl, readsAs_text _ _⟩ ?_)
  refine .cons ⟨rfl, readsAs_text _ _⟩ (.cons ⟨rfl, readsAs_text _ _⟩ ?_)
  refine .cons ⟨rfl, readsAs_text _ _⟩ (.cons ⟨rfl, readsAs_bool _ _⟩ ?_)
  exact .cons ⟨rfl, readsAs_ofTexts depth hperm hrising⟩ .nil

/-- The text of saved settings is read as their members. -/
theorem ofText_json {s : Settings} (hrising : Entries.Rising s.logging.modules)
    {modules : Entries String} (hperm : modules.Perm s.logging.modules) :
    Json.Value.ofText (Settings.json { s with logging := { s.logging with modules } }).render =
      .ok (.object s.members) := by
  have hread : Entries.ofList [("enabled", Json.Value.bool s.enabled),
      ("instrumentation_key", optionalText s.instrumentationKey), ("endpoint", .text s.endpoint),
      ("manifest", optionalText s.manifest), ("logging", .object (loggingMembers s.logging))] =
        s.members := by
    simp only [Entries.ofList, List.foldl_cons, List.foldl_nil, Entries.put, String.reduceLT,
      String.reduceEq, if_true, if_false, members]
  apply Json.Value.ofText_render
  rw [← hread]
  apply readsAs_object
  refine .cons ⟨rfl, readsAs_bool _ _⟩ (.cons ⟨rfl, readsAs_optionalText _ _⟩ ?_)
  refine .cons ⟨rfl, readsAs_text _ _⟩ (.cons ⟨rfl, readsAs_optionalText _ _⟩ ?_)
  exact .cons ⟨rfl, readsAs_logging 124 hrising hperm⟩ .nil

end Settings

/-! ## The tree -/

namespace Setting

/-- A truth value in a file. -/
def ofFlag (origin : Option String) (b : Bool) : Setting := .scalar origin (.bool b)

/-- A text in a file. -/
def ofText (origin : Option String) (t : String) : Setting := .scalar origin (.text t)

/-- A text that may be absent, in a file. -/
def ofOptionalText (origin : Option String) (t : Option String) : Setting :=
  .scalar origin ((t.map Scalar.text).getD .nothing)

/-- Putting a value under a key writes that key. -/
theorem put_table (key : String) (value : Setting) (entries : List (String × Setting)) :
    put key value (.table none entries) = .table none
      (Entries.put (Text.lower key) (value.laidOn (Entries.get? (Text.lower key) entries))
        entries) := by
  cases value <;> simp only [put, laidOn, Setting.entries, tableOrigin]

/-- Entries that are put behind all others follow them. -/
theorem putAll_behind (before entries : List (String × Setting))
    (hrising : ((before ++ entries).map (·.1)).Pairwise (· < ·))
    (hkeys : ∀ key ∈ entries.map (·.1), Text.lower key = key) :
    putAll entries (.table none before) =
      .table none (before ++ Entries.mapValues (laidOn · none) entries) := by
  induction entries generalizing before with
  | nil => rw [putAll, Entries.mapValues, List.map_nil, List.append_nil]
  | cons e rest ih =>
    obtain ⟨key, value⟩ := e
    have hkey : Text.lower key = key := hkeys key (by simp)
    have hbefore : ∀ a ∈ before, a.1 < key := by
      rw [List.map_append, List.pairwise_append] at hrising
      exact fun a ha => hrising.2.2 a.1 (List.mem_map_of_mem ha) key (by simp)
    have hnone : Entries.get? key before = none := Entries.get?_eq_none fun a ha =>
      Entries.key_ne_of_lt (hbefore a ha)
    have hput : put key value (.table none before) =
        .table none (before ++ [(key, value.laidOn none)]) := by
      rw [put_table, hkey, hnone, Entries.put_of_forall_lt hbefore]
    have hrest := ih (before ++ [(key, value.laidOn none)]) (by simpa using hrising)
      fun key hmem => hkeys key (List.mem_cons_of_mem _ hmem)
    rw [putAll, hput, hrest, List.append_assoc]
    rfl

/-- Texts under keys that are put where nothing is stand under their keys in lower case. -/
theorem putAll_ofTexts (origin : Option String) (texts : Entries String) :
    putAll (Entries.mapValues (ofText origin) texts) emptyTable =
      .table none (Entries.mapValues (ofText origin)
        (Entries.ofList (texts.map fun e => (Text.lower e.1, e.2)))) := by
  have hput : ∀ before : Entries String,
      putAll (Entries.mapValues (ofText origin) texts)
          (.table none (Entries.mapValues (ofText origin) before)) =
        .table none (Entries.mapValues (ofText origin)
          ((texts.map fun e => (Text.lower e.1, e.2)).foldl
            (fun acc e => Entries.put e.1 e.2 acc) before)) := by
    induction texts with
    | nil => exact fun before => rfl
    | cons e rest ih =>
      intro before
      rw [List.map_cons, List.foldl_cons, ← ih, ← Entries.put_mapValues]
      rfl
  exact hput []

end Setting

namespace Settings

open Setting (ofFlag ofText ofOptionalText)

/-- The names of modules in lower case, each with one of the levels that are given for it. -/
def loweredModules (modules : Entries String) : Entries String :=
  Entries.ofList (modules.map fun m => (Text.lower m.1, m.2))

theorem rising_loweredModules (modules : Entries String) :
    Entries.Rising (loweredModules modules) := Entries.rising_ofList _

/-- The same settings with the names of the modules in lower case. -/
def lowered (s : Settings) : Settings :=
  { s with logging := { s.logging with modules := loweredModules s.logging.modules } }

/-- The entries of saved log settings. -/
def loggingEntries (origin : Option String) (s : LogSettings) (modules : Setting) :
    List (String × Setting) :=
  [("color", ofFlag origin s.color), ("enabled", ofFlag origin s.enabled),
    ("file", ofText origin s.file), ("format", ofText origin s.format),
    ("level", ofText origin s.level), ("modules", modules), ("output", ofText origin s.output)]

/-- The entries of saved settings. -/
def savedEntries (origin : Option String) (s : Settings) (logging : Setting) :
    List (String × Setting) :=
  [("enabled", ofFlag origin s.enabled), ("endpoint", ofText origin s.endpoint),
    ("instrumentation_key", ofOptionalText origin s.instrumentationKey), ("logging", logging),
    ("manifest", ofOptionalText origin s.manifest)]

theorem ofJsonMembers_ofTexts (origin : Option String) (texts : Entries String) :
    Setting.ofJsonMembers origin (texts.mapValues .text) = texts.mapValues (ofText origin) := by
  induction texts with
  | nil => rfl
  | cons e rest ih =>
    change _ :: Setting.ofJsonMembers origin (Entries.mapValues .text rest) = _
    rw [ih]
    rfl

theorem ofJson_optionalText (origin : Option String) (t : Option String) :
    Setting.ofJson origin (optionalText t) = ofOptionalText origin t := by
  cases t <;> rfl

/-- The layer of saved settings. -/
theorem ofJsonMembers_members (origin : Option String) (s : Settings) :
    Setting.ofJsonMembers origin s.members = savedEntries origin s
      (.table origin (loggingEntries origin s.logging
        (.table origin (s.logging.modules.mapValues (ofText origin))))) := by
  simp only [members, loggingMembers, Setting.ofJsonMembers, Setting.ofJson, ofJson_optionalText,
    Json.Value.ofTexts, ofJsonMembers_ofTexts]
  rfl

/-- The file of saved settings gives their layer. -/
theorem fileLayer_of_saved {w : World} {path : String} {s : Settings} (hsaved : Saved w path s)
    (hrising : Entries.Rising s.logging.modules) : ∃ origin,
      fileLayer w .required path = .ok (savedEntries origin s
        (.table origin (loggingEntries origin s.logging
          (.table origin (s.logging.modules.mapValues (ofText origin)))))) := by
  obtain ⟨modules, hperm, hsource⟩ := hsaved.text
  refine ⟨some (Located.origin w ⟨Path.join (cwdPath w) path, .json⟩), ?_⟩
  rw [fileLayer_eq_layerOf hsource hsaved.format, layerOf, ofText_json hrising hperm,
    ← ofJsonMembers_members]
  rfl

/-- Where nothing is, saved log settings are put as they are, but for the names of the modules. -/
theorem putAll_loggingEntries (origin : Option String) (s : LogSettings) :
    Setting.putAll (loggingEntries origin s (.table origin (s.modules.mapValues (ofText origin))))
        Setting.emptyTable =
      .table none (loggingEntries origin s
        (.table none (Entries.mapValues (ofText origin) (loweredModules s.modules)))) := by
  have hrising : ["color", "enabled", "file", "format", "level", "modules", "output"].Pairwise
      (· < ·) := by decide
  have hsmall : ∀ key ∈ ["color", "enabled", "file", "format", "level", "modules", "output"],
      key.toList.all Text.isSmall := by decide +kernel
  refine (Setting.putAll_behind [] (loggingEntries origin s _) hrising
    fun key hmem => Text.lower_of_isSmall (hsmall key hmem)).trans ?_
  rw [loweredModules, ← Setting.putAll_ofTexts]
  rfl

theorem onto_defaultLayer : defaultLayer.onto Setting.emptyTable = .table none defaultLayer := by
  rw [Layer.onto_eq_putAll _ (by decide +kernel)]
  exact Setting.putAll_behind [] defaultLayer (by decide) (by decide +kernel)

/-- On top of the defaults, saved settings are put as they are, but for the names of the modules. -/
theorem merge_savedEntries (origin : Option String) (s : Settings) :
    Layer.merge [defaultLayer, savedEntries origin s
        (.table origin (loggingEntries origin s.logging
          (.table origin (s.logging.modules.mapValues (ofText origin)))))] =
      .table none (savedEntries origin s (.table none (loggingEntries origin s.logging
        (.table none (Entries.mapValues (ofText origin) (loweredModules s.logging.modules)))))) := by
  have hnames : ∀ key ∈ ["enabled", "endpoint", "instrumentation_key", "logging", "manifest"],
      key.toList.all KeyPath.isNameChar ∧ Text.lower key = key := by
    have hchars : ∀ key ∈ ["enabled", "endpoint", "instrumentation_key", "logging", "manifest"],
        key.toList.all KeyPath.isNameChar ∧ key.toList.all Text.isSmall := by decide +kernel
    exact fun key hmem => (hchars key hmem).imp_right Text.lower_of_isSmall
  have hrising : ["enabled", "endpoint", "instrumentation_key", "logging", "manifest"].Pairwise
      (· < ·) := by decide
  obtain ⟨henabled, hendpoint, hbehind⟩ : Text.lower "enabled" = "enabled" ∧
      Text.lower "endpoint" = "endpoint" ∧
        ∀ key ∈ ["instrumentation_key", "logging", "manifest"], Text.lower key = key := by
    simpa using fun key hmem => (hnames key hmem).2
  change Layer.onto (savedEntries origin s _) (defaultLayer.onto Setting.emptyTable) = _
  rw [onto_defaultLayer, Layer.onto_eq_putAll (savedEntries origin s _) hnames, savedEntries,
    Setting.putAll, Setting.put_table, henabled, Setting.putAll, Setting.put_table, hendpoint]
  -- The first two entries take the places of the defaults, and the others come behind them.
  refine (Setting.putAll_behind
    [("enabled", ofFlag origin s.enabled), ("endpoint", ofText origin s.endpoint)]
    [("instrumentation_key", ofOptionalText origin s.instrumentationKey),
      ("logging", .table origin (loggingEntries origin s.logging _)),
      ("manifest", ofOptionalText origin s.manifest)] hrising hbehind).trans ?_
  change Setting.table none (savedEntries origin s (Setting.putAll _ Setting.emptyTable)) = _
  rw [putAll_loggingEntries]

end Settings

/-! ## The settings -/

namespace Setting.Decoder

open Decoding (Field)

variable {α σ : Type}

theorem flag_ofFlag (origin : Option String) (b : Bool) : flag (ofFlag origin b) = .ok b := rfl

theorem text_ofText (origin : Option String) (t : String) : text (ofText origin t) = .ok t := rfl

theorem optional_text_ofOptionalText (origin : Option String) (t : Option String) :
    optional text (ofOptionalText origin t) = .ok t := by
  cases t <;> rfl

/-- The entry of a field makes the change of its value. -/
theorem named_cons_of {fields : List (Field Decoder σ)} {name : String} {d : Decoder α}
    {set : σ → α → σ} {s : Setting} {a : α} (hread : d s = .ok a)
    (hfield : fields.find? (·.name = name) = some (.of name d set))
    (rest : List (String × Setting)) (acc : σ) :
    named fields ((name, s) :: rest) acc = named fields rest (set acc a) := by
  have hchange : (Field.of name d set).read s = .ok fun r => set r a := by
    change Except.map _ (d s) = _
    rw [hread]
    rfl
  simp only [named, hfield, hchange]
  rfl

/-- Texts under keys in order are read as they are. -/
theorem texts_ofText (origin place : Option String) {es : Entries String}
    (hrising : Entries.Rising es) :
    texts (.table origin (Entries.mapValues (ofText place) es)) = .ok es := by
  have hpairs : ∀ es : Entries String,
      (Entries.mapValues (ofText place) es).mapM (fun e => (e.1, ·) <$> under e.1 (text e.2)) =
        .ok es := by
    intro es
    induction es with
    | nil => rfl
    | cons e rest ih =>
      rw [Entries.mapValues, List.map_cons, List.mapM_cons, ← Entries.mapValues, ih]
      rfl
  simp only [texts, hpairs]
  exact congrArg Except.ok hrising.ofList_eq

end Setting.Decoder

namespace Settings

open Setting (ofFlag ofText ofOptionalText)
open Setting.Decoder (named named_cons_of flag_ofFlag text_ofText texts_ofText
  optional_text_ofOptionalText)

/-- Log settings whose modules stand in order are read as they are. -/
theorem layout_loggingEntries (v : Variables) (origin : Option String) (s : LogSettings)
    {modules : Entries String} (hrising : Entries.Rising modules) :
    LogSettings.layout v Setting.Decoder.format (.table none (loggingEntries origin s
      (.table none (Entries.mapValues (ofText origin) modules)))) = .ok { s with modules } := by
  change named (LogSettings.fields Setting.Decoder.format) (loggingEntries origin s _) _ = _
  rw [loggingEntries]
  refine Eq.trans (named_cons_of (flag_ofFlag origin s.color) rfl _ _) ?_
  refine Eq.trans (named_cons_of (flag_ofFlag origin s.enabled) rfl _ _) ?_
  refine Eq.trans (named_cons_of (text_ofText origin s.file) rfl _ _) ?_
  refine Eq.trans (named_cons_of (text_ofText origin s.format) rfl _ _) ?_
  refine Eq.trans (named_cons_of (text_ofText origin s.level) rfl _ _) ?_
  refine Eq.trans (named_cons_of (texts_ofText none origin hrising) rfl _ _) ?_
  refine Eq.trans (named_cons_of (text_ofText origin s.output) rfl _ _) ?_
  rfl

theorem layout_savedEntries (v : Variables) (origin : Option String) (s : Settings)
    {modules : Entries String} (hrising : Entries.Rising modules) :
    Settings.layout v Setting.Decoder.format (.table none (savedEntries origin s
        (.table none (loggingEntries origin s.logging
          (.table none (Entries.mapValues (ofText origin) modules)))))) =
      .ok { s with logging := { s.logging with modules } } := by
  change named (Settings.fields v Setting.Decoder.format) (savedEntries origin s _) _ = _
  rw [savedEntries]
  refine Eq.trans (named_cons_of (flag_ofFlag origin s.enabled) rfl _ _) ?_
  refine Eq.trans (named_cons_of (text_ofText origin s.endpoint) rfl _ _) ?_
  refine Eq.trans (named_cons_of (optional_text_ofOptionalText origin _) rfl _ _) ?_
  refine Eq.trans (named_cons_of (layout_loggingEntries v origin _ hrising) rfl _ _) ?_
  refine Eq.trans (named_cons_of (optional_text_ofOptionalText origin _) rfl _ _) ?_
  rfl

/-- Settings that are read and have no issues are those that come from merged layers. -/
theorem ofMerged_eq_ok {v : Variables} {merged : Setting} {s : Settings}
    (hread : Settings.layout v Setting.Decoder.format merged = .ok s) (hvalid : s.issues = []) :
    ofMerged v merged = .ok s := by
  simp only [ofMerged, hread, checked_modules, hvalid, if_true]

/-- Settings without issues give a URL, and their log settings have no issue. -/
theorem issues_eq_nil_iff {s : Settings} :
    s.issues = [] ↔ s.hasUrl = true ∧ s.logging.issue? = none := by
  rw [issues, List.append_eq_nil_iff, List.map_eq_nil_iff, Option.toList_eq_nil_iff]
  cases s.hasUrl <;> simp

/-- Lower case in the names of modules leads to no issue. -/
theorem issues_lowered {s : Settings} (hvalid : s.issues = []) : s.lowered.issues = [] := by
  obtain ⟨hurl, hlogging⟩ := issues_eq_nil_iff.mp hvalid
  obtain ⟨hlevel, hformat, houtput, hmodules⟩ := LogSettings.issue?_eq_none_iff.mp hlogging
  refine issues_eq_nil_iff.mpr ⟨hurl, LogSettings.issue?_eq_none_iff.mpr ?_⟩
  refine ⟨hlevel, hformat, houtput, fun m hm => ?_⟩
  obtain ⟨original, horiginal, rfl⟩ := List.mem_map.mp (Entries.mem_of_mem_ofList hm)
  exact hmodules original horiginal

/-- Without overriding variables the environment gives nothing. -/
theorem layer_eq_nil {environment : Variables}
    (hunset : ∀ v ∈ environment, Override.key? v.1 = none) : Override.layer environment = [] := by
  have hnone : environment.filterMap (fun v => (Override.key? v.1).map
      (·, Setting.scalar (some Override.origin) (Override.scalar v.2))) = [] := by
    refine List.filterMap_eq_nil_iff.mpr fun v hv => ?_
    rw [hunset v hv]
    rfl
  rw [Override.layer, hnone]
  rfl

/-- Without overriding variables the layer of a file is put on top of the defaults. -/
theorem loadFile_of_unset {w : World} {path : String} {layer : Layer}
    (hlayer : fileLayer w .required path = .ok layer)
    (hunset : ∀ v ∈ w.environment, Override.key? v.1 = none) :
    loadFile w path = ofMerged w.environment (Layer.merge [defaultLayer, layer]) := by
  have hlayers : fileLayers w [(path, .required)] = .ok [layer] := by
    rw [fileLayers, List.mapM_cons, hlayer]
    rfl
  have hmerge : Layer.merge (defaultLayer :: [layer] ++ [[]]) =
      Layer.merge [defaultLayer, layer] := Layer.merge_append [defaultLayer, layer] [[]]
  rw [loadFile, ofFiles, hlayers, layer_eq_nil hunset, ← hmerge]
  rfl

/-- Saved settings are loaded as they are, but for the names of the modules. -/
theorem loadFile_eq {w : World} {path : String} {s : Settings} (hvalid : s.issues = [])
    (hrising : Entries.Rising s.logging.modules) (hsaved : Saved w path s)
    (hunset : ∀ v ∈ w.environment, Override.key? v.1 = none) :
    loadFile w path = .ok s.lowered := by
  obtain ⟨origin, hlayer⟩ := fileLayer_of_saved hsaved hrising
  have hlayout := layout_savedEntries w.environment origin s
    (rising_loweredModules s.logging.modules)
  rw [loadFile_of_unset hlayer hunset, merge_savedEntries]
  exact ofMerged_eq_ok hlayout (issues_lowered hvalid)

/-- What settings come back as after they have been saved: the same but for the names of modules,
which are in lower case. Of levels that are given for names that differ only by case one is kept. -/
structure ReadsBack (s read : Settings) : Prop where
  /-- Everything but the modules is kept. -/
  rest : { read with logging := { read.logging with modules := s.logging.modules } } = s
  /-- No module comes back twice. -/
  rising : Entries.Rising read.logging.modules
  /-- Every module that comes back is one of those before. -/
  comes : ∀ m ∈ read.logging.modules, ∃ original ∈ s.logging.modules,
    m = (Text.lower original.1, original.2)
  /-- Every module comes back under its name in lower case. -/
  stays : ∀ original ∈ s.logging.modules,
    ∃ level, (Text.lower original.1, level) ∈ read.logging.modules

theorem readsBack_lowered (s : Settings) : s.ReadsBack s.lowered where
  rest := rfl
  rising := rising_loweredModules s.logging.modules
  comes m hm := by
    obtain ⟨original, horiginal, heq⟩ := List.mem_map.mp (Entries.mem_of_mem_ofList hm)
    exact ⟨original, horiginal, heq.symm⟩
  stays original horiginal := by
    have hmem : (Text.lower original.1, original.2) ∈
        s.logging.modules.map fun m => (Text.lower m.1, m.2) :=
      List.mem_map.mpr ⟨original, horiginal, rfl⟩
    exact Entries.exists_mem_ofList hmem

/-- Settings come back the same exactly if the names of all modules are in lower case. -/
theorem ReadsBack.eq_iff {s read : Settings} (h : s.ReadsBack read)
    (hrising : Entries.Rising s.logging.modules) :
    read = s ↔ ∀ m ∈ s.logging.modules, Text.lower m.1 = m.1 := by
  constructor
  · rintro rfl m hm
    obtain ⟨original, -, rfl⟩ := h.comes m hm
    exact Text.lower_lower original.1
  · intro hlower
    have hmodules : read.logging.modules = s.logging.modules := by
      refine h.rising.ext hrising fun m => ⟨fun hm => ?_, fun hm => ?_⟩
      · obtain ⟨original, horiginal, rfl⟩ := h.comes m hm
        rw [hlower original horiginal]
        exact horiginal
      · -- The level that the name comes back with is that of the same name before, so it is kept.
        obtain ⟨level, hlevel⟩ := h.stays m hm
        obtain ⟨original, horiginal, heq⟩ := h.comes _ hlevel
        have hname : m.1 = original.1 := by
          rw [← hlower m hm, ← hlower original horiginal]
          exact congrArg Prod.fst heq
        obtain rfl := List.inj_on_of_nodup_map hrising.nodup_keys hm horiginal hname
        rw [heq, hlower m hm] at hlevel
        exact hlevel
    rw [← h.rest, ← hmodules]

/-- Saved settings that are valid load back, and they come back the same exactly if the names of all
modules are in lower case. -/
theorem loadFile_saved {w : World} {path : String} {s : Settings} (hvalid : s.issues = [])
    (hrising : Entries.Rising s.logging.modules) (hsaved : Saved w path s)
    (hunset : ∀ v ∈ w.environment, Override.key? v.1 = none) :
    ∃ read, loadFile w path = .ok read ∧ s.ReadsBack read ∧
      (read = s ↔ ∀ m ∈ s.logging.modules, Text.lower m.1 = m.1) := by
  have hback := readsBack_lowered s
  exact ⟨_, loadFile_eq hvalid hrising hsaved hunset, hback, hback.eq_iff hrising⟩

/-- Settings with levels for some modules. -/
def savedSettings (modules : Entries String) : Settings where
  enabled := false
  instrumentationKey := some "key \"1\"\n"
  endpoint := "http://localhost/é"
  manifest := none
  logging :=
    { enabled := true, level := "debug", format := "json", output := "file", file := "my log.txt",
      color := false, modules }

/-- A world in which they are saved in a file. -/
def savedWorld (modules : Entries String) : World where
  files := ⟨[(["ws"], .directory),
    (["ws", "settings.json"], .file (savedSettings modules).json.render.toUTF8)]⟩
  cwd := ["ws"]
  environment := [("HOME", "/home/me"), ("QSHARP_TELEMETRY_ENV", "ci")]

theorem saved_savedWorld (modules : Entries String) :
    Saved (savedWorld modules) "settings.json" (savedSettings modules) := by
  have hpath : Path.join (cwdPath (savedWorld modules)) "settings.json" = "/ws/settings.json" := by
    change Path.join ("/" ++ "/".intercalate ["ws"]) "settings.json" = _
    decide +kernel
  refine ⟨?_, modules, .refl _, Filesystem.Tree.readText_of_lookup ?_⟩
  · rw [hpath]
    decide +kernel
  · rw [hpath]
    rfl

/-- With names in lower case they come back the same, and with other names they do not. -/
theorem savedSettings_load_back :
    loadFile (savedWorld [("my_app", "trace")]) "settings.json" =
        .ok (savedSettings [("my_app", "trace")]) ∧
      ∃ read, loadFile (savedWorld [("MyApp", "trace")]) "settings.json" = .ok read ∧
        (savedSettings [("MyApp", "trace")]).ReadsBack read ∧
          read ≠ savedSettings [("MyApp", "trace")] := by
  have hrising (m : String × String) : Entries.Rising [m] := List.pairwise_singleton _ m
  obtain ⟨plain, hplain, -, hsame⟩ := loadFile_saved (by decide +kernel)
    (hrising ("my_app", "trace")) (saved_savedWorld [("my_app", "trace")]) (by decide +kernel)
  obtain ⟨mixed, hmixed, hback, hdiffers⟩ := loadFile_saved (by decide +kernel)
    (hrising ("MyApp", "trace")) (saved_savedWorld [("MyApp", "trace")]) (by decide +kernel)
  refine ⟨?_, mixed, hmixed, hback, fun heq => ?_⟩
  · rw [hplain, hsame.mpr (by decide +kernel)]
  · exact absurd (hdiffers.mp heq) (by decide +kernel)

/-- Not all saved settings that are valid come back the same. -/
theorem not_loadFile_saved_eq : ¬ ∀ (w : World) (path : String) (s : Settings),
    s.issues = [] → Entries.Rising s.logging.modules → Saved w path s →
      (∀ v ∈ w.environment, Override.key? v.1 = none) → loadFile w path = .ok s := by
  intro h
  have hvalid : (savedSettings [("MyApp", "trace")]).issues = [] := by decide +kernel
  have hrising : Entries.Rising [("MyApp", "trace")] := List.pairwise_singleton _ _
  have hsaved := saved_savedWorld [("MyApp", "trace")]
  have hunset : ∀ v ∈ (savedWorld [("MyApp", "trace")]).environment,
      Override.key? v.1 = none := by decide +kernel
  have hclaimed := h _ _ _ hvalid hrising hsaved hunset
  have hloaded := loadFile_eq hvalid hrising hsaved hunset
  have hsame : (savedSettings [("MyApp", "trace")]).lowered = savedSettings [("MyApp", "trace")] :=
    Except.ok.inj (hloaded.symm.trans hclaimed)
  exact absurd hsame (by decide +kernel)

end Settings

end TelemetryGate
