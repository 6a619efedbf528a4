import TelemetryGate.Proofs.Log.Filtering
import TelemetryGate.Proofs.Log.Names

/-!
# Starting a log

Settings without issue name known levels, but their modules may have any names, and a filter can be
built only if each of these is the name of a module, with fields whose values can be looked for.
Then the log starts, unless its places are taken or its file cannot be opened.
-/

namespace TelemetryGate
namespace Log

/-- The names of the modules of log settings are such that directives can be made for them, with
fields that meet a demand. When the log is off, no directives are made. -/
def Nameable (Demand : List Char → Prop) (s : LogSettings) : Prop :=
  s.level = "off" ∨ ∀ m ∈ s.modules, Directive.ModuleName Demand m.1.toList

namespace Filter

variable {against : Objections}

/-- The directives of modules with words for their levels can all be added if each of them can be
made. -/
theorem foldlM_isOk_iff {modules : Entries String} (hwords : ∀ m ∈ modules, m.2 ∈ levelWords)
    (f : Filter) :
    (∃ g, modules.foldlM (m := Except Directive.Fault)
        (fun f m => return f.add (← moduleDirective against m.1 m.2)) f = .ok g) ↔
      ∀ m ∈ modules, Directive.ModuleName (Directive.Accepts against) m.1.toList := by
  induction modules generalizing f with
  | nil => exact iff_of_true ⟨f, rfl⟩ (List.forall_mem_nil _)
  | cons m rest ih =>
    obtain ⟨t, ht⟩ := exists_word_eq (hwords m List.mem_cons_self)
    have hrest := ih fun m hm => hwords m (List.mem_cons_of_mem _ hm)
    rw [List.forall_mem_cons, ← moduleDirective_isOk_iff (t := t), ht]
    simp only [List.foldlM_cons, bind_eq_ok_iff]
    constructor
    · rintro ⟨g, _, ⟨d, hd, -⟩, hg⟩
      exact ⟨⟨d, hd⟩, (hrest _).mp ⟨g, hg⟩⟩
    · rintro ⟨⟨d, hd⟩, hall⟩
      obtain ⟨g, hg⟩ := (hrest (f.add d)).mpr hall
      exact ⟨g, f.add d, ⟨d, hd, rfl⟩, hg⟩

/-- Settings without issue make a filter if the names of their modules come through. -/
theorem ofSettings_isOk_iff (against : Objections) {s : LogSettings} (hvalid : s.issue? = none) :
    (∃ f, ofSettings against s = .ok f) ↔ Nameable (Directive.Accepts against) s := by
  obtain ⟨hlevel, -, -, hwords⟩ := LogSettings.issue?_eq_none_iff.mp hvalid
  by_cases hoff : s.level = "off"
  · exact iff_of_true ⟨_, ofSettings_of_off hoff⟩ (.inl hoff)
  · obtain ⟨t, ht⟩ := exists_word_eq hlevel
    have hmain : ofText against s.level = .ok ⟨[⟨none, [], t⟩]⟩ := ht ▸ ofText_word against t
    rw [Nameable, or_iff_right hoff, ← foldlM_isOk_iff hwords ⟨[⟨none, [], t⟩]⟩, ofSettings, hmain]
    change (∃ f, (if s.level = "off" then _ else _) = _) ↔ _
    rw [if_neg hoff]

end Filter

namespace Host

/-- A log is free to start with settings that are switched on and have no issue: no directives are
given in the environment, both places of a log are free, and the log file can be opened if there is
to be one. -/
structure MayStart (h : Host) (s : LogSettings) : Prop where
  /-- The settings are switched on. -/
  enabled : s.enabled = true
  /-- The settings have no issue. -/
  valid : s.issue? = none
  /-- The variable for directives is not set. -/
  unset : h.world.environment.get? Filter.variableName = none
  /-- No log is in place, and the records of the `log` interface go nowhere. -/
  free : h.Free
  /-- The log file can be opened. -/
  opens : s.output = "file" → ∃ place, (h.openFile s.file).2 = .ok place

/-- A log starts with the filter of its settings. -/
structure Starts (h : Host) (settings : Option LogSettings) (logger : Logger) : Prop where
  /-- The filter is built. -/
  built : Filter.ofSettings h.against (h.inForce settings) = .ok logger.filter
  /-- The attempt succeeds. -/
  success : (h.setUpLog settings).2 = .ok ()
  /-- The log is in place. -/
  installed : (h.setUpLog settings).1.logger = some logger

/-- Without directives in the environment, the filter is that of the settings. -/
theorem MayStart.choose_eq {h : Host} {s : LogSettings} (hmay : h.MayStart s) :
    Filter.choose h.against h.world.environment s = Filter.ofSettings h.against s := by
  rw [Filter.choose, Filter.ofVariables?, hmay.unset]
  rfl

/-- The output of settings with which a log may start is opened. -/
theorem MayStart.exists_opens {h : Host} {s : LogSettings} (hmay : h.MayStart s) :
    ∃ sink, h.Opens s sink := by
  rcases h.openSink_cases hmay.valid with ⟨sink, -, hsink⟩ | ⟨fault, -, hfile, hfault⟩
  · exact ⟨sink, hsink⟩
  · obtain ⟨place, hplace⟩ := hmay.opens hfile
    cases hfault.symm.trans hplace

/-- A log that may start does so with the filter of its settings, if there is one. -/
theorem MayStart.starts {h : Host} {settings : Option LogSettings}
    (hmay : h.MayStart (h.inForce settings)) {f : Filter}
    (hf : Filter.ofSettings h.against (h.inForce settings) = .ok f) :
    ∃ logger, h.Starts settings logger := by
  obtain ⟨sink, hsink⟩ := hmay.exists_opens
  have hready : h.Ready (h.inForce settings) ⟨f, layoutOf (h.inForce settings), sink⟩ :=
    ⟨hmay.valid, hmay.choose_eq.trans hf, hsink, rfl⟩
  obtain ⟨hsuccess, hinstalled⟩ := setUpLog_of_passes hmay.free ⟨hmay.enabled, hready⟩
  exact ⟨_, hf, hsuccess, hinstalled⟩

/-- An attempt that succeeds with settings that are switched on has built their filter. -/
theorem MayStart.exists_filter {h : Host} {settings : Option LogSettings}
    (hmay : h.MayStart (h.inForce settings)) (hsuccess : (h.setUpLog settings).2 = .ok ()) :
    ∃ f, Filter.ofSettings h.against (h.inForce settings) = .ok f := by
  rcases setUpLog_cases hmay.enabled with ⟨fault, -, hfault, -⟩ | ⟨logger, hready, -, -⟩
  · cases hfault.symm.trans hsuccess
  · exact ⟨logger.filter, hmay.choose_eq.symm.trans hready.filter⟩

/-- A log that may start does so with the filter of its settings if the log is off, or each of its
modules is named by a target, or by a span, alone or behind a target, with or without fields, and
nothing speaks against the values of these. No other names start a log. -/
theorem starts_of_nameable {h : Host} {settings : Option LogSettings}
    (mayStart : h.MayStart (h.inForce settings)) :
    (Nameable (Directive.Accepts h.against) (h.inForce settings) →
        ∃ logger, h.Starts settings logger) ∧
      ((h.setUpLog settings).2 = .ok () →
        Nameable (Directive.Accepts h.against) (h.inForce settings)) := by
  have hbuilt := Filter.ofSettings_isOk_iff h.against mayStart.valid
  constructor
  · intro hnames
    obtain ⟨f, hf⟩ := hbuilt.mpr hnames
    exact mayStart.starts hf
  · intro hsuccess
    exact hbuilt.mp (mayStart.exists_filter hsuccess)

/-- A program in its home directory, where there is nothing else. Brackets cannot be looked for. -/
def atHome : Host where
  world := ⟨⟨[(["home"], .directory)]⟩, ["home"], []⟩
  against value := if '[' ∈ value.toList then some "unclosed character class" else none

/-- Settings for a log file and a module. -/
def moduleSettings (module : String) : LogSettings :=
  { LogSettings.default [] with
    output := "file", file := "app.log", modules := [(module, "debug")] }

theorem mayStart_atHome {module : String} : atHome.MayStart (moduleSettings module) := by
  refine ⟨rfl, LogSettings.issue?_eq_none_iff.mpr ?_, rfl, ⟨rfl, rfl⟩,
    fun _ => ⟨["home", "app.log"], ?_⟩⟩
  · simp [moduleSettings, LogSettings.default, levelWords, formatWords, outputWords]
  · change (atHome.openFile "app.log").2 = _
    decide +kernel

/-- A log starts with a module that is a span in a target, with two fields, one of which has a
value. -/
theorem starts_atHome : atHome.MayStart (moduleSettings "net[conn\x7bpeer=7,id\x7d]") ∧
    ∃ logger, atHome.Starts (some (moduleSettings "net[conn\x7bpeer=7,id\x7d]")) logger := by
  refine ⟨mayStart_atHome, (starts_of_nameable mayStart_atHome).1 (.inr fun m hm => ?_)⟩
  obtain rfl := List.mem_singleton.mp hm
  have htarget : Directive.IsTarget "net".toList :=
    ⟨⟨'n', ['e', 't'], rfl, by decide +kernel⟩, by simp⟩
  have hspan : Directive.IsSpanName "conn".toList := by simp [Directive.IsSpanName]
  have hpeer : Directive.IsField "peer=7".toList := ⟨by simp, by simp⟩
  have hid : Directive.IsField "id".toList := ⟨by simp, by simp⟩
  have hseven : Directive.Accepts atHome.against "peer=7".toList := by
    rintro value ⟨⟩
    rfl
  have hbare : Directive.Accepts atHome.against "id".toList := by
    rintro value ⟨⟩
  have hfields : Directive.AreFields (Directive.Accepts atHome.against) "peer=7,id".toList :=
    .more hpeer hseven (.last hid hbare)
  exact .fields (.inr htarget) hspan hfields

/-- Settings without issue do not start every log that may start. -/
theorem not_starts_of_valid : ¬ ∀ (h : Host) (settings : Option LogSettings),
    h.MayStart (h.inForce settings) →
      (∃ f, Filter.choose h.against h.world.environment (h.inForce settings) = .ok f) ∧
        (h.setUpLog settings).2 = .ok () := by
  intro hall
  obtain ⟨-, hsuccess⟩ := hall atHome (some (moduleSettings "!")) mayStart_atHome
  exact absurd hsuccess (by decide +kernel)

end Host
end Log
end TelemetryGate
