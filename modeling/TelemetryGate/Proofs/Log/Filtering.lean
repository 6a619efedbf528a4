import Mathlib.Data.List.Nodup
import TelemetryGate.Proofs.Log.Directives
import TelemetryGate.Proofs.Log.Installing

/-!
# Which records a log lets pass

The settings of a log name a main level, and levels of modules. The longest module name that the
target of a record starts with decides about the record, and the main level decides when there is
none. In what order the modules are given does not matter, and the main level `off` silences them
all. Directives of the environment, if they can be read, take the place of all levels.
-/

namespace TelemetryGate

namespace Log

/-! ## Rules in their order -/

namespace Rule

/-- How far a rule reaches into a target: one byte more than the target that it asks for, and none
if it asks for no target. -/
def reach (rule : Rule) : Nat := rule.target.elim 0 (·.utf8ByteSize + 1)

/-- Rules are compared by their reaches first. -/
theorem compare_reach (a b : Rule) :
    Ord.compare (a.target.map String.utf8ByteSize) (b.target.map String.utf8ByteSize) =
      Ord.compare a.reach b.reach := by
  rw [reach, reach]
  cases a.target with
  | none =>
    cases b.target with
    | none => rfl
    | some t => exact (Nat.compare_eq_lt.mpr (Nat.succ_pos _)).symm
  | some s =>
    cases b.target with
    | none => exact (Nat.compare_eq_gt.mpr (Nat.succ_pos _)).symm
    | some t =>
      change Ord.compare s.utf8ByteSize t.utf8ByteSize =
        Ord.compare (s.utf8ByteSize + 1) (t.utf8ByteSize + 1)
      simp only [Nat.compare_eq_ite_lt, Nat.add_lt_add_iff_right]

/-- A rule that does not come behind another one reaches at least as far. -/
theorem reach_le_of_compare_ne_lt {a b : Rule} (h : a.compare b ≠ .lt) : b.reach ≤ a.reach := by
  by_contra hreach
  rw [compare, compare_reach, Nat.compare_eq_lt.mpr (Nat.lt_of_not_le hreach)] at h
  exact h rfl

/-- A rule that does not come before another one reaches at most as far. -/
theorem reach_le_of_compare_ne_gt {a b : Rule} (h : a.compare b ≠ .gt) : a.reach ≤ b.reach := by
  by_contra hreach
  rw [compare, compare_reach, Nat.compare_eq_gt.mpr (Nat.lt_of_not_le hreach)] at h
  exact h rfl

/-- Rules with different targets are told apart. -/
theorem compare_ne_eq_of_target {a b : Rule} (h : a.target ≠ b.target) : a.compare b ≠ .eq := by
  intro heq
  simp only [Rule.compare, Ordering.then_eq_eq, Std.compare_eq_iff_eq] at heq
  exact h heq.2.2.1

/-- A rule that asks for a target and no field covers the records whose target starts with it. -/
theorem covers_iff {name : String} {t : Threshold} {r : Record} :
    (⟨some name, [], t⟩ : Rule).covers r = true ↔ name.toList <+: r.target.toList := by
  simp [covers, Text.startsWith_iff]

end Rule

namespace Filter

variable {against : Objections}

/-- The order in which rules are kept: those that reach farther come first. -/
def Descending (rules : List Rule) : Prop := rules.Pairwise fun a b => b.reach ≤ a.reach

/-- What is there after a rule is put in is that rule, and rules that were there before. -/
theorem mem_of_mem_insert {rule other : Rule} {rules : List Rule}
    (h : other ∈ insert rule rules) : other = rule ∨ other ∈ rules := by
  induction rules with
  | nil => exact .inl (List.mem_singleton.mp h)
  | cons r rest ih =>
    rw [insert] at h
    cases hcompare : rule.compare r with
    | gt =>
      rw [hcompare] at h
      exact List.mem_cons.mp h
    | eq =>
      rw [hcompare] at h
      exact (List.mem_cons.mp h).imp_right (List.mem_cons_of_mem _)
    | lt =>
      rw [hcompare] at h
      rcases List.mem_cons.mp h with rfl | h
      · exact .inr List.mem_cons_self
      · exact (ih h).imp_right (List.mem_cons_of_mem _)

/-- A rule that is told apart from all others is put in beside them. -/
theorem insert_perm {rule : Rule} {rules : List Rule}
    (h : ∀ r ∈ rules, rule.compare r ≠ .eq) : (insert rule rules).Perm (rule :: rules) := by
  induction rules with
  | nil => rfl
  | cons r rest ih =>
    rw [insert]
    cases hcompare : rule.compare r with
    | gt => rfl
    | eq => exact absurd hcompare (h r List.mem_cons_self)
    | lt =>
      have hrest := ih fun r hr => h r (List.mem_cons_of_mem _ hr)
      exact (hrest.cons r).trans (.swap rule r rest)

/-- Putting a rule in keeps the order. -/
theorem Descending.insert {rules : List Rule} (h : Descending rules) (rule : Rule) :
    Descending (insert rule rules) := by
  induction rules with
  | nil => exact List.pairwise_singleton _ rule
  | cons r rest ih =>
    obtain ⟨hr, hrest⟩ := List.pairwise_cons.mp h
    rw [Filter.insert]
    cases hcompare : rule.compare r with
    | gt =>
      have hle := Rule.reach_le_of_compare_ne_lt (a := rule) (b := r) (by simp [hcompare])
      refine List.pairwise_cons.mpr ⟨fun other hother => ?_, h⟩
      rcases List.mem_cons.mp hother with rfl | hother
      · exact hle
      · exact (hr other hother).trans hle
    | eq =>
      have hle := Rule.reach_le_of_compare_ne_lt (a := rule) (b := r) (by simp [hcompare])
      exact List.pairwise_cons.mpr ⟨fun other hother => (hr other hother).trans hle, hrest⟩
    | lt =>
      have hle := Rule.reach_le_of_compare_ne_gt (a := rule) (b := r) (by simp [hcompare])
      refine List.pairwise_cons.mpr ⟨fun other hother => ?_, ih hrest⟩
      rcases mem_of_mem_insert hother with rfl | hother
      · exact hle
      · exact hr other hother

/-- The rule that decides about a record reaches at least as far as any other that covers it. -/
theorem Descending.find?_eq_some {rules : List Rule} (h : Descending rules) {r : Record}
    {rule : Rule} (hfind : rules.find? (·.covers r) = some rule) :
    rule ∈ rules ∧ rule.covers r = true ∧
      ∀ other ∈ rules, other.covers r = true → other.reach ≤ rule.reach := by
  obtain ⟨hcovers, before, behind, rfl, hbefore⟩ := List.find?_eq_some_iff_append.mp hfind
  refine ⟨by simp, hcovers, fun other hother hcovered => ?_⟩
  rcases List.mem_append.mp hother with hother | hother
  · have hnot := hbefore other hother
    rw [hcovered] at hnot
    exact absurd hnot (by decide)
  · rcases List.mem_cons.mp hother with rfl | hother
    · exact le_rfl
    · exact List.rel_of_pairwise_cons (List.pairwise_append.mp h).2.1 hother

/-- The rules of a filter are those of a main level and of some modules. -/
structure Serves (f : Filter) (level : String) (modules : Entries String) : Prop where
  /-- The rules are kept in their order. -/
  descending : Descending f.rules
  /-- There is one rule for the main level, and one for each module. -/
  mem_iff : ∀ rule, rule ∈ f.rules ↔
    (∃ t : Threshold, t.word = level ∧ rule = ⟨none, [], t⟩) ∨
      ∃ m ∈ modules, ∃ t : Threshold, t.word = m.2 ∧ rule = ⟨some m.1, [], t⟩

/-- A word alone makes a filter for a main level without modules. -/
theorem serves_ofText (t : Threshold) : Serves ⟨[⟨none, [], t⟩]⟩ t.word [] := by
  refine ⟨List.pairwise_singleton _ _, fun rule => ?_⟩
  constructor
  · intro hrule
    exact .inl ⟨t, rfl, List.mem_singleton.mp hrule⟩
  · rintro (⟨other, hword, rfl⟩ | ⟨m, hm, -⟩)
    · rw [Threshold.word_injective hword]
      exact List.mem_singleton_self _
    · exact nomatch hm

/-- The directive of another module adds that module. -/
theorem Serves.add {f : Filter} {level : String} {modules : Entries String}
    (h : f.Serves level modules) {name : String} (hnew : name ∉ modules.map (·.1))
    (t : Threshold) :
    (f.add ⟨some name, none, [], t⟩).Serves level (modules ++ [(name, t.word)]) := by
  have hadd : f.add ⟨some name, none, [], t⟩ = ⟨insert ⟨some name, [], t⟩ f.rules⟩ := rfl
  have htold : ∀ r ∈ f.rules, (⟨some name, [], t⟩ : Rule).compare r ≠ .eq := by
    intro r hr
    apply Rule.compare_ne_eq_of_target
    rcases (h.mem_iff r).mp hr with ⟨-, -, rfl⟩ | ⟨m, hm, -, -, rfl⟩
    · exact nofun
    · intro heq
      exact hnew (Option.some.inj heq ▸ List.mem_map_of_mem (f := (·.1)) hm)
  rw [hadd]
  refine ⟨h.descending.insert _, fun rule => ?_⟩
  rw [(insert_perm htold).mem_iff, List.mem_cons, h.mem_iff]
  constructor
  · rintro (rfl | hmain | ⟨m, hm, hrule⟩)
    · exact .inr ⟨(name, t.word), by simp, t, rfl, rfl⟩
    · exact .inl hmain
    · exact .inr ⟨m, List.mem_append_left _ hm, hrule⟩
  · rintro (hmain | ⟨m, hm, other, hword, rfl⟩)
    · exact .inr (.inl hmain)
    · rcases List.mem_append.mp hm with hm | hm
      · exact .inr (.inr ⟨m, hm, other, hword, rfl⟩)
      · obtain rfl := List.mem_singleton.mp hm
        exact .inl (by rw [Threshold.word_injective hword])

/-- The directives of modules with plain names can all be added, one after the other. -/
theorem Serves.foldlM {f : Filter} {level : String} {before : Entries String}
    (h : f.Serves level before) {modules : Entries String}
    (hplain : ∀ m ∈ modules, PlainName m.1) (hwords : ∀ m ∈ modules, m.2 ∈ levelWords)
    (hdistinct : ((before ++ modules).map (·.1)).Nodup) :
    ∃ g, modules.foldlM (m := Except Directive.Fault)
        (fun f m => return f.add (← moduleDirective against m.1 m.2)) f = .ok g ∧
      g.Serves level (before ++ modules) := by
  induction modules generalizing f before with
  | nil =>
    rw [List.append_nil]
    exact ⟨f, rfl, h⟩
  | cons m rest ih =>
    obtain ⟨name, word⟩ := m
    obtain ⟨t, rfl⟩ := exists_word_eq (hwords _ List.mem_cons_self)
    have hnew : name ∉ before.map (·.1) := by
      intro hmem
      rw [List.map_append, List.nodup_append] at hdistinct
      exact hdistinct.2.2 name hmem name (by simp) rfl
    have hread := moduleDirective_of_plain against (hplain _ List.mem_cons_self) t
    rw [← List.singleton_append, ← List.append_assoc] at hdistinct ⊢
    obtain ⟨g, hg, hserves⟩ := ih (h.add hnew t)
      (fun m hm => hplain m (List.mem_cons_of_mem _ hm))
      (fun m hm => hwords m (List.mem_cons_of_mem _ hm)) hdistinct
    refine ⟨g, ?_, hserves⟩
    rw [List.singleton_append, List.foldlM_cons, hread]
    exact hg

/-- The order of the modules does not matter. -/
theorem Serves.perm {f : Filter} {level : String} {modules modules' : Entries String}
    (h : f.Serves level modules) (hperm : modules.Perm modules') : f.Serves level modules' :=
  ⟨h.descending, by simpa only [hperm.mem_iff] using h.mem_iff⟩

/-- Settings whose main level is off make a filter that serves no module. -/
theorem ofSettings_of_off {s : LogSettings} (hoff : s.level = "off") :
    ofSettings against s = .ok ⟨[⟨none, [], .off⟩]⟩ := by
  have hmain : ofText against "off" = .ok ⟨[⟨none, [], .off⟩]⟩ := ofText_word against .off
  rw [ofSettings, hoff, hmain]
  rfl

/-- Settings without issue whose modules have distinct plain names make a filter that serves them,
unless the main level is off. -/
theorem ofSettings_serves {s : LogSettings} (hvalid : s.issue? = none) (hon : s.level ≠ "off")
    (hplain : ∀ m ∈ s.modules, PlainName m.1) (hdistinct : (s.modules.map (·.1)).Nodup) :
    ∃ f, ofSettings against s = .ok f ∧ f.Serves s.level s.modules := by
  obtain ⟨hlevel, -, -, hwords⟩ := LogSettings.issue?_eq_none_iff.mp hvalid
  obtain ⟨t, ht⟩ := exists_word_eq hlevel
  have hmain : ofText against s.level = .ok ⟨[⟨none, [], t⟩]⟩ := ht ▸ ofText_word against t
  obtain ⟨f, hf, hserves⟩ := (serves_ofText t).foldlM hplain hwords hdistinct
  refine ⟨f, ?_, ht ▸ hserves⟩
  rw [ofSettings, hmain]
  change (if s.level = "off" then _ else _) = _
  rw [if_neg hon]
  exact hf

end Filter

/-! ## The level that decides -/

/-- The word that decides about the records of a target. -/
inductive Decides (s : LogSettings) (target : String) : String → Prop where
  /-- It is the word of the module with the longest name that the target starts with. -/
  | module {name word : String} (given : (name, word) ∈ s.modules)
    (starts : name.toList <+: target.toList)
    (longest : ∀ m ∈ s.modules, m.1.toList <+: target.toList →
      m.1.toList.length ≤ name.toList.length) : Decides s target word
  /-- The target starts with no module name, and the main level decides. -/
  | main (none : ∀ m ∈ s.modules, ¬ m.1.toList <+: target.toList) : Decides s target s.level

/-- Settings let a record pass: its level passes the word that decides about its target. -/
def Permits (s : LogSettings) (r : Record) : Prop :=
  ∃ word, Decides s r.target word ∧ LetsPass word r.level

/-- At most one word decides. -/
theorem Decides.unique {s : LogSettings} (hdistinct : (s.modules.map (·.1)).Nodup)
    {target word word' : String} (h : Decides s target word) (h' : Decides s target word') :
    word = word' := by
  cases h with
  | main none =>
    cases h' with
    | main => rfl
    | module given starts => exact absurd starts (none _ given)
  | module given starts longest =>
    cases h' with
    | main none => exact absurd starts (none _ given)
    | module given' starts' longest' =>
      have hlength := Nat.le_antisymm (longest' _ given starts) (longest _ given' starts')
      have hfront := List.prefix_of_prefix_length_le starts starts' hlength.le
      have hname := String.toList_injective (hfront.eq_of_length hlength)
      have hsame := List.inj_on_of_nodup_map hdistinct given given' hname
      exact congrArg Prod.snd hsame

/-- Of two texts that a third one starts with, the one with fewer bytes has fewer characters. -/
theorem length_le_of_utf8ByteSize_le {s t : String} {cs : List Char} (hs : s.toList <+: cs)
    (ht : t.toList <+: cs) (h : s.utf8ByteSize ≤ t.utf8ByteSize) :
    s.toList.length ≤ t.toList.length := by
  rcases List.prefix_or_prefix_of_prefix hs ht with hfront | ⟨rest, hrest⟩
  · exact hfront.length_le
  · have hs : s = t ++ String.ofList rest := by
      apply String.toList_injective
      rw [String.toList_append, String.toList_ofList, hrest]
    rw [hs, String.utf8ByteSize_append] at h
    have hempty : String.ofList rest = "" := String.utf8ByteSize_eq_zero_iff.mp (by omega)
    rw [hs, hempty, String.append_empty]

/-- A filter that serves settings admits the records that the settings let pass. -/
theorem Filter.Serves.admits_iff {f : Filter} {s : LogSettings} (h : f.Serves s.level s.modules)
    (hlevel : s.level ∈ levelWords) (hwords : ∀ m ∈ s.modules, m.2 ∈ levelWords)
    (hdistinct : (s.modules.map (·.1)).Nodup) (r : Record) :
    f.admits r = true ↔ Permits s r := by
  obtain ⟨main, hmain⟩ := exists_word_eq hlevel
  have hmem : ⟨none, [], main⟩ ∈ f.rules := (h.mem_iff _).mpr (.inl ⟨main, hmain, rfl⟩)
  cases hfind : f.rules.find? (·.covers r) with
  | none => exact absurd rfl (List.find?_eq_none.mp hfind _ hmem)
  | some rule =>
    obtain ⟨hrule, hcovers, hfarthest⟩ := h.descending.find?_eq_some hfind
    have hmodule : ∀ m ∈ s.modules, m.1.toList <+: r.target.toList →
        m.1.utf8ByteSize + 1 ≤ rule.reach := by
      intro m hm hstarts
      obtain ⟨t, ht⟩ := exists_word_eq (hwords m hm)
      exact hfarthest ⟨some m.1, [], t⟩ ((h.mem_iff _).mpr (.inr ⟨m, hm, t, ht, rfl⟩))
        (Rule.covers_iff.mpr hstarts)
    have hdecides : Decides s r.target rule.threshold.word := by
      rcases (h.mem_iff rule).mp hrule with ⟨t, hword, rfl⟩ | ⟨m, hm, t, hword, rfl⟩
      · rw [hword]
        exact .main fun m hm hstarts => absurd (hmodule m hm hstarts) (by simp [Rule.reach])
      · have hstarts := Rule.covers_iff.mp hcovers
        rw [hword]
        have hlongest : ∀ other ∈ s.modules, other.1.toList <+: r.target.toList →
            other.1.toList.length ≤ m.1.toList.length := fun other hother hother' =>
          length_le_of_utf8ByteSize_le hother' hstarts
            (Nat.le_of_succ_le_succ (hmodule other hother hother'))
        exact .module hm hstarts hlongest
    rw [Filter.admits, hfind]
    dsimp only
    rw [← letsPass_word_iff]
    constructor
    · exact fun hpass => ⟨_, hdecides, hpass⟩
    · rintro ⟨word, hword, hpass⟩
      rwa [hdecides.unique hdistinct hword]

namespace Host

/-- A log is set up: its place was free, the attempt succeeds, and the log is in the place then. -/
structure SetsUp (h : Host) (s : LogSettings) (logger : Logger) : Prop where
  /-- The place was free. -/
  free : h.logger = none
  /-- The attempt succeeds. -/
  succeeds : h.told (some s) = .ok ()
  /-- The log is in the place. -/
  installed : (h.after (.setUp (some s))).logger = some logger

/-- A log that is set up has passed all stages. -/
theorem SetsUp.ready {h : Host} {s : LogSettings} {logger : Logger} (hsets : h.SetsUp s logger) :
    h.Ready s logger := by
  have hinstalled := hsets.installed
  rw [after] at hinstalled
  cases henabled : (h.inForce (some s)).enabled with
  | false =>
    rw [setUpLog_of_disabled henabled, hsets.free] at hinstalled
    cases hinstalled
  | true =>
    rcases setUpLog_cases henabled with ⟨-, -, -, files, hkept⟩ | ⟨other, hready, -, hother⟩
    · rw [hkept] at hinstalled
      cases hsets.free.symm.trans hinstalled
    · rw [hother, hsets.free] at hinstalled
      exact Option.some.inj hinstalled ▸ hready

/-- Settings with the same output and the same file open the same sink. -/
theorem Opens.congr {h : Host} {s s' : LogSettings} {sink : Sink} (hopens : h.Opens s sink)
    (houtput : s'.output = s.output) (hfile : s'.file = s.file) : h.Opens s' sink := by
  cases hopens with
  | stdout output => exact .stdout (houtput.trans output)
  | stderr output => exact .stderr (houtput.trans output)
  | file output opened => exact .file (houtput.trans output) (hfile ▸ opened)

/-- Without directives of the environment a log admits the records that its settings let pass, in
whatever order the modules are given. -/
theorem SetsUp.admits_iff {h : Host} {s : LogSettings} {modules : Entries String} {logger : Logger}
    (hsets : h.SetsUp { s with modules } logger) (horder : modules.Perm s.modules)
    (hplain : ∀ m ∈ s.modules, PlainName m.1) (hdistinct : (s.modules.map (·.1)).Nodup)
    (hnone : Filter.ofVariables? h.against h.world.environment = none) (hon : s.level ≠ "off")
    (r : Record) : logger.filter.admits r = true ↔ Permits s r := by
  have hvalid := hsets.ready.valid
  have hfilter := hsets.ready.filter
  have hplain' : ∀ m ∈ modules, PlainName m.1 := fun m hm => hplain m (horder.mem_iff.mp hm)
  have hdistinct' : (modules.map (·.1)).Nodup := (horder.map _).nodup_iff.mpr hdistinct
  obtain ⟨f, hf, hserves⟩ := Filter.ofSettings_serves hvalid hon hplain' hdistinct'
  rw [Filter.choose, hnone] at hfilter
  obtain rfl : f = logger.filter := Except.ok.inj (hf.symm.trans hfilter)
  have hserves' : logger.filter.Serves s.level s.modules := hserves.perm horder
  obtain ⟨hlevel, -, -, hwords⟩ := LogSettings.issue?_eq_none_iff.mp hvalid
  have hwords' : ∀ m ∈ s.modules, m.2 ∈ levelWords := fun m hm => hwords m (horder.mem_iff.mpr hm)
  exact hserves'.admits_iff hlevel hwords' hdistinct r

/-- Without directives of the environment a log whose main level is off admits nothing. -/
theorem SetsUp.admits_of_off {h : Host} {s : LogSettings} {logger : Logger}
    (hsets : h.SetsUp s logger) (hnone : Filter.ofVariables? h.against h.world.environment = none)
    (hoff : s.level = "off") (r : Record) : logger.filter.admits r = false := by
  have hfilter := hsets.ready.filter
  rw [Filter.choose, hnone] at hfilter
  have hrules := Except.ok.inj ((Filter.ofSettings_of_off hoff).symm.trans hfilter)
  rw [← hrules]
  rfl

/-- With directives of the environment the levels of the settings make no difference. -/
theorem SetsUp.eq_of_directives {h : Host} {s s' : LogSettings} {logger logger' : Logger}
    (hsets : h.SetsUp s logger) (hsets' : h.SetsUp s' logger') {f : Filter}
    (hf : Filter.ofVariables? h.against h.world.environment = some f)
    (houtput : s'.output = s.output) (hfile : s'.file = s.file)
    (hlayout : layoutOf s' = layoutOf s) : logger' = logger := by
  have hready := hsets.ready
  have hready' := hsets'.ready
  have hchosen (t : LogSettings) : Filter.choose h.against h.world.environment t = .ok f := by
    rw [Filter.choose, hf]
  have hfilter := Except.ok.inj ((hchosen s).symm.trans hready.filter)
  have hfilter' := Except.ok.inj ((hchosen s').symm.trans hready'.filter)
  have hsink := (hready.sink.congr houtput hfile).unique hready'.sink
  have hlayouts := hready'.layout.trans (hlayout.trans hready.layout.symm)
  cases logger
  cases logger'
  simp_all

/-- What a host writes whose log was set up with some settings, in an environment. -/
structure Follows (against : Objections) (env : Variables) (s : LogSettings) (logger : Logger)
    (later : Host) : Prop where
  /-- A record that the settings let pass is written. -/
  written : Filter.ofVariables? against env = none → s.level ≠ "off" → ∀ time r, Permits s r →
    later.write time r = later.put logger.sink (logger.layout.line time r)
  /-- A record that the settings do not let pass is not written. -/
  dropped : Filter.ofVariables? against env = none → s.level ≠ "off" → ∀ time r, ¬ Permits s r →
    later.write time r = later
  /-- Nothing is written when the main level is off. -/
  silent : Filter.ofVariables? against env = none → s.level = "off" → ∀ time r,
    later.write time r = later

/-- After a log is set up with modules that have plain names, given in any order, exactly those
records are written that the settings let pass. When directives of the environment can be read,
neither the main level nor the modules make a difference. -/
theorem writes_permitted {s : LogSettings} (plain : ∀ m ∈ s.modules, PlainName m.1)
    (distinct : (s.modules.map (·.1)).Nodup) {modules : Entries String}
    (order : modules.Perm s.modules) {h : Host} {logger : Logger}
    (sets : h.SetsUp { s with modules } logger) :
    (∀ history, Follows h.against h.world.environment s logger
      ((h.after (.setUp (some { s with modules }))).run history)) ∧
      ∀ f, Filter.ofVariables? h.against h.world.environment = some f → ∀ level others other,
        h.SetsUp { s with level, modules := others } other → other = logger := by
  constructor
  · intro history
    have hlogger := logger_run_of_installed sets.installed history
    generalize (h.after _).run history = later at hlogger
    have hwrite (time : String) (r : Record) : later.write time r =
        if logger.filter.admits r then later.put logger.sink (logger.layout.line time r)
        else later := by
      simp only [write, hlogger]
    constructor
    case written =>
      intro hnone hon time r hpermits
      rw [hwrite, if_pos ((sets.admits_iff order plain distinct hnone hon r).mpr hpermits)]
    case dropped =>
      intro hnone hon time r hnot
      rw [hwrite, if_neg (mt (sets.admits_iff order plain distinct hnone hon r).mp hnot)]
    case silent =>
      intro hnone hoff time r
      rw [hwrite, sets.admits_of_off hnone hoff r, if_neg Bool.false_ne_true]
  · intro f hf level others other hother
    exact sets.eq_of_directives hother hf rfl rfl rfl

/-- A log of three modules whose names are nested, given from the longest on; the directives of the
environment cannot be read. -/
def nestedModules : LogSettings where
  enabled := true
  level := "warn"
  format := "json"
  output := "stdout"
  file := ""
  color := false
  modules := [("a", "debug"), ("a::b", "off"), ("a::bc", "trace")]

/-- What it takes to set it up, and what is written then. -/
theorem nestedModules_writes_permitted :
    let h : Host := { world := ⟨.empty, [], [("QSHARP_TELEMETRY_LOG", "a=loud")]⟩ }
    let s := { nestedModules with
      modules := [("a::bc", "trace"), ("a::b", "off"), ("a", "debug")] }
    ∃ logger, h.SetsUp s logger ∧
      (∀ history, Follows h.against h.world.environment nestedModules logger
        ((h.after (.setUp (some s))).run history)) ∧
      ∀ f, Filter.ofVariables? h.against h.world.environment = some f → ∀ level others other,
        h.SetsUp { nestedModules with level, modules := others } other → other = logger := by
  intro h s
  have hsets : h.SetsUp s ⟨⟨[⟨some "a::bc", [], .atLeast .trace⟩, ⟨some "a::b", [], .off⟩,
      ⟨some "a", [], .atLeast .debug⟩, ⟨none, [], .atLeast .warn⟩]⟩, .json, .stdout⟩ :=
    ⟨rfl, by decide +kernel, by decide +kernel⟩
  have hplain : ∀ m ∈ nestedModules.modules, PlainName m.1 := by
    intro m hm
    simp only [nestedModules, List.mem_cons, List.not_mem_nil, or_false] at hm
    rcases hm with rfl | rfl | rfl
    · exact ⟨by decide, List.all_eq_true.mp (by decide)⟩
    · exact ⟨by decide, List.all_eq_true.mp (by decide)⟩
    · exact ⟨by decide, List.all_eq_true.mp (by decide)⟩
  exact ⟨_, hsets, writes_permitted hplain (by decide) (by decide) hsets⟩

end Host

end Log

end TelemetryGate
