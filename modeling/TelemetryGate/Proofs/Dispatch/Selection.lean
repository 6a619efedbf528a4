import TelemetryGate.Proofs.Dispatch.Binding
import TelemetryGate.Proofs.Text.Trimming

/-!
# The key that settings select

Settings that do not switch telemetry off lead to their own key if something is left of it without
blank characters at its ends, and else to that of their manifest in the same way. A reporter is
asked for under this key and the endpoint of the settings, once, and from there on everything is as
if the key had been given as a text.
-/

namespace TelemetryGate

open Effect (deliveries requests)

/-- Settings hold a key of their own: it is what is left of their instrumentation key without blank
characters at its ends. -/
def Settings.HoldsKey (s : Settings) (key : String) : Prop :=
  ∃ held, s.instrumentationKey = some held ∧ Text.trim held = key ∧ key ≠ ""

/-- The manifest that settings name holds a key: its file has a text, the text is a manifest, and
the key is what is left of that of the manifest without blank characters at its ends. -/
def Settings.ManifestHoldsKey (w : World) (s : Settings) (key : String) : Prop :=
  ∃ path source m held, s.manifest = some path ∧ w.files.readText w.cwd path = .ok source ∧
    Manifest.ofText source = .ok m ∧ m.aiKey = some held ∧ Text.trim held = key ∧ key ≠ ""

namespace KeySource

/-- A usable key is what is left of the held key, if that is something. -/
theorem usableKey_eq_some_iff {source : KeySource} {key : String} :
    source.usableKey = some key ↔
      ∃ held, source.held = some held ∧ Text.trim held = key ∧ key ≠ "" := by
  rw [usableKey, Option.filter_eq_some_iff, Option.map_eq_some_iff]
  constructor
  · rintro ⟨⟨held, hheld, htrim⟩, hne⟩
    exact ⟨held, hheld, htrim, of_decide_eq_true hne⟩
  · rintro ⟨held, hheld, htrim, hne⟩
    exact ⟨⟨held, hheld, htrim⟩, decide_eq_true hne⟩

/-- A usable key is usable as a text, and stays the same. -/
theorem usableKey_text {source : KeySource} {key : String} (h : source.usableKey = some key) :
    (text key).usableKey = some key := by
  obtain ⟨held, -, htrim, hne⟩ := usableKey_eq_some_iff.mp h
  refine usableKey_eq_some_iff.mpr ⟨key, rfl, ?_, hne⟩
  rw [← htrim, Text.trim_trim]

end KeySource

namespace Manifest

/-- A manifest is loaded from a file whose text is one. -/
theorem load_eq_ok_iff {w : World} {path : String} {m : Manifest} :
    load w path = .ok m ↔
      ∃ source, w.files.readText w.cwd path = .ok source ∧ ofText source = .ok m := by
  rw [load]
  cases w.files.readText w.cwd path with
  | error fault => simp
  | ok source => simp

end Manifest

/-- The key of settings of their own is their usable key. -/
theorem Settings.holdsKey_iff {s : Settings} {key : String} :
    s.HoldsKey key ↔ (KeySource.settings s).usableKey = some key := by
  rw [KeySource.usableKey_eq_some_iff]
  exact Iff.rfl

/-- The key of a manifest is its usable key, if the manifest can be loaded. -/
theorem Settings.manifestHoldsKey_iff {w : World} {s : Settings} {key : String} :
    s.ManifestHoldsKey w key ↔ ∃ path m, s.manifest = some path ∧ Manifest.load w path = .ok m ∧
      (KeySource.manifest m).usableKey = some key := by
  simp only [ManifestHoldsKey, Manifest.load_eq_ok_iff, KeySource.usableKey_eq_some_iff]
  constructor
  · rintro ⟨path, source, m, held, hpath, hsource, hm, hheld⟩
    exact ⟨path, m, hpath, ⟨source, hsource, hm⟩, held, hheld⟩
  · rintro ⟨path, m, hpath, ⟨source, hsource, hm⟩, held, hheld⟩
    exact ⟨path, source, m, held, hpath, hsource, hm, hheld⟩

/-- Settings lead to the key of their own, or without one to that of their manifest. -/
theorem Setup.key?_settings_iff {w : World} {s : Settings} {key : String} :
    key? w (.settings s) = some key ↔ s.enabled = true ∧
      (s.HoldsKey key ∨ (∀ own, ¬ s.HoldsKey own) ∧ s.ManifestHoldsKey w key) := by
  simp only [Settings.holdsKey_iff, Settings.manifestHoldsKey_iff, key?]
  by_cases henabled : s.enabled
  · cases husable : (KeySource.settings s).usableKey with
    | some own => simp [henabled]
    | none =>
      simp only [henabled, if_true, Option.none_or, Option.bind_eq_some_iff, true_and, reduceCtorEq,
        not_false_eq_true, implies_true, false_or]
      refine exists_congr fun path => ?_
      cases Manifest.load w path <;> simp
  · simp [henabled]

namespace Effect

variable {ρ : Type}

/-- What is reported to the log. -/
def records (effects : List (Effect ρ)) : List Log.Record :=
  effects.filterMap fun
    | .logged record => some record
    | _ => none

/-- The paths whose manifests are read. -/
def manifestReads (effects : List (Effect ρ)) : List String :=
  effects.filterMap fun
    | .manifestRead path => some path
    | _ => none

theorem records_append (before after : List (Effect ρ)) :
    records (before ++ after) = records before ++ records after :=
  List.filterMap_append

theorem manifestReads_append (before after : List (Effect ρ)) :
    manifestReads (before ++ after) = manifestReads before ++ manifestReads after :=
  List.filterMap_append

end Effect

open Effect (records manifestReads)

/-- The manifest that is read for a setup: that of settings which are switched on and have no usable
key of their own. -/
def Setup.manifest? : Setup → Option String
  | .key _ => none
  | .settings s =>
    if s.enabled ∧ (KeySource.settings s).usableKey = none then s.manifest else none

namespace Dispatcher

variable {ρ : Type}

/-- What is reported when a reporter was asked for. -/
def outcomeRecords : Except SetupFault ρ → List Log.Record
  | .ok _ => []
  | .error fault => [unconnected fault]

/-- Set up a dispatcher, then let some emissions go through it. -/
def life (w : World) (setup : Setup) (connect : Connector ρ) (emissions : List Emission) :
    List (Effect ρ) :=
  (setUp w setup connect).1 ++ emissions.flatMap (setUp w setup connect).2.emit

/-- The record of an emission: what was sent, or that the event is dropped. -/
def told (d : Dispatcher ρ) (e : Emission) : Log.Record :=
  match d with
  | .active _ => sent e.flat
  | _ => dropped e.event

/-- An emission is told in one record. -/
theorem records_emit (d : Dispatcher ρ) (e : Emission) : records (d.emit e) = [d.told e] := by
  cases d with
  | active r =>
    rw [emit_active]
    rfl
  | _ => rfl

theorem records_bind {source : KeySource} {key : String} (h : source.usableKey = some key)
    (endpoint : Option String) (connect : Connector ρ) :
    records (bind source endpoint connect).1 = outcomeRecords (connect key endpoint) := by
  unfold bind
  rw [h]
  dsimp only
  cases connect key endpoint <;> rfl

theorem manifestReads_bind (source : KeySource) (endpoint : Option String)
    (connect : Connector ρ) : manifestReads (bind source endpoint connect).1 = [] := by
  unfold bind
  cases source.usableKey with
  | none => rfl
  | some key =>
    dsimp only
    cases connect key endpoint <;> rfl

/-- With a key, all that is reported before the announcement is what comes of asking for a
reporter. -/
theorem records_bindSetup {w : World} {setup : Setup} {key : String}
    (h : setup.key? w = some key) (connect : Connector ρ) :
    records (bindSetup w setup connect).1 = outcomeRecords (connect key setup.endpoint?) := by
  cases setup with
  | key source => exact records_bind h none connect
  | settings s =>
    change records (bindSettings w s connect).1 = outcomeRecords (connect key (some s.endpoint))
    obtain ⟨henabled, hown | ⟨hnone, hholds⟩⟩ := Setup.key?_settings_iff.mp h
    · have husable := Settings.holdsKey_iff.mp hown
      simpa [bindSettings, henabled, husable] using records_bind husable (some s.endpoint) connect
    · have husable : (KeySource.settings s).usableKey = none :=
        Option.eq_none_iff_forall_ne_some.mpr fun own hown =>
          hnone own (Settings.holdsKey_iff.mpr hown)
      obtain ⟨path, m, hpath, hload, hm⟩ := Settings.manifestHoldsKey_iff.mp hholds
      simpa [bindSettings, henabled, husable, hpath, hload, records] using
        records_bind hm (some s.endpoint) connect

/-- The manifest of a setup is read, and nothing else. -/
theorem manifestReads_bindSetup (w : World) (setup : Setup) (connect : Connector ρ) :
    manifestReads (bindSetup w setup connect).1 = setup.manifest?.toList := by
  cases setup with
  | key source => exact manifestReads_bind source none connect
  | settings s =>
    rw [bindSetup, bindSettings, Setup.manifest?]
    by_cases henabled : s.enabled
    · cases husable : (KeySource.settings s).usableKey with
      | some own => simpa [henabled] using manifestReads_bind _ _ connect
      | none =>
        cases hpath : s.manifest with
        | none => simp [henabled, manifestReads]
        | some path =>
          cases hload : Manifest.load w path with
          | error fault => simp [henabled, manifestReads, hload]
          | ok m =>
            have hbind := manifestReads_bind (.manifest m) (some s.endpoint) connect
            simpa [henabled, manifestReads, hload] using hbind
    · simp [henabled, manifestReads]

/-- A setup that gives a key reports what comes of asking for a reporter, then the announcement. -/
theorem records_setUp {w : World} {setup : Setup} {key : String} (h : setup.key? w = some key)
    (connect : Connector ρ) : records (setUp w setup connect).1 =
      outcomeRecords (connect key setup.endpoint?) ++
        records (ofKey (some key) setup.endpoint? connect).announce := by
  have hd := (bindSetup_binds w setup connect).dispatcher
  rw [h] at hd
  rw [setUp, Effect.records_append, records_bindSetup h, hd]

theorem manifestReads_announce (d : Dispatcher ρ) : manifestReads d.announce = [] := by
  cases d with
  | active r =>
    rw [announce, emit_active]
    rfl
  | _ => rfl

/-- Setting up reads the manifest of the setup, and nothing else. -/
theorem manifestReads_setUp (w : World) (setup : Setup) (connect : Connector ρ) :
    manifestReads (setUp w setup connect).1 = setup.manifest?.toList := by
  rw [setUp, Effect.manifestReads_append, manifestReads_bindSetup, manifestReads_announce,
    List.append_nil]

/-- Two setups that give the same key, and ask for the same reporter with it, lead the same life: in
the state of the dispatcher, in what reporters are sent and in what is reported. -/
theorem life_eq {w w' : World} {setup setup' : Setup} {key : String}
    {connect connect' : Connector ρ}
    (h : setup.key? w = some key) (h' : setup'.key? w' = some key)
    (hconnect : connect key setup.endpoint? = connect' key setup'.endpoint?)
    (emissions : List Emission) :
    (setUp w setup connect).2 = (setUp w' setup' connect').2 ∧
      deliveries (life w setup connect emissions) = deliveries (life w' setup' connect' emissions) ∧
      records (life w setup connect emissions) = records (life w' setup' connect' emissions) := by
  have hkey : ofKey (some key) setup.endpoint? connect =
      ofKey (some key) setup'.endpoint? connect' := by
    rw [ofKey, ofKey, hconnect]
  have hd : (setUp w setup connect).2 = (setUp w' setup' connect').2 := by
    rw [setUp_snd, setUp_snd, outcome, outcome, h, h', hkey]
  refine ⟨hd, ?_, ?_⟩
  · rw [life, life, Effect.deliveries_append, Effect.deliveries_append, deliveries_setUp,
      deliveries_setUp, outcome, outcome, h, h', hkey, hd]
  · rw [life, life, Effect.records_append, Effect.records_append, records_setUp h, records_setUp h',
      hconnect, hkey, hd]

/-- The key that settings lead to is the one that a reporter is asked for, with their endpoint. -/
theorem requests_setUp_settings {w : World} {s : Settings} {key : String}
    (h : Setup.key? w (.settings s) = some key) (connect : Connector ρ) :
    requests (setUp w (.settings s) connect).1 = [(key, some s.endpoint)] := by
  rw [requests_setUp, h]
  rfl

end Dispatcher

open Dispatcher (setUp life)

/-- How the key is selected when a dispatcher is set up from settings. -/
structure Settings.SelectsKey {ρ : Type} (w : World) (s : Settings) (connect : Connector ρ) :
    Prop where
  /-- A reporter is asked for at most once. -/
  once : (requests (setUp w (.settings s) connect).1).length ≤ 1
  /-- Settings that switch telemetry off ask for nothing and read nothing. -/
  off : s.enabled = false → requests (setUp w (.settings s) connect).1 = [] ∧
    manifestReads (setUp w (.settings s) connect).1 = []
  /-- A key of their own is asked for with their endpoint, and no manifest is read. -/
  own : s.enabled = true → ∀ key, s.HoldsKey key →
    requests (setUp w (.settings s) connect).1 = [(key, some s.endpoint)] ∧
      manifestReads (setUp w (.settings s) connect).1 = []
  /-- Without a key of their own that of their manifest is asked for with their endpoint. -/
  manifest : s.enabled = true → (∀ own, ¬ s.HoldsKey own) → ∀ key, s.ManifestHoldsKey w key →
    requests (setUp w (.settings s) connect).1 = [(key, some s.endpoint)]
  /-- Without either key nothing is asked for. -/
  neither : (∀ own, ¬ s.HoldsKey own) → (∀ key, ¬ s.ManifestHoldsKey w key) →
    requests (setUp w (.settings s) connect).1 = []
  /-- The dispatcher is bound to a reporter exactly if that one was asked for and connected. -/
  active : ∀ r, (setUp w (.settings s) connect).2 = .active r ↔
    ∃ key, requests (setUp w (.settings s) connect).1 = [(key, some s.endpoint)] ∧
      connect key (some s.endpoint) = .ok r
  /-- Otherwise it is disabled. -/
  disabled : (setUp w (.settings s) connect).2.state ≠ .active →
    (setUp w (.settings s) connect).2.state = .disabled
  /-- If a reporter is asked for, then the dispatcher, all that reporters are sent and all that is
  reported are those of a dispatcher that is set up from the text of the key. -/
  asText : ∀ key endpoint, (key, endpoint) ∈ requests (setUp w (.settings s) connect).1 →
    ∀ (w' : World) (connect' : Connector ρ), connect' key none = connect key endpoint →
      ∀ emissions, (setUp w (.settings s) connect).2 = (setUp w' (.key (.text key)) connect').2 ∧
        deliveries (life w (.settings s) connect emissions) =
          deliveries (life w' (.key (.text key)) connect' emissions) ∧
        records (life w (.settings s) connect emissions) =
          records (life w' (.key (.text key)) connect' emissions)

/-- Settings select their key whatever they are, whatever the file of their manifest holds, and
whatever comes of asking for a reporter. -/
theorem Settings.selectsKey {ρ : Type} (w : World) (s : Settings) (connect : Connector ρ) :
    s.SelectsKey w connect := by
  have hrequests := Dispatcher.requests_setUp w (.settings s) connect
  have hreads := Dispatcher.manifestReads_setUp w (.settings s) connect
  have hasked (key : String) (h : Setup.key? w (.settings s) = some key) :=
    Dispatcher.requests_setUp_settings h connect
  constructor
  case once =>
    rw [hrequests]
    cases Setup.key? w (.settings s) <;> simp
  case off =>
    intro hoff
    rw [hrequests, hreads]
    simp [Setup.key?, Setup.manifest?, hoff]
  case own =>
    intro henabled key hown
    refine ⟨hasked key (Setup.key?_settings_iff.mpr ⟨henabled, .inl hown⟩), ?_⟩
    rw [hreads]
    simp [Setup.manifest?, Settings.holdsKey_iff.mp hown]
  case manifest =>
    intro henabled hnone key hholds
    exact hasked key (Setup.key?_settings_iff.mpr ⟨henabled, .inr ⟨hnone, hholds⟩⟩)
  case neither =>
    intro hnone hmanifest
    cases hkey : Setup.key? w (.settings s) with
    | none => rw [hrequests, hkey]; rfl
    | some key =>
      obtain ⟨-, hown | ⟨-, hholds⟩⟩ := Setup.key?_settings_iff.mp hkey
      · exact absurd hown (hnone key)
      · exact absurd hholds (hmanifest key)
  case active =>
    intro r
    rw [Dispatcher.setUp_snd, Dispatcher.outcome_active_iff]
    refine exists_congr fun key => and_congr_left fun _ => ⟨hasked key, fun h => ?_⟩
    rw [hrequests] at h
    cases hkey : Setup.key? w (.settings s) with
    | none => simp [hkey] at h
    | some other => simpa [hkey, Setup.endpoint?] using h
  case disabled =>
    rw [Dispatcher.setUp_snd]
    intro hnot
    rcases Dispatcher.outcome_cases w (.settings s) connect with hd | ⟨r, hd⟩
    · rw [hd]; rfl
    · exact absurd (by rw [hd]; rfl) hnot
  case asText =>
    intro key endpoint hmem w' connect' hconnect emissions
    rw [hrequests, List.mem_map] at hmem
    obtain ⟨own, hkey, heq⟩ := hmem
    obtain ⟨rfl, rfl⟩ := Prod.mk.inj heq
    have hkey := Option.mem_toList.mp hkey
    refine Dispatcher.life_eq hkey ?_ hconnect.symm emissions
    obtain ⟨-, hown | ⟨-, hholds⟩⟩ := Setup.key?_settings_iff.mp hkey
    · exact KeySource.usableKey_text (Settings.holdsKey_iff.mp hown)
    · obtain ⟨path, m, -, -, hm⟩ := Settings.manifestHoldsKey_iff.mp hholds
      exact KeySource.usableKey_text hm

end TelemetryGate
