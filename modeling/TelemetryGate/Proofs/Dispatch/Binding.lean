import TelemetryGate.Dispatch.Slot
import TelemetryGate.Proofs.Wire.Flattening

/-!
# What dispatchers are bound to

A setup gives a key or none, and only with a key a reporter is asked for. This file says which
dispatcher comes out of a setup, and what dispatchers send to reporters: a bound one the startup
event when it is announced and the flat form of every emission, and any other one nothing.
-/

namespace TelemetryGate

/-- The key that a setup leads to. Settings that switch telemetry off lead to none. Settings without
a usable key of their own lead to that of their manifest. -/
def Setup.key? (w : World) : Setup → Option String
  | .key source => source.usableKey
  | .settings s =>
    if s.enabled then
      (KeySource.settings s).usableKey.or <| s.manifest.bind fun path =>
        match Manifest.load w path with
        | .ok m => (KeySource.manifest m).usableKey
        | .error _ => none
    else none

/-- The endpoint that a setup asks for. -/
def Setup.endpoint? : Setup → Option String
  | .key _ => none
  | .settings s => some s.endpoint

/-- The startup event: it has no properties and no measurements. -/
def WireEvent.startup : WireEvent := ⟨.initializePlugin, [], []⟩

namespace Effect

variable {ρ : Type}

/-- What is sent, and to which reporters. -/
def deliveries (effects : List (Effect ρ)) : List (ρ × WireEvent) :=
  effects.filterMap fun
    | .delivered r event => some (r, event)
    | _ => none

/-- The keys and endpoints that reporters are asked for. -/
def requests (effects : List (Effect ρ)) : List (String × Option String) :=
  effects.filterMap fun
    | .connected key endpoint => some (key, endpoint)
    | _ => none

theorem deliveries_append (before after : List (Effect ρ)) :
    deliveries (before ++ after) = deliveries before ++ deliveries after :=
  List.filterMap_append

theorem requests_append (before after : List (Effect ρ)) :
    requests (before ++ after) = requests before ++ requests after :=
  List.filterMap_append

end Effect

namespace Dispatcher

open Effect (deliveries requests)

variable {ρ : Type}

/-- The dispatcher that a key leads to, if there is one. -/
def ofKey (key endpoint : Option String) (connect : Connector ρ) : Dispatcher ρ :=
  match key with
  | none => .disabled
  | some key =>
    match connect key endpoint with
    | .ok r => .active r
    | .error _ => .disabled

/-- The dispatcher that a setup leads to. -/
def outcome (w : World) (setup : Setup) (connect : Connector ρ) : Dispatcher ρ :=
  ofKey (setup.key? w) setup.endpoint? connect

/-- The effects and the dispatcher of a binding with a key, if there is one. -/
structure Binds (key endpoint : Option String) (connect : Connector ρ)
    (result : List (Effect ρ) × Dispatcher ρ) : Prop where
  /-- The dispatcher is the one that the key leads to. -/
  dispatcher : result.2 = ofKey key endpoint connect
  /-- Nothing is sent. -/
  deliveries : deliveries result.1 = []
  /-- A reporter is asked for once if there is a key, and else never. -/
  requests : requests result.1 = key.toList.map (·, endpoint)

theorem bind_binds (source : KeySource) (endpoint : Option String) (connect : Connector ρ) :
    Binds source.usableKey endpoint connect (bind source endpoint connect) := by
  unfold bind
  cases source.usableKey with
  | none => exact ⟨rfl, rfl, rfl⟩
  | some key =>
    cases hconnect : connect key endpoint with
    | ok r =>
      constructor
      · simp [hconnect, ofKey]
      · simp [hconnect, Effect.deliveries]
      · simp [hconnect, Effect.requests]
    | error fault =>
      constructor
      · simp [hconnect, ofKey]
      · simp [hconnect, Effect.deliveries]
      · simp [hconnect, Effect.requests]

theorem bindSettings_binds (w : World) (s : Settings) (connect : Connector ρ) :
    Binds (Setup.key? w (.settings s)) (some s.endpoint) connect (bindSettings w s connect) := by
  by_cases henabled : s.enabled
  · cases hkey : (KeySource.settings s).usableKey with
    | some key =>
      have hbinds := bind_binds (.settings s) (some s.endpoint) connect
      rw [hkey] at hbinds
      simpa [bindSettings, Setup.key?, henabled, hkey] using hbinds
    | none =>
      cases hmanifest : s.manifest with
      | none =>
        simp only [bindSettings, Setup.key?, henabled, hkey, hmanifest]
        exact ⟨rfl, rfl, rfl⟩
      | some path =>
        cases hload : Manifest.load w path with
        | error fault =>
          simp only [bindSettings, Setup.key?, henabled, hkey, hmanifest, hload]
          exact ⟨by simp [ofKey, hload], rfl, by simp [hload, Effect.requests]⟩
        | ok m =>
          obtain ⟨hd, hdeliveries, hrequests⟩ := bind_binds (.manifest m) (some s.endpoint) connect
          simp only [bindSettings, Setup.key?, henabled, hkey, hmanifest, hload]
          refine ⟨?_, hdeliveries, ?_⟩
          · simpa [hload] using hd
          · simpa [hload, Effect.requests] using hrequests
  · simp only [bindSettings, Setup.key?, henabled]
    exact ⟨rfl, rfl, rfl⟩

/-- Binding leads to the outcome of a setup. -/
theorem bindSetup_binds (w : World) (setup : Setup) (connect : Connector ρ) :
    Binds (setup.key? w) setup.endpoint? connect (bindSetup w setup connect) := by
  cases setup with
  | key source => exact bind_binds source none connect
  | settings s => exact bindSettings_binds w s connect

/-- What an emission through a bound dispatcher does. -/
theorem emit_active (r : ρ) (e : Emission) :
    (active r).emit e = [.delivered r e.flat, .logged (sent e.flat)] := by
  simp only [emit, e.wire_eq_flat]

/-- An emission is sent in its flat form to the reporter, if there is one. -/
theorem deliveries_emit (d : Dispatcher ρ) (e : Emission) :
    deliveries (d.emit e) = d.reporter?.toList.map (·, e.flat) := by
  cases d with
  | active r =>
    rw [emit_active]
    rfl
  | _ => rfl

/-- The startup event is sent to the reporter, if there is one. -/
theorem deliveries_announce (d : Dispatcher ρ) :
    deliveries d.announce = d.reporter?.toList.map (·, .startup) := by
  cases d with
  | active r => exact deliveries_emit (.active r) .startup
  | _ => rfl

/-- An emission asks for no reporter. -/
theorem requests_emit (d : Dispatcher ρ) (e : Emission) : requests (d.emit e) = [] := by
  cases d with
  | active r =>
    rw [emit_active]
    rfl
  | _ => rfl

theorem requests_announce (d : Dispatcher ρ) : requests d.announce = [] := by
  cases d with
  | active r => exact requests_emit (.active r) .startup
  | _ => rfl

/-- A dispatcher that is set up is the outcome of the setup. -/
theorem setUp_snd (w : World) (setup : Setup) (connect : Connector ρ) :
    (setUp w setup connect).2 = outcome w setup connect :=
  (bindSetup_binds w setup connect).dispatcher

/-- Setting up sends the startup event to the reporter of the outcome, and nothing else. -/
theorem deliveries_setUp (w : World) (setup : Setup) (connect : Connector ρ) :
    deliveries (setUp w setup connect).1 =
      (outcome w setup connect).reporter?.toList.map (·, .startup) := by
  have hbinds := bindSetup_binds w setup connect
  rw [setUp, Effect.deliveries_append, hbinds.deliveries, List.nil_append, hbinds.dispatcher,
    deliveries_announce, outcome]

/-- Setting up asks for a reporter once if there is a key, and else never. -/
theorem requests_setUp (w : World) (setup : Setup) (connect : Connector ρ) :
    requests (setUp w setup connect).1 = (setup.key? w).toList.map (·, setup.endpoint?) := by
  rw [setUp, Effect.requests_append, (bindSetup_binds w setup connect).requests, requests_announce,
    List.append_nil]

/-- A setup leads to a bound dispatcher exactly if it gives a key and a reporter is connected. -/
theorem outcome_active_iff {w : World} {setup : Setup} {connect : Connector ρ} {r : ρ} :
    outcome w setup connect = .active r ↔
      ∃ key, setup.key? w = some key ∧ connect key setup.endpoint? = .ok r := by
  unfold outcome ofKey
  cases setup.key? w with
  | none => simp
  | some key => cases h : connect key setup.endpoint? <;> simp [h]

/-- What is set up without a reporter is disabled. -/
theorem outcome_cases (w : World) (setup : Setup) (connect : Connector ρ) :
    outcome w setup connect = .disabled ∨ ∃ r, outcome w setup connect = .active r := by
  unfold outcome ofKey
  cases setup.key? w with
  | none => exact .inl rfl
  | some key => cases h : connect key setup.endpoint? <;> simp [h]

/-- What is set up is not uninitialized any more. -/
theorem outcome_state (w : World) (setup : Setup) (connect : Connector ρ) :
    (outcome w setup connect).state ≠ .uninitialized := by
  rcases outcome_cases w setup connect with h | ⟨r, h⟩ <;> rw [h] <;> exact nofun

end Dispatcher

end TelemetryGate
