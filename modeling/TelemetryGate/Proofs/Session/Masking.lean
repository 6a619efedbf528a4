import TelemetryGate.Proofs.Session.Posting

/-!
# Keys in a session

The key that dispatchers are set up with goes to connectors, to reporters in memory and into posted
envelopes, and nowhere else. To say so, every key in these places is masked: what a session with one
key does is, masked, what the masked session does with the masking key.
-/

namespace TelemetryGate

/-- What stands in the place of every key that is masked. -/
def maskingKey : String := "key"

theorem trim_maskingKey : Text.trim maskingKey = maskingKey := by decide +kernel

/-! ## Masking -/

/-- The reporter with its key masked. -/
def HttpReporter.masked (r : HttpReporter) : HttpReporter := { r with key := maskingKey }

/-- The reporter with the key that it was connected with masked. -/
def MemoryReporter.masked (r : MemoryReporter) : MemoryReporter :=
  { r with key := r.key.map fun _ => maskingKey }

/-- The reporter with its key masked. -/
def Reporter.masked : Reporter → Reporter
  | .memory number => .memory number
  | .http r => .http r.masked
  | .held handle inner => .held handle inner.masked

/-- The dispatcher with the key of its reporter masked. -/
def Dispatcher.masked : Dispatcher Reporter → Dispatcher Reporter
  | .active r => .active r.masked
  | d => d

/-- The effect with keys masked. -/
def Effect.masked : Effect Reporter → Effect Reporter
  | .connected _ endpoint => .connected maskingKey endpoint
  | .delivered r event => .delivered r.masked event
  | effect => effect

/-- The document with the key of its envelope masked. -/
def Json.Value.masked : Json.Value → Json.Value
  | .object members =>
    .object (members.map fun m => if m.1 = "iKey" then (m.1, .text maskingKey) else m)
  | v => v

/-- The request with the key of its envelope masked. -/
def Request.masked (r : Request) : Request := { r with body := r.body.masked }

namespace Session

/-- What a connector was asked for, with the key masked. -/
def Asked.masked (asked : Asked) : Asked := asked.map fun a => (maskingKey, a.2)

/-- The answer with keys masked. -/
def Answer.masked : Answer → Answer
  | .started state asked => .started state (Asked.masked asked)
  | .refused fault asked => .refused fault (Asked.masked asked)
  | .reporter r => .reporter (r.map MemoryReporter.masked)
  | answer => answer

/-- The row with keys masked. -/
def Row.masked (row : Row) : Row :=
  { row with answer := Answer.masked row.answer, requests := row.requests.map Request.masked }

/-- The session with keys masked. -/
def masked (s : Session) : Session :=
  { s with
    dispatchers := s.dispatchers.mapValues Dispatcher.masked
    slot := ⟨s.slot.held.map Dispatcher.masked⟩
    memories := s.memories.map MemoryReporter.masked }

end Session

/-- The setup with a key in the place of its own source or of the key of its settings. -/
def Setup.withKey (key : String) : Setup → Setup
  | .key _ => .key (.text key)
  | .settings s => .settings { s with instrumentationKey := some key }

/-- The step with a key in the place of that of a setup. -/
def Step.withKey (key : String) : Step → Step
  | .setUp place setup connection => .setUp place (setup.withKey key) connection
  | st => st

/-! ## Dispatchers -/

theorem Reporter.receiver_masked (r : Reporter) : r.masked.receiver = r.receiver.masked := by
  induction r with
  | held handle inner ih => exact ih
  | _ => rfl

namespace Dispatcher

theorem state_masked (d : Dispatcher Reporter) : d.masked.state = d.state := by
  cases d <;> rfl

theorem look_masked (d : Dispatcher Reporter) : d.masked.look = d.look :=
  congrArg Look.mk d.state_masked

theorem emit_masked (d : Dispatcher Reporter) (e : Emission) :
    d.masked.emit e = (d.emit e).map Effect.masked := by
  cases d with
  | active r =>
    rw [masked, emit_active, emit_active]
    rfl
  | _ => rfl

theorem announce_masked (d : Dispatcher Reporter) :
    d.masked.announce = d.announce.map Effect.masked := by
  cases d with
  | active r => exact emit_masked (.active r) .startup
  | _ => rfl

variable {connect connect' : Connector Reporter} {endpoint : Option String}

/-- Binding under a key is, masked, binding under the masking key. -/
theorem bind_masked {source source' : KeySource} {key : String}
    (hkey : source.usableKey = some key) (hkey' : source'.usableKey = some maskingKey)
    (hconnect : connect' maskingKey endpoint = (connect key endpoint).map Reporter.masked) :
    bind source' endpoint connect' =
      (bind source endpoint connect).map (List.map Effect.masked) masked := by
  rw [bind, bind, hkey, hkey']
  simp only [hconnect]
  cases connect key endpoint <;> rfl

/-- A setup with a key is, masked, the setup with the masking key. -/
theorem bindSetup_masked (w : World) (setup : Setup) {key : String} (hkey : Text.trim key ≠ "")
    (hconnect : ∀ endpoint, connect' maskingKey endpoint =
      (connect (Text.trim key) endpoint).map Reporter.masked) :
    bindSetup w (setup.withKey maskingKey) connect' =
      (bindSetup w (setup.withKey key) connect).map (List.map Effect.masked) masked := by
  have husable (source : KeySource) (h : source.held = some key) :
      source.usableKey = some (Text.trim key) :=
    KeySource.usableKey_eq_some_iff.mpr ⟨key, h, rfl, hkey⟩
  have hmasking (source : KeySource) (h : source.held = some maskingKey) :
      source.usableKey = some maskingKey :=
    KeySource.usableKey_eq_some_iff.mpr ⟨maskingKey, h, trim_maskingKey, by decide⟩
  cases setup with
  | key source =>
    exact bind_masked (husable (.text key) rfl) (hmasking (.text maskingKey) rfl) (hconnect none)
  | settings s =>
    have hown := husable (.settings { s with instrumentationKey := some key }) rfl
    have hmasked := hmasking (.settings { s with instrumentationKey := some maskingKey }) rfl
    have hbind := bind_masked hown hmasked (hconnect (some s.endpoint))
    simp only [Setup.withKey, bindSetup, bindSettings, hown, hmasked]
    cases s.enabled with
    | false => rfl
    | true => exact hbind

theorem setUp_masked (w : World) (setup : Setup) {key : String} (hkey : Text.trim key ≠ "")
    (hconnect : ∀ endpoint, connect' maskingKey endpoint =
      (connect (Text.trim key) endpoint).map Reporter.masked) :
    setUp w (setup.withKey maskingKey) connect' =
      (setUp w (setup.withKey key) connect).map (List.map Effect.masked) masked := by
  have hbind := bindSetup_masked w setup hkey hconnect
  simp only [setUp, hbind, Prod.map, announce_masked, List.map_append]

end Dispatcher

/-! ## Requests -/

namespace HttpReporter

theorem envelope_masked (r : HttpReporter) (time : String) (event : WireEvent) :
    r.masked.envelope time event = (r.envelope time event).masked := by
  simp [envelope, Json.Value.masked, masked]

theorem deliver_masked (r : HttpReporter) (network : Network) (before : Nat) (time : String)
    (event : WireEvent) : r.masked.deliver network before time event =
      (r.deliver network before time event).map (Option.map Request.masked) id := by
  have hendpoint : r.masked.endpoint = r.endpoint := rfl
  simp only [deliver, hendpoint, envelope_masked]
  split <;> rfl

end HttpReporter

namespace Session

/-! ## Effects -/

theorem sentOf_masked (effects : List (Effect Reporter)) :
    sentOf (effects.map Effect.masked) = (sentOf effects).map fun p => (p.1.masked, p.2) := by
  rw [sentOf, List.filterMap_map, sentOf, List.map_filterMap]
  congr 1
  funext effect
  cases effect with
  | delivered r event => exact congrArg (fun receiver => some (receiver, event)) r.receiver_masked
  | _ => rfl

theorem receivedOf_masked (effects : List (Effect Reporter)) :
    receivedOf (effects.map Effect.masked) = receivedOf effects := by
  rw [receivedOf, sentOf_masked, List.filterMap_map, receivedOf]
  congr 1
  funext p
  obtain ⟨r, event⟩ := p
  cases r <;> rfl

theorem postsOf_masked (effects : List (Effect Reporter)) :
    postsOf (effects.map Effect.masked) =
      (postsOf effects).map fun p => (p.1.masked, p.2) := by
  rw [postsOf, sentOf_masked, List.filterMap_map, postsOf, List.map_filterMap]
  congr 1
  funext p
  obtain ⟨r, event⟩ := p
  cases r <;> rfl

theorem recordsOf_masked (effects : List (Effect Reporter)) :
    recordsOf (effects.map Effect.masked) = recordsOf effects := by
  rw [recordsOf, List.filterMap_map, recordsOf]
  congr 1
  funext effect
  cases effect <;> rfl

theorem askedOf_masked (effects : List (Effect Reporter)) :
    askedOf (effects.map Effect.masked) = Asked.masked (askedOf effects) := by
  induction effects with
  | nil => rfl
  | cons effect rest ih =>
    cases effect with
    | connected key endpoint => rfl
    | _ => exact ih

/-- Of a request only the key in its envelope is masked, and no record tells the key. -/
theorem deliver_masked (c : Circumstances) (before : Nat)
    (posts : List (HttpReporter × WireEvent)) :
    deliver c before (posts.map fun p => (p.1.masked, p.2)) =
      (deliver c before posts).map (List.map Request.masked) id := by
  induction posts generalizing before with
  | nil => rfl
  | cons p rest ih =>
    obtain ⟨r, event⟩ := p
    simp only [List.map_cons, deliver, HttpReporter.deliver_masked, Prod.map, Option.toList_map,
      List.length_map, List.map_append, ih, id]

/-- What reporters in memory receive does not depend on their keys. -/
theorem masked_store (memories : List MemoryReporter) (received : List (Nat × WireEvent)) :
    received.foldl store (memories.map MemoryReporter.masked) =
      (received.foldl store memories).map MemoryReporter.masked := by
  induction received generalizing memories with
  | nil => rfl
  | cons r rest ih =>
    have hstore : store (memories.map MemoryReporter.masked) r =
        (store memories r).map MemoryReporter.masked := by
      refine List.ext_getElem? fun number => ?_
      simp only [store, List.getElem?_modify, List.getElem?_map]
      cases memories[number]? with
      | none => rfl
      | some memory =>
        by_cases hnumber : r.1 = number <;> simp [hnumber, MemoryReporter.masked,
          MemoryReporter.send]
    rw [List.foldl_cons, List.foldl_cons, hstore, ih]

theorem masked_perform (s : Session) (c : Circumstances) (effects : List (Effect Reporter))
    (answer : Answer) : s.masked.perform c (effects.map Effect.masked) (Answer.masked answer) =
      (s.perform c effects answer).map masked Row.masked := by
  have hposted : s.masked.posted = s.posted := rfl
  have hmemories : s.masked.memories = s.memories.map MemoryReporter.masked := rfl
  simp only [perform, receivedOf_masked, postsOf_masked, recordsOf_masked, foldl_receive, report,
    hposted, hmemories, masked_store, deliver_masked, Prod.map, List.length_map]
  cases c.captured <;> rfl

/-! ## Steps -/

theorem length_masked (s : Session) : s.masked.memories.length = s.memories.length :=
  List.length_map _

theorem numberOf_masked (s : Session) (name : String) :
    s.masked.numberOf name = s.numberOf name := by
  rw [numberOf, length_masked]
  rfl

theorem dispatcherAt_masked (s : Session) (place : Place) :
    s.masked.dispatcherAt place = (s.dispatcherAt place).masked := by
  cases place with
  | slot =>
    obtain ⟨host, dispatchers, ⟨held⟩, memories, names, posted⟩ := s
    cases held <;> rfl
  | named name =>
    simp only [dispatcherAt, dispatcherOf, masked, Entries.get?_mapValues]
    cases s.dispatchers.get? name <;> rfl

/-- A connector makes, masked, what it makes of the masking key. -/
theorem connector_masked (s : Session) (c : Circumstances) (connection : Connection)
    (key : String) (endpoint : Option String) :
    s.masked.connector c connection maskingKey endpoint =
      (s.connector c connection key endpoint).map Reporter.masked := by
  induction connection with
  | shared name =>
    simp only [connector, numberOf_masked]
    rfl
  | keyed name =>
    simp only [connector, length_masked]
    rfl
  | http other =>
    simp only [connector, HttpReporter.connect]
    cases c.runtime <;> cases c.unbuilt <;> rfl
  | failing fault => rfl
  | held handle inner ih =>
    simp only [connector, ih]
    cases s.connector c inner key endpoint <;> rfl

theorem masked_addMemory (s : Session) (name : String) (key : Option String) :
    (s.addMemory name key).masked = s.masked.addMemory name (key.map fun _ => maskingKey) := by
  simp only [addMemory, length_masked]
  simp only [masked, List.map_append]
  rfl

theorem masked_withMemory (s : Session) (name : String) :
    (s.withMemory name).masked = s.masked.withMemory name := by
  have hnames : s.masked.names = s.names := rfl
  simp only [withMemory, hnames]
  split
  · rfl
  · exact s.masked_addMemory name none

theorem masked_afterAsked (s : Session) (connection : Connection) (asked : Asked) :
    (s.afterAsked connection asked).masked =
      s.masked.afterAsked connection (Asked.masked asked) := by
  cases asked with
  | none => rw [afterAsked_none, Asked.masked, Option.map_none, afterAsked_none]
  | some a =>
    induction connection with
    | shared name => exact s.masked_withMemory name
    | keyed name => exact s.masked_addMemory name _
    | held handle inner ih => exact ih
    | _ => rfl

theorem masked_putDispatcher (s : Session) (name : String) (d : Dispatcher Reporter) :
    ({ s with dispatchers := s.dispatchers.put name d } : Session).masked =
      { s.masked with dispatchers := s.masked.dispatchers.put name d.masked } := by
  simp only [masked, Entries.put_mapValues]

/-- A setup with a key is, masked, the setup of the masked session with the masking key. -/
theorem setUp_masked (s : Session) (c : Circumstances) (place : Place) (setup : Setup)
    (connection : Connection) {key : String} (hkey : Text.trim key ≠ "") :
    s.masked.setUp c place (setup.withKey maskingKey) connection =
      (s.setUp c place (setup.withKey key) connection).map masked Row.masked := by
  have hsetUp := Dispatcher.setUp_masked s.host.world setup hkey
    (s.connector_masked c connection (Text.trim key))
  have hhost : s.masked.host = s.host := rfl
  cases place with
  | named name =>
    simp only [setUp, hhost, hsetUp, Prod.map, askedOf_masked, ← masked_afterAsked,
      Dispatcher.state_masked, ← masked_putDispatcher]
    exact masked_perform _ c _ (.started _ _)
  | slot =>
    have hheld : s.masked.slot.held = s.slot.held.map Dispatcher.masked := rfl
    cases hslot : s.slot.held with
    | some d =>
      rw [hslot] at hheld
      rw [setUp_of_held hslot, setUp_of_held hheld]
      rfl
    | none =>
      rw [hslot] at hheld
      simp only [setUp, Slot.fill_of_empty hslot, Slot.fill_of_empty hheld, hhost, hsetUp, Prod.map,
        askedOf_masked, ← masked_afterAsked, Dispatcher.state_masked]
      exact masked_perform { s.afterAsked connection _ with slot := ⟨some _⟩ } c _ (.started _ _)

/-- A step with a key is, masked, the step of the masked session with the masking key. -/
theorem step_masked (s : Session) (c : Circumstances) (st : Step) {key : String}
    (hkey : Text.trim key ≠ "") : s.masked.step c (st.withKey maskingKey) =
      (s.step c (st.withKey key)).map masked Row.masked := by
  cases st with
  | setUp place setup connection => exact s.setUp_masked c place setup connection hkey
  | reset name =>
    simp only [Step.withKey, step, Prod.map, masked_putDispatcher]
    rfl
  | emit place e =>
    simp only [Step.withKey, step_emit, dispatcherAt_masked, Dispatcher.emit_masked]
    exact s.masked_perform c _ .done
  | send name event =>
    simp only [Step.withKey, step, ← masked_withMemory, numberOf_masked]
    exact (s.withMemory name).masked_perform c
      [.delivered (.memory ((s.withMemory name).numberOf name)) event] .done
  | report records =>
    have hperform := s.masked_perform c (records.map .logged) .done
    rw [List.map_map] at hperform
    exact hperform
  | look place =>
    simp only [Step.withKey, step_look, dispatcherAt_masked, Dispatcher.look_masked]
    rfl
  | inspect name =>
    have hmemory : s.masked.memory? name = (s.memory? name).map MemoryReporter.masked := by
      simp only [memory?, masked]
      cases s.names.get? name with
      | none => rfl
      | some number => exact List.getElem?_map
    simp only [Step.withKey, step, hmemory]
    rfl
  | setUpLog settings => rfl

/-- A run with a key is, masked, the run of the masked session with the masking key. -/
theorem run_masked (s : Session) (c : Circumstances) (steps : List Step) {key : String}
    (hkey : Text.trim key ≠ "") : s.masked.run c (steps.map (Step.withKey maskingKey)) =
      (s.run c (steps.map (Step.withKey key))).map masked (List.map Row.masked) := by
  induction steps generalizing s with
  | nil => rfl
  | cons st rest ih =>
    simp only [List.map_cons, run, step_masked s c st hkey, Prod.map, ih]

end Session

end TelemetryGate
