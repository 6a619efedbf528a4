import TelemetryGate.Proofs.Session.Masking

/-!
# Keys are kept secret

Two runs of a program that differ in the key which its dispatchers are set up with cannot be told
apart by what is reported, what is written to the log, what events are received, and how dispatchers
and reporters describe themselves. The key is seen where it has to be: by the connector, in the
reporter in memory that it was connected with, and in the envelopes that are posted.
-/

namespace TelemetryGate

theorem Reporter.http?_masked (r : Reporter) :
    r.masked.http? = r.http?.map HttpReporter.masked := by
  rw [http?, http?, receiver_masked]
  cases r.receiver <;> rfl

theorem Dispatcher.description_masked (d : Dispatcher Reporter) :
    d.masked.description = d.description := by
  rw [description, look_masked, description]

/-- The description of the reporter over HTTP that a dispatcher is bound to, if it is bound to
one. -/
def Dispatcher.httpDescription? (d : Dispatcher Reporter) : Option String :=
  (d.reporter?.bind Reporter.http?).map HttpReporter.description

theorem Dispatcher.httpDescription?_masked (d : Dispatcher Reporter) :
    d.masked.httpDescription? = d.httpDescription? := by
  cases d with
  | active r =>
    have hmasked : (active r).masked.reporter?.bind Reporter.http? =
        (r.http?).map HttpReporter.masked := r.http?_masked
    rw [httpDescription?, hmasked, Option.map_map]
    rfl
  | _ => rfl

namespace Session

/-- Two runs do and tell the same, and differ in nothing but keys. -/
structure SameButKeys (a b : Session × List Row) : Prop where
  /-- Step by step the same is reported. -/
  records : a.2.map (·.records) = b.2.map (·.records)
  /-- Step by step the same events are received. -/
  received : a.2.map (·.received) = b.2.map (·.received)
  /-- All that is shown is the same, when the keys that connectors were asked for, the keys of
  reporters and the keys in envelopes are masked. -/
  rows : a.2.map Row.masked = b.2.map Row.masked
  /-- The same was written to the log. -/
  host : a.1.host = b.1.host
  /-- Dispatchers are in the same states. -/
  states : ∀ place, (a.1.dispatcherAt place).state = (b.1.dispatcherAt place).state
  /-- Dispatchers describe themselves in the same words. -/
  descriptions : ∀ place,
    (a.1.dispatcherAt place).description = (b.1.dispatcherAt place).description
  /-- Reporters over HTTP describe themselves in the same words. -/
  httpDescriptions : ∀ place,
    (a.1.dispatcherAt place).httpDescription? = (b.1.dispatcherAt place).httpDescription?
  /-- Reporters in memory hold the same events. -/
  events : ∀ number, a.1.eventsOf number = b.1.eventsOf number
  /-- The sessions are the same when keys are masked. -/
  sessions : a.1.masked = b.1.masked

theorem eventsOf_masked (s : Session) (number : Nat) :
    s.masked.eventsOf number = s.eventsOf number := by
  simp only [eventsOf, masked, List.getElem?_map]
  cases s.memories[number]? <;> rfl

/-- Runs that are the same when keys are masked differ in nothing but keys. -/
theorem sameButKeys_of_masked {a b : Session × List Row}
    (h : a.map masked (List.map Row.masked) = b.map masked (List.map Row.masked)) :
    SameButKeys a b := by
  obtain ⟨hsession, hrows⟩ := Prod.ext_iff.mp h
  have hplace (place : Place) :
      (a.1.dispatcherAt place).masked = (b.1.dispatcherAt place).masked := by
    rw [← dispatcherAt_masked, ← dispatcherAt_masked]
    exact congrArg (·.dispatcherAt place) hsession
  have hshown {α : Type} (f : Row → α) (hf : ∀ row, f (Row.masked row) = f row) :
      a.2.map f = b.2.map f := by
    have hmapped := congrArg (List.map f) hrows
    simpa only [Prod.map, List.map_map, Function.comp_def, hf] using hmapped
  exact {
    records := hshown (·.records) fun _ => rfl
    received := hshown (·.received) fun _ => rfl
    rows := hrows
    host := congrArg (·.host) hsession
    states := fun place => by rw [← Dispatcher.state_masked, hplace, Dispatcher.state_masked]
    descriptions := fun place => by
      rw [← Dispatcher.description_masked, hplace, Dispatcher.description_masked]
    httpDescriptions := fun place => by
      rw [← Dispatcher.httpDescription?_masked, hplace, Dispatcher.httpDescription?_masked]
    events := fun number => by
      rw [← eventsOf_masked a.1, ← eventsOf_masked b.1]
      exact congrArg (·.eventsOf number) hsession
    sessions := hsession }

/-- A program does and tells the same with any usable key, whatever its steps are. -/
theorem sameButKeys_of_usable {key key' : String} (hkey : Text.trim key ≠ "")
    (hkey' : Text.trim key' ≠ "") (s : Session) (c : Circumstances) (steps : List Step) :
    SameButKeys (s.run c (steps.map (Step.withKey key)))
      (s.run c (steps.map (Step.withKey key'))) := by
  refine sameButKeys_of_masked ?_
  rw [← run_masked s c steps hkey, ← run_masked s c steps hkey']

/-- A program that keeps events in memory under its key, posts others to a server that rejects them,
and cannot connect a third reporter. -/
def keyedSteps : List Step :=
  let settings : Settings := .default []
  [.setUp (.named "memory") (.key (.text "")) (.keyed "r"),
    .setUp .slot (.settings settings) (.held .counted (.http "https://telemetry.example/track")),
    .setUp (.named "none") (.settings settings) (.failing (.reporter "offline")),
    .emit (.named "memory") ⟨.launch, .association "first", .empty⟩,
    .emit .slot ⟨.launch, .association "second", .empty⟩, .look .slot, .inspect "r"]

theorem sameButKeys_keyedSteps :
    let start : Session := { host := { world := ⟨.empty, [], []⟩ } }
    let c : Circumstances :=
      ⟨true, ⟨fun _ => true, fun _ => some ⟨403⟩, "offline"⟩, false, "now", none⟩
    Text.trim "alpha" ≠ "" ∧ Text.trim " beta " ≠ "" ∧
      SameButKeys (start.run c (keyedSteps.map (Step.withKey "alpha")))
        (start.run c (keyedSteps.map (Step.withKey " beta "))) :=
  ⟨by decide +kernel, by decide +kernel,
    sameButKeys_of_usable (by decide +kernel) (by decide +kernel) _ _ _⟩

end Session

end TelemetryGate
