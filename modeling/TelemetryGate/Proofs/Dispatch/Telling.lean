import TelemetryGate.Proofs.Dispatch.Selection
import TelemetryGate.Proofs.Wire.Reading
import TelemetryGate.Reporting.Http

/-!
# What is logged and posted of an emission

A dispatcher tells each emission in one record. If it is bound to a reporter, then the texts in the
record, the text of the event itself and the text of its envelope are read as what the reporter is
sent; else the record names the event that is dropped.
-/

namespace TelemetryGate

open Effect (deliveries records)
open Json (Value)

/-- The JSON value of a text, with numbers rounded to the nearest double. -/
def Json.readNearest (source : String) : Option Value :=
  (Value.ofTextBy Numeral.nearest source).toOption

/-- A record of an event that is dropped: it names the event. -/
structure Log.Record.TellsDropped (record : Log.Record) (event : EventName) : Prop where
  /-- The level of the record. -/
  level : record.level = .trace
  /-- What it says. -/
  message : record.message = "telemetry reporter not initialized; dropping event"
  /-- The name is its only field. -/
  fields : record.fields = [("event", .quoted event.wireName)]

/-- A record of an event that was sent: it names the event, and the texts of its other fields are
read as the two maps. -/
structure Log.Record.TellsSent (record : Log.Record) (w : WireEvent) : Prop where
  /-- The level of the record. -/
  level : record.level = .debug
  /-- What it says. -/
  message : record.message = "sent telemetry event"
  /-- There are three fields. -/
  fields : ∃ properties measurements, record.fields =
      [("event", .quoted w.name), ("properties", .shown properties),
        ("measurements", .shown measurements)] ∧
    (Json.readNearest properties).bind (Value.entries? Value.text?) = some w.properties ∧
    (Json.readNearest measurements).bind (Value.entries? Value.double?) = some w.measurements

/-- The texts of a wire event, alone and in an envelope, are read as the event. -/
structure WireEvent.ReadsBack (w : WireEvent) : Prop where
  /-- The text of the event is read as a value that holds it. -/
  text : ∃ v, Json.readNearest w.json.render = some v ∧ w.HeldBy v
  /-- The text of an envelope is read as a value that holds the event and the key that the reporter
  was connected with. -/
  envelope : ∀ (runtime : Bool) (unbuilt : Option String) (key endpoint : String)
    (r : HttpReporter), HttpReporter.connect runtime key endpoint unbuilt = .ok r → ∀ time,
      ∃ v data, Json.readNearest (r.envelope time w).render = some v ∧
        v.at? ["data", "baseData"] = some data ∧ w.HeldBy data ∧
          (v.at? ["iKey"]).bind Value.text? = some key

/-- A reporter is made with the key for the endpoint, if something runs and a client is built. -/
theorem HttpReporter.connect_eq_ok_iff {runtime : Bool} {unbuilt : Option String}
    {key endpoint : String} {r : HttpReporter} : connect runtime key endpoint unbuilt = .ok r ↔
      runtime = true ∧ unbuilt = none ∧ ⟨key, endpoint⟩ = r := by
  cases runtime <;> cases unbuilt <;> simp [connect]

theorem Json.readNearest_render {written read : Value}
    (h : Json.Reader.ReadsAsBy Json.Numeral.nearest 128 written read) :
    Json.readNearest written.render = some read := by
  rw [readNearest, Value.ofTextBy_render h]
  rfl

namespace WireEvent

variable {w : WireEvent}

/-- The record of an event that was sent tells it. -/
theorem Proper.tellsSent (hw : w.Proper) : (Dispatcher.sent w).TellsSent w where
  level := rfl
  message := rfl
  fields := by
    obtain ⟨hproperties, hmeasurements⟩ := hw.readsAs_maps 126
    refine ⟨_, _, rfl, ?_, ?_⟩
    · rw [Json.readNearest_render hproperties]
      exact Value.entries?_ofTexts w.properties
    · rw [Json.readNearest_render hmeasurements]
      exact Value.entries?_ofNumbers hw.finite

open Json.Reader (ReadsAsBy readsAs_text readsAs_int readsAs_rising)

/-- The text of an envelope is read as it is, for its members are in the order of their keys. -/
theorem Proper.readNearest_envelope (hw : w.Proper) (r : HttpReporter) (time : String) :
    Json.readNearest (r.envelope time w).render = some (r.envelope time w) := by
  have hinner : ["measurements", "name", "properties", "ver"].Pairwise (· < ·) := by decide
  have hmiddle : ["baseData", "baseType"].Pairwise (· < ·) := by decide
  have houter : ["data", "iKey", "name", "time"].Pairwise (· < ·) := by decide
  obtain ⟨hproperties, hmeasurements⟩ := hw.readsAs_maps 123
  have hbase : ReadsAsBy Json.Numeral.nearest 126 (.object (w.members ++ [("ver", .int 2)]))
      (.object (w.members ++ [("ver", .int 2)])) := by
    refine readsAs_rising (Entries.rising_of_keys hinner) ?_
    simp only [members, List.cons_append, List.nil_append, List.forall_mem_cons]
    exact ⟨hmeasurements, readsAs_text _ _, hproperties, readsAs_int _ 2, List.forall_mem_nil _⟩
  have hdata : ReadsAsBy Json.Numeral.nearest 127
      (.object [("baseData", .object (w.members ++ [("ver", .int 2)])),
        ("baseType", .text "EventData")])
      (.object [("baseData", .object (w.members ++ [("ver", .int 2)])),
        ("baseType", .text "EventData")]) := by
    refine readsAs_rising (Entries.rising_of_keys hmiddle) ?_
    simp only [List.forall_mem_cons]
    exact ⟨hbase, readsAs_text _ _, List.forall_mem_nil _⟩
  apply Json.readNearest_render
  refine readsAs_rising (Entries.rising_of_keys houter) ?_
  simp only [List.forall_mem_cons]
  exact ⟨hdata, readsAs_text _ _, readsAs_text _ _, readsAs_text _ _, List.forall_mem_nil _⟩

/-- The texts of a wire event, alone and in an envelope, are read as the event. -/
theorem Proper.readsBack (hw : w.Proper) : w.ReadsBack where
  text := by
    refine ⟨.object w.members, ?_, by simpa using hw.heldBy []⟩
    rw [Json.readNearest, hw.ofText_json]
    rfl
  envelope := by
    intro runtime unbuilt key endpoint r hr time
    obtain ⟨-, -, rfl⟩ := HttpReporter.connect_eq_ok_iff.mp hr
    exact ⟨_, _, hw.readNearest_envelope _ time, rfl, hw.heldBy [("ver", .int 2)], rfl⟩

end WireEvent

/-- What an emission does, it tells: it is told in one record, and the texts of what was sent, in the
record and in what is posted, are read as what the reporter was sent. -/
theorem Dispatcher.emit_tells {ρ : Type} (d : Dispatcher ρ) (e : Emission) :
    ∃ record, records (d.emit e) = [record] ∧
      match d.reporter? with
      | none => deliveries (d.emit e) = [] ∧ record.TellsDropped e.event
      | some r => ∃ w, deliveries (d.emit e) = [(r, w)] ∧ record.TellsSent w ∧ w.ReadsBack := by
  refine ⟨d.told e, d.records_emit e, ?_⟩
  cases d with
  | uninitialized => exact ⟨rfl, rfl, rfl, rfl⟩
  | disabled => exact ⟨rfl, rfl, rfl, rfl⟩
  | active r =>
    have hproper := e.proper_flat
    refine ⟨e.flat, ?_, hproper.tellsSent, hproper.readsBack⟩
    rw [emit_active]
    rfl

end TelemetryGate
