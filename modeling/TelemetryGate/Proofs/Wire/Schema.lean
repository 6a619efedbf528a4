import TelemetryGate.Proofs.Dispatch.Binding
import TelemetryGate.Proofs.Wire.Fidelity

/-!
# Wire events and the schemas of their events

A wire event has only properties that its event declares, and all of those that are required. Its
measurements are declared too, and all are required, but one whose number is not finite is missing
from the wire event. So a wire event fits the schema of its event exactly if the payload has finite
numbers only.
-/

namespace TelemetryGate

/-- A wire event fits a schema: its properties are declared and none that is required is missing, and
its measurements are those that are declared, which are required numbers. -/
structure WireEvent.Fits (w : WireEvent) (schema : EventSchema) : Prop where
  /-- Every property is declared. -/
  declared : ∀ key ∈ w.properties.keys, ∃ f ∈ schema.properties, f.name = key
  /-- No required property is missing. -/
  required : ∀ f ∈ schema.properties, f.required = true → f.name ∈ w.properties.keys
  /-- The measurements are the declared ones. -/
  measurements : ∀ key, key ∈ w.measurements.keys ↔ ∃ f ∈ schema.measurements, f.name = key
  /-- Declared measurements are required numbers. -/
  numbers : ∀ f ∈ schema.measurements, f.required = true ∧ f.kind = .number

/-- All numbers of a payload are finite. -/
def Measurements.AllFinite {shape : MeasurementShape} (m : Measurements shape) : Prop :=
  ∀ q ∈ m.quantities, q.2.isFinite = true

instance {shape : MeasurementShape} (m : Measurements shape) : Decidable m.AllFinite :=
  inferInstanceAs (Decidable (∀ q ∈ m.quantities, q.2.isFinite = true))

/-- Every shape declares its measurements as required numbers. -/
theorem MeasurementShape.required_number (shape : MeasurementShape) :
    ∀ f ∈ shape.fields, f.required = true ∧ f.kind = .number := by
  cases shape <;> simp [fields]

/-- A payload has one quantity for each declared measurement. -/
theorem Measurements.exists_quantity_iff {shape : MeasurementShape} (m : Measurements shape)
    {key : String} : (∃ q, (key, q) ∈ m.quantities) ↔ ∃ f ∈ shape.fields, f.name = key := by
  have hnames : key ∈ m.quantities.map (·.1) ↔ key ∈ shape.fields.map (·.name) := by
    rw [m.names_quantities]
  simpa [List.mem_map] using hnames

/-- The quantity under a key is the only one there. -/
theorem Measurements.quantity_unique {shape : MeasurementShape} (m : Measurements shape)
    {key : String} {q q' : Quantity} (h : (key, q) ∈ m.quantities) (h' : (key, q') ∈ m.quantities) :
    q = q' := by
  have hget := (Entries.get?_ofList_eq_some_iff m.nodup_quantities).mpr h
  have hget' := (Entries.get?_ofList_eq_some_iff m.nodup_quantities).mpr h'
  exact Option.some.inj (hget.symm.trans hget')

/-- The measurements of a wire event that tells a payload are all declared ones exactly if all
numbers of the payload are finite. -/
theorem WireEvent.Carries.measurements_iff {w : WireEvent} {e : Emission} (h : w.Carries e) :
    (∀ key, key ∈ w.measurements.keys ↔ ∃ f ∈ e.event.measurementShape.fields, f.name = key) ↔
      e.measurements.AllFinite := by
  simp only [h.measurements_keys, ← e.measurements.exists_quantity_iff]
  constructor
  · rintro hkeys ⟨key, q⟩ hq
    obtain ⟨q', hq', hfinite⟩ := (hkeys key).mpr ⟨q, hq⟩
    rwa [e.measurements.quantity_unique hq hq']
  · intro hall key
    exact ⟨fun ⟨q, hq, _⟩ => ⟨q, hq⟩, fun ⟨q, hq⟩ => ⟨q, hq, hall _ hq⟩⟩

/-- The properties of a wire event that tells a payload are declared. -/
theorem WireEvent.Carries.declared {w : WireEvent} {e : Emission} (h : w.Carries e) :
    ∀ key ∈ w.properties.keys, ∃ f ∈ e.event.schema.properties, f.name = key := by
  intro key hkey
  obtain ⟨f, hf, hname, -⟩ := (h.properties_keys key).mp hkey
  exact ⟨f, hf, hname⟩

/-- No required property is missing from a wire event that tells a payload. -/
theorem WireEvent.Carries.required {w : WireEvent} {e : Emission} (h : w.Carries e) :
    ∀ f ∈ e.event.schema.properties, f.required = true → f.name ∈ w.properties.keys :=
  fun f hf hrequired => (h.properties_keys f.name).mpr ⟨f, hf, rfl, .inl hrequired⟩

/-- The flat form of an emission fits the schema of its event exactly if all numbers of the payload
are finite. -/
theorem Emission.flat_fits_iff (e : Emission) :
    e.flat.Fits e.event.schema ↔ e.measurements.AllFinite := by
  have hcarries := e.carries_flat
  constructor
  · intro h
    exact hcarries.measurements_iff.mp h.measurements
  · intro hfinite
    exact ⟨hcarries.declared, hcarries.required, hcarries.measurements_iff.mpr hfinite,
      e.event.measurementShape.required_number⟩

/-- Every emission has a wire event, which is what the reporter of a bound dispatcher is sent. Its
properties always fit the schema of the event, its measurements are the declared ones with a finite
number, and the whole wire event fits exactly if all numbers of the payload are finite. -/
theorem Emission.wire_fits_iff (e : Emission) : ∃ w, e.wire = .ok w ∧
    (∀ (ρ : Type) (r : ρ), Effect.deliveries ((Dispatcher.active r).emit e) = [(r, w)]) ∧
    (∀ key ∈ w.properties.keys, ∃ f ∈ e.event.schema.properties, f.name = key) ∧
    (∀ f ∈ e.event.schema.properties, f.required = true → f.name ∈ w.properties.keys) ∧
    (∀ key, key ∈ w.measurements.keys ↔
      (∃ f ∈ e.event.schema.measurements, f.name = key ∧ f.required = true ∧ f.kind = .number) ∧
        ∃ q, (key, q) ∈ e.measurements.quantities ∧ q.isFinite = true) ∧
    (w.Fits e.event.schema ↔ e.measurements.AllFinite) := by
  have hcarries := e.carries_flat
  refine ⟨e.flat, e.wire_eq_flat, fun ρ r => ?_, hcarries.declared, hcarries.required, fun key => ?_,
    e.flat_fits_iff⟩
  · rw [Dispatcher.deliveries_emit]
    rfl
  · rw [hcarries.measurements_keys]
    constructor
    · rintro ⟨q, hq, hfinite⟩
      obtain ⟨f, hf, hname⟩ := e.measurements.exists_quantity_iff.mp ⟨q, hq⟩
      exact ⟨⟨f, hf, hname, e.event.measurementShape.required_number f hf⟩, q, hq, hfinite⟩
    · rintro ⟨-, hfinite⟩
      exact hfinite

/-- The start of a language service that took a time which is not a number. -/
def unmeasuredStart : Emission := ⟨.loadLanguageService, .empty, .languageService (.quietNaN false)⟩

/-- Not every wire event fits the schema of its event: a time that is not a number is required, and
yet it is missing. -/
theorem Emission.not_wire_fits : ¬ ∀ e : Emission, ∃ w, e.wire = .ok w ∧ w.Fits e.event.schema := by
  intro h
  obtain ⟨w, hwire, hfits⟩ := h unmeasuredStart
  rw [wire_eq_flat] at hwire
  obtain rfl := Except.ok.inj hwire
  exact absurd (unmeasuredStart.flat_fits_iff.mp hfits) (by decide)

end TelemetryGate
