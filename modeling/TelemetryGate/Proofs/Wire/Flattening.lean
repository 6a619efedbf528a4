import TelemetryGate.Proofs.Entries
import TelemetryGate.Wire.Event

/-!
# Flat forms of typed payloads

The payload of an emission has a flat form of its own: its texts under their names, and its
quantities under theirs. The conversion through free data and JSON values always succeeds and gives
just that form, whatever the texts and numbers are.
-/

namespace TelemetryGate

open Wire (Data jsonEntries)

/-- A number that a payload carries. -/
inductive Quantity where
  /-- A double. -/
  | real (x : Binary64)
  /-- A count. -/
  | count (n : UInt64)
  deriving DecidableEq, Repr

namespace Quantity

/-- Counts and finite doubles can be reported. -/
def isFinite : Quantity → Bool
  | .real x => x.isFinite
  | .count _ => true

/-- The double that is reported. -/
def number : Quantity → Binary64
  | .real x => x
  | .count n => .ofInt n.toNat

/-- The free data of a quantity. -/
def data : Quantity → Data
  | .real x => .float x
  | .count n => .int n.toNat

/-- The JSON value of a quantity. -/
def json : Quantity → Json.Value
  | .real x => .ofBinary64 x
  | .count n => .int n.toNat

/-- What is reported of a quantity. -/
def reported (q : Quantity) : Option Binary64 := if q.isFinite then some q.number else none

/-- Every quantity has a JSON value, for a count fits in a word. -/
theorem json_data (q : Quantity) : q.data.json = .ok q.json := by
  cases q with
  | real x => rfl
  | count n =>
    have hfits : fitsUnsigned n.toNat = true := by
      have := n.toNat_lt
      simp only [fitsUnsigned, Bool.and_eq_true, decide_eq_true_eq]
      exact ⟨by omega, by exact_mod_cast this⟩
    simp [data, Data.json, json, hfits]

end Quantity

/-- The texts that a payload carries: text fields as they are, enumerated ones as their words. A
reason that is absent is left out. -/
def Properties.texts {shape : PropertyShape} : Properties shape → List (String × String)
  | .empty => []
  | .association id => [("associationId", id)]
  | .debugSession id action => [("associationId", id), ("event", action.word)]
  | .openedDocument kind => [("documentType", kind.word)]
  | .flowEnd id status reason =>
    [("associationId", id), ("flowStatus", status.word)] ++ reason.toList.map (("reason", ·))
  | .failure id reason => ("associationId", id) :: reason.toList.map (("reason", ·))

/-- The quantities that a payload carries. -/
def Measurements.quantities {shape : MeasurementShape} :
    Measurements shape → List (String × Quantity)
  | .empty => []
  | .languageService t => [("timeToStartMs", .real t)]
  | .openedDocument n => [("linesOfCode", .count n)]
  | .completionList t n => [("timeToCompletionMs", .real t), ("completionListLength", .count n)]
  | .qir n => [("qirLength", .count n)]
  | .duration t => [("timeToCompleteMs", .real t)]

theorem Properties.data_eq {shape : PropertyShape} (p : Properties shape) :
    p.data = .ofFields (p.texts.map fun f => (f.1, .text f.2)) := by
  cases p with
  | flowEnd id status reason => cases reason <;> rfl
  | failure id reason => cases reason <;> rfl
  | _ => rfl

theorem Measurements.data_eq {shape : MeasurementShape} (m : Measurements shape) :
    m.data = .ofFields (m.quantities.map fun f => (f.1, f.2.data)) := by
  cases m <;> rfl

/-- No text is carried twice. -/
theorem Properties.nodup_texts {shape : PropertyShape} (p : Properties shape) :
    (p.texts.map (·.1)).Nodup := by
  cases p with
  | flowEnd id status reason => cases reason <;> simp [texts]
  | failure id reason => cases reason <;> simp [texts]
  | _ => simp [texts]

/-- No quantity is carried twice. -/
theorem Measurements.nodup_quantities {shape : MeasurementShape} (m : Measurements shape) :
    (m.quantities.map (·.1)).Nodup := by
  cases m <;> simp [quantities]

namespace Wire

/-- Fields with JSON values become members, one after the other. -/
theorem jsonEntries_ofFields {α : Type} {data : α → Data} {json : α → Json.Value}
    (h : ∀ a, (data a).json = .ok (json a)) (fields : List (String × α))
    (acc : Entries Json.Value) :
    jsonEntries ((fields.map fun f => (f.1, data f.2)).map fun f => (.text f.1, f.2)) acc =
      .ok ((fields.map fun f => (f.1, json f.2)).foldl (fun acc e => acc.put e.1 e.2) acc) := by
  induction fields generalizing acc with
  | nil => rfl
  | cons f rest ih =>
    simp only [List.map_cons, jsonEntries, Data.key, h, bind, Except.bind]
    exact ih _

/-- The members of a payload whose fields have JSON values. -/
theorem members_ofFields {α : Type} {data : α → Data} {json : α → Json.Value}
    (h : ∀ a, (data a).json = .ok (json a)) (event : EventName) (fields : List (String × α)) :
    members event (.ofFields (fields.map fun f => (f.1, data f.2))) =
      .ok ((Entries.ofList fields).mapValues json) := by
  have hjson := jsonEntries_ofFields h fields []
  rw [← Entries.ofList, Entries.ofList_map] at hjson
  simp only [members, Data.ofFields, Data.json, hjson, bind, Except.bind]

/-- Texts are properties as they are. -/
theorem properties_mapValues (texts : Entries String) :
    properties (texts.mapValues .text) = texts := by
  rw [properties, Entries.mapValues, List.filterMap_map]
  exact List.filterMap_some

/-- A value of a measurement: a number, or none at all. -/
inductive Measurable : Json.Value → Prop where
  /-- There is no number. -/
  | null : Measurable .null
  /-- A whole number. -/
  | int (i : Int) : Measurable (.int i)
  /-- A double. -/
  | float (x : Binary64) : Measurable (.float x)

/-- The double of a number. -/
def number? : Json.Value → Option Binary64
  | .int i => some (.ofInt i)
  | .float x => some x
  | _ => none

/-- One more number is one more measurement, and `null` is none. -/
theorem measurements_cons_of_measurable (event : EventName) (key : String) {v : Json.Value}
    (h : Measurable v) (rest : Entries Json.Value) :
    measurements event ((key, v) :: rest) =
      (measurements event rest).map (((number? v).map (key, ·)).toList ++ ·) := by
  cases h with
  | null => cases hrest : measurements event rest <;> simp [measurements, hrest] <;> rfl
  | int i => cases hrest : measurements event rest <;> simp [measurements, hrest] <;> rfl
  | float x => cases hrest : measurements event rest <;> simp [measurements, hrest] <;> rfl

/-- Another value is no measurement. -/
theorem measurements_cons_of_not_measurable (event : EventName) (key : String) {v : Json.Value}
    (h : ¬ Measurable v) (rest : Entries Json.Value) :
    measurements event ((key, v) :: rest) = .error (.notNumeric event key) := by
  cases v with
  | null => exact absurd .null h
  | int i => exact absurd (.int i) h
  | float x => exact absurd (.float x) h
  | _ => rfl

/-- One more quantity is one more measurement if it can be reported, and else none. -/
theorem measurements_cons (event : EventName) (key : String) (q : Quantity)
    (rest : Entries Json.Value) :
    measurements event ((key, q.json) :: rest) =
      (measurements event rest).map ((q.reported.map (key, ·)).toList ++ ·) := by
  cases q with
  | count n => exact measurements_cons_of_measurable event key (.int n.toNat) rest
  | real x =>
    cases hx : x.isFinite with
    | true =>
      have hjson : (Quantity.real x).json = .float x := if_pos hx
      have hreported : (Quantity.real x).reported = some x := if_pos hx
      rw [hjson, hreported]
      exact measurements_cons_of_measurable event key (.float x) rest
    | false =>
      have hjson : (Quantity.real x).json = .null := if_neg (Bool.eq_false_iff.mp hx)
      have hreported : (Quantity.real x).reported = none := if_neg (Bool.eq_false_iff.mp hx)
      rw [hjson, hreported]
      exact measurements_cons_of_measurable event key .null rest

/-- Quantities are measurements if they can be reported. -/
theorem measurements_mapValues (event : EventName) (quantities : Entries Quantity) :
    measurements event (quantities.mapValues Quantity.json) =
      .ok (quantities.filterMap fun q => q.2.reported.map (q.1, ·)) := by
  induction quantities with
  | nil => rfl
  | cons q rest ih =>
    obtain ⟨key, quantity⟩ := q
    have hcons : Entries.mapValues Quantity.json ((key, quantity) :: rest) =
        (key, quantity.json) :: Entries.mapValues Quantity.json rest := rfl
    rw [hcons, measurements_cons, ih, List.filterMap_cons]
    cases quantity.reported <;> rfl

end Wire

/-- The flat form of an emission: its texts as properties, and those of its quantities as
measurements that can be reported. -/
def Emission.flat (e : Emission) : WireEvent where
  event := e.event
  properties := .ofList e.properties.texts
  measurements :=
    (Entries.ofList e.measurements.quantities).filterMap fun q => q.2.reported.map (q.1, ·)

/-- The conversion of an emission always succeeds and gives its flat form. -/
theorem Emission.wire_eq_flat (e : Emission) : e.wire = .ok e.flat := by
  have htexts := Wire.members_ofFields (fun _ => rfl : ∀ s, (Data.text s).json = .ok (.text s))
    e.event e.properties.texts
  have hquantities := Wire.members_ofFields Quantity.json_data e.event e.measurements.quantities
  simp only [wire, Wire.flatten, Properties.data_eq, Measurements.data_eq, htexts, hquantities,
    Wire.properties_mapValues, Wire.measurements_mapValues, bind, Except.bind, flat]

end TelemetryGate
