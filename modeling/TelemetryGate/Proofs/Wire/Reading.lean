import TelemetryGate.Proofs.Json.Doubles
import TelemetryGate.Proofs.Wire.Fidelity

/-!
# Reading wire events

The JSON text of a wire event is read as its name and its two maps, if numbers are rounded to the
nearest double: no key, no text and no number is lost or changed.
-/

namespace TelemetryGate

namespace Json.Value

/-- The value under a path of keys. -/
def at? : List String → Value → Option Value
  | [], v => some v
  | key :: path, .object members => (Entries.get? key members).bind (at? path)
  | _ :: _, _ => none

/-- The text that a value is. -/
def text? : Value → Option String
  | .text s => some s
  | _ => none

/-- The double that a value is. -/
def double? : Value → Option Binary64
  | .float x => some x
  | _ => none

/-- The entries of an object whose values all are of some kind. -/
def entries? {α : Type} (kind? : Value → Option α) : Value → Option (Entries α)
  | .object members => members.mapM fun m => (kind? m.2).map (m.1, ·)
  | _ => none

theorem entries?_mapValues {α : Type} {kind? : Value → Option α} {json : α → Value}
    {es : Entries α} (h : ∀ e ∈ es, kind? (json e.2) = some e.2) :
    entries? kind? (.object (es.mapValues json)) = some es := by
  rw [entries?]
  induction es with
  | nil => rfl
  | cons e rest ih =>
    obtain ⟨hfirst, hrest⟩ := List.forall_mem_cons.mp h
    rw [Entries.mapValues, List.map_cons, List.mapM_cons, hfirst]
    have hmore := ih hrest
    rw [Entries.mapValues] at hmore
    rw [hmore]
    rfl

/-- The texts of an object of texts. -/
theorem entries?_ofTexts (texts : Entries String) : entries? text? (.ofTexts texts) = some texts :=
  entries?_mapValues fun _ _ => rfl

/-- The doubles of an object of finite numbers. -/
theorem entries?_ofNumbers {numbers : Entries Binary64}
    (h : ∀ e ∈ numbers, e.2.isFinite = true) :
    entries? double? (.ofNumbers numbers) = some numbers := by
  refine entries?_mapValues fun e he => ?_
  rw [ofBinary64, if_pos (h e he)]
  rfl

end Json.Value

namespace Json.Reader

/-- Finite numbers under distinct keys are read as they are. -/
theorem readsAs_ofNumbers (depth : Nat) {numbers : Entries Binary64}
    (hrising : Entries.Rising numbers) (h : ∀ e ∈ numbers, e.2.isFinite = true) :
    ReadsAsBy Numeral.nearest (depth + 2) (.ofNumbers numbers) (.ofNumbers numbers) := by
  refine readsAs_entries (List.Perm.refl numbers) hrising fun e he => ?_
  rw [Value.ofBinary64, if_pos (h e he)]
  exact readsAs_float depth (h e he)

end Json.Reader

open Json (Value)
open Json.Reader (ReadsAsBy readsAs_text readsAs_ofTexts readsAs_ofNumbers readsAs_object)

/-- A JSON value holds the name and the two maps of a wire event. -/
structure WireEvent.HeldBy (w : WireEvent) (v : Value) : Prop where
  /-- The name is a text. -/
  name : (v.at? ["name"]).bind Value.text? = some w.name
  /-- The properties are texts, each under its key. -/
  properties : (v.at? ["properties"]).bind (Value.entries? Value.text?) = some w.properties
  /-- The measurements are numbers, each under its key. -/
  measurements : (v.at? ["measurements"]).bind (Value.entries? Value.double?) =
    some w.measurements

/-- A wire event as emissions give it. -/
structure WireEvent.Proper (w : WireEvent) : Prop where
  /-- Its properties are in the order of their names. -/
  properties_rising : Entries.Rising w.properties
  /-- So are its measurements. -/
  measurements_rising : Entries.Rising w.measurements
  /-- Its measurements are finite. -/
  finite : ∀ e ∈ w.measurements, e.2.isFinite = true

/-- Whatever is reported of a quantity is finite. -/
theorem Quantity.isFinite_of_reported {q : Quantity} {x : Binary64} (h : q.reported = some x) :
    x.isFinite = true := by
  obtain ⟨hfinite, rfl⟩ := reported_eq_some.mp h
  cases q with
  | real x => exact hfinite
  | count n => exact (number_count n).2.1.finite

/-- The flat form of an emission can be read back. -/
theorem Emission.proper_flat (e : Emission) : e.flat.Proper where
  properties_rising := e.carries_flat.properties_rising
  measurements_rising := e.carries_flat.measurements_rising
  finite := by
    rintro ⟨key, x⟩ hx
    have hget := e.carries_flat.measurements_rising.get?_eq_some_iff.mpr hx
    obtain ⟨q, -, hreported⟩ := e.get?_flat_measurements.mp hget
    exact Quantity.isFinite_of_reported hreported

namespace WireEvent

/-- The members of a wire event in the order of their keys. -/
def members (w : WireEvent) : List (String × Value) :=
  [("measurements", .ofNumbers w.measurements), ("name", .text w.name),
    ("properties", .ofTexts w.properties)]

variable {w : WireEvent}

/-- An object with the members of a wire event, and others with keys behind, holds it. -/
theorem Proper.heldBy (hw : w.Proper) (more : List (String × Value)) :
    w.HeldBy (.object (w.members ++ more)) where
  name := rfl
  properties := Value.entries?_ofTexts w.properties
  measurements := Value.entries?_ofNumbers hw.finite

/-- The texts of both maps are read as the maps. -/
theorem Proper.readsAs_maps (hw : w.Proper) (depth : Nat) :
    ReadsAsBy Json.Numeral.nearest (depth + 2) (.ofTexts w.properties) (.ofTexts w.properties) ∧
      ReadsAsBy Json.Numeral.nearest (depth + 2) (.ofNumbers w.measurements)
        (.ofNumbers w.measurements) :=
  ⟨readsAs_ofTexts depth (List.Perm.refl _) hw.properties_rising,
    readsAs_ofNumbers depth hw.measurements_rising hw.finite⟩

/-- The text of a wire event is read as its members. -/
theorem Proper.ofText_json (hw : w.Proper) :
    Value.ofTextBy Json.Numeral.nearest w.json.render = .ok (.object w.members) := by
  obtain ⟨hproperties, hmeasurements⟩ := hw.readsAs_maps 125
  have hread : Entries.ofList [("name", Value.text w.name), ("properties", .ofTexts w.properties),
      ("measurements", .ofNumbers w.measurements)] = w.members := by
    simp only [Entries.ofList, List.foldl_cons, List.foldl_nil, Entries.put, String.reduceLT,
      String.reduceEq, if_true, if_false, members]
  apply Value.ofTextBy_render
  rw [← hread]
  apply readsAs_object
  exact .cons ⟨rfl, readsAs_text _ _⟩ (.cons ⟨rfl, hproperties⟩ (.cons ⟨rfl, hmeasurements⟩ .nil))

end WireEvent

end TelemetryGate
