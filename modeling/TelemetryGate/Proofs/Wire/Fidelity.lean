import TelemetryGate.Proofs.Binary64.Nearest
import TelemetryGate.Proofs.Wire.Flattening

/-!
# Fidelity of wire events

A wire event tells its payload. Its properties are the declared fields with their own texts, so the
typed properties can be read back. Its measurements are the finite numbers: doubles as they are, and
counts as the doubles nearest to them.
-/

namespace TelemetryGate

/-- The member of a vocabulary that has a word. -/
def readWord {α : Type} (all : List α) (word : α → String) (w : String) : Option α :=
  all.find? fun a => word a = w

/-- The properties of a shape whose texts are given. -/
def Properties.recover : (shape : PropertyShape) → Entries String → Option (Properties shape)
  | .empty, _ => some .empty
  | .association, texts => (texts.get? "associationId").map .association
  | .debugSession, texts => do
    let id ← texts.get? "associationId"
    let action ← (texts.get? "event").bind (readWord DebugAction.all DebugAction.word)
    some (.debugSession id action)
  | .openedDocument, texts =>
    ((texts.get? "documentType").bind (readWord DocumentKind.all DocumentKind.word)).map
      .openedDocument
  | .flowEnd, texts => do
    let id ← texts.get? "associationId"
    let status ← (texts.get? "flowStatus").bind (readWord FlowStatus.all FlowStatus.word)
    some (.flowEnd id status (texts.get? "reason"))
  | .failure, texts =>
    (texts.get? "associationId").map (.failure · (texts.get? "reason"))

/-- The reason that a payload gives. -/
def Properties.reason? {shape : PropertyShape} : Properties shape → Option String
  | .flowEnd _ _ reason => reason
  | .failure _ reason => reason
  | _ => none

theorem DebugAction.readWord_word (a : DebugAction) :
    readWord DebugAction.all DebugAction.word a.word = some a := by
  cases a <;> decide

theorem DocumentKind.readWord_word (k : DocumentKind) :
    readWord DocumentKind.all DocumentKind.word k.word = some k := by
  cases k <;> decide

theorem FlowStatus.readWord_word (s : FlowStatus) :
    readWord FlowStatus.all FlowStatus.word s.word = some s := by
  cases s <;> decide

/-- What an entry of a payload's texts gives is read from the collected texts. -/
theorem Properties.get?_texts {shape : PropertyShape} (p : Properties shape) {key text : String} :
    (Entries.ofList p.texts).get? key = some text ↔ (key, text) ∈ p.texts :=
  Entries.get?_ofList_eq_some_iff p.nodup_texts

/-- Properties can be read back from their texts. -/
theorem Properties.recover_texts {shape : PropertyShape} (p : Properties shape) :
    recover shape (.ofList p.texts) = some p := by
  have hread (key text : String) (h : (key, text) ∈ p.texts) :
      (Entries.ofList p.texts).get? key = some text := p.get?_texts.mpr h
  have hreason (h : ∀ text, ("reason", text) ∈ p.texts ↔ p.reason? = some text) :
      (Entries.ofList p.texts).get? "reason" = p.reason? :=
    Option.ext fun text => p.get?_texts.trans (h text)
  cases p with
  | empty => rfl
  | association id =>
    simp [recover, hread "associationId" id (by simp [texts])]
  | debugSession id action =>
    simp [recover, hread "associationId" id (by simp [texts]),
      hread "event" action.word (by simp [texts]), DebugAction.readWord_word]
  | openedDocument kind =>
    simp [recover, hread "documentType" kind.word (by simp [texts]),
      DocumentKind.readWord_word]
  | flowEnd id status reason =>
    simp [recover, hread "associationId" id (by simp [texts]),
      hread "flowStatus" status.word (by simp [texts]),
      FlowStatus.readWord_word, hreason (by simp [texts, reason?]), reason?]
  | failure id reason =>
    simp [recover, hread "associationId" id (by simp [texts]),
      hreason (by simp [texts, reason?]), reason?]

/-- The texts of a payload stand under the names that its shape declares: all required ones, and the
reason if there is one. -/
theorem Properties.names_texts {shape : PropertyShape} (p : Properties shape) :
    p.texts.map (·.1) =
      (shape.fields.filter fun f => f.required || p.reason?.isSome).map (·.name) := by
  cases p with
  | flowEnd id status reason => cases reason <;> rfl
  | failure id reason => cases reason <;> rfl
  | _ => rfl

/-- The quantities of a payload stand under the names that its shape declares. -/
theorem Measurements.names_quantities {shape : MeasurementShape} (m : Measurements shape) :
    m.quantities.map (·.1) = shape.fields.map (·.name) := by
  cases m <;> rfl

/-- A wire event tells the payload of an emission. -/
structure WireEvent.Carries (w : WireEvent) (e : Emission) : Prop where
  /-- It has the name of the event. -/
  name : w.name = e.event.wireName
  /-- Its properties are in the order of their names, each name once. -/
  properties_rising : w.properties.Rising
  /-- Its properties have the declared names, without that of a reason which is absent. -/
  properties_keys : ∀ key, key ∈ w.properties.keys ↔ ∃ f ∈ e.event.propertyShape.fields,
    f.name = key ∧ (f.required ∨ e.properties.reason?.isSome)
  /-- Texts are told as they are, and members of vocabularies by their words. -/
  property : ∀ key text, w.properties.get? key = some text ↔ (key, text) ∈ e.properties.texts
  /-- Its measurements are in the order of their names, each name once. -/
  measurements_rising : w.measurements.Rising
  /-- Quantities stand under the declared names. -/
  quantities_keys :
    e.measurements.quantities.map (·.1) = e.event.measurementShape.fields.map (·.name)
  /-- Its measurements have the names of the quantities that are finite. -/
  measurements_keys : ∀ key, key ∈ w.measurements.keys ↔
    ∃ q, (key, q) ∈ e.measurements.quantities ∧ q.isFinite
  /-- Finite doubles are told bit by bit. -/
  real : ∀ key x, (key, .real x) ∈ e.measurements.quantities → x.isFinite →
    w.measurements.get? key = some x
  /-- A count is told by the double nearest to it, which is the count itself up to `2 ^ 53`. -/
  count : ∀ key n, (key, .count n) ∈ e.measurements.quantities →
    ∃ y, w.measurements.get? key = some y ∧ y.negative = false ∧ y.IsNearest n.toNat ∧
      (n.toNat ≤ 2 ^ 53 → y.value = n.toNat)

/-- A measurement of the flat form is what is reported of a quantity. -/
theorem Emission.get?_flat_measurements (e : Emission) {key : String} {x : Binary64} :
    e.flat.measurements.get? key = some x ↔
      ∃ q, (key, q) ∈ e.measurements.quantities ∧ q.reported = some x := by
  rw [flat, (Entries.rising_ofList _).get?_filterMap, Option.bind_eq_some_iff]
  refine exists_congr fun q => ?_
  rw [Entries.get?_ofList_eq_some_iff e.measurements.nodup_quantities]

/-- Whether something is reported of a quantity is whether it is finite. -/
theorem Quantity.reported_eq_some {q : Quantity} {x : Binary64} :
    q.reported = some x ↔ q.isFinite = true ∧ q.number = x := by
  simp [reported]

/-- A count is reported by the double nearest to it. -/
theorem Quantity.number_count (n : UInt64) :
    (count n).number.negative = false ∧ (count n).number.IsNearest n.toNat ∧
      (n.toNat ≤ 2 ^ 53 → (count n).number.value = n.toNat) := by
  have habs : ((n.toNat : ℤ)).natAbs = n.toNat := Int.natAbs_natCast _
  refine ⟨?_, ?_, fun h => ?_⟩
  · rw [number, Binary64.ofInt, Binary64.negative_ofRatio]
    exact decide_eq_false (by omega)
  · exact_mod_cast Binary64.ofInt_isNearest (habs.symm ▸ n.toNat_lt)
  · exact_mod_cast Binary64.value_ofInt (habs.symm ▸ h)

/-- The flat form of an emission tells its payload. -/
theorem Emission.carries_flat (e : Emission) : e.flat.Carries e where
  name := rfl
  properties_rising := Entries.rising_ofList _
  properties_keys key := by
    have hnames : key ∈ e.flat.properties.keys ↔ key ∈ e.properties.texts.map (·.1) := by
      rw [Entries.mem_keys_iff, Option.isSome_iff_exists, List.mem_map, Prod.exists]
      simp only [flat, e.properties.get?_texts]
      grind
    rw [hnames, e.properties.names_texts]
    simp only [List.mem_map, List.mem_filter, Bool.or_eq_true]
    grind
  property _ _ := e.properties.get?_texts
  measurements_rising := (Entries.rising_ofList _).filterMap _
  quantities_keys := e.measurements.names_quantities
  measurements_keys key := by
    rw [Entries.mem_keys_iff, Option.isSome_iff_exists]
    simp only [e.get?_flat_measurements, Quantity.reported_eq_some]
    constructor
    · rintro ⟨x, q, hq, hfinite, -⟩
      exact ⟨q, hq, hfinite⟩
    · rintro ⟨q, hq, hfinite⟩
      exact ⟨q.number, q, hq, hfinite, rfl⟩
  real key x h hx :=
    e.get?_flat_measurements.mpr ⟨.real x, h, Quantity.reported_eq_some.mpr ⟨hx, rfl⟩⟩
  count key n h := by
    refine ⟨(Quantity.count n).number, ?_, Quantity.number_count n⟩
    exact e.get?_flat_measurements.mpr ⟨.count n, h, Quantity.reported_eq_some.mpr ⟨rfl, rfl⟩⟩

/-- Every emission has a wire event. It tells the payload, so that the typed properties can be read
back from it, and payloads of one event with the same wire event have the same properties. -/
theorem Emission.wire_tells_payload (e : Emission) :
    ∃ w, e.wire = .ok w ∧ w.Carries e ∧
      Properties.recover e.event.propertyShape w.properties = some e.properties ∧
      ∀ (p : Properties e.event.propertyShape) (m : Measurements e.event.measurementShape),
        Emission.wire ⟨e.event, p, m⟩ = .ok w → p = e.properties := by
  have hrecover := e.properties.recover_texts
  refine ⟨e.flat, e.wire_eq_flat, e.carries_flat, hrecover, fun p m hwire => ?_⟩
  rw [wire_eq_flat] at hwire
  have htexts : Entries.ofList p.texts = Entries.ofList e.properties.texts :=
    congrArg WireEvent.properties (Except.ok.inj hwire)
  rw [← htexts, p.recover_texts] at hrecover
  exact Option.some.inj hrecover

end TelemetryGate
