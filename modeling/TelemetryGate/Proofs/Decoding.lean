import TelemetryGate.Decoding.Format

/-!
# Parts of records

A record is described by its fields. Each of its parts belongs to one of them: that field sets it, and
no other field changes it, whatever format the record is read from.
-/

namespace TelemetryGate.Decoding

variable {ρ : Type → Type} {α σ : Type}

/-- The field that is found for a key has that key. -/
theorem name_of_find? {fields : List (Field ρ σ)} {field : Field ρ σ} {key : String}
    (h : fields.find? (·.name = key) = some field) : field.name = key := by
  simpa using List.find?_some h

variable [Functor ρ]

/-- What a field does to the part of a name: the field of that name sets it to what the value is read
as, and a field of another name leaves it alone. -/
inductive Field.Sets (part : σ → α) (name : String) (value : ρ α) : Field ρ σ → Prop where
  /-- The field of the part. -/
  | own {set : σ → α → σ} (sets : ∀ s a, part (set s a) = a) :
    Sets part name value (.of name value set)
  /-- A field of another part. -/
  | other {β : Type} {name' : String} {value' : ρ β} {set : σ → β → σ} (differs : name' ≠ name)
    (keeps : ∀ s b, part (set s b) = part s) : Sets part name value (.of name' value' set)

/-- A part of a record belongs to the field of a name. -/
structure IsPart (fields : List (Field ρ σ)) (part : σ → α) (name : String) (value : ρ α) :
    Prop where
  /-- There is such a field. -/
  named : name ∈ fields.map (·.name)
  /-- It sets the part, and the other fields do not change it. -/
  sets : ∀ field ∈ fields, field.Sets part name value

/-- A key for which there is no field is not the name of a part. -/
theorem IsPart.ne_of_find?_eq_none {fields : List (Field ρ σ)} {part : σ → α} {name key : String}
    {value : ρ α} (hpart : IsPart fields part name value)
    (h : fields.find? (·.name = key) = none) : key ≠ name := by
  obtain ⟨field, hfield, rfl⟩ := List.mem_map.mp hpart.named
  simpa [eq_comm] using List.find?_eq_none.mp h field hfield

end TelemetryGate.Decoding
