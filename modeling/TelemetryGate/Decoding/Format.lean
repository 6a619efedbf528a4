import TelemetryGate.Entries

/-!
# Formats

A format can read the kinds of values that settings and manifests are made of. A record is described
once, by its fields, and then read from every format. A field that is not given leaves the record as
it was, so reading starts from the record of defaults.
-/

namespace TelemetryGate.Decoding

/-- One field of a record: reading it gives the change that it makes. -/
structure Field (ρ : Type → Type) (σ : Type) where
  /-- The key of the field. -/
  name : String
  /-- The change of the record. -/
  read : ρ (σ → σ)

/-- A field of a record from the reader of its value. -/
def Field.of {ρ : Type → Type} [Functor ρ] {α σ : Type} (name : String) (value : ρ α)
    (set : σ → α → σ) : Field ρ σ :=
  ⟨name, (fun a s => set s a) <$> value⟩

/-- The kinds of values that a format reads. -/
structure Format (ρ : Type → Type) where
  /-- A truth value. -/
  flag : ρ Bool
  /-- A text. -/
  text : ρ String
  /-- A text that names a file. -/
  path : ρ String
  /-- A value that may be empty. -/
  optional : {α : Type} → ρ α → ρ (Option α)
  /-- Texts under keys. -/
  texts : ρ (Entries String)
  /-- A record with a title, its fields in order, and the record to start from. -/
  record : {σ : Type} → String → List (Field ρ σ) → σ → ρ σ

end TelemetryGate.Decoding
