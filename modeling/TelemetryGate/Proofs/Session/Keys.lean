import TelemetryGate.Proofs.Dispatch.Padding
import TelemetryGate.Proofs.Session.Delivery

/-!
# Keys during a session

Whatever a program does, reporters are asked for under trimmed keys only. Blank characters that are
put around the keys of its setups make no difference to anything that it does or shows.
-/

namespace TelemetryGate

open Dispatcher (bindSetup)
open Text (Pad Trimmed)

/-- What the connector was asked for in a step, by its answer. -/
def Answer.asked : Answer → Asked
  | .started _ asked | .refused _ asked => asked
  | _ => none

/-- A step with a pad around the key that it sets up with, if it does. -/
def Step.padded (p : Pad) : Step → Step
  | .setUp place setup connection => .setUp place (setup.padded p) connection
  | st => st

theorem Dispatcher.setUp_padded {ρ : Type} (p : Pad) (w : World) (setup : Setup)
    (connect : Connector ρ) : setUp w (setup.padded p) connect = setUp w setup connect := by
  rw [setUp, bindSetup_padded, setUp]

namespace Session

variable (s : Session) (c : Circumstances)

theorem setUp_padded (p : Pad) (place : Place) (setup : Setup) (connection : Connection) :
    s.setUp c place (setup.padded p) connection = s.setUp c place setup connection := by
  cases place with
  | named name => simp only [setUp, Dispatcher.setUp_padded]
  | slot => simp only [setUp, Slot.fill, Dispatcher.bindSetup_padded]

/-- A pad around the key of a step makes no difference. -/
theorem step_padded (p : Pad) (st : Step) : s.step c (st.padded p) = s.step c st := by
  cases st with
  | setUp place setup connection => exact s.setUp_padded c p place setup connection
  | _ => rfl

/-- Pads around the keys of a run make no difference. -/
theorem run_padded {steps padded : List Step}
    (h : List.Forall₂ (fun st st' => ∃ p, st.padded p = st') steps padded) :
    s.run c padded = s.run c steps := by
  induction h generalizing s with
  | nil => rfl
  | cons hst _ ih =>
    obtain ⟨p, rfl⟩ := hst
    simp only [run, step_padded, ih]

variable {s c}

/-- A step asks for a reporter under a trimmed key, if it does. -/
theorem trimmed_of_asked_step {st : Step} {key : String} {endpoint : Option String}
    (h : (s.step c st).2.answer.asked = some (key, endpoint)) : Trimmed key := by
  cases st with
  | setUp place setup connection =>
    change (s.setUp c place setup connection).2.answer.asked = _ at h
    cases hbuilds : s.builds place (.setUp place setup connection) with
    | true =>
      rw [setUp_eq c hbuilds] at h
      obtain ⟨key', hkey, heq⟩ := Option.map_eq_some_iff.mp h
      obtain ⟨rfl, -⟩ := Prod.mk.inj heq
      exact Setup.trimmed_of_key? hkey
    | false =>
      rw [setUp_of_not_builds c hbuilds] at h
      cases h
  | _ => cases h

/-- A run asks for reporters under trimmed keys only. -/
theorem trimmed_of_asked {steps : List Step} {row : Row} (hrow : row ∈ (s.run c steps).2)
    {key : String} {endpoint : Option String} (h : row.answer.asked = some (key, endpoint)) :
    Trimmed key := by
  induction steps generalizing s with
  | nil => exact absurd hrow List.not_mem_nil
  | cons st rest ih =>
    rcases List.mem_cons.mp hrow with rfl | hrest
    · exact trimmed_of_asked_step h
    · exact ih hrest

/-- How keys are used when a program takes some steps. -/
structure BindsCores (s : Session) (c : Circumstances) (steps : List Step) : Prop where
  /-- Every key that a connector is asked for is trimmed. -/
  asked : ∀ row ∈ (s.run c steps).2, ∀ key endpoint,
    row.answer.asked = some (key, endpoint) → Trimmed key
  /-- Blank characters around the keys of setups change nothing. -/
  padded : ∀ steps', List.Forall₂ (fun st st' => ∃ p, st.padded p = st') steps steps' →
    s.run c steps' = s.run c steps

end Session

/-- Keys are used and bound as their cores, whatever holds them. -/
theorem KeySource.bound_as_cores :
    (∀ source : KeySource, source.UsesCore) ∧
      (∀ (ρ : Type) (w : World) (setup : Setup) (connect : Connector ρ),
        setup.BindsCore w connect) ∧
      ∀ (s : Session) (c : Circumstances) (steps : List Step), s.BindsCores c steps := by
  refine ⟨usesCore, fun ρ w setup connect => setup.bindsCore w connect, fun s c steps => ?_⟩
  constructor
  case asked => exact fun _ hrow _ _ h => Session.trimmed_of_asked hrow h
  case padded => exact fun _ h => s.run_padded c h

/-- A no-break space before and an ideographic space after. -/
def widePad : Pad := ⟨"\u00a0", "\u3000", by decide, by decide⟩

/-- A machine with a manifest that holds a key. -/
def packagedWorld (key : String) : World where
  files := ⟨[(["package.json"], .file ("\x7b\"aiKey\":\"" ++ key ++ "\"\x7d").toUTF8)]⟩
  cwd := []
  environment := []

/-- Settings with a blank key and that manifest. -/
def packagedSettings : Settings :=
  { Settings.default [] with instrumentationKey := some "\t", manifest := some "package.json" }

/-- Blank characters around the key of the manifest are dropped, and the one in it is kept. -/
theorem KeySource.bound_as_cores_packaged :
    (settings packagedSettings).usableKey = none ∧
      (∀ u, Text.CoreOf u (widePad.around "a b") ↔ u = "a b") ∧
      bindSetup (packagedWorld (widePad.around "a b")) (.settings packagedSettings)
        (fun key _ => .ok key) =
          ([.manifestRead "package.json", .connected "a b" (some packagedSettings.endpoint)],
            .active "a b") := by
  obtain ⟨huses, hbinds, -⟩ := bound_as_cores
  have hblank : (settings packagedSettings).usableKey = none :=
    (huses _).none.mpr (.inr ⟨"\t", rfl, by decide⟩)
  refine ⟨hblank, ?_, ?_⟩
  · obtain ⟨key, hkey, hunique⟩ :=
      (huses (text (widePad.around "a b"))).core _ rfl (by decide +kernel)
    have hcore : (text (widePad.around "a b")).usableKey = some "a b" := by decide +kernel
    obtain rfl := Option.some.inj (hkey.symm.trans hcore)
    exact hunique
  · have hread : ∀ path ∈ (Setup.settings packagedSettings).manifest?,
        Manifest.load (packagedWorld (widePad.around "a b")) path =
          (Manifest.load (packagedWorld "a b") path).map (Manifest.padded widePad) := by
      decide +kernel
    have hload : Manifest.load (packagedWorld "a b") "package.json" =
        .ok { aiKey := some "a b" } := by decide +kernel
    have hkey : (manifest { aiKey := some "a b" }).usableKey = some "a b" := by decide +kernel
    have henabled : packagedSettings.enabled = true := rfl
    have hmanifest : packagedSettings.manifest = some "package.json" := rfl
    rw [(hbinds String (packagedWorld "a b") (.settings packagedSettings) _).manifest _ _ hread]
    simp only [bindSetup, Dispatcher.bindSettings, Dispatcher.bind, henabled, hblank, hmanifest,
      hload, hkey, Bool.not_true, Option.isSome_none, Bool.false_eq_true, if_false]

end TelemetryGate
