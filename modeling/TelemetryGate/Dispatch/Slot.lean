import TelemetryGate.Dispatch.Dispatcher

/-!
# The slot of a process

A process has one place for a dispatcher that all its code can emit through. It is filled at most
once; a dispatcher is announced before the slot shows it. Filling it again is refused without any
effect.
-/

namespace TelemetryGate

/-- The place for the dispatcher of a process. -/
structure Slot (ρ : Type) where
  /-- The dispatcher, once the slot is filled. -/
  held : Option (Dispatcher ρ) := none
  deriving DecidableEq, Repr

namespace Slot

variable {ρ : Type}

/-- The state that the slot shows. -/
def state (slot : Slot ρ) : DispatcherState :=
  match slot.held with
  | some d => d.state
  | none => .uninitialized

/-- What an emission through the slot does. An empty slot drops it by itself. -/
def emit (slot : Slot ρ) (e : Emission) : List (Effect ρ) :=
  match slot.held with
  | some d => d.emit e
  | none => [.logged (Dispatcher.dropped e.event)]

/-- Fill the slot: a dispatcher is bound and announced before the slot shows it. -/
def fill (slot : Slot ρ) (w : World) (setup : Setup) (connect : Connector ρ) :
    List (Effect ρ) × Slot ρ × Except SetupFault DispatcherState :=
  match slot.held with
  | some _ => ([], slot, .error .alreadyFilled)
  | none =>
    let (effects, d) := Dispatcher.bindSetup w setup connect
    (effects ++ d.announce, ⟨some d⟩, .ok d.state)

/-- The dispatcher that a slot stands for. -/
def dispatcher (slot : Slot ρ) : Dispatcher ρ := slot.held.getD .uninitialized

/-- An empty slot shows what a dispatcher that is not set up shows. -/
theorem state_eq (slot : Slot ρ) : slot.state = slot.dispatcher.state := by
  rw [state, dispatcher]
  cases slot.held <;> rfl

/-- An empty slot drops emissions as a dispatcher that is not set up does. -/
theorem emit_eq (slot : Slot ρ) (e : Emission) : slot.emit e = slot.dispatcher.emit e := by
  rw [emit, dispatcher]
  cases slot.held <;> rfl

/-- A filled slot stays as it is. -/
theorem fill_of_held {slot : Slot ρ} {d : Dispatcher ρ} (h : slot.held = some d) (w : World)
    (setup : Setup) (connect : Connector ρ) :
    slot.fill w setup connect = ([], slot, .error .alreadyFilled) := by
  simp [fill, h]

/-- Filling an empty slot does what setting up a dispatcher does, and shows that dispatcher. -/
theorem fill_of_empty {slot : Slot ρ} (h : slot.held = none) (w : World) (setup : Setup)
    (connect : Connector ρ) :
    slot.fill w setup connect =
      ((Dispatcher.setUp w setup connect).1, ⟨some (Dispatcher.setUp w setup connect).2⟩,
        .ok (Dispatcher.setUp w setup connect).2.state) := by
  simp only [fill, h, Dispatcher.setUp]

end Slot

end TelemetryGate
