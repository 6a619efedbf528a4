import TelemetryGate.Dispatch.Slot

/-!
# The slot among threads

Any number of threads use the slot of a process at the same time. To fill it a thread takes the empty
slot, binds a dispatcher, announces it, and publishes it; others that want to fill the slot wait until
it is filled. To emit, a thread reads the slot and then sends through what it read. Only a published
dispatcher can be read. The steps of the threads come in any order, and the machine may change between
two steps.
-/

namespace TelemetryGate

/-- A call that a thread makes. -/
inductive SlotCall (ρ : Type) where
  /-- Fill the slot. -/
  | fill (setup : Setup) (connect : Connector ρ)
  /-- Emit through the slot. -/
  | emit (e : Emission)
  /-- Look at the state of the slot. -/
  | look

/-- The slot as all threads see it. -/
inductive SharedSlot (ρ : Type) where
  /-- Nothing is in it. -/
  | empty
  /-- A thread is filling it; nothing can be read yet. -/
  | taken (thread : Nat)
  /-- A dispatcher is published in it. -/
  | filled (d : Dispatcher ρ)

/-- How far a thread is in a call. -/
inductive Position (ρ : Type) where
  /-- Its next call has not begun. -/
  | ready
  /-- It took the slot. -/
  | binding (setup : Setup) (connect : Connector ρ)
  /-- It bound a dispatcher. -/
  | announcing (d : Dispatcher ρ)
  /-- It announced a dispatcher. -/
  | publishing (d : Dispatcher ρ)
  /-- It read the slot. -/
  | sending (d : Dispatcher ρ) (e : Emission)

/-- What happens in a call. -/
inductive Deed (ρ : Type) where
  /-- Something is done to the surroundings. -/
  | effect (x : Effect ρ)
  /-- The slot is read to emit through a dispatcher. -/
  | saw (d : Dispatcher ρ)
  /-- The emission returns. -/
  | emitted
  /-- The look at the slot returns a state. -/
  | looked (state : DispatcherState)
  /-- A dispatcher is published. -/
  | published (d : Dispatcher ρ)
  /-- The call that fills the slot returns. -/
  | returned (result : Except SetupFault DispatcherState)

/-- A deed in a call of a thread; the calls of a thread are numbered from zero. -/
structure Moment (ρ : Type) where
  /-- The thread. -/
  thread : Nat
  /-- The number of the call. -/
  call : Nat
  /-- What happens. -/
  deed : Deed ρ

/-- Threads that use a slot. -/
structure Race (ρ : Type) where
  /-- The slot. -/
  slot : SharedSlot ρ := .empty
  /-- How far each thread is in its call. -/
  position : Nat → Position ρ := fun _ => .ready
  /-- How many calls of each thread have returned. -/
  done : Nat → Nat := fun _ => 0
  /-- What happened so far. -/
  history : List (Moment ρ) := []

/-- The calls of each thread. -/
abbrev Program (ρ : Type) := Nat → List (SlotCall ρ)

variable {ρ : Type}

/-- The dispatcher that can be read from a slot. -/
def SharedSlot.dispatcher : SharedSlot ρ → Dispatcher ρ
  | .filled d => d
  | _ => .uninitialized

namespace Race

/-- A thread comes to a position with some deeds. -/
def advance (m : Race ρ) (thread : Nat) (position : Position ρ) (deeds : List (Deed ρ)) : Race ρ where
  slot := m.slot
  position t := if t = thread then position else m.position t
  done := m.done
  history := m.history ++ deeds.map (⟨thread, m.done thread, ·⟩)

/-- A thread returns from its call with some deeds. -/
def finish (m : Race ρ) (thread : Nat) (deeds : List (Deed ρ)) : Race ρ :=
  { m.advance thread .ready deeds with
    done := fun t => if t = thread then m.done t + 1 else m.done t }

/-- A thread begins a call, if the slot lets it. -/
def begin (m : Race ρ) (thread : Nat) : SlotCall ρ → Race ρ
  | .fill setup connect =>
    match m.slot with
    | .empty => { m.advance thread (.binding setup connect) [] with slot := .taken thread }
    | .taken _ => m
    | .filled _ => m.finish thread [.returned (.error .alreadyFilled)]
  | .emit e => m.advance thread (.sending m.slot.dispatcher e) [.saw m.slot.dispatcher]
  | .look => m.finish thread [.looked m.slot.dispatcher.state]

/-- A thread takes its next step on a machine, if it has one. -/
def step (program : Program ρ) (m : Race ρ) (w : World) (thread : Nat) : Race ρ :=
  match m.position thread with
  | .ready =>
    match (program thread)[m.done thread]? with
    | some call => m.begin thread call
    | none => m
  | .binding setup connect =>
    let (effects, d) := Dispatcher.bindSetup w setup connect
    m.advance thread (.announcing d) (effects.map .effect)
  | .announcing d => m.advance thread (.publishing d) (d.announce.map .effect)
  | .publishing d =>
    { m.finish thread [.published d, .returned (.ok d.state)] with slot := .filled d }
  | .sending d e => m.finish thread ((d.emit e).map .effect ++ [.emitted])

/-- Threads take steps in the order of a schedule, each on the machine as it is then. -/
def run (program : Program ρ) (m : Race ρ) (schedule : List (World × Nat)) : Race ρ :=
  schedule.foldl (fun m s => m.step program s.1 s.2) m

end Race

end TelemetryGate
