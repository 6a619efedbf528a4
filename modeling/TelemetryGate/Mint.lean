import TelemetryGate.AssociationId

/-!
# Ids made by many threads

Any number of threads of a process make ids at the same time. To make one a thread reads the clock,
takes the next running number, and returns the text of the id. Between these steps other threads may
take theirs, and the clock may show anything at each step; only the taking of a number is a single
step, by which the counter goes on, from the last number to zero.
-/

namespace TelemetryGate

/-- How far a thread is in making an id. -/
inductive Minting where
  /-- Its next call has not begun. -/
  | ready
  /-- It read the clock. -/
  | timed (time : UInt64)
  /-- It took a running number. -/
  | numbered (id : AssociationId)
  deriving DecidableEq, Repr

/-- The threads of a process that make ids, and what they did so far. -/
structure Mint where
  /-- The running number that is taken next. -/
  next : UInt64 := AssociationId.firstSequence
  /-- How far each thread is in its call. -/
  position : Nat → Minting := fun _ => .ready
  /-- The calls that were begun: their threads and the times that they read. -/
  begun : List (Nat × UInt64) := []
  /-- The ids that took a running number, in this order, and their threads. -/
  numbered : List (Nat × AssociationId) := []
  /-- The ids that were returned, in this order, and their threads. -/
  returned : List (Nat × AssociationId) := []

namespace Mint

/-- How many calls were begun. -/
def calls (m : Mint) : Nat := m.begun.length

/-- The texts that the calls returned. -/
def texts (m : Mint) : List String := m.returned.map (·.2.text)

/-- A thread comes to a position. -/
def move (m : Mint) (thread : Nat) (position : Minting) : Mint :=
  { m with position := fun t => if t = thread then position else m.position t }

/-- A thread of a process takes its next step while the clock shows some milliseconds after the
epoch. -/
def step (process : UInt32) (m : Mint) (reading : Int) (thread : Nat) : Mint :=
  match m.position thread with
  | .ready =>
    { m.move thread (.timed (clockMillis reading)) with
      begun := m.begun ++ [(thread, clockMillis reading)] }
  | .timed time =>
    { m.move thread (.numbered ⟨time, process, m.next⟩) with
      next := m.next + 1
      numbered := m.numbered ++ [(thread, ⟨time, process, m.next⟩)] }
  | .numbered id => { m.move thread .ready with returned := m.returned ++ [(thread, id)] }

/-- The threads of a process take steps in the order of a schedule, which also tells what the clock
shows at each. -/
def run (process : UInt32) (m : Mint) (schedule : List (Int × Nat)) : Mint :=
  schedule.foldl (fun m s => m.step process s.1 s.2) m

end Mint

end TelemetryGate
