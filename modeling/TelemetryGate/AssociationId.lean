import TelemetryGate.Binary64.Rounding

/-!
# Association ids

Ids that tie the events of one flow together. An id is made of the time, the number of the process
and a running number, which goes round after `2 ^ 64` ids; it is the running number that keeps the ids
of one process apart.
-/

namespace TelemetryGate

/-- The parts of an id. -/
structure AssociationId where
  /-- The milliseconds since the epoch. -/
  time : UInt64
  /-- The number of the process. -/
  process : UInt32
  /-- The running number. -/
  sequence : UInt64
  deriving DecidableEq, Repr

/-- The milliseconds of a clock that shows some milliseconds after the epoch. A clock that shows a
time before the epoch counts as standing at it. -/
def clockMillis (sinceEpoch : Int) : UInt64 := UInt64.ofNat sinceEpoch.toNat

/-- A span of nanoseconds in seconds. The whole seconds and the rest are rounded one by one, and so is
their sum. -/
def elapsedSeconds (nanoseconds : Nat) : Binary64 :=
  .plus (.ofNat (nanoseconds / tenPow 9))
    (.div (.ofNat (nanoseconds % tenPow 9)) (.ofNat (tenPow 9)))

/-- A span of nanoseconds in milliseconds. It is rounded to seconds before. -/
def elapsedMillis (nanoseconds : Nat) : Binary64 :=
  .mul (elapsedSeconds nanoseconds) (.ofNat 1000)

namespace AssociationId

/-- The word that every id starts with. -/
def word : String := "assoc"

/-- The text of an id. -/
def text (id : AssociationId) : String :=
  "-".intercalate [word, toString id.time.toNat, toString id.process.toNat,
    toString id.sequence.toNat]

/-- The first running number. -/
def firstSequence : UInt64 := 1

/-- The ids that a process makes from a running number on, one for each reading of its clock. -/
def series (process : UInt32) (sequence : UInt64) : List Int → List AssociationId
  | [] => []
  | reading :: rest => ⟨clockMillis reading, process, sequence⟩ :: series process (sequence + 1) rest

@[simp]
theorem length_series (process : UInt32) (sequence : UInt64) (readings : List Int) :
    (series process sequence readings).length = readings.length := by
  induction readings generalizing sequence with
  | nil => rfl
  | cons reading rest ih => simp [series, ih]

end AssociationId

end TelemetryGate
