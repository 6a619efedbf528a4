import TelemetryGate.Toml.Reader
import TelemetryGate.Toml.Value
import TelemetryGate.Text.Digits
import TelemetryGate.Words

/-!
# Dates and times in TOML text

Days of the calendar, times of day with up to nine digits behind the point that count, and offsets.
-/

namespace TelemetryGate.Toml

/-- A leap year of the calendar. -/
def isLeapYear (year : Nat) : Bool := year % 4 == 0 && (year % 100 != 0 || year % 400 == 0)

/-- How many days a month has. -/
def daysInMonth (year month : Nat) : Nat :=
  if month = 2 then if isLeapYear year then 29 else 28
  else if month = 4 ∨ month = 6 ∨ month = 9 ∨ month = 11 then 30
  else 31

namespace Reader

/-- Read a number of a certain count of digits, between two bounds. -/
def fixed (count least greatest : Nat) : Reader Nat := do
  let ds ← (List.range count).mapM fun _ => satisfy Char.isDigit
  let n := Text.decimal ds
  if least ≤ n ∧ n ≤ greatest then pure n else failure

/-- Read a day. -/
def date : Reader Date := do
  let year ← fixed 4 0 9999
  char '-'
  let month ← fixed 2 1 12
  char '-'
  let day ← fixed 2 1 31
  if day ≤ daysInMonth year month then pure ⟨year, month, day⟩ else failure

/-- Read the fraction of a second, in billionths. Further digits do not count. -/
def billionths : Reader Nat := do
  char '.'
  let first ← satisfy Char.isDigit
  let more ← many Char.isDigit
  let ds := (first :: more).take 9
  pure (Text.decimal ds * tenPow (9 - ds.length))

/-- Read a time of day. -/
def time : Reader Time := do
  let hour ← fixed 2 0 23
  char ':'
  let minute ← fixed 2 0 59
  char ':'
  let second ← fixed 2 0 60
  let part ← optional billionths
  pure ⟨hour, minute, second, part.getD 0⟩

/-- Read an offset. -/
def offset : Reader Offset := do
  match ← satisfy fun c => c = 'Z' || c = 'z' || c = '+' || c = '-' with
  | '+' => .minutes <$> distance
  | '-' => do return .minutes (-(← distance))
  | _ => pure .universal
where
  /-- Read hours and minutes, as minutes. -/
  distance : Reader Int := do
    let hours ← fixed 2 0 23
    char ':'
    let minutes ← fixed 2 0 59
    pure (hours * 60 + minutes : Nat)

/-- Read the time behind a day, and its offset. -/
def timeOfDay : Reader (Time × Option Offset) := do
  let _ ← satisfy fun c => c = 'T' || c = 't' || c = ' '
  let t ← time
  pure (t, ← optional offset)

/-- Read a day, a time, or both. -/
def moment : Reader Moment := day <|> Moment.clock <$> time
where
  /-- Read a day and the time behind it, if there is one. -/
  day : Reader Moment := do
    let d ← date
    match ← optional timeOfDay with
    | some (t, o) => pure (.instant d t o)
    | none => pure (.day d)

end Reader

end TelemetryGate.Toml
