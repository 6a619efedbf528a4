import TelemetryGate.Binary64.Basic

/-!
# TOML values

The values of a TOML document. Dates and times are kept by their parts and written in one form.
-/

namespace TelemetryGate.Toml

/-- A day of the calendar. -/
structure Date where
  /-- The year, of four digits. -/
  year : Nat
  /-- The month, from one. -/
  month : Nat
  /-- The day of the month, from one. -/
  day : Nat
  deriving DecidableEq, Repr

/-- A time of day. -/
structure Time where
  /-- The hour. -/
  hour : Nat
  /-- The minute. -/
  minute : Nat
  /-- The second. -/
  second : Nat
  /-- The rest of the second in billionths. -/
  nanosecond : Nat
  deriving DecidableEq, Repr

/-- How far a time is from universal time. -/
inductive Offset where
  /-- It is universal time. -/
  | universal
  /-- By some minutes, east of it if positive. -/
  | minutes (m : Int)
  deriving DecidableEq, Repr

/-- A date, a time, or both, in which case the offset may be known. -/
inductive Moment where
  /-- A day. -/
  | day (date : Date)
  /-- A time of any day. -/
  | clock (time : Time)
  /-- A time of a day. -/
  | instant (date : Date) (time : Time) (offset : Option Offset)
  deriving DecidableEq, Repr

/-- A number with zeros in front up to a width. -/
def padded (width n : Nat) : String :=
  let digits := toString n
  "".pushn '0' (width - digits.length) ++ digits

/-- The text of a day. -/
def Date.text (d : Date) : String := padded 4 d.year ++ "-" ++ padded 2 d.month ++ "-" ++ padded 2 d.day

/-- The text of a time. The fraction of a second has no zeros at its end. -/
def Time.text (t : Time) : String :=
  let fraction := (padded 9 t.nanosecond).toList.reverse.dropWhile (· = '0')
  padded 2 t.hour ++ ":" ++ padded 2 t.minute ++ ":" ++ padded 2 t.second ++
    (if fraction.isEmpty then "" else "." ++ String.ofList fraction.reverse)

/-- The text of an offset. -/
def Offset.text : Offset → String
  | .universal => "Z"
  | .minutes m =>
    (if m < 0 then "-" else "+") ++ padded 2 (m.natAbs / 60) ++ ":" ++ padded 2 (m.natAbs % 60)

/-- The text of a date, a time, or both. -/
def Moment.text : Moment → String
  | .day d => d.text
  | .clock t => t.text
  | .instant d t offset => d.text ++ "T" ++ t.text ++ (offset.map Offset.text).getD ""

/-- A TOML value. -/
inductive Value where
  /-- A text. -/
  | text (s : String)
  /-- A whole number of 64 bits. -/
  | int (i : Int)
  /-- A double. -/
  | float (x : Binary64)
  /-- A truth value. -/
  | bool (b : Bool)
  /-- A date, a time, or both. -/
  | moment (m : Moment)
  /-- A list of values. -/
  | array (items : List Value)
  /-- Values under keys. -/
  | table (entries : List (String × Value))
  deriving Repr, Inhabited

end TelemetryGate.Toml
