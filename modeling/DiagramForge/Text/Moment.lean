import DiagramForge.Text.Blank

/-!
# Moments

How a moment in time is written: the date of the calendar that is in use everywhere, the time of
day, the fraction of the second unless it is zero, and the offset from universal time, which is
always zero here.
-/

namespace DiagramForge.Text

/-- A day of the calendar. -/
structure Day where
  /-- The year. -/
  year : Nat
  /-- The month, from 1 to 12. -/
  month : Nat
  /-- The day of the month, from 1 on. -/
  day : Nat
deriving DecidableEq

/-- How many days lie between the first of March of the year zero and the first of January of
1970. -/
def epochOffset : Nat := 719468

/-- The day that is some number of days after the first of January of 1970. Years are counted from
March on, so that the leap day is the last one of its year; 400 years have 146097 days. -/
def Day.ofEpoch (days : Nat) : Day :=
  let n := days + epochOffset
  let era := n / 146097
  let dayOfEra := n % 146097
  let yearOfEra := (dayOfEra - dayOfEra / 1460 + dayOfEra / 36524 - dayOfEra / 146096) / 365
  let dayOfYear := dayOfEra - (365 * yearOfEra + yearOfEra / 4 - yearOfEra / 100)
  let month := (5 * dayOfYear + 2) / 153
  let day := dayOfYear - (153 * month + 2) / 5 + 1
  let year := yearOfEra + era * 400
  if month < 10 then ⟨year, month + 3, day⟩ else ⟨year + 1, month - 9, day⟩

example : Day.ofEpoch 0 = ⟨1970, 1, 1⟩ := by decide
example : Day.ofEpoch 11016 = ⟨2000, 2, 29⟩ := by decide
example : Day.ofEpoch 19723 = ⟨2024, 1, 1⟩ := by decide

/-- A number with at least some number of digits. -/
def padded (width n : Nat) : String :=
  let digits := toString n
  String.ofList (List.replicate (width - digits.length) '0') ++ digits

/-- Writes the moment that is some number of microseconds after the beginning of 1970. -/
def writeMoment (microseconds : Nat) : String :=
  let fraction := microseconds % 1000000
  let seconds := microseconds / 1000000
  let date := Day.ofEpoch (seconds / 86400)
  padded 4 date.year ++ "-" ++ padded 2 date.month ++ "-" ++ padded 2 date.day ++ "T"
    ++ padded 2 (seconds / 3600 % 24) ++ ":" ++ padded 2 (seconds / 60 % 60) ++ ":"
    ++ padded 2 (seconds % 60) ++ (if fraction = 0 then "" else "." ++ padded 6 fraction)
    ++ "+00:00"

end DiagramForge.Text
