import DesiredState.Text.Basic

/-!
# Moments

A moment is a number of seconds since the first of January 1970, without leap seconds. Its date is
that of the Gregorian calendar, extended to all years, and its time is universal time.

* `Moment.ofSeconds`: date and time of a moment.
-/

namespace DesiredState

/-- The date and time of a moment. The weekday is counted from Sunday, the day of the year from
zero. -/
structure Moment where
  seconds : Int
  year : Int
  month : Nat
  day : Nat
  yearDay : Nat
  weekday : Nat
  hour : Nat
  minute : Nat
  second : Nat
  deriving DecidableEq

namespace Moment

/-- The year has a twenty-ninth of February. -/
def isLeap (year : Int) : Bool := year % 4 = 0 && (year % 100 ≠ 0 || year % 400 = 0)

/-- The days of a year before its months, counted from a first of March. -/
def daysBeforeMonth (march : Nat) : Nat := (153 * march + 2) / 5

/-- The date of a day counted from the first of January 1970: year, month and day. The year is
taken to begin in March, so that the leap day is its last. -/
def dateOfDay (n : Int) : Int × Nat × Nat :=
  let z := n + 719468
  let era := z.fdiv 146097
  let dayOfEra := (z - era * 146097).toNat
  let yearOfEra := (dayOfEra - dayOfEra / 1460 + dayOfEra / 36524 - dayOfEra / 146096) / 365
  let dayOfYear := dayOfEra - (365 * yearOfEra + yearOfEra / 4 - yearOfEra / 100)
  let march := (5 * dayOfYear + 2) / 153
  let day := dayOfYear - daysBeforeMonth march + 1
  let month := if march < 10 then march + 3 else march - 9
  let year := (yearOfEra : Int) + era * 400
  (if month ≤ 2 then year + 1 else year, month, day)

/-- The day of the year, counted from zero. -/
def dayOfYear (year : Int) (month day : Nat) : Nat :=
  if month ≤ 2 then 31 * (month - 1) + day - 1
  else 59 + (if isLeap year then 1 else 0) + daysBeforeMonth (month - 3) + day - 1

/-- Date and time of a number of seconds. -/
def ofSeconds (seconds : Int) : Moment :=
  let days := seconds.fdiv 86400
  let rest := (seconds - days * 86400).toNat
  let (year, month, day) := dateOfDay days
  { seconds, year, month, day
    yearDay := dayOfYear year month day
    weekday := ((days + 4) % 7).toNat
    hour := rest / 3600
    minute := rest / 60 % 60
    second := rest % 60 }

/-- The names of the weekdays. -/
def weekdays : List Text :=
  ["Sunday", "Monday", "Tuesday", "Wednesday", "Thursday", "Friday", "Saturday"]

/-- The names of the months. -/
def months : List Text :=
  ["January", "February", "March", "April", "May", "June", "July", "August", "September",
    "October", "November", "December"]

/-- The name of the weekday. -/
def weekdayName (m : Moment) : Text := weekdays.getD m.weekday []

/-- The name of the month. -/
def monthName (m : Moment) : Text := months.getD (m.month - 1) []

/-- The hour on a dial. -/
def dialHour (m : Moment) : Nat := if m.hour % 12 = 0 then 12 else m.hour % 12

/-- The week of the year, counted from the first of some weekday: `0` is Sunday. -/
def week (m : Moment) (first : Nat) : Nat := (m.yearDay + 7 - (m.weekday + 7 - first) % 7) / 7

/-- The number of weeks in a year whose weeks begin on Monday and belong to the year that has
their Thursday. -/
def weeksIn (year : Int) : Nat :=
  let p (y : Int) : Int := (y + y.fdiv 4 - y.fdiv 100 + y.fdiv 400) % 7
  if p year = 4 ∨ p (year - 1) = 3 then 53 else 52

/-- The year that has the Thursday of the week, and the number of the week in it. -/
def isoWeek (m : Moment) : Int × Nat :=
  let monday := if m.weekday = 0 then 7 else m.weekday
  let n := (m.yearDay + 1 + 10 - monday) / 7
  if n = 0 then (m.year - 1, weeksIn (m.year - 1))
  else if n = 53 ∧ weeksIn m.year = 52 then (m.year + 1, 1)
  else (m.year, n)

/-- The hour and minute. -/
def clock (m : Moment) : Text := Text.padded 2 m.hour ++ ":" ++ Text.padded 2 m.minute

/-- The time of day. -/
def time (m : Moment) : Text := m.clock ++ ":" ++ Text.padded 2 m.second

/-- Month, day, and the last two digits of the year. -/
def slashed (m : Moment) : Text :=
  Text.padded 2 m.month ++ "/" ++ Text.padded 2 m.day ++ "/" ++
    Text.padded 2 (m.year % 100).toNat

/-- Year, month and day. -/
def dashed (m : Moment) : Text :=
  Text.ofInt m.year ++ "-" ++ Text.padded 2 m.month ++ "-" ++ Text.padded 2 m.day

/-- Before or after noon. -/
def half (m : Moment) : Text := if m.hour < 12 then "AM" else "PM"

/-- The time of day on a dial. -/
def dialTime (m : Moment) : Text :=
  Text.padded 2 m.dialHour ++ ":" ++ Text.padded 2 m.minute ++ ":" ++ Text.padded 2 m.second ++
    " " ++ m.half

/-- Weekday, month, day, time and year. -/
def written (m : Moment) : Text :=
  let day : Text := if m.day < 10 then ' ' :: Text.decimal m.day else Text.decimal m.day
  m.weekdayName.take 3 ++ " " ++ m.monthName.take 3 ++ " " ++ day ++ " " ++ m.time ++ " " ++
    Text.ofInt m.year

end Moment

end DesiredState
