import DesiredState.Yaml.Cursor

/-!
# Dates in YAML

Plain scalars that are dates. A date is a year of four digits, a month and a day between dashes. A
time of day may follow, with a fraction of a second and a zone; then month and day may be written
with one digit. A text that is written like a date has to be one of the calendar.

* `Date.ofText?`: the date that a text spells.
* `Date.fault?`: why there is no such date.
-/

namespace DesiredState.Yaml

/-- The text is some digits, as many as one of `lengths`. -/
def isNumeral (lengths : List Nat) (t : Text) : Bool :=
  lengths.contains t.length && t.all CodePoint.isAsciiDigit

/-- A time of day, in a zone that is so many minutes ahead. -/
structure DayTime where
  hour : Nat
  minute : Nat
  second : Nat
  ahead : Int

namespace DayTime

/-- The minutes that a zone is ahead, which a text spells up to its colon; `minutes` is what follows
colons. -/
def ahead? (t : Text) (minutes : List Text) : Option Int :=
  match t with
  | [] => if minutes.isEmpty then some 0 else none
  | c :: t =>
    if c = 'Z' then if t.isEmpty && minutes.isEmpty then some 0 else none
    else if (c = '+' || c = '-') && isNumeral [1, 2] t && minutes.length ≤ 1 &&
        minutes.all (isNumeral [2]) then
      let ahead : Int := Text.digitsVal t * 60 + Text.digitsVal (minutes.headD [])
      some (if c = '-' then -ahead else ahead)
    else none

/-- The time of day that a text spells. -/
def ofText? (t : Text) : Option DayTime :=
  match Text.splitAt ':' t with
  | hour :: minute :: rest :: minutes =>
    let second := rest.take 2
    let rest := match rest.drop 2 with
      | c :: t => if c = '.' then t.dropWhile CodePoint.isAsciiDigit else c :: t
      | [] => []
    if isNumeral [1, 2] hour && isNumeral [2] minute && isNumeral [2] second then
      (ahead? (rest.dropWhile isSpacing) minutes).map fun ahead =>
        ⟨Text.digitsVal hour, Text.digitsVal minute, Text.digitsVal second, ahead⟩
    else none
  | _ => none

end DayTime

/-- A date as it is written, perhaps with a time. -/
structure Date where
  year : Nat
  month : Nat
  day : Nat
  time : Option DayTime

namespace Date

/-- The date that a text spells. -/
def ofText? (t : Text) : Option Date :=
  let isSeparator (c : CodePoint) : Bool := isSpacing c || isOneOf "Tt" c
  match Text.splitAt '-' (t.takeWhile (!isSeparator ·)), t.dropWhile (!isSeparator ·) with
  | [year, month, day], [] =>
    if isNumeral [4] year && isNumeral [2] month && isNumeral [2] day then
      some ⟨Text.digitsVal year, Text.digitsVal month, Text.digitsVal day, none⟩
    else none
  | [year, month, day], c :: rest =>
    if isNumeral [4] year && isNumeral [1, 2] month && isNumeral [1, 2] day then
      (DayTime.ofText? (if isSpacing c then rest.dropWhile isSpacing else rest)).map fun time =>
        ⟨Text.digitsVal year, Text.digitsVal month, Text.digitsVal day, some time⟩
    else none
  | _, _ => none

/-- The days of a month. -/
def daysIn (year month : Nat) : Nat :=
  let isLeap := year % 4 = 0 && (year % 100 ≠ 0 || year % 400 = 0)
  if month = 2 then if isLeap then 29 else 28
  else if [4, 6, 9, 11].contains month then 30
  else 31

/-- A span of minutes as messages show it. -/
def shownSpan (minutes : Int) : Text :=
  let days := minutes / 1440
  let seconds := minutes % 1440 * 60
  ("datetime.timedelta(days=" : Text) ++ Text.ofInt days ++
    (if seconds = 0 then [] else (", seconds=" : Text) ++ Text.ofInt seconds) ++ ")"

/-- Why there is no such time of day. -/
def timeFault? (time : DayTime) : Option Text :=
  if 23 < time.hour then some "hour must be in 0..23"
  else if 59 < time.minute then some "minute must be in 0..59"
  else if 59 < time.second then some "second must be in 0..59"
  else none

/-- Why there is no such date. The zone is looked at first, and the time of day last. -/
def fault? (d : Date) : Option Text :=
  let ahead := d.time.elim 0 DayTime.ahead
  if 1440 ≤ ahead.natAbs then
    some (("offset must be a timedelta strictly between -timedelta(hours=24) and " : Text) ++
      "timedelta(hours=24), not " ++ shownSpan ahead ++ ".")
  else if d.year = 0 then some "year 0 is out of range"
  else if d.month = 0 || 12 < d.month then some "month must be in 1..12"
  else if d.day = 0 || daysIn d.year d.month < d.day then some "day is out of range for month"
  else d.time.bind timeFault?

end Date

end DesiredState.Yaml
