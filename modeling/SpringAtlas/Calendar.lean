import SpringAtlas.Total

/-!
# `Calendar` — dates and times

Dates of the Gregorian calendar, times of day with microseconds, and offsets from universal time.

## Contents
* `Date`, `Date.check`, `Date.ofWeek?` — dates and when they exist
* `Timestamp`, `Timestamp.check`, `Timestamp.write` — dates with a time
* `Timestamp.sameInstant` — when two times are the same
-/

namespace SpringAtlas

/-- Why a date or time does not exist. -/
inductive CalendarError where
  | year (n : Int)
  | month
  | day
  | hour
  | minute
  | second
  /-- an offset of a day or more, in microseconds -/
  | offset (micro : Int)
deriving Repr, BEq, DecidableEq

structure Date where
  year : Nat
  month : Nat
  day : Nat
deriving Repr, BEq, DecidableEq

/-- A number in decimal with at least `width` digits. -/
def padded (width n : Nat) : String :=
  let ds := Nat.toDigits 10 n
  String.ofList (List.replicate (width - ds.length) '0' ++ ds)

/-! ## Offsets -/

/-- A span of microseconds as days, the seconds of the last day and the microseconds of the last second. -/
def spanText (micro : Int) : String :=
  let part (name : String) (n : Int) : List String := if n = 0 then [] else [name ++ "=" ++ toString n]
  let parts := part "days" (micro / 86400000000) ++ part "seconds" (micro % 86400000000 / 1000000) ++
    part "microseconds" (micro % 1000000)
  "datetime.timedelta(" ++ (if parts.isEmpty then "0" else ", ".intercalate parts) ++ ")"

def CalendarError.message : CalendarError → String
  | year n => "year " ++ toString n ++ " is out of range"
  | month => "month must be in 1..12"
  | day => "day is out of range for month"
  | hour => "hour must be in 0..23"
  | minute => "minute must be in 0..59"
  | second => "second must be in 0..59"
  | offset micro => "offset must be a timedelta strictly between -timedelta(hours=24) and " ++
      "timedelta(hours=24), not " ++ spanText micro ++ "."

/-! ## Dates -/

namespace Date

def isLeap (year : Nat) : Bool :=
  year % 4 == 0 && (year % 100 != 0 || year % 400 == 0)

def daysInMonth (year month : Nat) : Nat :=
  if month = 2 then (if isLeap year then 29 else 28)
  else if [4, 6, 9, 11].contains month then 30 else 31

/-- The date, if it exists. -/
def check (d : Date) : Except CalendarError Date :=
  if d.year < 1 || 9999 < d.year then .error (.year d.year)
  else if d.month < 1 || 12 < d.month then .error .month
  else if d.day < 1 || daysInMonth d.year d.month < d.day then .error .day
  else .ok d

/-- Days before the first of January of a year, counted from the first of January of year 1. -/
def daysBeforeYear (year : Nat) : Nat :=
  let y := year - 1
  y * 365 + y / 4 - y / 100 + y / 400

def daysBeforeMonth (year month : Nat) : Nat :=
  total ((List.range' 1 (month - 1)).map (daysInMonth year))

/-- Days from the first of January of year 1 up to this date. -/
def dayNumber (d : Date) : Nat :=
  daysBeforeYear d.year + daysBeforeMonth d.year d.month + (d.day - 1)

/-- The month that holds the `n`-th day of the year, from the given month on, and the day in it. -/
def monthAndDay (year : Nat) : Nat → Nat → Nat → Nat × Nat
  | 0, month, n => (month, n + 1)
  | fuel + 1, month, n =>
    if n < daysInMonth year month then (month, n + 1)
    else monthAndDay year fuel (month + 1) (n - daysInMonth year month)

/-- The date with a day number. The year is found from an estimate that is at most one too large. -/
def ofDayNumber (n : Nat) : Date :=
  let guess := n * 400 / 146097 + 1
  let year := if n < daysBeforeYear guess then guess - 1
    else if daysBeforeYear (guess + 1) ≤ n then guess + 1 else guess
  let (month, day) := monthAndDay year 11 1 (n - daysBeforeYear year)
  ⟨year, month, day⟩

/-- The day number of the Monday that starts the first week of a year, the week of its first Thursday. -/
def firstMonday (year : Nat) : Int :=
  let first : Int := daysBeforeYear year
  let weekday := first % 7
  if weekday > 3 then first - weekday + 7 else first - weekday

/-- A year with 53 weeks starts on a Thursday, or on a Wednesday if it is a leap year. -/
def hasLongWeekYear (year : Nat) : Bool :=
  let weekday := daysBeforeYear year % 7
  weekday == 3 || (weekday == 2 && isLeap year)

/-- The date of a day (1 is Monday) of a week of a year. Year zero has no dates; the one given for it does not
    exist. -/
def ofWeek? (year week day : Nat) : Option Date :=
  if 9999 < year || week < 1 || (if hasLongWeekYear year then 53 else 52) < week || day < 1 || 7 < day
  then none
  else if year = 0 then some ⟨1, 0, 1⟩
  else
    let n := firstMonday year + ((week - 1) * 7 + (day - 1) : Nat)
    if n < 0 then none else some (ofDayNumber n.toNat)

def write (d : Date) : String :=
  padded 4 d.year ++ "-" ++ padded 2 d.month ++ "-" ++ padded 2 d.day

end Date

/-! ## Times -/

/-- A date with a time of day and, if known, the offset from universal time in microseconds. -/
structure Timestamp where
  date : Date
  hour : Nat := 0
  minute : Nat := 0
  second : Nat := 0
  micro : Nat := 0
  offset : Option Int := none
deriving Repr, BEq, DecidableEq

namespace Timestamp

/-- The time, if it exists; an offset is less than a day. -/
def check (t : Timestamp) : Except CalendarError Timestamp := do
  match t.offset with
  | some o => if 86400000000 ≤ o.natAbs then throw (.offset o)
  | none => pure ()
  let _ ← t.date.check
  if 23 < t.hour then throw .hour
  if 59 < t.minute then throw .minute
  if 59 < t.second then throw .second
  return t

def writeClock (t : Timestamp) : String :=
  padded 2 t.hour ++ ":" ++ padded 2 t.minute ++ ":" ++ padded 2 t.second

/-- An offset as `+HH:MM`, with seconds and microseconds if it has any. -/
def writeOffset (o : Int) : String :=
  let n := o.natAbs
  let seconds := n / 1000000
  let micro := n % 1000000
  (if o < 0 then "-" else "+") ++ padded 2 (seconds / 3600) ++ ":" ++ padded 2 (seconds / 60 % 60) ++
    (if seconds % 60 = 0 && micro = 0 then "" else ":" ++ padded 2 (seconds % 60)) ++
    (if micro = 0 then "" else "." ++ padded 6 micro)

/-- The time in the extended form, with `separator` between date and time of day. -/
def write (separator : String) (t : Timestamp) : String :=
  t.date.write ++ separator ++ t.writeClock ++ (if t.micro = 0 then "" else "." ++ padded 6 t.micro) ++
    (match t.offset with
      | some o => writeOffset o
      | none => "")

/-- Microseconds from the start of year 1, without regard to the offset. -/
def wallMicro (t : Timestamp) : Int :=
  (((t.date.dayNumber * 24 + t.hour) * 60 + t.minute) * 60 + t.second) * 1000000 + t.micro

/-- Whether two times are the same: with offsets they are compared in universal time, and a time with an offset is
    never the same as one without. -/
def sameInstant (a b : Timestamp) : Bool :=
  match a.offset, b.offset with
  | some x, some y => a.wallMicro - x == b.wallMicro - y
  | none, none => a.wallMicro == b.wallMicro
  | _, _ => false

end Timestamp

end SpringAtlas
