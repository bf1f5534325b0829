import SpringAtlas.Calendar
import SpringAtlas.Decimal.Double

/-!
# `Calendar.Epoch` — times as seconds since 1970

A number of seconds, with a fraction or without, is a time in universal time. The fraction is rounded to
microseconds, a tie going to the even one.

## Contents
* `EpochError` — why a number is no time
* `microOfDouble` — seconds as microseconds
* `Timestamp.ofUnixMicro` — the time so many microseconds after the start of 1970
-/

namespace SpringAtlas

/-- Why a number of seconds is no time. -/
inductive EpochError where
  | notANumber
  /-- more seconds than a clock counts -/
  | outOfRange
  /-- more years than a calendar counts -/
  | tooFar
  | calendar (cause : CalendarError)
deriving Repr, BEq, DecidableEq

def EpochError.message : EpochError → String
  | notANumber => "Invalid value NaN (not a number)"
  | outOfRange => "timestamp out of range for platform time_t"
  | tooFar => "[Errno 75] Value too large for defined data type"
  | calendar cause => cause.message

/-- A whole number of seconds as microseconds. Clocks count seconds with 64 bits. -/
def microOfSeconds (n : Int) : Except EpochError Int :=
  let limit : Int := Nat.pow 2 63
  if -limit ≤ n && n < limit then .ok (n * 1000000) else .error .outOfRange

/-- Seconds as microseconds: the fraction is taken to microseconds as a double, and then rounded. -/
def microOfDouble : Double → Except EpochError Int
  | .nan => .error .notANumber
  | .infinite _ => .error .outOfRange
  | .finite negative m e => do
    let r := Double.magnitude m e
    let micro := match (Double.ofRatio false (r.1 % r.2) r.2).mul (.ofNat 1000000) with
      | .finite _ m e => roundHalfEven (Double.magnitude m e).1 (Double.magnitude m e).2
      | _ => 0
    let sign : Int := if negative then -1 else 1
    return (← microOfSeconds (sign * (r.1 / r.2 : Nat))) + sign * micro

/-- The year of a day, counted from the first of January of year 1; it may be zero or less. -/
def yearOfDay (day : Int) : Int :=
  (Date.ofDayNumber (day % 146097).toNat).year + 400 * (day / 146097)

/-- The day on which 1970 starts. -/
def epochDay : Int := 719162

/-- Whether a year is one that dates have. Years are counted with 32 bits. -/
def checkYear (year : Int) : Except EpochError Unit :=
  if year < 1 || 9999 < year then .error (.calendar (.year (year.bmod (Nat.pow 2 32)))) else .ok ()

/-- The time so many microseconds after the start of 1970, in universal time. -/
def Timestamp.ofUnixMicro (micro : Int) : Except EpochError Timestamp := do
  let day := epochDay + micro / 86400000000
  let year := yearOfDay day
  if year - 1900 < -2147483648 || 2147483647 < year - 1900 then throw .tooFar
  checkYear year
  let s := (micro % 86400000000 / 1000000).toNat
  return { date := .ofDayNumber day.toNat, hour := s / 3600, minute := s / 60 % 60, second := s % 60
           micro := (micro % 1000000).toNat, offset := some 0 }

/-- The same on a local clock, which also looks a day back for a change of its offset. -/
def Timestamp.ofUnixMicroLocal (micro : Int) : Except EpochError Timestamp := do
  let t ← ofUnixMicro micro
  checkYear (yearOfDay (epochDay + micro / 86400000000 - 1))
  return { t with offset := none }

end SpringAtlas
