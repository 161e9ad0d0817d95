/-! # Dates and Moments

    Days of the Gregorian calendar from year 1 to 9999, and moments: a day,
    a time of day to the microsecond and, if known, the distance from
    universal time. Values are built by `Date.of?` and `Moment.of?`, which
    name the first part that is out of range.
-/

namespace RoleGuard

/-- A day of the calendar. -/
structure Date where
  /-- 1 to 9999 -/
  year : Nat
  /-- 1 to 12 -/
  month : Nat
  /-- 1 to the length of the month -/
  day : Nat
deriving DecidableEq, Repr, Inhabited

/-- A day and a time of day. -/
structure Moment where
  /-- the day -/
  date : Date
  /-- 0 to 23 -/
  hour : Nat
  /-- 0 to 59 -/
  minute : Nat
  /-- 0 to 59 -/
  second : Nat
  /-- 0 to 999999 -/
  micro : Nat
  /-- minutes east of universal time, if known -/
  offset : Option Int
deriving DecidableEq, Repr, Inhabited

namespace Calendar

/-- The part of a date or time that is out of range. -/
inductive OutOfRange where
  /-- the year is 0 or beyond 9999 -/
  | year (y : Nat)
  /-- no such month -/
  | month
  /-- no such day in its month -/
  | day
  /-- no such hour -/
  | hour
  /-- no such minute -/
  | minute
  /-- no such second -/
  | second
  /-- a day or more from universal time, in minutes -/
  | offset (minutes : Int)
deriving DecidableEq, Repr

/-- Leap years of the Gregorian calendar. -/
def isLeap (year : Nat) : Bool :=
  year % 4 == 0 && (year % 100 != 0 || year % 400 == 0)

/-- The number of days of a month. -/
def daysIn (year month : Nat) : Nat :=
  if month = 2 then (if isLeap year then 29 else 28)
  else if month = 4 || month = 6 || month = 9 || month = 11 then 30
  else 31

/-- A number with leading zeros up to a width. -/
def padded (width n : Nat) : String :=
  let digits := toString n
  String.ofList (List.replicate (width - digits.length) '0') ++ digits

/-- The days of the years before `year`. -/
def daysBeforeYear (year : Nat) : Nat :=
  let y := year - 1
  y * 365 + y / 4 - y / 100 + y / 400

/-- The length of a span in whole days and remaining seconds, as the text of a duration value. -/
def durationText (minutes : Int) : String :=
  -- a negative span counts whole days down and seconds up
  let days := Int.fdiv minutes 1440
  let seconds := (minutes - days * 1440) * 60
  let parts := (if days = 0 then [] else ["days=" ++ toString days]) ++
    (if seconds = 0 then [] else ["seconds=" ++ toString seconds])
  "datetime.timedelta(" ++ ", ".intercalate (if parts.isEmpty then ["0"] else parts) ++ ")"

/-- The wording of a range error. -/
def OutOfRange.message : OutOfRange → String
  | .year y => "year " ++ toString y ++ " is out of range"
  | .month => "month must be in 1..12"
  | .day => "day is out of range for month"
  | .hour => "hour must be in 0..23"
  | .minute => "minute must be in 0..59"
  | .second => "second must be in 0..59"
  | .offset minutes =>
    "offset must be a timedelta strictly between -timedelta(hours=24) and timedelta(hours=24), not "
      ++ durationText minutes ++ "."

end Calendar

open Calendar

namespace Date

/-- A day, if year, month and day are in range. -/
def of? (year month day : Nat) : Except OutOfRange Date :=
  if year = 0 || year > 9999 then .error (.year year)
  else if month = 0 || month > 12 then .error .month
  else if day = 0 || day > daysIn year month then .error .day
  else .ok ⟨year, month, day⟩

/-- Days since the day before 1 January of year 1. -/
def ordinal (d : Date) : Nat :=
  (List.range (d.month - 1)).foldl (fun days i => days + daysIn d.year (i + 1))
    (daysBeforeYear d.year) + d.day

/-- Year, month and day with hyphens. -/
def iso (d : Date) : String :=
  padded 4 d.year ++ "-" ++ padded 2 d.month ++ "-" ++ padded 2 d.day

end Date

namespace Moment

/-- A moment, if every part is in range. The offset is looked at first. -/
def of? (year month day hour minute second micro : Nat) (offset : Option Int) :
    Except OutOfRange Moment := do
  match offset with
  | some m => if m ≤ -1440 || 1440 ≤ m then throw (.offset m)
  | none => pure ()
  let date ← Date.of? year month day
  if hour > 23 then throw .hour
  if minute > 59 then throw .minute
  if second > 59 then throw .second
  return ⟨date, hour, minute, second, micro, offset⟩

/-- The distance from universal time as sign, hours and minutes. -/
def offsetText : Option Int → String
  | none => ""
  | some m =>
    let n := m.natAbs
    (if m < 0 then "-" else "+") ++ padded 2 (n / 60) ++ ":" ++ padded 2 (n % 60)

/-- Date and time with a separator; a fraction only when it is not zero. -/
def iso (sep : String) (t : Moment) : String :=
  t.date.iso ++ sep ++ padded 2 t.hour ++ ":" ++ padded 2 t.minute ++ ":" ++ padded 2 t.second ++
    (if t.micro = 0 then "" else "." ++ padded 6 t.micro) ++ offsetText t.offset

/-- Microseconds since the start of the calendar, in universal time when the offset is known. -/
def instant (t : Moment) : Int :=
  (((t.date.ordinal * 24 + t.hour : Nat) * 60 + t.minute : Int) - t.offset.getD 0) * 60000000
    + (t.second * 1000000 + t.micro : Nat)

/-- Moments are the same when both lack an offset or both have one, and they name one instant. -/
def same (a b : Moment) : Bool :=
  a.offset.isSome == b.offset.isSome && a.instant == b.instant

end Moment

end RoleGuard
