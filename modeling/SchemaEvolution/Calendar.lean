import SchemaEvolution.Decimal.Digits

/-!
# Dates and times

The Gregorian calendar, extended to all years, and the two ways in which a time is written here: as a
stamp of digits for file names and with marks between its parts, as RFC 3339 has it. A time is counted
in seconds (`Instant`); `Instant.localTime` gives what calendar and clock show for it.
-/

namespace SchemaEvolution

namespace Calendar

/-! ## Years and months -/

/-- Whether a year has a leap day. -/
def isLeapYear (year : Int) : Bool :=
  year % 4 = 0 && (year % 100 ≠ 0 || year % 400 = 0)

/-- The number of days in a month, the first of which is 1. -/
def daysInMonth (year : Int) (month : Nat) : Nat :=
  if month = 2 then (if isLeapYear year then 29 else 28)
  else if month = 4 || month = 6 || month = 9 || month = 11 then 30
  else 31

/-- The year of a day and the number of days of that year before it. Days are counted from the first
day of the year 1. -/
def yearOfDay (day : Int) : Int × Nat :=
  let inEra := (day % 146097).toNat
  -- the last century of an era and the last year of four are a day longer than the others
  let century := min 3 (inEra / 36524)
  let inCentury := inEra - century * 36524
  let inFour := inCentury % 1461
  let yearInFour := min 3 (inFour / 365)
  let year := day / 146097 * 400 + century * 100 + inCentury / 1461 * 4 + yearInFour + 1
  (year, inFour - yearInFour * 365)

/-- The month of a day and its place in the month, from 1, given the months that are left and the
number of days before it. -/
def monthOfDay (year : Int) : List Nat → Nat → Nat × Nat
  | [], day => (12, day + 1)
  | month :: months, day =>
    if day < daysInMonth year month then (month, day + 1)
    else monthOfDay year months (day - daysInMonth year month)

/-- The months of a year. -/
def months : List Nat := List.range' 1 12

/-- The number of days from the first day of the year 1 to that of 1970. -/
def epochDay : Int := 719162

/-- The number of nanoseconds in a second. -/
def secondNanos : Nat := 1000000000

/-- The number of seconds in a day. -/
def daySeconds : Int := 86400

end Calendar

/-! ## Times -/

/-- What calendar and clock show. -/
structure LocalTime where
  year : Int
  month : Nat
  day : Nat
  hour : Nat
  minute : Nat
  /-- At most 60, which is a leap second. -/
  second : Nat
  nanosecond : Nat
  /-- Seconds by which the clock is ahead of universal time. -/
  offset : Int

/-- A point in time as it is known in some place. -/
structure Instant where
  /-- Seconds since 1970 in universal time. -/
  seconds : Int
  /-- Nanoseconds since then; a leap second has up to two billion. -/
  nanoseconds : Nat
  /-- Seconds by which the clocks of the place are ahead of universal time. -/
  offset : Int

/-- What calendar and clock show in the place. -/
def Instant.localTime (t : Instant) : LocalTime :=
  let seconds := t.seconds + t.offset
  let (year, dayOfYear) := Calendar.yearOfDay (seconds / Calendar.daySeconds + Calendar.epochDay)
  let (month, day) := Calendar.monthOfDay year Calendar.months dayOfYear
  let second := (seconds % Calendar.daySeconds).toNat
  { year, month, day
    hour := second / 3600
    minute := second / 60 % 60
    second := second % 60 + t.nanoseconds / Calendar.secondNanos
    nanosecond := t.nanoseconds % Calendar.secondNanos
    offset := t.offset }

namespace LocalTime

open Decimal (padded)

/-- The year in four digits; one that takes more, or lies before the year 0, has a sign. -/
def yearText (t : LocalTime) : List Char :=
  let digits := padded 4 t.year.natAbs
  if t.year < 0 then '-' :: digits
  else if 9999 < t.year then '+' :: digits
  else digits

/-- The time as digits without marks, down to the second. -/
def stamp (t : LocalTime) : String :=
  String.ofList
    (t.yearText ++ [t.month, t.day, t.hour, t.minute, t.second].flatMap (padded 2))

/-- Date and time with marks, down to the second. -/
def dateAndTime (t : LocalTime) : List Char :=
  t.yearText ++ '-' :: padded 2 t.month ++ '-' :: padded 2 t.day ++
  'T' :: padded 2 t.hour ++ ':' :: padded 2 t.minute ++ ':' :: padded 2 t.second

/-- The part of a second, in as many groups of three digits as it takes. -/
def fraction (t : LocalTime) : List Char :=
  if t.nanosecond = 0 then []
  else if t.nanosecond % 1000000 = 0 then '.' :: padded 3 (t.nanosecond / 1000000)
  else if t.nanosecond % 1000 = 0 then '.' :: padded 6 (t.nanosecond / 1000)
  else '.' :: padded 9 t.nanosecond

/-- The distance from universal time in hours and minutes; half a minute counts as a whole one. -/
def offsetText (t : LocalTime) : List Char :=
  let minutes := (t.offset.natAbs + 30) / 60
  (if t.offset < 0 then '-' else '+') :: padded 2 (minutes / 60) ++ ':' :: padded 2 (minutes % 60)

/-- The time as RFC 3339 writes it. -/
def rfc3339 (t : LocalTime) : String :=
  String.ofList (t.dateAndTime ++ t.fraction ++ t.offsetText)

end LocalTime

end SchemaEvolution
