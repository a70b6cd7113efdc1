import SchemaEvolution.Calendar
import SchemaEvolution.Document
import SchemaEvolution.Text.Reader

/-!
# Dates and times of TOML

A date, a time of day, or a date with a time and perhaps an offset, each of them possible on a
calendar and a clock. A second may be a leap second.
-/

namespace SchemaEvolution.Toml

open Text (Reader)

/-- A number in a fixed number of digits between two bounds. -/
def digitsBetween (width low high : Nat) : Reader Nat := fun s => do
  let (digits, s) ← Reader.exactly Char.isDigit width s
  let n := Decimal.value 10 digits
  if low ≤ n && n ≤ high then return (n, s) else none

/-- A date. -/
def date : Reader Unit := fun s => do
  let (year, s) ← digitsBetween 4 0 9999 s
  let (_, s) ← Reader.char '-' s
  let (month, s) ← digitsBetween 2 1 12 s
  let (_, s) ← Reader.char '-' s
  let (_, s) ← digitsBetween 2 1 (Calendar.daysInMonth year month) s
  return ((), s)

/-- The digits after the point in a number of seconds. -/
def secondFraction : Reader Unit := fun s => do
  let (_, s) ← Reader.char '.' s
  let (_, s) ← Reader.satisfying Char.isDigit s
  return ((), s.dropWhile Char.isDigit)

/-- A time of day. -/
def time : Reader Unit := fun s => do
  let (_, s) ← digitsBetween 2 0 23 s
  let (_, s) ← Reader.char ':' s
  let (_, s) ← digitsBetween 2 0 59 s
  let (_, s) ← Reader.char ':' s
  let (_, s) ← digitsBetween 2 0 60 s
  return ((), (Reader.optional secondFraction s).2)

/-- The distance of a time from universal time. -/
def offset : Reader Unit := fun s => do
  let (mark, s) ← Reader.satisfying (fun c => c = 'Z' || c = 'z' || c = '+' || c = '-') s
  if mark = 'Z' || mark = 'z' then return ((), s)
  let (_, s) ← digitsBetween 2 0 23 s
  let (_, s) ← Reader.char ':' s
  let (_, s) ← digitsBetween 2 0 59 s
  return ((), s)

/-- The time that belongs to a date, with the character between the two. -/
def timeOfDate : Reader Unit := fun s => do
  let (_, s) ← Reader.satisfying (fun c => c = 'T' || c = 't' || c = ' ') s
  let (_, s) ← time s
  return ((), (Reader.optional offset s).2)

/-- A date with or without a time. -/
def dateAndTime : Reader Unit := fun s => do
  let (_, s) ← date s
  return ((), (Reader.optional timeOfDate s).2)

/-- A date, a time or both. -/
def moment : Reader Node := fun s => do
  let (_, s) ← dateAndTime s <|> time s
  return (.moment, s)

end SchemaEvolution.Toml
