import SchemaEvolution.Decimal.Digits

/-!
# Binary floating point

Real numbers as documents hold them: IEEE 754 binary64. A number is read from decimal text to the
nearest value (`ofDecimal`) or in steps that each round (`ofDecimalInSteps?`), and written with the
fewest digits that read back to it, all in exact integer arithmetic. Where such digits are written
without an exponent is the writing format's choice (`Binary64.Layout`).
-/

namespace SchemaEvolution

/-- A binary64 number. A finite one is `significand * 2 ^ exponent` with its sign, where the
significand is below `2 ^ 53` and the exponent is at least `-1074`. -/
inductive Binary64 where
  | nan
  | infinite (negative : Bool)
  | finite (negative : Bool) (significand : Nat) (exponent : Int)
deriving DecidableEq

namespace Binary64

/-! ## Rational arithmetic -/

/-- A nonnegative rational number; the denominator is positive wherever one is built. -/
structure Ratio where
  num : Nat
  den : Nat

namespace Ratio

/-- The number `n * base ^ e`. -/
def scaled (n base : Nat) (e : Int) : Ratio :=
  if 0 ≤ e then ⟨n * base.pow e.toNat, 1⟩ else ⟨n, base.pow (-e).toNat⟩

/-- The product. -/
def mul (x y : Ratio) : Ratio :=
  ⟨x.num * y.num, x.den * y.den⟩

/-- The quotient. -/
def div (x y : Ratio) : Ratio :=
  ⟨x.num * y.den, x.den * y.num⟩

/-- Whether one number is at most the other. -/
def le (x y : Ratio) : Bool :=
  x.num * y.den ≤ y.num * x.den

/-- Whether one number is below the other. -/
def lt (x y : Ratio) : Bool :=
  x.num * y.den < y.num * x.den

/-- The integer part. -/
def floor (x : Ratio) : Nat :=
  x.num / x.den

/-- The nearest integer, the even one of two. -/
def round (x : Ratio) : Nat :=
  let n := x.num / x.den
  let twice := 2 * (x.num % x.den)
  if twice < x.den then n
  else if x.den < twice then n + 1
  else n + n % 2

end Ratio

/-! ## Reading -/

/-- The smallest significand that takes 53 bits. -/
def topBit : Nat := 0x10000000000000

/-- The largest exponent of a finite number. -/
def maxExponent : Int := 971

/-- The smallest exponent of a finite number. -/
def minExponent : Int := -1074

/-- The number nearest to `x`, the one with the even significand of two; infinite beyond the largest
finite one. -/
def nearest (negative : Bool) (x : Ratio) : Binary64 :=
  -- `x` lies between `2 ^ (e - 1)` and `2 ^ (e + 1)`, so one of two exponents makes 53 bits of it
  let e : Int := (x.num.log2 : Int) - (x.den.log2 : Int)
  let wide := (x.div (Ratio.scaled 1 2 (e - 52))).floor < topBit
  let exponent := max minExponent (if wide then e - 53 else e - 52)
  let significand := (x.div (Ratio.scaled 1 2 exponent)).round
  let (significand, exponent) :=
    if significand < 2 * topBit then (significand, exponent) else (topBit, exponent + 1)
  if exponent ≤ maxExponent then .finite negative significand exponent else .infinite negative

/-- Zero with a sign. -/
def zero (negative : Bool) : Binary64 :=
  .finite negative 0 minExponent

/-- The number nearest to `n * 10 ^ e`. Exponents far outside the range are settled by the number of
digits alone, so that no huge power is formed. -/
def ofDecimal (negative : Bool) (n : Nat) (e : Int) : Binary64 :=
  let magnitude := ((Decimal.digits n).length : Int) + e
  if n = 0 then zero negative
  else if 310 < magnitude then .infinite negative
  else if magnitude < -330 then zero negative
  else nearest negative (Ratio.scaled n 10 e)

/-! ## Reading in steps

A reader that is meant to be fast rounds more than once: it takes the digits of a number as an
integer, and that integer times or divided by a power of ten, with the nearest number in place of
each of the three. So what it reads may be a neighbour of the number that is nearest.
-/

/-- The nearest number in place of `x`; none beyond the largest one. -/
def rounded? (x : Ratio) : Option Ratio :=
  match nearest false x with
  | .finite _ m q => some (Ratio.scaled m 2 q)
  | _ => none

/-- The largest power of ten that is a number. -/
def maxPower : Nat := 308

/-- The number `x * 10 ^ e` in steps, if it is not too large. Where ten to the power `-e` is no
number, `x` is divided by the largest power that is one until the rest of them is. -/
def scaledInSteps? (x : Ratio) (e : Int) : Option Ratio :=
  if x.num = 0 then some x
  else if (maxPower : Int) < e then none
  else if _h : e < -(maxPower : Int) then
    ((rounded? (Ratio.scaled 1 10 maxPower)).bind fun p => rounded? (x.div p)).bind fun x =>
      scaledInSteps? x (e + maxPower)
  else
    (rounded? (Ratio.scaled 1 10 e.natAbs)).bind fun p =>
      rounded? (if 0 ≤ e then x.mul p else x.div p)
termination_by (-e).toNat
decreasing_by simp only [maxPower] at *; omega

/-- The number that `n * 10 ^ e` is read as in steps, if it is not too large. -/
def ofDecimalInSteps? (negative : Bool) (n : Nat) (e : Int) : Option Binary64 := do
  let x ← scaledInSteps? (← rounded? ⟨n, 1⟩) e
  return if x.num = 0 then zero negative else nearest negative x

/-! ## Writing -/

/-- The reals that are read as one number: those between two bounds, which belong to it or not. -/
structure Interval where
  low : Ratio
  high : Ratio
  closed : Bool

/-- Whether a real is read as the number. -/
def Interval.contains (i : Interval) (x : Ratio) : Bool :=
  if i.closed then i.low.le x && x.le i.high else i.low.lt x && x.lt i.high

/-- The reals that are read as `m * 2 ^ q`. The number below a power of two is half as far away as
the one above; ties go to the even significand. -/
def interval (m : Nat) (q : Int) : Interval where
  low :=
    if m = topBit ∧ minExponent < q then Ratio.scaled (4 * m - 1) 2 (q - 2)
    else Ratio.scaled (2 * m - 1) 2 (q - 1)
  high := Ratio.scaled (2 * m + 1) 2 (q - 1)
  closed := m % 2 = 0

/-- The place of the first digit of a positive number `x`: `10 ^ (place - 1) ≤ x < 10 ^ place`. -/
def place (x : Ratio) : Int :=
  if x.den ≤ x.num then (Decimal.digits x.floor).length
  else
    let p : Int := 1 - (Decimal.digits (x.den / x.num)).length
    if (Ratio.scaled 1 10 p).le x then p + 1 else p

/-- The number of `count` digits that is nearest to `x` among the two around it that are read as the
same number, if one is. -/
def candidate? (i : Interval) (x : Ratio) (count : Nat) : Option (Nat × Int) :=
  let unit := place x - count
  let scaled := x.div (Ratio.scaled 1 10 unit)
  let below := scaled.floor
  let nearer := scaled.round
  let farther := if nearer = below then below + 1 else below
  if i.contains (Ratio.scaled nearer 10 unit) then some (nearer, unit)
  else if i.contains (Ratio.scaled farther 10 unit) then some (farther, unit)
  else none

/-- The fewest digits that are read as `m * 2 ^ q`, as a whole number and a power of ten. Seventeen
digits are always enough. -/
def shortest (m : Nat) (q : Int) : Nat × Int :=
  let x := Ratio.scaled m 2 q
  ((List.range 17).findSome? fun n => candidate? (interval m q) x (n + 1)).getD
    (x.round, 0)

/-- How a format writes digits: with an exponent, except where the decimal point comes to a place
between two bounds, if there are any. -/
structure Layout where
  /-- The least place; `0` is directly in front of the first digit. -/
  least : Option Int
  /-- The greatest place. -/
  greatest : Option Int
  /-- Whether an exponent has a sign even if it is not negative. -/
  signed : Bool

/-- Whether the point at a place needs no exponent. -/
def Layout.isPositional (f : Layout) (place : Int) : Bool :=
  f.least.all (· ≤ place) && f.greatest.all (place ≤ ·)

/-- Digits with the decimal point at a place, counted from in front of the first digit. At least one
digit stands on either side of it. -/
def positional (digits : List Char) (place : Int) : List Char :=
  if place ≤ 0 then "0.".toList ++ List.replicate (-place).toNat '0' ++ digits
  else if digits.length ≤ place.toNat then
    digits ++ List.replicate (place.toNat - digits.length) '0' ++ ".0".toList
  else digits.take place.toNat ++ '.' :: digits.drop place.toNat

/-- An exponent. -/
def Layout.exponent (f : Layout) (e : Int) : List Char :=
  let sign := if e < 0 then ['-'] else if f.signed then ['+'] else []
  'e' :: sign ++ Decimal.digits e.natAbs

/-- Digits with the decimal point after the first one and an exponent. -/
def Layout.withExponent (f : Layout) (digits : List Char) (place : Int) : List Char :=
  let exponent := f.exponent (place - 1)
  match digits with
  | [d] => d :: exponent
  | d :: ds => d :: '.' :: ds ++ exponent
  | [] => []

/-- The digits without the zeros at their end. -/
def significant (digits : List Char) : List Char :=
  (digits.reverse.dropWhile (· = '0')).reverse

/-- The number as text. -/
def text (f : Layout) : Binary64 → String
  | .nan => "NaN"
  | .infinite negative => if negative then "-inf" else "inf"
  | .finite negative m q =>
    let sign := if negative then "-" else ""
    if m = 0 then sign ++ "0.0"
    else
      let (n, e) := shortest m q
      let all := Decimal.digits n
      let place := (all.length : Int) + e
      let digits := significant all
      sign ++ String.ofList
        (if f.isPositional place then positional digits place else f.withExponent digits place)

end Binary64

end SchemaEvolution
