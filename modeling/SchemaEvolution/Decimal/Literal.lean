import SchemaEvolution.Decimal.Binary64
import SchemaEvolution.Text.Reader

/-!
# Numbers in decimal notation

The notation that document formats share: a whole part, then perhaps a fraction and an exponent.
The formats differ in which signs may stand in front and in what a run of digits looks like, so
both are given to `Literal.read`.
-/

namespace SchemaEvolution.Decimal

open Text (Reader)

/-- A number as it is written. -/
structure Literal where
  negative : Bool
  /-- The digits before the point. -/
  whole : List Char
  /-- The digits after the point, if there is one. -/
  fraction : Option (List Char)
  exponent : Option Int

namespace Literal

/-- Whether there is neither a fraction nor an exponent. -/
def isWhole (l : Literal) : Bool :=
  l.fraction.isNone && l.exponent.isNone

/-- The value of a number without fraction and exponent. -/
def toInt (l : Literal) : Int :=
  if l.negative then -(value 10 l.whole : Int) else value 10 l.whole

/-- The nearest binary number. -/
def toBinary64 (l : Literal) : Binary64 :=
  let places := l.fraction.getD []
  let exponent := l.exponent.getD 0 - places.length
  Binary64.ofDecimal l.negative (value 10 (l.whole ++ places)) exponent

/-- The whole number that digits make of `n` as long as 64 bits hold it, and how many of them are
left over. -/
def fit (n : Nat) : List Char → Nat × Nat
  | [] => (n, 0)
  | d :: digits =>
    let next := 10 * n + digitValue d
    if next < 0x10000000000000000 then fit next digits else (n, digits.length + 1)

/-- The number that is read in steps, if it is not too large. Of its digits those count that make an
integer of 64 bits; where some before the point are left over, those after it still may count. -/
def toBinary64InSteps? (l : Literal) : Option Binary64 :=
  let places := l.fraction.getD []
  let (n, left) := fit 0 l.whole
  let (n, unused) := fit n places
  let exponent := l.exponent.getD 0 + left + unused - places.length
  Binary64.ofDecimalInSteps? l.negative n exponent

end Literal

/-! ## Reading -/

/-- Whether a minus stands at the front of a text, and the text after the sign if there is one. -/
def sign : List Char → Bool × List Char
  | '-' :: s => (true, s)
  | '+' :: s => (false, s)
  | s => (false, s)

/-- The digits of a whole number: a zero by itself, or a run of digits. -/
def wholeDigits (run : Reader (List Char)) : Reader (List Char)
  | '0' :: s => some (['0'], s)
  | s => run s

/-- The digits after the decimal point. -/
def fraction (run : Reader (List Char)) : Reader (List Char) := fun s => do
  let (_, s) ← Reader.char '.' s
  run s

/-- An exponent of ten. -/
def exponent (run : Reader (List Char)) : Reader Int := fun s => do
  let (_, s) ← Reader.satisfying (fun c => c = 'e' || c = 'E') s
  let (negative, s) := sign s
  let (digits, s) ← run s
  let n : Int := value 10 digits
  return (if negative then -n else n, s)

/-- Reads a number whose sign has been read, given what a run of digits is. -/
def Literal.read (run : Reader (List Char)) (signed : Bool × List Char) :
    Option (Literal × List Char) := do
  let (negative, s) := signed
  let (whole, s) ← wholeDigits run s
  let (fraction, s) := Reader.optional (Decimal.fraction run) s
  let (exponent, s) := Reader.optional (Decimal.exponent run) s
  return ({ negative, whole, fraction, exponent }, s)

end SchemaEvolution.Decimal
