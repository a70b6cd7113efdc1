import SchemaEvolution.Decimal.Literal
import SchemaEvolution.Document
import SchemaEvolution.Toml.Text

/-!
# Numbers of TOML

Integers in four bases and real numbers. An underscore may stand between two digits and means
nothing. An integer has to fit into 64 bits; a real number may be too small or too negative for
binary64, but not too large.
-/

namespace SchemaEvolution.Toml

open Text (Reader)

/-! ## Digits -/

/-- Digits of a class with single underscores between them, without these. -/
def digitRun (isDigit : Char → Bool) : Reader (List Char) := fun s => do
  let (groups, s) ← Reader.separated (Reader.run isDigit) '_' s
  return (groups.flatten, s)

/-! ## Integers -/

/-- The smallest integer, of 64 bits. -/
def minInteger : Int := -0x8000000000000000

/-- The largest integer. -/
def maxInteger : Int := 0x7FFFFFFFFFFFFFFF

/-- An integer with what follows it, if 64 bits are enough for it. -/
def inRange (n : Int) (rest : List Char) : Option (Node × List Char) :=
  if minInteger ≤ n && n ≤ maxInteger then some (.integer n, rest) else none

/-- An integer in another base, after the two characters that tell the base. -/
def basedInteger (base : Nat) (isDigit : Char → Bool) : Reader Node := fun s => do
  let (digits, s) ← digitRun isDigit s
  inRange (Decimal.value base digits) s

/-- An integer in a base other than ten; it has no sign. -/
def integerWithBase : Reader Node
  | '0' :: 'x' :: s => basedInteger 16 Decimal.isHexDigit s
  | '0' :: 'o' :: s => basedInteger 8 (fun c => '0' ≤ c && c ≤ '7') s
  | '0' :: 'b' :: s => basedInteger 2 (fun c => c = '0' || c = '1') s
  | _ => none

/-! ## Numbers in base ten -/

/-- An integer, or a real number with a fraction, an exponent or both. -/
def decimal : Reader Node := fun s => do
  let (l, s) ← Decimal.Literal.read (digitRun Char.isDigit) (Decimal.sign s)
  if l.isWhole then inRange l.toInt s
  else if l.toBinary64 = .infinite false then none
  else return (.real l.toBinary64, s)

/-- One of the real numbers that have no digits. -/
def namedReal : Reader Node := fun s =>
  match Decimal.sign s with
  | (negative, 'i' :: 'n' :: 'f' :: s) => some (.real (.infinite negative), s)
  | (_, 'n' :: 'a' :: 'n' :: s) => some (.real .nan, s)
  | _ => none

/-- A number. -/
def number : Reader Node := fun s =>
  namedReal s <|> integerWithBase s <|> decimal s

end SchemaEvolution.Toml
