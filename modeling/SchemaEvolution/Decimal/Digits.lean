/-!
# Digits

Natural numbers as text: `Decimal.digits` writes one in base ten with no leading zero, `padded`
gives it a least width, and `value` reads digits back in any base up to sixteen.
-/

namespace SchemaEvolution.Decimal

/-- Whether a character is a digit in base sixteen, in either case. -/
def isHexDigit (c : Char) : Bool :=
  c.isDigit || ('a' ≤ c && c ≤ 'f') || ('A' ≤ c && c ≤ 'F')

/-- The value of a digit, letters counting on from nine in either case. -/
def digitValue (c : Char) : Nat :=
  if c.isDigit then c.toNat - '0'.toNat
  else if c.toNat < 'a'.toNat then c.toNat - 'A'.toNat + 10
  else c.toNat - 'a'.toNat + 10

/-- The number that digits in a base stand for, the most significant first. -/
def value (base : Nat) (digits : List Char) : Nat :=
  digits.foldl (fun n d => base * n + digitValue d) 0

/-- The digit of a number below ten. -/
def digitChar (n : Nat) : Char :=
  Char.ofNat ('0'.toNat + n)

/-- A number in base ten, with no leading zero. -/
def digits (n : Nat) : List Char :=
  if n < 10 then [digitChar n] else digits (n / 10) ++ [digitChar (n % 10)]

/-- A number in base ten with zeros in front up to the given width. -/
def padded (width n : Nat) : List Char :=
  List.replicate (width - (digits n).length) '0' ++ digits n

/-- A number in base ten, as a string. -/
def text (n : Nat) : String :=
  String.ofList (digits n)

end SchemaEvolution.Decimal
