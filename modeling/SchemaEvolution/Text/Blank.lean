/-!
# Blank characters

What counts as white space around a keyword, and how a text is measured. Two sets of blanks are in
use: the Unicode property White_Space, which is cut off both ends of a keyword, and the four
characters that may separate words inside one (`Keyword.isSeparator`). Positions in messages are
byte offsets into the UTF-8 form of a text, so its measure is here too.
-/

namespace SchemaEvolution.Text

/-- The code points with the Unicode property White_Space, as ranges with both ends included. -/
def blankRanges : List (Nat × Nat) :=
  [(0x09, 0x0D), (0x20, 0x20), (0x85, 0x85), (0xA0, 0xA0), (0x1680, 0x1680), (0x2000, 0x200A),
   (0x2028, 0x2029), (0x202F, 0x202F), (0x205F, 0x205F), (0x3000, 0x3000)]

/-- Whether a character has the property White_Space. -/
def isBlank (c : Char) : Bool :=
  blankRanges.any fun (low, high) => low ≤ c.toNat && c.toNat ≤ high

/-- The text without the blanks at either end. -/
def trim (s : List Char) : List Char :=
  ((s.dropWhile isBlank).reverse.dropWhile isBlank).reverse

/-- The number of bytes in the UTF-8 form of a text. -/
def byteLength : List Char → Nat
  | [] => 0
  | c :: s => c.utf8Size + byteLength s

/-- The byte offset at which `rest`, a tail of `s`, starts. -/
def offsetOf (s rest : List Char) : Nat :=
  byteLength s - byteLength rest

@[simp] theorem byteLength_append (s t : List Char) :
    byteLength (s ++ t) = byteLength s + byteLength t := by
  induction s with
  | nil => simp [byteLength]
  | cons c s ih => simp [byteLength, ih, Nat.add_assoc]

/-- What is left of `s ++ rest` after `s` starts where `s` ends. -/
theorem offsetOf_append (s rest : List Char) : offsetOf (s ++ rest) rest = byteLength s := by
  simp [offsetOf]

end SchemaEvolution.Text
