import SchemaEvolution.Decimal.Digits
import SchemaEvolution.Text.Reader

/-!
# Regular expressions

Whether a text is a regular expression. `Pattern.part` takes one part after another off its front: a
bracket, a bar, a sign for repetition, or something that matches by itself. The text is one if it
falls into parts, if the brackets among them pair up, and if every sign for repetition has something
in front of it to repeat (`Pattern.fits`). The classes of characters that need tables of Unicode are
not known, nor is matching without regard to case; counts in braces are not known either.
-/

namespace SchemaEvolution.Text.Pattern

/-! ## Single characters -/

/-- A character given by a number of hexadecimal digits. -/
def codePoint (digits : Nat) : Reader Char := fun s => do
  let (digits, s) ← Reader.exactly Decimal.isHexDigit digits s
  let n := Decimal.value 16 digits
  if n.isValidChar then return (Char.ofNat n, s) else none

/-- The letters that stand for control characters after a backslash. -/
def controls : List (Char × Char) :=
  [('a', '\x07'), ('f', '\x0c'), ('n', '\n'), ('r', '\r'), ('t', '\t'), ('v', '\x0b')]

/-- The character that is written after a backslash. -/
def escape : Reader Char
  | [] => none
  | 'x' :: s => codePoint 2 s
  | 'u' :: s => codePoint 4 s
  | 'U' :: s => codePoint 8 s
  | c :: s =>
    if c.isAlphanum then (controls.lookup c).map (·, s)
    else if c.toNat < 0x80 && c != '<' && c != '>' then some (c, s)
    else none

/-- A character of a class. -/
def member : Reader Char
  | [] => none
  | '\\' :: s => escape s
  | c :: s => some (c, s)

/-! ## Classes -/

/-- The names of the classes of ASCII characters. -/
def asciiClasses : List String :=
  ["alnum", "alpha", "ascii", "blank", "cntrl", "digit", "graph", "lower", "print", "punct", "space",
   "upper", "word", "xdigit"]

/-- The name of a class of ASCII characters between colons, up to the bracket behind it. -/
def asciiClass : Reader Unit := fun s => do
  let (_, s) ← Reader.char ':' s
  let (_, s) := Reader.optional (Reader.char '^') s
  let (name, s) ← Reader.run Char.isAlpha s
  let (_, s) ← Reader.literal [':', ']'] s
  if asciiClasses.contains (String.ofList name) then return ((), s) else none

/-- What may stand at the front of a class for itself: hyphens, and a closing bracket if there are
none. -/
def classFront (s : List Char) : List Char :=
  let (_, s) := Reader.optional (Reader.char '^') s
  match s with
  | ']' :: s => s
  | s => s.dropWhile (· = '-')

/-- A character of a class, or two with a hyphen between them, the lesser first. -/
def classRange : Reader Unit := fun s => do
  let (low, s) ← member s
  match s with
  | '-' :: ']' :: _ | '-' :: '-' :: _ => return ((), s)
  | '-' :: s =>
    let (high, s) ← member s
    if low ≤ high then return ((), s) else none
  | s => return ((), s)

/-- What is in a class up to the bracket that closes it, where `depth` classes inside it are open.
Each step takes at least one character. -/
def classBody : (steps depth : Nat) → Reader Unit
  | 0, _, _ => none
  | steps + 1, depth, s =>
    match s with
    | '[' :: s =>
      match asciiClass s with
      | some (_, s) => classBody steps depth s
      | none => classBody steps (depth + 1) (classFront s)
    | ']' :: s => if depth = 0 then some ((), s) else classBody steps (depth - 1) s
    | '&' :: '&' :: s | '-' :: '-' :: s | '~' :: '~' :: s => classBody steps depth s
    | s =>
      match classRange s with
      | some (_, s) => classBody steps depth s
      | none => none

/-! ## Parts -/

/-- What a regular expression consists of. -/
inductive Part where
  | opening
  | closing
  | bar
  | repetition
  /-- What changes the meaning of what follows. -/
  | setting
  /-- What matches by itself. -/
  | atom
deriving DecidableEq

/-- Whether a text can be the name of a group. -/
def isGroupName : List Char → Bool
  | [] => false
  | c :: s =>
    (c.isAlpha || c = '_') && s.all fun c => c.isAlphanum || ['_', '.', '[', ']'].contains c

/-- The name of a group, up to the bracket behind it. -/
def groupName : Reader Part := fun s => do
  let name := s.takeWhile (· ≠ '>')
  let (_, s) ← Reader.char '>' (s.drop name.length)
  if isGroupName name then return (.opening, s) else none

/-- The flags that may be switched on or off. -/
def isFlag (c : Char) : Bool :=
  ['m', 's', 'U', 'u', 'x', 'R'].contains c

/-- Flags, for a group or for what follows. -/
def flags : Reader Part := fun s => do
  let on := s.takeWhile isFlag
  let s := s.drop on.length
  let (minus?, s) := Reader.optional (Reader.char '-') s
  let off := if minus?.isSome then s.takeWhile isFlag else []
  let s := s.drop off.length
  if (minus?.isSome && off.isEmpty) || !(on ++ off).Nodup then none
  else
    match s with
    | ':' :: s => return (.opening, s)
    | ')' :: s => if (on ++ off).isEmpty then none else return (.setting, s)
    | _ => none

/-- The part at the front of a text. -/
def part : Reader Part
  | [] => none
  | '(' :: '?' :: 'P' :: '<' :: s | '(' :: '?' :: '<' :: s => groupName s
  | '(' :: '?' :: s => flags s
  | '(' :: s => some (.opening, s)
  | ')' :: s => some (.closing, s)
  | '|' :: s => some (.bar, s)
  | '[' :: s => (classBody s.length 0 (classFront s)).map fun (_, s) => (.atom, s)
  | '\\' :: 'A' :: s | '\\' :: 'z' :: s => some (.atom, s)
  | '\\' :: s => (escape s).map fun (_, s) => (.atom, s)
  | c :: s =>
    if c = '\x7b' then none
    else if ['*', '+', '?'].contains c then
      some (.repetition, (Reader.optional (Reader.char '?') s).2)
    else some (.atom, s)

/-! ## The whole -/

/-- Whether the parts fit together after others, where so many brackets are open and there is
something to repeat or not. -/
def fits (depth : Nat) (repeatable : Bool) : List Part → Bool
  | [] => depth = 0
  | .opening :: parts => fits (depth + 1) false parts
  | .closing :: parts => depth != 0 && fits (depth - 1) true parts
  | .bar :: parts => fits depth false parts
  | .repetition :: parts => repeatable && fits depth true parts
  | .setting :: parts => fits depth false parts
  | .atom :: parts => fits depth true parts

/-- Whether a text is a regular expression. -/
def isPattern (s : List Char) : Bool :=
  let (parts, rest) := Reader.many part s
  rest.isEmpty && fits 0 false parts

end SchemaEvolution.Text.Pattern
