import SchemaEvolution.Decimal.Literal
import SchemaEvolution.Document

/-!
# Reading JSON

`Json.read` reads a text as JSON. The entries of a table come sorted by key; of two with the same key
the later one counts. An integer that 64 bits cannot hold is read as a real number, and so is a zero
with a minus sign. Real numbers are read in steps (`Binary64.ofDecimalInSteps?`).
-/

namespace SchemaEvolution.Json

open Text (Reader)

/-! ## Lexemes -/

/-- The blanks between the parts of a document. -/
def isBlank (c : Char) : Bool :=
  c = ' ' || c = '\t' || c = '\n' || c = '\r'

/-- The text after the blanks at its front. -/
def skipBlanks (s : List Char) : List Char :=
  s.dropWhile isBlank

/-- A character and the blanks behind it. -/
def symbol (c : Char) : Reader Unit := fun s => do
  let (_, s) ← Reader.char c s
  return ((), skipBlanks s)

/-! ## Text -/

/-- A UTF-16 code unit in four digits. -/
def codeUnit : Reader Nat := fun s => do
  let (digits, s) ← Reader.exactly Decimal.isHexDigit 4 s
  return (Decimal.value 16 digits, s)

/-- The character that two surrogates stand for. -/
def surrogatePair (high low : Nat) : Option Char :=
  if 0xDC00 ≤ low && low < 0xE000 then
    some (Char.ofNat (0x10000 + (high - 0xD800) * 0x400 + (low - 0xDC00)))
  else none

/-- A character given by its code units. -/
def unicodeEscape : Reader Char := fun s => do
  let (n, s) ← codeUnit s
  if 0xD800 ≤ n && n < 0xDC00 then
    let (_, s) ← Reader.literal ['\\', 'u'] s
    let (low, s) ← codeUnit s
    return (← surrogatePair n low, s)
  else if n.isValidChar then return (Char.ofNat n, s)
  else none

/-- What follows the backslash of an escape. -/
def escape : Reader Char
  | '"' :: s => some ('"', s)
  | '\\' :: s => some ('\\', s)
  | '/' :: s => some ('/', s)
  | 'b' :: s => some ('\x08', s)
  | 'f' :: s => some ('\x0c', s)
  | 'n' :: s => some ('\n', s)
  | 'r' :: s => some ('\r', s)
  | 't' :: s => some ('\t', s)
  | 'u' :: s => unicodeEscape s
  | _ => none

/-- A character inside text. -/
def textChar : Reader Char
  | [] => none
  | c :: s =>
    if c = '"' then none
    else if c = '\\' then escape s
    else if c.toNat < 0x20 then none
    else some (c, s)

/-- Text between quotes. -/
def text : Reader String := fun s => do
  let (_, s) ← Reader.char '"' s
  let (content, s) := Reader.many textChar s
  let (_, s) ← Reader.char '"' s
  return (String.ofList content, s)

/-! ## Numbers -/

/-- The integer that a whole number is, if 64 bits can hold it. There is no zero with a minus sign
among these. -/
def integer? (l : Decimal.Literal) : Option Int :=
  let n := Decimal.value 10 l.whole
  if !l.isWhole then none
  else if l.negative then if 0 < n && n ≤ 0x8000000000000000 then some (-n) else none
  else if n < 0x10000000000000000 then some n
  else none

/-- A number. -/
def number : Reader Node := fun s => do
  let (minus?, s) := Reader.optional (Reader.char '-') s
  let (l, s) ← Decimal.Literal.read (Reader.run Char.isDigit) (minus?.isSome, s)
  match integer? l with
  | some n => return (.integer n, s)
  | none => return (.real (← l.toBinary64InSteps?), s)

/-! ## Documents -/

/-- Entries sorted by key with one more, which takes the place of one with the same key. -/
def insertEntry (entry : String × Node) : List (String × Node) → List (String × Node)
  | [] => [entry]
  | e :: entries =>
    if entry.1 < e.1 then entry :: e :: entries
    else if entry.1 = e.1 then entry :: entries
    else e :: insertEntry entry entries

/-- A value that holds no other value. -/
def scalar : Reader Node
  | '"' :: s => do
    let (t, s) ← text ('"' :: s)
    return (.text t, s)
  | 'n' :: 'u' :: 'l' :: 'l' :: s => some (.null, s)
  | 't' :: 'r' :: 'u' :: 'e' :: s => some (.bool true, s)
  | 'f' :: 'a' :: 'l' :: 's' :: 'e' :: s => some (.bool false, s)
  | s => number s

/-- A value with the blanks behind it. -/
def padded (value : Reader Node) : Reader Node := fun s => do
  let (n, s) ← value s
  return (n, skipBlanks s)

/-- A list of values. -/
def list (value : Reader Node) : Reader Node := fun s => do
  let item : Reader Node := fun s => padded value (skipBlanks s)
  let (_, s) ← symbol '[' s
  let (items, s) := Reader.list item ',' s
  let (_, s) ← Reader.char ']' s
  return (.ofList items, s)

/-- A key with its value. -/
def entry (value : Reader Node) : Reader (String × Node) := fun s => do
  let (key, s) ← text (skipBlanks s)
  let (_, s) ← symbol ':' (skipBlanks s)
  let (n, s) ← padded value s
  return ((key, n), s)

/-- A table. -/
def table (value : Reader Node) : Reader Node := fun s => do
  let (_, s) ← symbol '\x7b' s
  let (entries, s) := Reader.list (entry value) ',' s
  let (_, s) ← Reader.char '\x7d' s
  return (.table (entries.foldl (fun sorted e => insertEntry e sorted) []), s)

/-- A value that nests at most to the given depth. -/
def valueWithin : Nat → Reader Node
  | 0 => scalar
  | depth + 1 => fun s =>
    match s with
    | '[' :: _ => list (valueWithin depth) s
    | '\x7b' :: _ => table (valueWithin depth) s
    | _ => scalar s

/-- How deep values nest at most. -/
def maxDepth : Nat := 127

/-- Reads a document. -/
def read (text : String) : Option Node := do
  let (n, s) ← padded (valueWithin maxDepth) (skipBlanks text.toList)
  if s = [] then return n else none

end SchemaEvolution.Json
