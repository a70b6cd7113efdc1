import SchemaEvolution.Toml.Moment
import SchemaEvolution.Toml.Number
import SchemaEvolution.Toml.Tree

/-!
# Values of TOML

What may stand after a key: a scalar, a list in brackets, which may run over several lines, or a
table in braces, which may not. Lists and tables nest up to a fixed depth, and the reader recurses on
what is left of it.
-/

namespace SchemaEvolution.Toml

open Text (Reader)

/-- A truth value. -/
def bool : Reader Node
  | 't' :: 'r' :: 'u' :: 'e' :: s => some (.bool true, s)
  | 'f' :: 'a' :: 'l' :: 's' :: 'e' :: s => some (.bool false, s)
  | _ => none

/-- Text as a value. -/
def textValue : Reader Node := fun s => do
  let (t, s) ← text s
  return (.text t, s)

/-- A value that holds no other value. -/
def scalar : Reader Node := fun s =>
  textValue s <|> bool s <|> moment s <|> number s

/-- A list of values. A comma may stand after the last one. -/
def listValue (value : Reader Node) : Reader Node := fun s => do
  let item : Reader Node := fun s => do
    let (n, s) ← value (skipGaps s)
    return (n, skipGaps s)
  let (_, s) ← Reader.char '[' s
  let (items, s) := Reader.list item ',' s
  let s := if items.isEmpty then s else (Reader.optional (Reader.char ',') s).2
  let (_, s) ← Reader.char ']' (skipGaps s)
  return (.ofList items, s)

/-- A path of keys and the value for it. -/
def pair (value : Reader Node) : Reader (List String × Node) := fun s => do
  let (path, s) ← keyPath s
  let (_, s) ← Reader.char '=' s
  let (n, s) ← value (skipBlanks s)
  return ((path, n), s)

/-- The table that pairs make, unless two of them exclude each other. -/
def tableOfPairs (pairs : List (List String × Node)) : Option Entries :=
  pairs.foldlM (fun entries (path, n) => Edit.assignPath path n .defined entries) []

/-- A table of pairs on one line. -/
def tableValue (value : Reader Node) : Reader Node := fun s => do
  let item : Reader (List String × Node) := fun s => do
    let (p, s) ← pair value s
    return (p, skipBlanks s)
  let (_, s) ← Reader.char '\x7b' s
  let (pairs, s) := Reader.list item ',' s
  let (_, s) ← Reader.char '\x7d' (skipBlanks s)
  return (.table (entryNodes (← tableOfPairs pairs)), s)

/-- A value that nests at most to the given depth. -/
def valueWithin : Nat → Reader Node
  | 0 => scalar
  | depth + 1 => fun s =>
    scalar s <|> listValue (valueWithin depth) s <|> tableValue (valueWithin depth) s

/-- How deep values nest at most. -/
def maxDepth : Nat := 79

/-- A value. -/
def value : Reader Node :=
  valueWithin maxDepth

end SchemaEvolution.Toml
