import SchemaEvolution.Toml.Value

/-!
# TOML documents

`Toml.read` reads a text as TOML 1.0, line by line: a line gives a value for a key, begins a table,
or is blank. The lines are read first and put together afterwards (`Toml.Line.edit`); a text in which
either fails is no TOML.
-/

namespace SchemaEvolution.Toml

open Text (Reader)

/-- What a line of a document says. -/
inductive Line where
  | blank
  | pair (path : List String) (value : Node)
  | table (path : List String)
  | row (path : List String)

/-! ## Lines -/

/-- What stands between the blanks and the end of a line. -/
def lineContent : Reader Line
  | '[' :: '[' :: s => do
    let (path, s) ← keyPath s
    let (_, s) ← Reader.literal [']', ']'] s
    return (.row path, s)
  | '[' :: s => do
    let (path, s) ← keyPath s
    let (_, s) ← Reader.char ']' s
    return (.table path, s)
  | s => do
    let ((path, n), s) ← pair value s
    return (.pair path n, s)

/-- Whether a line holds nothing but blanks and a comment, seen after the blanks. -/
def isBlankLine (s : List Char) : Bool :=
  match s.head? with
  | none => true
  | some c => c = '#' || c = '\n' || c = '\r'

/-- A line with its end. -/
def line : Reader Line
  | [] => none
  | s => do
    let s := skipBlanks s
    let (content, s) ← if isBlankLine s then some (.blank, s) else lineContent s
    let (_, s) ← lineEnd s
    return (content, s)

/-! ## Documents -/

/-- The table that the pairs of the following lines belong to, and everything so far. -/
structure Draft where
  current : List String
  entries : Entries

/-- The draft with one more line. -/
def Draft.add (d : Draft) : Line → Option Draft
  | .blank => some d
  | .pair path n => do
    let edit := Edit.inside false d.current (Edit.assignPath path n)
    return { d with entries := ← edit .defined d.entries }
  | .table path => do
    let edit := Edit.atKey false path Edit.beginTable
    return { current := path, entries := ← edit .defined d.entries }
  | .row path => do
    let edit := Edit.atKey false path Edit.beginRow
    return { current := path, entries := ← edit .defined d.entries }

/-- The text without the byte order mark at its front. -/
def withoutMark : List Char → List Char
  | '\ufeff' :: s => s
  | s => s

/-- Reads a document: one table. -/
def read (text : String) : Option Node := do
  let (lines, rest) := Reader.many line (withoutMark text.toList)
  if rest ≠ [] then none
  else
    let draft ← lines.foldlM Draft.add { current := [], entries := [] }
    return .table (entryNodes draft.entries)

end SchemaEvolution.Toml
