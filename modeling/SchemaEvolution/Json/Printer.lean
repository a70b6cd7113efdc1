import SchemaEvolution.Document.Error

/-!
# Writing JSON

`Json.print` writes a document as JSON, either on one line or with every item on a line of its own.
Entries are written in the order in which the document has them. What JSON has no form for is null.
-/

namespace SchemaEvolution.Json

/-- How the items of lists and tables are laid out. -/
inductive Layout where
  | compact
  /-- Each item on a line of its own, inside the given number of lists and tables. -/
  | indented (depth : Nat)

/-- The layout of what is inside a list or table. -/
def Layout.inner : Layout → Layout
  | compact => compact
  | indented depth => indented (depth + 1)

/-- A character inside text. -/
def escaped (c : Char) : List Char :=
  if c = '"' then ['\\', '"']
  else if c = '\\' then ['\\', '\\']
  else if c = '\x08' then ['\\', 'b']
  else if c = '\x0c' then ['\\', 'f']
  else if c = '\n' then ['\\', 'n']
  else if c = '\r' then ['\\', 'r']
  else if c = '\t' then ['\\', 't']
  else if c.toNat < 0x20 then
    ['\\', 'u', '0', '0', Nat.digitChar (c.toNat / 16), Nat.digitChar (c.toNat % 16)]
  else [c]

/-- Text between quotes. -/
def quoted (s : String) : String :=
  String.ofList ('"' :: s.toList.flatMap escaped ++ ['"'])

/-- A real number. -/
def real : Binary64 → String
  | .finite negative m q => (Binary64.finite negative m q).text Origin.json.layout
  | _ => "null"

/-- The start of a line. -/
def indentation (depth : Nat) : String :=
  String.ofList (List.replicate (2 * depth) ' ')

/-- Items between two brackets. -/
def enclosed (layout : Layout) (first last : String) (items : List String) : String :=
  if items.isEmpty then first ++ last
  else
    match layout with
    | .compact => first ++ ",".intercalate items ++ last
    | .indented depth =>
      let lines := items.map (indentation (depth + 1) ++ ·)
      first ++ "\n" ++ ",\n".intercalate lines ++ "\n" ++ indentation depth ++ last

/-- What separates a key from its value. -/
def Layout.colon : Layout → String
  | compact => ":"
  | indented _ => ": "

mutual

/-- Writes a document. -/
def print (layout : Layout) : Node → String
  | .null => "null"
  | .bool b => if b then "true" else "false"
  | .integer n => toString n
  | .real x => real x
  | .text s => quoted s
  | .moment => "null"
  | .list _ items => enclosed layout "[" "]" (printItems layout.inner items)
  | .table entries => enclosed layout "\x7b" "\x7d" (printEntries layout.inner entries)

/-- Writes the items of a list. -/
def printItems (layout : Layout) : List Node → List String
  | [] => []
  | n :: items => print layout n :: printItems layout items

/-- Writes the entries of a table. -/
def printEntries (layout : Layout) : List (String × Node) → List String
  | [] => []
  | (key, n) :: entries =>
    (quoted key ++ layout.colon ++ print layout n) :: printEntries layout entries

end

end SchemaEvolution.Json
