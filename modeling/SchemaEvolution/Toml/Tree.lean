import SchemaEvolution.Document

/-!
# How the lines of a TOML document make a tree

Each line adds to what the lines before it have made. A table may be given by a header of its own,
only implied by the headers of tables inside it, or made by dotted keys; what may be added to it
later depends on that, so an `Item` remembers it. Nothing is ever given twice.
-/

namespace SchemaEvolution.Toml

/-- How a table came to be. -/
inductive Standing where
  /-- By its own header, or as the whole document. -/
  | defined
  /-- By a header of something inside it. -/
  | implied
  /-- By dotted keys. -/
  | dotted
deriving DecidableEq

/-- What stands under a key. -/
inductive Item where
  /-- A value, to which nothing can be added. -/
  | value (node : Node)
  | table (standing : Standing) (entries : List (String × Item))
  /-- The tables that have a header with double brackets each. -/
  | rows (tables : List (List (String × Item)))

/-- The entries of a table, in the order in which their keys first appear. -/
abbrev Entries := List (String × Item)

namespace Entries

/-- The entries with another item under a key that is there. -/
def replace (entries : Entries) (key : String) (item : Item) : Entries :=
  entries.map fun e => if e.1 == key then (key, item) else e

/-- The entries without those under a key. -/
def remove (entries : Entries) (key : String) : Entries :=
  entries.filter (·.1 != key)

end Entries

/-! ## Adding to a tree -/

/-- A change to a table, which may not be allowed. -/
abbrev Edit := Standing → Entries → Option Entries

/-- Changes the table at the end of a path. Tables on the way are made as needed; of tables with
double brackets the last one is meant. Dotted keys do not lead into a table with a header. -/
def Edit.inside (dotted : Bool) : List String → Edit → Edit
  | [], edit, standing, entries => edit standing entries
  | key :: path, edit, _, entries => do
    match entries.lookup key with
    | none =>
      let standing := if dotted then .dotted else .implied
      let inner ← Edit.inside dotted path edit standing []
      return entries ++ [(key, .table standing inner)]
    | some (.value _) => none
    | some (.table standing inner) =>
      if dotted && standing = .defined then none
      else
        let inner ← Edit.inside dotted path edit standing inner
        return Entries.replace entries key (.table standing inner)
    | some (.rows tables) =>
      let last ← tables.getLast?
      let last ← Edit.inside dotted path edit .defined last
      return Entries.replace entries key (.rows (tables.dropLast ++ [last]))

/-- Puts a value under a new key. Dotted keys add only to tables that they made. -/
def Edit.assign (dotted : Bool) (key : String) (value : Node) : Edit := fun standing entries =>
  if dotted && standing != .dotted then none
  else if (entries.lookup key).isSome then none
  else some (entries ++ [(key, .value value)])

/-- Begins a table. If it was implied it keeps what is in it. -/
def Edit.beginTable (key : String) : Edit := fun _ entries =>
  match entries.lookup key with
  | none => some (entries ++ [(key, .table .defined [])])
  | some (.table .implied inner) =>
    some (Entries.remove entries key ++ [(key, .table .defined inner)])
  | some _ => none

/-- Begins one more of the tables with double brackets under a key. -/
def Edit.beginRow (key : String) : Edit := fun _ entries =>
  match entries.lookup key with
  | none => some (entries ++ [(key, .rows [[]])])
  | some (.rows tables) => some (Entries.replace entries key (.rows (tables ++ [[]])))
  | some _ => none

/-- Changes the table that holds the last key of a path. -/
def Edit.atKey (dotted : Bool) (path : List String) (edit : String → Edit) : Edit :=
  match path.getLast? with
  | none => fun _ _ => none
  | some key => Edit.inside dotted path.dropLast (edit key)

/-- Puts a value at a path of dotted keys. -/
def Edit.assignPath (path : List String) (value : Node) : Edit :=
  Edit.atKey true path fun key => Edit.assign (1 < path.length) key value

/-! ## The finished tree -/

mutual

/-- An item as a part of a document. -/
def Item.toNode : Item → Node
  | .value node => node
  | .table _ entries => .table (entryNodes entries)
  | .rows tables => .list .headed (rowNodes tables)

/-- The entries of a table as parts of a document. -/
def entryNodes : List (String × Item) → List (String × Node)
  | [] => []
  | (key, item) :: entries => (key, item.toNode) :: entryNodes entries

/-- Tables with double brackets as parts of a document. -/
def rowNodes : List (List (String × Item)) → List Node
  | [] => []
  | entries :: tables => .table (entryNodes entries) :: rowNodes tables

end

end SchemaEvolution.Toml
