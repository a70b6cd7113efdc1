import SchemaEvolution.Table

/-!
# Changes and their statements

A change is one step of a migration. It has a statement that applies it and, where there is a safe
one, a statement that undoes it. A statement carries no terminator; names and values stand in it as
they are given.
-/

namespace SchemaEvolution

/-! ## Statements -/

/-- A statement that a change renders to. -/
inductive Statement where
  | createTable (table : Table)
  | dropTable (table : String)
  | addColumn (table : String) (column : Column)
  | dropColumn (table column : String)
  | insert (table : String) (values : List String)
deriving DecidableEq

/-- The text of a statement. -/
def Statement.sql : Statement → String
  | .createTable t => s!"CREATE TABLE {t.name} ({commaSeparated t.definitions})"
  | .dropTable t => s!"DROP TABLE {t}"
  | .addColumn t c => s!"ALTER TABLE {t} ADD COLUMN {c.sql}"
  | .dropColumn t c => s!"ALTER TABLE {t} DROP COLUMN {c}"
  | .insert t values => s!"INSERT INTO {t} VALUES ({commaSeparated values})"

/-! ## Changes -/

/-- One step of a migration. -/
inductive Change where
  | createTable (table : Table)
  | addColumn (table : String) (column : Column)
  /-- The values are SQL as given; quoting them is up to whoever writes the plan. -/
  | insertRow (table : String) (values : List String)
deriving DecidableEq

/-- The kinds of changes. -/
inductive Change.Kind where
  | createTable
  | addColumn
  | insertRow
deriving DecidableEq

namespace Change

/-- All kinds, in the order in which messages list them. -/
def Kind.all : List Kind := [createTable, addColumn, insertRow]

/-- The name of a kind in plans and listings. -/
def Kind.name : Kind → String
  | createTable => "create_table"
  | addColumn => "add_column"
  | insertRow => "insert_row"

/-- The kind of a change. -/
def kind : Change → Kind
  | createTable _ => .createTable
  | addColumn _ _ => .addColumn
  | insertRow _ _ => .insertRow

/-- The statement that applies a change. -/
def forward : Change → Statement
  | createTable t => .createTable t
  | addColumn t c => .addColumn t c
  | insertRow t values => .insert t values

/-- The statement that undoes a change. An inserted row has no key to find it by, so a deletion
might take rows that were there before: there is no statement for it. -/
def revert? : Change → Option Statement
  | createTable t => some (.dropTable t.name)
  | addColumn t c => some (.dropColumn t c.name)
  | insertRow _ _ => none

/-- Whether a change can be undone. -/
def isReversible (c : Change) : Bool :=
  c.revert?.isSome

end Change

end SchemaEvolution
