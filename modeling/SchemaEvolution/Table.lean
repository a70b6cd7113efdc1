import SchemaEvolution.Column

/-!
# Tables

A table as a change creates it: columns, a primary key over several of them, and constraints with
names of their own.
-/

namespace SchemaEvolution

/-- The items of a list in SQL. -/
def commaSeparated (items : List String) : String :=
  ",".intercalate items

/-- A named constraint: each combination of values in the columns is allowed once. The order of the
columns is part of it. -/
structure UniqueConstraint where
  name : String
  columns : List String
deriving DecidableEq

/-- The definition of the constraint. -/
def UniqueConstraint.sql (c : UniqueConstraint) : String :=
  s!"CONSTRAINT {c.name} UNIQUE ({commaSeparated c.columns})"

/-- A table to create. The key lists the columns of a composite primary key; it is empty if there is
none. -/
structure Table where
  name : String
  columns : List Column
  key : List String := []
  constraints : List UniqueConstraint := []
deriving DecidableEq

namespace Table

/-- The table with a composite primary key, in place of an earlier one. -/
def withKey (t : Table) (columns : List String) : Table :=
  { t with key := columns }

/-- The table with one more constraint, after the others. -/
def withConstraint (t : Table) (c : UniqueConstraint) : Table :=
  { t with constraints := t.constraints ++ [c] }

/-- The definition of the composite primary key, if there is one. -/
def keyDefinition (t : Table) : List String :=
  if t.key = [] then [] else [s!"PRIMARY KEY ({commaSeparated t.key})"]

/-- What the table consists of: the columns, then the composite key, then the constraints. -/
def definitions (t : Table) : List String :=
  t.columns.map Column.sql ++ t.keyDefinition ++ t.constraints.map UniqueConstraint.sql

end Table

end SchemaEvolution
