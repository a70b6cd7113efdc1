import SchemaEvolution.ColumnType
import SchemaEvolution.ReferentialAction

/-!
# Columns

A column of a table, as a change describes it. A primary key is already unique and never null, and
refers to no other table, so those options belong to ordinary columns only. Nothing in the way a
column is held (`Column.Raw`) keeps a key from having them: it has none because a key stays as it is
when it is asked for one. A `Column` is held in this way and comes with the proof of it.
-/

namespace SchemaEvolution

/-! ## References to other tables -/

/-- A reference to a column of another table, with what happens to the referring row. -/
structure ForeignKey where
  table : String
  column : String
  onDelete : ReferentialAction := .noAction
  onUpdate : ReferentialAction := .noAction
deriving DecidableEq

/-- The columns of one table, named by the values of a type. -/
class ColumnNames (F : Type) where
  table : String
  column : F → String

namespace ForeignKey

/-- A reference to a column that is a value of a type. -/
def toColumn {F : Type} [ColumnNames F] (f : F) : ForeignKey where
  table := ColumnNames.table F
  column := ColumnNames.column f

/-- The reference with the given action on deletion. -/
def deleting (r : ForeignKey) (action : ReferentialAction) : ForeignKey :=
  { r with onDelete := action }

/-- The reference with the given action on a change of the key. -/
def updating (r : ForeignKey) (action : ReferentialAction) : ForeignKey :=
  { r with onUpdate := action }

/-- The clause for the reference; both actions are always written. -/
def sql (r : ForeignKey) : String :=
  s!"REFERENCES {r.table}({r.column}) ON DELETE {r.onDelete.sql} ON UPDATE {r.onUpdate.sql}"

end ForeignKey

/-! ## Columns as they are held -/

/-- What a column may be asked for besides its name and its type. -/
structure Column.Options where
  nullable : Bool := true
  unique : Bool := false
  references : Option ForeignKey := none
deriving DecidableEq

/-- A column as it is held: whether it is the primary key by itself, and each option, apart from all
the others. -/
structure Column.Raw where
  name : String
  type : ColumnType
  isPrimaryKey : Bool := false
  options : Column.Options := {}
deriving DecidableEq

/-- The clauses that options ask for, in the order UNIQUE, NOT NULL, REFERENCES. -/
def Column.Options.clauses (o : Options) : List String :=
  (if o.unique then ["UNIQUE"] else []) ++
  (if o.nullable then [] else ["NOT NULL"]) ++
  (o.references.map ForeignKey.sql).toList

namespace Column.Raw

/-- An ordinary column without options. -/
def ordinary (name : String) (type : ColumnType) : Raw :=
  { name, type }

/-- A column that is the primary key by itself. -/
def primaryKey (name : String) (type : ColumnType) : Raw :=
  { ordinary name type with isPrimaryKey := true }

/-- Changes the options of an ordinary column; a primary key stays as it is. -/
def modify (c : Raw) (f : Options → Options) : Raw :=
  if c.isPrimaryKey then c else { c with options := f c.options }

/-- The column with nulls refused. -/
def notNull (c : Raw) : Raw :=
  c.modify fun o => { o with nullable := false }

/-- The column with each value allowed once. -/
def unique (c : Raw) : Raw :=
  c.modify fun o => { o with unique := true }

/-- The column with a reference to another table, in place of an earlier one. -/
def referencing (c : Raw) (r : ForeignKey) : Raw :=
  c.modify fun o => { o with references := some r }

/-- The clauses after the type of a column. Each one is written where it is asked for, whatever the
others are. -/
def clauses (c : Raw) : List String :=
  (if c.isPrimaryKey then ["PRIMARY KEY"] else []) ++ c.options.clauses

/-- The definition of the column: its name, its type and its clauses. -/
def sql (c : Raw) : String :=
  " ".intercalate (c.name :: c.type.sql :: c.clauses)

/-- A primary key has none of the options. -/
def IsSound (c : Raw) : Prop :=
  c.isPrimaryKey = true → c.options = {}

theorem isSound_ordinary (name : String) (type : ColumnType) : (ordinary name type).IsSound :=
  nofun

theorem isSound_primaryKey (name : String) (type : ColumnType) : (primaryKey name type).IsSound :=
  fun _ => rfl

theorem IsSound.modify {c : Raw} (h : c.IsSound) (f : Options → Options) :
    (c.modify f).IsSound := by
  rw [Raw.modify]
  split
  · exact h
  · -- it is no key, whatever it is asked for
    intro hkey
    exact absurd hkey ‹_›

end Column.Raw

/-! ## Columns -/

/-- A column with its type, with no options if it is the primary key. -/
structure Column extends Column.Raw where
  isSound : toRaw.IsSound
deriving DecidableEq

namespace Column

/-- A column that is the primary key by itself. -/
def primaryKey (name : String) (type : ColumnType) : Column :=
  ⟨.primaryKey name type, Raw.isSound_primaryKey name type⟩

/-- An ordinary column without options. -/
def ordinary (name : String) (type : ColumnType) : Column :=
  ⟨.ordinary name type, Raw.isSound_ordinary name type⟩

/-- The column with nulls refused. -/
def notNull (c : Column) : Column :=
  ⟨c.toRaw.notNull, c.isSound.modify _⟩

/-- The column with each value allowed once. -/
def unique (c : Column) : Column :=
  ⟨c.toRaw.unique, c.isSound.modify _⟩

/-- The column with a reference to another table, in place of an earlier one. -/
def referencing (c : Column) (r : ForeignKey) : Column :=
  ⟨c.toRaw.referencing r, c.isSound.modify _⟩

/-- The definition of the column. -/
def sql (c : Column) : String :=
  c.toRaw.sql

end Column

end SchemaEvolution
