import SchemaEvolution.Plan

/-!
# Warnings

What a plan is going to be refused for by the database. Statements do not depend on it: a plan with
warnings renders like any other.
-/

namespace SchemaEvolution

/-- A flaw of one change. -/
inductive Flaw where
  | emptyTableName
  | noColumns (table : String)
  | emptyColumnName
  /-- The reference of the column lacks its table, its column or both. -/
  | emptyReference (column : String)
  | unknownKeyColumn (column table : String)
  | noValues
deriving DecidableEq

/-- A flaw in words. -/
def Flaw.message : Flaw → String
  | emptyTableName => "empty table name"
  | noColumns table => s!"table '{table}' has no fields"
  | emptyColumnName => "empty field name"
  | emptyReference column => s!"field '{column}' has an empty reference target"
  | unknownKeyColumn column table => s!"primary key column '{column}' is not a field of '{table}'"
  | noValues => "insert without values"

/-- The flaw, if it is there. -/
def Flaw.when (present : Bool) (flaw : Flaw) : List Flaw :=
  if present then [flaw] else []

/-- Whether a part of the reference is missing. -/
def ForeignKey.isIncomplete (r : ForeignKey) : Bool :=
  r.table.isEmpty || r.column.isEmpty

/-- The flaws of a column. -/
def Column.flaws (c : Column) : List Flaw :=
  Flaw.when c.name.isEmpty .emptyColumnName ++
  Flaw.when (c.options.references.any ForeignKey.isIncomplete) (.emptyReference c.name)

/-- The flaws of a table: its name, its columns one by one, then its key. -/
def Table.flaws (t : Table) : List Flaw :=
  Flaw.when t.name.isEmpty .emptyTableName ++
  Flaw.when t.columns.isEmpty (.noColumns t.name) ++
  t.columns.flatMap Column.flaws ++
  t.key.flatMap fun k => Flaw.when (!t.columns.any (·.name == k)) (.unknownKeyColumn k t.name)

/-- The flaws of a change. -/
def Change.flaws : Change → List Flaw
  | createTable t => t.flaws
  | addColumn t c => Flaw.when t.isEmpty .emptyTableName ++ c.flaws
  | insertRow t values => Flaw.when t.isEmpty .emptyTableName ++ Flaw.when values.isEmpty .noValues

/-- A warning about a plan. -/
inductive Warning where
  | noChanges
  | flawed (change : Nat) (flaw : Flaw)
deriving DecidableEq

/-- A warning in words. -/
def Warning.message : Warning → String
  | noChanges => "plan has no changes"
  | flawed change flaw => s!"change #{change}: {flaw.message}"

/-- All warnings about a plan, in the order of its changes. -/
def Plan.warnings (p : Plan) : List Warning :=
  if p.changes.isEmpty then [.noChanges]
  else p.changes.zipIdx.flatMap fun (c, i) => c.flaws.map (Warning.flawed i)

end SchemaEvolution
