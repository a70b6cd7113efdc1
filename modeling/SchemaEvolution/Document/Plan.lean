import SchemaEvolution.Document.Table
import SchemaEvolution.Plan

/-!
# Plans in documents

Reading and writing of changes and plans. The kind of a change decides how the rest of it is read,
so it is looked at first, wherever it stands.
-/

namespace SchemaEvolution

/-! ## Changes -/

namespace Change

/-- Reads the kind of a change. -/
def Kind.decode : Node → Except DecodeError Kind
  | .text s =>
    match Kind.all.find? fun k => k.name == s with
    | some k => .ok k
    | none => .error (.unknownChoice s (Kind.all.map Kind.name))
  | n => .error (.wrongKind n.found .kind)

/-- The keys of a column to add. -/
inductive ColumnKey where
  | table
  | column
deriving DecidableEq

/-- A column to add as documents write it. -/
def columnShape : RecordShape ColumnKey where
  title := "AddColumn"
  keys := [.table, .column]
  name
    | .table => "table"
    | .column => "column"
  closed := true

/-- A column to add of which some members have been read. -/
structure ColumnDraft where
  table : Option String := none
  column : Option Column := none

/-- Reads one member. -/
def ColumnDraft.put (d : ColumnDraft) : ColumnKey → Node → Except DecodeError ColumnDraft
  | .table, n => return { d with table := some (← n.asText) }
  | .column, n => return { d with column := some (← Column.decode .change n) }

/-- The keys of a row to insert. -/
inductive RowKey where
  | table
  | values
deriving DecidableEq

/-- A row to insert as documents write it. -/
def rowShape : RecordShape RowKey where
  title := "InsertRow"
  keys := [.table, .values]
  name
    | .table => "table"
    | .values => "values"
  closed := true

/-- A row to insert of which some members have been read. -/
structure RowDraft where
  table : Option String := none
  values : Option (List String) := none

/-- Reads one member. -/
def RowDraft.put (d : RowDraft) : RowKey → Node → Except DecodeError RowDraft
  | .table, n => return { d with table := some (← n.asText) }
  | .values, n => return { d with values := some (← n.asTexts) }

/-- Reads what a change of a kind consists of. -/
def decodeBody (body : Node) : Kind → Except DecodeError Change
  | .createTable => createTable <$> Table.decode .change body
  | .addColumn => do
    let (draft, form) ← columnShape.fill .change ColumnDraft.put {} body
    let table ← columnShape.require form .table draft.table
    let column ← columnShape.require form .column draft.column
    return addColumn table column
  | .insertRow => do
    let (draft, form) ← rowShape.fill .change RowDraft.put {} body
    let table ← rowShape.require form .table draft.table
    let values ← rowShape.require form .values draft.values
    return insertRow table values

/-- The key for the kind of a change. -/
def kindKey : String := "kind"

/-- Reads a change. -/
def decode : Node → Except DecodeError Change
  | .table entries => do
    match entries.lookup kindKey with
    | some n => decodeBody (.table (entries.filter (·.1 != kindKey))) (← Kind.decode n)
    | none => throw (.missing kindKey)
  | .list form (n :: rest) => do decodeBody (.list form rest) (← Kind.decode n)
  | .list _ [] | .moment => .error (.missing kindKey)
  | n => .error (.wrongKind n.found .change)

/-- The entries for what a change consists of. -/
def entries : Change → List (String × Node)
  | createTable t => t.entries
  | addColumn t c => [("table", .text t), ("column", c.encode)]
  | insertRow t values => [("table", .text t), ("values", .ofTexts values)]

/-- Writes a change. -/
def encode (c : Change) : Node :=
  .table ((kindKey, .text c.kind.name) :: c.entries)

end Change

/-! ## Plans -/

namespace Plan

/-- The keys of a plan. -/
inductive Key where
  | name
  | description
  | change
deriving DecidableEq

/-- A plan as documents write it; keys of any other name are passed over. -/
def shape : RecordShape Key where
  title := "MigrationPlan"
  keys := [.name, .description, .change]
  name
    | .name => "name"
    | .description => "description"
    | .change => "change"
  closed := false

/-- Reads one member. -/
def put (p : Plan) : Key → Node → Except DecodeError Plan
  | .name, n => return { p with name := ← n.asOption Node.asText }
  | .description, n => return { p with description := ← n.asOption Node.asText }
  | .change, n => return { p with changes := ← n.asList Change.decode }

/-- Reads a plan. Every member may be missing. -/
def decode (n : Node) : Except DecodeError Plan := do
  let (plan, _) ← shape.fill .document put {} n
  return plan

/-- Writes a plan. -/
def encode (p : Plan) : Node :=
  .table
    ((p.name.map fun s => ("name", Node.text s)).toList ++
     (p.description.map fun s => ("description", Node.text s)).toList ++
     [("change", .ofList (p.changes.map Change.encode))])

end Plan

end SchemaEvolution
