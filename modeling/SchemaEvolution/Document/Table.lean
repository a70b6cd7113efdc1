import SchemaEvolution.Document.Column
import SchemaEvolution.Table

/-!
# Tables in documents

Reading and writing of constraints and tables. A constraint is always a table with keys, since what
it constrains is told by which key is there.
-/

namespace SchemaEvolution

/-! ## Constraints -/

namespace UniqueConstraint

/-- The columns of a constraint; the entry for them also says which kind of constraint it is. -/
def columnsOf (entries : List (String × Node)) : Except DecodeError (List String) :=
  match entries.lookup "unique" with
  | some n => n.asTexts
  | none => .error .noConstraint

/-- Reads a constraint. The name is looked at first, wherever it stands. -/
def decode : Node → Except DecodeError UniqueConstraint
  | .table entries => do
    match entries.lookup "name" with
    | some n =>
      let name ← n.asText
      let columns ← columnsOf entries
      return { name, columns }
    | none => throw (.missing "name")
  | .moment => .error (.missing "name")
  | n => .error (.wrongKind n.found (.record "Constraint"))

/-- Writes a constraint. -/
def encode (c : UniqueConstraint) : Node :=
  .table [("name", .text c.name), ("unique", .ofTexts c.columns)]

end UniqueConstraint

/-! ## Tables -/

namespace Table

/-- The keys of a table to create. -/
inductive Key where
  | name
  | fields
  | primaryKey
  | constraints
deriving DecidableEq

/-- A table to create as documents write it. -/
def shape : RecordShape Key where
  title := "CreateTable"
  keys := [.name, .fields, .primaryKey, .constraints]
  name
    | .name => "name"
    | .fields => "fields"
    | .primaryKey => "primary_key"
    | .constraints => "constraints"
  closed := true

/-- A table of which some members have been read. -/
structure Draft where
  name : Option String := none
  columns : Option (List Column) := none
  key : List String := []
  constraints : List UniqueConstraint := []

/-- Reads one member. -/
def Draft.put (holder : Holder) (d : Draft) : Key → Node → Except DecodeError Draft
  | .name, n => return { d with name := some (← n.asText) }
  | .fields, n => return { d with columns := some (← n.asList (Column.decode holder)) }
  | .primaryKey, n => return { d with key := ← n.asTexts }
  | .constraints, n => return { d with constraints := ← n.asList UniqueConstraint.decode }

/-- The table, once all members have been read. -/
def Draft.finish (d : Draft) (form : RecordForm) : Except DecodeError Table := do
  let name ← shape.require form .name d.name
  let columns ← shape.require form .fields d.columns
  return { name, columns, key := d.key, constraints := d.constraints }

/-- Reads a table. -/
def decode (holder : Holder) (n : Node) : Except DecodeError Table := do
  let (draft, form) ← shape.fill holder (Draft.put holder) {} n
  draft.finish form

/-- The entries for a table; empty lists that may be left out are. -/
def entries (t : Table) : List (String × Node) :=
  [("name", .text t.name), ("fields", .ofList (t.columns.map Column.encode))] ++
  (if t.key = [] then [] else [("primary_key", .ofTexts t.key)]) ++
  (if t.constraints = [] then []
    else [("constraints", .ofList (t.constraints.map UniqueConstraint.encode))])

end Table

end SchemaEvolution
