import SchemaEvolution.Document.Record

/-!
# Columns in documents

Reading and writing of references and columns. Writing leaves out what a column has by default;
reading accepts every spelling of a type or action, and refuses a primary key that asks for an
option of ordinary columns. What is read is a column as it is held, with the proof that it is sound.
-/

namespace SchemaEvolution

/-! ## References -/

namespace ForeignKey

/-- The keys of a reference. -/
inductive Key where
  | table
  | field
  | onDelete
  | onUpdate
deriving DecidableEq

/-- A reference as documents write it; keys of any other name are passed over. -/
def shape : RecordShape Key where
  title := "FieldReference"
  keys := [.table, .field, .onDelete, .onUpdate]
  name
    | .table => "table"
    | .field => "field"
    | .onDelete => "on_delete"
    | .onUpdate => "on_update"
  closed := false

/-- A reference of which some members have been read. -/
structure Draft where
  table : Option String := none
  field : Option String := none
  onDelete : ReferentialAction := .noAction
  onUpdate : ReferentialAction := .noAction

/-- Reads an action. -/
def action (n : Node) : Except DecodeError ReferentialAction := do
  DecodeError.ofKeyword (ReferentialAction.read (← n.asText))

/-- Reads one member. -/
def Draft.put (d : Draft) : Key → Node → Except DecodeError Draft
  | .table, n => return { d with table := some (← n.asText) }
  | .field, n => return { d with field := some (← n.asText) }
  | .onDelete, n => return { d with onDelete := ← action n }
  | .onUpdate, n => return { d with onUpdate := ← action n }

/-- The reference, once all members have been read. -/
def Draft.finish (d : Draft) (form : RecordForm) : Except DecodeError ForeignKey := do
  let table ← shape.require form .table d.table
  let column ← shape.require form .field d.field
  return { table, column, onDelete := d.onDelete, onUpdate := d.onUpdate }

/-- Reads a reference. -/
def decode (holder : Holder) (n : Node) : Except DecodeError ForeignKey := do
  let (draft, form) ← shape.fill holder Draft.put {} n
  draft.finish form

/-- Writes a reference. -/
def encode (r : ForeignKey) : Node :=
  .table
    [("table", .text r.table), ("field", .text r.column), ("on_delete", .text r.onDelete.sql),
     ("on_update", .text r.onUpdate.sql)]

end ForeignKey

/-! ## Columns -/

namespace Column

/-- The keys of a column. -/
inductive Key where
  | name
  | type
  | allowNull
  | unique
  | primaryKey
  | references
deriving DecidableEq

/-- A column as documents write it. -/
def shape : RecordShape Key where
  title := "FieldSpecDef"
  keys := [.name, .type, .allowNull, .unique, .primaryKey, .references]
  name
    | .name => "name"
    | .type => "type"
    | .allowNull => "allow_null"
    | .unique => "unique"
    | .primaryKey => "primary_key"
    | .references => "references"
  closed := true

/-- A column of which some members have been read. -/
structure Draft where
  name : Option String := none
  type : Option ColumnType := none
  primaryKey : Bool := false
  options : Options := {}

/-- Reads a column type. -/
def typeOf (n : Node) : Except DecodeError ColumnType := do
  DecodeError.ofKeyword (ColumnType.read (← n.asText))

/-- Reads one member. -/
def Draft.put (holder : Holder) (d : Draft) : Key → Node → Except DecodeError Draft
  | .name, n => return { d with name := some (← n.asText) }
  | .type, n => return { d with type := some (← typeOf n) }
  | .allowNull, n => return { d with options := { d.options with nullable := ← n.asBool } }
  | .unique, n => return { d with options := { d.options with unique := ← n.asBool } }
  | .primaryKey, n => return { d with primaryKey := ← n.asBool }
  | .references, n => do
    let references ← n.asOption (ForeignKey.decode holder)
    return { d with options := { d.options with references } }

/-- The first option that a primary key cannot have. -/
def Options.conflict? (o : Options) : Option Conflict :=
  if !o.nullable then some .nullable
  else if o.unique then some .unique
  else if o.references.isSome then some .references
  else none

/-- The column as it is held, once all members have been read. -/
def Draft.finish (d : Draft) (form : RecordForm) : Except DecodeError Raw := do
  let name ← shape.require form .name d.name
  let type ← shape.require form .type d.type
  if d.primaryKey then
    match d.options.conflict? with
    | some conflict => throw (.conflict name conflict)
    | none => return .primaryKey name type
  else
    return { Raw.ordinary name type with options := d.options }

/-- Reads a column as it is held. -/
def Raw.decode (holder : Holder) (n : Node) : Except DecodeError Raw := do
  let (draft, form) ← shape.fill holder (Draft.put holder) {} n
  draft.finish form

theorem Draft.isSound_of_finish {d : Draft} {form : RecordForm} {c : Raw}
    (h : d.finish form = .ok c) : c.IsSound := by
  obtain ⟨name, type, primaryKey, options⟩ := d
  cases name with
  | none => cases h
  | some name =>
    cases type with
    | none => cases h
    | some type =>
      cases primaryKey with
      | true =>
        change (match options.conflict? with
          | some conflict => Except.error (DecodeError.conflict name conflict)
          | none => .ok (Raw.primaryKey name type)) = .ok c at h
        split at h <;> cases h
        exact Raw.isSound_primaryKey name type
      | false =>
        cases h
        exact nofun

theorem Raw.isSound_of_decode {holder : Holder} {n : Node} {c : Raw}
    (h : Raw.decode holder n = .ok c) : c.IsSound := by
  rw [Raw.decode] at h
  cases hfill : shape.fill holder (Draft.put holder) {} n with
  | error e =>
    rw [hfill] at h
    cases h
  | ok filled =>
    rw [hfill] at h
    exact Draft.isSound_of_finish h

/-- Reads a column. -/
def decode (holder : Holder) (n : Node) : Except DecodeError Column :=
  match h : Raw.decode holder n with
  | .ok c => .ok ⟨c, Raw.isSound_of_decode h⟩
  | .error e => .error e

/-- The entries for a column: its name, its type and what is not the default. -/
def Raw.entries (c : Raw) : List (String × Node) :=
  [("name", .text c.name), ("type", .text c.type.sql)] ++
  (if c.options.nullable then [] else [("allow_null", .bool false)]) ++
  (if c.options.unique then [("unique", .bool true)] else []) ++
  (if c.isPrimaryKey then [("primary_key", .bool true)] else []) ++
  (c.options.references.map fun r => ("references", r.encode)).toList

/-- Writes a column. -/
def encode (c : Column) : Node :=
  .table c.entries

end Column

end SchemaEvolution
