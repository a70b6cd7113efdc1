import SchemaEvolution.Proofs.Document.ColumnReading
import SchemaEvolution.Proofs.Document.Form
import SchemaEvolution.Proofs.Document.Kind

/-!
# The documents of a change

Which documents a change may be written in, from references up: each record in either of its two
forms, whatever the form of the records in it. Members that are as by default may be left out, in a
list only at the end, and a type or an action may be written in each of its spellings. Constraints
are always written with their keys.

Main result: `Change.decode_written`, that these documents are exactly those that are read as the
change.
-/

namespace SchemaEvolution

open Result (bind_eq_ok exists_error map_eq_bind map_eq_ok map_some_map some_map_eq_ok)

/-! ## Single members -/

namespace Node

/-- A word that is read as a value. -/
def IsWord {α : Type} (read : String → Except KeywordError α) (a : α) (n : Node) : Prop :=
  ∃ s, n = .text s ∧ read s = .ok a

theorem asWord_eq_ok_iff {α : Type} {read : String → Except KeywordError α} {a : α} {n : Node} :
    (do DecodeError.ofKeyword (read (← n.asText))) = .ok a ↔ n.IsWord read a := by
  rw [bind_eq_ok]
  simp only [asText_eq_ok_iff, IsWord]
  refine exists_congr fun s => and_congr_right fun _ => ?_
  cases read s <;> simp [DecodeError.ofKeyword]

end Node

/-! ## References -/

namespace ForeignKey

/-- What is written for the members of a reference. -/
def member (r : ForeignKey) : Key → Record.Member
  | .table => .required "table" fun n => n = .text r.table
  | .field => .required "field" fun n => n = .text r.column
  | .onDelete =>
    .optional "on_delete" (Node.IsWord ReferentialAction.read r.onDelete) (r.onDelete = .noAction)
  | .onUpdate =>
    .optional "on_update" (Node.IsWord ReferentialAction.read r.onUpdate) (r.onUpdate = .noAction)

/-- The documents of a reference. Other keys are passed over. -/
def Written (r : ForeignKey) : Node → Prop :=
  Record.Written [.table, .field, .onDelete, .onUpdate] r.member false

/-- The draft of a reference. -/
def draft (r : ForeignKey) : Draft :=
  ⟨some r.table, some r.column, r.onDelete, r.onUpdate⟩

theorem Draft.finish_eq_ok {d : Draft} {form : RecordForm} {r : ForeignKey} :
    d.finish form = .ok r ↔ d = r.draft := by
  obtain ⟨table, field, onDelete, onUpdate⟩ := d
  obtain ⟨table', field', onDelete', onUpdate'⟩ := r
  cases table <;> cases field <;>
    simp [finish, draft, RecordShape.require, bind, Except.bind, pure, Except.pure]

/-- The type of the part that a member is read into. -/
def Key.Value : Key → Type
  | .table | .field => Option String
  | .onDelete | .onUpdate => ReferentialAction

/-- The draft of a reference by its parts. -/
def Draft.parts : shape.Parts Draft.put where
  Value := Key.Value
  read
    | .table, n | .field, n => some <$> n.asText
    | .onDelete, n | .onUpdate, n => action n
  part
    | .table => Draft.table
    | .field => Draft.field
    | .onDelete => Draft.onDelete
    | .onUpdate => Draft.onUpdate
  set
    | .table, table, d => { d with table }
    | .field, field, d => { d with field }
    | .onDelete, onDelete, d => { d with onDelete }
    | .onUpdate, onUpdate, d => { d with onUpdate }
  map_read d k n := by
    cases k with
    | table | field => exact map_some_map _
    | onDelete | onUpdate => exact map_eq_bind _
  part_set k v d := by
    funext k'
    cases k <;> cases k' <;> rfl
  ext {d d'} h := by
    obtain ⟨table, field, onDelete, onUpdate⟩ := d
    obtain ⟨table', field', onDelete', onUpdate'⟩ := d'
    obtain rfl : table = table' := h .table
    obtain rfl : field = field' := h .field
    obtain rfl : onDelete = onDelete' := h .onDelete
    obtain rfl : onUpdate = onUpdate' := h .onUpdate
    rfl
  key?_name k := by cases k <;> rfl
  nodup_names := by decide

theorem decode_eq_ok_iff {holder : Holder} {n : Node} (hn : n.hasDistinctKeys = true)
    {r : ForeignKey} : decode holder n = .ok r ↔ r.Written n := by
  refine Draft.parts.fill_bind_eq_ok_iff (d := r.draft) Draft.finish r.member Draft.finish_eq_ok
    nofun hn ?_ ?_ ?_
  · -- the keys are those of the shape
    intro k
    cases k <;> rfl
  · -- what is written for a member is what is read as its part of the draft
    intro k n _
    cases k with
    | table | field => exact (some_map_eq_ok.trans Node.asText_eq_ok_iff).symm
    | onDelete | onUpdate => exact Node.asWord_eq_ok_iff.symm
  · -- what may be left out is as in the empty draft
    intro k
    cases k with
    | table | field => exact ⟨nofun, nofun⟩
    | onDelete | onUpdate => exact Iff.rfl

/-- A list for a reference has at least the table and the field, and no more than its members. -/
theorem length_of_decode {holder : Holder} {form : Node.ListForm} {items : List Node}
    {r : ForeignKey} (h : decode holder (.list form items) = .ok r) :
    2 ≤ items.length ∧ items.length ≤ 4 :=
  -- the field is the last member that has to be there
  Draft.parts.length_of_fill_bind Draft.finish Draft.finish_eq_ok h 1 rfl nofun

end ForeignKey

/-! ## Columns -/

namespace Column

variable {holder : Holder} {n : Node}

/-- What is written for the members of a column. A null may stand for a reference that is not
there. -/
def member (c : Column) : Key → Record.Member
  | .name => .required "name" fun n => n = .text c.name
  | .type => .required "type" (Node.IsWord ColumnType.read c.type)
  | .allowNull =>
    .optional "allow_null" (fun n => n = .bool c.options.nullable) (c.options.nullable = true)
  | .unique => .optional "unique" (fun n => n = .bool c.options.unique) (c.options.unique = false)
  | .primaryKey =>
    .optional "primary_key" (fun n => n = .bool c.isPrimaryKey) (c.isPrimaryKey = false)
  | .references =>
    .optional "references"
      (fun n =>
        match c.options.references with
        | none => n = .null
        | some r => r.Written n)
      (c.options.references = none)

/-- The documents of a column. -/
def Written (c : Column) : Node → Prop :=
  Record.Written [.name, .type, .allowNull, .unique, .primaryKey, .references] c.member true

/-- The draft of a column. -/
def draft (c : Column) : Draft :=
  ⟨some c.name, some c.type, c.isPrimaryKey, c.options⟩

theorem Draft.finish_eq_ok {d : Draft} {form : RecordForm} {c : Column} :
    d.finish form = .ok c.toRaw ↔ d = c.draft := by
  obtain ⟨name, type, primaryKey, options⟩ := d
  cases name with
  | none => exact ⟨nofun, nofun⟩
  | some name =>
    cases type with
    | none => exact ⟨nofun, nofun⟩
    | some type =>
      cases primaryKey with
      | false =>
        show Except.ok _ = _ ↔ _
        cases c <;> simp [draft, Raw.ordinary, Raw.primaryKey]
      | true =>
        have hconflict := Options.conflict?_eq_none_iff (o := options)
        unfold finish
        cases hoption : options.conflict? with
        | none =>
          obtain rfl := hconflict.mp hoption
          show Except.ok (Raw.primaryKey name type) = _ ↔ _
          cases c <;> simp [draft, Raw.ordinary, Raw.primaryKey]
        | some conflict =>
          -- no key has options, so neither side holds
          rw [hoption] at hconflict
          have hoptions : options ≠ {} := fun h => nomatch hconflict.mpr h
          show Except.error (DecodeError.conflict name conflict) = _ ↔ _
          cases c <;> simp [draft, Raw.ordinary, Raw.primaryKey, hoptions]

/-- The type of the part that a member is read into. -/
def Key.Value : Key → Type
  | .name => Option String
  | .type => Option ColumnType
  | .allowNull | .unique | .primaryKey => Bool
  | .references => Option ForeignKey

/-- The draft of a column by its parts. -/
def Draft.parts (holder : Holder) : shape.Parts (Draft.put holder) where
  Value := Key.Value
  read
    | .name, n => some <$> n.asText
    | .type, n => some <$> typeOf n
    | .allowNull, n | .unique, n | .primaryKey, n => n.asBool
    | .references, n => n.asOption (ForeignKey.decode holder)
  part
    | .name => Draft.name
    | .type => Draft.type
    | .allowNull => fun d => d.options.nullable
    | .unique => fun d => d.options.unique
    | .primaryKey => Draft.primaryKey
    | .references => fun d => d.options.references
  set
    | .name, name, d => { d with name }
    | .type, type, d => { d with type }
    | .allowNull, nullable, d => { d with options := { d.options with nullable } }
    | .unique, unique, d => { d with options := { d.options with unique } }
    | .primaryKey, primaryKey, d => { d with primaryKey }
    | .references, references, d => { d with options := { d.options with references } }
  map_read d k n := by
    cases k with
    | name | type => exact map_some_map _
    | allowNull | unique | primaryKey | references => exact map_eq_bind _
  part_set k v d := by
    funext k'
    cases k <;> cases k' <;> rfl
  ext {d d'} h := by
    obtain ⟨name, type, primaryKey, nullable, unique, references⟩ := d
    obtain ⟨name', type', primaryKey', nullable', unique', references'⟩ := d'
    obtain rfl : name = name' := h .name
    obtain rfl : type = type' := h .type
    obtain rfl : primaryKey = primaryKey' := h .primaryKey
    obtain rfl : nullable = nullable' := h .allowNull
    obtain rfl : unique = unique' := h .unique
    obtain rfl : references = references' := h .references
    rfl
  key?_name k := by cases k <;> rfl
  nodup_names := by decide

theorem asOption_eq_ok_iff (hn : n.hasDistinctKeys = true) {o : Option ForeignKey} :
    n.asOption (ForeignKey.decode holder) = .ok o ↔
      match o with
      | none => n = .null
      | some r => r.Written n := by
  cases o with
  | none =>
    refine ⟨Node.eq_null_of_asOption, ?_⟩
    rintro rfl
    rfl
  | some r =>
    rw [Node.asOption_eq_some, ForeignKey.decode_eq_ok_iff hn]
    refine and_iff_right_of_imp ?_
    rintro h rfl
    cases h

theorem decode_eq_ok_iff (hn : n.hasDistinctKeys = true) {c : Column} :
    decode holder n = .ok c ↔ c.Written n := by
  refine decode_eq_ok_iff_toRaw.trans ?_
  refine (Draft.parts holder).fill_bind_eq_ok_iff (d := c.draft) Draft.finish c.member
    Draft.finish_eq_ok nofun hn ?_ ?_ ?_
  · intro k
    cases k <;> rfl
  · intro k m hm
    cases k with
    | name => exact (some_map_eq_ok.trans Node.asText_eq_ok_iff).symm
    | type => exact (some_map_eq_ok.trans Node.asWord_eq_ok_iff).symm
    | allowNull | unique | primaryKey => exact Node.asBool_eq_ok_iff.symm
    | references => exact (asOption_eq_ok_iff (Node.hasDistinctKeys_of_mem_values hn hm)).symm
  · intro k
    cases k with
    | name | type => exact ⟨nofun, nofun⟩
    | allowNull | unique | primaryKey | references => exact Iff.rfl

/-- A list for a column has at least the name and the type, and no more than its members. -/
theorem length_of_decode {form : Node.ListForm} {items : List Node} {c : Column}
    (h : decode holder (.list form items) = .ok c) : 2 ≤ items.length ∧ items.length ≤ 6 :=
  (Draft.parts holder).length_of_fill_bind Draft.finish Draft.finish_eq_ok
    (decode_eq_ok_iff_toRaw.mp h) 1 rfl nofun

end Column

/-! ## Constraints -/

namespace UniqueConstraint

/-- The documents of a constraint: tables with its name and its columns, and possibly other keys. -/
def Written (c : UniqueConstraint) (n : Node) : Prop :=
  ∃ entries columns, n = .table entries ∧ ("name", .text c.name) ∈ entries ∧
    ("unique", columns) ∈ entries ∧ columns.IsListOf (fun s m => m = .text s) c.columns

theorem decode_eq_ok_iff {n : Node} (hn : n.hasDistinctKeys = true) {c : UniqueConstraint} :
    decode n = .ok c ↔ c.Written n := by
  cases n with
  | table entries =>
    have hnodup := (Node.hasDistinctKeys_table.mp hn).1
    -- what is looked up is the one entry with the key
    have hlookup {key : String} {m : Node} : entries.lookup key = some m ↔ (key, m) ∈ entries :=
      ⟨Node.mem_of_lookup, Node.lookup_of_mem hnodup⟩
    constructor
    · intro h
      cases hname : entries.lookup "name" with
      | none =>
        simp only [decode, hname] at h
        cases h
      | some m =>
        simp only [decode, hname] at h
        obtain ⟨name, hm, h⟩ := bind_eq_ok.mp h
        obtain ⟨columns, hcolumns, h⟩ := bind_eq_ok.mp h
        cases h
        obtain rfl := Node.asText_eq_ok_iff.mp hm
        unfold columnsOf at hcolumns
        cases hunique : entries.lookup "unique" with
        | none =>
          rw [hunique] at hcolumns
          cases hcolumns
        | some u =>
          rw [hunique] at hcolumns
          exact ⟨entries, u, rfl, hlookup.mp hname, hlookup.mp hunique,
            Node.asTexts_eq_ok_iff.mp hcolumns⟩
    · rintro ⟨_, u, heq, hname, hunique, hcolumns⟩
      cases heq
      simp only [decode, columnsOf, hlookup.mpr hname, hlookup.mpr hunique,
        Node.asTexts_eq_ok_iff.mpr hcolumns]
      rfl
  | _ => exact ⟨nofun, fun ⟨_, _, h, _⟩ => nomatch h⟩

end UniqueConstraint

/-! ## Tables -/

namespace Table

variable {holder : Holder} {n : Node}

/-- What is written for the members of a table to create. -/
def member (t : Table) : Key → Record.Member
  | .name => .required "name" fun n => n = .text t.name
  | .fields => .required "fields" (Node.IsListOf Column.Written t.columns)
  | .primaryKey =>
    .optional "primary_key" (Node.IsListOf (fun s n => n = .text s) t.key) (t.key = [])
  | .constraints =>
    .optional "constraints" (Node.IsListOf UniqueConstraint.Written t.constraints)
      (t.constraints = [])

/-- The documents of a table to create. -/
def Written (t : Table) : Node → Prop :=
  Record.Written [.name, .fields, .primaryKey, .constraints] t.member true

/-- The draft of a table. -/
def draft (t : Table) : Draft :=
  ⟨some t.name, some t.columns, t.key, t.constraints⟩

theorem Draft.finish_eq_ok {d : Draft} {form : RecordForm} {t : Table} :
    d.finish form = .ok t ↔ d = t.draft := by
  obtain ⟨name, columns, key, constraints⟩ := d
  obtain ⟨name', columns', key', constraints'⟩ := t
  cases name <;> cases columns <;>
    simp [finish, draft, RecordShape.require, bind, Except.bind, pure, Except.pure]

/-- The type of the part that a member is read into. -/
def Key.Value : Key → Type
  | .name => Option String
  | .fields => Option (List Column)
  | .primaryKey => List String
  | .constraints => List UniqueConstraint

/-- The draft of a table by its parts. -/
def Draft.parts (holder : Holder) : shape.Parts (Draft.put holder) where
  Value := Key.Value
  read
    | .name, n => some <$> n.asText
    | .fields, n => some <$> n.asList (Column.decode holder)
    | .primaryKey, n => n.asTexts
    | .constraints, n => n.asList UniqueConstraint.decode
  part
    | .name => Draft.name
    | .fields => Draft.columns
    | .primaryKey => Draft.key
    | .constraints => Draft.constraints
  set
    | .name, name, d => { d with name }
    | .fields, columns, d => { d with columns }
    | .primaryKey, key, d => { d with key }
    | .constraints, constraints, d => { d with constraints }
  map_read d k n := by
    cases k with
    | name | fields => exact map_some_map _
    | primaryKey | constraints => exact map_eq_bind _
  part_set k v d := by
    funext k'
    cases k <;> cases k' <;> rfl
  ext {d d'} h := by
    obtain ⟨name, columns, key, constraints⟩ := d
    obtain ⟨name', columns', key', constraints'⟩ := d'
    obtain rfl : name = name' := h .name
    obtain rfl : columns = columns' := h .fields
    obtain rfl : key = key' := h .primaryKey
    obtain rfl : constraints = constraints' := h .constraints
    rfl
  key?_name k := by cases k <;> rfl
  nodup_names := by decide

theorem decode_eq_ok_iff (hn : n.hasDistinctKeys = true) {t : Table} :
    decode holder n = .ok t ↔ t.Written n := by
  refine (Draft.parts holder).fill_bind_eq_ok_iff (d := t.draft) Draft.finish t.member
    Draft.finish_eq_ok nofun hn ?_ ?_ ?_
  · intro k
    cases k <;> rfl
  · intro k m hm
    have hitems : ∀ i ∈ m.values, i.hasDistinctKeys = true := fun i hi =>
      Node.hasDistinctKeys_of_mem_values (Node.hasDistinctKeys_of_mem_values hn hm) hi
    cases k with
    | name => exact (some_map_eq_ok.trans Node.asText_eq_ok_iff).symm
    | fields =>
      refine (some_map_eq_ok.trans (Node.asList_eq_ok_iff ?_)).symm
      exact fun i hi c => Column.decode_eq_ok_iff (hitems i hi)
    | primaryKey => exact Node.asTexts_eq_ok_iff.symm
    | constraints =>
      exact (Node.asList_eq_ok_iff fun i hi c =>
        UniqueConstraint.decode_eq_ok_iff (hitems i hi)).symm
  · intro k
    cases k with
    | name | fields => exact ⟨nofun, nofun⟩
    | primaryKey | constraints => exact Iff.rfl

end Table

/-! ## Changes -/

namespace Change

/-- What is written for the members of a column to add. -/
def columnMember (table : String) (column : Column) : ColumnKey → Record.Member
  | .table => .required "table" fun n => n = .text table
  | .column => .required "column" column.Written

/-- What is written for the members of a row to insert. -/
def rowMember (table : String) (values : List String) : RowKey → Record.Member
  | .table => .required "table" fun n => n = .text table
  | .values => .required "values" (Node.IsListOf (fun s n => n = .text s) values)

/-- The documents of a change without its kind. -/
def BodyWritten : Change → Node → Prop
  | createTable t => t.Written
  | addColumn table column => Record.Written [.table, .column] (columnMember table column) true
  | insertRow table values => Record.Written [.table, .values] (rowMember table values) true

/-- The documents of a change: the kind stands under a key of its own, or as the first item. -/
inductive Written (c : Change) : Node → Prop
  | keyed {entries : List (String × Node)}
    (hkind : entries.lookup "kind" = some (.text c.kind.name))
    (hbody : c.BodyWritten (.table (entries.filter (·.1 != "kind")))) : Written c (.table entries)
  | positional (form : Node.ListForm) {items : List Node}
    (hbody : c.BodyWritten (.list form items)) :
    Written c (.list form (.text c.kind.name :: items))

/-- The type of the part that a member of a column to add is read into. -/
def ColumnKey.Value : ColumnKey → Type
  | .table => Option String
  | .column => Option Column

/-- The draft of a column to add by its parts. -/
def ColumnDraft.parts : columnShape.Parts ColumnDraft.put where
  Value := ColumnKey.Value
  read
    | .table, n => some <$> n.asText
    | .column, n => some <$> Column.decode .change n
  part
    | .table => ColumnDraft.table
    | .column => ColumnDraft.column
  set
    | .table, table, d => { d with table }
    | .column, column, d => { d with column }
  map_read d k n := by
    cases k <;> exact map_some_map _
  part_set k v d := by
    funext k'
    cases k <;> cases k' <;> rfl
  ext {d d'} h := by
    obtain ⟨table, column⟩ := d
    obtain ⟨table', column'⟩ := d'
    obtain rfl : table = table' := h .table
    obtain rfl : column = column' := h .column
    rfl
  key?_name k := by cases k <;> rfl
  nodup_names := by decide

/-- The type of the part that a member of a row to insert is read into. -/
def RowKey.Value : RowKey → Type
  | .table => Option String
  | .values => Option (List String)

/-- The draft of a row to insert by its parts. -/
def RowDraft.parts : rowShape.Parts RowDraft.put where
  Value := RowKey.Value
  read
    | .table, n => some <$> n.asText
    | .values, n => some <$> n.asTexts
  part
    | .table => RowDraft.table
    | .values => RowDraft.values
  set
    | .table, table, d => { d with table }
    | .values, values, d => { d with values }
  map_read d k n := by
    cases k <;> exact map_some_map _
  part_set k v d := by
    funext k'
    cases k <;> cases k' <;> rfl
  ext {d d'} h := by
    obtain ⟨table, values⟩ := d
    obtain ⟨table', values'⟩ := d'
    obtain rfl : table = table' := h .table
    obtain rfl : values = values' := h .values
    rfl
  key?_name k := by cases k <;> rfl
  nodup_names := by decide

/-- The column to add, once all members have been read. -/
def ColumnDraft.finish (d : ColumnDraft) (form : RecordForm) : Except DecodeError Change := do
  let table ← columnShape.require form .table d.table
  let column ← columnShape.require form .column d.column
  return addColumn table column

/-- The row to insert, once all members have been read. -/
def RowDraft.finish (d : RowDraft) (form : RecordForm) : Except DecodeError Change := do
  let table ← rowShape.require form .table d.table
  let values ← rowShape.require form .values d.values
  return insertRow table values

theorem ColumnDraft.finish_eq_ok {d : ColumnDraft} {form : RecordForm} {table : String}
    {column : Column} :
    d.finish form = .ok (addColumn table column) ↔ d = ⟨some table, some column⟩ := by
  obtain ⟨table', column'⟩ := d
  cases table' <;> cases column' <;>
    simp [finish, RecordShape.require, bind, Except.bind, pure, Except.pure]

theorem RowDraft.finish_eq_ok {d : RowDraft} {form : RecordForm} {table : String}
    {values : List String} :
    d.finish form = .ok (insertRow table values) ↔ d = ⟨some table, some values⟩ := by
  obtain ⟨table', values'⟩ := d
  cases table' <;> cases values' <;>
    simp [finish, RecordShape.require, bind, Except.bind, pure, Except.pure]

variable {n : Node} {c : Change}

/-- For the kind of a change, its body is read from exactly the documents of the body. -/
theorem decodeBody_eq_ok_iff (hn : n.hasDistinctKeys = true) :
    decodeBody n c.kind = .ok c ↔ c.BodyWritten n := by
  cases c with
  | createTable t =>
    show createTable <$> Table.decode .change n = _ ↔ t.Written n
    rw [map_eq_ok]
    simp [Table.decode_eq_ok_iff hn]
  | addColumn table column =>
    refine ColumnDraft.parts.fill_bind_eq_ok_iff (d := ⟨table, column⟩) ColumnDraft.finish
      (columnMember table column) ColumnDraft.finish_eq_ok nofun hn ?_ ?_ ?_
    · intro k
      cases k <;> rfl
    · intro k m hm
      cases k with
      | table => exact (some_map_eq_ok.trans Node.asText_eq_ok_iff).symm
      | column =>
        exact (some_map_eq_ok.trans
          (Column.decode_eq_ok_iff (Node.hasDistinctKeys_of_mem_values hn hm))).symm
    · intro k
      cases k <;> exact ⟨nofun, nofun⟩
  | insertRow table values =>
    refine RowDraft.parts.fill_bind_eq_ok_iff (d := ⟨table, values⟩) RowDraft.finish
      (rowMember table values) RowDraft.finish_eq_ok nofun hn ?_ ?_ ?_
    · intro k
      cases k <;> rfl
    · intro k m hm
      cases k with
      | table => exact (some_map_eq_ok.trans Node.asText_eq_ok_iff).symm
      | values => exact (some_map_eq_ok.trans Node.asTexts_eq_ok_iff).symm
    · intro k
      cases k <;> exact ⟨nofun, nofun⟩

theorem hasDistinctKeys_body (hn : n.hasDistinctKeys = true) : (body n).hasDistinctKeys = true := by
  cases n with
  | table entries => exact Node.hasDistinctKeys_filter kindKey hn
  | list form items =>
    cases items with
    | nil => exact hn
    | cons first rest =>
      rw [Node.hasDistinctKeys, Node.haveDistinctKeys, Bool.and_eq_true] at hn
      exact hn.2
  | _ => exact hn

theorem written_iff : c.Written n ↔ n.HasKind c.kind ∧ c.BodyWritten (body n) := by
  constructor
  · rintro (⟨hkind, hbody⟩ | ⟨form, hbody⟩)
    · exact ⟨hkind, hbody⟩
    · exact ⟨rfl, hbody⟩
  · rintro ⟨hkind, hbody⟩
    cases n with
    | table entries => exact .keyed hkind hbody
    | list form items =>
      cases items with
      | nil => cases hkind
      | cons first rest =>
        obtain rfl : first = .text c.kind.name := Option.some.inj hkind
        exact .positional form hbody
    | _ => cases hkind

theorem decode_eq_ok_iff (hn : n.hasDistinctKeys = true) : decode n = .ok c ↔ c.Written n := by
  rw [written_iff]
  constructor
  · intro h
    have hkind := hasKind_of_decode h
    rw [decode_of_hasKind hkind, decodeBody_eq_ok_iff (hasDistinctKeys_body hn)] at h
    exact ⟨hkind, h⟩
  · rintro ⟨hkind, hbody⟩
    rw [decode_of_hasKind hkind]
    exact (decodeBody_eq_ok_iff (hasDistinctKeys_body hn)).mpr hbody

/-- The least number of items in a list for a change of a kind, with the kind. -/
def Kind.minLength : Kind → Nat
  | createTable | addColumn | insertRow => 3

/-- The greatest number of items in a list for a change of a kind, with the kind. -/
def Kind.maxLength : Kind → Nat
  | createTable => 5
  | addColumn | insertRow => 3

theorem length_of_decodeBody {form : Node.ListForm} {items : List Node} {kind : Kind}
    (h : decodeBody (.list form items) kind = .ok c) :
    kind.minLength ≤ items.length + 1 ∧ items.length + 1 ≤ kind.maxLength := by
  have hkind := kind_of_decodeBody h
  subst hkind
  -- the second member of each body is the last one that has to be there
  cases c with
  | createTable t =>
    obtain ⟨t, h, -⟩ := map_eq_ok.mp h
    have hlength := (Table.Draft.parts .change).length_of_fill_bind Table.Draft.finish
      Table.Draft.finish_eq_ok h 1 rfl nofun
    exact ⟨Nat.succ_le_succ hlength.1, Nat.succ_le_succ hlength.2⟩
  | addColumn table column =>
    have hlength := ColumnDraft.parts.length_of_fill_bind ColumnDraft.finish
      ColumnDraft.finish_eq_ok h 1 rfl nofun
    exact ⟨Nat.succ_le_succ hlength.1, Nat.succ_le_succ hlength.2⟩
  | insertRow table values =>
    have hlength := RowDraft.parts.length_of_fill_bind RowDraft.finish
      RowDraft.finish_eq_ok h 1 rfl nofun
    exact ⟨Nat.succ_le_succ hlength.1, Nat.succ_le_succ hlength.2⟩

/-- A list that is read as a change has a length that its kind allows. -/
theorem length_of_decode {form : Node.ListForm} {items : List Node}
    (h : decode (.list form items) = .ok c) :
    c.kind.minLength ≤ items.length ∧ items.length ≤ c.kind.maxLength := by
  have hkind := hasKind_of_decode h
  rw [decode_of_hasKind hkind] at h
  cases items with
  | nil => cases hkind
  | cons first rest => exact length_of_decodeBody h

/-- Each record of a change may be written with its keys or as the list of its members, in any
combination, and what is as by default may be left out: exactly the documents of a change are read
as this change. A list for a reference, a column or a change is refused if it has fewer items than
there are members without a default, or more than there are members, whatever the items are. -/
theorem decode_written :
    (∀ n c, n.hasDistinctKeys = true → (decode n = .ok c ↔ c.Written n)) ∧
    (∀ holder form items, items.length < 2 ∨ 4 < items.length →
      ∃ e, ForeignKey.decode holder (.list form items) = .error e) ∧
    (∀ holder form items, items.length < 2 ∨ 6 < items.length →
      ∃ e, Column.decode holder (.list form items) = .error e) ∧
    (∀ form items,
      (∀ kind, (Node.list form items).HasKind kind →
        items.length < kind.minLength ∨ kind.maxLength < items.length) →
      ∃ e, decode (.list form items) = .error e) := by
  refine ⟨fun n c hn => decode_eq_ok_iff hn, ?_, ?_, ?_⟩
  · intro holder form items hlength
    apply exists_error
    intro r h
    have hr := ForeignKey.length_of_decode h
    omega
  · intro holder form items hlength
    apply exists_error
    intro c h
    have hc := Column.length_of_decode h
    omega
  · intro form items hlength
    apply exists_error
    intro c h
    have hc := length_of_decode h
    have hkind := hlength c.kind (hasKind_of_decode h)
    omega

/-- A column under its keys in a list for the change, with a reference that is a list again and
lacks the action by default at its end. A list without a column is refused. -/
theorem decode_written_mixed :
    let r : ForeignKey := { table := "users", column := "id", onDelete := .cascade }
    decode (.ofList [.text "add_column", .text "t", .table
        [("references", .ofTexts ["users", "id", "cascade"]), ("type", .text "int"),
          ("name", .text "u")]])
      = .ok (addColumn "t" ((Column.ordinary "u" .integer).referencing r)) ∧
    ∃ e, decode (.ofTexts ["add_column", "t"]) = .error e := by
  intro r
  obtain ⟨hread, -, -, hlength⟩ := decode_written
  have hreference : r.Written (.ofTexts ["users", "id", "cascade"]) := by
    refine .positional .bracketed (by decide) ?_ ?_
    · simp only [List.map, List.zip_cons_cons, List.zip_nil_right, List.forall_mem_cons]
      exact ⟨rfl, rfl, ⟨"cascade", rfl, by decide⟩, nofun⟩
    · simp [ForeignKey.member, r]
  constructor
  · refine (hread _ _ (by decide)).mpr
      (.positional .bracketed (.positional .bracketed (by decide) ?_ nofun))
    simp only [List.zip_cons_cons, List.zip_nil_right, List.forall_mem_cons]
    refine ⟨rfl, .keyed ?_ ?_ ?_, nofun⟩
    · intro k n hn
      cases k <;> simp [Column.member] at hn <;> subst hn
      case name => rfl
      case type => exact ⟨"int", rfl, by decide⟩
      case references => exact hreference
    · simp only [List.forall_mem_cons]
      exact fun _ => ⟨⟨.references, rfl⟩, ⟨.type, rfl⟩, ⟨.name, rfl⟩, nofun⟩
    · intro k hk
      -- the name, the type and the reference are there, and the flags are as by default
      cases k <;> simp [Column.member] at hk ⊢
      all_goals rfl
  · apply hlength
    intro kind _
    cases kind <;> simp [Kind.minLength]

end Change

end SchemaEvolution
