import SchemaEvolution.Proofs.ColumnType.Sql
import SchemaEvolution.Proofs.Document.ColumnReading
import SchemaEvolution.Proofs.Document.Kind

/-!
# Documents of plans are read back

Writing leaves out what reading supplies, and reading accepts what writing produces. Each type is
shown to be read back from what is written for it, from references up to plans:

* a record is filled entry by entry (`RecordShape.foldlM_cons`), and an entry that is left out
  stands for the value that the draft starts with (`Column.foldlM_entries`, `Table.foldlM_entries`);
* a column that is written as a primary key has no options, so it is never refused;
* a change is written with its kind in front, and no other entry of it has that key.
-/

namespace SchemaEvolution

/-! ## Lists and records -/

namespace Node

theorem asList_ofList_map {α : Type} {item : Node → Except DecodeError α} {write : α → Node}
    (h : ∀ a, item (write a) = .ok a) (as : List α) :
    (ofList (as.map write)).asList item = .ok as := by
  rw [ofList, asList]
  induction as with
  | nil => rfl
  | cons a as ih =>
    rw [List.map_cons, List.mapM_cons, h a, ih]
    rfl

theorem asTexts_ofTexts (texts : List String) : (ofTexts texts).asTexts = .ok texts := by
  have htext : ∀ s, (Node.text s).asText = .ok s := fun s => rfl
  exact asList_ofList_map htext texts

end Node

namespace RecordShape

variable {Key Draft : Type} {shape : RecordShape Key}
  {put : Draft → Key → Node → Except DecodeError Draft} {draft draft' : Draft}
  {entries : List (String × Node)}

/-- An entry with a known key is put into the draft. -/
theorem foldlM_cons {name : String} {k : Key} {n : Node} (hkey : shape.key? name = some k)
    (hput : put draft k n = .ok draft') :
    ((name, n) :: entries).foldlM (shape.putEntry put) draft
      = entries.foldlM (shape.putEntry put) draft' := by
  rw [List.foldlM_cons, putEntry, hkey]
  show put draft k n >>= _ = _
  rw [hput]
  rfl

/-- Entries in two parts are put into the draft one part after the other. -/
theorem foldlM_append (more : List (String × Node))
    (h : entries.foldlM (shape.putEntry put) draft = .ok draft') :
    (entries ++ more).foldlM (shape.putEntry put) draft
      = more.foldlM (shape.putEntry put) draft' := by
  rw [List.foldlM_append, h]
  rfl

theorem fill_table (holder : Holder)
    (h : entries.foldlM (shape.putEntry put) draft = .ok draft') :
    shape.fill holder put draft (.table entries) = .ok (draft', .keyed) := by
  rw [fill, h]
  rfl

end RecordShape

/-! ## References and columns -/

namespace ForeignKey

theorem action_sql (a : ReferentialAction) : action (.text a.sql) = .ok a := by
  show DecodeError.ofKeyword (ReferentialAction.read a.sql) = .ok a
  rw [ReferentialAction.read_sql]
  rfl

theorem decode_encode (holder : Holder) (r : ForeignKey) : decode holder r.encode = .ok r := by
  have hdelete : Draft.put ⟨some r.table, some r.column, .noAction, .noAction⟩ .onDelete
      (.text r.onDelete.sql) = .ok ⟨some r.table, some r.column, r.onDelete, .noAction⟩ := by
    rw [Draft.put, action_sql]
    rfl
  have hupdate : Draft.put ⟨some r.table, some r.column, r.onDelete, .noAction⟩ .onUpdate
      (.text r.onUpdate.sql) = .ok ⟨some r.table, some r.column, r.onDelete, r.onUpdate⟩ := by
    rw [Draft.put, action_sql]
    rfl
  have hfill : shape.fill holder Draft.put {} r.encode =
      .ok (⟨some r.table, some r.column, r.onDelete, r.onUpdate⟩, .keyed) := by
    refine RecordShape.fill_table holder ?_
    rw [RecordShape.foldlM_cons (k := .table) rfl rfl,
      RecordShape.foldlM_cons (k := .field) rfl rfl,
      RecordShape.foldlM_cons (k := .onDelete) rfl hdelete,
      RecordShape.foldlM_cons (k := .onUpdate) rfl hupdate]
    rfl
  rw [decode, hfill]
  rfl

end ForeignKey

namespace Column

theorem typeOf_sql (a : ColumnType) : typeOf (.text a.sql) = .ok a := by
  show DecodeError.ofKeyword (ColumnType.read a.sql) = .ok a
  rw [ColumnType.read_sql]
  rfl

theorem asOption_encode (holder : Holder) (r : ForeignKey) :
    r.encode.asOption (ForeignKey.decode holder) = .ok (some r) := by
  show some <$> ForeignKey.decode holder r.encode = .ok (some r)
  rw [ForeignKey.decode_encode]
  rfl

/-- The entries for a column fill a draft with all that it is held as. -/
theorem foldlM_entries (holder : Holder) (c : Raw) :
    c.entries.foldlM (shape.putEntry (Draft.put holder)) {}
      = .ok ⟨some c.name, some c.type, c.isPrimaryKey, c.options⟩ := by
  obtain ⟨name, type, key, nullable, unique, references⟩ := c
  have htype : Draft.put holder ⟨some name, none, false, {}⟩ .type (.text type.sql)
      = .ok ⟨some name, some type, false, {}⟩ := by
    rw [Draft.put, typeOf_sql]
    rfl
  have hfront : [("name", Node.text name), ("type", .text type.sql)].foldlM
      (shape.putEntry (Draft.put holder)) {} = .ok ⟨some name, some type, false, {}⟩ := by
    rw [RecordShape.foldlM_cons (k := .name) rfl rfl,
      RecordShape.foldlM_cons (k := .type) rfl htype]
    rfl
  -- a flag that is left out is as in the draft
  have hflags : ([("name", Node.text name), ("type", .text type.sql)] ++
      (if nullable then [] else [("allow_null", Node.bool false)]) ++
      (if unique then [("unique", Node.bool true)] else []) ++
      (if key then [("primary_key", Node.bool true)] else [])).foldlM
      (shape.putEntry (Draft.put holder)) {}
      = .ok ⟨some name, some type, key, ⟨nullable, unique, none⟩⟩ := by
    rw [List.append_assoc, List.append_assoc, RecordShape.foldlM_append _ hfront]
    cases nullable <;> cases unique <;> cases key <;> rfl
  refine (RecordShape.foldlM_append _ hflags).trans ?_
  cases references with
  | none => rfl
  | some r =>
    have hput : Draft.put holder ⟨some name, some type, key, ⟨nullable, unique, none⟩⟩ .references
        r.encode = .ok ⟨some name, some type, key, ⟨nullable, unique, some r⟩⟩ := by
      rw [Draft.put, asOption_encode]
      rfl
    show [("references", r.encode)].foldlM _ _ = _
    rw [RecordShape.foldlM_cons (k := .references) rfl hput]
    rfl

/-- A column is read back, also a primary key: it is written without options. -/
theorem decode_encode (holder : Holder) (c : Column) : decode holder c.encode = .ok c := by
  have hfill := RecordShape.fill_table holder (foldlM_entries holder c.toRaw)
  rw [decode_eq_ok_iff_toRaw, Raw.decode, encode, hfill]
  cases c <;> rfl

end Column

/-! ## Constraints and tables -/

namespace UniqueConstraint

theorem decode_encode (c : UniqueConstraint) : decode c.encode = .ok c := by
  have hcolumns : columnsOf [("name", .text c.name), ("unique", .ofTexts c.columns)]
      = .ok c.columns := Node.asTexts_ofTexts c.columns
  show columnsOf _ >>= (fun columns => Except.ok (UniqueConstraint.mk c.name columns)) = _
  rw [hcolumns]
  rfl

end UniqueConstraint

namespace Table

/-- The entries of a table are read as the table, the lists left out as empty ones. -/
theorem foldlM_entries (holder : Holder) (t : Table) :
    t.entries.foldlM (shape.putEntry (Draft.put holder)) {}
      = .ok ⟨some t.name, some t.columns, t.key, t.constraints⟩ := by
  obtain ⟨name, columns, key, constraints⟩ := t
  have hfields : Draft.put holder ⟨some name, none, [], []⟩ .fields
      (.ofList (columns.map Column.encode)) = .ok ⟨some name, some columns, [], []⟩ := by
    rw [Draft.put, Node.asList_ofList_map (Column.decode_encode holder)]
    rfl
  have hfront : [("name", Node.text name), ("fields", .ofList (columns.map Column.encode))].foldlM
      (shape.putEntry (Draft.put holder)) {} = .ok ⟨some name, some columns, [], []⟩ := by
    rw [RecordShape.foldlM_cons (k := .name) rfl rfl,
      RecordShape.foldlM_cons (k := .fields) rfl hfields]
    rfl
  -- an empty list is left out, and the draft has it already
  have hkey : (if key = [] then [] else [("primary_key", Node.ofTexts key)]).foldlM
      (shape.putEntry (Draft.put holder)) ⟨some name, some columns, [], []⟩
      = .ok ⟨some name, some columns, key, []⟩ := by
    split
    · rename_i hnil
      rw [hnil]
      rfl
    · have hput : Draft.put holder ⟨some name, some columns, [], []⟩ .primaryKey (.ofTexts key)
          = .ok ⟨some name, some columns, key, []⟩ := by
        rw [Draft.put, Node.asTexts_ofTexts]
        rfl
      rw [RecordShape.foldlM_cons (k := .primaryKey) rfl hput]
      rfl
  have hconstraints : (if constraints = [] then [] else
      [("constraints", Node.ofList (constraints.map UniqueConstraint.encode))]).foldlM
      (shape.putEntry (Draft.put holder)) ⟨some name, some columns, key, []⟩
      = .ok ⟨some name, some columns, key, constraints⟩ := by
    split
    · rename_i hnil
      rw [hnil]
      rfl
    · have hput : Draft.put holder ⟨some name, some columns, key, []⟩ .constraints
          (.ofList (constraints.map UniqueConstraint.encode))
          = .ok ⟨some name, some columns, key, constraints⟩ := by
        rw [Draft.put, Node.asList_ofList_map UniqueConstraint.decode_encode]
        rfl
      rw [RecordShape.foldlM_cons (k := .constraints) rfl hput]
      rfl
  rw [entries, List.append_assoc, RecordShape.foldlM_append _ hfront,
    RecordShape.foldlM_append _ hkey]
  exact hconstraints

theorem decode_entries (holder : Holder) (t : Table) :
    decode holder (.table t.entries) = .ok t := by
  rw [decode, RecordShape.fill_table holder (foldlM_entries holder t)]
  rfl

end Table

/-! ## Changes and plans -/

namespace Change

/-- The kind is written under a key of its own. -/
theorem ne_kindKey_of_mem_entries {c : Change} {e : String × Node} (h : e ∈ c.entries) :
    (e.1 != kindKey) = true := by
  cases c with
  | createTable t =>
    simp only [entries, Table.entries, List.mem_append, List.mem_ite_nil_left, List.mem_cons,
      List.not_mem_nil, or_false] at h
    rcases h with ((rfl | rfl) | ⟨_, rfl⟩) | ⟨_, rfl⟩ <;> rfl
  | addColumn t c =>
    simp only [entries, List.mem_cons, List.not_mem_nil, or_false] at h
    rcases h with rfl | rfl <;> rfl
  | insertRow t values =>
    simp only [entries, List.mem_cons, List.not_mem_nil, or_false] at h
    rcases h with rfl | rfl <;> rfl

theorem decodeBody_entries (c : Change) : decodeBody (.table c.entries) c.kind = .ok c := by
  cases c with
  | createTable t =>
    show createTable <$> Table.decode .change (.table t.entries) = _
    rw [Table.decode_entries]
    rfl
  | addColumn t c =>
    have hput : ColumnDraft.put ⟨some t, none⟩ .column c.encode = .ok ⟨some t, some c⟩ := by
      rw [ColumnDraft.put, Column.decode_encode]
      rfl
    have hfill : columnShape.fill .change ColumnDraft.put {} (.table (addColumn t c).entries)
        = .ok (⟨some t, some c⟩, .keyed) := by
      refine RecordShape.fill_table .change ?_
      rw [entries, RecordShape.foldlM_cons (k := .table) rfl rfl,
        RecordShape.foldlM_cons (k := .column) rfl hput]
      rfl
    rw [kind, decodeBody, hfill]
    rfl
  | insertRow t values =>
    have hput : RowDraft.put ⟨some t, none⟩ .values (.ofTexts values)
        = .ok ⟨some t, some values⟩ := by
      rw [RowDraft.put, Node.asTexts_ofTexts]
      rfl
    have hfill : rowShape.fill .change RowDraft.put {} (.table (insertRow t values).entries)
        = .ok (⟨some t, some values⟩, .keyed) := by
      refine RecordShape.fill_table .change ?_
      rw [entries, RecordShape.foldlM_cons (k := .table) rfl rfl,
        RecordShape.foldlM_cons (k := .values) rfl hput]
      rfl
    rw [kind, decodeBody, hfill]
    rfl

theorem decode_encode (c : Change) : decode c.encode = .ok c := by
  have hlookup : ((kindKey, Node.text c.kind.name) :: c.entries).lookup kindKey
      = some (.text c.kind.name) := by
    rw [List.lookup_cons_self]
  -- without the kind, the entries are those of the change
  have hfilter : ((kindKey, Node.text c.kind.name) :: c.entries).filter (·.1 != kindKey)
      = c.entries := by
    rw [List.filter_cons_of_neg (by simp), List.filter_eq_self]
    exact fun e he => ne_kindKey_of_mem_entries he
  rw [encode, decode, hlookup]
  show (do decodeBody (.table _) (← Kind.decode (.text c.kind.name))) = _
  rw [hfilter, Kind.decode_name]
  exact decodeBody_entries c

end Change

namespace Plan

/-- A plan is read back from what is written for it. -/
theorem foldlM_entries (p : Plan) :
    ((p.name.map fun s => ("name", Node.text s)).toList ++
      (p.description.map fun s => ("description", Node.text s)).toList ++
      [("change", Node.ofList (p.changes.map Change.encode))]).foldlM (shape.putEntry put) {}
      = .ok p := by
  obtain ⟨name, description, changes⟩ := p
  have hname : (name.map fun s => ("name", Node.text s)).toList.foldlM (shape.putEntry put) {}
      = .ok ⟨name, none, []⟩ := by
    cases name <;> rfl
  have hdescription : (description.map fun s => ("description", Node.text s)).toList.foldlM
      (shape.putEntry put) ⟨name, none, []⟩ = .ok ⟨name, description, []⟩ := by
    cases description <;> rfl
  have hchange : put ⟨name, description, []⟩ .change (.ofList (changes.map Change.encode))
      = .ok ⟨name, description, changes⟩ := by
    rw [put, Node.asList_ofList_map Change.decode_encode]
    rfl
  rw [List.append_assoc, RecordShape.foldlM_append _ hname,
    RecordShape.foldlM_append _ hdescription, RecordShape.foldlM_cons (k := .change) rfl hchange]
  rfl

theorem decode_encode (p : Plan) : decode p.encode = .ok p := by
  rw [decode, encode, RecordShape.fill_table .document (foldlM_entries p)]
  rfl

end Plan

/-! ## What is left out -/

/-- The keys of a document that is a table. -/
def Node.keys : Node → List String
  | .table entries => entries.map Prod.fst
  | _ => []

/-- A key of a column is written where its value is not the one that reading supplies. -/
theorem Column.mem_keys_encode (c : Column) :
    ("allow_null" ∈ c.encode.keys ↔ c.options.nullable = false) ∧
    ("unique" ∈ c.encode.keys ↔ c.options.unique = true) ∧
    ("primary_key" ∈ c.encode.keys ↔ c.isPrimaryKey = true) ∧
    ("references" ∈ c.encode.keys ↔ c.options.references ≠ none) := by
  obtain ⟨⟨name, type, key, nullable, unique, references⟩, sound⟩ := c
  cases key <;> cases nullable <;> cases unique <;> cases references <;>
    simp [encode, Raw.entries, Node.keys]

/-- The lists of a table are written unless they are empty. -/
theorem Table.mem_keys_encode (t : Table) :
    ("primary_key" ∈ (Change.createTable t).encode.keys ↔ t.key ≠ []) ∧
    ("constraints" ∈ (Change.createTable t).encode.keys ↔ t.constraints ≠ []) := by
  simp [Change.encode, Change.entries, entries, Node.keys, Change.kindKey]

/-- The texts of a plan are written unless they are missing. -/
theorem Plan.mem_keys_encode (p : Plan) :
    ("name" ∈ p.encode.keys ↔ p.name ≠ none) ∧
    ("description" ∈ p.encode.keys ↔ p.description ≠ none) := by
  obtain ⟨name, description, changes⟩ := p
  cases name <;> cases description <;> simp [encode, Node.keys]

/-! ## The round trip -/

/-- Each plan is read back from the document written for it, so writing keeps what a document was
read as, whichever spellings it used. A column is read back by itself too, a primary key included.
What is left out is exactly what has the value that reading supplies. -/
theorem Plan.round_trip :
    (∀ p : Plan, decode p.encode = .ok p) ∧
    (∀ (n : Node) (p : Plan), decode n = .ok p → decode p.encode = decode n) ∧
    (∀ (holder : Holder) (c : Column), Column.decode holder c.encode = .ok c) ∧
    (∀ p : Plan, ("name" ∈ p.encode.keys ↔ p.name ≠ none) ∧
      ("description" ∈ p.encode.keys ↔ p.description ≠ none)) ∧
    (∀ t : Table, ("primary_key" ∈ (Change.createTable t).encode.keys ↔ t.key ≠ []) ∧
      ("constraints" ∈ (Change.createTable t).encode.keys ↔ t.constraints ≠ [])) ∧
    (∀ c : Column, ("allow_null" ∈ c.encode.keys ↔ c.options.nullable = false) ∧
      ("unique" ∈ c.encode.keys ↔ c.options.unique = true) ∧
      ("primary_key" ∈ c.encode.keys ↔ c.isPrimaryKey = true) ∧
      ("references" ∈ c.encode.keys ↔ c.options.references ≠ none)) := by
  refine ⟨decode_encode, fun n p h => ?_, Column.decode_encode, mem_keys_encode,
    Table.mem_keys_encode, Column.mem_keys_encode⟩
  rw [h]
  exact decode_encode p

end SchemaEvolution
