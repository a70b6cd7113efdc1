import SchemaEvolution.Proofs.Document.Kind

/-!
# Where the columns of a plan stand

A column that a plan defines stands in its document at a place of its own: in the list of the columns
of a table, or under the key for the column that is added (`Plan.HasColumn`). It is read from what
stands there, and from nothing else (`Plan.exists_hasColumn`).
-/

namespace SchemaEvolution

open Result (bind_eq_ok map_eq_ok)

/-- The columns that a change defines. -/
def Change.columns : Change → List Column
  | createTable t => t.columns
  | addColumn _ c => [c]
  | insertRow _ _ => []

/-! ## Places -/

/-- The document of a change has a column at a place among those that the change defines. -/
inductive Change.HasColumn (n : Node) : Nat → Node → Prop
  | created {fields m : Node} {j : Nat} (hkind : n.HasKind .createTable)
    (hfields : Table.shape.given? (body n) .fields = some fields)
    (hm : fields.item? j = some m) : HasColumn n j m
  | added {m : Node} (hkind : n.HasKind .addColumn)
    (hm : columnShape.given? (body n) .column = some m) : HasColumn n 0 m

/-- The document of a plan has a column at a place in a change. -/
def Plan.HasColumn (n : Node) (i j : Nat) (m : Node) : Prop :=
  ∃ changes change, shape.given? n .change = some changes ∧ changes.item? i = some change ∧
    Change.HasColumn change j m

/-! ## Tables -/

namespace Table

variable {holder : Holder} {n : Node} {d d' : Draft} {t : Table}

theorem Draft.put_fields (h : Draft.put holder d .fields n = .ok d') :
    ∃ columns, d'.columns = some columns ∧ n.asList (Column.decode holder) = .ok columns := by
  obtain ⟨columns, hcolumns, h⟩ := bind_eq_ok.mp h
  cases h
  exact ⟨columns, rfl, hcolumns⟩

theorem Draft.columns_put {k : Key} (hk : k ≠ .fields) (h : Draft.put holder d k n = .ok d') :
    d'.columns = d.columns := by
  cases k with
  | fields => exact absurd rfl hk
  | _ =>
    obtain ⟨_, _, h⟩ := bind_eq_ok.mp h
    cases h
    rfl

/-- The columns of a table are read from one list. -/
theorem exists_fields_of_decode (h : decode holder n = .ok t) :
    ∃ fields, shape.given? n .fields = some fields ∧
      fields.asList (Column.decode holder) = .ok t.columns := by
  obtain ⟨⟨draft, form⟩, hfill, hfinish⟩ := bind_eq_ok.mp h
  obtain ⟨name, _, hfinish⟩ := bind_eq_ok.mp hfinish
  obtain ⟨columns, hcolumns, hfinish⟩ := bind_eq_ok.mp hfinish
  cases hfinish
  exact RecordShape.given?_of_require Draft.columns
    (fun n columns => n.asList (Column.decode holder) = .ok columns)
    (fun _ _ _ h => Draft.put_fields h) (fun _ _ _ _ hk h => Draft.columns_put hk h) rfl hfill
    hcolumns

end Table

/-! ## Changes -/

namespace Change

variable {n : Node} {d d' : ColumnDraft} {c : Change}

theorem ColumnDraft.put_column (h : ColumnDraft.put d .column n = .ok d') :
    ∃ column, d'.column = some column ∧ Column.decode .change n = .ok column := by
  obtain ⟨column, hcolumn, h⟩ := bind_eq_ok.mp h
  cases h
  exact ⟨column, rfl, hcolumn⟩

theorem ColumnDraft.column_put {k : ColumnKey} (hk : k ≠ .column)
    (h : ColumnDraft.put d k n = .ok d') : d'.column = d.column := by
  cases k with
  | column => exact absurd rfl hk
  | table =>
    obtain ⟨_, _, h⟩ := bind_eq_ok.mp h
    cases h
    rfl

theorem exists_column_of_decodeBody {table : String} {column : Column}
    (h : decodeBody n .addColumn = .ok (addColumn table column)) :
    ∃ m, columnShape.given? n .column = some m ∧ Column.decode .change m = .ok column := by
  obtain ⟨⟨draft, form⟩, hfill, h⟩ := bind_eq_ok.mp h
  obtain ⟨table, _, h⟩ := bind_eq_ok.mp h
  obtain ⟨column, hcolumn, h⟩ := bind_eq_ok.mp h
  cases h
  exact RecordShape.given?_of_require ColumnDraft.column
    (fun n c => Column.decode .change n = .ok c)
    (fun _ _ _ h => ColumnDraft.put_column h) (fun _ _ _ _ hk h => ColumnDraft.column_put hk h)
    rfl hfill hcolumn

/-- Each column of a change was read from what stands in its place. -/
theorem exists_hasColumn (h : decode n = .ok c) {j : Nat} {column : Column}
    (hcolumn : c.columns[j]? = some column) :
    ∃ m, HasColumn n j m ∧ Column.decode .change m = .ok column := by
  have hkind := hasKind_of_decode h
  rw [decode_of_hasKind hkind] at h
  cases c with
  | createTable t =>
    obtain ⟨t', ht, heq⟩ := map_eq_ok.mp h
    cases heq
    obtain ⟨fields, hfields, hread⟩ := Table.exists_fields_of_decode ht
    obtain ⟨m, hm, hcolumn⟩ := Node.exists_item?_of_asList hread hcolumn
    exact ⟨m, .created hkind hfields hm, hcolumn⟩
  | addColumn table added =>
    -- there is no column behind the one that is added
    cases j with
    | zero =>
      obtain rfl : added = column := Option.some.inj hcolumn
      obtain ⟨m, hm, hread⟩ := exists_column_of_decodeBody h
      exact ⟨m, .added hkind hm, hread⟩
    | succ j => cases hcolumn
  | insertRow table values => cases hcolumn

end Change

/-! ## Plans -/

namespace Plan

variable {n : Node} {p p' : Plan}

theorem put_change (h : put p .change n = .ok p') : n.asList Change.decode = .ok p'.changes := by
  obtain ⟨changes, hchanges, h⟩ := bind_eq_ok.mp h
  cases h
  exact hchanges

theorem changes_put {k : Key} (hk : k ≠ .change) (h : put p k n = .ok p') :
    p'.changes = p.changes := by
  cases k with
  | change => exact absurd rfl hk
  | _ =>
    obtain ⟨_, _, h⟩ := bind_eq_ok.mp h
    cases h
    rfl

/-- The changes of a plan are read from one list, if there are any. -/
theorem exists_changes_of_decode (h : decode n = .ok p) (hchanges : p.changes ≠ []) :
    ∃ changes, shape.given? n .change = some changes ∧
      changes.asList Change.decode = .ok p.changes := by
  obtain ⟨⟨plan, form⟩, hfill, h⟩ := bind_eq_ok.mp h
  cases h
  have hgiven := RecordShape.given?_of_fill Plan.changes
    (fun n changes => n.asList Change.decode = .ok changes)
    (fun _ _ _ h => put_change h) (fun _ _ _ _ hk h => changes_put hk h) hfill
  cases hvalue : shape.given? n .change with
  | none =>
    rw [hvalue] at hgiven
    exact absurd hgiven hchanges
  | some changes =>
    rw [hvalue] at hgiven
    exact ⟨changes, rfl, hgiven⟩

/-- Each column that a plan defines was read from what stands in its place. -/
theorem exists_hasColumn (h : decode n = .ok p) {i j : Nat} {change : Change}
    (hchange : p.changes[i]? = some change) {c : Column} (hc : change.columns[j]? = some c) :
    ∃ m, HasColumn n i j m ∧ Column.decode .change m = .ok c := by
  have hne : p.changes ≠ [] := List.ne_nil_of_mem (List.mem_of_getElem? hchange)
  obtain ⟨changes, hgiven, hread⟩ := exists_changes_of_decode h hne
  obtain ⟨document, hdocument, hdecode⟩ := Node.exists_item?_of_asList hread hchange
  obtain ⟨m, hm, hcolumn⟩ := Change.exists_hasColumn hdecode hc
  exact ⟨m, ⟨changes, document, hgiven, hdocument, hm⟩, hcolumn⟩

end Plan

end SchemaEvolution
