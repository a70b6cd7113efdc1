import SchemaEvolution.Proofs.Calls
import SchemaEvolution.Proofs.Column.Calls
import SchemaEvolution.Proofs.Statement.Column

/-!
# Calls have a normal form

A reference keeps the last action that it was given for each event (`ForeignKey.after_eq`), as a column
keeps the last reference (`Column.after_ordinary`). The definition of a column is written from what it
keeps (`Column.sql_ordinary`), so two lists of calls that differ otherwise write the same text
(`Column.calls_normal`).
-/

namespace SchemaEvolution

/-! ## References -/

namespace ForeignKey

/-- A call that gives a reference an action. -/
inductive Call where
  | deleting (action : ReferentialAction)
  | updating (action : ReferentialAction)

/-- The reference after a call. -/
def Call.on (r : ForeignKey) : Call → ForeignKey
  | deleting action => r.deleting action
  | updating action => r.updating action

/-- The action on deletion that a call gives. -/
def Call.onDelete? : Call → Option ReferentialAction
  | deleting action => some action
  | updating _ => none

/-- The action on a change of the key that a call gives. -/
def Call.onUpdate? : Call → Option ReferentialAction
  | deleting _ => none
  | updating action => some action

/-- The reference after calls, in their order. -/
def after (r : ForeignKey) (calls : List Call) : ForeignKey :=
  calls.foldl Call.on r

/-- Each action is the last one that was given. -/
theorem after_eq (r : ForeignKey) (calls : List Call) :
    r.after calls =
      { r with
        onDelete := (calls.filterMap Call.onDelete?).getLast?.getD r.onDelete
        onUpdate := (calls.filterMap Call.onUpdate?).getLast?.getD r.onUpdate } := by
  have htable : (r.after calls).table = r.table :=
    foldl_kept (fun r call => by cases call <;> rfl) r calls
  have hcolumn : (r.after calls).column = r.column :=
    foldl_kept (fun r call => by cases call <;> rfl) r calls
  have hdelete : (r.after calls).onDelete =
      (calls.filterMap Call.onDelete?).getLast?.getD r.onDelete :=
    foldl_replaced (fun r call => by cases call <;> rfl) r calls
  have hupdate : (r.after calls).onUpdate =
      (calls.filterMap Call.onUpdate?).getLast?.getD r.onUpdate :=
    foldl_replaced (fun r call => by cases call <;> rfl) r calls
  rw [← htable, ← hcolumn, ← hdelete, ← hupdate]

end ForeignKey

/-! ## Columns -/

namespace Column

theorem Options.ofCalls_congr {calls calls' : List Call}
    (hnotNull : .notNull ∈ calls' ↔ .notNull ∈ calls) (hunique : .unique ∈ calls' ↔ .unique ∈ calls)
    (hreference : (calls'.filterMap Call.reference?).getLast? =
      (calls.filterMap Call.reference?).getLast?) : ofCalls calls' = ofCalls calls := by
  rw [ofCalls, ofCalls, hreference]
  simp only [hnotNull, hunique]

/-- The definition of an ordinary column, clause by clause. -/
theorem sql_ordinary (name : String) (type : ColumnType) (o : Options) :
    (withOptions name type o).sql =
      name ++ " " ++ type.sql ++ (if o.unique then " UNIQUE" else "") ++
      (if o.nullable then "" else " NOT NULL") ++ o.references.elim "" (" " ++ ·.sql) := by
  apply String.toList_inj.mp
  rw [Sql.toList_sql_column, clauses_withOptions, Sql.clauseText_options]
  rcases o with ⟨nullable, unique, references⟩
  cases references <;> cases nullable <;> cases unique <;> simp [Sql.referenceText]

/-- A key stays as it is under calls. Another column has the flags that some call asks for and the last
reference, and it is written with `UNIQUE`, `NOT NULL` and the reference in this order; so it is the
same column after all calls that ask for the same. A reference has the last action that it was given for
each event, or none. -/
theorem calls_normal (name : String) (type : ColumnType) (calls : List Call) :
    let c := (ordinary name type).after calls
    let reference := (calls.filterMap Call.reference?).getLast?
    (primaryKey name type).after calls = primaryKey name type ∧
    c.name = name ∧ c.type = type ∧ c.isPrimaryKey = false ∧
    (c.options.nullable = false ↔ .notNull ∈ calls) ∧
    (c.options.unique = true ↔ .unique ∈ calls) ∧
    c.options.references = reference ∧
    c.sql = name ++ " " ++ type.sql ++ (if .unique ∈ calls then " UNIQUE" else "") ++
      (if .notNull ∈ calls then " NOT NULL" else "") ++ reference.elim "" (" " ++ ·.sql) ∧
    (∀ others : List Call, (.notNull ∈ others ↔ .notNull ∈ calls) →
      (.unique ∈ others ↔ .unique ∈ calls) →
      (others.filterMap Call.reference?).getLast? = reference →
      (ordinary name type).after others = c) ∧
    ∀ (table column : String) (actions : List ForeignKey.Call),
      ForeignKey.after { table, column } actions =
        { table, column,
          onDelete := (actions.filterMap ForeignKey.Call.onDelete?).getLast?.getD .noAction,
          onUpdate := (actions.filterMap ForeignKey.Call.onUpdate?).getLast?.getD .noAction } := by
  intro c reference
  have hc : c = withOptions name type (Options.ofCalls calls) := after_ordinary name type calls
  refine ⟨after_primaryKey name type calls, ?_, ?_, ?_, ?_, ?_, ?_, ?_, ?_, ?_⟩
  · rw [hc]
    rfl
  · rw [hc]
    rfl
  · rw [hc]
    rfl
  · rw [hc]
    simp [Options.ofCalls]
  · rw [hc]
    simp [Options.ofCalls]
  · rw [hc]
    rfl
  · rw [hc, sql_ordinary]
    simp [Options.ofCalls, reference]
  · intro others hnotNull hunique hreference
    rw [hc, after_ordinary, Options.ofCalls_congr hnotNull hunique hreference]
  · intro table column actions
    exact ForeignKey.after_eq _ actions

/-- Two lists of calls that ask for the same, one of them with a reference that is replaced. -/
theorem calls_normal_replaced :
    let r : ForeignKey := { table := "orgs", column := "id" }
    let calls : List Call :=
      [.referencing { table := "teams", column := "id" }, .unique, .referencing r, .notNull, .unique]
    let others : List Call := [.notNull, .unique, .referencing r]
    (.notNull ∈ others ↔ .notNull ∈ calls) ∧ (.unique ∈ others ↔ .unique ∈ calls) ∧
    (others.filterMap Call.reference?).getLast? = (calls.filterMap Call.reference?).getLast? ∧
    ((ordinary "org" .integer).after others).sql = ((ordinary "org" .integer).after calls).sql ∧
    ((ordinary "org" .integer).after calls).sql =
      "org integer UNIQUE NOT NULL REFERENCES orgs(id) ON DELETE NO ACTION ON UPDATE NO ACTION" := by
  intro r calls others
  have hnotNull : .notNull ∈ others ↔ .notNull ∈ calls := by decide
  have hunique : .unique ∈ others ↔ .unique ∈ calls := by decide
  have hreference : (others.filterMap Call.reference?).getLast? =
      (calls.filterMap Call.reference?).getLast? := by decide
  obtain ⟨_, _, _, _, _, _, _, hsql, hothers, _⟩ := calls_normal "org" .integer calls
  refine ⟨hnotNull, hunique, hreference, ?_, ?_⟩
  · rw [hothers others hnotNull hunique hreference]
  · rw [hsql]
    decide

end Column

end SchemaEvolution
