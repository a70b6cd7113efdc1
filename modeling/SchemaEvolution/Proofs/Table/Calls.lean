import SchemaEvolution.Change
import SchemaEvolution.Proofs.Calls

/-!
# What calls on a table amount to

A table can be given a key and constraints in any order and any number of times. The last key stands,
and the constraints add up (`Table.after_eq`), so the statement for the table is decided by the
columns, the last key and the order of the constraints among themselves (`Table.sql_after`).
-/

namespace SchemaEvolution.Table

/-! ## Calls -/

/-- A call that gives a table a key or a constraint. -/
inductive Call where
  | key (columns : List String)
  | constraint (c : UniqueConstraint)

/-- The table after a call. -/
def Call.on (t : Table) : Call → Table
  | key columns => t.withKey columns
  | constraint c => t.withConstraint c

/-- The key that a call gives. -/
def Call.key? : Call → Option (List String)
  | key columns => some columns
  | constraint _ => none

/-- The constraint that a call gives. -/
def Call.constraint? : Call → Option UniqueConstraint
  | key _ => none
  | constraint c => some c

/-- The table after calls, in their order. -/
def after (t : Table) (calls : List Call) : Table :=
  calls.foldl Call.on t

/-- The key is the last one that was given, and the constraints are all of them. -/
theorem after_eq (t : Table) (calls : List Call) :
    t.after calls =
      { t with
        key := (calls.filterMap Call.key?).getLast?.getD t.key
        constraints := t.constraints ++ calls.filterMap Call.constraint? } := by
  have hname : (t.after calls).name = t.name :=
    foldl_kept (fun t call => by cases call <;> rfl) t calls
  have hcolumns : (t.after calls).columns = t.columns :=
    foldl_kept (fun t call => by cases call <;> rfl) t calls
  have hkey : (t.after calls).key = (calls.filterMap Call.key?).getLast?.getD t.key :=
    foldl_replaced (fun t call => by cases call <;> rfl) t calls
  have hconstraints : (t.after calls).constraints =
      t.constraints ++ calls.filterMap Call.constraint? :=
    foldl_collected (fun t call => by
      cases call with
      | key columns => exact (List.append_nil _).symm
      | constraint c => rfl) t calls
  rw [← hname, ← hcolumns, ← hkey, ← hconstraints]

theorem length_definitions (t : Table) :
    t.definitions.length =
      t.columns.length + (if t.key = [] then 0 else 1) + t.constraints.length := by
  rw [definitions, List.length_append, List.length_append, List.length_map, List.length_map,
    keyDefinition]
  split <;> rfl

/-! ## Statements -/

/-- The statement for a table has its columns in their order, then the last key that was given, if that
one has a column, and then the constraints in the order in which they were given. It does not matter
whether a key is given before or after a constraint. -/
theorem sql_after (name : String) (columns : List Column) (calls : List Call) :
    let new : Table := { name, columns }
    let t := new.after calls
    let key := (calls.filterMap Call.key?).getLast?.getD []
    let constraints := calls.filterMap Call.constraint?
    (Change.createTable t).forward.sql =
      "CREATE TABLE " ++ name ++ " (" ++
      commaSeparated (columns.map Column.sql ++
        (if key = [] then [] else ["PRIMARY KEY (" ++ commaSeparated key ++ ")"]) ++
        constraints.map UniqueConstraint.sql) ++ ")" ∧
    (Change.createTable t).revert?.map Statement.sql = some ("DROP TABLE " ++ name) ∧
    t.columns = columns ∧ t.constraints = constraints ∧
    t.definitions.length =
      columns.length + (if key = [] then 0 else 1) + constraints.length ∧
    ∀ (later : List Call) (k : List String) (c : UniqueConstraint),
      new.after (calls ++ [.key k, .constraint c] ++ later) =
        new.after (calls ++ [.constraint c, .key k] ++ later) := by
  intro new t key constraints
  have ht : t = { name, columns, key, constraints } := after_eq new calls
  refine ⟨?_, ?_, ?_, ?_, ?_, fun later k c => ?_⟩
  · rw [ht]
    rfl
  · rw [ht]
    rfl
  · rw [ht]
  · rw [ht]
  · rw [length_definitions, ht]
  · simp only [after, List.foldl_append]
    rfl

/-- An empty key takes back the one before it. -/
example :
    let t : Table := { name := "t", columns := [.ordinary "a" .date] }
    (Statement.createTable (t.after [.key ["a"], .constraint ⟨"u", ["a"]⟩, .key []])).sql =
      "CREATE TABLE t (a date,CONSTRAINT u UNIQUE (a))" := by decide

end SchemaEvolution.Table
