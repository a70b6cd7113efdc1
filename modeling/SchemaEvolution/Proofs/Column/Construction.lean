import SchemaEvolution.Column
import SchemaEvolution.Proofs.Calls

/-!
# How a column is made

A column is made as a key or without options, and asked for some, call by call. A call changes nothing
but options, and it changes nothing of a key (`Column.Raw.after_of_isPrimaryKey`). As far as calls go,
a `Column` is what it is held as (`Column.toRaw_after`), and it is the primary key or an ordinary
column with some options (`Column.casesOnKey`).
-/

namespace SchemaEvolution.Column

/-! ## Calls -/

/-- A call that asks a column for an option. -/
inductive Call where
  | notNull
  | unique
  | referencing (r : ForeignKey)
deriving DecidableEq

/-- What a call changes in the options of an ordinary column. -/
def Call.change : Call → Options → Options
  | notNull, o => { o with nullable := false }
  | unique, o => { o with unique := true }
  | referencing r, o => { o with references := some r }

namespace Raw

/-- The column after a call. -/
def ask (c : Raw) : Call → Raw
  | .notNull => c.notNull
  | .unique => c.unique
  | .referencing r => c.referencing r

/-- The column after calls, in their order. -/
def after (c : Raw) (calls : List Call) : Raw :=
  calls.foldl ask c

variable {c : Raw}

theorem modify_of_isPrimaryKey (h : c.isPrimaryKey = true) (f : Options → Options) :
    c.modify f = c :=
  if_pos h

theorem isPrimaryKey_modify (c : Raw) (f : Options → Options) :
    (c.modify f).isPrimaryKey = c.isPrimaryKey := by
  rw [modify]
  split <;> rfl

theorem ask_eq_modify (c : Raw) (call : Call) : c.ask call = c.modify call.change := by
  cases call <;> rfl

theorem ask_of_isPrimaryKey (h : c.isPrimaryKey = true) (call : Call) : c.ask call = c := by
  rw [ask_eq_modify, modify_of_isPrimaryKey h]

theorem isPrimaryKey_ask (c : Raw) (call : Call) :
    (c.ask call).isPrimaryKey = c.isPrimaryKey := by
  rw [ask_eq_modify, isPrimaryKey_modify]

theorem IsSound.ask (h : c.IsSound) (call : Call) : (c.ask call).IsSound := by
  rw [ask_eq_modify]
  exact h.modify call.change

theorem after_of_isPrimaryKey (h : c.isPrimaryKey = true) (calls : List Call) :
    c.after calls = c := by
  induction calls with
  | nil => rfl
  | cons call calls ih =>
    rw [after, List.foldl_cons, ask_of_isPrimaryKey h]
    exact ih

theorem isPrimaryKey_after (c : Raw) (calls : List Call) :
    (c.after calls).isPrimaryKey = c.isPrimaryKey :=
  foldl_kept isPrimaryKey_ask c calls

end Raw

/-! ## Columns and what they are held as -/

/-- The column after a call. -/
def Call.on (c : Column) : Call → Column
  | notNull => c.notNull
  | unique => c.unique
  | referencing r => c.referencing r

/-- The column after calls, in their order. -/
def after (c : Column) (calls : List Call) : Column :=
  calls.foldl Call.on c

/-- An ordinary column with options. -/
def withOptions (name : String) (type : ColumnType) (o : Options) : Column :=
  ⟨{ Raw.ordinary name type with options := o }, nofun⟩

@[simp] theorem toRaw_primaryKey (name : String) (type : ColumnType) :
    (primaryKey name type).toRaw = .primaryKey name type := rfl

@[simp] theorem toRaw_withOptions (name : String) (type : ColumnType) (o : Options) :
    (withOptions name type o).toRaw = { name, type, options := o } := rfl

@[simp] theorem clauses_primaryKey (name : String) (type : ColumnType) :
    (primaryKey name type).clauses = ["PRIMARY KEY"] := rfl

@[simp] theorem clauses_withOptions (name : String) (type : ColumnType) (o : Options) :
    (withOptions name type o).clauses = o.clauses := rfl

theorem toRaw_inj {c c' : Column} (h : c.toRaw = c'.toRaw) : c = c' := by
  obtain ⟨raw, sound⟩ := c
  obtain ⟨raw', sound'⟩ := c'
  obtain rfl : raw = raw' := h
  rfl

/-- A column is the primary key, or an ordinary column with some options. -/
@[elab_as_elim, cases_eliminator]
theorem casesOnKey {motive : Column → Prop}
    (primaryKey : ∀ name type, motive (.primaryKey name type))
    (ordinary : ∀ name type o, motive (.withOptions name type o)) (c : Column) : motive c := by
  obtain ⟨⟨name, type, key, options⟩, sound⟩ := c
  cases key with
  | true =>
    obtain rfl : options = {} := sound rfl
    exact primaryKey name type
  | false => exact ordinary name type options

theorem toRaw_on (c : Column) (call : Call) : (Call.on c call).toRaw = c.toRaw.ask call := by
  cases call <;> rfl

theorem toRaw_after (c : Column) (calls : List Call) :
    (c.after calls).toRaw = c.toRaw.after calls := by
  induction calls generalizing c with
  | nil => rfl
  | cons call calls ih =>
    rw [after, List.foldl_cons, Raw.after, List.foldl_cons, ← toRaw_on]
    exact ih _

theorem after_primaryKey (name : String) (type : ColumnType) (calls : List Call) :
    (primaryKey name type).after calls = primaryKey name type :=
  toRaw_inj ((toRaw_after _ calls).trans (Raw.after_of_isPrimaryKey rfl calls))

end SchemaEvolution.Column
