import SchemaEvolution.Proofs.Statement.Column
import SchemaEvolution.Proofs.Text.Nesting

/-!
# The definitions in a table are read back

`CREATE TABLE` lists the definitions of columns, of a composite key and of constraints, and
`definition` reads one of them (`definition_sql`). A key and a constraint begin with words that may
also be the name of a column; what stands after the word tells them apart, since no type begins with
`KEY` and no clause of a column with `UNIQUE (`. `Definition.whole_sql` says that a definition is
not cut at the commas inside of it.
-/

namespace SchemaEvolution

open Text (Reader Stops Whole)

/-- The names in the definition of a constraint. -/
def UniqueConstraint.names (c : UniqueConstraint) : List String :=
  c.name :: c.columns

namespace Sql

/-! ## Keys and constraints -/

/-- Reads the definition of a composite key. -/
def key (s : List Char) : Option (List String) := do
  let (_, s) ← Reader.literal "PRIMARY KEY (".toList s
  let s ← beforeClosing s
  return items s

/-- Reads the definition of a constraint. -/
def constraint (s : List Char) : Option UniqueConstraint := do
  let (_, s) ← Reader.literal "CONSTRAINT ".toList s
  let (name, s) ← name s
  let (_, s) ← Reader.literal " UNIQUE (".toList s
  let s ← beforeClosing s
  return { name, columns := items s }

/-- The definition of a composite key. -/
def keySql (columns : List String) : String :=
  s!"PRIMARY KEY ({commaSeparated columns})"

theorem toList_keySql (columns : List String) :
    (keySql columns).toList
      = "PRIMARY KEY (".toList ++ ((commaSeparated columns).toList ++ [')']) := by
  delta keySql
  simp only [String.toList_append, List.append_assoc]
  rfl

theorem toList_sql_constraint (c : UniqueConstraint) :
    c.sql.toList = "CONSTRAINT ".toList ++ (c.name.toList ++
      (" UNIQUE (".toList ++ ((commaSeparated c.columns).toList ++ [')']))) := by
  delta UniqueConstraint.sql
  simp only [String.toList_append, List.append_assoc]
  rfl

theorem key_keySql {columns : List String} (h : ∀ n ∈ columns, IsPlainName n) :
    key (keySql columns).toList = some columns := by
  have hitems := items_commaSeparated fun n hn => (h n hn).isPlainValue
  rw [toList_keySql, key]
  simp only [Reader.literal_append, beforeClosing_append, hitems, Option.bind_eq_bind,
    Option.bind_some, Option.pure_def]

theorem constraint_sql {c : UniqueConstraint} (hc : ∀ n ∈ c.names, IsPlainName n) :
    constraint c.sql.toList = some c := by
  have hname : IsPlainName c.name := hc _ List.mem_cons_self
  have hstop (s : List Char) : Stops isNameCharacter (" UNIQUE (".toList ++ s) :=
    Text.stops_cons.mpr (by decide)
  have hitems : items (commaSeparated c.columns).toList = c.columns :=
    items_commaSeparated fun n hn => (hc n (List.mem_cons_of_mem _ hn)).isPlainValue
  rw [toList_sql_constraint, constraint]
  simp only [Reader.literal_append, name_append hname (hstop _), beforeClosing_append, hitems,
    Option.bind_eq_bind, Option.bind_some, Option.pure_def]

/-- A constraint is not taken for a key. -/
theorem key_sql_constraint (c : UniqueConstraint) : key c.sql.toList = none := by
  rw [toList_sql_constraint]
  rfl

/-- A column is not taken for a key, even if it is called `PRIMARY`: no type begins with `KEY`. -/
theorem key_sql_column {c : Column} (hc : IsPlainName c.name) : key c.sql.toList = none := by
  have hliteral : Reader.literal "PRIMARY KEY (".toList c.sql.toList = none := by
    rw [toList_sql_column]
    by_cases hname : c.name = "PRIMARY"
    · -- the type would have to begin with `KEY`
      rw [hname]
      cases c.type with
      | string length =>
        cases length with
        | none => rfl
        | some n => rw [ColumnType.toList_sql_string_some]; rfl
      | _ => rfl
    · exact literal_name_of_ne hc (by decide) hname "KEY (".toList
  rw [key, hliteral]
  rfl

theorem literal_uniqueList (c : Column) :
    Reader.literal " UNIQUE (".toList (clauseText c.clauses) = none := by
  cases c with
  | primaryKey name type => rfl
  | ordinary name type o =>
    obtain ⟨nullable, unique, references⟩ := o
    rw [Column.clauses_withOptions, clauseText_options]
    cases nullable with
    | false => cases unique <;> rfl
    | true =>
      cases references with
      | none => cases unique <;> rfl
      | some r =>
        simp only [referenceText, Option.elim_some, toList_sql_reference]
        cases unique <;> rfl

/-- No type and clauses look like a name with ` UNIQUE (` after it. -/
theorem name_uniqueList (a : ColumnType) (c : Column) :
    ((name (a.sql.toList ++ clauseText c.clauses)).bind fun (_, s) =>
      Reader.literal " UNIQUE (".toList s) = none := by
  have hstop : Stops isNameCharacter (clauseText c.clauses) := (followsType_clauseText c).stops
  by_cases ha : IsPlainName a.sql
  · rw [name_append ha hstop]
    exact literal_uniqueList c
  · -- what follows the first word of the type is part of the type
    cases a with
    | string length =>
      cases length with
      | none => exact absurd (by decide) ha
      | some n =>
        have hname (s : List Char) :
            name ("varchar".toList ++ '(' :: s) = some ("varchar", '(' :: s) :=
          name_append (by decide) (Text.stops_cons.mpr (by decide))
        rw [ColumnType.toList_sql_string_some, List.append_assoc, List.cons_append, hname]
        rfl
    | timestampWithTimeZone => rfl
    | double => rfl
    | _ => exact absurd (by decide) ha

/-- A column is not taken for a constraint, even if it is called `CONSTRAINT`: what follows its type
is a clause, and no clause begins with `UNIQUE (`. -/
theorem constraint_sql_column {c : Column} (hc : IsPlainName c.name) :
    constraint c.sql.toList = none := by
  rw [toList_sql_column, constraint]
  by_cases hname : c.name = "CONSTRAINT"
  · -- the type would have to be the name of the constraint
    have hliteral : Reader.literal "CONSTRAINT ".toList
        ("CONSTRAINT".toList ++ ' ' :: (c.type.sql.toList ++ clauseText c.clauses))
          = some ((), c.type.sql.toList ++ clauseText c.clauses) :=
      Reader.literal_append "CONSTRAINT ".toList _
    have hunique := name_uniqueList c.type c
    simp only [hname, hliteral, Option.bind_eq_bind, Option.bind_some]
    cases hrest : name (c.type.sql.toList ++ clauseText c.clauses) with
    | none => rfl
    | some taken =>
      simp only [hrest, Option.bind_some] at hunique
      simp only [Option.bind_some, hunique, Option.bind_none]
  · have hliteral : Reader.literal "CONSTRAINT ".toList
        (c.name.toList ++ ' ' :: (c.type.sql.toList ++ clauseText c.clauses)) = none :=
      literal_name_of_ne hc (by decide) hname []
    rw [hliteral]
    rfl

/-! ## Definitions -/

/-- A part of a table. -/
inductive Definition where
  | column (c : Column)
  | key (columns : List String)
  | constraint (c : UniqueConstraint)

namespace Definition

/-- The text of a definition. -/
def sql : Definition → String
  | column c => c.sql
  | key columns => keySql columns
  | constraint c => c.sql

/-- The names in a definition. -/
def names : Definition → List String
  | column c => c.names
  | key columns => columns
  | constraint c => c.names

end Definition

/-- Reads a definition. -/
def definition (s : List Char) : Option Definition :=
  (key s).map .key <|> (constraint s).map .constraint <|> (column s).map .column

/-- A definition is read back. -/
theorem definition_sql {d : Definition} (hd : ∀ n ∈ d.names, IsPlainName n) :
    definition d.sql.toList = some d := by
  cases d with
  | column c =>
    have hname : IsPlainName c.name := hd _ List.mem_cons_self
    rw [Definition.sql, definition, key_sql_column hname, constraint_sql_column hname,
      column_sql hd]
    rfl
  | key columns =>
    have hkey : key (keySql columns).toList = some columns := key_keySql hd
    rw [Definition.sql, definition, hkey]
    rfl
  | constraint c =>
    rw [Definition.sql, definition, key_sql_constraint, constraint_sql hd]
    rfl

/-! ## Commas inside of definitions -/

theorem IsPlainName.whole {n : String} (hn : IsPlainName n) (d : Nat) : Whole d n.toList :=
  Text.whole_of_class (by simp [isNameCharacter]) hn.forall_mem d

theorem whole_commaSeparated {columns : List String} (h : ∀ n ∈ columns, IsPlainName n) :
    Whole 1 (commaSeparated columns).toList := by
  have hcomma : Whole 1 [','] := Text.whole_singleton (by decide)
  rw [toList_commaSeparated]
  refine hcomma.intercalate fun u hu => ?_
  obtain ⟨n, hn, rfl⟩ := List.mem_map.mp hu
  exact (h n hn).whole 1

theorem whole_sql_type (a : ColumnType) : Whole 0 a.sql.toList := by
  cases a with
  | string length =>
    cases length with
    | none => exact Text.whole_of_all (by decide)
    | some n =>
      have hword : Whole 0 "varchar".toList := Text.whole_of_all (by decide)
      have hdigits : Whole 1 (Decimal.digits n.toNat) :=
        Text.whole_of_class (by simp) Decimal.isDigit_of_mem_digits 1
      rw [ColumnType.toList_sql_string_some]
      exact hword.append hdigits.parenthesized
  | _ => exact Text.whole_of_all (by decide)

theorem whole_sql_action (a : ReferentialAction) : Whole 0 a.sql.toList := by
  cases a <;> exact Text.whole_of_all (by decide)

theorem whole_sql_reference {r : ForeignKey} (hr : ∀ n ∈ r.names, IsPlainName n) :
    Whole 0 r.sql.toList := by
  have htable : IsPlainName r.table := hr _ (by simp [ForeignKey.names])
  have hcolumn : IsPlainName r.column := hr _ (by simp [ForeignKey.names])
  have htext : r.sql.toList = "REFERENCES ".toList ++ (r.table.toList ++
      ('(' :: (r.column.toList ++ [')']) ++ (" ON DELETE ".toList ++ (r.onDelete.sql.toList ++
        (" ON UPDATE ".toList ++ r.onUpdate.sql.toList))))) := by
    delta ForeignKey.sql
    simp only [String.toList_append, List.append_assoc, List.cons_append]
    rfl
  rw [htext]
  exact (Text.whole_of_all (by decide)).append ((htable.whole 0).append
    ((hcolumn.whole 1).parenthesized.append ((Text.whole_of_all (by decide)).append
      ((whole_sql_action _).append ((Text.whole_of_all (by decide)).append
        (whole_sql_action _))))))

theorem whole_sql_column {c : Column} (hc : ∀ n ∈ c.names, IsPlainName n) :
    Whole 0 c.sql.toList := by
  have hspace : Whole 0 " ".toList := Text.whole_of_all (by decide)
  have hclauses : ∀ u ∈ c.clauses, Whole 0 u.toList := by
    intro u hu
    cases c with
    | primaryKey name type =>
      rw [List.mem_singleton.mp hu]
      exact Text.whole_of_all (by decide)
    | ordinary name type o =>
      obtain ⟨nullable, unique, references⟩ := o
      simp only [Column.clauses_withOptions, Column.Options.clauses, List.mem_append,
        List.mem_ite_nil_right, List.mem_ite_nil_left, List.mem_singleton] at hu
      rcases hu with (⟨-, rfl⟩ | ⟨-, rfl⟩) | hu
      · exact Text.whole_of_all (by decide)
      · exact Text.whole_of_all (by decide)
      · obtain ⟨r, rfl, rfl⟩ : ∃ r, references = some r ∧ r.sql = u := by simpa using hu
        refine whole_sql_reference fun n hn => hc n ?_
        exact List.mem_cons_of_mem _ hn
  rw [Column.sql, Column.Raw.sql, String.toList_intercalate]
  refine hspace.intercalate fun u hu => ?_
  obtain ⟨w, hw, rfl⟩ := List.mem_map.mp hu
  rcases List.mem_cons.mp hw with rfl | hw
  · exact (hc _ List.mem_cons_self).whole 0
  · rcases List.mem_cons.mp hw with rfl | hw
    · exact whole_sql_type c.type
    · exact hclauses w hw

theorem Definition.whole_sql {d : Definition} (hd : ∀ n ∈ d.names, IsPlainName n) :
    Whole 0 d.sql.toList := by
  cases d with
  | column c => exact whole_sql_column hd
  | key columns =>
    have htext : (keySql columns).toList
        = "PRIMARY KEY ".toList ++ '(' :: ((commaSeparated columns).toList ++ [')']) :=
      toList_keySql columns
    rw [sql, htext]
    exact (Text.whole_of_all (by decide)).append (whole_commaSeparated hd).parenthesized
  | constraint c =>
    have hname : IsPlainName c.name := hd _ List.mem_cons_self
    have hcolumns : ∀ n ∈ c.columns, IsPlainName n := fun n hn => hd n (List.mem_cons_of_mem _ hn)
    have htext : c.sql.toList = "CONSTRAINT ".toList ++ (c.name.toList ++ (" UNIQUE ".toList ++
        '(' :: ((commaSeparated c.columns).toList ++ [')']))) :=
      toList_sql_constraint c
    rw [sql, htext]
    exact (Text.whole_of_all (by decide)).append ((hname.whole 0).append
      ((Text.whole_of_all (by decide)).append (whole_commaSeparated hcolumns).parenthesized))

end Sql

end SchemaEvolution
