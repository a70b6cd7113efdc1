import SchemaEvolution.Change
import SchemaEvolution.Proofs.Statement.Definition

/-!
# A statement determines its change

`statement` reads the text of a statement. The text of every statement with plain names and values
is read back as that statement (`statement_sql`), so nothing that a change says is lost or confused
when it is written (`Change.forward_sql_inj`).
-/

namespace SchemaEvolution

open Text (Reader Stops)

/-! ## Tables and their parts -/

namespace Table

/-- The names in the definition of a table. -/
def names (t : Table) : List String :=
  t.name :: (t.columns.flatMap Column.names ++ t.key ++
    t.constraints.flatMap UniqueConstraint.names)

/-- The parts of a table in the order in which they are written. -/
def parts (t : Table) : List Sql.Definition :=
  t.columns.map .column ++ (if t.key = [] then [] else [.key t.key]) ++
    t.constraints.map .constraint

/-- The table with one more part in front. -/
def addPart : Sql.Definition → Table → Table
  | .column c, t => { t with columns := c :: t.columns }
  | .key columns, t => { t with key := columns }
  | .constraint c, t => { t with constraints := c :: t.constraints }

/-- The table with the given parts. -/
def ofParts (name : String) (parts : List Sql.Definition) : Table :=
  parts.foldr addPart { name, columns := [] }

theorem definitions_eq_map (t : Table) : t.definitions = t.parts.map Sql.Definition.sql := by
  rw [definitions, parts, List.map_append, List.map_append, List.map_map, List.map_map,
    keyDefinition]
  by_cases hkey : t.key = []
  · rw [if_pos hkey, if_pos hkey]
    rfl
  · rw [if_neg hkey, if_neg hkey]
    rfl

theorem foldr_addPart_columns (columns : List Column) (t : Table) :
    (columns.map Sql.Definition.column).foldr addPart t
      = { t with columns := columns ++ t.columns } := by
  induction columns with
  | nil => rfl
  | cons c columns ih =>
    rw [List.map_cons, List.foldr_cons, ih]
    rfl

theorem foldr_addPart_constraints (constraints : List UniqueConstraint) (t : Table) :
    (constraints.map Sql.Definition.constraint).foldr addPart t
      = { t with constraints := constraints ++ t.constraints } := by
  induction constraints with
  | nil => rfl
  | cons c constraints ih =>
    rw [List.map_cons, List.foldr_cons, ih]
    rfl

theorem ofParts_parts (t : Table) : ofParts t.name t.parts = t := by
  rw [ofParts, parts, List.foldr_append, List.foldr_append, foldr_addPart_constraints]
  rcases t with ⟨name, columns, key, constraints⟩
  cases key <;> rw [foldr_addPart_columns] <;> simp [addPart]

theorem names_of_mem_parts {t : Table} {d : Sql.Definition} (hd : d ∈ t.parts) :
    d.names ⊆ t.names := by
  intro n hn
  rw [parts, List.mem_append, List.mem_append] at hd
  rcases hd with (hd | hd) | hd
  · obtain ⟨c, hc, rfl⟩ := List.mem_map.mp hd
    have hcolumns : n ∈ t.columns.flatMap Column.names := List.mem_flatMap.mpr ⟨c, hc, hn⟩
    simp [names, hcolumns]
  · have hkey : n ∈ t.key := by
      split at hd
      · exact absurd hd (List.not_mem_nil)
      · rw [List.mem_singleton.mp hd] at hn
        exact hn
    simp [names, hkey]
  · obtain ⟨c, hc, rfl⟩ := List.mem_map.mp hd
    have hconstraints : n ∈ t.constraints.flatMap UniqueConstraint.names :=
      List.mem_flatMap.mpr ⟨c, hc, hn⟩
    simp [names, hconstraints]

end Table

namespace Statement

/-- The names in a statement. -/
def names : Statement → List String
  | createTable t => t.names
  | dropTable t => [t]
  | addColumn t c => t :: c.names
  | dropColumn t c => [t, c]
  | insert t _ => [t]

/-- The values in a statement. -/
def values : Statement → List String
  | insert _ values => values
  | _ => []

end Statement

namespace Sql

/-! ## The reader -/

/-- Reads the definitions in a table. -/
def definitions (s : List Char) : Option (List Definition) :=
  if s = [] then some [] else (Text.cut 0 s).mapM definition

/-- Reads a statement that creates a table. -/
def createTable (s : List Char) : Option Statement := do
  let (_, s) ← Reader.literal "CREATE TABLE ".toList s
  let (name, s) ← name s
  let (_, s) ← Reader.literal " (".toList s
  let s ← beforeClosing s
  let parts ← definitions s
  return .createTable (.ofParts name parts)

/-- Reads a statement that drops a table. -/
def dropTable (s : List Char) : Option Statement := do
  let (_, s) ← Reader.literal "DROP TABLE ".toList s
  let (table, s) ← name s
  if s = [] then some (.dropTable table) else none

/-- Reads a statement that adds a column. -/
def addColumn (s : List Char) : Option Statement := do
  let (_, s) ← Reader.literal "ALTER TABLE ".toList s
  let (table, s) ← name s
  let (_, s) ← Reader.literal " ADD COLUMN ".toList s
  let column ← column s
  return .addColumn table column

/-- Reads a statement that drops a column. -/
def dropColumn (s : List Char) : Option Statement := do
  let (_, s) ← Reader.literal "ALTER TABLE ".toList s
  let (table, s) ← name s
  let (_, s) ← Reader.literal " DROP COLUMN ".toList s
  let (column, s) ← name s
  if s = [] then some (.dropColumn table column) else none

/-- Reads a statement that inserts a row. -/
def insert (s : List Char) : Option Statement := do
  let (_, s) ← Reader.literal "INSERT INTO ".toList s
  let (table, s) ← name s
  let (_, s) ← Reader.literal " VALUES (".toList s
  let s ← beforeClosing s
  return .insert table (items s)

/-- Reads a statement. -/
def statement (s : List Char) : Option Statement :=
  createTable s <|> dropTable s <|> addColumn s <|> dropColumn s <|> insert s

/-! ## Reading it back -/

theorem mapM_definition {ds : List Definition} (h : ∀ d ∈ ds, ∀ n ∈ d.names, IsPlainName n) :
    (ds.map fun d => d.sql.toList).mapM definition = some ds := by
  induction ds with
  | nil => rfl
  | cons d ds ih =>
    have hd := definition_sql (h d List.mem_cons_self)
    have hds := ih fun e he => h e (List.mem_cons_of_mem d he)
    rw [List.map_cons, List.mapM_cons, hd, hds]
    rfl

theorem definitions_commaSeparated {ds : List Definition}
    (h : ∀ d ∈ ds, ∀ n ∈ d.names, IsPlainName n) :
    definitions (commaSeparated (ds.map Definition.sql)).toList = some ds := by
  cases ds with
  | nil => rfl
  | cons d ds =>
    -- only the commas between definitions cut
    have hcut : Text.cut 0 (commaSeparated ((d :: ds).map Definition.sql)).toList
        = (d :: ds).map fun d => d.sql.toList := by
      rw [toList_commaSeparated, List.map_map]
      refine Text.cut_intercalate (List.cons_ne_nil _ _) fun u hu => ?_
      obtain ⟨e, he, rfl⟩ := List.mem_map.mp hu
      exact Definition.whole_sql (h e he)
    have hmapM := mapM_definition h
    rw [definitions]
    by_cases hnil : (commaSeparated ((d :: ds).map Definition.sql)).toList = []
    · -- nothing is no definition
      have hnone : (Text.cut 0 []).mapM definition = none := rfl
      rw [← hcut, hnil, hnone] at hmapM
      exact absurd hmapM (Option.some_ne_none _).symm
    · rw [if_neg hnil, hcut, hmapM]

theorem toList_sql_createTable (t : Table) :
    (Statement.createTable t).sql.toList = "CREATE TABLE ".toList ++ (t.name.toList ++
      (" (".toList ++ ((commaSeparated t.definitions).toList ++ [')']))) := by
  delta Statement.sql
  simp only [String.toList_append, List.append_assoc]
  rfl

theorem toList_sql_dropTable (t : String) :
    (Statement.dropTable t).sql.toList = "DROP TABLE ".toList ++ t.toList := by
  delta Statement.sql
  simp only [String.toList_append]
  rfl

theorem toList_sql_addColumn (t : String) (c : Column) :
    (Statement.addColumn t c).sql.toList
      = "ALTER TABLE ".toList ++ (t.toList ++ (" ADD COLUMN ".toList ++ c.sql.toList)) := by
  delta Statement.sql
  simp only [String.toList_append, List.append_assoc]
  rfl

theorem toList_sql_dropColumn (t c : String) :
    (Statement.dropColumn t c).sql.toList
      = "ALTER TABLE ".toList ++ (t.toList ++ (" DROP COLUMN ".toList ++ c.toList)) := by
  delta Statement.sql
  simp only [String.toList_append, List.append_assoc]
  rfl

theorem toList_sql_insert (t : String) (values : List String) :
    (Statement.insert t values).sql.toList = "INSERT INTO ".toList ++ (t.toList ++
      (" VALUES (".toList ++ ((commaSeparated values).toList ++ [')']))) := by
  delta Statement.sql
  simp only [String.toList_append, List.append_assoc]
  rfl

theorem createTable_sql {t : Table} (ht : ∀ n ∈ t.names, IsPlainName n) :
    createTable (Statement.createTable t).sql.toList = some (.createTable t) := by
  have hname : IsPlainName t.name := ht _ List.mem_cons_self
  have hstop (s : List Char) : Stops isNameCharacter (" (".toList ++ s) :=
    Text.stops_cons.mpr (by decide)
  have hparts : definitions (commaSeparated t.definitions).toList = some t.parts := by
    rw [t.definitions_eq_map]
    exact definitions_commaSeparated fun d hd n hn => ht n (Table.names_of_mem_parts hd hn)
  rw [toList_sql_createTable, createTable]
  simp only [Reader.literal_append, name_append hname (hstop _), beforeClosing_append, hparts,
    Option.bind_eq_bind, Option.bind_some, Option.pure_def, t.ofParts_parts]

theorem dropTable_sql {t : String} (ht : IsPlainName t) :
    dropTable (Statement.dropTable t).sql.toList = some (.dropTable t) := by
  have hname := name_append ht Text.stops_nil
  rw [List.append_nil] at hname
  rw [toList_sql_dropTable, dropTable]
  simp only [Reader.literal_append, hname, Option.bind_eq_bind, Option.bind_some, if_pos]

theorem addColumn_sql {t : String} {c : Column} (ht : IsPlainName t)
    (hc : ∀ n ∈ c.names, IsPlainName n) :
    addColumn (Statement.addColumn t c).sql.toList = some (.addColumn t c) := by
  have hstop (s : List Char) : Stops isNameCharacter (" ADD COLUMN ".toList ++ s) :=
    Text.stops_cons.mpr (by decide)
  rw [toList_sql_addColumn, addColumn]
  simp only [Reader.literal_append, name_append ht (hstop _), column_sql hc, Option.bind_eq_bind,
    Option.bind_some, Option.pure_def]

theorem dropColumn_sql {t c : String} (ht : IsPlainName t) (hc : IsPlainName c) :
    dropColumn (Statement.dropColumn t c).sql.toList = some (.dropColumn t c) := by
  have hstop (s : List Char) : Stops isNameCharacter (" DROP COLUMN ".toList ++ s) :=
    Text.stops_cons.mpr (by decide)
  have hcolumn := name_append hc Text.stops_nil
  rw [List.append_nil] at hcolumn
  rw [toList_sql_dropColumn, dropColumn]
  simp only [Reader.literal_append, name_append ht (hstop _), hcolumn, Option.bind_eq_bind,
    Option.bind_some, if_pos]

/-- Dropping a column is not taken for adding one. -/
theorem addColumn_sql_dropColumn {t c : String} (ht : IsPlainName t) :
    addColumn (Statement.dropColumn t c).sql.toList = none := by
  have hstop (s : List Char) : Stops isNameCharacter (" DROP COLUMN ".toList ++ s) :=
    Text.stops_cons.mpr (by decide)
  rw [toList_sql_dropColumn, addColumn]
  simp only [Reader.literal_append, name_append ht (hstop _), Option.bind_eq_bind,
    Option.bind_some]
  rfl

/-- An inserted row is read with the items that its text has between commas. -/
theorem insert_sql {t : String} (ht : IsPlainName t) (values : List String) :
    insert (Statement.insert t values).sql.toList
      = some (.insert t (items (commaSeparated values).toList)) := by
  have hstop (s : List Char) : Stops isNameCharacter (" VALUES (".toList ++ s) :=
    Text.stops_cons.mpr (by decide)
  rw [toList_sql_insert, insert]
  simp only [Reader.literal_append, name_append ht (hstop _), beforeClosing_append,
    Option.bind_eq_bind, Option.bind_some, Option.pure_def]

/-! ## All statements -/

theorem statement_insert {t : String} (ht : IsPlainName t) (values : List String) :
    statement (Statement.insert t values).sql.toList
      = some (.insert t (items (commaSeparated values).toList)) := by
  have hinsert := insert_sql ht values
  rw [toList_sql_insert] at hinsert ⊢
  exact hinsert

/-- A statement with plain names and values is read back. -/
theorem statement_sql {s : Statement} (hnames : ∀ n ∈ s.names, IsPlainName n)
    (hvalues : ∀ v ∈ s.values, IsPlainValue v) : statement s.sql.toList = some s := by
  cases s with
  | createTable t =>
    have hread := createTable_sql hnames
    rw [statement, hread]
    rfl
  | dropTable t =>
    have hread := dropTable_sql (hnames t List.mem_cons_self)
    rw [toList_sql_dropTable] at hread ⊢
    rw [statement, hread]
    rfl
  | addColumn t c =>
    have hread := addColumn_sql (hnames t List.mem_cons_self)
      fun n hn => hnames n (List.mem_cons_of_mem t hn)
    rw [toList_sql_addColumn] at hread ⊢
    rw [statement, hread]
    rfl
  | dropColumn t c =>
    have ht : IsPlainName t := hnames t (by simp [Statement.names])
    have hc : IsPlainName c := hnames c (by simp [Statement.names])
    have hadd := addColumn_sql_dropColumn (c := c) ht
    have hread := dropColumn_sql ht hc
    rw [toList_sql_dropColumn] at hadd hread ⊢
    rw [statement, hadd, hread]
    rfl
  | insert t values =>
    have hitems : items (commaSeparated values).toList = values := items_commaSeparated hvalues
    rw [statement_insert (hnames t List.mem_cons_self), hitems]

end Sql

/-! ## Changes -/

namespace Change

/-- Whether every name in a change is plain. -/
def HasPlainNames (c : Change) : Prop :=
  ∀ n ∈ c.forward.names, Sql.IsPlainName n

/-- Whether every value in a change is plain. -/
def HasPlainValues (c : Change) : Prop :=
  ∀ v ∈ c.forward.values, Sql.IsPlainValue v

instance (c : Change) : Decidable c.HasPlainNames :=
  inferInstanceAs (Decidable (∀ n ∈ c.forward.names, Sql.IsPlainName n))

instance (c : Change) : Decidable c.HasPlainValues :=
  inferInstanceAs (Decidable (∀ v ∈ c.forward.values, Sql.IsPlainValue v))

/-- The revert statement of a change has no names of its own. -/
theorem names_revert_subset {c : Change} {s : Statement} (hs : c.revert? = some s) :
    s.names ⊆ c.forward.names := by
  cases c with
  | createTable t =>
    obtain rfl := Option.some.inj hs
    intro n hn
    rw [List.mem_singleton.mp hn]
    exact List.mem_cons_self
  | addColumn t c =>
    obtain rfl := Option.some.inj hs
    intro n hn
    simp only [Statement.names, List.mem_cons, List.not_mem_nil, or_false] at hn
    rcases hn with rfl | rfl
    · exact List.mem_cons_self
    · exact List.mem_cons_of_mem t List.mem_cons_self
  | insertRow t values => exact absurd hs.symm (Option.some_ne_none s)

theorem forward_injective {a b : Change} (h : a.forward = b.forward) : a = b := by
  cases a <;> cases b <;> simp_all [forward]

/-- Changes with plain names and values are equal if they have the same forward statement. -/
theorem forward_sql_inj {a b : Change} (ha : a.HasPlainNames) (hb : b.HasPlainNames)
    (hav : a.HasPlainValues) (hbv : b.HasPlainValues) :
    a.forward.sql = b.forward.sql ↔ a = b := by
  constructor
  · intro h
    have hread : some a.forward = some b.forward := by
      rw [← Sql.statement_sql ha hav, h, Sql.statement_sql hb hbv]
    exact forward_injective (Option.some.inj hread)
  · intro h
    rw [h]

/-- A unique column called `CONSTRAINT` is not confused with a constraint called `integer`. -/
theorem forward_sql_inj_constraint :
    (createTable ⟨"UNIQUE", [.ordinary "PRIMARY" .timestamp,
        (Column.ordinary "CONSTRAINT" .integer).unique], ["PRIMARY"], []⟩).forward.sql
      ≠ (createTable ⟨"UNIQUE", [.ordinary "PRIMARY" .timestamp], ["PRIMARY"],
        [⟨"integer", []⟩]⟩).forward.sql := by
  intro h
  have heq := (forward_sql_inj (by decide) (by decide) (by decide) (by decide)).mp h
  exact absurd heq (by decide)

end Change

end SchemaEvolution
