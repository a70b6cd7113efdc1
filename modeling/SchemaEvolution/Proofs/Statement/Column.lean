import SchemaEvolution.Proofs.Column.Construction
import SchemaEvolution.Proofs.Statement.Word

/-!
# Columns are read back

`column` reads the definition of a column: a name, a type, and the clauses that are there, in the
order in which they are written. `column_sql` says that it gives back the column that was written.
-/

namespace SchemaEvolution

open Text (Reader Stops)

/-! ## Names -/

/-- The names in a reference. -/
def ForeignKey.names (r : ForeignKey) : List String :=
  [r.table, r.column]

/-- The names in the definition of a column. -/
def Column.names (c : Column) : List String :=
  c.name :: c.options.references.elim [] ForeignKey.names

namespace Sql

/-! ## The reader -/

/-- Reads the clause for a reference and the space in front of it. -/
def reference : Reader ForeignKey := fun s => do
  let (_, s) ← Reader.literal " REFERENCES ".toList s
  let (table, s) ← name s
  let (_, s) ← Reader.literal "(".toList s
  let (column, s) ← name s
  let (_, s) ← Reader.literal ") ON DELETE ".toList s
  let (onDelete, s) ← keyword ReferentialAction.vocabulary s
  let (_, s) ← Reader.literal " ON UPDATE ".toList s
  let (onUpdate, s) ← keyword ReferentialAction.vocabulary s
  return ({ table, column, onDelete, onUpdate }, s)

/-- Reads the clauses of an ordinary column. -/
def options : Reader Column.Options := fun s =>
  let (unique, s) := Reader.optional (Reader.literal " UNIQUE".toList) s
  let (notNull, s) := Reader.optional (Reader.literal " NOT NULL".toList) s
  let (references, s) := Reader.optional reference s
  some ({ nullable := notNull.isNone, unique := unique.isSome, references }, s)

/-- Reads the clauses after the type of a column: of a key, or those of an ordinary column. -/
def clauses (name : String) (type : ColumnType) : Reader Column := fun s =>
  match Reader.literal " PRIMARY KEY".toList s with
  | some (_, s) => some (.primaryKey name type, s)
  | none => (options s).map fun (o, s) => (.withOptions name type o, s)

/-- Reads the definition of a column. -/
def column (s : List Char) : Option Column := do
  let (name, s) ← name s
  let (_, s) ← Reader.literal " ".toList s
  let (type, s) ← keyword ColumnType.vocabulary s
  let (c, s) ← clauses name type s
  if s = [] then some c else none

/-! ## What is written -/

/-- The text of the clauses after the type of a column. -/
def clauseText (clauses : List String) : List Char :=
  clauses.flatMap fun clause => ' ' :: clause.toList

/-- The text of a reference that a column may have. -/
def referenceText (references : Option ForeignKey) : List Char :=
  references.elim [] fun r => ' ' :: r.sql.toList

theorem intercalate_space (u : List Char) (us : List (List Char)) :
    [' '].intercalate (u :: us) = u ++ us.flatMap (' ' :: ·) := by
  induction us generalizing u with
  | nil => simp
  | cons v us ih =>
    rw [List.intercalate_cons_cons, ih, List.flatMap_cons]
    simp

theorem toList_sql_column (c : Column) :
    c.sql.toList = c.name.toList ++ ' ' :: (c.type.sql.toList ++ clauseText c.clauses) := by
  have hspace : " ".toList = [' '] := rfl
  rw [Column.sql, Column.Raw.sql, String.toList_intercalate, hspace, List.map_cons, intercalate_space,
    List.map_cons, List.flatMap_cons, List.flatMap_map, List.cons_append]
  rfl

theorem toList_sql_reference (r : ForeignKey) :
    ' ' :: r.sql.toList = " REFERENCES ".toList ++ (r.table.toList ++ ("(".toList ++
      (r.column.toList ++ (") ON DELETE ".toList ++ (r.onDelete.sql.toList ++
        (" ON UPDATE ".toList ++ r.onUpdate.sql.toList)))))) := by
  delta ForeignKey.sql
  simp only [String.toList_append, List.append_assoc]
  rfl

theorem clauseText_options (o : Column.Options) :
    clauseText o.clauses = (if o.unique then " UNIQUE".toList else []) ++
      ((if !o.nullable then " NOT NULL".toList else []) ++ referenceText o.references) := by
  rcases o with ⟨nullable, unique, references⟩
  cases references <;> cases nullable <;> cases unique <;>
    simp [clauseText, referenceText, Column.Options.clauses]

theorem followsType_clauseText (c : Column) : FollowsType (clauseText c.clauses) := by
  cases c with
  | primaryKey name type => exact .clause _ (by decide)
  | ordinary name type o =>
    obtain ⟨nullable, unique, references⟩ := o
    -- the first clause that is there decides
    rw [Column.clauses_withOptions, clauseText_options]
    cases unique with
    | true => exact .clause _ (by decide)
    | false =>
      cases nullable with
      | false => exact .clause _ (by decide)
      | true =>
        cases references with
        | none => exact .nothing
        | some r =>
          simp only [referenceText, Option.elim_some, toList_sql_reference]
          exact .clause _ (by decide)

/-! ## Reading it back -/

theorem reference_sql {r : ForeignKey} (hr : ∀ n ∈ r.names, IsPlainName n) :
    reference (' ' :: r.sql.toList) = some (r, []) := by
  have htable : IsPlainName r.table := hr _ (by simp [ForeignKey.names])
  have hcolumn : IsPlainName r.column := hr _ (by simp [ForeignKey.names])
  have hopen (s : List Char) : Stops isNameCharacter ("(".toList ++ s) :=
    Text.stops_cons.mpr (by decide)
  have hclose (s : List Char) : Stops isNameCharacter (") ON DELETE ".toList ++ s) :=
    Text.stops_cons.mpr (by decide)
  have hlast := keyword_action r.onUpdate []
  rw [List.append_nil] at hlast
  rw [toList_sql_reference, reference]
  simp only [Reader.literal_append, name_append htable (hopen _), name_append hcolumn (hclose _),
    keyword_action, hlast, Option.bind_eq_bind, Option.bind_some, Option.pure_def]

theorem optional_literal {u s : List Char} (hs : Reader.literal u s = none) (present : Bool) :
    Reader.optional (Reader.literal u) ((if present then u else []) ++ s)
      = (if present then some () else none, s) := by
  cases present with
  | true =>
    rw [if_pos rfl, Reader.optional, Reader.literal_append]
    rfl
  | false =>
    rw [if_neg Bool.false_ne_true, List.nil_append, Reader.optional, hs]
    rfl

theorem optional_reference {references : Option ForeignKey}
    (h : ∀ r ∈ references, ∀ n ∈ r.names, IsPlainName n) :
    Reader.optional reference (referenceText references) = (references, []) := by
  cases references with
  | none => rfl
  | some r =>
    rw [referenceText, Option.elim_some, Reader.optional, reference_sql (h r rfl)]

theorem literal_referenceText {c : Char} (hc : 'R' ≠ c) (u : List Char)
    (references : Option ForeignKey) :
    Reader.literal (' ' :: c :: u) (referenceText references) = none := by
  cases references with
  | none => rfl
  | some r =>
    rw [referenceText, Option.elim_some, toList_sql_reference]
    show ((if 'R' = c then some ((), _) else none).bind fun _ => _) = none
    rw [if_neg hc, Option.bind_none]

theorem literal_unique (o : Column.Options) : Reader.literal " UNIQUE".toList
    ((if !o.nullable then " NOT NULL".toList else []) ++ referenceText o.references) = none := by
  cases o.nullable with
  | false => rfl
  | true => exact literal_referenceText (by decide) _ o.references

theorem literal_primaryKey (o : Column.Options) :
    Reader.literal " PRIMARY KEY".toList (clauseText o.clauses) = none := by
  rw [clauseText_options]
  cases o.unique with
  | true => rfl
  | false =>
    cases o.nullable with
    | false => rfl
    | true => exact literal_referenceText (by decide) _ o.references

theorem options_clauseText {o : Column.Options}
    (ho : ∀ r ∈ o.references, ∀ n ∈ r.names, IsPlainName n) :
    options (clauseText o.clauses) = some (o, []) := by
  have hnull : Reader.literal " NOT NULL".toList (referenceText o.references) = none :=
    literal_referenceText (by decide) _ o.references
  simp only [clauseText_options, options, optional_literal (literal_unique o),
    optional_literal hnull, optional_reference ho]
  rcases o with ⟨nullable, unique, references⟩
  cases nullable <;> cases unique <;> rfl

theorem clauses_clauseText {c : Column} (hc : ∀ n ∈ c.names, IsPlainName n) :
    clauses c.name c.type (clauseText c.clauses) = some (c, []) := by
  cases c with
  | primaryKey name type => rfl
  | ordinary name type o =>
    have ho : ∀ r ∈ o.references, ∀ n ∈ r.names, IsPlainName n := by
      intro r hr n hn
      rw [Option.mem_def] at hr
      exact hc n (by simp [Column.names, hr, hn])
    rw [Column.clauses_withOptions, clauses, literal_primaryKey]
    show (options (clauseText o.clauses)).map _ = _
    rw [options_clauseText ho]
    rfl

theorem column_sql {c : Column} (hc : ∀ n ∈ c.names, IsPlainName n) :
    column c.sql.toList = some c := by
  have hname : IsPlainName c.name := hc _ List.mem_cons_self
  have hspace (s : List Char) : Stops isNameCharacter (' ' :: s) :=
    Text.stops_cons.mpr (by decide)
  have hliteral (s : List Char) : Reader.literal " ".toList (' ' :: s) = some ((), s) := rfl
  rw [toList_sql_column, column]
  simp only [name_append hname (hspace _), hliteral, keyword_type c.type (followsType_clauseText _),
    clauses_clauseText hc, Option.bind_eq_bind, Option.bind_some, if_pos]

end Sql

end SchemaEvolution
