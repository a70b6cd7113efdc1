import SchemaEvolution.Proofs.Statement.Decoding

/-!
# What a statement adds to its names and values

A statement is put together from the names and values of its change, from fixed words and from
numbers. Those bring in only letters and digits of ASCII, spaces, commas and parentheses
(`Statement.within_sql`), so any other character of a statement, such as a line break, stands in one
of the names or values.
-/

namespace SchemaEvolution

namespace Sql

variable {texts texts' : List String} {u v : List Char}

/-- The characters of the fixed parts of a statement. -/
def isOwnCharacter (c : Char) : Bool :=
  c.isAlphanum || [' ', ',', '(', ')'].contains c

/-- Whether every character is one of the fixed parts or stands in one of the given texts. -/
def Within (texts : List String) (u : List Char) : Prop :=
  ∀ c ∈ u, isOwnCharacter c = true ∨ ∃ t ∈ texts, c ∈ t.toList

theorem within_of_all (h : u.all isOwnCharacter = true) : Within texts u :=
  fun c hc => .inl (List.all_eq_true.mp h c hc)

theorem within_of_mem {t : String} (h : t ∈ texts) : Within texts t.toList :=
  fun _ hc => .inr ⟨t, h, hc⟩

theorem Within.append (hu : Within texts u) (hv : Within texts v) : Within texts (u ++ v) :=
  fun c hc => (List.mem_append.mp hc).elim (hu c) (hv c)

theorem Within.mono (hu : Within texts u) (h : texts ⊆ texts') : Within texts' u := by
  intro c hc
  rcases hu c hc with hown | ⟨t, ht, hct⟩
  · exact .inl hown
  · exact .inr ⟨t, h ht, hct⟩

theorem Within.of_cons {c : Char} (h : Within texts (c :: u)) : Within texts u :=
  fun d hd => h d (List.mem_cons_of_mem c hd)

theorem Within.intercalate {separator : List Char} {us : List (List Char)}
    (hseparator : Within texts separator) (hus : ∀ u ∈ us, Within texts u) :
    Within texts (separator.intercalate us) := by
  induction us with
  | nil => exact within_of_all rfl
  | cons u us ih =>
    have hu : Within texts u := hus u List.mem_cons_self
    cases us with
    | nil =>
      rw [List.intercalate_singleton]
      exact hu
    | cons v us =>
      rw [List.intercalate_cons_cons]
      exact (hu.append hseparator).append (ih fun w hw => hus w (List.mem_cons_of_mem u hw))

/-- Items bring in what they have and the commas between them. -/
theorem within_commaSeparated {us : List String} (h : ∀ u ∈ us, Within texts u.toList) :
    Within texts (commaSeparated us).toList := by
  rw [toList_commaSeparated]
  refine .intercalate (within_of_all (by decide)) fun u hu => ?_
  obtain ⟨s, hs, rfl⟩ := List.mem_map.mp hu
  exact h s hs

theorem within_parenthesized (hu : Within texts u) : Within texts ('(' :: (u ++ [')'])) :=
  .append (u := ['(']) (within_of_all (by decide)) (hu.append (within_of_all (by decide)))

/-! ## Parts of a statement -/

theorem within_sql_type (a : ColumnType) : Within [] a.sql.toList := by
  cases a with
  | string length =>
    cases length with
    | none => exact within_of_all (by decide)
    | some n =>
      have hdigits : Within [] (Decimal.digits n.toNat) := fun c hc =>
        .inl (by simp [isOwnCharacter, Char.isAlphanum, Decimal.isDigit_of_mem_digits c hc])
      rw [ColumnType.toList_sql_string_some]
      exact .append (within_of_all (by decide)) (within_parenthesized hdigits)
  | _ => exact within_of_all (by decide)

theorem within_sql_action (a : ReferentialAction) : Within [] a.sql.toList := by
  cases a <;> exact within_of_all (by decide)

theorem within_sql_reference (r : ForeignKey) : Within r.names r.sql.toList := by
  have htable : Within r.names r.table.toList := within_of_mem (by simp [ForeignKey.names])
  have hcolumn : Within r.names r.column.toList := within_of_mem (by simp [ForeignKey.names])
  have haction (a : ReferentialAction) : Within r.names a.sql.toList :=
    (within_sql_action a).mono (List.nil_subset _)
  have hfixed {w : String} (h : w.toList.all isOwnCharacter = true) : Within r.names w.toList :=
    within_of_all h
  refine Within.of_cons (c := ' ') ?_
  rw [toList_sql_reference]
  exact (hfixed (by decide)).append (htable.append ((hfixed (by decide)).append
    (hcolumn.append ((hfixed (by decide)).append ((haction _).append
      ((hfixed (by decide)).append (haction _)))))))

theorem within_clauseText (c : Column) : Within c.names (clauseText c.clauses) := by
  cases c with
  | primaryKey name type => exact within_of_all rfl
  | ordinary name type o =>
    rw [Column.clauses_withOptions, clauseText_options]
    refine .append ?_ (.append ?_ ?_)
    · split <;> exact within_of_all (by decide)
    · split <;> exact within_of_all (by decide)
    · rcases o with ⟨nullable, unique, references⟩
      cases references with
      | none => exact within_of_all rfl
      | some r =>
        have hsub : r.names ⊆ Column.names (.withOptions name type ⟨nullable, unique, some r⟩) :=
          fun n hn => List.mem_cons_of_mem name hn
        exact .append (u := [' ']) (within_of_all (by decide)) ((within_sql_reference r).mono hsub)

theorem within_sql_column (c : Column) : Within c.names c.sql.toList := by
  have hname : Within c.names c.name.toList := within_of_mem List.mem_cons_self
  have htype : Within c.names c.type.sql.toList := (within_sql_type c.type).mono (List.nil_subset _)
  rw [toList_sql_column]
  exact hname.append (.append (u := [' ']) (within_of_all (by decide))
    (htype.append (within_clauseText c)))

theorem within_names (columns : List String) : Within columns (commaSeparated columns).toList :=
  within_commaSeparated fun _ hn => within_of_mem hn

theorem within_sql_constraint (c : UniqueConstraint) : Within c.names c.sql.toList := by
  have hname : Within c.names c.name.toList := within_of_mem List.mem_cons_self
  have hcolumns : Within c.names (commaSeparated c.columns).toList :=
    (within_names c.columns).mono fun n hn => List.mem_cons_of_mem c.name hn
  rw [toList_sql_constraint]
  exact .append (within_of_all (by decide)) (hname.append
    (.append (within_of_all (by decide)) (hcolumns.append (within_of_all (by decide)))))

theorem Definition.within_sql (d : Definition) : Within d.names d.sql.toList := by
  cases d with
  | column c => exact within_sql_column c
  | key columns =>
    rw [Definition.sql, toList_keySql]
    exact .append (within_of_all (by decide))
      ((within_names columns).append (within_of_all (by decide)))
  | constraint c => exact within_sql_constraint c

end Sql

/-! ## Statements -/

open Sql (Within within_of_all within_of_mem)

theorem Table.within_definitions (t : Table) :
    Within t.names (commaSeparated t.definitions).toList := by
  refine Sql.within_commaSeparated fun u hu => ?_
  rw [Table.definitions_eq_map] at hu
  obtain ⟨d, hd, rfl⟩ := List.mem_map.mp hu
  exact (Sql.Definition.within_sql d).mono (Table.names_of_mem_parts hd)

/-- A character of a statement is one of its fixed parts, or it stands in a name or a value. -/
theorem Statement.within_sql (s : Statement) : Within (s.names ++ s.values) s.sql.toList := by
  cases s with
  | createTable t =>
    have hname : Within t.names t.name.toList := within_of_mem List.mem_cons_self
    have hnames : (createTable t).names ++ (createTable t).values = t.names := List.append_nil _
    rw [Sql.toList_sql_createTable, hnames]
    exact .append (within_of_all (by decide)) (hname.append (.append (within_of_all (by decide))
      (t.within_definitions.append (within_of_all (by decide)))))
  | dropTable t =>
    rw [Sql.toList_sql_dropTable]
    exact .append (within_of_all (by decide)) (within_of_mem List.mem_cons_self)
  | addColumn t c =>
    have hcolumn : Within (t :: c.names) c.sql.toList :=
      (Sql.within_sql_column c).mono fun n hn => List.mem_cons_of_mem t hn
    have hnames : (addColumn t c).names ++ (addColumn t c).values = t :: c.names :=
      List.append_nil _
    rw [Sql.toList_sql_addColumn, hnames]
    exact .append (within_of_all (by decide)) (.append (within_of_mem List.mem_cons_self)
      (.append (within_of_all (by decide)) hcolumn))
  | dropColumn t c =>
    rw [Sql.toList_sql_dropColumn]
    exact .append (within_of_all (by decide)) (.append (within_of_mem List.mem_cons_self)
      (.append (within_of_all (by decide)) (within_of_mem (by simp [names]))))
  | insert t values =>
    have hvalues : Within (t :: values) (commaSeparated values).toList :=
      (Sql.within_names values).mono fun v hv => List.mem_cons_of_mem t hv
    rw [Sql.toList_sql_insert]
    exact .append (within_of_all (by decide)) (.append (within_of_mem List.mem_cons_self)
      (.append (within_of_all (by decide)) (hvalues.append (within_of_all (by decide)))))

end SchemaEvolution
