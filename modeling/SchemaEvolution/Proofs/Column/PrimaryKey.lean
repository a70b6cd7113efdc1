import SchemaEvolution.Proofs.Column.Calls
import SchemaEvolution.Proofs.Document.ColumnPlace
import SchemaEvolution.Proofs.Document.ColumnReading

/-!
# A primary key asks for nothing else

A column that is a primary key by itself is never nullable by request, unique or a reference, however
it came about. Nothing in the way a column is held sees to it, and its clauses are written one by one;
it is so for exactly the columns that can be obtained by calls or from a document
(`Column.Raw.obtained_iff_isSound`). So a key is always written as its name, its type and
`PRIMARY KEY`, by itself and within the statements that contain it.
-/

namespace SchemaEvolution

/-! ## What can be obtained -/

namespace Column.Raw

variable {c : Raw}

theorem isSound_iff : c.IsSound ↔
    (c.isPrimaryKey = true →
      c.options.nullable = true ∧ c.options.unique = false ∧ c.options.references = none) := by
  obtain ⟨name, type, key, nullable, unique, references⟩ := c
  simp [IsSound]

/-- Whatever is sound can be obtained, by calls alone. -/
theorem obtained_of_isSound (h : c.IsSound) : c.Obtained := by
  obtain ⟨name, type, key, options⟩ := c
  cases key with
  | true =>
    obtain rfl : options = {} := h rfl
    exact .primaryKey name type
  | false =>
    have hcalls := (Obtained.ordinary name type).after options.calls
    have hasked : Options.ofCalls options.calls = options :=
      Options.ofCalls_eq (Options.mem_calls options)
    rwa [after_ordinary, hasked] at hcalls

theorem obtained_iff_isSound : c.Obtained ↔ c.IsSound :=
  ⟨isSound_of_obtained, obtained_of_isSound⟩

theorem sql_of_isPrimaryKey (hc : c.IsSound) (h : c.isPrimaryKey = true) :
    c.sql = c.name ++ " " ++ c.type.sql ++ " PRIMARY KEY" := by
  have hclauses : c.clauses = ["PRIMARY KEY"] := by
    rw [clauses, h, hc h]
    rfl
  have hspace : " PRIMARY KEY" = " " ++ "PRIMARY KEY" := rfl
  rw [sql, hclauses, String.intercalate_cons_cons, String.intercalate_cons_cons,
    String.intercalate_singleton, hspace]
  simp only [String.append_assoc]

end Column.Raw

/-! ## Texts -/

/-- An item of a list stands between commas, or between a comma and an end of the list. -/
theorem commaSeparated_append_cons (xs : List String) (x : String) (ys : List String) :
    commaSeparated (xs ++ x :: ys)
      = String.join (xs.map (· ++ ",")) ++ x ++ String.join (ys.map ("," ++ ·)) := by
  have hrest : ∀ x, commaSeparated (x :: ys) = x ++ String.join (ys.map ("," ++ ·)) := by
    intro x
    induction ys generalizing x with
    | nil => simp [commaSeparated]
    | cons y ys ih =>
      rw [commaSeparated, String.intercalate_cons_cons, List.map_cons, String.join_cons]
      show x ++ "," ++ commaSeparated (y :: ys) = _
      rw [ih y]
      simp only [String.append_assoc]
  induction xs with
  | nil =>
    rw [List.nil_append, hrest, List.map_nil, String.join_nil, String.empty_append]
  | cons u xs ih =>
    have hne : xs ++ x :: ys ≠ [] := by simp
    rw [List.cons_append, commaSeparated, String.intercalate_cons_of_ne_nil hne, List.map_cons,
      String.join_cons]
    show u ++ "," ++ commaSeparated (xs ++ x :: ys) = _
    rw [ih]
    simp only [String.append_assoc]

/-- The definition of a column in a table, with what stands around it. -/
theorem Statement.sql_createTable {t : Table} {before after : List Column} {c : Column}
    (h : t.columns = before ++ c :: after) :
    (createTable t).sql =
      "CREATE TABLE " ++ t.name ++ " (" ++ String.join (before.map (·.sql ++ ",")) ++ c.sql ++
      String.join ((after.map Column.sql ++ t.keyDefinition ++
        t.constraints.map UniqueConstraint.sql).map ("," ++ ·)) ++ ")" := by
  have hdefinitions : t.definitions = before.map Column.sql ++ c.sql ::
      (after.map Column.sql ++ t.keyDefinition ++ t.constraints.map UniqueConstraint.sql) := by
    rw [Table.definitions, h]
    simp
  show "CREATE TABLE " ++ t.name ++ " (" ++ commaSeparated t.definitions ++ ")" = _
  rw [hdefinitions, commaSeparated_append_cons, List.map_map]
  simp only [Function.comp_def, String.append_assoc]

/-! ## Keys -/

/-- A column can be obtained, by calls or from a document, exactly if it has no options or is no key.
Calls on a key are ignored and make no key of another column; a document that is read as a key gives
no option; and each column of a plan is read in this way from its own place in the document. So a
key is written as its name, its type and `PRIMARY KEY`, also in the statements that create it. -/
theorem Column.primaryKey_without_options :
    (∀ c : Raw, c.Obtained ↔
      (c.isPrimaryKey = true →
        c.options.nullable = true ∧ c.options.unique = false ∧ c.options.references = none)) ∧
    (∀ c : Raw, c.Obtained → c.isPrimaryKey = true →
      c.sql = c.name ++ " " ++ c.type.sql ++ " PRIMARY KEY") ∧
    (∀ (name : String) (type : ColumnType) (calls : List Call),
      (Raw.primaryKey name type).after calls = .primaryKey name type ∧
      ((Raw.ordinary name type).after calls).isPrimaryKey = false) ∧
    (∀ (holder : Holder) (n : Node) (c : Raw), Raw.decode holder n = .ok c →
      c.isPrimaryKey = true →
      shape.given? n .primaryKey = some (.bool true) ∧
      (shape.given? n .allowNull = none ∨ shape.given? n .allowNull = some (.bool true)) ∧
      (shape.given? n .unique = none ∨ shape.given? n .unique = some (.bool false)) ∧
      (shape.given? n .references = none ∨ shape.given? n .references = some .null)) ∧
    (∀ (n : Node) (p : Plan), Plan.decode n = .ok p →
      ∀ (i j : Nat) (change : Change) (c : Column), p.changes[i]? = some change →
      change.columns[j]? = some c →
      ∃ m, Plan.HasColumn n i j m ∧ Raw.decode .change m = .ok c.toRaw) ∧
    (∀ c : Column, c.toRaw.Obtained ∧
      (c.isPrimaryKey = true →
        (∀ (t : Table) (before after : List Column), t.columns = before ++ c :: after →
          (Statement.createTable t).sql =
            "CREATE TABLE " ++ t.name ++ " (" ++ String.join (before.map (·.sql ++ ",")) ++
            (c.name ++ " " ++ c.type.sql ++ " PRIMARY KEY") ++
            String.join ((after.map Column.sql ++ t.keyDefinition ++
              t.constraints.map UniqueConstraint.sql).map ("," ++ ·)) ++ ")") ∧
        (∀ t : String, (Statement.addColumn t c).sql =
          "ALTER TABLE " ++ t ++ " ADD COLUMN " ++
          (c.name ++ " " ++ c.type.sql ++ " PRIMARY KEY")))) := by
  refine ⟨fun c => Raw.obtained_iff_isSound.trans Raw.isSound_iff,
    fun c hc => Raw.sql_of_isPrimaryKey (Raw.isSound_of_obtained hc),
    fun name type calls => ⟨Raw.after_of_isPrimaryKey rfl calls, Raw.isPrimaryKey_after _ calls⟩,
    fun holder n c => Raw.given?_of_decode, ?_, ?_⟩
  · intro n p h i j change c hchange hc
    obtain ⟨m, hm, hread⟩ := Plan.exists_hasColumn h hchange hc
    exact ⟨m, hm, decode_eq_ok_iff_toRaw.mp hread⟩
  · intro c
    refine ⟨Raw.obtained_of_isSound c.isSound, fun hkey => ?_⟩
    have hsql : c.sql = c.name ++ " " ++ c.type.sql ++ " PRIMARY KEY" :=
      Raw.sql_of_isPrimaryKey c.isSound hkey
    rw [← hsql]
    exact ⟨fun t before after ht => Statement.sql_createTable ht, fun t => rfl⟩

/-- A key that a plan has between two other columns of a table, in a document that says more than it
has to. -/
theorem Column.primaryKey_without_options_between :
    let key : Node := .table [("primary_key", .bool true), ("name", .text "id"),
      ("references", .null), ("type", .text "serial")]
    let n : Node := .table [("change", .ofList [.ofList [.text "create_table", .text "t",
      .ofList [.ofTexts ["a", "date"], key, .ofTexts ["b", "date"]]]])]
    let t : Table := ⟨"t", [.ordinary "a" .date, .primaryKey "id" .serial, .ordinary "b" .date],
      [], []⟩
    Plan.decode n = .ok { changes := [.createTable t] } ∧
    Plan.HasColumn n 0 1 key ∧
    (Raw.primaryKey "id" .serial).sql = "id SERIAL PRIMARY KEY" ∧
    (Statement.createTable t).sql = "CREATE TABLE t (a date,id SERIAL PRIMARY KEY,b date)" := by
  intro key n t
  obtain ⟨_, htext, _, _, hplace, hcolumn⟩ := primaryKey_without_options
  have hread : Plan.decode n = .ok { changes := [.createTable t] } := by rfl
  obtain ⟨m, hm, -⟩ := hplace n _ hread 0 1 _ (.primaryKey "id" .serial) rfl rfl
  obtain ⟨hobtained, hstatements⟩ := hcolumn (.primaryKey "id" .serial)
  obtain ⟨htable, -⟩ := hstatements rfl
  refine ⟨hread, ?_, (htext _ hobtained rfl).trans (by decide), ?_⟩
  · -- nothing but the key stands in its place
    have hkey : m = key := by
      obtain ⟨_, _, hchanges, hchange, hcolumn⟩ := hm
      cases hchanges
      cases hchange
      obtain ⟨-, hfields, hm⟩ | ⟨hkind, -⟩ := hcolumn
      cases hfields
      cases hm
      rfl
    rwa [← hkey]
  · rw [htable t [.ordinary "a" .date] [.ordinary "b" .date] rfl]
    decide

end SchemaEvolution
