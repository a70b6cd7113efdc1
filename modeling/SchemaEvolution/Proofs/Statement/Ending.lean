import SchemaEvolution.Change
import SchemaEvolution.Text.Blank

/-!
# Statements have no terminator

Names and values stand in a statement as they are given, whatever they are. The statement that applies
a change still ends with a fixed part of its own, which is closed (`Change.isClosed_forward`): a
parenthesis, or the letters of a type or a clause. The statement that undoes a change ends with a name,
and so with whatever that name ends with.
-/

namespace SchemaEvolution

/-! ## Ends of texts -/

namespace Text

variable {a b : String} {texts : List String}

/-- The last character of a text. -/
def last? (text : String) : Option Char :=
  text.toList.getLast?

/-- Whether a text ends with a closing parenthesis or a letter of ASCII. -/
def IsClosed (text : String) : Prop :=
  ∃ c ∈ last? text, c = ')' ∨ c.isAlpha = true

instance (text : String) : Decidable (IsClosed text) :=
  decidable_of_iff ((last? text).any fun c => c = ')' ∨ c.isAlpha = true) <| by
    simp only [IsClosed, Option.any_eq_true, decide_eq_true_eq, Option.mem_def]

theorem last?_append (a b : String) : last? (a ++ b) = (last? b).or (last? a) := by
  rw [last?, String.toList_append, List.getLast?_append]
  rfl

theorem IsClosed.append (a : String) (hb : IsClosed b) : IsClosed (a ++ b) := by
  obtain ⟨c, hlast, hc⟩ := hb
  refine ⟨c, ?_, hc⟩
  rw [last?_append, hlast]
  rfl

/-- Closed texts with anything between them are closed. -/
theorem IsClosed.intercalate (separator : String) (hne : texts ≠ [])
    (h : ∀ t ∈ texts, IsClosed t) : IsClosed (separator.intercalate texts) := by
  induction texts with
  | nil => exact absurd rfl hne
  | cons t texts ih =>
    by_cases hrest : texts = []
    · rw [hrest, String.intercalate_singleton]
      exact h t List.mem_cons_self
    · rw [String.intercalate_cons_of_ne_nil hrest]
      exact (ih hrest fun u hu => h u (List.mem_cons_of_mem t hu)).append _

theorem isBlank_of_isAlpha {c : Char} (h : c.isAlpha = true) : isBlank c = false := by
  have hrange : (decide (65 ≤ c.val ∧ c.val ≤ 90) || (97 ≤ c.val && c.val ≤ 122)) = true := h
  have hletter : 65 ≤ c.toNat ∧ c.toNat ≤ 90 ∨ 97 ≤ c.toNat ∧ c.toNat ≤ 122 := by
    simpa [UInt32.le_iff_toNat_le] using hrange
  simp only [isBlank, blankRanges, List.any_cons, List.any_nil, Bool.or_false,
    Bool.or_eq_false_iff, Bool.and_eq_false_iff, decide_eq_false_iff_not]
  omega

/-- What ends a closed text is no semicolon and no white space. -/
theorem isBlank_of_closing {c : Char} (h : c = ')' ∨ c.isAlpha = true) :
    c ≠ ';' ∧ isBlank c = false := by
  rcases h with rfl | halpha
  · decide
  · refine ⟨?_, isBlank_of_isAlpha halpha⟩
    rintro rfl
    exact absurd halpha (by decide)

theorem ne_empty_of_last? {c : Char} (h : last? a = some c) : a ≠ "" := by
  rintro rfl
  exact absurd h (Option.some_ne_none c).symm

theorem append_ne_empty {c : Char} (ha : last? a = some c) : a ++ b ≠ "" := fun h =>
  ne_empty_of_last? ha (String.append_eq_empty_iff.mp h).1

/-- Behind a text that ends with another sign, a semicolon at the end is the last sign of the text that
follows. -/
theorem last?_append_eq_semicolon {c : Char} (ha : last? a = some c) (hc : c ≠ ';') :
    last? (a ++ b) = some ';' ↔ last? b = some ';' := by
  rw [last?_append, ha]
  cases last? b with
  | none => simp [hc]
  | some d => rfl

end Text

open Text (IsClosed last?)

/-! ## Parts of a statement -/

theorem ColumnType.isClosed_sql (type : ColumnType) : IsClosed type.sql := by
  cases type with
  | string length =>
    cases length with
    | none => decide
    | some n =>
      have hclose : IsClosed ")" := by decide
      exact hclose.append _
  | _ => decide

theorem ReferentialAction.isClosed_sql (action : ReferentialAction) : IsClosed action.sql := by
  cases action <;> decide

theorem ForeignKey.isClosed_sql (r : ForeignKey) : IsClosed r.sql :=
  r.onUpdate.isClosed_sql.append _

theorem Column.Options.isClosed_of_mem_clauses {o : Options} {clause : String}
    (h : clause ∈ o.clauses) : IsClosed clause := by
  rw [clauses, List.mem_append, List.mem_append] at h
  rcases h with (h | h) | h
  · split at h
    · rw [List.mem_singleton.mp h]
      decide
    · exact absurd h List.not_mem_nil
  · split at h
    · exact absurd h List.not_mem_nil
    · rw [List.mem_singleton.mp h]
      decide
  · obtain ⟨r, -, rfl⟩ := Option.map_eq_some_iff.mp (Option.mem_toList.mp h)
    exact r.isClosed_sql

theorem Column.Raw.isClosed_of_mem_clauses {c : Raw} {clause : String} (h : clause ∈ c.clauses) :
    IsClosed clause := by
  rcases List.mem_append.mp h with h | h
  · split at h
    · rw [List.mem_singleton.mp h]
      decide
    · exact absurd h List.not_mem_nil
  · exact Options.isClosed_of_mem_clauses h

/-- A column ends with its last clause, or with its type if it has none. -/
theorem Column.isClosed_sql (c : Column) : IsClosed c.sql := by
  have hclauses : ∀ t ∈ c.type.sql :: c.clauses, IsClosed t := by
    intro t ht
    rcases List.mem_cons.mp ht with rfl | ht
    · exact c.type.isClosed_sql
    · exact Raw.isClosed_of_mem_clauses ht
  have hne : c.type.sql :: c.clauses ≠ [] := List.cons_ne_nil _ _
  rw [sql, Raw.sql, String.intercalate_cons_of_ne_nil hne]
  exact (IsClosed.intercalate " " hne hclauses).append _

/-! ## Statements -/

theorem Change.isClosed_forward (c : Change) : IsClosed c.forward.sql := by
  have hclose : IsClosed ")" := by decide
  cases c with
  | createTable t => exact hclose.append _
  | addColumn t c => exact c.isClosed_sql.append _
  | insertRow t values => exact hclose.append _

/-- The statement that applies a change ends with a parenthesis or a letter, and so with no semicolon
and no white space. The statement that undoes it ends with a semicolon only if what it drops has a name
that does. -/
theorem Change.sql_unterminated :
    (∀ c : Change, c.forward.sql ≠ "" ∧
      ∃ e, last? c.forward.sql = some e ∧ (e = ')' ∨ e.isAlpha = true) ∧
        e ≠ ';' ∧ Text.isBlank e = false) ∧
    (∀ t : Table, ∃ s, (createTable t).revert? = some s ∧ s.sql ≠ "" ∧
      (last? s.sql = some ';' ↔ last? t.name = some ';')) ∧
    (∀ (t : String) (c : Column), ∃ s, (addColumn t c).revert? = some s ∧ s.sql ≠ "" ∧
      (last? s.sql = some ';' ↔ last? c.name = some ';')) ∧
    (∀ (t : String) (values : List String), (insertRow t values).revert? = none) := by
  refine ⟨fun c => ?_, fun t => ?_, fun t c => ?_, fun t values => rfl⟩
  · obtain ⟨e, hlast, he⟩ := c.isClosed_forward
    exact ⟨Text.ne_empty_of_last? hlast, e, hlast, he, Text.isBlank_of_closing he⟩
  -- a name that is dropped stands behind a space, so that the semicolon can only be its own
  · have hspace : last? "DROP TABLE " = some ' ' := by decide
    refine ⟨.dropTable t.name, rfl, ?_, Text.last?_append_eq_semicolon hspace (by decide)⟩
    exact Text.append_ne_empty hspace
  · have hspace : last? ("ALTER TABLE " ++ t ++ " DROP COLUMN ") = some ' ' := by
      rw [Text.last?_append]
      rfl
    refine ⟨.dropColumn t c.name, rfl, ?_, Text.last?_append_eq_semicolon hspace (by decide)⟩
    exact Text.append_ne_empty hspace

example : (Change.addColumn "" (.ordinary "a;" .date)).revert?.map (last? ·.sql) =
    some (some ';') := by decide

end SchemaEvolution
