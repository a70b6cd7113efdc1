import SchemaEvolution.Proofs.ColumnType.Reading
import SchemaEvolution.Proofs.Decimal.Digits
import SchemaEvolution.Proofs.Keyword.Respelling
import SchemaEvolution.ReferentialAction

/-!
# SQL keywords are normal forms

The word that SQL writes for a type or an action is one of the spellings that are read, and it is
read as that type or action (`ColumnType.read_sql`, `ReferentialAction.read_sql`). So it may stand
for every other spelling, with other blanks around it and in letters of either case, and writing it
again changes nothing: `sql_normal`.
-/

namespace SchemaEvolution

namespace ColumnType

open Text (IsTrimmed)

theorem isLength_digits (n : UInt32) :
    IsLength n ('(' :: (Decimal.digits n.toNat ++ [')'])) := by
  have hgap : IsGap [] := fun c hc => absurd hc (by simp)
  have hlength := IsLength.mk hgap hgap hgap (Decimal.digits_ne_nil n.toNat)
    Decimal.isDigit_of_mem_digits (Decimal.value_digits n.toNat)
  simpa using hlength

theorem toList_sql_string_some (n : UInt32) :
    (string (some n)).sql.toList
      = "varchar".toList ++ '(' :: (Decimal.digits n.toNat ++ [')']) := by
  simp [sql, Decimal.text, ToString.toString]

/-- The SQL of a type is a word for it. -/
theorem denotes_sql (a : ColumnType) : Denotes a.sql.toList a := by
  have hspace : Keyword.IsSpace [' '] := by
    refine ⟨List.cons_ne_nil _ _, fun c hc => ?_⟩
    rw [List.mem_singleton.mp hc]
    rfl
  cases a with
  | string length =>
    cases length with
    | none => exact .unbounded (.inl rfl)
    | some n =>
      rw [toList_sql_string_some]
      exact .bounded (.inl rfl) (isLength_digits n)
  | timestamp => exact .plain (w := "timestamp") (by decide) rfl
  | timestampWithTimeZone =>
    have htimestamp : Keyword.IsWord "timestamp" "timestamp".toList := rfl
    have hwith : Keyword.IsWord "with" "with".toList := rfl
    have htime : Keyword.IsWord "time" "time".toList := rfl
    have hzone : Keyword.IsWord "zone" "zone".toList := rfl
    exact .withTimeZone htimestamp hspace hwith hspace htime hspace hzone
  | interval => exact .plain (w := "interval") (by decide) rfl
  | ipAddress => exact .plain (w := "inet") (by decide) rfl
  | date => exact .plain (w := "date") (by decide) rfl
  | bool => exact .plain (w := "boolean") (by decide) rfl
  | serial => exact .plain (w := "serial") (by decide) rfl
  | integer => exact .plain (w := "integer") (by decide) rfl
  | double =>
    have hdouble : Keyword.IsWord "double" "double".toList := rfl
    have hprecision : Keyword.IsWord "precision" "precision".toList := rfl
    exact .precise hdouble hspace hprecision

/-- The SQL of a type has no blanks at its ends. -/
theorem isTrimmed_sql (a : ColumnType) : IsTrimmed a.sql.toList := by
  cases a with
  | string length =>
    cases length with
    | none => exact ⟨by decide, by decide⟩
    | some n =>
      rw [toList_sql_string_some]
      simp [IsTrimmed]
      decide
  | _ => exact ⟨by decide, by decide⟩

theorem read_sql (a : ColumnType) : read a.sql = .ok a := by
  rw [read_eq_ok_iff, Text.trim_of_isTrimmed (isTrimmed_sql a)]
  exact denotes_sql a

/-! ## Types in lower case -/

open Keyword (lower IgnoresCase isSeparator_toLower)
open Text (isDigit_toLower toLower_eq_iff)

/-- The signs and digits of a length have no other case. -/
theorem length?_lower (s : List Char) :
    length? (lower s) = (length? s).map fun m => (m.1, lower m.2) := by
  have hopen : '('.toLower = '(' := rfl
  have hclose : ')'.toLower = ')' := rfl
  simp only [length?, lower, Text.dropWhile_map_toLower isSeparator_toLower]
  cases s.dropWhile Keyword.isSeparator with
  | nil => rfl
  | cons c inner =>
    by_cases hc : c = '('
    · subst hc
      simp only [List.map_cons, hopen, Text.dropWhile_map_toLower isSeparator_toLower,
        Text.takeWhile_map_toLower isDigit_toLower, Text.dropWhile_map_toLower isDigit_toLower,
        Decimal.value_map_toLower, List.map_eq_nil_iff]
      cases ((inner.dropWhile Keyword.isSeparator).dropWhile Char.isDigit).dropWhile
          Keyword.isSeparator with
      | nil => rfl
      | cons d rest =>
        by_cases hd : d = ')'
        · subst hd
          simp only [List.map_cons, hclose]
          split_ifs <;> rfl
        · have hlower : d.toLower ≠ ')' := fun h => hd ((toLower_eq_iff (by decide) d).mp h)
          simp [hd, hlower]
    · have hlower : c.toLower ≠ '(' := fun h => hc ((toLower_eq_iff (by decide) c).mp h)
      simp [hc, hlower]

/-- The length belongs to a string type in lower case too. -/
theorem stringFrom_lower (s : List Char) :
    stringFrom (lower s) = ((stringFrom s).1, lower (stringFrom s).2) := by
  rw [stringFrom, stringFrom, length?_lower]
  cases length? s <;> rfl

theorem ignoresCase_of_mem_keywords : ∀ k ∈ vocabulary.keywords, k.IgnoresCase := by
  intro k hk
  rw [keywords_eq, List.mem_cons, List.mem_cons, List.mem_map] at hk
  rcases hk with rfl | rfl | ⟨w, _, rfl⟩
  · exact stringFrom_lower
  · exact stringFrom_lower
  · exact Keyword.ignoresCase_fixed w.1 w.2

end ColumnType

namespace ReferentialAction

theorem read_sql (a : ReferentialAction) : read a.sql = .ok a := by
  cases a <;> rfl

theorem ignoresCase_of_mem_keywords : ∀ k ∈ vocabulary.keywords, k.IgnoresCase := by
  intro k hk
  simp only [vocabulary, List.mem_cons, List.not_mem_nil, or_false] at hk
  rcases hk with rfl | rfl | rfl | rfl | rfl <;> exact Keyword.ignoresCase_fixed _ _

end ReferentialAction

/-! ## Normal forms -/

open Keyword (Respelled)

/-- What SQL writes for a type or an action is read as it. So, for each text that is read as one of
them, SQL's word for it is read as the text is and is its own normal form; and the text itself and
SQL's word keep their meaning, and their normal form, with other blanks around them and with letters
in the other case. -/
theorem sql_normal :
    (∀ a : ColumnType, ColumnType.read a.sql = .ok a) ∧
    (∀ a : ReferentialAction, ReferentialAction.read a.sql = .ok a) ∧
    (∀ (text : String) (a : ColumnType), ColumnType.read text = .ok a →
      ColumnType.vocabulary.normalize ColumnType.sql text = .ok a.sql ∧
      ColumnType.vocabulary.normalize ColumnType.sql a.sql = .ok a.sql ∧
      (∀ text', Respelled text text' → ColumnType.read text' = .ok a) ∧
      ∀ sql', Respelled a.sql sql' → ColumnType.read sql' = .ok a) ∧
    (∀ (text : String) (a : ReferentialAction), ReferentialAction.read text = .ok a →
      ReferentialAction.vocabulary.normalize ReferentialAction.sql text = .ok a.sql ∧
      ReferentialAction.vocabulary.normalize ReferentialAction.sql a.sql = .ok a.sql ∧
      (∀ text', Respelled text text' → ReferentialAction.read text' = .ok a) ∧
      ∀ sql', Respelled a.sql sql' → ReferentialAction.read sql' = .ok a) := by
  refine ⟨ColumnType.read_sql, ReferentialAction.read_sql, fun text a h => ?_, fun text a h => ?_⟩
  · exact Vocabulary.normal_of_read ColumnType.ignoresCase_of_mem_keywords ColumnType.read_sql h
  · exact Vocabulary.normal_of_read ReferentialAction.ignoresCase_of_mem_keywords
      ReferentialAction.read_sql h

end SchemaEvolution
