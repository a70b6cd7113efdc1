import SchemaEvolution.Plan.Skeleton
import SchemaEvolution.Proofs.Decimal.Digits
import SchemaEvolution.Proofs.Path

/-!
# Names of new plan files

The name of a new plan file is made of the time and of the name of the migration. A migration has
letters, digits and underscores in its name, and a time is written in digits with a sign at most
(`LocalTime.mem_stamp`), so nothing in the name of the file can lead out of a directory
(`Plan.Skeleton.isName_fileName`).
-/

namespace SchemaEvolution

/-! ## Letters and digits -/

theorem isAlphanum_of_isDigit {c : Char} (h : c.isDigit = true) : c.isAlphanum = true := by
  rw [Char.isAlphanum, h, Bool.or_true]

/-- Letters and digits are characters of ASCII. -/
theorem val_le_of_isAlphanum {c : Char} (h : c.isAlphanum = true) : c.val ≤ 127 := by
  have hrange : (decide (65 ≤ c.val ∧ c.val ≤ 90) || (97 ≤ c.val && c.val ≤ 122) ||
      (48 ≤ c.val && c.val ≤ 57)) = true := h
  simp [UInt32.le_iff_toNat_le] at hrange ⊢
  omega

theorem Decimal.isDigit_of_mem_padded {width n : Nat} {c : Char} (h : c ∈ padded width n) :
    c.isDigit = true := by
  rw [padded, List.mem_append] at h
  rcases h with h | h
  · rw [List.eq_of_mem_replicate h]
    rfl
  · exact isDigit_of_mem_digits c h

/-! ## Stamps -/

namespace LocalTime

variable {t : LocalTime} {c : Char}

theorem mem_yearText (h : c ∈ t.yearText) : c.isDigit = true ∨ c = '+' ∨ c = '-' := by
  rw [yearText] at h
  by_cases hbefore : t.year < 0
  · rw [if_pos hbefore, List.mem_cons] at h
    rcases h with h | h
    · exact .inr (.inr h)
    · exact .inl (Decimal.isDigit_of_mem_padded h)
  · rw [if_neg hbefore] at h
    by_cases hlate : 9999 < t.year
    · rw [if_pos hlate, List.mem_cons] at h
      rcases h with h | h
      · exact .inr (.inl h)
      · exact .inl (Decimal.isDigit_of_mem_padded h)
    · rw [if_neg hlate] at h
      exact .inl (Decimal.isDigit_of_mem_padded h)

theorem mem_stamp (h : c ∈ t.stamp.toList) : c.isDigit = true ∨ c = '+' ∨ c = '-' := by
  rw [stamp, String.toList_ofList, List.mem_append, List.mem_flatMap] at h
  rcases h with h | ⟨n, -, h⟩
  · exact mem_yearText h
  · exact .inl (Decimal.isDigit_of_mem_padded h)

end LocalTime

/-! ## Names -/

namespace Plan.Skeleton

variable {s : Skeleton} {c : Char}

theorem isName_eq_true_iff (name : String) :
    isName name = true ↔ name ≠ "" ∧ ∀ c ∈ name.toList, c.isAlphanum = true ∨ c = '_' := by
  rw [isName, Bool.and_eq_true, List.all_eq_true]
  simp

/-- The characters in the name of a file. -/
theorem mem_fileName (hname : isName s.name = true) (h : c ∈ s.fileName.toList) :
    c.isAlphanum = true ∨ c ∈ ['_', '.', '+', '-'] := by
  rw [fileName, String.toList_append, String.toList_append, String.toList_append] at h
  simp only [List.mem_append] at h
  rcases h with ((h | h) | h) | h
  · rcases LocalTime.mem_stamp h with hdigit | rfl | rfl
    · exact .inl (isAlphanum_of_isDigit hdigit)
    · exact .inr (by decide)
    · exact .inr (by decide)
  · obtain rfl : c = '_' := by simpa using h
    exact .inr (by decide)
  · rcases ((isName_eq_true_iff s.name).mp hname).2 c h with h | rfl
    · exact .inl h
    · exact .inr (by decide)
  · have hextension : ".toml".toList = ['.', 't', 'o', 'm', 'l'] := by decide
    rw [hextension] at h
    simp only [List.mem_cons, List.not_mem_nil, or_false] at h
    rcases h with rfl | rfl | rfl | rfl | rfl
    · exact .inr (by decide)
    all_goals exact .inl (by decide)

/-- The name of a file can only mean something in the directory that it is looked for in. -/
theorem isName_fileName (hname : isName s.name = true) : Path.IsName s.fileName where
  ne_empty := by simp [fileName]
  slash_free := by
    intro hslash
    rcases mem_fileName hname hslash with h | h
    · exact absurd h (by decide)
    · exact absurd h (by decide)

end Plan.Skeleton

end SchemaEvolution
