import SchemaEvolution.Decimal.Digits
import SchemaEvolution.Proofs.Text.LetterCase

/-!
# Digits of a number

What `Decimal.digits` writes is made of digits, and `Decimal.value` reads it back
(`value_digits`), so a number is determined by its text.
-/

namespace SchemaEvolution.Decimal

/-! ## Single digits -/

theorem isDigit_digitChar {n : Nat} (h : n < 10) : (digitChar n).isDigit = true := by
  have hall : ∀ k < 10, (digitChar k).isDigit = true := by decide
  exact hall n h

theorem digitValue_digitChar {n : Nat} (h : n < 10) : digitValue (digitChar n) = n := by
  have hall : ∀ k < 10, digitValue (digitChar k) = k := by decide
  exact hall n h

/-- Letters among the digits have the same value in either case. -/
theorem digitValue_toLower (c : Char) : digitValue c.toLower = digitValue c :=
  Text.apply_toLower (by decide) c

/-! ## Whole numbers -/

theorem value_map_toLower (base : Nat) (ds : List Char) :
    value base (ds.map Char.toLower) = value base ds := by
  rw [value, value, List.foldl_map]
  simp only [digitValue_toLower]

theorem value_append_singleton (base : Nat) (ds : List Char) (d : Char) :
    value base (ds ++ [d]) = base * value base ds + digitValue d := by
  rw [value, List.foldl_append]
  rfl

/-- Reading the digits of a number gives the number. -/
theorem value_digits (n : Nat) : value 10 (digits n) = n := by
  induction n using Nat.strongRecOn with
  | _ n ih =>
    rw [digits]
    split
    · rename_i h
      rw [value, List.foldl_cons, List.foldl_nil, digitValue_digitChar h, Nat.mul_zero,
        Nat.zero_add]
    · rename_i h
      have hdiv : n / 10 < n := Nat.div_lt_self (by omega) (by omega)
      have hmod : n % 10 < 10 := Nat.mod_lt n (by omega)
      rw [value_append_singleton, ih (n / 10) hdiv, digitValue_digitChar hmod]
      exact Nat.div_add_mod n 10

theorem isDigit_of_mem_digits {n : Nat} : ∀ c ∈ digits n, c.isDigit = true := by
  induction n using Nat.strongRecOn with
  | _ n ih =>
    rw [digits]
    split
    · rename_i h
      intro c hc
      rw [List.mem_singleton] at hc
      rw [hc]
      exact isDigit_digitChar h
    · rename_i h
      intro c hc
      rw [List.mem_append, List.mem_singleton] at hc
      rcases hc with hc | hc
      · exact ih (n / 10) (Nat.div_lt_self (by omega) (by omega)) c hc
      · rw [hc]
        exact isDigit_digitChar (Nat.mod_lt n (by omega))

theorem digits_ne_nil (n : Nat) : digits n ≠ [] := by
  rw [digits]
  split <;> simp

end SchemaEvolution.Decimal
