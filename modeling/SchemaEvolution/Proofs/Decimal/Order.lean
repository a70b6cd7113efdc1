import Mathlib.Algebra.Ring.Nat
import SchemaEvolution.Proofs.Decimal.Digits
import SchemaEvolution.Proofs.Text.Order

/-!
# The order of numbers in a fixed width

Numbers that are padded to one width are ordered as texts in the way they are as numbers
(`Decimal.padded_lt_padded`), and so are rows of them (`Decimal.flatMap_padded_lt`).
-/

namespace SchemaEvolution

namespace Decimal

open Text (append_lt_append append_lt_append_left)

variable {w n m : Nat}

/-! ## Widths -/

/-- All digits but the last are those of a tenth of the number, and one place narrower. -/
theorem padded_succ (hw : 0 < w) (n : Nat) :
    padded (w + 1) n = padded w (n / 10) ++ [digitChar (n % 10)] := by
  by_cases h : n < 10
  · have hdigits : digits n = [digitChar n] := by rw [digits, if_pos h]
    have hzero : digits 0 = ['0'] := by
      rw [digits]
      rfl
    have hdiv : n / 10 = 0 := Nat.div_eq_of_lt h
    unfold padded
    rw [hdigits, hdiv, Nat.mod_eq_of_lt h, hzero]
    obtain ⟨w, rfl⟩ : ∃ k, w = k + 1 := ⟨w - 1, by omega⟩
    show List.replicate (w + 1) '0' ++ _ = List.replicate w '0' ++ ['0'] ++ _
    rw [← List.replicate_succ']
  · have hdigits : digits n = digits (n / 10) ++ [digitChar (n % 10)] := by
      rw [digits, if_neg h]
    unfold padded
    rw [hdigits, List.length_append, List.length_singleton, Nat.add_sub_add_right,
      List.append_assoc]

theorem padded_one (h : n < 10) : padded 1 n = [digitChar n] := by
  have hdigits : digits n = [digitChar n] := by rw [digits, if_pos h]
  rw [padded, hdigits]
  rfl

theorem length_padded (hw : 0 < w) (h : n < 10 ^ w) : (padded w n).length = w := by
  induction w, hw using Nat.le_induction generalizing n with
  | base => rw [padded_one (by omega), List.length_singleton]
  | succ w hw ih =>
    have hdiv : n / 10 < 10 ^ w := by
      rw [Nat.div_lt_iff_lt_mul (by decide), ← Nat.pow_succ]
      exact h
    rw [padded_succ hw, List.length_append, ih hdiv, List.length_singleton]

/-! ## One number -/

theorem digitChar_lt (h : n < m) (hm : m < 10) : digitChar n < digitChar m := by
  have hall : ∀ m < 10, ∀ n < m, digitChar n < digitChar m := by decide
  exact hall m hm n h

/-- In one width, numbers are ordered as texts in the way they are as numbers. -/
theorem padded_lt_padded (hw : 0 < w) (h : n < m) (hm : m < 10 ^ w) : padded w n < padded w m := by
  induction w, hw using Nat.le_induction generalizing n m with
  | base =>
    rw [padded_one (by omega), padded_one (by omega)]
    exact List.cons_lt_cons_iff.mpr (.inl (digitChar_lt h (by omega)))
  | succ w hw ih =>
    have hdiv : m / 10 < 10 ^ w := by
      rw [Nat.div_lt_iff_lt_mul (by decide), ← Nat.pow_succ]
      exact hm
    rw [padded_succ hw, padded_succ hw]
    -- the tenths decide, and the last digits where these are equal
    rcases Nat.lt_or_ge (n / 10) (m / 10) with htenth | htenth
    · refine append_lt_append (ih htenth hdiv) ?_ _ _
      rw [length_padded hw (by omega), length_padded hw hdiv]
    · have heq : n / 10 = m / 10 := by omega
      rw [heq]
      apply append_lt_append_left
      exact List.cons_lt_cons_iff.mpr (.inl (digitChar_lt (by omega) (by omega)))

/-! ## Rows of numbers -/

theorem length_flatMap_padded (hw : 0 < w) {ns : List Nat} (h : ∀ n ∈ ns, n < 10 ^ w) :
    (ns.flatMap (padded w)).length = ns.length * w := by
  induction ns with
  | nil => simp
  | cons n ns ih =>
    rw [List.forall_mem_cons] at h
    rw [List.flatMap_cons, List.length_append, length_padded hw h.1, ih h.2, List.length_cons,
      Nat.succ_mul, Nat.add_comm]

/-- In one width, rows of numbers are ordered as texts in the way they are as rows. -/
theorem flatMap_padded_lt (hw : 0 < w) {ns ms : List Nat} (h : ns < ms)
    (hlength : ns.length = ms.length) (hms : ∀ m ∈ ms, m < 10 ^ w) :
    ns.flatMap (padded w) < ms.flatMap (padded w) := by
  induction ns generalizing ms with
  | nil =>
    rw [List.eq_nil_of_length_eq_zero hlength.symm] at h
    exact absurd h (List.lt_irrefl [])
  | cons n ns ih =>
    obtain _ | ⟨m, ms⟩ := ms
    · exact absurd h (List.not_lt_nil (n :: ns))
    · rw [List.forall_mem_cons] at hms
      rw [List.flatMap_cons, List.flatMap_cons]
      rcases List.cons_lt_cons_iff.mp h with hfirst | ⟨heq, hrest⟩
      · refine append_lt_append (padded_lt_padded hw hfirst hms.1) ?_ _ _
        rw [length_padded hw (hfirst.trans hms.1), length_padded hw hms.1]
      · rw [heq]
        exact append_lt_append_left _ (ih hrest (Nat.succ.inj hlength) hms.2)

end Decimal

end SchemaEvolution
