import Mathlib.Data.List.Nodup
import Mathlib.Logic.Function.Basic
import SchemaEvolution.Change

/-!
# What statements do to a schema

A schema says which tables there are and what their columns are called. `Statement.effect` is what a
statement makes of a schema, if it does not fail. The revert statement of a change takes its effect
back (`Change.effect_revert`), and a change that has none leaves the schema as it is
(`Change.eq_of_revert_eq_none`).
-/

namespace SchemaEvolution

/-! ## The columns of a table -/

/-- Names of columns in order, each of them once. -/
structure ColumnList where
  names : List String
  nodup : names.Nodup

namespace ColumnList

/-- The columns with the given names, if those are distinct. -/
def ofNames? (names : List String) : Option ColumnList :=
  if h : names.Nodup then some ⟨names, h⟩ else none

/-- The columns with a new one at the end. -/
def append? (cs : ColumnList) (c : String) : Option ColumnList :=
  if h : c ∈ cs.names then none
  else some ⟨cs.names ++ [c], by rw [← List.concat_eq_append]; exact cs.nodup.concat h⟩

/-- The columns without one that is there. -/
def remove? (cs : ColumnList) (c : String) : Option ColumnList :=
  if c ∈ cs.names then some ⟨cs.names.erase c, cs.nodup.erase c⟩ else none

theorem remove_of_append {cs ds : ColumnList} {c : String} (h : cs.append? c = some ds) :
    ds.remove? c = some cs := by
  by_cases hc : c ∈ cs.names
  · rw [append?, dif_pos hc] at h
    exact absurd h.symm (Option.some_ne_none ds)
  · rw [append?, dif_neg hc] at h
    obtain rfl := Option.some.inj h
    have hmem : c ∈ cs.names ++ [c] := by simp
    have herase : (cs.names ++ [c]).erase c = cs.names := by
      rw [List.erase_append_right _ hc, List.erase_cons_head, List.append_nil]
    rw [remove?, if_pos hmem]
    simp only [herase]

end ColumnList

/-! ## Effects -/

/-- The tables of a database and the columns of each. -/
abbrev Schema := String → Option ColumnList

/-- The schema that a statement leaves behind, if it does not fail. -/
def Statement.effect (s : Statement) (σ : Schema) : Option Schema :=
  match s with
  | .createTable t =>
    match σ t.name with
    | some _ => none
    | none => do
      let columns ← ColumnList.ofNames? (t.columns.map (·.name))
      return Function.update σ t.name (some columns)
  | .dropTable t => do
    let _ ← σ t
    return Function.update σ t none
  | .addColumn t c => do
    let columns ← σ t
    let columns ← columns.append? c.name
    return Function.update σ t (some columns)
  | .dropColumn t c => do
    let columns ← σ t
    let columns ← columns.remove? c
    return Function.update σ t (some columns)
  | .insert _ _ => some σ

variable {σ σ' : Schema}

namespace Statement

/-- A table that was created can be dropped, and then everything is as before. -/
theorem effect_dropTable {t : Table} (h : (createTable t).effect σ = some σ') :
    (dropTable t.name).effect σ' = some σ := by
  cases habsent : σ t.name with
  | some columns =>
    rw [effect, habsent] at h
    exact absurd h.symm (Option.some_ne_none σ')
  | none =>
    simp only [effect, habsent, Option.bind_eq_bind, Option.bind_eq_some_iff, Option.pure_def,
      Option.some.injEq] at h
    obtain ⟨columns, -, rfl⟩ := h
    have hrestore : Function.update σ t.name none = σ := by
      rw [← habsent, Function.update_eq_self]
    simp only [effect, Function.update_self, Function.update_idem, Option.bind_eq_bind,
      Option.bind_some, Option.pure_def, hrestore]

/-- A column that was added can be dropped, and then everything is as before. -/
theorem effect_dropColumn {t : String} {c : Column} (h : (addColumn t c).effect σ = some σ') :
    (dropColumn t c.name).effect σ' = some σ := by
  simp only [effect, Option.bind_eq_bind, Option.bind_eq_some_iff, Option.pure_def,
    Option.some.injEq] at h
  obtain ⟨columns, htable, extended, happend, rfl⟩ := h
  have hremove := ColumnList.remove_of_append happend
  have hrestore : Function.update σ t (some columns) = σ := by
    rw [← htable, Function.update_eq_self]
  simp only [effect, Function.update_self, Function.update_idem, Option.bind_eq_bind,
    Option.bind_some, Option.pure_def, hremove, hrestore]

end Statement

namespace Change

theorem effect_revert {c : Change} {s : Statement} (hs : c.revert? = some s)
    (h : c.forward.effect σ = some σ') : s.effect σ' = some σ := by
  cases c with
  | createTable t =>
    obtain rfl := Option.some.inj hs
    exact Statement.effect_dropTable h
  | addColumn t c =>
    obtain rfl := Option.some.inj hs
    exact Statement.effect_dropColumn h
  | insertRow t values => exact absurd hs.symm (Option.some_ne_none s)

theorem eq_of_revert_eq_none {c : Change} (hs : c.revert? = none)
    (h : c.forward.effect σ = some σ') : σ' = σ := by
  cases c with
  | createTable t => exact absurd hs (Option.some_ne_none _)
  | addColumn t c => exact absurd hs (Option.some_ne_none _)
  | insertRow t values => exact (Option.some.inj h).symm

end Change

end SchemaEvolution
