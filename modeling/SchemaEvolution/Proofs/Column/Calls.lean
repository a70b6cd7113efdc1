import Mathlib.Data.List.Induction
import SchemaEvolution.Document.Column
import SchemaEvolution.Proofs.Column.Construction

/-!
# What calls on a column amount to

However often a column is asked for options, and in whichever order, the outcome is decided by which
flags were asked for at all and by the last reference (`Column.after_ordinary`). So two lists of
calls that ask for the same, with one reference at most, make the same column (`Column.after_eq`).
-/

namespace SchemaEvolution.Column

/-! ## Calls one by one -/

/-- The reference that a call asks for. -/
def Call.reference? : Call → Option ForeignKey
  | .referencing r => some r
  | _ => none

/-- Whether options are such as if a call had been made. -/
def Options.Asks (o : Options) : Call → Prop
  | .notNull => o.nullable = false
  | .unique => o.unique = true
  | .referencing r => o.references = some r

/-- Options are the same if they are such as if the same calls had been made. -/
theorem Options.eq_of_asks {o o' : Options} (h : ∀ call, o.Asks call ↔ o'.Asks call) : o = o' := by
  have hnullable : o.nullable = o'.nullable := by
    have hcall : o.nullable = false ↔ o'.nullable = false := h .notNull
    cases hn : o.nullable with
    | false => exact (hcall.mp hn).symm
    | true =>
      rw [hn] at hcall
      simpa using hcall
  have hunique : o.unique = o'.unique := Bool.eq_iff_iff.mpr (h .unique)
  have hreferences : o.references = o'.references := Option.ext fun r => h (.referencing r)
  obtain ⟨nullable, unique, references⟩ := o
  simp only at hnullable hunique hreferences
  rw [hnullable, hunique, hreferences]

/-! ## Calls one after the other -/

/-- The options that calls ask for: the flags that some call asks for, and the last reference. -/
def Options.ofCalls (calls : List Call) : Options where
  nullable := .notNull ∉ calls
  unique := .unique ∈ calls
  references := (calls.filterMap Call.reference?).getLast?

theorem Raw.after_ordinary (name : String) (type : ColumnType) (calls : List Call) :
    (Raw.ordinary name type).after calls =
      { Raw.ordinary name type with options := Options.ofCalls calls } := by
  induction calls using List.reverseRecOn with
  | nil => rfl
  | append_singleton calls call ih =>
    have hlast : (Raw.ordinary name type).after (calls ++ [call])
        = ((Raw.ordinary name type).after calls).ask call := by
      rw [after, after, List.foldl_append]
      rfl
    have hask : ∀ o, Raw.ask { Raw.ordinary name type with options := o } call
        = { Raw.ordinary name type with options := call.change o } := by
      intro o
      rw [ask_eq_modify]
      rfl
    rw [hlast, ih, hask]
    cases call <;> simp [Call.change, Options.ofCalls, Call.reference?]

/-- An ordinary column has the options that were asked for, and its name and type. -/
theorem after_ordinary (name : String) (type : ColumnType) (calls : List Call) :
    (ordinary name type).after calls = withOptions name type (Options.ofCalls calls) :=
  toRaw_inj ((toRaw_after _ calls).trans (Raw.after_ordinary name type calls))

/-- What calls ask for has been asked for by one of them, if they ask for one reference at most. -/
theorem Options.asks_ofCalls {calls : List Call}
    (hone : ∀ r r', .referencing r ∈ calls → .referencing r' ∈ calls → r = r') (call : Call) :
    (ofCalls calls).Asks call ↔ call ∈ calls := by
  cases call with
  | notNull => simp [Asks, ofCalls]
  | unique => simp [Asks, ofCalls]
  | referencing r =>
    have hmem (r : ForeignKey) :
        r ∈ calls.filterMap Call.reference? ↔ Call.referencing r ∈ calls := by
      rw [List.mem_filterMap]
      refine ⟨?_, fun h => ⟨_, h, rfl⟩⟩
      rintro ⟨call, hcall, hreference⟩
      cases call with
      | referencing r' => rwa [← Option.some.inj hreference]
      | _ => cases hreference
    show (calls.filterMap Call.reference?).getLast? = some r ↔ _
    constructor
    · intro hlast
      exact (hmem r).mp (List.mem_of_getLast? hlast)
    · intro hr
      -- there is a last reference, and it is the one that was asked for
      cases hlast : (calls.filterMap Call.reference?).getLast? with
      | none =>
        rw [List.getLast?_eq_none_iff] at hlast
        have hempty := (hmem r).mpr hr
        rw [hlast] at hempty
        exact absurd hempty List.not_mem_nil
      | some r' =>
        have hr' := (hmem r').mp (List.mem_of_getLast? hlast)
        rw [hone r' r hr' hr]

/-- Options are what is asked for by calls that are the ones that the options ask for. -/
theorem Options.ofCalls_eq {calls : List Call} {o : Options}
    (h : ∀ call, call ∈ calls ↔ o.Asks call) : ofCalls calls = o := by
  have hone : ∀ r r', Call.referencing r ∈ calls → Call.referencing r' ∈ calls → r = r' := by
    intro r r' hr hr'
    have hr : o.references = some r := (h _).mp hr
    exact Option.some.inj (hr.symm.trans ((h _).mp hr'))
  exact eq_of_asks fun call => (asks_ofCalls hone call).trans (h call)

/-- Calls make a column with given options if they are the ones that the options ask for. -/
theorem after_eq {calls : List Call} {o : Options} (h : ∀ call, call ∈ calls ↔ o.Asks call)
    (name : String) (type : ColumnType) :
    (ordinary name type).after calls = withOptions name type o := by
  rw [after_ordinary, Options.ofCalls_eq h]

/-! ## Calls for options -/

/-- Calls that ask for options, each once. -/
def Options.calls (o : Options) : List Call :=
  (if o.nullable then [] else [.notNull]) ++
  (if o.unique then [.unique] else []) ++
  (o.references.map Call.referencing).toList

theorem Options.mem_calls (o : Options) (call : Call) : call ∈ o.calls ↔ o.Asks call := by
  obtain ⟨nullable, unique, references⟩ := o
  cases call <;> cases nullable <;> cases unique <;> cases references <;>
    simp [calls, Asks, eq_comm]

/-! ## Conflicts with a key -/

/-- The option that a call asks for, as one that a primary key cannot have. -/
def Call.conflict : Call → Conflict
  | .notNull => .nullable
  | .unique => .unique
  | .referencing _ => .references

/-- The place of an option among those that a primary key cannot have. -/
def Conflict.rank : Conflict → Nat
  | .nullable => 0
  | .unique => 1
  | .references => 2

/-- The first option that is asked for is the one that a key is refused for. -/
theorem Options.conflict?_eq_some {o : Options} {call : Call} (hcall : o.Asks call)
    (hfirst : ∀ other, o.Asks other → call.conflict.rank ≤ other.conflict.rank) :
    o.conflict? = some call.conflict := by
  obtain ⟨nullable, unique, references⟩ := o
  have hnullable : nullable = false → call.conflict.rank ≤ 0 := hfirst .notNull
  have hunique : unique = true → call.conflict.rank ≤ 1 := hfirst .unique
  cases call with
  | notNull =>
    have hasked : nullable = false := hcall
    rw [hasked]
    rfl
  | unique =>
    have hasked : unique = true := hcall
    cases nullable with
    | false =>
      have hrank : 1 ≤ 0 := hnullable rfl
      omega
    | true =>
      rw [hasked]
      rfl
  | referencing r =>
    have hasked : references = some r := hcall
    cases nullable with
    | false =>
      have hrank : 2 ≤ 0 := hnullable rfl
      omega
    | true =>
      cases unique with
      | true =>
        have hrank : 2 ≤ 1 := hunique rfl
        omega
      | false =>
        rw [hasked]
        rfl

theorem Options.eq_default {o : Options} (h : ∀ call, ¬ o.Asks call) : o = {} := by
  refine Options.eq_of_asks fun call => ⟨fun hcall => absurd hcall (h call), fun hcall => ?_⟩
  cases call <;> cases hcall

/-- If anything is asked for, something is asked for first. -/
theorem Options.exists_first {o : Options} {call : Call} (hcall : o.Asks call) :
    ∃ first, o.Asks first ∧ ∀ other, o.Asks other → first.conflict.rank ≤ other.conflict.rank := by
  by_cases hnullable : o.nullable = false
  · exact ⟨.notNull, hnullable, fun other _ => Nat.zero_le _⟩
  by_cases hunique : o.unique = true
  · refine ⟨.unique, hunique, fun other hother => ?_⟩
    cases other with
    | notNull => exact absurd hother hnullable
    | unique => exact Nat.le_refl _
    | referencing r => exact Nat.le_succ 1
  · -- neither flag is asked for, so the call is for a reference
    cases call with
    | notNull => exact absurd hcall hnullable
    | unique => exact absurd hcall hunique
    | referencing r =>
      refine ⟨.referencing r, hcall, fun other hother => ?_⟩
      cases other with
      | notNull => exact absurd hother hnullable
      | unique => exact absurd hother hunique
      | referencing r' => exact Nat.le_refl _

end SchemaEvolution.Column
