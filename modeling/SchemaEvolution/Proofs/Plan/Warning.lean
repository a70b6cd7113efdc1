import SchemaEvolution.Plan.Warning
import SchemaEvolution.Proofs.Statement.Decoding

/-!
# Which changes are warned about

The warnings about a plan are the flaws of its changes with their places
(`Plan.flawed_mem_warnings`), and a warning can be told to be about a place by the words it begins
with (`Warning.exists_message_eq_iff`). A change has a flaw if a name or a list in it is empty or
its key lacks a column, but its constraints are not looked at (`Change.flaws_eq_nil`).
-/

namespace SchemaEvolution

/-! ## Parts of a change -/

namespace Change

/-- The constraints that a change defines. -/
def constraints : Change → List UniqueConstraint
  | createTable t => t.constraints
  | _ => []

/-- The change with no constraints in its table. -/
def withoutConstraints : Change → Change
  | createTable t => createTable { t with constraints := [] }
  | c => c

/-- The lengths of the lists that always stand between parentheses. The list for a composite key
does so only if it has a column. -/
def listLengths : Change → List Nat
  | createTable t => t.columns.length :: t.constraints.map fun c => c.columns.length
  | addColumn _ _ => []
  | insertRow _ values => [values.length]

/-- Whether a name or a list in the statements of a change is empty. -/
def HasEmptyPart (c : Change) : Prop :=
  "" ∈ c.forward.names ∨ 0 ∈ c.listLengths

instance (c : Change) : Decidable c.HasEmptyPart :=
  inferInstanceAs (Decidable (_ ∨ _))

/-- Whether the key of a table lacks one of its columns. -/
def LacksKeyColumn : Change → Prop
  | createTable t => ∃ k ∈ t.key, k ∉ t.columns.map (·.name)
  | _ => False

theorem names_forward (c : Change) :
    c.forward.names = c.withoutConstraints.forward.names ++
      c.constraints.flatMap UniqueConstraint.names := by
  cases c <;> simp [forward, Statement.names, Table.names, withoutConstraints, constraints]

theorem listLengths_eq (c : Change) :
    c.listLengths = c.withoutConstraints.listLengths ++
      c.constraints.map fun k => k.columns.length := by
  cases c <;> simp [listLengths, withoutConstraints, constraints]

/-- What is empty in a change is empty in one of its constraints or elsewhere. -/
theorem hasEmptyPart_iff (c : Change) :
    c.HasEmptyPart ↔ c.withoutConstraints.HasEmptyPart ∨
      ∃ k ∈ c.constraints, "" ∈ k.names ∨ k.columns = [] := by
  rw [HasEmptyPart, names_forward, listLengths_eq, List.mem_append, List.mem_append,
    List.mem_flatMap, List.mem_map]
  simp only [List.length_eq_zero_iff, HasEmptyPart]
  constructor
  · rintro ((hname | ⟨k, hk, hname⟩) | hlist | ⟨k, hk, hlist⟩)
    · exact .inl (.inl hname)
    · exact .inr ⟨k, hk, .inl hname⟩
    · exact .inl (.inr hlist)
    · exact .inr ⟨k, hk, .inr hlist⟩
  · rintro ((hname | hlist) | ⟨k, hk, hname | hlist⟩)
    · exact .inl (.inl hname)
    · exact .inr (.inl hlist)
    · exact .inl (.inr ⟨k, hk, hname⟩)
    · exact .inr (.inr ⟨k, hk, hlist⟩)

end Change

/-! ## Flaws -/

@[simp] theorem Flaw.when_eq_nil {present : Bool} {flaw : Flaw} :
    when present flaw = [] ↔ present = false := by
  cases present with
  | false => exact ⟨fun _ => rfl, fun _ => rfl⟩
  | true => exact ⟨nofun, nofun⟩

theorem ForeignKey.isIncomplete_eq_false {r : ForeignKey} :
    r.isIncomplete = false ↔ "" ∉ r.names := by
  rw [isIncomplete, names, Bool.or_eq_false_iff, String.isEmpty_eq_false_iff,
    String.isEmpty_eq_false_iff, List.mem_cons, List.mem_singleton, not_or]
  exact and_congr ne_comm ne_comm

theorem Column.flaws_eq_nil {c : Column} : c.flaws = [] ↔ "" ∉ c.names := by
  rw [flaws, names, List.append_eq_nil_iff, Flaw.when_eq_nil, Flaw.when_eq_nil, List.mem_cons,
    not_or]
  refine and_congr ?_ ?_
  · rw [String.isEmpty_eq_false_iff, ne_comm]
  · cases c.options.references with
    | none => simp
    | some r => exact ForeignKey.isIncomplete_eq_false

/-- A table has no flaw if its name, its columns and its key are in order. -/
theorem Table.flaws_eq_nil {t : Table} :
    t.flaws = [] ↔ t.name ≠ "" ∧ t.columns ≠ [] ∧ (∀ c ∈ t.columns, "" ∉ c.names) ∧
      ∀ k ∈ t.key, k ∈ t.columns.map (·.name) := by
  simp only [flaws, List.append_eq_nil_iff, List.flatMap_eq_nil_iff, Flaw.when_eq_nil,
    Column.flaws_eq_nil, String.isEmpty_eq_false_iff, List.isEmpty_eq_false_iff, and_assoc]
  refine and_congr_right fun _ => and_congr_right fun _ => and_congr_right fun _ => ?_
  refine forall₂_congr fun k _ => ?_
  rw [Bool.not_eq_false', List.any_eq_true, List.mem_map]
  simp only [beq_iff_eq]

theorem Change.hasEmptyPart_createTable {t : Table} :
    (createTable t).withoutConstraints.HasEmptyPart ↔
      t.name = "" ∨ (∃ c ∈ t.columns, "" ∈ c.names) ∨ "" ∈ t.key ∨ t.columns = [] := by
  show "" ∈ t.name :: (t.columns.flatMap Column.names ++ t.key ++ []) ∨ 0 ∈ [t.columns.length] ↔ _
  rw [List.append_nil, List.mem_cons, List.mem_append, List.mem_flatMap, List.mem_singleton,
    eq_comm, eq_comm (a := 0), List.length_eq_zero_iff]
  simp only [or_assoc]

/-- A change has no flaw if nothing in it is empty outside its constraints and no column of its key
is missing. -/
theorem Change.flaws_eq_nil {c : Change} :
    c.flaws = [] ↔ ¬ c.withoutConstraints.HasEmptyPart ∧ ¬ c.LacksKeyColumn := by
  cases c with
  | createTable t =>
    show t.flaws = [] ↔ _
    rw [Table.flaws_eq_nil, hasEmptyPart_createTable]
    constructor
    · rintro ⟨hname, hcolumns, hnames, hkey⟩
      constructor
      · rintro (h | ⟨c, hc, h⟩ | h | h)
        · exact hname h
        · exact hnames c hc h
        · -- an empty column of the key is one of the table, whose name is then empty
          obtain ⟨c, hc, hempty⟩ := List.mem_map.mp (hkey "" h)
          apply hnames c hc
          rw [Column.names, hempty]
          exact List.mem_cons_self
        · exact hcolumns h
      · rintro ⟨k, hk, hmissing⟩
        exact hmissing (hkey k hk)
    · rintro ⟨hempty, hkey⟩
      refine ⟨fun h => hempty (.inl h), fun h => hempty (.inr (.inr (.inr h))),
        fun c hc h => hempty (.inr (.inl ⟨c, hc, h⟩)), fun k hk => ?_⟩
      apply Classical.byContradiction
      intro hmissing
      exact hkey ⟨k, hk, hmissing⟩
  | addColumn t c =>
    show Flaw.when t.isEmpty .emptyTableName ++ c.flaws = [] ↔
      ¬ ("" ∈ t :: c.names ∨ 0 ∈ []) ∧ ¬ False
    rw [List.append_eq_nil_iff, Flaw.when_eq_nil, String.isEmpty_eq_false_iff, Column.flaws_eq_nil,
      List.mem_cons]
    simp [eq_comm]
  | insertRow t values =>
    show Flaw.when t.isEmpty .emptyTableName ++ Flaw.when values.isEmpty .noValues = [] ↔
      ¬ ("" ∈ [t] ∨ 0 ∈ [values.length]) ∧ ¬ False
    rw [List.append_eq_nil_iff, Flaw.when_eq_nil, Flaw.when_eq_nil, String.isEmpty_eq_false_iff,
      List.isEmpty_eq_false_iff]
    simp [eq_comm]

/-! ## Warnings -/

/-- The words that a warning about a place begins with. -/
def Warning.opening (i : Nat) : String :=
  s!"change #{i}:"

theorem Warning.toList_opening (i : Nat) (rest : String) :
    (opening i ++ rest).toList = "change #".toList ++ (i.repr.toList ++ ':' :: rest.toList) := by
  show ("change #" ++ i.repr ++ ":" ++ rest).toList = _
  simp only [String.toList_append, List.append_assoc]
  rfl

/-- A place can be told from the words for it. -/
theorem Warning.opening_inj {i j : Nat} {rest rest' : String}
    (h : opening i ++ rest = opening j ++ rest') : i = j := by
  have hlist := congrArg String.toList h
  rw [toList_opening, toList_opening] at hlist
  have hnumber := List.append_cancel_left hlist
  have htake (n : Nat) (s : List Char) :
      (n.repr.toList ++ ':' :: s).takeWhile Char.isDigit = n.repr.toList := by
    apply Text.takeWhile_append
    · intro c hc
      rw [Nat.toList_repr] at hc
      exact Nat.isDigit_of_mem_toDigits (by decide) (by decide) hc
    · exact Text.stops_cons.mpr rfl
  have hdigits := congrArg (List.takeWhile Char.isDigit) hnumber
  rw [htake, htake, Nat.toList_repr, Nat.toList_repr] at hdigits
  -- a number is read back from its digits
  have hread (n : Nat) : Nat.ofDigitChars 10 (Nat.toDigits 10 n) 0 = n :=
    Nat.ofDigitChars_toDigits (by decide) (by decide)
  rw [← hread i, hdigits, hread]

theorem Warning.message_flawed (i : Nat) (flaw : Flaw) :
    (flawed i flaw).message = opening i ++ (" " ++ flaw.message) := by
  apply String.toList_inj.mp
  rw [toList_opening]
  show ("change #" ++ i.repr ++ ": " ++ flaw.message).toList = _
  simp only [String.toList_append, List.append_assoc]
  rfl

/-- A warning begins with the words for a place if it is about the change there. -/
theorem Warning.exists_message_eq_iff {w : Warning} {i : Nat} :
    (∃ rest, w.message = opening i ++ rest) ↔ ∃ flaw, w = .flawed i flaw := by
  constructor
  · rintro ⟨rest, h⟩
    cases w with
    | noChanges =>
      have hlist := congrArg String.toList h
      rw [toList_opening] at hlist
      cases hlist
    | flawed j flaw =>
      rw [message_flawed] at h
      rw [opening_inj h]
      exact ⟨flaw, rfl⟩
  · rintro ⟨flaw, rfl⟩
    exact ⟨_, message_flawed i flaw⟩

/-- The warnings about a place are the flaws of the change there. -/
theorem Plan.flawed_mem_warnings {p : Plan} {i : Nat} {flaw : Flaw} :
    .flawed i flaw ∈ p.warnings ↔ ∃ c, p.changes[i]? = some c ∧ flaw ∈ c.flaws := by
  rw [warnings]
  split
  · next hempty =>
    rw [List.isEmpty_iff.mp hempty]
    simp
  · rw [List.mem_flatMap]
    constructor
    · rintro ⟨⟨c, j⟩, hc, hmem⟩
      obtain ⟨flaw', hflaw, heq⟩ := List.mem_map.mp hmem
      cases heq
      exact ⟨c, List.mem_zipIdx_iff_getElem?.mp hc, hflaw⟩
    · rintro ⟨c, hc, hflaw⟩
      exact ⟨(c, i), List.mem_zipIdx_iff_getElem?.mpr hc, List.mem_map.mpr ⟨flaw, hflaw, rfl⟩⟩

/-- A change is warned about if and only if something is empty in it outside its constraints, or its
key lacks a column. What is empty in a change may also be so in a constraint, and that is passed
over. -/
theorem Plan.warned_iff {p : Plan} {i : Nat} {c : Change} (h : p.changes[i]? = some c) :
    ((∃ w ∈ p.warnings, ∃ rest, w.message = s!"change #{i}:" ++ rest) ↔
      c.withoutConstraints.HasEmptyPart ∨ c.LacksKeyColumn) ∧
    (c.HasEmptyPart ↔ c.withoutConstraints.HasEmptyPart ∨
      ∃ k ∈ c.constraints, "" ∈ k.names ∨ k.columns = []) := by
  refine ⟨?_, Change.hasEmptyPart_iff c⟩
  have hflaws : c.flaws ≠ [] ↔ c.withoutConstraints.HasEmptyPart ∨ c.LacksKeyColumn := by
    rw [Ne, Change.flaws_eq_nil, ← not_or, Classical.not_not]
  rw [← hflaws]
  constructor
  · rintro ⟨w, hw, rest, hmessage⟩
    obtain ⟨flaw, rfl⟩ := Warning.exists_message_eq_iff.mp ⟨rest, hmessage⟩
    obtain ⟨c', hc', hflaw⟩ := flawed_mem_warnings.mp hw
    rw [h] at hc'
    cases hc'
    exact List.ne_nil_of_mem hflaw
  · intro hne
    obtain ⟨flaw, hflaw⟩ := List.exists_mem_of_ne_nil _ hne
    exact ⟨.flawed i flaw, flawed_mem_warnings.mpr ⟨c, h, hflaw⟩, _, Warning.message_flawed i flaw⟩

/-- An empty column in the key of a table is warned about. -/
theorem Plan.warned_about_empty_key_column :
    let c : Change := .createTable { name := "t", columns := [.ordinary "a" .date], key := [""] }
    let p : Plan := { changes := [.insertRow "t" ["1"], c] }
    ∃ w ∈ p.warnings, ∃ rest, w.message = "change #1:" ++ rest := by
  intro c p
  have h : p.changes[1]? = some c := rfl
  exact (warned_iff h).1.mpr (.inl (by decide))

/-- A table with a constraint that has no name is not warned about. -/
theorem Plan.not_warned_about_every_empty_part :
    ¬ ∀ (p : Plan) (i : Nat) (c : Change), p.changes[i]? = some c → c.HasEmptyPart →
      ∃ w ∈ p.warnings, ∃ rest, w.message = s!"change #{i}:" ++ rest := by
  intro h
  let c : Change := .createTable
    { name := "t", columns := [.ordinary "a" .date], constraints := [⟨"", ["a"]⟩] }
  let p : Plan := { changes := [c] }
  obtain ⟨w, hw, -⟩ := h p 0 c rfl (by decide)
  have hnone : p.warnings = [] := by decide
  rw [hnone] at hw
  exact List.not_mem_nil hw

end SchemaEvolution
