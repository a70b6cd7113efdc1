import SchemaEvolution.Proofs.Document.ColumnPlace
import SchemaEvolution.Proofs.Plan.Composition
import SchemaEvolution.Proofs.Plan.Warning

/-!
# Each flaw is warned about once

A change is looked at check by check (`Change.checks`), and its flaws are the checks that fail
(`Change.flaws_eq`). What a flaw is does not depend on the checks: `Change.HasFlaw` says which flaw a
change has at which spot. Every spot has a path, and paths grow from check to check and from change to
change (`Plan.pairwise_path_findings`), so a plan has one warning for each of its flaws, in reading
order (`Plan.warnings_exact`).
-/

namespace SchemaEvolution

/-! ## Spots -/

/-- What a change is looked at for. -/
inductive Spot where
  | tableName
  /-- The columns of a table or the values of a row, as a list. -/
  | list
  | columnName (column : Nat)
  | reference (column : Nat)
  | keyColumn (item : Nat)
deriving DecidableEq

/-- Where a spot is in a change. A table is looked at from its name to its key, and its columns one
by one. -/
def Spot.path : Spot → List Nat
  | tableName => [0]
  | list => [1]
  | columnName i => [2, i, 0]
  | reference i => [2, i, 1]
  | keyColumn i => [3, i]

/-- The paths below the items of a list, under the places of the items. -/
def underPlaces (below : List (List (List Nat))) : List (List Nat) :=
  below.zipIdx.flatMap fun x => x.1.map (x.2 :: ·)

/-- Paths are in order if they are so below each item. -/
theorem pairwise_underPlaces {below : List (List (List Nat))}
    (h : ∀ paths ∈ below, paths.Pairwise (· < ·)) : (underPlaces below).Pairwise (· < ·) := by
  have hplaces : (below.zipIdx.map Prod.snd).Pairwise (· < ·) := by
    rw [List.zipIdx_map_snd]
    exact List.pairwise_lt_range' 1
  rw [underPlaces, List.pairwise_flatMap]
  refine ⟨fun x hx => ?_, (List.pairwise_map.mp hplaces).imp fun hlt path hpath path' hpath' => ?_⟩
  · rw [List.pairwise_map]
    exact (h x.1 (List.fst_mem_of_mem_zipIdx hx)).imp fun hlt =>
      List.cons_lt_cons_iff.mpr (.inr ⟨rfl, hlt⟩)
  · obtain ⟨_, -, rfl⟩ := List.mem_map.mp hpath
    obtain ⟨_, -, rfl⟩ := List.mem_map.mp hpath'
    exact List.cons_lt_cons_iff.mpr (.inl hlt)

theorem flatMap_zipIdx {α β : Type} (f : α → List β) (l : List α) :
    (l.zipIdx.flatMap fun x => f x.1) = l.flatMap f := by
  rw [← List.flatMap_map Prod.fst f, List.zipIdx_map_fst]

/-! ## Checks -/

/-- A look at a spot: whether it fails, and the flaw that it then finds. -/
structure Check where
  spot : Spot
  fails : Bool
  flaw : Flaw
deriving DecidableEq

/-- The checks of the column at a place. -/
def Column.checks (c : Column) (place : Nat) : List Check :=
  [⟨.columnName place, c.name.isEmpty, .emptyColumnName⟩,
   ⟨.reference place, c.options.references.any ForeignKey.isIncomplete, .emptyReference c.name⟩]

namespace Change

/-- The name of the table that a change is about. -/
def tableName : Change → String
  | createTable t => t.name
  | addColumn t _ => t
  | insertRow t _ => t

/-- The composite key that a change defines. -/
def key : Change → List String
  | createTable t => t.key
  | _ => []

/-- The check of the list that a statement needs. A column is added without one. -/
def listChecks : Change → List Check
  | createTable t => [⟨.list, t.columns.isEmpty, .noColumns t.name⟩]
  | addColumn _ _ => []
  | insertRow _ values => [⟨.list, values.isEmpty, .noValues⟩]

/-- The checks of the columns, one column after the other. -/
def columnChecks (c : Change) : List Check :=
  c.columns.zipIdx.flatMap fun (column, i) => column.checks i

/-- The checks of the items of a key. -/
def keyChecks (c : Change) : List Check :=
  c.key.zipIdx.map fun (k, i) =>
    ⟨.keyColumn i, !c.columns.any (·.name == k), .unknownKeyColumn k c.tableName⟩

/-- All checks of a change in their order. -/
def checks (c : Change) : List Check :=
  ⟨.tableName, c.tableName.isEmpty, .emptyTableName⟩ :: c.listChecks ++ c.columnChecks ++
    c.keyChecks

end Change

/-! ## The flaws are the checks that fail -/

/-- What checks find. -/
def Check.found (checks : List Check) : List Flaw :=
  (checks.filter Check.fails).map Check.flaw

@[simp] theorem Check.found_append (checks checks' : List Check) :
    found (checks ++ checks') = found checks ++ found checks' := by
  rw [found, List.filter_append, List.map_append]
  rfl

theorem Check.found_singleton (c : Check) : found [c] = Flaw.when c.fails c.flaw := by
  rcases c with ⟨spot, fails, flaw⟩
  cases fails <;> rfl

theorem Check.found_flatMap {α : Type} (f : α → List Check) (l : List α) :
    found (l.flatMap f) = l.flatMap fun a => found (f a) := by
  rw [found, List.filter_flatMap, List.map_flatMap]
  rfl

theorem Column.flaws_eq (c : Column) (place : Nat) : c.flaws = Check.found (c.checks place) := by
  rw [checks, ← List.singleton_append, Check.found_append, Check.found_singleton,
    Check.found_singleton]
  rfl

theorem Change.found_columnChecks (c : Change) :
    Check.found c.columnChecks = c.columns.flatMap Column.flaws := by
  rw [columnChecks, Check.found_flatMap]
  simp only [← Column.flaws_eq]
  exact flatMap_zipIdx Column.flaws c.columns

theorem Change.found_keyChecks (c : Change) :
    Check.found c.keyChecks = c.key.flatMap fun k =>
      Flaw.when (!c.columns.any (·.name == k)) (.unknownKeyColumn k c.tableName) := by
  rw [keyChecks, List.map_eq_flatMap, Check.found_flatMap]
  simp only [Check.found_singleton]
  exact flatMap_zipIdx (fun k =>
    Flaw.when (!c.columns.any (·.name == k)) (.unknownKeyColumn k c.tableName)) c.key

/-- The flaws of a change are what its checks find. -/
theorem Change.flaws_eq (c : Change) : c.flaws = Check.found c.checks := by
  rw [checks, ← List.singleton_append, Check.found_append, Check.found_append, Check.found_append,
    Check.found_singleton, found_columnChecks, found_keyChecks]
  cases c with
  | createTable t =>
    rw [listChecks, Check.found_singleton]
    rfl
  | addColumn t c =>
    show Flaw.when t.isEmpty .emptyTableName ++ c.flaws =
      Flaw.when t.isEmpty .emptyTableName ++ [] ++ (c.flaws ++ []) ++ []
    simp only [List.append_nil]
  | insertRow t values =>
    show Flaw.when t.isEmpty .emptyTableName ++ Flaw.when values.isEmpty .noValues =
      Flaw.when t.isEmpty .emptyTableName ++ Check.found [_] ++ [] ++ []
    rw [Check.found_singleton, List.append_nil, List.append_nil]

/-! ## What the checks look for -/

/-- Which flaw a change has at a spot. -/
inductive Change.HasFlaw : Change → Spot → Flaw → Prop
  | tableName {c : Change} (h : c.tableName = "") : HasFlaw c .tableName .emptyTableName
  | columns {t : Table} (h : t.columns = []) : HasFlaw (createTable t) .list (.noColumns t.name)
  | values {table : String} : HasFlaw (insertRow table []) .list .noValues
  | columnName {c : Change} {i : Nat} {column : Column} (hcolumn : c.columns[i]? = some column)
      (h : column.name = "") : HasFlaw c (.columnName i) .emptyColumnName
  /-- A reference that lacks both of its parts is one flaw. -/
  | reference {c : Change} {i : Nat} {column : Column} {r : ForeignKey}
      (hcolumn : c.columns[i]? = some column) (hr : column.options.references = some r)
      (h : r.table = "" ∨ r.column = "") : HasFlaw c (.reference i) (.emptyReference column.name)
  | keyColumn {t : Table} {i : Nat} {k : String} (hk : t.key[i]? = some k)
      (h : ∀ column ∈ t.columns, column.name ≠ k) :
      HasFlaw (createTable t) (.keyColumn i) (.unknownKeyColumn k t.name)

namespace Change

variable {c : Change} {k : Check} {spot : Spot} {flaw : Flaw}

theorem hasFlaw_of_mem_listChecks (hk : k ∈ c.listChecks) (hfails : k.fails = true) :
    c.HasFlaw k.spot k.flaw := by
  cases c with
  | createTable t =>
    obtain rfl := List.mem_singleton.mp hk
    exact .columns (List.isEmpty_iff.mp hfails)
  | addColumn t c => exact absurd hk List.not_mem_nil
  | insertRow t values =>
    obtain rfl := List.mem_singleton.mp hk
    obtain rfl := List.isEmpty_iff.mp hfails
    exact .values

theorem mem_columnChecks {i : Nat} {column : Column} (hcolumn : c.columns[i]? = some column)
    (hk : k ∈ column.checks i) : k ∈ c.columnChecks :=
  List.mem_flatMap.mpr ⟨(column, i), List.mem_zipIdx_iff_getElem?.mpr hcolumn, hk⟩

theorem hasFlaw_of_mem_columnChecks (hk : k ∈ c.columnChecks) (hfails : k.fails = true) :
    c.HasFlaw k.spot k.flaw := by
  obtain ⟨⟨column, i⟩, hplace, hk⟩ := List.mem_flatMap.mp hk
  have hcolumn : c.columns[i]? = some column := List.mem_zipIdx_iff_getElem?.mp hplace
  rcases List.mem_pair.mp hk with rfl | rfl
  · exact .columnName hcolumn (String.isEmpty_iff.mp hfails)
  · obtain ⟨r, hr, hincomplete⟩ := (Option.any_eq_true _ _).mp hfails
    rw [ForeignKey.isIncomplete, Bool.or_eq_true, String.isEmpty_iff, String.isEmpty_iff]
      at hincomplete
    exact .reference hcolumn hr hincomplete

theorem hasFlaw_of_mem_keyChecks (hk : k ∈ c.keyChecks) (hfails : k.fails = true) :
    c.HasFlaw k.spot k.flaw := by
  obtain ⟨⟨item, i⟩, hplace, rfl⟩ := List.mem_map.mp hk
  have hitem : c.key[i]? = some item := List.mem_zipIdx_iff_getElem?.mp hplace
  cases c with
  | createTable t =>
    refine .keyColumn hitem fun column hcolumn hname => ?_
    simp only [Bool.not_eq_true', List.any_eq_false, beq_iff_eq] at hfails
    exact hfails column hcolumn hname
  -- only a table has a key
  | _ => cases hitem

/-- A change has a flaw at a spot if and only if a check of that spot fails and finds it. -/
theorem mem_checks_iff : ⟨spot, true, flaw⟩ ∈ c.checks ↔ c.HasFlaw spot flaw := by
  constructor
  · intro h
    rw [checks, List.mem_append, List.mem_append, List.mem_cons] at h
    rcases h with ((h | h) | h) | h
    · obtain ⟨rfl, hempty, rfl⟩ := Check.mk.inj h
      exact .tableName (String.isEmpty_iff.mp hempty.symm)
    · exact hasFlaw_of_mem_listChecks h rfl
    · exact hasFlaw_of_mem_columnChecks h rfl
    · exact hasFlaw_of_mem_keyChecks h rfl
  · intro h
    -- a flaw names its spot, and with it the check that finds it
    cases h with
    | tableName h => simp [checks, h]
    | columns h => simp [checks, listChecks, h]
    | values => simp [checks, listChecks]
    | @columnName _ i column hcolumn h =>
      have hcheck : ⟨.columnName i, true, .emptyColumnName⟩ ∈ column.checks i := by
        simp [Column.checks, h]
      simp [checks, mem_columnChecks hcolumn hcheck]
    | @reference _ i column r hcolumn hr h =>
      have hincomplete : r.isIncomplete = true := by
        rw [ForeignKey.isIncomplete, Bool.or_eq_true, String.isEmpty_iff, String.isEmpty_iff]
        exact h
      have hcheck : ⟨.reference i, true, .emptyReference column.name⟩ ∈ column.checks i := by
        simp [Column.checks, hr, hincomplete]
      simp [checks, mem_columnChecks hcolumn hcheck]
    | @keyColumn t i k hk h =>
      have hmissing : (!t.columns.any (·.name == k)) = true := by simpa using h
      have hcheck : ⟨.keyColumn i, true, .unknownKeyColumn k t.name⟩ ∈ (createTable t).keyChecks := by
        refine List.mem_map.mpr ⟨(k, i), List.mem_zipIdx_iff_getElem?.mpr hk, ?_⟩
        show Check.mk _ (!t.columns.any (·.name == k)) _ = _
        rw [hmissing]
        rfl
      simp [checks, hcheck]

/-! ## The order of the checks -/

theorem map_path_columnChecks (c : Change) :
    c.columnChecks.map (·.spot.path) =
      (underPlaces (c.columns.map fun _ => [[0], [1]])).map (2 :: ·) := by
  rw [columnChecks, underPlaces, List.map_flatMap, List.map_flatMap, List.zipIdx_map,
    List.flatMap_map]
  rfl

theorem map_path_keyChecks (c : Change) :
    c.keyChecks.map (·.spot.path) = (underPlaces (c.key.map fun _ => [[]])).map (3 :: ·) := by
  rw [keyChecks, underPlaces, List.map_map, List.map_flatMap, List.zipIdx_map, List.flatMap_map,
    List.map_eq_flatMap]
  rfl

/-- The checks of a change, by what comes at the head of their paths. -/
theorem map_path_checks (c : Change) :
    c.checks.map (·.spot.path) =
      underPlaces [[[]], c.listChecks.map fun _ => [],
        underPlaces (c.columns.map fun _ => [[0], [1]]), underPlaces (c.key.map fun _ => [[]])] := by
  have hlist : c.listChecks.map (·.spot.path) = (c.listChecks.map fun _ => []).map (1 :: ·) := by
    cases c <;> rfl
  -- the four parts stand at the places 0 to 3, which are the heads of their paths
  rw [checks, List.map_append, List.map_append, List.map_cons, map_path_columnChecks,
    map_path_keyChecks, hlist]
  simp [underPlaces, Spot.path]

/-- No spot is checked twice. -/
theorem pairwise_path_checks (c : Change) : (c.checks.map (·.spot.path)).Pairwise (· < ·) := by
  have hlist : (c.listChecks.map fun _ => ([] : List Nat)).Pairwise (· < ·) := by
    cases c <;> simp [listChecks]
  have hcolumns : (underPlaces (c.columns.map fun _ => [[0], [1]])).Pairwise (· < ·) := by
    refine pairwise_underPlaces fun paths hpaths => ?_
    obtain ⟨_, -, rfl⟩ := List.mem_map.mp hpaths
    decide
  have hkey : (underPlaces (c.key.map fun _ => [[]])).Pairwise (· < ·) := by
    refine pairwise_underPlaces fun paths hpaths => ?_
    obtain ⟨_, -, rfl⟩ := List.mem_map.mp hpaths
    decide
  rw [map_path_checks]
  refine pairwise_underPlaces fun paths hpaths => ?_
  simp only [List.mem_cons, List.not_mem_nil, or_false] at hpaths
  rcases hpaths with rfl | rfl | rfl | rfl
  · exact List.pairwise_singleton _ _
  · exact hlist
  · exact hcolumns
  · exact hkey

end Change

/-! ## Plans -/

/-- A flaw with the place of its change in a plan and the spot in the change. -/
structure Finding where
  change : Nat
  spot : Spot
  flaw : Flaw
deriving DecidableEq

/-- Where a finding is in a plan. -/
def Finding.path (f : Finding) : List Nat :=
  f.change :: f.spot.path

/-- The warning about a finding. -/
def Finding.warning (f : Finding) : Warning :=
  .flawed f.change f.flaw

/-- The warning about a plan whose changes stand behind a number of others. -/
def Warning.behind (changes : Nat) : Warning → Warning
  | noChanges => noChanges
  | flawed change flaw => flawed (changes + change) flaw

namespace Plan

/-- The checks of a plan that fail. -/
def findings (p : Plan) : List Finding :=
  p.changes.zipIdx.flatMap fun (c, i) =>
    (c.checks.filter Check.fails).map fun k => ⟨i, k.spot, k.flaw⟩

variable {p q : Plan}

theorem mem_findings {f : Finding} :
    f ∈ p.findings ↔ ∃ c, p.changes[f.change]? = some c ∧ c.HasFlaw f.spot f.flaw := by
  rw [findings, List.mem_flatMap]
  constructor
  · rintro ⟨⟨c, i⟩, hplace, hmem⟩
    obtain ⟨⟨spot, fails, flaw⟩, hfailed, rfl⟩ := List.mem_map.mp hmem
    obtain ⟨hcheck, rfl⟩ := List.mem_filter.mp hfailed
    exact ⟨c, List.mem_zipIdx_iff_getElem?.mp hplace, Change.mem_checks_iff.mp hcheck⟩
  · rintro ⟨c, hplace, hflaw⟩
    have hfailed : ⟨f.spot, true, f.flaw⟩ ∈ c.checks.filter Check.fails :=
      List.mem_filter.mpr ⟨Change.mem_checks_iff.mpr hflaw, rfl⟩
    exact ⟨(c, f.change), List.mem_zipIdx_iff_getElem?.mpr hplace,
      List.mem_map.mpr ⟨_, hfailed, rfl⟩⟩

theorem pairwise_path_findings (p : Plan) : (p.findings.map Finding.path).Pairwise (· < ·) := by
  have hpaths : p.findings.map Finding.path =
      underPlaces (p.changes.map fun c => (c.checks.filter Check.fails).map (·.spot.path)) := by
    rw [findings, underPlaces, List.map_flatMap, List.zipIdx_map, List.flatMap_map]
    simp only [Prod.map_fst, Prod.map_snd, List.map_map]
    rfl
  rw [hpaths]
  refine pairwise_underPlaces fun paths hmem => ?_
  -- the checks that fail are some of all checks, in the same order
  obtain ⟨c, -, rfl⟩ := List.mem_map.mp hmem
  exact c.pairwise_path_checks.sublist (List.filter_sublist.map _)

theorem warnings_eq (hp : p.changes ≠ []) : p.warnings = p.findings.map Finding.warning := by
  rw [warnings, if_neg (by simpa using hp), findings, List.map_flatMap]
  simp only [Change.flaws_eq, Check.found, List.map_map]
  rfl

theorem warnings_andThen (hp : p.changes ≠ []) (hq : q.changes ≠ []) :
    (p.andThen q).warnings =
      p.warnings ++ q.warnings.map (Warning.behind p.changes.length) := by
  -- the changes of the second plan are counted on from the first
  have hbehind : q.changes.zipIdx p.changes.length =
      q.changes.zipIdx.map fun x => (x.1, p.changes.length + x.2) := List.zipIdx_eq_map_add
  have hboth : p.changes ++ q.changes ≠ [] := by simp [hp]
  rw [warnings, warnings, warnings, changes_andThen, if_neg (by simpa using hboth),
    if_neg (by simpa using hp), if_neg (by simpa using hq), List.zipIdx_append,
    List.flatMap_append, Nat.zero_add, hbehind, List.flatMap_map, List.map_flatMap]
  simp only [List.map_map]
  rfl

end Plan

/-! ## Plans without warnings -/

/-- Whether a column has a name and no reference of it lacks a part. -/
def Column.IsComplete (c : Column) : Prop :=
  c.name ≠ "" ∧ ∀ r, c.options.references = some r → r.table ≠ "" ∧ r.column ≠ ""

/-- Whether a change has a name for its table, an item in the list that its statement needs, complete
columns, and a key of columns that it has. -/
def Change.IsComplete : Change → Prop
  | createTable t => t.name ≠ "" ∧ t.columns ≠ [] ∧ (∀ c ∈ t.columns, c.IsComplete) ∧
      ∀ k ∈ t.key, ∃ c ∈ t.columns, c.name = k
  | addColumn t c => t ≠ "" ∧ c.IsComplete
  | insertRow t values => t ≠ "" ∧ values ≠ []

theorem Column.flaws_eq_nil_iff_isComplete {c : Column} : c.flaws = [] ↔ c.IsComplete := by
  rw [flaws_eq_nil, IsComplete, names, List.mem_cons, not_or]
  refine and_congr ne_comm ?_
  cases c.options.references with
  | none => simp
  | some r =>
    simp only [Option.elim_some, Option.some.injEq, forall_eq', ForeignKey.names, List.mem_cons,
      List.not_mem_nil, or_false, not_or]
    exact and_congr ne_comm ne_comm

theorem Change.flaws_eq_nil_iff_isComplete {c : Change} : c.flaws = [] ↔ c.IsComplete := by
  cases c with
  | createTable t =>
    show t.flaws = [] ↔ _
    rw [Table.flaws_eq_nil, IsComplete]
    simp only [← Column.flaws_eq_nil, Column.flaws_eq_nil_iff_isComplete, List.mem_map]
  | addColumn t c =>
    show Flaw.when t.isEmpty .emptyTableName ++ c.flaws = [] ↔ _
    rw [List.append_eq_nil_iff, Flaw.when_eq_nil, String.isEmpty_eq_false_iff,
      Column.flaws_eq_nil_iff_isComplete, IsComplete]
  | insertRow t values =>
    show Flaw.when t.isEmpty .emptyTableName ++ Flaw.when values.isEmpty .noValues = [] ↔ _
    rw [List.append_eq_nil_iff, Flaw.when_eq_nil, Flaw.when_eq_nil, String.isEmpty_eq_false_iff,
      List.isEmpty_eq_false_iff, IsComplete]

theorem Plan.warnings_eq_nil {p : Plan} :
    p.warnings = [] ↔ p.changes ≠ [] ∧ ∀ c ∈ p.changes, c.IsComplete := by
  by_cases hp : p.changes = []
  · simp [warnings, hp]
  · rw [warnings, if_neg (by simpa using hp), List.flatMap_eq_nil_iff]
    simp only [List.map_eq_nil_iff, Change.flaws_eq_nil_iff_isComplete]
    constructor
    · intro h
      refine ⟨hp, fun c hc => ?_⟩
      obtain ⟨i, hi⟩ := List.mem_iff_getElem?.mp hc
      exact h (c, i) (List.mem_zipIdx_iff_getElem?.mpr hi)
    · rintro ⟨-, h⟩ x hx
      exact h x.1 (List.fst_mem_of_mem_zipIdx hx)

/-- A plan is not warned about if and only if it has a change and all of its changes are complete.
Otherwise there is one warning for each flaw, in the order of the plan and with the place of the
change. Behind other changes the warnings are the same but for the places. -/
theorem Plan.warnings_exact (p : Plan) :
    (p.warnings = [] ↔ p.changes ≠ [] ∧ ∀ c ∈ p.changes, c.IsComplete) ∧
    (p.changes = [] → p.warnings.map Warning.message = ["plan has no changes"]) ∧
    (p.changes ≠ [] → ∃ findings : List Finding,
      (findings.map Finding.path).Pairwise (· < ·) ∧
      (∀ f, f ∈ findings ↔ ∃ c, p.changes[f.change]? = some c ∧ c.HasFlaw f.spot f.flaw) ∧
      p.warnings.map Warning.message =
        findings.map fun f => s!"change #{f.change}: {f.flaw.message}") ∧
    (∀ q : Plan, p.changes ≠ [] → q.changes ≠ [] →
      (p.andThen q).warnings = p.warnings ++ q.warnings.map (Warning.behind p.changes.length)) := by
  refine ⟨warnings_eq_nil, fun hp => ?_, fun hp => ?_, fun q => warnings_andThen⟩
  · rw [warnings, hp]
    rfl
  · refine ⟨p.findings, pairwise_path_findings p, fun f => mem_findings, ?_⟩
    rw [warnings_eq hp, List.map_map]
    rfl

/-- A reference that lacks both parts and an item that a key has twice, behind an inserted row. -/
theorem Plan.warnings_exact_behind_row :
    let p : Plan := { changes := [.insertRow "logs" []] }
    let c : Column := (Column.ordinary "a" .date).referencing { table := "", column := "" }
    let q : Plan := { changes :=
      [.createTable { name := "t", columns := [c], key := ["b", "a", "b"] }, .addColumn "" c] }
    p.changes ≠ [] ∧ q.changes ≠ [] ∧
    (p.andThen q).warnings.map Warning.message =
      ["change #0: insert without values",
       "change #1: field 'a' has an empty reference target",
       "change #1: primary key column 'b' is not a field of 't'",
       "change #1: primary key column 'b' is not a field of 't'",
       "change #2: empty table name",
       "change #2: field 'a' has an empty reference target"] := by
  intro p c q
  have hp : p.changes ≠ [] := by decide
  have hq : q.changes ≠ [] := by decide
  have h := (warnings_exact p).2.2.2 q hp hq
  refine ⟨hp, hq, ?_⟩
  rw [h]
  decide

end SchemaEvolution
