import SchemaEvolution.Proofs.Plan.Views
import SchemaEvolution.Proofs.Schema.Effect
import SchemaEvolution.Proofs.Statement.Decoding

/-!
# Undoing a plan

A database runs the texts of statements. If it does with the text of every statement that has plain
names what the statement says, then undoing a plan after it was applied gives the schema from before
(`Plan.undo_forward`): the statements of `Plan.partialRevert` do so always, those of `Plan.revert`
where there are any. `Database.reading` is such a database.
-/

namespace SchemaEvolution

/-! ## Databases -/

/-- A database, as far as its schema goes. -/
structure Database where
  /-- The schema after a text was run, if it does not fail. -/
  run : String → Schema → Option Schema
  run_sql : ∀ (s : Statement), (∀ n ∈ s.names, Sql.IsPlainName n) → ∀ σ, run s.sql σ = s.effect σ

namespace Database

/-- Runs texts in order as long as they do not fail. -/
def runAll (db : Database) (texts : List String) (σ : Schema) : Option Schema :=
  texts.foldlM (fun σ text => db.run text σ) σ

/-- The database that reads a statement and does what it says. -/
def reading : Database where
  run text σ := (Sql.statement text.toList).bind fun s => s.effect σ
  run_sql s hnames σ := by
    cases s with
    | insert t values =>
      rw [Sql.statement_insert (hnames t List.mem_cons_self)]
      rfl
    | _ =>
      rw [Sql.statement_sql hnames fun v hv => absurd hv List.not_mem_nil]
      rfl

variable {db : Database} {σ σ' : Schema}

theorem runAll_append (texts texts' : List String) :
    db.runAll (texts ++ texts') σ = (db.runAll texts σ).bind (db.runAll texts') :=
  List.foldlM_append

theorem runAll_singleton (text : String) : db.runAll [text] σ = db.run text σ := by
  rw [runAll, List.foldlM_cons]
  simp

/-- What undoes changes, in the opposite order and as far as there is something, undoes them. -/
theorem runAll_revert {changes : List Change} (hnames : ∀ c ∈ changes, c.HasPlainNames)
    (h : db.runAll (changes.map fun c => c.forward.sql) σ = some σ') :
    db.runAll ((changes.reverse.filterMap Change.revert?).map Statement.sql) σ' = some σ := by
  induction changes generalizing σ with
  | nil =>
    rw [Option.some.inj h]
    rfl
  | cons c changes ih =>
    have hc : c.HasPlainNames := hnames c List.mem_cons_self
    rw [List.map_cons, runAll, List.foldlM_cons, db.run_sql _ hc, Option.bind_eq_bind,
      Option.bind_eq_some_iff] at h
    -- the later changes are undone first, which leads back to `σ₁`
    obtain ⟨σ₁, hforward, hrest⟩ := h
    have hundone := ih (fun d hd => hnames d (List.mem_cons_of_mem c hd)) hrest
    rw [List.reverse_cons, List.filterMap_append, List.map_append, runAll_append, hundone,
      Option.bind_some]
    cases hs : c.revert? with
    | none =>
      rw [List.filterMap_cons_none hs, Change.eq_of_revert_eq_none hs hforward]
      rfl
    | some s =>
      have hplain : ∀ n ∈ s.names, Sql.IsPlainName n := fun n hn =>
        hc n (Change.names_revert_subset hs hn)
      rw [List.filterMap_cons_some hs, List.filterMap_nil, List.map_singleton, runAll_singleton,
        db.run_sql s hplain]
      exact Change.effect_revert hs hforward

end Database

namespace Plan

/-- Whether every name in a plan is plain. -/
def HasPlainNames (p : Plan) : Prop :=
  ∀ c ∈ p.changes, c.HasPlainNames

instance (p : Plan) : Decidable p.HasPlainNames :=
  inferInstanceAs (Decidable (∀ c ∈ p.changes, c.HasPlainNames))

theorem forward_push (p : Plan) (c : Change) : (p.push c).forward = p.forward ++ [c.forward] := by
  rw [forward, push, List.map_append]
  rfl

/-- A plan that was applied is undone by its revert statements. -/
theorem undo_forward (db : Database) {p : Plan} (hp : p.HasPlainNames) {σ σ' : Schema}
    (h : db.runAll (p.forward.map Statement.sql) σ = some σ') :
    db.runAll (p.partialRevert.statements.map Statement.sql) σ' = some σ ∧
      (p.isReversible → ∃ statements, p.revert = .ok statements ∧
        db.runAll (statements.map Statement.sql) σ' = some σ) := by
  rw [forward, List.map_map] at h
  have hundone := Database.runAll_revert hp h
  exact ⟨hundone, fun hreversible => ⟨_, revert_of_isReversible hreversible, hundone⟩⟩

/-- Two tables, a column that one of them gets later, and with it or not a row that stays. -/
theorem undo_forward_two_tables :
    let p : Plan := { changes := [.createTable ⟨"t", [.primaryKey "id" .serial], [], []⟩,
      .createTable ⟨"u", [], [], []⟩, .addColumn "t" (.ordinary "name" (.string none))] }
    let q : Plan := p.push (.insertRow "t" ["1", "DEFAULT"])
    ∃ σ, Database.reading.runAll (q.forward.map Statement.sql) (fun _ => none) = some σ ∧
      Database.reading.runAll (q.partialRevert.statements.map Statement.sql) σ
        = some (fun _ => none) ∧
      ∃ statements, p.revert = .ok statements ∧
        Database.reading.runAll (statements.map Statement.sql) σ = some (fun _ => none) := by
  intro p q
  have hrun : (Database.reading.runAll (p.forward.map Statement.sql) fun _ => none).isSome := by
    decide
  obtain ⟨σ, hσ⟩ := Option.isSome_iff_exists.mp hrun
  -- the row leaves the schema as it is
  have hrow : Database.reading.runAll (q.forward.map Statement.sql) (fun _ => none) = some σ := by
    rw [forward_push, List.map_append, Database.runAll_append, hσ]
    rfl
  exact ⟨σ, hrow, (undo_forward Database.reading (by decide) hrow).1,
    (undo_forward Database.reading (by decide) hσ).2 (by decide)⟩

end Plan

end SchemaEvolution
