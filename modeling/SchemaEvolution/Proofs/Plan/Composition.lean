import SchemaEvolution.Proofs.Plan.Views

/-!
# Plans one after the other

`p.andThen q` applies `p` and then `q`. The places of the changes of `q` move up by the length of `p`,
and nothing else about them changes: `irreversible_andThen` says so for those that cannot be undone,
which decide how far a plan can be undone (`Plan.revert_eq`, `Plan.skipped_eq`). On the way back the
changes of `q` come first, so what keeps `q` from being undone is met before anything in `p`.
-/

namespace SchemaEvolution

/-- The error for a change that stands behind a number of other changes. -/
def Irreversible.behind (changes : Nat) (e : Irreversible) : Irreversible :=
  { e with index := changes + e.index }

namespace Plan

/-- The plan with the changes of another one added at its end, one by one. -/
def andThen (p q : Plan) : Plan :=
  q.changes.foldl push p

theorem andThen_eq (p q : Plan) : p.andThen q = { p with changes := p.changes ++ q.changes } := by
  rw [andThen]
  generalize q.changes = changes
  induction changes generalizing p with
  | nil => rw [List.foldl_nil, List.append_nil]
  | cons c changes ih =>
    rw [List.foldl_cons, ih]
    simp only [push, List.append_assoc, List.singleton_append]

theorem changes_andThen (p q : Plan) : (p.andThen q).changes = p.changes ++ q.changes := by
  rw [andThen_eq]

theorem forward_andThen (p q : Plan) : (p.andThen q).forward = p.forward ++ q.forward := by
  rw [forward, changes_andThen, List.map_append]
  rfl

/-- What cannot be undone is found where it was in `p`, and behind `p` where it was in `q`. -/
theorem irreversible_andThen (p q : Plan) :
    (p.andThen q).irreversible =
      p.irreversible ++ q.irreversible.map fun i => (i.1, p.changes.length + i.2) := by
  have hbehind : q.changes.zipIdx p.changes.length =
      q.changes.zipIdx.map fun i => (i.1, p.changes.length + i.2) := List.zipIdx_eq_map_add
  rw [irreversible, changes_andThen, List.zipIdx_append, List.filter_append, Nat.zero_add, hbehind,
    List.filter_map]
  rfl

theorem isReversible_andThen (p q : Plan) :
    (p.andThen q).isReversible = true ↔ p.isReversible = true ∧ q.isReversible = true := by
  rw [isReversible_iff, isReversible_iff, isReversible_iff, irreversible_andThen,
    List.append_eq_nil_iff, List.map_eq_nil_iff]

theorem skipped_andThen (p q : Plan) :
    (p.andThen q).partialRevert.skipped =
      q.partialRevert.skipped.map (p.changes.length + ·) ++ p.partialRevert.skipped := by
  rw [skipped_eq, skipped_eq, skipped_eq, irreversible_andThen, List.map_append,
    List.reverse_append, List.map_map, List.map_reverse, List.map_map]
  rfl

theorem partialRevert_andThen (p q : Plan) :
    (p.andThen q).partialRevert.statements =
      q.partialRevert.statements ++ p.partialRevert.statements := by
  rw [partialRevert, changes_andThen, List.reverse_append, List.filterMap_append]
  rfl

/-- What keeps `q` from being undone comes before what keeps `p` from it. -/
theorem revert_andThen (p q : Plan) :
    (p.andThen q).revert =
      (do
        let later ← q.revert.mapError (Irreversible.behind p.changes.length)
        let earlier ← p.revert
        return later ++ earlier) := by
  rw [revert_eq (p.andThen q), irreversible_andThen, List.getLast?_append, List.getLast?_map,
    partialRevert_andThen, revert_eq q, revert_eq p]
  cases q.irreversible.getLast? with
  | some i => rfl
  | none => cases p.irreversible.getLast? <;> rfl

/-- Applied one after the other, and undone in the opposite order, two plans do what the plan does
that is made of both; and each plan can be cut in two such plans at any place. -/
theorem andThen_views (p q : Plan) :
    (p.andThen q).changes = p.changes ++ q.changes ∧
    (p.andThen q).forward = p.forward ++ q.forward ∧
    (p.andThen q).partialRevert.statements =
      q.partialRevert.statements ++ p.partialRevert.statements ∧
    (p.andThen q).partialRevert.skipped =
      q.partialRevert.skipped.map (p.changes.length + ·) ++ p.partialRevert.skipped ∧
    (p.andThen q).revert =
      (match q.revert, p.revert with
        | .ok later, .ok earlier => .ok (later ++ earlier)
        | .error e, _ => .error { index := p.changes.length + e.index, statement := e.statement }
        | .ok _, .error e => .error e) ∧
    ((p.andThen q).isReversible = true ↔ p.isReversible = true ∧ q.isReversible = true) ∧
    ∀ n,
      andThen { p with changes := p.changes.take n } { p with changes := p.changes.drop n } = p := by
  refine ⟨changes_andThen p q, forward_andThen p q, partialRevert_andThen p q, skipped_andThen p q,
    ?_, isReversible_andThen p q, fun n => ?_⟩
  · rw [revert_andThen]
    cases q.revert with
    | error e => rfl
    | ok later => cases p.revert <;> rfl
  · rw [andThen_eq]
    simp only [List.take_append_drop]

end Plan

end SchemaEvolution
