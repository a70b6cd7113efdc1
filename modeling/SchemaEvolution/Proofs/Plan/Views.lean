import SchemaEvolution.Plan

/-!
# The views of a plan agree

A plan can be applied, undone as a whole, undone as far as possible, and listed. All of these are
decided by the changes that cannot be undone (`Plan.irreversible`): undoing the plan as a whole stops
at the last of them (`Plan.revert_eq`), undoing as much as possible leaves out exactly their places
(`Plan.skipped_eq`), and there are none if and only if the plan is reversible
(`Plan.isReversible_iff`). `Plan.views_agree` puts the views side by side.
-/

namespace SchemaEvolution.Plan

variable {p : Plan} {c : Change} {i : Nat} {e : Irreversible}

/-- The changes that cannot be undone with their places, in the order of the plan. -/
def irreversible (p : Plan) : List (Change × Nat) :=
  p.changes.zipIdx.filter fun i => !i.1.isReversible

/-! ## Changes that cannot be undone -/

theorem mem_irreversible :
    (c, i) ∈ p.irreversible ↔ p.changes[i]? = some c ∧ c.revert? = none := by
  rw [irreversible, List.mem_filter, List.mem_zipIdx_iff_getElem?]
  simp [Change.isReversible]

theorem isReversible_iff (p : Plan) : p.isReversible = true ↔ p.irreversible = [] := by
  rw [irreversible, List.filter_eq_nil_iff, isReversible, List.all_eq_true]
  constructor
  · intro h i hi
    have hmem : i.1 ∈ p.changes := List.fst_mem_of_mem_zipIdx hi
    simp [h i.1 hmem]
  · intro h c hc
    obtain ⟨i, hi⟩ := List.mem_iff_getElem?.mp hc
    have hindexed : (c, i) ∈ p.changes.zipIdx := List.mem_zipIdx_iff_getElem?.mpr hi
    simpa using h (c, i) hindexed

/-- Places come in increasing order. -/
theorem pairwise_irreversible (p : Plan) :
    (p.irreversible.map Prod.snd).Pairwise (· < ·) := by
  have hplaces : (p.changes.zipIdx.map Prod.snd).Pairwise (· < ·) := by
    rw [List.zipIdx_map_snd]
    exact List.pairwise_lt_range' 1
  exact hplaces.sublist (List.filter_sublist.map Prod.snd)

/-! ## Undoing as much as possible -/

theorem skipped_eq (p : Plan) :
    p.partialRevert.skipped = (p.irreversible.map Prod.snd).reverse := by
  rw [irreversible, ← List.map_reverse, ← List.filter_reverse, ← List.filterMap_eq_map,
    List.filterMap_filter]
  show p.changes.zipIdx.reverse.filterMap _ = _
  congr 1
  funext i
  cases hreversible : i.1.isReversible <;> simp [hreversible]

theorem pairwise_skipped (p : Plan) : p.partialRevert.skipped.Pairwise (· > ·) := by
  rw [skipped_eq, List.pairwise_reverse]
  exact pairwise_irreversible p

theorem mem_skipped :
    i ∈ p.partialRevert.skipped ↔ ∃ c, p.changes[i]? = some c ∧ c.revert? = none := by
  rw [skipped_eq, List.mem_reverse, List.mem_map]
  constructor
  · rintro ⟨⟨c, _⟩, hmem, rfl⟩
    exact ⟨c, mem_irreversible.mp hmem⟩
  · rintro ⟨c, hc⟩
    exact ⟨(c, i), mem_irreversible.mpr hc, rfl⟩

/-- The first place that is left out is the largest one. -/
theorem le_of_head?_skipped {j : Nat} (hhead : p.partialRevert.skipped.head? = some j)
    (hi : i ∈ p.partialRevert.skipped) : i ≤ j := by
  have hdecreasing := pairwise_skipped p
  obtain ⟨rest, hrest⟩ := List.head?_eq_some_iff.mp hhead
  rw [hrest] at hdecreasing hi
  rcases List.mem_cons.mp hi with rfl | hi
  · exact Nat.le_refl i
  · exact Nat.le_of_lt (List.rel_of_pairwise_cons hdecreasing hi)

/-- Each change is either undone or left out. -/
theorem length_partialRevert (p : Plan) :
    p.partialRevert.statements.length + p.partialRevert.skipped.length = p.changes.length := by
  have hundone : p.partialRevert.statements.length = p.changes.countP Change.isReversible := by
    rw [partialRevert, List.length_filterMap_eq_countP, List.countP_reverse]
    rfl
  have hleft : p.partialRevert.skipped.length = p.changes.countP fun c => !c.isReversible := by
    rw [skipped_eq, List.length_reverse, List.length_map, irreversible,
      ← List.countP_eq_length_filter]
    calc p.changes.zipIdx.countP (fun i => !i.1.isReversible)
        = (p.changes.zipIdx.map Prod.fst).countP (fun c => !c.isReversible) := by
          rw [List.countP_map]
          rfl
      _ = p.changes.countP fun c => !c.isReversible := by rw [List.zipIdx_map_fst]
  rw [hundone, hleft, List.length_eq_countP_add_countP Change.isReversible]
  simp

/-! ## Undoing the plan as a whole -/

/-- Of changes with their places, the first one that cannot be undone is the error. -/
theorem mapM_undo (indexed : List (Change × Nat)) :
    indexed.mapM undo =
      match (indexed.filter fun i => !i.1.isReversible).head? with
      | some i => .error ⟨i.2, i.1.forward⟩
      | none => .ok ((indexed.map Prod.fst).filterMap Change.revert?) := by
  induction indexed with
  | nil => rfl
  | cons i indexed ih =>
    rw [List.mapM_cons, ih, List.map_cons]
    cases hs : i.1.revert? with
    | none =>
      have hundo : undo i = .error ⟨i.2, i.1.forward⟩ := by rw [undo, hs]
      rw [hundo, List.filter_cons_of_pos (by simp [Change.isReversible, hs])]
      rfl
    | some s =>
      have hundo : undo i = .ok s := by rw [undo, hs]
      rw [hundo, List.filter_cons_of_neg (by simp [Change.isReversible, hs]),
        List.filterMap_cons_some hs]
      cases (indexed.filter fun i => !i.1.isReversible).head? <;> rfl

/-- The last change that cannot be undone is the first one on the way back. -/
theorem revert_eq (p : Plan) :
    p.revert =
      match p.irreversible.getLast? with
      | some i => .error ⟨i.2, i.1.forward⟩
      | none => .ok p.partialRevert.statements := by
  rw [revert, mapM_undo, List.filter_reverse, List.head?_reverse, List.map_reverse,
    List.zipIdx_map_fst]
  rfl

theorem revert_of_isReversible (h : p.isReversible) :
    p.revert = .ok p.partialRevert.statements := by
  rw [revert_eq, (isReversible_iff p).mp h]
  rfl

theorem of_revert_ok {statements : List Statement} (h : p.revert = .ok statements) :
    p.isReversible = true ∧ statements = p.partialRevert.statements := by
  rw [revert_eq] at h
  cases hlast : p.irreversible.getLast? with
  | some i => simp [hlast] at h
  | none =>
    simp only [hlast, Except.ok.injEq] at h
    exact ⟨(isReversible_iff p).mpr (List.getLast?_eq_none_iff.mp hlast), h.symm⟩

/-- The error is about a change that cannot be undone, and its place is left out first. -/
theorem of_revert_error (h : p.revert = .error e) :
    ∃ c, (c, e.index) ∈ p.irreversible ∧ c.forward = e.statement ∧
      p.partialRevert.skipped.head? = some e.index := by
  rw [revert_eq] at h
  cases hlast : p.irreversible.getLast? with
  | none => simp [hlast] at h
  | some i =>
    simp only [hlast, Except.error.injEq] at h
    subst h
    have hhead : p.partialRevert.skipped.head? = some i.2 := by
      rw [skipped_eq, List.head?_reverse, List.getLast?_map, hlast]
      rfl
    exact ⟨i.1, List.mem_of_getLast? hlast, rfl, hhead⟩

/-- A plan can be undone as a whole unless it has a change that cannot be undone. -/
theorem revert_error_iff (p : Plan) :
    (∃ e, p.revert = .error e) ↔ ∃ c ∈ p.changes, c.revert? = none := by
  constructor
  · rintro ⟨e, h⟩
    obtain ⟨c, hc, -⟩ := of_revert_error h
    obtain ⟨hplace, hnone⟩ := mem_irreversible.mp hc
    exact ⟨c, List.mem_of_getElem? hplace, hnone⟩
  · rintro ⟨c, hc, hnone⟩
    cases h : p.revert with
    | error e => exact ⟨e, rfl⟩
    | ok statements =>
      have hall := (of_revert_ok h).1
      rw [isReversible, List.all_eq_true] at hall
      simpa [Change.isReversible, hnone] using hall c hc

/-! ## The listing -/

theorem filterMap_revert_render (p : Plan) :
    (p.render.filterMap RenderedChange.revert).reverse = p.partialRevert.statements := by
  calc (p.render.filterMap RenderedChange.revert).reverse
      = ((p.changes.zipIdx.map Prod.fst).filterMap Change.revert?).reverse := by
        rw [render, List.filterMap_map, List.filterMap_map]
        rfl
    _ = p.partialRevert.statements := by
        rw [List.zipIdx_map_fst, ← List.filterMap_reverse]
        rfl

theorem map_forward_render (p : Plan) : p.render.map RenderedChange.forward = p.forward := by
  calc p.render.map RenderedChange.forward
      = (p.changes.zipIdx.map Prod.fst).map Change.forward := by
        rw [render, List.map_map, List.map_map]
        rfl
    _ = p.forward := by
        rw [List.zipIdx_map_fst]
        rfl

theorem map_index_render (p : Plan) :
    p.render.map RenderedChange.index = List.range p.changes.length := by
  rw [render, List.map_map, List.range_eq_range', ← List.zipIdx_map_snd]
  rfl

/-- The listing shows the same changes as ones that cannot be undone. -/
theorem map_index_filter_render (p : Plan) :
    (p.render.filter (·.revert.isNone)).map (·.index) = p.irreversible.map Prod.snd := by
  have hleft : ((fun c : RenderedChange => c.revert.isNone) ∘ fun x : Change × Nat =>
      { index := x.2, kind := x.1.kind, forward := x.1.forward, revert := x.1.revert? }) =
      fun x => !x.1.isReversible := by
    funext x
    simp [Change.isReversible]
  rw [render, List.filter_map, List.map_map, irreversible, ← hleft]
  rfl

theorem getElem?_render (p : Plan) (i : Nat) :
    p.render[i]? = p.changes[i]?.map fun c => ⟨i, c.kind, c.forward, c.revert?⟩ := by
  rw [render, List.getElem?_map, List.getElem?_zipIdx, Option.map_map]
  simp [Function.comp_def]

/-! ## Side by side -/

/-- What cannot be undone is the same in every view of a plan. -/
theorem views_agree (p : Plan) :
    (p.isReversible = true ↔ ∃ statements, p.revert = .ok statements) ∧
    (p.isReversible = true ↔ p.partialRevert.skipped = []) ∧
    (match p.revert with
      | .ok statements =>
        statements = p.partialRevert.statements ∧
        statements = (p.render.filterMap RenderedChange.revert).reverse
      | .error e =>
        p.partialRevert.skipped.head? = some e.index ∧
        p.forward[e.index]? = some e.statement ∧
        (∃ c, p.changes[e.index]? = some c ∧ c.revert? = none) ∧
        (∀ i c, p.changes[i]? = some c → c.revert? = none → i ≤ e.index)) ∧
    p.partialRevert.statements = (p.render.filterMap RenderedChange.revert).reverse ∧
    p.partialRevert.skipped.Pairwise (· > ·) ∧
    (∀ i, i ∈ p.partialRevert.skipped ↔ ∃ r, p.render[i]? = some r ∧ r.revert = none) ∧
    p.partialRevert.statements.length + p.partialRevert.skipped.length = p.changes.length ∧
    p.forward = p.render.map RenderedChange.forward ∧
    p.render.map RenderedChange.index = List.range p.changes.length := by
  refine ⟨?_, ?_, ?_, (filterMap_revert_render p).symm, pairwise_skipped p, ?_,
    length_partialRevert p, (map_forward_render p).symm, map_index_render p⟩
  · constructor
    · intro h
      exact ⟨_, revert_of_isReversible h⟩
    · rintro ⟨statements, h⟩
      exact (of_revert_ok h).1
  · rw [isReversible_iff, skipped_eq, List.reverse_eq_nil_iff, List.map_eq_nil_iff]
  · cases h : p.revert with
    | ok statements =>
      have heq := (of_revert_ok h).2
      exact ⟨heq, heq.trans (filterMap_revert_render p).symm⟩
    | error e =>
      obtain ⟨c, hmem, hforward, hhead⟩ := of_revert_error h
      have hc := mem_irreversible.mp hmem
      refine ⟨hhead, ?_, ⟨c, hc⟩, fun i d hd hnone => ?_⟩
      · rw [forward, List.getElem?_map, hc.1, ← hforward]
        rfl
      · exact le_of_head?_skipped hhead (mem_skipped.mpr ⟨d, hd, hnone⟩)
  · intro i
    rw [mem_skipped, getElem?_render]
    cases p.changes[i]? <;> simp

end SchemaEvolution.Plan
