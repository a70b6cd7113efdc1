import Mathlib.Data.List.Induction

/-!
# What calls leave behind

A value that calls build up, one after the other, can be looked at part by part, and then it is enough
to know what one call does to the part. A part that calls replace is what the last of them gave
(`foldl_replaced`). A part that calls add to has what they gave, in the order of the calls
(`foldl_collected`).
-/

namespace SchemaEvolution

variable {σ α β : Type} {step : σ → α → σ}

theorem foldl_replaced {part : σ → β} {given : α → Option β}
    (hstep : ∀ s call, part (step s call) = (given call).getD (part s)) (s : σ) (calls : List α) :
    part (calls.foldl step s) = (calls.filterMap given).getLast?.getD (part s) := by
  induction calls using List.reverseRecOn with
  | nil => rfl
  | append_singleton calls call ih =>
    rw [List.foldl_append, List.foldl_cons, List.foldl_nil, hstep, ih, List.filterMap_append]
    cases hgiven : given call <;> simp [hgiven]

theorem foldl_collected {part : σ → List β} {given : α → Option β}
    (hstep : ∀ s call, part (step s call) = part s ++ (given call).toList) (s : σ)
    (calls : List α) : part (calls.foldl step s) = part s ++ calls.filterMap given := by
  induction calls using List.reverseRecOn with
  | nil => exact (List.append_nil _).symm
  | append_singleton calls call ih =>
    rw [List.foldl_append, List.foldl_cons, List.foldl_nil, hstep, ih, List.filterMap_append,
      List.append_assoc]
    cases hgiven : given call <;> simp [hgiven]

/-- A part that no call touches stays as it was. -/
theorem foldl_kept {part : σ → β} (hstep : ∀ s call, part (step s call) = part s) (s : σ)
    (calls : List α) : part (calls.foldl step s) = part s := by
  induction calls generalizing s with
  | nil => rfl
  | cons call calls ih => rw [List.foldl_cons, ih, hstep]

end SchemaEvolution
