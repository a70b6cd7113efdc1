import Mathlib.Data.List.Basic

/-!
# Cutting at commas outside of parentheses

A list in SQL has commas between its items, and items may have commas of their own, but only inside
parentheses. `cut` cuts at the commas outside of all parentheses. `Whole d u` says that `u`, met at
depth `d`, is not cut and leaves the depth as it was: this holds of plain text, is kept by `++`, and
parentheses lower the depth at which it has to hold. A list of whole items is cut into its items
(`cut_intercalate`).
-/

namespace SchemaEvolution.Text

/-! ## The cut -/

/-- The depth after a character. -/
def depthAfter (d : Nat) (c : Char) : Nat :=
  if c = '(' then d + 1 else if c = ')' then d - 1 else d

/-- Puts a text in front of the first piece. -/
def glue (u : List Char) : List (List Char) → List (List Char)
  | [] => [u]
  | piece :: pieces => (u ++ piece) :: pieces

/-- The pieces of a text between the commas at depth zero, where the text begins at a depth. -/
def cut (d : Nat) : List Char → List (List Char)
  | [] => [[]]
  | c :: s => if d = 0 ∧ c = ',' then [] :: cut d s else glue [c] (cut (depthAfter d c) s)

theorem glue_append (u v : List Char) (pieces : List (List Char)) :
    glue (u ++ v) pieces = glue u (glue v pieces) := by
  cases pieces with
  | nil => rfl
  | cons piece pieces =>
    rw [glue, glue, glue, List.append_assoc]

/-! ## Text that is not cut -/

/-- Whether a text that is met at a depth is not cut and returns to that depth. -/
def Whole (d : Nat) (u : List Char) : Prop :=
  ∀ s, cut d (u ++ s) = glue u (cut d s)

theorem cut_ne_nil (d : Nat) (s : List Char) : cut d s ≠ [] := by
  cases s with
  | nil => exact List.cons_ne_nil _ _
  | cons c s =>
    rw [cut]
    split
    · exact List.cons_ne_nil _ _
    · cases cut (depthAfter d c) s <;> exact List.cons_ne_nil _ _

theorem whole_nil (d : Nat) : Whole d [] := by
  intro s
  obtain ⟨piece, pieces, h⟩ := List.exists_cons_of_ne_nil (cut_ne_nil d s)
  rw [List.nil_append, h]
  rfl

theorem Whole.append {d : Nat} {u v : List Char} (hu : Whole d u) (hv : Whole d v) :
    Whole d (u ++ v) := by
  intro s
  rw [List.append_assoc, hu, hv, glue_append]

/-- Whether a character is no parenthesis and, at depth zero, no comma. -/
def isFlat (d : Nat) (c : Char) : Bool :=
  c ≠ '(' && c ≠ ')' && (d ≠ 0 || c ≠ ',')

theorem whole_singleton {d : Nat} {c : Char} (hc : isFlat d c = true) : Whole d [c] := by
  intro s
  simp only [isFlat, Bool.and_eq_true, Bool.or_eq_true, decide_eq_true_eq] at hc
  have hcut : ¬ (d = 0 ∧ c = ',') := fun h => hc.2.elim (absurd h.1) (absurd h.2)
  rw [List.singleton_append, cut, if_neg hcut, depthAfter, if_neg hc.1.1, if_neg hc.1.2]

theorem whole_of_all {d : Nat} {u : List Char} (h : u.all (isFlat d) = true) : Whole d u := by
  induction u with
  | nil => exact whole_nil d
  | cons c u ih =>
    rw [List.all_cons, Bool.and_eq_true] at h
    exact (whole_singleton h.1).append (ih h.2)

/-- Text of one class of characters, to which no parenthesis and no comma belongs. -/
theorem whole_of_class {p : Char → Bool} (hp : ∀ c ∈ ['(', ')', ','], p c = false)
    {u : List Char} (hu : ∀ c ∈ u, p c = true) (d : Nat) : Whole d u := by
  refine whole_of_all (List.all_eq_true.mpr fun c hc => ?_)
  have hne {b : Char} (hb : b ∈ ['(', ')', ',']) : c ≠ b := by
    rintro rfl
    exact absurd (hu c hc) (by rw [hp c hb]; exact Bool.false_ne_true)
  simp [isFlat, hne]

/-- Inside parentheses commas do not cut. -/
theorem Whole.parenthesized {d : Nat} {u : List Char} (hu : Whole (d + 1) u) :
    Whole d ('(' :: (u ++ [')'])) := by
  intro s
  have hopen : ¬ (d = 0 ∧ '(' = ',') := fun h => absurd h.2 (by decide)
  have hclose : ¬ (d + 1 = 0 ∧ ')' = ',') := fun h => absurd h.2 (by decide)
  have hnested : cut (d + 1) (u ++ ')' :: s) = glue (u ++ [')']) (cut d s) := by
    rw [hu, cut, if_neg hclose, ← glue_append]
    rfl
  rw [List.cons_append, List.append_assoc, List.singleton_append, cut, if_neg hopen]
  show glue ['('] (cut (d + 1) (u ++ ')' :: s)) = _
  rw [hnested, ← glue_append]
  rfl

theorem Whole.intercalate {d : Nat} {separator : List Char} {us : List (List Char)}
    (hseparator : Whole d separator) (hus : ∀ u ∈ us, Whole d u) :
    Whole d (separator.intercalate us) := by
  induction us with
  | nil => exact whole_nil d
  | cons u us ih =>
    have hu : Whole d u := hus u List.mem_cons_self
    cases us with
    | nil =>
      rw [List.intercalate_singleton]
      exact hu
    | cons v us =>
      have hrest := ih fun w hw => hus w (List.mem_cons_of_mem u hw)
      rw [List.intercalate_cons_cons]
      exact (hu.append hseparator).append hrest

/-! ## Lists of items -/

/-- Items that are whole are found again in the list of them. -/
theorem cut_intercalate {us : List (List Char)} (hne : us ≠ []) (h : ∀ u ∈ us, Whole 0 u) :
    cut 0 ([','].intercalate us) = us := by
  induction us with
  | nil => exact absurd rfl hne
  | cons u us ih =>
    have hu : Whole 0 u := h u List.mem_cons_self
    cases us with
    | nil =>
      have hcut := hu []
      rw [List.append_nil] at hcut
      rw [List.intercalate_singleton, hcut, cut, glue, List.append_nil]
    | cons v us =>
      have hus : cut 0 ([','].intercalate (v :: us)) = v :: us :=
        ih (List.cons_ne_nil v us) fun w hw => h w (List.mem_cons_of_mem u hw)
      rw [List.intercalate_cons_cons, List.append_assoc, hu, List.singleton_append, cut,
        if_pos ⟨rfl, rfl⟩, hus, glue, List.append_nil]

end SchemaEvolution.Text
