import SchemaEvolution.Proofs.Text.Front
import SchemaEvolution.Text.Reader

/-!
# What readers take

Each basic reader takes a text that it is made for off the front of any other text
(`literal_append`, `run_append`, `exactly_append`), and what it takes is nothing but the front of
the text. Items that stand one behind the other are all taken (`many_flatMap`), and what holds of every
item that a reader may take holds of all items of a list (`forall_mem_list`).
-/

namespace SchemaEvolution.Text.Reader

variable {p : Char → Bool} {u r s : List Char}

theorem literal_append (u r : List Char) : literal u (u ++ r) = some ((), r) := by
  induction u with
  | nil => rfl
  | cons c u ih =>
    rw [List.cons_append, literal, char, if_pos rfl]
    exact ih

theorem eq_append_of_literal (h : literal u s = some ((), r)) : s = u ++ r := by
  induction u generalizing s with
  | nil =>
    rw [literal, Option.some.injEq, Prod.mk.injEq] at h
    exact h.2
  | cons c u ih =>
    cases s with
    | nil => simp [literal, char] at h
    | cons d s =>
      by_cases hd : d = c
      · rw [literal, char, if_pos hd] at h
        rw [List.cons_append, hd, ih h]
      · rw [literal, char, if_neg hd] at h
        simp at h

theorem run_append (hne : u ≠ []) (hu : ∀ c ∈ u, p c = true)
    (hr : Stops p r) : run p (u ++ r) = some (u, r) := by
  rw [run, takeWhile_append hu hr, dropWhile_append hu hr]
  cases u with
  | nil => exact absurd rfl hne
  | cons c u => rfl

theorem exactly_append (hu : u.all p = true) (r : List Char) :
    exactly p u.length (u ++ r) = some (u, r) := by
  rw [exactly, List.take_left, List.drop_left, hu]
  simp

theorem char_cons (c : Char) (s : List Char) : char c (c :: s) = some ((), s) := by
  rw [char, if_pos rfl]

theorem char_of_ne {c d : Char} (h : d ≠ c) (s : List Char) : char c (d :: s) = none := by
  rw [char, if_neg h]

/-! ## Repetition -/

section Items

variable {α : Type} {item : Reader α} {P : α → Prop}

/-- Texts that are taken off the front of any other are taken one after the other. -/
theorem many_flatMap {β : Type} {text : β → List Char} {given : β → α} {bs : List β}
    (h : ∀ b ∈ bs, text b ≠ [] ∧ ∀ s, item (text b ++ s) = some (given b, s))
    (hr : item r = none) : many item (bs.flatMap text ++ r) = (bs.map given, r) := by
  -- the bound on the number of items may be any that is large enough
  suffices hupTo : ∀ n, (bs.flatMap text).length ≤ n →
      upTo item n (bs.flatMap text ++ r) = (bs.map given, r) by
    refine hupTo _ ?_
    rw [List.length_append]
    exact Nat.le_add_right _ _
  induction bs with
  | nil =>
    intro n _
    show upTo item n r = ([], r)
    cases n with
    | zero => rfl
    | succ n => simp only [upTo, hr]
  | cons b bs ih =>
    intro n hn
    obtain ⟨hfirst, hbs⟩ := List.forall_mem_cons.mp h
    have hpos : 0 < (text b).length := List.length_pos_iff.mpr hfirst.1
    rw [List.flatMap_cons, List.length_append] at hn
    obtain ⟨n, rfl⟩ : ∃ m, n = m + 1 := ⟨n - 1, by omega⟩
    rw [List.flatMap_cons, List.append_assoc, upTo, hfirst.2]
    simp only [ih hbs n (by omega), List.map_cons]

theorem forall_mem_upTo (h : ∀ s a r, item s = some (a, r) → P a) (n : Nat) (s : List Char) :
    ∀ a ∈ (upTo item n s).1, P a := by
  induction n generalizing s with
  | zero => exact fun a ha => absurd ha List.not_mem_nil
  | succ n ih =>
    unfold upTo
    cases hs : item s with
    | none => exact fun a ha => absurd ha List.not_mem_nil
    | some first =>
      obtain ⟨a, r⟩ := first
      exact List.forall_mem_cons.mpr ⟨h s a r hs, ih r⟩

theorem forall_mem_list (h : ∀ s a r, item s = some (a, r) → P a) (separator : Char)
    (s : List Char) : ∀ a ∈ (list item separator s).1, P a := by
  cases hlist : separated item separator s with
  | none =>
    rw [list, hlist]
    exact fun a ha => absurd ha List.not_mem_nil
  | some items =>
    rw [list, hlist]
    simp only [separated, Option.bind_eq_bind, Option.bind_eq_some_iff] at hlist
    obtain ⟨⟨a, r⟩, ha, hlist⟩ := hlist
    obtain rfl := Option.some.inj hlist
    refine List.forall_mem_cons.mpr ⟨h s a r ha, forall_mem_upTo ?_ _ _⟩
    -- an item behind a separator is an item
    intro s b r hb
    obtain ⟨⟨_, s'⟩, _, hb⟩ := Option.bind_eq_some_iff.mp hb
    exact h s' b r hb

end Items

end SchemaEvolution.Text.Reader
