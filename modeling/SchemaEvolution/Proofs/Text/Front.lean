import Mathlib.Data.List.TakeWhile

/-!
# The front of a text

A reader takes characters of one class off the front of a text and stops at the first other one.
`Stops p s` says that it stops at once; `takeWhile_append` and `dropWhile_append` say what it takes
and leaves when a run of the class stands in front of such a text.
-/

namespace SchemaEvolution.Text

variable {p : Char → Bool} {u r s : List Char}

/-- Whether the text does not begin with a character of the class. -/
def Stops (p : Char → Bool) (s : List Char) : Prop :=
  ∀ c ∈ s.head?, p c = false

theorem stops_nil : Stops p [] := by
  intro c hc
  exact absurd hc (by simp)

@[simp] theorem stops_cons {c : Char} : Stops p (c :: s) ↔ p c = false := by
  simp [Stops]

instance : Decidable (Stops p s) :=
  match s with
  | [] => isTrue stops_nil
  | _ :: _ => decidable_of_iff _ stops_cons.symm

theorem stops_dropWhile (p : Char → Bool) (s : List Char) : Stops p (s.dropWhile p) := by
  intro c hc
  have hnot := List.head?_dropWhile_not p s
  rw [hc] at hnot
  simpa using hnot

theorem Stops.dropWhile_eq (h : Stops p s) : s.dropWhile p = s := by
  cases s with
  | nil => rfl
  | cons c s =>
    rw [stops_cons] at h
    exact List.dropWhile_cons_of_neg (by rw [h]; exact Bool.false_ne_true)

theorem Stops.takeWhile_eq (h : Stops p s) : s.takeWhile p = [] := by
  cases s with
  | nil => rfl
  | cons c s =>
    rw [stops_cons] at h
    exact List.takeWhile_cons_of_neg (by rw [h]; exact Bool.false_ne_true)

theorem takeWhile_append (hu : ∀ c ∈ u, p c = true) (hr : Stops p r) :
    (u ++ r).takeWhile p = u := by
  rw [List.takeWhile_append_of_pos hu, hr.takeWhile_eq, List.append_nil]

theorem dropWhile_append (hu : ∀ c ∈ u, p c = true) (hr : Stops p r) :
    (u ++ r).dropWhile p = r := by
  rw [List.dropWhile_append_of_pos hu, hr.dropWhile_eq]

/-- Each text is a run of a class and then a text at which the run stops. -/
theorem exists_append_stops (p : Char → Bool) (s : List Char) :
    ∃ u r, s = u ++ r ∧ (∀ c ∈ u, p c = true) ∧ Stops p r :=
  ⟨s.takeWhile p, s.dropWhile p, List.takeWhile_append_dropWhile.symm,
    fun _ hc => List.mem_takeWhile_imp hc, stops_dropWhile p s⟩

end SchemaEvolution.Text
