/-!
# Splitting text

Cutting a text at each occurrence of a character, and putting the pieces together again.
-/

namespace SchemaEvolution.Text

/-- The pieces of a text between the occurrences of a character: one more than there are of these. -/
def split (separator : Char) : List Char → List (List Char)
  | [] => [[]]
  | c :: s =>
    if c = separator then [] :: split separator s
    else
      match split separator s with
      | [] => [[c]]
      | piece :: pieces => (c :: piece) :: pieces

/-- There is always a first piece. -/
theorem split_ne_nil (separator : Char) (s : List Char) : split separator s ≠ [] := by
  cases s with
  | nil => simp [split]
  | cons c s =>
    simp only [split]
    split
    · simp
    · split <;> simp

end SchemaEvolution.Text
