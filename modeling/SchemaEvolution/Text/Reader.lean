/-!
# Readers

A reader takes something off the front of a text and leaves the rest, or finds that it is not there.
The readers for document formats are put together from their own parts and the repetitions here. An
item that is repeated takes at least one character (`Reader.Advances`), so a text has no more items
than characters, and `Reader.many` stops at that number without losing any (`Reader.many_of_some`).
-/

namespace SchemaEvolution.Text

/-- Something that may stand at the front of a text. -/
abbrev Reader (α : Type) := List Char → Option (α × List Char)

namespace Reader

variable {α : Type}

/-- At most a number of items, and the rest. -/
def upTo (item : Reader α) : Nat → List Char → List α × List Char
  | 0, s => ([], s)
  | n + 1, s =>
    match item s with
    | none => ([], s)
    | some (a, rest) =>
      let (as, rest) := upTo item n rest
      (a :: as, rest)

/-- As many items as there are, and the rest. -/
def many (item : Reader α) (s : List Char) : List α × List Char :=
  upTo item s.length s

/-- One character. -/
def char (c : Char) : Reader Unit
  | [] => none
  | d :: s => if d = c then some ((), s) else none

/-- One character of a class. -/
def satisfying (p : Char → Bool) : Reader Char
  | [] => none
  | c :: s => if p c then some (c, s) else none

/-- A fixed text. -/
def literal : List Char → Reader Unit
  | [], s => some ((), s)
  | c :: cs, s => do
    let (_, s) ← char c s
    literal cs s

/-- Characters of a class, at least one. -/
def run (p : Char → Bool) : Reader (List Char) := fun s =>
  match s.takeWhile p with
  | [] => none
  | front => some (front, s.dropWhile p)

/-- One item or more with a character between them. -/
def separated (item : Reader α) (separator : Char) : Reader (List α) := fun s => do
  let (a, s) ← item s
  let next : Reader α := fun s => do
    let (_, s) ← char separator s
    item s
  let (as, s) := many next s
  return (a :: as, s)

/-- Items with a character between them, or nothing. -/
def list (item : Reader α) (separator : Char) (s : List Char) : List α × List Char :=
  (separated item separator s).getD ([], s)

/-- An item if there is one. -/
def optional (item : Reader α) (s : List Char) : Option α × List Char :=
  match item s with
  | some (a, s) => (some a, s)
  | none => (none, s)

/-- A fixed number of characters of a class. -/
def exactly (p : Char → Bool) (n : Nat) : Reader (List Char) := fun s =>
  let front := s.take n
  if front.length = n && front.all p then some (front, s.drop n) else none

/-! ## Repetition -/

/-- Whether whatever the reader takes has at least one character. -/
def Advances (item : Reader α) : Prop :=
  ∀ ⦃s a rest⦄, item s = some (a, rest) → rest.length < s.length

/-- A bound beyond the length of the text changes nothing. -/
theorem upTo_eq_many {item : Reader α} (h : item.Advances) {n : Nat} {s : List Char}
    (hn : s.length ≤ n) : upTo item n s = many item s := by
  unfold many
  induction n using Nat.strongRecOn generalizing s with
  | _ n ih =>
    cases hs : item s with
    | none => cases n <;> cases hl : s.length <;> simp [upTo, hs]
    | some r =>
      obtain ⟨a, rest⟩ := r
      have hr := h hs
      obtain ⟨m, rfl⟩ : ∃ m, n = m + 1 := ⟨n - 1, by omega⟩
      obtain ⟨l, hl⟩ : ∃ l, s.length = l + 1 := ⟨s.length - 1, by omega⟩
      simp only [hl, upTo, hs]
      rw [ih m (by omega) (by omega), ih l (by omega) (by omega)]

/-- Where there is no item, none is taken. -/
theorem many_of_none {item : Reader α} {s : List Char} (hs : item s = none) :
    many item s = ([], s) := by
  unfold many
  cases s.length <;> simp [upTo, hs]

/-- Where there is an item, it is taken, and then as many as there are. -/
theorem many_of_some {item : Reader α} (h : item.Advances) {s rest : List Char} {a : α}
    (hs : item s = some (a, rest)) :
    many item s = (a :: (many item rest).1, (many item rest).2) := by
  have hr := h hs
  obtain ⟨l, hl⟩ : ∃ l, s.length = l + 1 := ⟨s.length - 1, by omega⟩
  rw [many, hl, upTo]
  simp only [hs]
  rw [upTo_eq_many h (by omega)]

end Reader

end SchemaEvolution.Text
