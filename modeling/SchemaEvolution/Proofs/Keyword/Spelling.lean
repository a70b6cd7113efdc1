import SchemaEvolution.Keyword
import SchemaEvolution.Proofs.Text.LetterCase

/-!
# Written spellings

A spelling says how a keyword may be written, and `Spelling.after` takes it off the front of a
text. Here the two are compared:

* `Piece.Written` and `Spelling.Written` say which texts a piece and a spelling stand for;
* `Spelling.written_of_after`: what is taken off the front is such a text;
* `Spelling.after_append`: each such text is taken off, whatever follows it, provided that
  separators in the spelling stand in front of a word (`Spelling.isSpaced`).
-/

namespace SchemaEvolution.Keyword

open Text (Stops)

/-! ## Separators -/

/-- A run of separators, as it stands between two words. -/
def IsSpace (u : List Char) : Prop :=
  u ≠ [] ∧ ∀ c ∈ u, isSeparator c = true

/-- No separator is the lower case of another character. -/
theorem isSeparator_toLower (c : Char) : isSeparator c.toLower = isSeparator c :=
  Text.apply_toLower (by decide) c

/-- Each separator is one byte long. -/
theorem byteLength_of_separators {u : List Char} (h : ∀ c ∈ u, isSeparator c = true) :
    Text.byteLength u = u.length := by
  have hsize : ∀ c, isSeparator c = true → c.utf8Size = 1 := by
    intro c hc
    simp only [isSeparator, Bool.or_eq_true, decide_eq_true_eq] at hc
    rcases hc with ((rfl | rfl) | rfl) | rfl <;> rfl
  induction u with
  | nil => rfl
  | cons c u ih =>
    have htail := ih fun d hd => h d (List.mem_cons_of_mem c hd)
    rw [Text.byteLength, hsize c (h c List.mem_cons_self), htail, List.length_cons]
    omega

theorem afterSpace?_append {u r : List Char} (hu : IsSpace u)
    (hr : Stops isSeparator r) : afterSpace? (u ++ r) = some r := by
  obtain ⟨hne, hall⟩ := hu
  cases u with
  | nil => exact absurd rfl hne
  | cons c u =>
    have hc : isSeparator c = true := hall c List.mem_cons_self
    have hu : ∀ d ∈ u, isSeparator d = true := fun d hd => hall d (List.mem_cons_of_mem c hd)
    rw [List.cons_append, afterSpace?, if_pos hc, Text.dropWhile_append hu hr]

theorem isSpace_of_afterSpace? {s r : List Char} (h : afterSpace? s = some r) :
    ∃ u, s = u ++ r ∧ IsSpace u := by
  cases s with
  | nil => simp [afterSpace?] at h
  | cons c s =>
    rw [afterSpace?] at h
    split at h
    · rename_i hc
      have hr : s.dropWhile isSeparator = r := Option.some.inj h
      refine ⟨c :: s.takeWhile isSeparator, ?_, List.cons_ne_nil _ _, ?_⟩
      · rw [List.cons_append, ← hr, List.takeWhile_append_dropWhile]
      · intro d hd
        rcases List.mem_cons.mp hd with rfl | hd
        · exact hc
        · exact List.mem_takeWhile_imp hd
    · exact absurd h (by simp)

/-! ## Words -/

/-- A word in letters of either case. -/
def IsWord (letters : String) (u : List Char) : Prop :=
  u.map Char.toLower = letters.toList

theorem afterWord?_append {letters u : List Char} (h : u.map Char.toLower = letters)
    (r : List Char) : afterWord? letters (u ++ r) = some r := by
  induction u generalizing letters with
  | nil =>
    rw [← h]
    rfl
  | cons c u ih =>
    rw [← h, List.map_cons, List.cons_append, afterWord?, if_pos rfl]
    exact ih rfl

theorem map_toLower_of_afterWord? {letters s r : List Char} (h : afterWord? letters s = some r) :
    ∃ u, s = u ++ r ∧ u.map Char.toLower = letters := by
  induction letters generalizing s with
  | nil => exact ⟨[], Option.some.inj h, rfl⟩
  | cons k letters ih =>
    cases s with
    | nil => exact absurd h (by simp [afterWord?])
    | cons c s =>
      rw [afterWord?] at h
      split at h
      · rename_i hc
        obtain ⟨u, hs, hu⟩ := ih h
        exact ⟨c :: u, by rw [hs, List.cons_append], by rw [List.map_cons, hc, hu]⟩
      · exact absurd h (by simp)

/-! ## Pieces and spellings -/

/-- The texts that a piece stands for. -/
def Piece.Written : Piece → List Char → Prop
  | .word letters, u => IsWord letters u
  | .space, u => IsSpace u
  | .gap, u => u = ['_'] ∨ IsSpace u

/-- The texts that a spelling stands for: one for each piece, in order. -/
def Spelling.Written : Spelling → List Char → Prop
  | [], u => u = []
  | p :: ps, u => ∃ v w, u = v ++ w ∧ p.Written v ∧ Spelling.Written ps w

theorem Spelling.written_word {letters : String} {u : List Char} :
    Spelling.Written [.word letters] u ↔ IsWord letters u := by
  constructor
  · rintro ⟨v, w, rfl, hv, rfl⟩
    rwa [List.append_nil]
  · intro hu
    exact ⟨u, [], (List.append_nil u).symm, hu, rfl⟩

/-- Whether a word begins with a character that cannot be taken for a separator. -/
def Piece.isSolid : Piece → Bool
  | .word letters => letters.toList.head?.any fun c => !isSeparator c
  | _ => false

/-- Whether separators stand only in front of words. -/
def Spelling.isSpaced : Spelling → Bool
  | [] => true
  | .word _ :: ps => Spelling.isSpaced ps
  | _ :: ps => ps.head?.any Piece.isSolid && Spelling.isSpaced ps

theorem Piece.after?_gap (s : List Char) :
    Piece.gap.after? s = if s.head? = some '_' then some s.tail else afterSpace? s := by
  cases s with
  | nil => rfl
  | cons c s =>
    by_cases hc : c = '_'
    · rw [hc]
      rfl
    · rw [List.head?_cons, if_neg (by simpa using hc)]
      unfold Piece.after?
      split <;> simp_all

/-- A run of separators is taken as a gap if the text does not go on with another one. -/
theorem Piece.after?_gap_append {u r : List Char} (hu : IsSpace u) (hr : Stops isSeparator r) :
    Piece.gap.after? (u ++ r) = some r := by
  obtain ⟨c, t, rfl⟩ := List.exists_cons_of_ne_nil hu.1
  have hc : c ≠ '_' := by
    rintro rfl
    exact absurd (hu.2 '_' List.mem_cons_self) (by decide)
  rw [Piece.after?_gap, List.cons_append, List.head?_cons, if_neg (by simpa using hc)]
  exact afterSpace?_append hu hr

theorem Piece.written_of_after? {p : Piece} {s r : List Char} (h : p.after? s = some r) :
    ∃ u, s = u ++ r ∧ p.Written u := by
  cases p with
  | word letters => exact map_toLower_of_afterWord? h
  | space => exact isSpace_of_afterSpace? h
  | gap =>
    rw [Piece.after?_gap] at h
    split at h
    · rename_i hs
      obtain ⟨t, rfl⟩ := List.head?_eq_some_iff.mp hs
      exact ⟨['_'], by rw [← Option.some.inj h]; rfl, Or.inl rfl⟩
    · obtain ⟨u, hs, hu⟩ := isSpace_of_afterSpace? h
      exact ⟨u, hs, Or.inr hu⟩

theorem Spelling.after_cons_of_some {p : Piece} {ps : Spelling} {s r : List Char}
    (h : p.after? s = some r) : Spelling.after (p :: ps) s = Spelling.after ps r := by
  rw [Spelling.after, h]

theorem Spelling.after_cons_of_none {p : Piece} {ps : Spelling} {s : List Char}
    (h : p.after? s = none) : Spelling.after (p :: ps) s = .error s := by
  rw [Spelling.after, h]

/-- What is taken off the front of a text is a text that the spelling stands for. -/
theorem Spelling.written_of_after {sp : Spelling} {s r : List Char} (h : sp.after s = .ok r) :
    ∃ u, s = u ++ r ∧ sp.Written u := by
  induction sp generalizing s with
  | nil => exact ⟨[], Except.ok.inj h, rfl⟩
  | cons p ps ih =>
    rw [Spelling.after] at h
    split at h
    · rename_i m hp
      obtain ⟨v, hs, hv⟩ := Piece.written_of_after? hp
      obtain ⟨w, hm, hw⟩ := ih h
      exact ⟨v ++ w, by rw [hs, hm, List.append_assoc], v, w, rfl, hv, hw⟩
    · exact absurd h (by simp)

/-- A solid piece is written with no separator in front. -/
theorem Piece.Written.stops {p : Piece} {u : List Char} (hu : p.Written u)
    (hp : p.isSolid = true) (r : List Char) : Stops isSeparator (u ++ r) := by
  cases p with
  | word letters =>
    have hl : u.map Char.toLower = letters.toList := hu
    cases u with
    | nil =>
      rw [Piece.isSolid, ← hl] at hp
      exact absurd hp (by simp)
    | cons c u =>
      rw [Piece.isSolid, ← hl, List.map_cons, List.head?_cons, Option.any_some,
        isSeparator_toLower] at hp
      rw [List.cons_append, Text.stops_cons]
      simpa using hp
  | space => exact absurd hp (by simp [Piece.isSolid])
  | gap => exact absurd hp (by simp [Piece.isSolid])

/-- What follows separators in a spelling is written with no separator in front. -/
theorem Spelling.Written.stops {sp : Spelling} {u : List Char} (hu : sp.Written u)
    (hsp : sp.head?.any Piece.isSolid = true) (r : List Char) : Stops isSeparator (u ++ r) := by
  cases sp with
  | nil => exact absurd hsp (by simp)
  | cons p ps =>
    obtain ⟨v, w, rfl, hv, _⟩ := hu
    rw [List.append_assoc]
    exact hv.stops (by simpa using hsp) (w ++ r)

/-- A piece that cannot be taken off the front does not stand there. -/
theorem Piece.after?_eq_none {p : Piece} {s : List Char}
    (h : ∀ u r, s = u ++ r → ¬ p.Written u) : p.after? s = none := by
  cases hp : p.after? s with
  | none => rfl
  | some r =>
    obtain ⟨u, hs, hu⟩ := Piece.written_of_after? hp
    exact absurd hu (h u r hs)

/-- Each text that a spelling stands for is taken off the front. -/
theorem Spelling.after_append {sp : Spelling} {u : List Char} (hsp : sp.isSpaced = true)
    (hu : sp.Written u) (r : List Char) : sp.after (u ++ r) = .ok r := by
  induction sp generalizing u with
  | nil =>
    rw [show u = [] from hu]
    rfl
  | cons p ps ih =>
    obtain ⟨v, w, rfl, hv, hw⟩ := hu
    have hp : p.after? (v ++ (w ++ r)) = some (w ++ r) := by
      cases p with
      | word letters => exact afterWord?_append hv (w ++ r)
      | space =>
        rw [Spelling.isSpaced, Bool.and_eq_true] at hsp
        · exact afterSpace?_append hv (hw.stops hsp.1 r)
        · simp
      | gap =>
        rw [Spelling.isSpaced, Bool.and_eq_true] at hsp
        · rcases hv with rfl | hv
          · rfl
          · exact Piece.after?_gap_append hv (hw.stops hsp.1 r)
        · simp
    have hps : Spelling.isSpaced ps = true := by
      cases p <;> simp_all [Spelling.isSpaced]
    rw [List.append_assoc, Spelling.after_cons_of_some hp]
    exact ih hps hw

end SchemaEvolution.Keyword
