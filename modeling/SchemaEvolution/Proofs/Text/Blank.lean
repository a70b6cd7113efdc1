import SchemaEvolution.Text.Blank
import SchemaEvolution.Proofs.Text.Front

/-!
# Trimmed texts and their size

`Text.trim` takes the blanks off both ends and nothing else: `trim_eq_iff` says so without the
function. A text that neither begins nor ends with a blank is left as it is.
-/

namespace SchemaEvolution.Text

/-! ## Bytes -/

/-- The measure of positions is the size of the text in UTF-8. -/
theorem byteLength_eq_utf8ByteSize (s : List Char) :
    byteLength s = (String.ofList s).utf8ByteSize := by
  induction s with
  | nil => rfl
  | cons c s ih =>
    rw [byteLength, ih, ← List.singleton_append, String.ofList_append, String.utf8ByteSize_append,
      ← String.singleton_eq_ofList, String.utf8ByteSize_singleton]

/-! ## Blanks at the ends -/

/-- Whether there is no blank at either end. -/
def IsTrimmed (s : List Char) : Prop :=
  Stops isBlank s ∧ Stops isBlank s.reverse

/-- Whether there are only blanks. -/
def IsBlank (s : List Char) : Prop :=
  ∀ c ∈ s, isBlank c = true

theorem IsBlank.append {s t : List Char} (hs : IsBlank s) (ht : IsBlank t) : IsBlank (s ++ t) := by
  intro c hc
  rcases List.mem_append.mp hc with hc | hc
  · exact hs c hc
  · exact ht c hc

theorem IsBlank.reverse {s : List Char} (h : IsBlank s) : IsBlank s.reverse :=
  fun c hc => h c (List.mem_reverse.mp hc)

/-- Nothing but the blanks at the ends is taken off. -/
theorem trim_append {before s after : List Char} (hbefore : IsBlank before)
    (hafter : IsBlank after) (hs : IsTrimmed s) : trim (before ++ s ++ after) = s := by
  rw [trim]
  cases s with
  | nil =>
    rw [List.append_nil, List.dropWhile_eq_nil_iff.mpr (hbefore.append hafter)]
    rfl
  | cons c s =>
    have hfront : Stops isBlank (c :: s ++ after) := hs.1
    rw [List.append_assoc, dropWhile_append hbefore hfront, List.reverse_append,
      dropWhile_append hafter.reverse hs.2, List.reverse_reverse]

theorem trim_of_isTrimmed {s : List Char} (h : IsTrimmed s) : trim s = s := by
  have hnil : IsBlank [] := fun c hc => absurd hc (by simp)
  have htrim := trim_append hnil hnil h
  rwa [List.nil_append, List.append_nil] at htrim

/-- Taking blanks off the end brings no blank to the front. -/
theorem Stops.reverse_dropWhile {s : List Char} (h : Stops isBlank s) :
    Stops isBlank (s.reverse.dropWhile isBlank).reverse := by
  intro c hc
  rw [List.head?_reverse] at hc
  obtain ⟨u, hu⟩ : s.reverse.dropWhile isBlank <:+ s.reverse := List.dropWhile_suffix isBlank
  have hs : s.reverse.getLast? = some c := by
    rw [← hu, List.getLast?_append, hc]
    rfl
  rw [List.getLast?_reverse] at hs
  exact h c hs

theorem isTrimmed_trim (s : List Char) : IsTrimmed (trim s) := by
  refine ⟨(stops_dropWhile isBlank s).reverse_dropWhile, ?_⟩
  rw [trim, List.reverse_reverse]
  exact stops_dropWhile isBlank _

/-- The trimmed text stands between blanks, and is trimmed. -/
theorem trim_eq_iff {s t : List Char} :
    trim s = t ↔
      IsTrimmed t ∧ ∃ before after, IsBlank before ∧ IsBlank after ∧ s = before ++ t ++ after := by
  constructor
  · rintro rfl
    refine ⟨isTrimmed_trim s, s.takeWhile isBlank,
      ((s.dropWhile isBlank).reverse.takeWhile isBlank).reverse,
      fun c hc => List.mem_takeWhile_imp hc, ?_, ?_⟩
    · exact IsBlank.reverse fun c hc => List.mem_takeWhile_imp hc
    · rw [trim, List.append_assoc, ← List.reverse_append, List.takeWhile_append_dropWhile,
        List.reverse_reverse, List.takeWhile_append_dropWhile]
  · rintro ⟨ht, before, after, hbefore, hafter, rfl⟩
    exact trim_append hbefore hafter ht

/-- Blanks that are put around a text are taken off with its own. -/
theorem trim_blank {before s after : List Char} (hbefore : IsBlank before)
    (hafter : IsBlank after) : trim (before ++ s ++ after) = trim s := by
  obtain ⟨htrimmed, first, last, hfirst, hlast, hs⟩ := trim_eq_iff.mp (rfl : trim s = trim s)
  refine trim_eq_iff.mpr ⟨htrimmed, before ++ first, last ++ after, ?_, ?_, ?_⟩
  · exact hbefore.append hfirst
  · exact hlast.append hafter
  · calc before ++ s ++ after = before ++ (first ++ trim s ++ last) ++ after := by rw [← hs]
      _ = before ++ first ++ trim s ++ (last ++ after) := by simp only [List.append_assoc]

end SchemaEvolution.Text
