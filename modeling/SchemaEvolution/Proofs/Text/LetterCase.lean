import SchemaEvolution.Proofs.Text.Blank

/-!
# The case of letters

Only the letters of ASCII have another lower case here, so whatever tells two cases of a letter
apart does so within ASCII (`apply_toLower`). Blanks and sizes in UTF-8 do not: a text keeps its
blanks (`trim_map_toLower`) and its size (`byteLength_map_toLower`) when its letters become lower
case.
-/

namespace SchemaEvolution.Text

/-! ## Single characters -/

/-- A character outside ASCII has no other lower case here. -/
theorem toLower_of_large {c : Char} (h : ¬ c.toNat < 128) : c.toLower = c := by
  unfold Char.toLower
  rw [dif_neg]
  rintro ⟨_, hz⟩
  have hz' : c.toNat ≤ 90 := hz
  omega

/-- What is the same for both cases of each letter in ASCII is the same for both cases of all. -/
theorem apply_toLower {β : Type} {f : Char → β}
    (hascii : ∀ n < 128, f (Char.ofNat n).toLower = f (Char.ofNat n)) (c : Char) :
    f c.toLower = f c := by
  by_cases h : c.toNat < 128
  · have hc := hascii c.toNat h
    rwa [Char.ofNat_toNat] at hc
  · rw [toLower_of_large h]

theorem toLower_toLower (c : Char) : c.toLower.toLower = c.toLower :=
  apply_toLower (f := Char.toLower) (by decide) c

theorem isBlank_toLower (c : Char) : isBlank c.toLower = isBlank c :=
  apply_toLower (by decide) c

theorem isDigit_toLower (c : Char) : c.toLower.isDigit = c.isDigit :=
  apply_toLower (f := Char.isDigit) (by decide) c

theorem utf8Size_toLower (c : Char) : c.toLower.utf8Size = c.utf8Size :=
  apply_toLower (f := Char.utf8Size) (by decide) c

/-- A sign that is no letter is the lower case of itself only. -/
theorem toLower_eq_iff {sign : Char}
    (hsign : ∀ n < 128, decide ((Char.ofNat n).toLower = sign) = decide (Char.ofNat n = sign))
    (c : Char) : c.toLower = sign ↔ c = sign := by
  have hc := apply_toLower (f := fun d => decide (d = sign)) hsign c
  exact decide_eq_decide.mp hc

/-! ## Texts -/

theorem byteLength_map_toLower (s : List Char) :
    byteLength (s.map Char.toLower) = byteLength s := by
  induction s with
  | nil => rfl
  | cons c s ih => rw [List.map_cons, byteLength, byteLength, utf8Size_toLower, ih]

variable {p : Char → Bool}

/-- A run of a class that has both cases of its letters ends at the same place in lower case. -/
theorem dropWhile_map_toLower (hp : ∀ c, p c.toLower = p c) (s : List Char) :
    (s.map Char.toLower).dropWhile p = (s.dropWhile p).map Char.toLower := by
  have hcomp : p ∘ Char.toLower = p := funext hp
  rw [List.dropWhile_map, hcomp]

theorem takeWhile_map_toLower (hp : ∀ c, p c.toLower = p c) (s : List Char) :
    (s.map Char.toLower).takeWhile p = (s.takeWhile p).map Char.toLower := by
  have hcomp : p ∘ Char.toLower = p := funext hp
  rw [List.takeWhile_map, hcomp]

theorem trim_map_toLower (s : List Char) :
    trim (s.map Char.toLower) = (trim s).map Char.toLower := by
  rw [trim, trim, dropWhile_map_toLower isBlank_toLower, ← List.map_reverse,
    dropWhile_map_toLower isBlank_toLower, List.map_reverse]

end SchemaEvolution.Text
