import SchemaEvolution.Proofs.Keyword.FirstMatch

/-!
# Other spellings of a keyword

Blanks around a keyword and the case of its letters do not matter: texts that differ in nothing else
(`Respelled`) are read alike. The reader goes through a text in lower case as it goes through the
text itself (`firstMatch_lower`), provided that the meanings which read on behind their word do so
too (`IgnoresCase`).

If a vocabulary reads back what is written for each of its meanings, that writing is a normal form:
it is the same for all spellings of one meaning, and normalizing it again changes nothing
(`Vocabulary.normal_of_read`).
-/

namespace SchemaEvolution.Keyword

open Text (IsBlank toLower_eq_iff toLower_toLower dropWhile_map_toLower)

/-! ## Lower case -/

/-- A text with its letters in lower case. -/
def lower (s : List Char) : List Char :=
  s.map Char.toLower

/-- The same keyword with other blanks around it and other letters in upper case. -/
inductive Respelled (text : String) : String → Prop
  | mk {before s after : List Char} (hbefore : IsBlank before) (hafter : IsBlank after)
      (hs : lower s = lower text.toList) : Respelled text (String.ofList (before ++ s ++ after))

theorem afterWord?_lower (letters s : List Char) :
    afterWord? letters (lower s) = (afterWord? letters s).map lower := by
  induction letters generalizing s with
  | nil => rfl
  | cons k letters ih =>
    cases s with
    | nil => rfl
    | cons c s =>
      show afterWord? (k :: letters) (c.toLower :: lower s) = _
      rw [afterWord?, afterWord?, toLower_toLower]
      split
      · exact ih s
      · rfl

theorem afterSpace?_lower (s : List Char) : afterSpace? (lower s) = (afterSpace? s).map lower := by
  cases s with
  | nil => rfl
  | cons c s =>
    show afterSpace? (c.toLower :: lower s) = _
    rw [afterSpace?, afterSpace?, isSeparator_toLower, lower,
      dropWhile_map_toLower isSeparator_toLower]
    split <;> rfl

theorem Piece.after?_lower (p : Piece) (s : List Char) :
    p.after? (lower s) = (p.after? s).map lower := by
  cases p with
  | word letters => exact afterWord?_lower letters.toList s
  | space => exact afterSpace?_lower s
  | gap =>
    have hhead : (lower s).head? = some '_' ↔ s.head? = some '_' := by
      cases s with
      | nil => rfl
      | cons c s =>
        have hc : c.toLower = '_' ↔ c = '_' := toLower_eq_iff (by decide) c
        simpa [lower] using hc
    rw [Piece.after?_gap, Piece.after?_gap, afterSpace?_lower]
    by_cases h : s.head? = some '_'
    · rw [if_pos h, if_pos (hhead.mpr h), lower, ← List.map_tail]
      rfl
    · rw [if_neg h, if_neg (fun hlower => h (hhead.mp hlower))]

/-- A spelling breaks off at the same place in lower case, or leaves the same. -/
theorem Spelling.after_lower (sp : Spelling) (s : List Char) :
    sp.after (lower s) = ((sp.after s).map lower).mapError lower := by
  induction sp generalizing s with
  | nil => rfl
  | cons p ps ih =>
    cases hp : p.after? s with
    | none =>
      have hlower : p.after? (lower s) = none := by rw [Piece.after?_lower, hp]; rfl
      rw [Spelling.after_cons_of_none hp, Spelling.after_cons_of_none hlower]
      rfl
    | some r =>
      have hlower : p.after? (lower s) = some (lower r) := by rw [Piece.after?_lower, hp]; rfl
      rw [Spelling.after_cons_of_some hp, Spelling.after_cons_of_some hlower]
      exact ih r

/-! ## Vocabularies -/

variable {α : Type}

/-- Whether a keyword means the same in lower case, and leaves the same behind it. -/
def IgnoresCase (k : Keyword α) : Prop :=
  ∀ r, k.meaning (lower r) = ((k.meaning r).1, lower (k.meaning r).2)

theorem ignoresCase_fixed (sp : Spelling) (a : α) : (fixed sp a).IgnoresCase :=
  fun _ => rfl

theorem firstMatch_lower {ks : List (Keyword α)} (hks : ∀ k ∈ ks, k.IgnoresCase)
    (s stop : List Char) :
    firstMatch (lower s) ks (lower stop)
      = ((firstMatch s ks stop).map fun m => (m.1, lower m.2)).mapError lower := by
  induction ks generalizing stop with
  | nil => rfl
  | cons k ks ih =>
    rw [firstMatch, firstMatch, Spelling.after_lower]
    cases k.spelling.after s with
    | ok r =>
      show Except.ok (k.meaning (lower r)) = _
      rw [hks k List.mem_cons_self r]
      rfl
    | error e => exact ih (fun k hk => hks k (List.mem_cons_of_mem _ hk)) e

end SchemaEvolution.Keyword

namespace SchemaEvolution.Vocabulary

open Keyword (lower firstMatch firstMatch_lower Respelled)
open Text (IsBlank)

variable {α : Type} {v : Vocabulary α} {text text' : String}

/-- Whether a text in lower case is accepted as the text itself is. -/
theorem firstMatch_lower_eq_ok_iff (hv : ∀ k ∈ v.keywords, k.IgnoresCase) {s : List Char} {a : α} :
    firstMatch (lower s) v.keywords (lower s) = .ok (a, []) ↔
      firstMatch s v.keywords s = .ok (a, []) := by
  rw [firstMatch_lower hv]
  cases firstMatch s v.keywords s with
  | error e => exact ⟨nofun, nofun⟩
  | ok m =>
    obtain ⟨b, r⟩ := m
    show Except.ok (b, lower r) = _ ↔ _
    simp [lower]

theorem trim_respelled (h : Respelled text text') :
    lower (Text.trim text'.toList) = lower (Text.trim text.toList) := by
  obtain @⟨before, s, after, hbefore, hafter, hs⟩ := h
  rw [String.toList_ofList, Text.trim_blank hbefore hafter, lower, ← Text.trim_map_toLower]
  show Text.trim (lower s) = _
  rw [hs]
  exact Text.trim_map_toLower text.toList

/-- Blanks at the ends and the case of letters make no difference to what is read. -/
theorem read_respelled (hv : ∀ k ∈ v.keywords, k.IgnoresCase) (h : Respelled text text') {a : α} :
    v.read text' = .ok a ↔ v.read text = .ok a := by
  rw [read_eq_ok_iff, read_eq_ok_iff, ← firstMatch_lower_eq_ok_iff hv, trim_respelled h,
    firstMatch_lower_eq_ok_iff hv]

/-- A text as it is written for what it is read as. -/
def normalize (v : Vocabulary α) (write : α → String) (text : String) :
    Except KeywordError String :=
  (v.read text).map write

/-- What is written for the meaning of a text is a normal form of it: it has the same meaning, and
so has each other spelling of either. -/
theorem normal_of_read (hv : ∀ k ∈ v.keywords, k.IgnoresCase) {write : α → String}
    (hwrite : ∀ a, v.read (write a) = .ok a) {a : α} (h : v.read text = .ok a) :
    v.normalize write text = .ok (write a) ∧ v.normalize write (write a) = .ok (write a) ∧
    (∀ text', Respelled text text' → v.read text' = .ok a) ∧
    ∀ normal', Respelled (write a) normal' → v.read normal' = .ok a := by
  refine ⟨?_, ?_, fun text' hrespelled => ?_, fun normal' hrespelled => ?_⟩
  · rw [normalize, h]
    rfl
  · rw [normalize, hwrite]
    rfl
  · exact (read_respelled hv hrespelled).mpr h
  · exact (read_respelled hv hrespelled).mpr (hwrite a)

end SchemaEvolution.Vocabulary
