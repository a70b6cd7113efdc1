import SchemaEvolution.Proofs.Keyword.Spelling

/-!
# The first match takes the most

A vocabulary is tried in order, and the first spelling that fits decides. That is the longest
reading of a text only if the order is right. The test for it compares spellings place by place:

* two spellings *clash* if some place of them cannot be filled by one text (`Slot.clash`);
* a spelling may stand before another one if the two clash or the other one is the beginning of it
  (`Spelling.mayPrecede`).

`firstMatch_extends`: in a list that is ordered like this, the first match goes on at least as far
as any other keyword that fits.
-/

namespace SchemaEvolution.Keyword

/-! ## Places of a spelling -/

/-- One place of a spelling: a letter, or what stands between words. -/
inductive Slot where
  | letter (c : Char)
  | space
  | gap
deriving DecidableEq

/-- What follows a place at the front of a text. -/
def Slot.after? : Slot → List Char → Option (List Char)
  | .letter k, s => afterWord? [k] s
  | .space, s => Piece.space.after? s
  | .gap, s => Piece.gap.after? s

/-- What follows places in a row. -/
def Slot.afterAll? : List Slot → List Char → Option (List Char)
  | [], s => some s
  | a :: as, s => (a.after? s).bind (Slot.afterAll? as)

/-- The places of a piece. -/
def Piece.slots : Piece → List Slot
  | .word letters => letters.toList.map Slot.letter
  | .space => [.space]
  | .gap => [.gap]

/-- The places of a spelling. -/
def Spelling.slots (sp : Spelling) : List Slot :=
  sp.flatMap Piece.slots

theorem Slot.afterAll?_append (as bs : List Slot) (s : List Char) :
    Slot.afterAll? (as ++ bs) s = (Slot.afterAll? as s).bind (Slot.afterAll? bs) := by
  induction as generalizing s with
  | nil => rfl
  | cons a as ih =>
    rw [List.cons_append, Slot.afterAll?, Slot.afterAll?, Option.bind_assoc]
    exact Option.bind_congr fun t _ => ih t

theorem afterWord?_eq_afterAll? (letters s : List Char) :
    afterWord? letters s = Slot.afterAll? (letters.map Slot.letter) s := by
  induction letters generalizing s with
  | nil => rfl
  | cons k letters ih =>
    cases s with
    | nil => rfl
    | cons c s =>
      rw [List.map_cons, Slot.afterAll?, Slot.after?, afterWord?, afterWord?]
      split
      · exact ih s
      · rfl

theorem Piece.after?_eq_afterAll? (p : Piece) (s : List Char) :
    p.after? s = Slot.afterAll? p.slots s := by
  cases p with
  | word letters => exact afterWord?_eq_afterAll? letters.toList s
  | space => exact (Option.bind_fun_some _).symm
  | gap => exact (Option.bind_fun_some _).symm

/-- A spelling is taken off the front place by place. -/
theorem Spelling.after_eq_ok_iff {sp : Spelling} {s r : List Char} :
    sp.after s = .ok r ↔ Slot.afterAll? sp.slots s = some r := by
  induction sp generalizing s with
  | nil => simp [Spelling.after, Spelling.slots, Slot.afterAll?]
  | cons p ps ih =>
    rw [Spelling.slots, List.flatMap_cons, Slot.afterAll?_append, ← Piece.after?_eq_afterAll?,
      Spelling.after]
    cases hp : p.after? s with
    | none => simp
    | some m => exact ih

/-! ## Clashes -/

/-- Whether a place can begin with a character. -/
def Slot.begins : Slot → Char → Bool
  | .letter k, c => c.toLower = k
  | .space, c => isSeparator c
  | .gap, c => c = '_' || isSeparator c

theorem Slot.exists_cons_of_after? {a : Slot} {s r : List Char} (h : a.after? s = some r) :
    ∃ c t, s = c :: (t ++ r) ∧ a.begins c = true := by
  cases a with
  | letter k =>
    obtain ⟨u, rfl, hu⟩ := map_toLower_of_afterWord? h
    obtain ⟨c, rfl, hc⟩ := List.map_eq_singleton_iff.mp hu
    exact ⟨c, [], rfl, by simpa [Slot.begins] using hc⟩
  | space =>
    obtain ⟨u, rfl, hne, hall⟩ := isSpace_of_afterSpace? h
    obtain ⟨c, t, rfl⟩ := List.exists_cons_of_ne_nil hne
    exact ⟨c, t, rfl, hall c List.mem_cons_self⟩
  | gap =>
    obtain ⟨u, rfl, rfl | ⟨hne, hall⟩⟩ := Piece.written_of_after? (p := .gap) h
    · exact ⟨'_', [], rfl, rfl⟩
    · obtain ⟨c, t, rfl⟩ := List.exists_cons_of_ne_nil hne
      exact ⟨c, t, rfl, by simp [Slot.begins, hall c List.mem_cons_self]⟩

/-- Whether no character can begin both places. -/
def Slot.excludes : Slot → Slot → Bool
  | .letter c, .letter d => c ≠ d
  | .letter c, .space | .space, .letter c => !isSeparator c
  | .letter c, .gap | .gap, .letter c => c ≠ '_' && !isSeparator c
  | _, _ => false

theorem Slot.not_begins_of_excludes {a b : Slot} (h : a.excludes b = true) {c : Char}
    (ha : a.begins c = true) : b.begins c = false := by
  have hlower := isSeparator_toLower c
  -- only a gap can begin with an underscore or with a separator
  by_cases hc : c = '_'
  · have hunder : ('_' : Char).toLower = '_' := by decide
    have hsep : isSeparator '_' = false := by decide
    rw [hc] at ha ⊢
    cases a <;> cases b <;> simp_all [Slot.excludes, Slot.begins] <;> grind
  · cases a <;> cases b <;> simp_all [Slot.excludes, Slot.begins] <;> grind

/-- Whether no text begins with both rows of places. -/
def Slot.clash : List Slot → List Slot → Bool
  | a :: as, b :: bs => if a = b then Slot.clash as bs else a.excludes b
  | _, _ => false

theorem Slot.afterAll?_eq_none_of_clash {as bs : List Slot} (h : Slot.clash as bs = true)
    {s r : List Char} (ha : Slot.afterAll? as s = some r) : Slot.afterAll? bs s = none := by
  induction as generalizing bs s with
  | nil => exact absurd h (by simp [Slot.clash])
  | cons a as ih =>
    cases bs with
    | nil => exact absurd h (by simp [Slot.clash])
    | cons b bs =>
      obtain ⟨m, hm, hr⟩ := Option.bind_eq_some_iff.mp ha
      rw [Slot.clash] at h
      rw [Slot.afterAll?]
      split at h
      · rename_i hab
        rw [← hab, hm]
        exact ih h hr
      · -- both places would begin with the first character
        obtain ⟨c, t, rfl, hc⟩ := Slot.exists_cons_of_after? hm
        have hb := Slot.not_begins_of_excludes h hc
        cases hbm : b.after? (c :: (t ++ m)) with
        | none => rfl
        | some m' =>
          obtain ⟨d, t', hd, hbegins⟩ := Slot.exists_cons_of_after? hbm
          rw [List.cons.injEq] at hd
          rw [← hd.1, hb] at hbegins
          exact absurd hbegins (by simp)

/-! ## The order of keywords -/

/-- Whether a spelling may stand before another one: the two clash, or it goes on where the other
one ends. -/
def Spelling.mayPrecede (a b : Spelling) : Bool :=
  Slot.clash a.slots b.slots || (b.slots.isPrefixOf a.slots && a.slots.length != b.slots.length)

theorem Slot.exists_append_of_afterAll? {as : List Slot} {s r : List Char}
    (h : Slot.afterAll? as s = some r) : ∃ u, s = u ++ r ∧ (u = [] → as = []) := by
  induction as generalizing s with
  | nil => exact ⟨[], Option.some.inj h, fun _ => rfl⟩
  | cons a as ih =>
    obtain ⟨m, hm, hr⟩ := Option.bind_eq_some_iff.mp h
    obtain ⟨c, t, rfl, _⟩ := Slot.exists_cons_of_after? hm
    obtain ⟨u, rfl, _⟩ := ih hr
    exact ⟨c :: (t ++ u), by simp, fun hnil => absurd hnil (List.cons_ne_nil _ _)⟩

/-- Of two spellings in the right order that both fit, the first one takes more. -/
theorem Spelling.exists_append_of_mayPrecede {a b : Spelling} (h : a.mayPrecede b = true)
    {s r r' : List Char} (ha : a.after s = .ok r) (hb : b.after s = .ok r') :
    ∃ u, r' = u ++ r ∧ u ≠ [] := by
  rw [Spelling.after_eq_ok_iff] at ha hb
  rw [Spelling.mayPrecede, Bool.or_eq_true, Bool.and_eq_true] at h
  rcases h with h | ⟨h, hlen⟩
  · rw [Slot.afterAll?_eq_none_of_clash h ha] at hb
    exact absurd hb (by simp)
  · -- the first spelling goes on from where the second one ends
    obtain ⟨more, hmore⟩ := List.isPrefixOf_iff_prefix.mp h
    rw [← hmore, Slot.afterAll?_append, hb, Option.bind_some] at ha
    obtain ⟨u, hu, hnil⟩ := Slot.exists_append_of_afterAll? ha
    refine ⟨u, hu, fun hu0 => ?_⟩
    rw [← hmore, hnil hu0, List.append_nil] at hlen
    exact absurd hlen (by simp)

variable {α : Type}

/-- One reading of a text goes on at least as far as another, and says the same if it ends at the
same place. -/
def Extends (m m' : α × List Char) : Prop :=
  ∃ u, m'.2 = u ++ m.2 ∧ (u = [] → m.1 = m'.1)

theorem Extends.refl (m : α × List Char) : Extends m m :=
  ⟨[], rfl, fun _ => rfl⟩

theorem Extends.trans {l m n : α × List Char} (hlm : Extends l m) (hmn : Extends m n) :
    Extends l n := by
  obtain ⟨u, hu, hl⟩ := hlm
  obtain ⟨v, hv, hm⟩ := hmn
  refine ⟨v ++ u, by rw [hv, hu, List.append_assoc], fun hnil => ?_⟩
  obtain ⟨hv0, hu0⟩ := List.append_eq_nil_iff.mp hnil
  rw [hl hu0, hm hv0]

/-- Where both keywords fit, the first one goes on at least as far. -/
def Precedes (k k' : Keyword α) : Prop :=
  ∀ ⦃s r r' : List Char⦄, k.spelling.after s = .ok r → k'.spelling.after s = .ok r' →
    Extends (k.meaning r) (k'.meaning r')

theorem precedes_of_clash {k k' : Keyword α}
    (h : Slot.clash k.spelling.slots k'.spelling.slots = true) : Precedes k k' := by
  intro s r r' hr hr'
  rw [Spelling.after_eq_ok_iff] at hr hr'
  rw [Slot.afterAll?_eq_none_of_clash h hr] at hr'
  exact absurd hr' (by simp)

theorem precedes_fixed {k : Keyword α} (hk : ∀ r, (k.meaning r).2 <:+ r) {sp : Spelling}
    (h : k.spelling.mayPrecede sp = true) (a : α) : Precedes k (fixed sp a) := by
  intro s r r' hr hr'
  obtain ⟨u, hu, hne⟩ := Spelling.exists_append_of_mayPrecede h hr hr'
  obtain ⟨v, hv⟩ := hk r
  refine ⟨u ++ v, ?_, fun hnil => absurd (List.append_eq_nil_iff.mp hnil).1 hne⟩
  rw [List.append_assoc, hv]
  exact hu

/-! ## The first match -/

theorem exists_mem_of_firstMatch {s : List Char} {ks : List (Keyword α)} {stop : List Char}
    {m : α × List Char} (h : firstMatch s ks stop = .ok m) :
    ∃ k ∈ ks, ∃ r, k.spelling.after s = .ok r ∧ k.meaning r = m := by
  induction ks generalizing stop with
  | nil => exact absurd h (by simp [firstMatch])
  | cons k ks ih =>
    rw [firstMatch] at h
    split at h
    · rename_i r hr
      exact ⟨k, List.mem_cons_self, r, hr, Except.ok.inj h⟩
    · obtain ⟨k', hk', hr⟩ := ih h
      exact ⟨k', List.mem_cons_of_mem k hk', hr⟩

/-- In an ordered list the first match goes on at least as far as any keyword that fits. -/
theorem firstMatch_extends {ks : List (Keyword α)} (hks : ks.Pairwise Precedes) {k : Keyword α}
    (hk : k ∈ ks) {s r : List Char} (hr : k.spelling.after s = .ok r) (stop : List Char) :
    ∃ m, firstMatch s ks stop = .ok m ∧ Extends m (k.meaning r) := by
  induction ks generalizing stop with
  | nil => exact absurd hk (by simp)
  | cons k₀ ks ih =>
    rw [List.pairwise_cons] at hks
    rw [firstMatch]
    cases h₀ : k₀.spelling.after s with
    | ok r₀ =>
      -- this keyword decides; it is the one given or stands before it
      refine ⟨k₀.meaning r₀, rfl, ?_⟩
      rcases List.mem_cons.mp hk with rfl | hk
      · rw [hr] at h₀
        rw [Except.ok.inj h₀]
        exact Extends.refl _
      · exact hks.1 k hk h₀ hr
    | error stop₀ =>
      rcases List.mem_cons.mp hk with rfl | hk
      · rw [hr] at h₀
        exact absurd h₀ (by simp)
      · exact ih hks.2 hk stop₀

/-- Where nothing fits, the place reported is where the last keyword broke off. -/
theorem after_eq_error_of_firstMatch {s : List Char} {ks : List (Keyword α)} {k : Keyword α}
    {stop e : List Char} (h : firstMatch s (ks ++ [k]) stop = .error e) :
    k.spelling.after s = .error e := by
  induction ks generalizing stop with
  | nil =>
    rw [List.nil_append, firstMatch] at h
    split at h
    · exact absurd h (by simp)
    · rename_i stop' hstop
      rw [hstop, Except.error.inj h]
  | cons k₀ ks ih =>
    rw [List.cons_append, firstMatch] at h
    split at h
    · exact absurd h (by simp)
    · exact ih h

end SchemaEvolution.Keyword

/-! ## Whole texts -/

namespace SchemaEvolution.Vocabulary

open Keyword (firstMatch)

variable {α : Type} {v : Vocabulary α} {text : String}

theorem read_of_ok_nil {a : α}
    (h : firstMatch (Text.trim text.toList) v.keywords (Text.trim text.toList) = .ok (a, [])) :
    v.read text = .ok a := by
  simp only [read, h]

theorem read_of_ok_cons {a : α} {r : List Char} (hr : r ≠ [])
    (h : firstMatch (Text.trim text.toList) v.keywords (Text.trim text.toList) = .ok (a, r)) :
    v.read text = .error (.trailing v.subject (Text.offsetOf (Text.trim text.toList) r)
      (String.ofList r)) := by
  obtain ⟨c, r, rfl⟩ := List.exists_cons_of_ne_nil hr
  simp only [read, h]

theorem read_of_error {stop : List Char}
    (h : firstMatch (Text.trim text.toList) v.keywords (Text.trim text.toList) = .error stop) :
    v.read text = .error (.unknown v.subject (Text.offsetOf (Text.trim text.toList) stop)
      (String.ofList (Text.trim text.toList))) := by
  simp only [read, h]

/-- A text is accepted if and only if the first match takes all of it. -/
theorem read_eq_ok_iff {a : α} :
    v.read text = .ok a ↔
      firstMatch (Text.trim text.toList) v.keywords (Text.trim text.toList) = .ok (a, []) := by
  constructor
  · intro h
    cases hmatch : firstMatch (Text.trim text.toList) v.keywords (Text.trim text.toList) with
    | error stop =>
      rw [read_of_error hmatch] at h
      exact absurd h (by simp)
    | ok m =>
      obtain ⟨b, r⟩ := m
      by_cases hr : r = []
      · rw [hr] at hmatch ⊢
        rw [read_of_ok_nil hmatch] at h
        rw [Except.ok.inj h]
      · rw [read_of_ok_cons hr hmatch] at h
        exact absurd h (by simp)
  · exact read_of_ok_nil

end SchemaEvolution.Vocabulary
