import SchemaEvolution.Proofs.Keyword.FirstMatch
import SchemaEvolution.ReferentialAction

/-!
# Reading referential actions exactly

`Denotes u a` says, without any reader, that the text `u` names the action `a`. No name goes on
where another one ends, so a text begins with one name at most (`eq_of_denotes`), and this one is
what the reader takes off the front (`firstMatch_eq_ok_iff`). Where there is none, the error stands
at the place at which the last spelling in the vocabulary, `set default`, breaks off; `BreaksOff`
says where that is.
-/

namespace SchemaEvolution.ReferentialAction

open Keyword (IsWord IsSpace Piece Spelling Slot Precedes fixed firstMatch isSeparator)
open Text (Stops)

/-! ## The grammar -/

/-- What stands between the two words of a name: a single underscore, or else separators. -/
def IsLink (u : List Char) : Prop :=
  u = ['_'] ∨ IsSpace u

/-- The texts that name an action. -/
inductive Denotes : List Char → ReferentialAction → Prop
  | noAction {u x v : List Char} (hu : IsWord "no" u) (hx : IsLink x) (hv : IsWord "action" v) :
    Denotes (u ++ x ++ v) noAction
  | none {u : List Char} (hu : IsWord "none" u) : Denotes u noAction
  | cascade {u : List Char} (hu : IsWord "cascade" u) : Denotes u cascade
  | setNull {u x v : List Char} (hu : IsWord "set" u) (hx : IsLink x) (hv : IsWord "null" v) :
    Denotes (u ++ x ++ v) setNull
  | setDefault {u x v : List Char} (hu : IsWord "set" u) (hx : IsLink x)
      (hv : IsWord "default" v) : Denotes (u ++ x ++ v) setDefault

/-- `BreaksOff t n`: the text `t` agrees with `set`, and with a link behind it, for `n` bytes. A
link of separators takes as many of them as there are. -/
inductive BreaksOff : List Char → Nat → Prop
  | start {t : List Char} (h : ∀ u r, t = u ++ r → ¬ IsWord "set" u) : BreaksOff t 0
  | word {u r : List Char} (hu : IsWord "set" u) (h : ∀ x s, r = x ++ s → ¬ IsLink x) :
    BreaksOff (u ++ r) 3
  | underscore {u r : List Char} (hu : IsWord "set" u) : BreaksOff (u ++ '_' :: r) (3 + 1)
  | separators {u x r : List Char} (hu : IsWord "set" u) (hx : IsSpace x)
      (hr : Stops isSeparator r) : BreaksOff (u ++ (x ++ r)) (3 + x.length)

/-! ## The vocabulary -/

/-- The spellings with what they mean, in the order of the vocabulary. -/
def spellings : List (Spelling × ReferentialAction) :=
  [([.word "no", .gap, .word "action"], noAction), ([.word "none"], noAction),
   ([.word "cascade"], cascade), ([.word "set", .gap, .word "null"], setNull),
   ([.word "set", .gap, .word "default"], setDefault)]

theorem keywords_eq : vocabulary.keywords = spellings.map fun w => fixed w.1 w.2 := rfl

/-- No text begins with two spellings. -/
theorem clash_of_ne : ∀ v ∈ spellings, ∀ w ∈ spellings, v ≠ w →
    Slot.clash v.1.slots w.1.slots = true := by
  decide

theorem pairwise_precedes : vocabulary.keywords.Pairwise Precedes := by
  have hclash : spellings.Pairwise fun v w => Slot.clash v.1.slots w.1.slots = true := by
    decide
  rw [keywords_eq, List.pairwise_map]
  exact hclash.imp fun h => Keyword.precedes_of_clash h

theorem written_pair {first second : String} {t : List Char} :
    Spelling.Written [.word first, .gap, .word second] t ↔
      ∃ u x v, t = u ++ x ++ v ∧ IsWord first u ∧ IsLink x ∧ IsWord second v := by
  constructor
  · rintro ⟨u, _, rfl, hu, x, v, rfl, hx, hv⟩
    exact ⟨u, x, v, (List.append_assoc u x v).symm, hu, hx, Spelling.written_word.mp hv⟩
  · rintro ⟨u, x, v, rfl, hu, hx, hv⟩
    exact ⟨u, x ++ v, List.append_assoc u x v, hu, x, v, rfl, hx, Spelling.written_word.mpr hv⟩

/-- The grammar is what the spellings stand for. -/
theorem denotes_iff {u : List Char} {a : ReferentialAction} :
    Denotes u a ↔ ∃ sp, (sp, a) ∈ spellings ∧ sp.Written u := by
  constructor
  · intro h
    cases h with
    | noAction hu hx hv =>
      exact ⟨_, by decide, written_pair.mpr ⟨_, _, _, rfl, hu, hx, hv⟩⟩
    | none hu => exact ⟨[.word "none"], by decide, Spelling.written_word.mpr hu⟩
    | cascade hu => exact ⟨[.word "cascade"], by decide, Spelling.written_word.mpr hu⟩
    | setNull hu hx hv =>
      exact ⟨_, by decide, written_pair.mpr ⟨_, _, _, rfl, hu, hx, hv⟩⟩
    | setDefault hu hx hv =>
      exact ⟨_, by decide, written_pair.mpr ⟨_, _, _, rfl, hu, hx, hv⟩⟩
  · rintro ⟨sp, hsp, hu⟩
    simp only [spellings, List.mem_cons, Prod.mk.injEq, List.not_mem_nil, or_false] at hsp
    rcases hsp with ⟨rfl, rfl⟩ | ⟨rfl, rfl⟩ | ⟨rfl, rfl⟩ | ⟨rfl, rfl⟩ | ⟨rfl, rfl⟩
    · obtain ⟨v, x, w, rfl, hv, hx, hw⟩ := written_pair.mp hu
      exact .noAction hv hx hw
    · exact .none (Spelling.written_word.mp hu)
    · exact .cascade (Spelling.written_word.mp hu)
    · obtain ⟨v, x, w, rfl, hv, hx, hw⟩ := written_pair.mp hu
      exact .setNull hv hx hw
    · obtain ⟨v, x, w, rfl, hv, hx, hw⟩ := written_pair.mp hu
      exact .setDefault hv hx hw

/-! ## What is taken off the front -/

/-- Each spelling is taken off the front of a text, whatever follows it. -/
theorem after_append {w : Spelling × ReferentialAction} (hw : w ∈ spellings) {u : List Char}
    (hu : w.1.Written u) (r : List Char) : w.1.after (u ++ r) = .ok r := by
  have hspaced : ∀ w ∈ spellings, w.1.isSpaced = true := by decide
  exact Spelling.after_append (hspaced w hw) hu r

/-- A text begins with one name at most. -/
theorem eq_of_denotes {p q r s : List Char} {a b : ReferentialAction} (hp : Denotes p a)
    (hq : Denotes q b) (h : p ++ r = q ++ s) : p = q ∧ a = b := by
  obtain ⟨v, hv, hpv⟩ := denotes_iff.mp hp
  obtain ⟨w, hw, hqw⟩ := denotes_iff.mp hq
  have hr := after_append hv hpv r
  have hs := after_append hw hqw s
  rw [h] at hr
  by_cases hvw : (v, a) = (w, b)
  · obtain ⟨rfl, rfl⟩ := Prod.mk.inj hvw
    rw [hr] at hs
    have hrs : r = s := Except.ok.inj hs
    rw [hrs] at h
    exact ⟨List.append_cancel_right h, rfl⟩
  · -- two spellings would stand at the front of one text
    rw [Spelling.after_eq_ok_iff] at hr hs
    rw [Slot.afterAll?_eq_none_of_clash (clash_of_ne _ hv _ hw hvw) hr] at hs
    exact absurd hs (by simp)

/-- What the reader takes is the name at the front of the text, and it finds each name. -/
theorem firstMatch_eq_ok_iff {t stop r : List Char} {a : ReferentialAction} :
    firstMatch t vocabulary.keywords stop = .ok (a, r) ↔ ∃ p, t = p ++ r ∧ Denotes p a := by
  have htaken : ∀ m, firstMatch t vocabulary.keywords stop = .ok m →
      ∃ p, t = p ++ m.2 ∧ Denotes p m.1 := by
    intro m hm
    obtain ⟨k, hk, rest, hrest, rfl⟩ := Keyword.exists_mem_of_firstMatch hm
    rw [keywords_eq, List.mem_map] at hk
    obtain ⟨w, hw, rfl⟩ := hk
    obtain ⟨p, hp, hwritten⟩ := Spelling.written_of_after hrest
    exact ⟨p, hp, denotes_iff.mpr ⟨w.1, hw, hwritten⟩⟩
  constructor
  · exact htaken (a, r)
  · rintro ⟨p, rfl, hp⟩
    obtain ⟨sp, hsp, hwritten⟩ := denotes_iff.mp hp
    have hmem : fixed sp a ∈ vocabulary.keywords := by
      rw [keywords_eq]
      exact List.mem_map_of_mem hsp
    obtain ⟨m, hm, _⟩ := Keyword.firstMatch_extends pairwise_precedes hmem
      (after_append hsp hwritten r) stop
    obtain ⟨q, hq, hdenotes⟩ := htaken m hm
    obtain ⟨rfl, rfl⟩ := eq_of_denotes hp hdenotes hq
    rw [hm, List.append_cancel_left hq]

/-! ## Where the last spelling breaks off -/

theorem byteLength_of_isWord {word : String} {u : List Char} (hu : IsWord word u) :
    Text.byteLength u = Text.byteLength word.toList := by
  rw [← hu, Text.byteLength_map_toLower]

/-- Each text breaks off somewhere. -/
theorem exists_breaksOff (t : List Char) : ∃ n, BreaksOff t n := by
  by_cases h : ∃ u r, t = u ++ r ∧ IsWord "set" u
  · obtain ⟨u, r, rfl, hu⟩ := h
    obtain ⟨x, s, rfl, hx, hs⟩ := Text.exists_append_stops isSeparator r
    by_cases hne : x = []
    · -- without separators there is an underscore, or no link at all
      rw [hne, List.nil_append]
      by_cases hunder : ∃ z, s = '_' :: z
      · obtain ⟨z, rfl⟩ := hunder
        exact ⟨_, .underscore hu⟩
      · refine ⟨_, .word hu ?_⟩
        rintro y z rfl (rfl | hy)
        · exact hunder ⟨z, rfl⟩
        · obtain ⟨c, y, rfl⟩ := List.exists_cons_of_ne_nil hy.1
          rw [List.cons_append, Text.stops_cons, hy.2 c List.mem_cons_self] at hs
          exact absurd hs (by simp)
    · exact ⟨_, .separators hu ⟨hne, hx⟩ hs⟩
  · refine ⟨0, .start ?_⟩
    intro u r hur hu
    exact h ⟨u, r, hur, hu⟩

/-- Where `set default` does not stand at the front, it breaks off where it agrees no longer. -/
theorem offsetOf_of_breaksOff {t stop : List Char} {n : Nat} (hn : BreaksOff t n)
    (h : Spelling.after [.word "set", .gap, .word "default"] t = .error stop) :
    Text.offsetOf t stop = n := by
  have hset : ∀ u, IsWord "set" u → Text.byteLength u = 3 := fun u hu => byteLength_of_isWord hu
  have hword : ∀ u r, IsWord "set" u → (Piece.word "set").after? (u ++ r) = some r :=
    fun u r hu => Keyword.afterWord?_append hu r
  -- once the link is taken, only the second word can be missing
  have hsecond : ∀ r, Spelling.after [.word "default"] r = .error stop → stop = r := by
    intro r hr
    rw [Spelling.after] at hr
    split at hr
    · exact absurd hr (by simp [Spelling.after])
    · exact (Except.error.inj hr).symm
  cases hn with
  | start hno =>
    rw [Spelling.after_cons_of_none (Piece.after?_eq_none hno)] at h
    rw [← Except.error.inj h, Text.offsetOf, Nat.sub_self]
  | @word u r hu hno =>
    rw [Spelling.after_cons_of_some (hword u r hu),
      Spelling.after_cons_of_none (Piece.after?_eq_none hno)] at h
    rw [← Except.error.inj h, Text.offsetOf_append, hset u hu]
  | @underscore u r hu =>
    have hgap : Piece.gap.after? ('_' :: r) = some r := rfl
    rw [Spelling.after_cons_of_some (hword u _ hu), Spelling.after_cons_of_some hgap] at h
    rw [hsecond r h, ← List.singleton_append, ← List.append_assoc, Text.offsetOf_append,
      Text.byteLength_append, hset u hu]
    rfl
  | @separators u x r hu hx hr =>
    rw [Spelling.after_cons_of_some (hword u _ hu),
      Spelling.after_cons_of_some (Piece.after?_gap_append hx hr)] at h
    rw [hsecond r h, ← List.append_assoc, Text.offsetOf_append, Text.byteLength_append, hset u hu,
      Keyword.byteLength_of_separators hx.2]

/-! ## The outcome for every text -/

/-- A text is accepted if and only if it names an action. -/
theorem read_eq_ok_iff {text : String} {a : ReferentialAction} :
    read text = .ok a ↔ Denotes (Text.trim text.toList) a := by
  rw [read, Vocabulary.read_eq_ok_iff, firstMatch_eq_ok_iff]
  constructor
  · rintro ⟨p, hp, hdenotes⟩
    rwa [hp, List.append_nil]
  · intro h
    exact ⟨_, (List.append_nil _).symm, h⟩

/-- The reader stops at the end of the name at the front of the text. -/
theorem read_of_denotes {text : String} {p r : List Char} {a : ReferentialAction}
    (ht : Text.trim text.toList = p ++ r) (hr : r ≠ []) (hp : Denotes p a) :
    read text = .error (.trailing "referential action" (Text.byteLength p) (String.ofList r)) := by
  have hmatch : firstMatch (Text.trim text.toList) vocabulary.keywords (Text.trim text.toList)
      = .ok (a, r) := firstMatch_eq_ok_iff.mpr ⟨p, ht, hp⟩
  rw [read, Vocabulary.read_of_ok_cons hr hmatch, ht, Text.offsetOf_append]
  rfl

/-- Without a name at the front, the error stands where the last spelling breaks off. -/
theorem read_of_no_name {text : String} {n : Nat}
    (h : ∀ q a, q <+: Text.trim text.toList → ¬ Denotes q a)
    (hn : BreaksOff (Text.trim text.toList) n) :
    read text =
      .error (.unknown "referential action" n (String.ofList (Text.trim text.toList))) := by
  cases hmatch : firstMatch (Text.trim text.toList) vocabulary.keywords
      (Text.trim text.toList) with
  | ok m =>
    obtain ⟨p, hp, hdenotes⟩ := firstMatch_eq_ok_iff.mp hmatch
    exact absurd hdenotes (h p m.1 ⟨m.2, hp.symm⟩)
  | error stop =>
    have hlast : vocabulary.keywords = vocabulary.keywords.dropLast ++
        [fixed [.word "set", .gap, .word "default"] setDefault] := rfl
    have hbroken := hmatch
    rw [hlast] at hbroken
    have hoffset := offsetOf_of_breaksOff hn (Keyword.after_eq_error_of_firstMatch hbroken)
    rw [read, Vocabulary.read_of_error hmatch, hoffset]
    rfl

/-- The reader is exactly the grammar. The trimmed text `t` is read as an action if it names it.
Otherwise, if a name stands at the front of `t`, it is the only one, the error is where it ends, and
the message quotes what follows. If there is none, the error is where `t` agrees with `set default`
no longer, and the message quotes `t`. -/
theorem read_outcome (text : String) :
    let t := Text.trim text.toList
    (∀ a, read text = .ok a ↔ Denotes t a) ∧
    (∀ p r a, t = p ++ r → r ≠ [] → Denotes p a →
      (∀ q b, q <+: t → Denotes q b → q = p) ∧
      ∃ e, read text = .error e ∧ e.position = (String.ofList p).utf8ByteSize ∧
        e.reason = s!"Unexpected trailing content in referential action: '{String.ofList r}'") ∧
    ((∀ q a, q <+: t → ¬ Denotes q a) →
      ∃ e, read text = .error e ∧ (∀ n, e.position = n ↔ BreaksOff t n) ∧
        e.reason = s!"Unknown referential action: '{String.ofList t}'") := by
  intro t
  refine ⟨fun a => read_eq_ok_iff, fun p r a ht hr hp => ⟨?_, ?_⟩, fun h => ?_⟩
  · intro q b hq hdenotes
    obtain ⟨s, hs⟩ := hq
    exact (eq_of_denotes hdenotes hp (hs.trans ht)).1
  · refine ⟨_, read_of_denotes ht hr hp, ?_, rfl⟩
    exact Text.byteLength_eq_utf8ByteSize p
  · obtain ⟨n, hn⟩ := exists_breaksOff t
    refine ⟨_, read_of_no_name h hn, fun m => ⟨?_, ?_⟩, rfl⟩
    · rintro rfl
      exact hn
    · -- a text that breaks off at two places would be refused at both
      intro hm
      have hsame := (read_of_no_name h hn).symm.trans (read_of_no_name h hm)
      simp only [Except.error.injEq, KeywordError.unknown.injEq] at hsame
      exact hsame.2.1

end SchemaEvolution.ReferentialAction
