import SchemaEvolution.Proofs.ColumnType.Grammar

/-!
# Reading column types exactly

The reader for column types against the grammar `Denotes`: it accepts a text if and only if the
grammar does, and otherwise it reports the longest word of the grammar at the front of the text, or
that there is none. The vocabulary commits to the first spelling that fits, so all rests on its
order (`pairwise_precedes`).
-/

namespace SchemaEvolution.ColumnType

open Keyword (IsWord IsSpace Spelling Precedes Extends fixed firstMatch)

/-! ## The order of the vocabulary -/

/-- The spellings with a fixed meaning, in the order of the vocabulary. -/
def fixedSpellings : List (Spelling × ColumnType) :=
  [([.word "timestamp", .space, .word "with", .space, .word "time", .space, .word "zone"],
     timestampWithTimeZone),
   ([.word "timestamptz"], timestampWithTimeZone), ([.word "timestamp"], timestamp),
   ([.word "interval"], interval), ([.word "inet"], ipAddress), ([.word "ip_address"], ipAddress),
   ([.word "date"], date), ([.word "boolean"], bool), ([.word "bool"], bool),
   ([.word "serial"], serial), ([.word "integer"], integer), ([.word "int"], integer),
   ([.word "double", .space, .word "precision"], double), ([.word "double"], double)]

theorem keywords_eq : vocabulary.keywords =
    ⟨[.word "varchar"], stringFrom⟩ :: ⟨[.word "string"], stringFrom⟩ ::
      fixedSpellings.map fun w => fixed w.1 w.2 := rfl

/-- A spelling that extends another one stands before it. -/
theorem pairwise_precedes : vocabulary.keywords.Pairwise Precedes := by
  have hvarchar : ∀ w ∈ fixedSpellings, Spelling.mayPrecede [.word "varchar"] w.1 = true := by
    decide
  have hstring : ∀ w ∈ fixedSpellings, Spelling.mayPrecede [.word "string"] w.1 = true := by
    decide
  have hfixed : fixedSpellings.Pairwise fun v w => v.1.mayPrecede w.1 = true := by
    decide
  rw [keywords_eq, List.pairwise_cons, List.pairwise_cons, List.pairwise_map]
  refine ⟨fun k hk => ?_, fun k hk => ?_, ?_⟩
  · rcases List.mem_cons.mp hk with rfl | hk
    · exact Keyword.precedes_of_clash (by decide)
    · obtain ⟨w, hw, rfl⟩ := List.mem_map.mp hk
      exact Keyword.precedes_fixed stringFrom_snd_suffix (hvarchar w hw) w.2
  · obtain ⟨w, hw, rfl⟩ := List.mem_map.mp hk
    exact Keyword.precedes_fixed stringFrom_snd_suffix (hstring w hw) w.2
  · exact hfixed.imp fun h => Keyword.precedes_fixed (fun r => List.suffix_refl r) h _

/-! ## What is read is a word of the grammar -/

theorem denotes_of_written {w : Spelling × ColumnType} (hw : w ∈ fixedSpellings) {u : List Char}
    (hu : w.1.Written u) : Denotes u w.2 := by
  simp only [fixedSpellings, List.mem_cons, List.not_mem_nil, or_false] at hw
  -- two spellings have several words, the others have one
  rcases hw with rfl | rfl | rfl | rfl | rfl | rfl | rfl | rfl | rfl | rfl | rfl | rfl | rfl | rfl
  case inl =>
    obtain ⟨a, _, rfl, ha, x, _, rfl, hx, b, _, rfl, hb, y, _, rfl, hy, c, _, rfl, hc, z, _, rfl,
      hz, d, _, rfl, hd, rfl⟩ := hu
    have hdenotes := Denotes.withTimeZone ha hx hb hy hc hz hd
    simpa only [List.append_assoc, List.append_nil] using hdenotes
  case inr.inr.inr.inr.inr.inr.inr.inr.inr.inr.inr.inr.inl =>
    obtain ⟨a, _, rfl, ha, x, _, rfl, hx, b, _, rfl, hb, rfl⟩ := hu
    have hdenotes := Denotes.precise ha hx hb
    simpa only [List.append_assoc, List.append_nil] using hdenotes
  all_goals exact .plain (by decide) (Spelling.written_word.mp hu)

theorem denotes_stringFrom {u s r : List Char} {a : ColumnType}
    (hu : IsWord "varchar" u ∨ IsWord "string" u) (h : stringFrom s = (a, r)) :
    ∃ p, u ++ s = p ++ r ∧ Denotes p a := by
  rw [stringFrom] at h
  split at h
  · rename_i n rest hlength
    obtain ⟨rfl, rfl⟩ := Prod.mk.inj h
    obtain ⟨l, rfl, hl⟩ := exists_group_of_length? hlength
    exact ⟨u ++ l, (List.append_assoc u l _).symm, .bounded hu hl⟩
  · obtain ⟨rfl, rfl⟩ := Prod.mk.inj h
    exact ⟨u, rfl, .unbounded hu⟩

/-- What the reader takes off the front of a text is a word for the type that it gives. -/
theorem exists_denotes_of_firstMatch {s stop r : List Char} {a : ColumnType}
    (h : firstMatch s vocabulary.keywords stop = .ok (a, r)) :
    ∃ p, s = p ++ r ∧ Denotes p a := by
  obtain ⟨k, hk, m, hm, hmeaning⟩ := Keyword.exists_mem_of_firstMatch h
  obtain ⟨u, rfl, hu⟩ := Spelling.written_of_after hm
  rw [keywords_eq, List.mem_cons, List.mem_cons, List.mem_map] at hk
  rcases hk with rfl | rfl | ⟨w, hw, rfl⟩
  · exact denotes_stringFrom (.inl (Spelling.written_word.mp hu)) hmeaning
  · exact denotes_stringFrom (.inr (Spelling.written_word.mp hu)) hmeaning
  · obtain ⟨rfl, rfl⟩ := Prod.mk.inj hmeaning
    exact ⟨u, rfl, denotes_of_written hw hu⟩

/-! ## Each word of the grammar is read -/

theorem IsLength.ne_nil {n : UInt32} {l : List Char} (h : IsLength n l) : l ≠ [] := by
  obtain ⟨_, _, _, _, _, _⟩ := h
  simp

/-- A string goes on at least to the end of its word. -/
theorem stringFrom_extends (r : List Char) : Extends (stringFrom r) (string none, r) := by
  rw [stringFrom]
  split
  · rename_i n rest hlength
    obtain ⟨l, rfl, hl⟩ := exists_group_of_length? hlength
    exact ⟨l, rfl, fun hnil => absurd hnil hl.ne_nil⟩
  · exact Extends.refl _

/-- The reader goes on at least as far as any word of the grammar at the front of the text. -/
theorem firstMatch_extends_of_denotes {p : List Char} {a : ColumnType} (h : Denotes p a)
    (r stop : List Char) :
    ∃ m, firstMatch (p ++ r) vocabulary.keywords stop = .ok m ∧ Extends m (a, r) := by
  have hstring : ∀ u, IsWord "varchar" u ∨ IsWord "string" u → ∀ t, ∃ m,
      firstMatch (u ++ t) vocabulary.keywords stop = .ok m ∧ Extends m (stringFrom t) := by
    rintro u (hu | hu) t
    · have hmem : ⟨[.word "varchar"], stringFrom⟩ ∈ vocabulary.keywords := List.mem_cons_self
      exact Keyword.firstMatch_extends pairwise_precedes hmem
        (Spelling.after_append rfl (Spelling.written_word.mpr hu) t) stop
    · have hmem : ⟨[.word "string"], stringFrom⟩ ∈ vocabulary.keywords :=
        List.mem_cons_of_mem _ List.mem_cons_self
      exact Keyword.firstMatch_extends pairwise_precedes hmem
        (Spelling.after_append rfl (Spelling.written_word.mpr hu) t) stop
  have hfixed : ∀ w ∈ fixedSpellings, ∀ u, w.1.Written u → ∃ m,
      firstMatch (u ++ r) vocabulary.keywords stop = .ok m ∧ Extends m (w.2, r) := by
    intro w hw u hu
    have hspaced : ∀ w ∈ fixedSpellings, w.1.isSpaced = true := by decide
    have hmem : fixed w.1 w.2 ∈ vocabulary.keywords := by
      rw [keywords_eq, List.mem_cons, List.mem_cons, List.mem_map]
      exact .inr (.inr ⟨w, hw, rfl⟩)
    exact Keyword.firstMatch_extends pairwise_precedes hmem
      (Spelling.after_append (hspaced w hw) hu r) stop
  cases h with
  | @plain w _ _ hmem hu =>
    have hplain : ∀ w ∈ plainWords, ([.word w.1], w.2) ∈ fixedSpellings := by decide
    exact hfixed ([.word w], a) (hplain (w, a) hmem) p (Spelling.written_word.mpr hu)
  | unbounded hu =>
    obtain ⟨m, hm, hext⟩ := hstring p hu r
    exact ⟨m, hm, hext.trans (stringFrom_extends r)⟩
  | @bounded u l n hu hl =>
    obtain ⟨m, hm, hext⟩ := hstring u hu (l ++ r)
    rw [stringFrom, length?_append hl] at hext
    exact ⟨m, by rwa [List.append_assoc], hext⟩
  | withTimeZone hu hx hv hy hw hz ht =>
    refine hfixed _ List.mem_cons_self _ ?_
    exact ⟨_, _, by simp only [List.append_assoc], hu, _, _, rfl, hx, _, _, rfl, hv, _, _, rfl, hy,
      _, _, rfl, hw, _, _, rfl, hz, Spelling.written_word.mpr ht⟩
  | precise hu hx hv =>
    refine hfixed ([.word "double", .space, .word "precision"], double) (by decide) _ ?_
    exact ⟨_, _, List.append_assoc _ _ _, hu, _, _, rfl, hx, Spelling.written_word.mpr hv⟩

/-! ## The outcome for every text -/

/-- Whether `p` is the longest word of the grammar at the front of `t`. -/
structure IsLongestWord (p t : List Char) : Prop where
  front : p <+: t
  denotes : ∃ a, Denotes p a
  longest : ∀ q a, q <+: t → Denotes q a → q.length ≤ p.length

/-- A text is accepted if and only if it is a word of the grammar. -/
theorem read_eq_ok_iff {text : String} {a : ColumnType} :
    read text = .ok a ↔ Denotes (Text.trim text.toList) a := by
  constructor
  · intro h
    obtain ⟨p, hp, hdenotes⟩ := exists_denotes_of_firstMatch (Vocabulary.read_eq_ok_iff.mp h)
    rw [hp, List.append_nil]
    exact hdenotes
  · intro h
    obtain ⟨⟨b, r⟩, hm, u, hu, hb⟩ :=
      firstMatch_extends_of_denotes h [] (Text.trim text.toList)
    obtain ⟨hu0, hr0⟩ := List.append_eq_nil_iff.mp (show u ++ r = [] from hu.symm)
    rw [List.append_nil, hr0, show b = a from hb hu0] at hm
    exact Vocabulary.read_of_ok_nil hm

/-- The reader stops at the end of the longest word of the grammar. -/
theorem read_of_isLongestWord {text : String} {p r : List Char}
    (ht : Text.trim text.toList = p ++ r) (hr : r ≠ [])
    (hp : IsLongestWord p (Text.trim text.toList)) :
    read text = .error (.trailing "data type" (Text.byteLength p) (String.ofList r)) := by
  obtain ⟨a, ha⟩ := hp.denotes
  obtain ⟨⟨b, r'⟩, hm, u, hu, _⟩ :=
    firstMatch_extends_of_denotes ha r (Text.trim text.toList)
  rw [← ht] at hm
  obtain ⟨p', hp', hb⟩ := exists_denotes_of_firstMatch hm
  -- what is taken reaches at least to the end of `p`, and it is a word itself
  have hle : p'.length ≤ p.length := hp.longest p' b ⟨r', hp'.symm⟩ hb
  have hu0 : u = [] := by
    have hlen := congrArg List.length (hp'.symm.trans ht)
    rw [show r = u ++ r' from hu] at hlen
    simp only [List.length_append] at hlen
    exact List.eq_nil_of_length_eq_zero (by omega)
  have hrr : r' = r := by rw [show r = u ++ r' from hu, hu0, List.nil_append]
  rw [hrr] at hm
  rw [read, Vocabulary.read_of_ok_cons hr hm, ht, Text.offsetOf_append]
  rfl

/-- Where nothing fits, the reader stands at the beginning of the text. -/
theorem eq_of_firstMatch_error {t stop e : List Char}
    (h : firstMatch t vocabulary.keywords stop = .error e) : e = t := by
  -- the last spelling is one word, which breaks off where it begins
  have hlast : vocabulary.keywords =
      vocabulary.keywords.dropLast ++ [fixed [.word "double"] double] := rfl
  rw [hlast] at h
  have hafter := Keyword.after_eq_error_of_firstMatch h
  rw [fixed, Spelling.after] at hafter
  split at hafter
  · exact absurd hafter (by simp [Spelling.after])
  · exact (Except.error.inj hafter).symm

/-- Without any word of the grammar at the front, nothing is taken. -/
theorem read_of_no_word {text : String}
    (h : ∀ q a, q <+: Text.trim text.toList → ¬ Denotes q a) :
    read text = .error (.unknown "data type" 0 (String.ofList (Text.trim text.toList))) := by
  cases hmatch : firstMatch (Text.trim text.toList) vocabulary.keywords
      (Text.trim text.toList) with
  | ok m =>
    obtain ⟨p, hp, hdenotes⟩ := exists_denotes_of_firstMatch hmatch
    exact absurd hdenotes (h p m.1 ⟨m.2, hp.symm⟩)
  | error stop =>
    rw [read, Vocabulary.read_of_error hmatch, eq_of_firstMatch_error hmatch, Text.offsetOf,
      Nat.sub_self]
    rfl

/-- The reader is exactly the grammar. The trimmed text `t` is read as a type if it is a word for
it. Otherwise, if there is a word of the grammar at the front of `t`, the longest one ends where the
error is, and the message quotes what follows; if there is none, the message quotes `t`. -/
theorem read_exact (text : String) :
    let t := Text.trim text.toList
    (∀ a, read text = .ok a ↔ Denotes t a) ∧
    (∀ p r, t = p ++ r → r ≠ [] → IsLongestWord p t →
      ∃ e, read text = .error e ∧ e.position = (String.ofList p).utf8ByteSize ∧
        e.reason = s!"Unexpected trailing content in data type: '{String.ofList r}'") ∧
    ((∀ q a, q <+: t → ¬ Denotes q a) →
      ∃ e, read text = .error e ∧ e.position = 0 ∧
        e.reason = s!"Unknown data type: '{String.ofList t}'") := by
  intro t
  refine ⟨fun a => read_eq_ok_iff, fun p r ht hr hp => ?_, fun h => ?_⟩
  · refine ⟨_, read_of_isLongestWord ht hr hp, ?_, rfl⟩
    exact Text.byteLength_eq_utf8ByteSize p
  · exact ⟨_, read_of_no_word h, rfl, rfl⟩

end SchemaEvolution.ColumnType
