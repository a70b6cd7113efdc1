import SchemaEvolution.ColumnType
import SchemaEvolution.Proofs.Keyword.FirstMatch
import SchemaEvolution.Proofs.Text.Blank

/-!
# The words for column types

`Denotes u a` says, without any reader, that the text `u` is a word for the type `a`. The reader
tries its spellings in order and commits to the first one that fits, and still it takes the longest
such word at the front of a text:

* `exists_denotes_of_firstMatch`: what it takes is a word for the type it gives;
* `firstMatch_extends_of_denotes`: it goes on at least as far as any word at the front.

The length of a string belongs to its word only if it is complete and fits 32 bits; otherwise the
word ends before the parentheses and before the separators in front of them (`length?_append`,
`exists_group_of_length?`).
-/

namespace SchemaEvolution.ColumnType

open Keyword (IsWord IsSpace isSeparator)
open Text (Stops)

/-! ## The grammar -/

/-- The words that name a type by themselves. -/
def plainWords : List (String × ColumnType) :=
  [("timestamptz", timestampWithTimeZone), ("timestamp", timestamp), ("interval", interval),
   ("inet", ipAddress), ("ip_address", ipAddress), ("date", date), ("boolean", bool),
   ("bool", bool), ("serial", serial), ("integer", integer), ("int", integer), ("double", double)]

/-- Separators that may be missing. -/
def IsGap (u : List Char) : Prop :=
  ∀ c ∈ u, isSeparator c = true

/-- A number in parentheses, which stands for a length of at most 32 bits. -/
inductive IsLength (n : UInt32) : List Char → Prop
  | mk {x y ds z : List Char} (hx : IsGap x) (hy : IsGap y) (hz : IsGap z) (hne : ds ≠ [])
      (hds : ∀ c ∈ ds, c.isDigit = true) (hn : Decimal.value 10 ds = n.toNat) :
      IsLength n (x ++ '(' :: (y ++ ds ++ z ++ [')']))

/-- The texts that name a column type. -/
inductive Denotes : List Char → ColumnType → Prop
  | plain {w : String} {a : ColumnType} {u : List Char} (hmem : (w, a) ∈ plainWords)
      (hu : IsWord w u) : Denotes u a
  | unbounded {u : List Char} (hu : IsWord "varchar" u ∨ IsWord "string" u) :
      Denotes u (string none)
  | bounded {u l : List Char} {n : UInt32} (hu : IsWord "varchar" u ∨ IsWord "string" u)
      (hl : IsLength n l) : Denotes (u ++ l) (string (some n))
  | withTimeZone {u x v y w z t : List Char} (hu : IsWord "timestamp" u) (hx : IsSpace x)
      (hv : IsWord "with" v) (hy : IsSpace y) (hw : IsWord "time" w) (hz : IsSpace z)
      (ht : IsWord "zone" t) : Denotes (u ++ x ++ v ++ y ++ w ++ z ++ t) timestampWithTimeZone
  | precise {u x v : List Char} (hu : IsWord "double" u) (hx : IsSpace x)
      (hv : IsWord "precision" v) : Denotes (u ++ x ++ v) double

/-! ## The length of a string -/

theorem isSeparator_of_isDigit {c : Char} (h : c.isDigit = true) : isSeparator c = false := by
  cases hc : isSeparator c with
  | false => rfl
  | true =>
    have hdigit : ∀ d, isSeparator d = true → d.isDigit = false := by
      intro d hd
      simp only [isSeparator, Bool.or_eq_true, decide_eq_true_eq] at hd
      rcases hd with ((rfl | rfl) | rfl) | rfl <;> decide
    rw [hdigit c hc] at h
    exact absurd h Bool.false_ne_true

theorem stops_isDigit_append_close {z : List Char} (hz : IsGap z) (r : List Char) :
    Stops Char.isDigit (z ++ ')' :: r) := by
  cases z with
  | nil => exact Text.stops_cons.mpr (by decide)
  | cons c z =>
    rw [List.cons_append, Text.stops_cons]
    cases hd : c.isDigit with
    | false => rfl
    | true =>
      rw [← hz c List.mem_cons_self, isSeparator_of_isDigit hd]

/-- A complete length is taken, whatever follows it. -/
theorem length?_append {n : UInt32} {l : List Char} (hl : IsLength n l) (r : List Char) :
    length? (l ++ r) = some (n, r) := by
  obtain ⟨hx, hy, hz, hne, hds, hn⟩ := hl
  rename_i x y ds z
  have hparen : Stops isSeparator ('(' :: (y ++ (ds ++ (z ++ ')' :: r)))) :=
    Text.stops_cons.mpr (by decide)
  have hdigits : Stops isSeparator (ds ++ (z ++ ')' :: r)) := by
    obtain ⟨d, ds, rfl⟩ := List.exists_cons_of_ne_nil hne
    rw [List.cons_append, Text.stops_cons]
    exact isSeparator_of_isDigit (hds d List.mem_cons_self)
  have hstop := stops_isDigit_append_close hz r
  have hclose : Stops isSeparator (')' :: r) := Text.stops_cons.mpr (by decide)
  have hlt : Decimal.value 10 ds < UInt32.size := by
    rw [hn]
    exact n.toNat_lt
  have hshape : x ++ '(' :: (y ++ ds ++ z ++ [')']) ++ r
      = x ++ '(' :: (y ++ (ds ++ (z ++ ')' :: r))) := by simp
  rw [hshape, length?, Text.dropWhile_append hx hparen]
  simp only
  rw [Text.dropWhile_append hy hdigits, Text.takeWhile_append hds hstop,
    Text.dropWhile_append hds hstop, Text.dropWhile_append hz hclose]
  simp only
  rw [if_neg hne, if_pos hlt, hn, UInt32.ofNat_toNat]

/-- What is taken as a length is one. -/
theorem exists_group_of_length? {s r : List Char} {n : UInt32} (h : length? s = some (n, r)) :
    ∃ l, s = l ++ r ∧ IsLength n l := by
  obtain ⟨x, open', rfl, hx, hx'⟩ := Text.exists_append_stops isSeparator s
  rw [length?, Text.dropWhile_append hx hx'] at h
  split at h
  · rename_i inner
    obtain ⟨y, number, rfl, hy, hy'⟩ := Text.exists_append_stops isSeparator inner
    obtain ⟨ds, tail, rfl, hds, hds'⟩ := Text.exists_append_stops Char.isDigit number
    obtain ⟨z, close, rfl, hz, hz'⟩ := Text.exists_append_stops isSeparator tail
    simp only [Text.dropWhile_append hy hy', Text.takeWhile_append hds hds',
      Text.dropWhile_append hds hds', Text.dropWhile_append hz hz'] at h
    split at h
    · rename_i rest
      rw [ite_eq_iff] at h
      obtain ⟨_, hnone⟩ | ⟨hne, h⟩ := h
      · exact absurd hnone (by simp)
      rw [ite_eq_iff] at h
      obtain ⟨hlt, hsome⟩ | ⟨_, hnone⟩ := h
      · obtain ⟨rfl, rfl⟩ := Prod.mk.inj (Option.some.inj hsome)
        refine ⟨_, ?_, IsLength.mk hx hy hz hne hds (UInt32.toNat_ofNat_of_lt' hlt).symm⟩
        simp
      · exact absurd hnone (by simp)
    · exact absurd h (by simp)
  · exact absurd h (by simp)

/-- A string takes its length along if there is one, and else nothing. -/
theorem stringFrom_snd_suffix (s : List Char) : (stringFrom s).2 <:+ s := by
  rw [stringFrom]
  split
  · rename_i n r h
    obtain ⟨l, hs, _⟩ := exists_group_of_length? h
    exact ⟨l, hs.symm⟩
  · exact List.suffix_refl s

end SchemaEvolution.ColumnType
