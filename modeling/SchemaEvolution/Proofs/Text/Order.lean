import Mathlib.Data.List.Lex

/-!
# The order of texts

Texts are ordered by their first difference. It stays when something follows (`Text.append_lt_append`),
and it is the same difference in the bytes of the texts as far as their characters are those of ASCII
(`Text.bytes_append_lt`).
-/

namespace SchemaEvolution.Text

/-! ## What comes first decides -/

section Append

variable {α : Type} [LT α] {u v x y : List α}

theorem append_lt_append_left (u : List α) (h : x < y) : u ++ x < u ++ y :=
  List.Lex.append_left _ h u

/-- Of two texts of one length, the smaller one stays smaller whatever follows. -/
theorem append_lt_append (h : u < v) (hlength : u.length = v.length) (x y : List α) :
    u ++ x < v ++ y := by
  induction u generalizing v with
  | nil =>
    rw [List.eq_nil_of_length_eq_zero hlength.symm] at h
    exact absurd h (List.not_lt_nil [])
  | cons a u ih =>
    cases v with
    | nil => exact absurd h (List.not_lt_nil (a :: u))
    | cons b v =>
      simp only [List.cons_append, List.cons_lt_cons_iff] at h ⊢
      rcases h with h | ⟨hfirst, h⟩
      · exact .inl h
      · exact .inr ⟨hfirst, ih h (Nat.succ.inj hlength)⟩

end Append

/-! ## Bytes -/

/-- The bytes of a text in UTF-8. -/
def bytes (text : String) : List UInt8 :=
  text.toUTF8.data.toList

theorem bytes_append (s t : String) : bytes (s ++ t) = bytes s ++ bytes t := by
  unfold bytes String.toUTF8
  rw [String.toByteArray_append, ByteArray.toList_data_append]

theorem bytes_of_ascii {s : String} (h : ∀ c ∈ s.toList, c.val ≤ 127) :
    bytes s = s.toList.map fun c => c.val.toUInt8 := by
  have hsingle : ∀ c ∈ s.toList, String.utf8EncodeChar c = [c.val.toUInt8] := by
    intro c hc
    exact String.utf8EncodeChar_eq_singleton (Char.utf8Size_eq_one_iff.mpr (h c hc))
  have hencode : s.toUTF8 = s.toList.utf8Encode := by
    rw [← String.toByteArray_ofList, String.ofList_toList, String.toUTF8]
  rw [bytes, hencode, List.utf8Encode, List.data_toByteArray, List.toList_toArray,
    List.flatMap_congr hsingle, ← List.map_eq_flatMap]

theorem toUInt8_lt {c d : Char} (h : c < d) (hd : d.val ≤ 127) : c.val.toUInt8 < d.val.toUInt8 := by
  have hlt : c.val.toNat < d.val.toNat := h
  have hle : d.val.toNat ≤ 127 := hd
  rw [UInt8.lt_iff_toNat_lt, UInt32.toNat_toUInt8, UInt32.toNat_toUInt8]
  omega

theorem map_toUInt8_lt {cs ds : List Char} (h : cs < ds) (hds : ∀ d ∈ ds, d.val ≤ 127) :
    cs.map (fun c => c.val.toUInt8) < ds.map fun d => d.val.toUInt8 := by
  induction cs generalizing ds with
  | nil =>
    cases ds with
    | nil => exact absurd h (List.not_lt_nil [])
    | cons d ds => exact List.nil_lt_cons _ _
  | cons c cs ih =>
    cases ds with
    | nil => exact absurd h (List.not_lt_nil (c :: cs))
    | cons d ds =>
      rw [List.forall_mem_cons] at hds
      simp only [List.map_cons, List.cons_lt_cons_iff] at h ⊢
      rcases h with h | ⟨hfirst, h⟩
      · exact .inl (toUInt8_lt h hds.1)
      · exact .inr ⟨by rw [hfirst], ih h hds.2⟩

/-- What starts with the smaller of two ASCII texts of one length comes first in the order of bytes. -/
theorem bytes_append_lt {s t : String} (h : s < t) (hlength : s.length = t.length)
    (hs : ∀ c ∈ s.toList, c.val ≤ 127) (ht : ∀ c ∈ t.toList, c.val ≤ 127) (x y : String) :
    bytes (s ++ x) < bytes (t ++ y) := by
  rw [bytes_append, bytes_append, bytes_of_ascii hs, bytes_of_ascii ht]
  apply append_lt_append (map_toUInt8_lt h ht)
  rw [List.length_map, List.length_map]
  exact hlength

end SchemaEvolution.Text
