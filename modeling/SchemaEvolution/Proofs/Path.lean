import SchemaEvolution.Path

/-!
# Names in paths

A text without a slash is one name (`Path.names_of_isName`). In a path that joins a directory and a
name, the name comes last and the names before it are those of the directory (`Path.names_join`), so
such a path never leads anywhere but to something in the directory itself.
-/

namespace SchemaEvolution

/-! ## Pieces of text -/

namespace Text

variable {separator : Char} {s : List Char}

theorem split_of_not_mem (h : separator ∉ s) : split separator s = [s] := by
  induction s with
  | nil => rfl
  | cons c s ih =>
    rw [List.mem_cons, not_or] at h
    rw [split, if_neg (Ne.symm h.1), ih h.2]

/-- A separator ends the piece before it. -/
theorem split_append_cons (separator : Char) (s rest : List Char) :
    split separator (s ++ separator :: rest) = split separator s ++ split separator rest := by
  induction s with
  | nil => simp [split]
  | cons c s ih =>
    rw [List.cons_append, split, split, ih]
    by_cases hc : c = separator
    · rw [if_pos hc, if_pos hc, List.cons_append]
    · rw [if_neg hc, if_neg hc]
      cases hs : split separator s with
      | nil => exact absurd hs (split_ne_nil separator s)
      | cons piece pieces => rfl

end Text

/-! ## Names -/

namespace Path

variable {directory name : String}

/-- A text is one name in a path. -/
structure IsName (name : String) : Prop where
  ne_empty : name ≠ ""
  slash_free : '/' ∉ name.toList

theorem names_empty : names "" = [] := rfl

theorem names_of_isName (h : IsName name) : names name = [name] := by
  have hne : name.toList ≠ [] := fun hnil => h.ne_empty (String.toList_eq_nil_iff.mp hnil)
  rw [names, Text.split_of_not_mem h.slash_free, List.filter_cons_of_pos (by simpa using hne)]
  simp

theorem names_append_slash (directory path : String) :
    names (directory ++ "/" ++ path) = names directory ++ names path := by
  have hpath : (directory ++ "/" ++ path).toList = directory.toList ++ '/' :: path.toList := by simp
  rw [names, hpath, Text.split_append_cons, List.filter_append, List.map_append]
  rfl

theorem isAbsolute_of_isName (h : IsName name) : isAbsolute name = false := by
  rw [isAbsolute, beq_eq_false_iff_ne]
  intro hhead
  exact h.slash_free (List.mem_of_head? hhead)

theorem exists_of_endsInSlash {path : String} (h : endsInSlash path = true) :
    ∃ front, path = front ++ "/" := by
  rw [endsInSlash, beq_iff_eq, List.getLast?_eq_some_iff] at h
  obtain ⟨front, hfront⟩ := h
  exact ⟨String.ofList front, String.toList_injective (by simpa using hfront)⟩

/-- The path of a name in a directory, with one slash between them. -/
theorem join_of_isName (h : IsName name) (hdirectory : directory ≠ "") :
    ∃ front, join directory name = front ++ "/" ++ name ∧
      (directory = front ∨ directory = front ++ "/") := by
  have hempty : directory.isEmpty = false := by simpa using hdirectory
  rw [join, isAbsolute_of_isName h, hempty, Bool.or_false, if_neg Bool.false_ne_true]
  by_cases hslash : endsInSlash directory = true
  · obtain ⟨front, hfront⟩ := exists_of_endsInSlash hslash
    exact ⟨front, by rw [if_pos hslash, hfront], .inr hfront⟩
  · exact ⟨directory, by rw [if_neg hslash], .inl rfl⟩

theorem join_empty (name : String) : join "" name = name := by
  simp [join]

theorem names_join (h : IsName name) : names (join directory name) = names directory ++ [name] := by
  by_cases hdirectory : directory = ""
  · rw [hdirectory, join_empty, names_of_isName h, names_empty, List.nil_append]
  · obtain ⟨front, hjoin, hfront⟩ := join_of_isName h hdirectory
    rw [hjoin, names_append_slash, names_of_isName h]
    rcases hfront with rfl | rfl
    · rfl
    · -- what stands behind the slash at the end of the directory is no name
      have hend := names_append_slash front ""
      rw [String.append_empty, names_empty, List.append_nil] at hend
      rw [hend]

theorem isAbsolute_append (hdirectory : directory ≠ "") (rest : String) :
    isAbsolute (directory ++ rest) = isAbsolute directory := by
  have hne : directory.toList ≠ [] := fun hnil => hdirectory (String.toList_eq_nil_iff.mp hnil)
  obtain ⟨c, s, hdirectory⟩ := List.exists_cons_of_ne_nil hne
  rw [isAbsolute, isAbsolute, String.toList_append, hdirectory]
  rfl

theorem isAbsolute_join (h : IsName name) :
    isAbsolute (join directory name) = isAbsolute directory := by
  by_cases hdirectory : directory = ""
  · rw [hdirectory, join_empty, isAbsolute_of_isName h]
    rfl
  · obtain ⟨front, hjoin, hfront⟩ := join_of_isName h hdirectory
    rw [hjoin]
    rcases hfront with rfl | rfl
    · rw [String.append_assoc, isAbsolute_append hdirectory]
    · rw [isAbsolute_append hdirectory]

end Path

end SchemaEvolution
