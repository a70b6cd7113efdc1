import SchemaEvolution.Proofs.Text.Reader
import SchemaEvolution.Proofs.Toml.KeyOrder

/-!
# Documents of plain lines

A line is plain if it is empty, or a comment, or gives a text for a key with nothing in either that
TOML would read in another way. A document of plain lines is read as the table that has the keys and
texts in their order (`Toml.read_plain`): what stands in its comments makes no difference.
-/

namespace SchemaEvolution.Toml

open Text (Reader)

/-- A line of one of the forms that most documents are made of. -/
inductive PlainLine where
  | empty
  | comment (content : String)
  | pair (key value : String)

/-- Whether a character stands for itself between double quotes. -/
def isPlainChar (c : Char) : Bool :=
  isVisible c && c != '"' && c != '\\'

namespace PlainLine

/-- A line without its end. -/
def text : PlainLine → String
  | empty => ""
  | comment content => "#" ++ content
  | pair key value => key ++ " = \"" ++ value ++ "\""

/-- The characters of a line, its end among them. -/
def chars (l : PlainLine) : List Char :=
  l.text.toList ++ ['\n']

/-- Whether the characters of a line may be written as they are. -/
def isValid : PlainLine → Bool
  | empty => true
  | comment content => content.toList.all isVisible
  | pair key value =>
    key != "" && key.toList.all isBareChar && value.toList.all isPlainChar

/-- The key of a line and the text for it. -/
def pair? : PlainLine → Option (String × String)
  | pair key value => some (key, value)
  | _ => none

/-- What a line says. -/
def meaning : PlainLine → Line
  | pair key value => .pair [key] (.text value)
  | _ => .blank

end PlainLine

variable {k v : List Char} {c : Char}

/-! ## Characters -/

/-- A character of a key is none of those that may stand around it. -/
theorem ne_of_isBareChar (h : isBareChar c = true) :
    ∀ d ∈ [' ', '\t', '\n', '\r', '#', '[', '"', '\'', '\ufeff'], c ≠ d := by
  have hothers : [' ', '\t', '\n', '\r', '#', '[', '"', '\'', '\ufeff'].all
      (fun d => !isBareChar d) = true := by decide
  intro d hd heq
  have hd := List.all_eq_true.mp hothers d hd
  rw [← heq, h] at hd
  exact absurd hd Bool.false_ne_true

theorem basicChar_plain (h : isPlainChar c = true) (s : List Char) :
    basicChar (c :: s) = some (c, s) := by
  simp only [isPlainChar, Bool.and_eq_true, bne_iff_ne] at h
  rw [basicChar, if_neg h.1.2, if_neg h.2, if_pos h.1.1]

/-! ## Texts -/

theorem quotedText_plain (hv : ∀ c ∈ v, isPlainChar c = true) (s : List Char) :
    quotedText '"' basicChar ('"' :: (v ++ '"' :: s)) = some (String.ofList v, s) := by
  have hchars : ∀ c ∈ v, [c] ≠ [] ∧ ∀ s, basicChar ([c] ++ s) = some (c, s) :=
    fun c hc => ⟨List.cons_ne_nil c [], basicChar_plain (hv c hc)⟩
  have hmany : Reader.many basicChar (v ++ '"' :: s) = (v, '"' :: s) := by
    have hmany := Reader.many_flatMap hchars (r := '"' :: s) rfl
    rw [List.flatMap_singleton', List.map_id'] at hmany
    exact hmany
  simp only [quotedText, Reader.char_cons, Option.bind_eq_bind, Option.bind_some, hmany,
    Option.pure_def]

/-- A text on one line does not begin with three quotes. -/
theorem tripleQuote_plain (hv : ∀ c ∈ v, isPlainChar c = true) (s : List Char) :
    tripleQuote '"' ('"' :: (v ++ '"' :: '\n' :: s)) = none := by
  cases v with
  | nil => rfl
  | cons c v =>
    have hquote : c ≠ '"' := by
      intro heq
      rw [heq] at hv
      exact absurd (hv '"' List.mem_cons_self) (by decide)
    simp only [tripleQuote, Reader.literal, Reader.char_cons, List.cons_append,
      Reader.char_of_ne hquote, Option.bind_eq_bind, Option.bind_some, Option.bind_none]

theorem value_plain (hv : ∀ c ∈ v, isPlainChar c = true) (s : List Char) :
    Toml.value ('"' :: (v ++ '"' :: '\n' :: s)) = some (.text (String.ofList v), '\n' :: s) := by
  -- the forms of text are tried one after the other, and the first one fails on its third quote
  have hmultiline : multilineText '"' basicPiece ('"' :: (v ++ '"' :: '\n' :: s)) = none := by
    rw [multilineText, tripleQuote_plain hv]
    rfl
  have htext : text ('"' :: (v ++ '"' :: '\n' :: s)) = some (String.ofList v, '\n' :: s) := by
    rw [text, hmultiline, quotedText_plain hv]
    rfl
  have hscalar :
      scalar ('"' :: (v ++ '"' :: '\n' :: s)) = some (.text (String.ofList v), '\n' :: s) := by
    rw [scalar, textValue, htext]
    rfl
  show (scalar _ <|> _) = _
  rw [hscalar]
  rfl

/-! ## Keys -/

theorem skipBlanks_of_ne (h : isBlank c = false) (s : List Char) :
    skipBlanks (c :: s) = c :: s := by
  rw [skipBlanks, List.dropWhile_cons_of_neg (by rw [h]; exact Bool.false_ne_true)]

theorem skipBlanks_space (s : List Char) : skipBlanks (' ' :: s) = skipBlanks s := by
  rw [skipBlanks, List.dropWhile_cons_of_pos (by decide), skipBlanks]

theorem isBlank_of_isBareChar (h : isBareChar c = true) : isBlank c = false := by
  have hspace := ne_of_isBareChar h ' ' (by decide)
  have htab := ne_of_isBareChar h '\t' (by decide)
  rw [isBlank, decide_eq_false hspace, decide_eq_false htab, Bool.or_false]

theorem quotedText_of_ne {quote : Char} {item : Reader Char} (h : c ≠ quote) (s : List Char) :
    quotedText quote item (c :: s) = none := by
  rw [quotedText, Reader.char_of_ne h]
  rfl

theorem keyPath_bare (hk : ∀ d ∈ c :: k, isBareChar d = true) (s : List Char) :
    keyPath (c :: k ++ ' ' :: '=' :: s) = some ([String.ofList (c :: k)], '=' :: s) := by
  have hc := hk c List.mem_cons_self
  have hdouble := ne_of_isBareChar hc '"' (by decide)
  have hsingle := ne_of_isBareChar hc '\'' (by decide)
  have hrun : Reader.run isBareChar (c :: k ++ ' ' :: '=' :: s) =
      some (c :: k, ' ' :: '=' :: s) :=
    Reader.run_append (List.cons_ne_nil c k) hk (Text.stops_cons.mpr (by decide))
  have hbare : bareKey (c :: k ++ ' ' :: '=' :: s) =
      some (String.ofList (c :: k), ' ' :: '=' :: s) := by
    rw [bareKey, hrun]
    rfl
  have hkey : key (c :: k ++ ' ' :: '=' :: s) = some (String.ofList (c :: k), '=' :: s) := by
    rw [List.cons_append] at hbare ⊢
    simp only [key, skipBlanks_of_ne (isBlank_of_isBareChar hc), quotedText_of_ne hdouble,
      quotedText_of_ne hsingle, hbare, Option.bind_eq_bind]
    rfl
  simp only [keyPath, Reader.separated, hkey, Option.bind_eq_bind, Option.bind_some]
  rfl

/-! ## Lines -/

theorem lineEnd_newline (s : List Char) : lineEnd ('\n' :: s) = some ((), s) := rfl

theorem line_empty (s : List Char) : line ('\n' :: s) = some (.blank, s) := rfl

theorem line_comment (hv : ∀ c ∈ v, isVisible c = true) (s : List Char) :
    line ('#' :: (v ++ '\n' :: s)) = some (.blank, s) := by
  have hcomment : skipComment ('#' :: (v ++ '\n' :: s)) = '\n' :: s :=
    Text.dropWhile_append hv (Text.stops_cons.mpr (by decide))
  have hend : lineEnd ('#' :: (v ++ '\n' :: s)) = some ((), s) := by
    rw [lineEnd, skipBlanks_of_ne (by decide), hcomment]
    rfl
  have hblank : isBlankLine ('#' :: (v ++ '\n' :: s)) = true := rfl
  simp only [line, skipBlanks_of_ne (c := '#') (by decide), hblank, hend, if_true,
    Option.bind_eq_bind, Option.bind_some, Option.pure_def]

/-- The first character of a key rules out that a line is blank. -/
theorem isBlankLine_of_isBareChar (h : isBareChar c = true) (s : List Char) :
    isBlankLine (c :: s) = false := by
  have hcomment := ne_of_isBareChar h '#' (by decide)
  have hfeed := ne_of_isBareChar h '\n' (by decide)
  have hreturn := ne_of_isBareChar h '\r' (by decide)
  show (decide (c = '#') || decide (c = '\n') || decide (c = '\r')) = false
  rw [decide_eq_false hcomment, decide_eq_false hfeed, decide_eq_false hreturn]
  rfl

/-- A line that does not begin a table is a pair. -/
theorem lineContent_of_ne (h : c ≠ '[') (s : List Char) :
    lineContent (c :: s) =
      (pair Toml.value (c :: s)).bind fun p => some (.pair p.1.1 p.1.2, p.2) := by
  rw [lineContent]
  · rfl
  · intro s heq
    exact h (List.cons.inj heq).1
  · intro s heq
    exact h (List.cons.inj heq).1

theorem line_pair (hk : ∀ d ∈ c :: k, isBareChar d = true) (hv : ∀ c ∈ v, isPlainChar c = true)
    (s : List Char) :
    line (c :: k ++ ' ' :: '=' :: ' ' :: '"' :: (v ++ '"' :: '\n' :: s)) =
      some (.pair [String.ofList (c :: k)] (.text (String.ofList v)), s) := by
  have hc := hk c List.mem_cons_self
  have hbracket := ne_of_isBareChar hc '[' (by decide)
  have hpair : pair Toml.value (c :: k ++ ' ' :: '=' :: ' ' :: '"' :: (v ++ '"' :: '\n' :: s)) =
      some (([String.ofList (c :: k)], .text (String.ofList v)), '\n' :: s) := by
    simp only [pair, keyPath_bare hk, Reader.char_cons, skipBlanks_space,
      skipBlanks_of_ne (c := '"') (by decide), value_plain hv, Option.bind_eq_bind,
      Option.bind_some, Option.pure_def]
  rw [List.cons_append] at hpair ⊢
  simp only [line, skipBlanks_of_ne (isBlank_of_isBareChar hc), isBlankLine_of_isBareChar hc,
    lineContent_of_ne hbracket, hpair, lineEnd_newline, Option.bind_eq_bind, Option.bind_some,
    Option.pure_def, Bool.false_eq_true, if_false]

/-! ## Documents -/

namespace PlainLine

variable {l : PlainLine} {ls : List PlainLine}

theorem chars_comment (content : String) :
    (comment content).chars = '#' :: (content.toList ++ ['\n']) := by
  simp [chars, text]

theorem chars_pair (key value : String) :
    (pair key value).chars =
      key.toList ++ ' ' :: '=' :: ' ' :: '"' :: (value.toList ++ ['"', '\n']) := by
  simp [chars, text]

theorem isValid_pair_iff {key value : String} :
    (pair key value).isValid = true ↔ key ≠ "" ∧ (∀ c ∈ key.toList, isBareChar c = true) ∧
      ∀ c ∈ value.toList, isPlainChar c = true := by
  rw [isValid, Bool.and_eq_true, Bool.and_eq_true, bne_iff_ne, List.all_eq_true, List.all_eq_true,
    and_assoc]

/-- The characters of a key begin with one that no other line begins with. -/
theorem exists_key {key value : String} (h : (pair key value).isValid = true) :
    ∃ c k, key.toList = c :: k ∧ isBareChar c = true := by
  obtain ⟨hne, hkey, -⟩ := isValid_pair_iff.mp h
  cases hchars : key.toList with
  | nil => exact absurd (String.toList_eq_nil_iff.mp hchars) hne
  | cons c k =>
    rw [hchars] at hkey
    exact ⟨c, k, rfl, hkey c List.mem_cons_self⟩

theorem line_chars (h : l.isValid = true) (s : List Char) : line (l.chars ++ s) = some (l.meaning, s) := by
  cases l with
  | empty => exact line_empty s
  | comment content =>
    rw [chars_comment, List.cons_append, List.append_assoc]
    exact line_comment (List.all_eq_true.mp h) s
  | pair key value =>
    obtain ⟨c, k, hchars, -⟩ := exists_key h
    obtain ⟨-, hkey, hvalue⟩ := isValid_pair_iff.mp h
    rw [hchars] at hkey
    have hline := line_pair hkey hvalue s
    rw [← hchars, String.ofList_toList, String.ofList_toList] at hline
    rw [chars_pair, List.append_assoc, List.cons_append, List.cons_append, List.cons_append,
      List.cons_append, List.append_assoc]
    exact hline

theorem exists_chars (h : l.isValid = true) : ∃ c s, l.chars = c :: s ∧ c ≠ '\ufeff' := by
  cases l with
  | empty => exact ⟨'\n', [], rfl, by decide⟩
  | comment content =>
    rw [chars_comment]
    exact ⟨'#', _, rfl, by decide⟩
  | pair key value =>
    obtain ⟨c, k, hchars, hbare⟩ := exists_key h
    rw [chars_pair, hchars]
    exact ⟨c, _, rfl, ne_of_isBareChar hbare '\ufeff' (by decide)⟩

theorem chars_ne_nil (h : l.isValid = true) : l.chars ≠ [] := by
  obtain ⟨c, s, hchars, -⟩ := exists_chars h
  rw [hchars]
  exact List.cons_ne_nil c s

theorem many_line (h : ∀ l ∈ ls, l.isValid = true) :
    Reader.many line (ls.flatMap chars) = (ls.map meaning, []) := by
  have htaken : ∀ l ∈ ls, l.chars ≠ [] ∧ ∀ s, line (l.chars ++ s) = some (l.meaning, s) :=
    fun l hl => ⟨chars_ne_nil (h l hl), line_chars (h l hl)⟩
  have hmany := Reader.many_flatMap htaken (r := []) rfl
  rw [List.append_nil] at hmany
  exact hmany

theorem withoutMark_flatMap (h : ∀ l ∈ ls, l.isValid = true) :
    withoutMark (ls.flatMap chars) = ls.flatMap chars := by
  cases ls with
  | nil => rfl
  | cons l ls =>
    obtain ⟨c, s, hchars, hmark⟩ := exists_chars (h l List.mem_cons_self)
    rw [List.flatMap_cons, hchars, List.cons_append, withoutMark]
    intro s heq
    exact hmark (List.cons.inj heq).1

/-- The keys of lines and the texts for them. -/
def pairs (ls : List PlainLine) : List (String × String) :=
  ls.filterMap pair?

/-- The entries for keys and texts. -/
def entries (ps : List (String × String)) : Entries :=
  ps.map fun p => (p.1, .value (.text p.2))

theorem entryNodes_entries (ps : List (String × String)) :
    entryNodes (entries ps) = ps.map fun p => (p.1, .text p.2) := by
  induction ps with
  | nil => rfl
  | cons p ps ih =>
    rw [List.map_cons, ← ih]
    rfl

theorem add_meaning_pair {before : Entries} {key : String} (h : key ∉ before.keys)
    (value : String) :
    Draft.add { current := [], entries := before } (pair key value).meaning =
      some { current := [], entries := before ++ [(key, .value (.text value))] } := by
  have hlookup := Entries.lookup_eq_none_iff.mpr h
  show (if (before.lookup key).isSome = true then none else some _).bind _ = _
  rw [hlookup]
  rfl

theorem foldlM_meaning (ls : List PlainLine) (before : Entries)
    (h : (before.keys ++ (pairs ls).map Prod.fst).Nodup) :
    (ls.map meaning).foldlM Draft.add { current := [], entries := before } =
      some { current := [], entries := before ++ entries (pairs ls) } := by
  induction ls generalizing before with
  | nil => simp [pairs, entries]
  | cons l ls ih =>
    rw [List.map_cons, List.foldlM_cons]
    cases l with
    | empty => exact ih before h
    | comment content => exact ih before h
    | pair key value =>
      have h : (before.keys ++ key :: (pairs ls).map Prod.fst).Nodup := h
      have hnew : key ∉ before.keys := by
        intro hkey
        exact (List.nodup_append.mp h).2.2 key hkey key List.mem_cons_self rfl
      -- the key counts among those of the entries from here on
      have hkeys : Entries.keys (before ++ [(key, .value (.text value))]) = before.keys ++ [key] :=
        List.map_append
      rw [add_meaning_pair hnew]
      rw [← List.singleton_append, ← List.append_assoc, ← hkeys] at h
      show List.foldlM Draft.add _ _ = _
      rw [ih _ h, List.append_assoc]
      rfl

end PlainLine

/-- A document of plain lines is read as the table of its keys and texts. -/
theorem read_plain (ls : List PlainLine) (h : ∀ l ∈ ls, l.isValid = true)
    (hnodup : ((PlainLine.pairs ls).map Prod.fst).Nodup) :
    read (String.join (ls.map fun l => l.text ++ "\n")) =
      some (.table ((PlainLine.pairs ls).map fun p => (p.1, .text p.2))) := by
  have hchars : (String.join (ls.map fun l => l.text ++ "\n")).toList =
      ls.flatMap PlainLine.chars := by
    rw [String.toList_join, List.flatMap_map]
    simp only [String.toList_append]
    rfl
  have hfold := PlainLine.foldlM_meaning ls [] hnodup
  rw [read, hchars, PlainLine.withoutMark_flatMap h]
  simp only [PlainLine.many_line h, hfold, List.nil_append, PlainLine.entryNodes_entries,
    Option.bind_eq_bind, Option.bind_some, Option.pure_def]
  rfl

end SchemaEvolution.Toml
