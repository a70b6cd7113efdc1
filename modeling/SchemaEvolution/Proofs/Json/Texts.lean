import SchemaEvolution.Json.Parser
import SchemaEvolution.Json.Printer
import SchemaEvolution.Proofs.Text.Reader

/-!
# Lists of texts in JSON are read back

A list of texts that is written as JSON, each on a line of its own, is read back as that list
(`read_print_ofTexts`), whatever characters the texts have: each is read back from the way in which
it is written inside quotes (`textChar_escaped`).
-/

namespace SchemaEvolution.Json

open Text (Reader)

variable {c : Char} {s rest : List Char}

/-! ## Characters inside text -/

/-- A control is read back from its number. -/
theorem escape_control (hc : c.toNat < 0x20) (rest : List Char) :
    escape ('u' :: '0' :: '0' :: Nat.digitChar (c.toNat / 16) :: Nat.digitChar (c.toNat % 16) ::
      rest) = some (c, rest) := by
  have hdigits : ∀ n < 0x20,
      ['0', '0', Nat.digitChar (n / 16), Nat.digitChar (n % 16)].all Decimal.isHexDigit = true ∧
      Decimal.value 16 ['0', '0', Nat.digitChar (n / 16), Nat.digitChar (n % 16)] = n ∧
      n.isValidChar := by decide
  obtain ⟨hhex, hvalue, hvalid⟩ := hdigits c.toNat hc
  have hunit : codeUnit ('0' :: '0' :: Nat.digitChar (c.toNat / 16) ::
      Nat.digitChar (c.toNat % 16) :: rest) = some (c.toNat, rest) := by
    have hexactly := Reader.exactly_append hhex rest
    simp only [List.length_cons, List.length_nil, List.cons_append, List.nil_append] at hexactly
    simp only [codeUnit, hexactly, Option.bind_eq_bind, Option.bind_some, hvalue, Option.pure_def]
  have hsurrogate : (0xD800 ≤ c.toNat && c.toNat < 0xDC00) = false := by
    simp only [Bool.and_eq_false_iff, decide_eq_false_iff_not]
    omega
  simp only [escape, unicodeEscape, hunit, Option.bind_eq_bind, Option.bind_some, hsurrogate,
    Bool.false_eq_true, if_false, hvalid, if_true, Char.ofNat_toNat, Option.pure_def]

theorem textChar_escaped (c : Char) (rest : List Char) :
    textChar (escaped c ++ rest) = some (c, rest) := by
  unfold escaped
  split_ifs with hquote hbackslash hbackspace hfeed hnewline hreturn htab hcontrol
  all_goals try subst c
  all_goals try rfl
  · exact escape_control hcontrol rest
  · simp [textChar, hquote, hbackslash, hcontrol]

theorem escaped_ne_nil (c : Char) : escaped c ≠ [] := by
  unfold escaped
  split_ifs <;> exact List.cons_ne_nil _ _

theorem many_textChar (s rest : List Char) :
    Reader.many textChar (s.flatMap escaped ++ '"' :: rest) = (s, '"' :: rest) := by
  have hescaped : ∀ c ∈ s,
      escaped c ≠ [] ∧ ∀ rest, textChar (escaped c ++ rest) = some (c, rest) :=
    fun c _ => ⟨escaped_ne_nil c, textChar_escaped c⟩
  rw [Reader.many_flatMap hescaped rfl, List.map_id']

/-! ## Texts -/

theorem text_quoted (t : String) (rest : List Char) :
    text ((quoted t).toList ++ rest) = some (t, rest) := by
  have hquoted : (quoted t).toList ++ rest = '"' :: (t.toList.flatMap escaped ++ '"' :: rest) := by
    simp [quoted]
  rw [hquoted]
  simp only [text, Reader.char_cons, many_textChar, Option.bind_eq_bind, Option.bind_some,
    Option.pure_def, String.ofList_toList]

theorem valueWithin_quoted (depth : Nat) (t : String) (rest : List Char) :
    valueWithin depth ((quoted t).toList ++ rest) = some (.text t, rest) := by
  have htext := text_quoted t rest
  have hquoted : (quoted t).toList ++ rest = '"' :: (t.toList.flatMap escaped ++ '"' :: rest) := by
    simp [quoted]
  rw [hquoted] at htext ⊢
  have hscalar :
      scalar ('"' :: (t.toList.flatMap escaped ++ '"' :: rest)) = some (.text t, rest) := by
    simp only [scalar, htext, Option.bind_eq_bind, Option.bind_some, Option.pure_def]
  cases depth <;> exact hscalar

/-! ## Lists of texts -/

/-- What stands behind one of the texts in a list, up to the end of the list, and what follows. -/
def listTail (rest : List Char) : List String → List Char
  | [] => '\n' :: ']' :: rest
  | t :: ts => ',' :: '\n' :: ' ' :: ' ' :: ((quoted t).toList ++ listTail rest ts)

/-- Reads an item of a list. -/
def item (depth : Nat) : Reader Node :=
  fun s => padded (valueWithin depth) (skipBlanks s)

/-- Reads an item of a list behind a comma. -/
def nextItem (depth : Nat) : Reader Node := fun s => do
  let (_, s) ← Reader.char ',' s
  item depth s

theorem skipBlanks_quoted (t : String) (rest : List Char) :
    skipBlanks ((quoted t).toList ++ rest) = (quoted t).toList ++ rest := by
  simp [quoted, skipBlanks, isBlank]

/-- The start of a line inside one list. -/
theorem skipBlanks_line (s : List Char) : skipBlanks ('\n' :: ' ' :: ' ' :: s) = skipBlanks s := by
  simp [skipBlanks, isBlank]

/-- A text in a list is read up to the comma behind it or the bracket at the end. -/
theorem item_quoted (depth : Nat) (t : String) (ts : List String) (rest : List Char) :
    item depth ((quoted t).toList ++ listTail rest ts)
      = some (.text t, skipBlanks (listTail rest ts)) := by
  simp only [item, skipBlanks_quoted, padded, valueWithin_quoted, Option.bind_eq_bind,
    Option.bind_some, Option.pure_def]

theorem nextItem_listTail (depth : Nat) (t : String) (ts : List String) (rest : List Char) :
    nextItem depth (skipBlanks (listTail rest (t :: ts)))
      = some (.text t, skipBlanks (listTail rest ts)) := by
  have hcomma : skipBlanks (listTail rest (t :: ts)) = listTail rest (t :: ts) := by
    simp [listTail, skipBlanks, isBlank]
  have hline (s : List Char) : item depth ('\n' :: ' ' :: ' ' :: s) = item depth s := by
    simp only [item, skipBlanks_line]
  rw [hcomma, listTail]
  simp only [nextItem, Reader.char_cons, Option.bind_eq_bind, Option.bind_some, hline, item_quoted]

theorem upTo_listTail (depth : Nat) (rest : List Char) {ts : List String} {n : Nat}
    (hn : ts.length ≤ n) :
    Reader.upTo (nextItem depth) n (skipBlanks (listTail rest ts))
      = (ts.map .text, ']' :: rest) := by
  induction ts generalizing n with
  | nil =>
    have hend : skipBlanks (listTail rest []) = ']' :: rest := rfl
    have hnone : nextItem depth (']' :: rest) = none := rfl
    rw [hend]
    cases n with
    | zero => rfl
    | succ n => simp only [Reader.upTo, hnone, List.map_nil]
  | cons t ts ih =>
    obtain ⟨m, rfl⟩ : ∃ m, n = m + 1 := ⟨n - 1, by rw [List.length_cons] at hn; omega⟩
    rw [Reader.upTo, nextItem_listTail]
    simp only [ih (Nat.le_of_succ_le_succ hn), List.map_cons]

/-- There is at least one character for each text. -/
theorem length_le_length_listTail (rest : List Char) (ts : List String) :
    ts.length ≤ (skipBlanks (listTail rest ts)).length := by
  have htail : ts.length < (listTail rest ts).length := by
    induction ts with
    | nil => simp [listTail]
    | cons t ts ih =>
      simp only [listTail, List.length_cons, List.length_append]
      omega
  cases ts with
  | nil => exact Nat.zero_le _
  | cons t ts => exact Nat.le_of_lt htail

theorem separated_listTail (depth : Nat) (t : String) (ts : List String) (rest : List Char) :
    Reader.separated (item depth) ',' ((quoted t).toList ++ listTail rest ts)
      = some ((t :: ts).map .text, ']' :: rest) := by
  have hmany : Reader.many (nextItem depth) (skipBlanks (listTail rest ts))
      = (ts.map .text, ']' :: rest) := upTo_listTail depth rest (length_le_length_listTail rest ts)
  simp only [Reader.separated, item_quoted, Option.bind_eq_bind, Option.bind_some]
  show some (_ :: (Reader.many (nextItem depth) _).1, (Reader.many (nextItem depth) _).2) = _
  rw [hmany]
  rfl

theorem list_listTail (depth : Nat) (t : String) (ts : List String) (rest : List Char) :
    list (valueWithin depth) ('[' :: '\n' :: ' ' :: ' ' :: ((quoted t).toList ++ listTail rest ts))
      = some (.ofTexts (t :: ts), rest) := by
  have hitems : Reader.list (item depth) ',' ((quoted t).toList ++ listTail rest ts)
      = ((t :: ts).map .text, ']' :: rest) := by
    rw [Reader.list, separated_listTail, Option.getD_some]
  simp only [list, symbol, Reader.char_cons, skipBlanks_line, skipBlanks_quoted,
    Option.bind_eq_bind, Option.bind_some, Option.pure_def]
  show (Reader.char ']' (Reader.list (item depth) ',' _).2).bind
    (fun x => some (Node.ofList (Reader.list (item depth) ',' _).1, x.2)) = _
  rw [hitems]
  rfl

/-! ## Writing and reading -/

theorem printItems_texts (layout : Layout) (ts : List String) :
    printItems layout (ts.map .text) = ts.map quoted := by
  induction ts with
  | nil => rfl
  | cons t ts ih =>
    rw [List.map_cons, printItems, ih]
    rfl

theorem intercalate_listTail (t : String) (ts : List String) (rest : List Char) :
    (",\n".intercalate ((t :: ts).map (indentation 1 ++ quoted ·))).toList ++ '\n' :: ']' :: rest
      = ' ' :: ' ' :: ((quoted t).toList ++ listTail rest ts) := by
  induction ts generalizing t with
  | nil => simp [indentation, listTail]
  | cons u ts ih =>
    have hrest := ih u
    rw [List.map_cons] at hrest
    rw [List.map_cons, List.map_cons, String.intercalate_cons_cons, String.toList_append,
      List.append_assoc, hrest]
    simp [indentation, listTail]

/-- What is written for a list of texts, with a line break behind it. -/
theorem toList_print_ofTexts (t : String) (ts : List String) :
    (print (.indented 0) (.ofTexts (t :: ts)) ++ "\n").toList
      = '[' :: '\n' :: ' ' :: ' ' :: ((quoted t).toList ++ listTail ['\n'] ts) := by
  have hprint : print (.indented 0) (.ofTexts (t :: ts))
      = "[\n" ++ ",\n".intercalate ((t :: ts).map (indentation 1 ++ quoted ·)) ++ "\n]" := by
    have houter : indentation 0 = "" := rfl
    rw [Node.ofTexts, Node.ofList, print, printItems_texts, enclosed, List.map_cons,
      List.isEmpty_cons, if_neg Bool.false_ne_true]
    simp only [houter, Nat.zero_add, List.map_cons, List.map_map, Function.comp_def,
      String.append_empty, String.append_assoc]
    rfl
  rw [hprint, ← intercalate_listTail]
  simp

/-- A list of texts is read back from what is written for it, on lines of its own. -/
theorem read_print_ofTexts (ts : List String) :
    read (print (.indented 0) (.ofTexts ts) ++ "\n") = some (.ofTexts ts) := by
  cases ts with
  | nil => rfl
  | cons t ts =>
    have hbracket (s : List Char) : skipBlanks ('[' :: s) = '[' :: s := rfl
    have hvalue (s : List Char) :
        valueWithin maxDepth ('[' :: s) = list (valueWithin 126) ('[' :: s) := rfl
    have hend : skipBlanks ['\n'] = [] := rfl
    simp only [read, toList_print_ofTexts, hbracket, padded, hvalue, list_listTail, hend,
      Option.bind_eq_bind, Option.bind_some, Option.pure_def, if_true]

end SchemaEvolution.Json
