import SchemaEvolution.Decimal.Digits
import SchemaEvolution.Text.Blank

/-!
# Keywords

How the words for column types and referential actions are read. A vocabulary lists the spellings
it knows in the order in which they are tried; the first spelling that stands at the front of the
trimmed text decides the meaning, and whatever follows it is refused. So a longer spelling has to
stand before each spelling that it extends.

`Vocabulary.read` is the reader, `KeywordError` the two ways in which it fails.
-/

namespace SchemaEvolution

/-! ## Spellings -/

namespace Keyword

/-- The characters that may stand between the words of one keyword. -/
def isSeparator (c : Char) : Bool :=
  c = ' ' || c = '\t' || c = '\r' || c = '\n'

/-- One piece of a spelling. -/
inductive Piece where
  /-- The letters of a word, lower case; either case is read. -/
  | word (letters : String)
  /-- One or more separators. -/
  | space
  /-- One or more separators, or else a single underscore. -/
  | gap
deriving DecidableEq

/-- What follows a word at the front of a text. No letter outside ASCII has one of the letters in
use as its lower case, so the case map of ASCII is enough. -/
def afterWord? : List Char → List Char → Option (List Char)
  | [], s => some s
  | _ :: _, [] => none
  | k :: ks, c :: s => if c.toLower = k then afterWord? ks s else none

/-- What follows the separators at the front of a text, if there is one at all. -/
def afterSpace? : List Char → Option (List Char)
  | [] => none
  | c :: s => if isSeparator c then some (s.dropWhile isSeparator) else none

/-- What follows a piece at the front of a text. -/
def Piece.after? : Piece → List Char → Option (List Char)
  | .word letters, s => afterWord? letters.toList s
  | .space, s => afterSpace? s
  | .gap, '_' :: s => some s
  | .gap, s => afterSpace? s

/-- A keyword as it may be written: its pieces in order. -/
abbrev Spelling := List Piece

/-- What follows a spelling at the front of a text, or else the part of the text that begins where
its first missing piece should have stood. -/
def Spelling.after : Spelling → List Char → Except (List Char) (List Char)
  | [], s => .ok s
  | p :: ps, s =>
    match p.after? s with
    | some rest => Spelling.after ps rest
    | none => .error s

end Keyword

/-! ## Vocabularies -/

/-- Why a text is not a keyword of a vocabulary. Positions are byte offsets into the trimmed text. -/
inductive KeywordError where
  /-- No spelling fits; the last one tried fits as far as the position. -/
  | unknown (subject : String) (position : Nat) (text : String)
  /-- A spelling fits, and something follows it. -/
  | trailing (subject : String) (position : Nat) (rest : String)
deriving DecidableEq

namespace KeywordError

/-- The byte offset at which reading stopped. -/
def position : KeywordError → Nat
  | .unknown _ n _ | .trailing _ n _ => n

/-- The reason in words. -/
def reason : KeywordError → String
  | .unknown subject _ text => s!"Unknown {subject}: '{text}'"
  | .trailing subject _ rest => s!"Unexpected trailing content in {subject}: '{rest}'"

/-- The whole message. -/
def message (e : KeywordError) : String :=
  s!"Parse error at position {e.position}: {e.reason}"

end KeywordError

/-- A spelling with the reader for what it means. Most meanings are fixed; the length of a bounded
string is read from what follows the word. -/
structure Keyword (α : Type) where
  spelling : Keyword.Spelling
  meaning : List Char → α × List Char

namespace Keyword

variable {α : Type}

/-- A keyword with a fixed meaning. -/
def fixed (spelling : Spelling) (a : α) : Keyword α :=
  ⟨spelling, fun rest => (a, rest)⟩

/-- The first keyword at the front of a text and what follows it. If there is none, the part of the
text at which the last keyword tried broke off; `stop` is that part for an empty list. -/
def firstMatch (s : List Char) : List (Keyword α) → (stop : List Char) →
    Except (List Char) (α × List Char)
  | [], stop => .error stop
  | k :: ks, _ =>
    match k.spelling.after s with
    | .ok rest => .ok (k.meaning rest)
    | .error stop => firstMatch s ks stop

end Keyword

/-- The keywords for one kind of thing, in the order in which they are tried. -/
structure Vocabulary (α : Type) where
  subject : String
  keywords : List (Keyword α)

/-- Reads a text as exactly one keyword, blanks at both ends aside. -/
def Vocabulary.read {α : Type} (v : Vocabulary α) (text : String) : Except KeywordError α :=
  let s := Text.trim text.toList
  match Keyword.firstMatch s v.keywords s with
  | .ok (a, []) => .ok a
  | .ok (_, rest) => .error (.trailing v.subject (Text.offsetOf s rest) (String.ofList rest))
  | .error stop => .error (.unknown v.subject (Text.offsetOf s stop) (String.ofList s))

end SchemaEvolution
