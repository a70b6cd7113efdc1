import SchemaEvolution.Text.Reader

/-!
# Blanks, comments and lines of TOML

A line ends in a line feed, which a carriage return may precede; neither that nor any other control
character but the tab stands in a comment.
-/

namespace SchemaEvolution.Toml

open Text (Reader)

/-- The blanks inside a line. -/
def isBlank (c : Char) : Bool :=
  c = ' ' || c = '\t'

/-- The text after the blanks at its front. -/
def skipBlanks (s : List Char) : List Char :=
  s.dropWhile isBlank

/-- What may stand in a comment: no control character but the tab. -/
def isVisible (c : Char) : Bool :=
  c = '\t' || (0x20 ≤ c.toNat && c.toNat ≠ 0x7F)

/-- The text after the comment at its front, if there is one. -/
def skipComment : List Char → List Char
  | '#' :: s => s.dropWhile isVisible
  | s => s

/-- The end of a line. -/
def newline : Reader Unit
  | '\n' :: s => some ((), s)
  | '\r' :: '\n' :: s => some ((), s)
  | _ => none

/-- What may follow the last item of a line: blanks, a comment, and the end of the line or text. -/
def lineEnd : Reader Unit := fun s =>
  match skipComment (skipBlanks s) with
  | [] => some ((), [])
  | s => newline s

/-- One blank, line end or comment between the items of a list. -/
def gap : Reader Unit
  | '#' :: s => some ((), s.dropWhile isVisible)
  | c :: s => if isBlank c then some ((), s) else newline (c :: s)
  | [] => none

/-- The text after the blanks, line ends and comments at its front. -/
def skipGaps (s : List Char) : List Char :=
  (Reader.many gap s).2

end SchemaEvolution.Toml
