import SchemaEvolution.Decimal.Digits
import SchemaEvolution.Toml.Lexeme

/-!
# Text and keys of TOML

Text stands between double quotes, where a backslash starts an escape, or between single quotes,
where everything stands for itself. Between three quotes it may run over several lines: a line end
directly after the opening quotes is no part of it, and any other one is a line feed.
-/

namespace SchemaEvolution.Toml

open Text (Reader)

/-! ## Escapes -/

/-- A character given by the digits of its code point. -/
def codePoint (width : Nat) : Reader Char := fun s => do
  let (digits, s) ← Reader.exactly Decimal.isHexDigit width s
  let n := Decimal.value 16 digits
  if n.isValidChar then return (Char.ofNat n, s) else none

/-- What follows the backslash of an escape. -/
def escape : Reader Char
  | 'b' :: s => some ('\x08', s)
  | 't' :: s => some ('\t', s)
  | 'n' :: s => some ('\n', s)
  | 'f' :: s => some ('\x0c', s)
  | 'r' :: s => some ('\r', s)
  | '"' :: s => some ('"', s)
  | '\\' :: s => some ('\\', s)
  | 'u' :: s => codePoint 4 s
  | 'U' :: s => codePoint 8 s
  | _ => none

/-! ## Text on one line -/

/-- One character between double quotes. -/
def basicChar : Reader Char
  | [] => none
  | c :: s =>
    if c = '"' then none
    else if c = '\\' then escape s
    else if isVisible c then some (c, s)
    else none

/-- One character between single quotes. -/
def literalChar : Reader Char :=
  Reader.satisfying fun c => isVisible c && c != '\''

/-- Text between two quotes. -/
def quotedText (quote : Char) (item : Reader Char) : Reader String := fun s => do
  let (_, s) ← Reader.char quote s
  let (content, s) := Reader.many item s
  let (_, s) ← Reader.char quote s
  return (String.ofList content, s)

/-! ## Text on several lines -/

/-- The end of a line inside text. -/
def lineFeed : Reader (List Char) := fun s => do
  let (_, s) ← newline s
  return (['\n'], s)

/-- A blank or the end of a line. -/
def blankOrNewline : Reader Unit
  | [] => none
  | c :: s => if isBlank c then some ((), s) else newline (c :: s)

/-- A line end after a backslash, with all blanks and line ends behind it; it stands for nothing. -/
def continuation : Reader (List Char) := fun s => do
  let (_, s) ← newline (skipBlanks s)
  return ([], (Reader.many blankOrNewline s).2)

/-- A piece of text between three double quotes. -/
def basicPiece : Reader (List Char)
  | [] => none
  | c :: s =>
    if c = '\\' then
      match continuation s with
      | some r => some r
      | none => (escape s).map fun (c, s) => ([c], s)
    else if isVisible c then some ([c], s)
    else lineFeed (c :: s)

/-- A piece of text between three single quotes. -/
def literalPiece : Reader (List Char)
  | [] => none
  | c :: s => if isVisible c then some ([c], s) else lineFeed (c :: s)

/-- Three quotes. -/
def tripleQuote (quote : Char) : Reader Unit :=
  Reader.literal [quote, quote, quote]

/-- A piece of text unless three quotes end it. -/
def unlessClosed (quote : Char) (piece : Reader (List Char)) : Reader (List Char) := fun s =>
  match tripleQuote quote s with
  | some _ => none
  | none => piece s

/-- Up to two quotes that directly precede the three closing ones: they belong to the text. -/
def innerQuotes (quote : Char) (s : List Char) : List Char × List Char :=
  let count := min 2 (s.takeWhile (· = quote)).length
  (s.take count, s.drop count)

/-- Text between three quotes. -/
def multilineText (quote : Char) (piece : Reader (List Char)) : Reader String := fun s => do
  let (_, s) ← tripleQuote quote s
  let (_, s) := Reader.optional newline s
  let (content, s) := Reader.many (unlessClosed quote piece) s
  let (_, s) ← tripleQuote quote s
  let (quotes, s) := innerQuotes quote s
  return (String.ofList (content.flatten ++ quotes), s)

/-- Text of any form. -/
def text : Reader String := fun s =>
  multilineText '"' basicPiece s <|> quotedText '"' basicChar s <|>
  multilineText '\'' literalPiece s <|> quotedText '\'' literalChar s

/-! ## Keys -/

/-- The characters of a key without quotes. -/
def isBareChar (c : Char) : Bool :=
  c.isAlphanum || c = '-' || c = '_'

/-- A key without quotes. -/
def bareKey : Reader String := fun s => do
  let (name, s) ← Reader.run isBareChar s
  return (String.ofList name, s)

/-- A single key with the blanks around it. -/
def key : Reader String := fun s => do
  let s := skipBlanks s
  let (name, s) ← quotedText '"' basicChar s <|> quotedText '\'' literalChar s <|> bareKey s
  return (name, skipBlanks s)

/-- The number of keys that a path must not reach. -/
def pathLimit : Nat := 80

/-- Keys with dots between them. -/
def keyPath : Reader (List String) := fun s => do
  let (path, s) ← Reader.separated key '.' s
  if path.length < pathLimit then return (path, s) else none

end SchemaEvolution.Toml
