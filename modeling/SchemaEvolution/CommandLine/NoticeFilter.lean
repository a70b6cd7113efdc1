import SchemaEvolution.CommandLine.Notice
import SchemaEvolution.Decimal.Literal
import SchemaEvolution.Text.Alphanumeric
import SchemaEvolution.Text.Blank
import SchemaEvolution.Text.Pattern
import SchemaEvolution.Text.Split

/-!
# Filters for notices

Which notices are written. A filter is text such as `warn,schemashift::plan=debug`: directives with
commas between them. Each says down to which rank the notices of some part of the program are written,
and of those that concern a notice the most specific one decides.

A directive can ask for more than a part of the program: `part[span{field=value}]=rank` is about what
is told inside a span of the work, in a record that has the field with such a value. The notices here
are told outside of any span, and each has one field, its text. So a directive that asks for a span or
for a value concerns none of them, and one that asks for a field only if it is that one.
-/

namespace SchemaEvolution.CommandLine

/-! ## Directives -/

/-- A field that a directive asks for. -/
structure FieldRequest where
  name : String
  /-- A pattern for the value of the field. -/
  value : Option String
deriving DecidableEq

/-- What notices are written: those with at most the given rank, if they are what is asked for. -/
structure Directive where
  /-- The beginning of the name of the part of the program. -/
  source : Option String := none
  /-- The name of the span. -/
  span : Option String := none
  field : Option FieldRequest := none
  rank : Nat
deriving DecidableEq

namespace Directive

/-- Whether the directive is about a notice. -/
def concerns (d : Directive) (n : Notice) : Bool :=
  d.span.isNone &&
  d.field.all (fun f => f.value.isNone && f.name == Notice.fieldName) &&
  d.source.all (fun source => source.toList.isPrefixOf n.source.toList)

/-- How much of the name of a part the directive gives, in bytes. -/
def sourceSize (d : Directive) : Nat :=
  (d.source.map String.utf8ByteSize).getD 0

/-- Whether the directive is at least as specific as another one: by how much it gives of the name of
a part, and then by whether it asks for a field. -/
def isAsSpecificAs (d other : Directive) : Bool :=
  other.sourceSize < d.sourceSize ||
  (other.sourceSize = d.sourceSize && (d.field.isSome || other.field.isNone))

end Directive

/-! ## Reading directives -/

/-- Whether a text is a number with a plus in front of it. -/
def isPlusNumber : List Char → Bool
  | '+' :: s =>
    let named := ["inf", "infinity", "nan"].contains (String.ofList (s.map Char.toLower))
    let whole := s.takeWhile Char.isDigit
    let s := s.drop whole.length
    let places := if s.head? = some '.' then (s.drop 1).takeWhile Char.isDigit else []
    let s := if s.head? = some '.' then s.drop (places.length + 1) else s
    let (_, s) := Text.Reader.optional (Decimal.exponent (Text.Reader.run Char.isDigit)) s
    named || (!(whole ++ places).isEmpty && s.isEmpty)
  | _ => false

/-- Reads what a directive asks of a field: a name, and perhaps a value behind an equals sign, which
is a number or a regular expression. -/
def FieldRequest.read (text : List Char) : Option FieldRequest :=
  match Text.split '=' text with
  | name :: value :: _ =>
    if isPlusNumber value || Text.Pattern.isPattern value then
      some { name := String.ofList name, value := some (String.ofList value) }
    else none
  | _ => some { name := String.ofList text, value := none }

namespace Directive

/-- The ranks that directives can give, by the names for them. -/
def levels : List (String × Nat) :=
  [("off", 0), ("error", 1), ("warn", 2), ("info", 3), ("debug", 4), ("trace", 5)]

/-- The rank of everything. -/
def lowest : Nat := 5

/-- The number that a text is, perhaps with a plus in front of it. -/
def number? (text : List Char) : Option Nat :=
  let digits := if text.head? = some '+' then text.drop 1 else text
  if !digits.isEmpty && digits.all Char.isDigit then some (Decimal.value 10 digits) else none

/-- The rank with a name, in letters of either case, or with a number. -/
def rank? (name : List Char) : Option Nat :=
  match number? name with
  | some n => if n ≤ lowest then some n else none
  | none => levels.lookup (String.ofList (name.map Char.toLower))

/-- Whether a name at the front of a directive can begin with a character. -/
def startsName (c : Char) : Bool :=
  Text.isAlphanumeric c || ['-', ':', '_'].contains c

/-- What a text holds from where a rest of it starts. The rest is one of the text without the blanks
at its ends, and places are counted there; so blanks at the front move what is taken. -/
def cut (text rest : List Char) : List Char :=
  text.drop ((Text.trim text).length - rest.length)

/-- The rank at the end of a directive, given the rest of it: that of everything, if there is none. -/
def rankAt (text : List Char) : List Char → Option Nat
  | [] => some lowest
  | '=' :: rest =>
    let name := cut text rest
    if name.isEmpty then some lowest else rank? name
  | _ => none

/-- Reads a directive from behind its opening bracket on. -/
def readSpan (text : List Char) (source : Option String) (rest : List Char) : Option Directive :=
  let inName (c : Char) : Bool := c != ']' && c != '\x7b'
  let name := (cut text rest).take (rest.takeWhile inName).length
  let span := if name.isEmpty then none else some (String.ofList name)
  match rest.dropWhile inName with
  | ']' :: rest =>
    (rankAt text rest).map ({ source, span := some (String.ofList name), rank := · })
  | '\x7b' :: rest =>
    let field := (cut text rest).take (rest.takeWhile (· ≠ '\x7d')).length
    match rest.dropWhile (· ≠ '\x7d') with
    | '\x7d' :: ']' :: rest => do
      if field.isEmpty then none
      else return { source, span, field := ← FieldRequest.read field, rank := ← rankAt text rest }
    | _ => none
  | _ => none

/-- Reads a directive. What stands there alone is a rank if it can be one, and else the name of a part
of the program, everything of which is meant. -/
def read (text : List Char) : Option Directive :=
  let body := Text.trim text
  let name := body.takeWhile fun c => c != '=' && c != '['
  let source := String.ofList (text.take name.length)
  match name, body.drop name.length with
  | [], '[' :: rest => readSpan text none rest
  | [], _ => none
  | c :: _, rest =>
    if !startsName c then none
    else
      match rest with
      | [] =>
        match rank? text with
        | some rank => some { rank }
        | none => some { source := some (String.ofList text), rank := lowest }
      | '[' :: rest => readSpan text (some source) rest
      | rest => (rankAt text rest).map ({ source := some source, rank := · })

end Directive

/-! ## Filters -/

/-- Directives of which the most specific one decides. -/
abbrev NoticeFilter := List Directive

namespace NoticeFilter

/-- Every notice down to the given rank. -/
def upTo (rank : Nat) : NoticeFilter := [{ rank }]

/-- Reads a filter: directives with commas between them. One without any lets errors through. -/
def read (text : String) : Option NoticeFilter :=
  match (Text.split ',' text.toList).filter (!·.isEmpty) with
  | [] => some (upTo 1)
  | directives => directives.mapM Directive.read

/-- The filter of a run: every detail if that is asked for, or else what the environment says, and
warnings where that says nothing that can be understood. -/
def ofRun (verbose : Bool) (setting : Option String) : NoticeFilter :=
  if verbose then upTo Severity.detail.rank
  else (setting.bind read).getD (upTo Severity.warning.rank)

/-- The more specific of two directives, the later one of two that are equally so. -/
def moreSpecific (best : Option Directive) (d : Directive) : Option Directive :=
  if best.all d.isAsSpecificAs then some d else best

/-- Whether a notice is written. -/
def shows (f : NoticeFilter) (n : Notice) : Bool :=
  match (f.filter (·.concerns n)).foldl moreSpecific none with
  | some d => n.severity.rank ≤ d.rank
  | none => false

end NoticeFilter

end SchemaEvolution.CommandLine
