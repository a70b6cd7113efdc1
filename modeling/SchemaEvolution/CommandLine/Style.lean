/-!
# Text on a terminal

Parts of the output stand out by colour and weight where the terminal shows them. A style is switched
on by codes in front of a text and off behind it.
-/

namespace SchemaEvolution.CommandLine

/-- The colours in use. -/
inductive Hue where
  | red
  | green
  | yellow
  | blue
  | cyan
  | white

/-- The code that switches a colour on. -/
def Hue.code : Hue → String
  | red => "31"
  | green => "32"
  | yellow => "33"
  | blue => "34"
  | cyan => "36"
  | white => "37"

/-- How heavy text is. -/
inductive Weight where
  | normal
  | bold
  | dim

/-- The code that switches a weight on, if it takes one. -/
def Weight.code? : Weight → Option String
  | normal => none
  | bold => some "1"
  | dim => some "2"

/-- How a text is shown. -/
structure Style where
  weight : Weight := .normal
  hue : Option Hue := none

namespace Style

/-- The heading of a listing. -/
def heading : Style := { weight := .bold, hue := some .cyan }

/-- Something less important. -/
def faint : Style := { weight := .dim }

/-- The name of a column of a listing or of the kind of a change. -/
def strong : Style := { weight := .bold, hue := some .white }

/-- A colour by itself. -/
def plain (hue : Hue) : Style := { hue := some hue }

/-- A colour that calls for attention. -/
def alert (hue : Hue) : Style := { weight := .bold, hue := some hue }

/-- What switches the style on. -/
def opening (s : Style) : String :=
  "\x1b[" ++ ";".intercalate (s.weight.code?.toList ++ (s.hue.map Hue.code).toList) ++ "m"

end Style

/-- What switches every style off. -/
def closing : String := "\x1b[0m"

/-- A text in which a style is switched on again wherever the text itself switches it off. -/
def reopened (opening : List Char) : List Char → List Char
  | [] => []
  | '\x1b' :: '[' :: '0' :: 'm' :: s => closing.toList ++ opening ++ reopened opening s
  | c :: s => c :: reopened opening s

/-- Whether styles are shown. -/
structure Display where
  styled : Bool

namespace Display

/-- How output is shown. Variables of the environment may force styles (`force`), forbid them
(`forbidden`), or do without them on a terminal (`wanted`). -/
def ofOutput (force forbidden wanted : Option String) (isTerminal : Bool) : Display where
  styled :=
    if force.any (· != "0") then true
    else forbidden.isNone && wanted.all (· != "0") && isTerminal

/-- How notices are shown: in styles, unless a variable of the environment says otherwise. -/
def ofNotices (forbidden : Option String) : Display where
  styled := forbidden.all String.isEmpty

/-- A text in a style. -/
def paint (d : Display) (style : Style) (text : String) : String :=
  if d.styled then
    style.opening ++ String.ofList (reopened style.opening.toList text.toList) ++ closing
  else text

/-- A text in a style, with blanks up to a width. -/
def paintCell (d : Display) (style : Style) (width : Nat) (text : String) : String :=
  d.paint style (text ++ String.ofList (List.replicate (width - text.length) ' '))

end Display

end SchemaEvolution.CommandLine
