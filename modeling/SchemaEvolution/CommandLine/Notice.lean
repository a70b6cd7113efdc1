import SchemaEvolution.Calendar
import SchemaEvolution.Change
import SchemaEvolution.CommandLine.Style
import SchemaEvolution.Text.Quoted

/-!
# Notices

What a run tells about its work besides its output. Each notice comes from one part of the program
and has a severity, by which filters choose (`NoticeFilter`). Its text may hold names from outside,
so the characters in it that could steer a terminal are spelled out.
-/

namespace SchemaEvolution.CommandLine

/-! ## Notices -/

/-- How much a notice matters. -/
inductive Severity where
  | warning
  | detail
deriving DecidableEq

/-- The number of severities that matter at least as much, of five. -/
def Severity.rank : Severity → Nat
  | warning => 2
  | detail => 4

/-- The severity as a notice shows it, in five columns. -/
def Severity.label : Severity → String
  | warning => " WARN"
  | detail => "DEBUG"

/-- The colour of the label. -/
def Severity.hue : Severity → Hue
  | warning => .yellow
  | detail => .blue

/-- Something that a run tells about its work. -/
inductive Notice where
  | loadingSettings (path : String)
  | defaultSettings
  | loadingPlan (path : String)
  | parsedPlan (changes : Nat)
  | skippedChange (index : Nat) (kind : Change.Kind)
deriving DecidableEq

namespace Notice

/-- How much the notice matters. -/
def severity : Notice → Severity
  | skippedChange _ _ => .warning
  | _ => .detail

/-- The part of the program that the notice comes from, as filters name it. -/
def source : Notice → String
  | loadingSettings _ | defaultSettings => "schemashift::config"
  | loadingPlan _ | parsedPlan _ | skippedChange _ _ => "schemashift::plan"

/-- The name of the one field that a notice has, which is its text. -/
def fieldName : String := "message"

/-- The notice in words. -/
def text : Notice → String
  | loadingSettings path => s!"Loading config from {path}"
  | defaultSettings => "No config file found, using defaults"
  | loadingPlan path => s!"Loading plan from {path}"
  | parsedPlan changes => s!"Parsed plan with {changes} change(s)"
  | skippedChange index kind => s!"Skipping irreversible change #{index} ({kind.name})"

/-- Whether a terminal takes a character for more than a character to show: the controls that ring,
move back, feed a form, escape or delete, and those of the second set. -/
def isTerminalControl (c : Char) : Bool :=
  ['\x07', '\x08', '\x0c', '\x1b', '\x7f'].contains c || (0x80 ≤ c.toNat && c.toNat ≤ 0x9f)

/-- A control spelled out: one of ASCII in two hexadecimal digits, any other as in a quotation. -/
def spelled (c : Char) : List Char :=
  if c.toNat < 0x80 then
    ['\\', 'x', Nat.digitChar (c.toNat / 16), Nat.digitChar (c.toNat % 16)]
  else Text.codePointEscape c

/-- A text that leaves a terminal alone. -/
def harmless (s : String) : String :=
  String.ofList (s.toList.flatMap fun c => if isTerminalControl c then spelled c else [c])

/-- A time as notices show it: in universal time, to the microsecond. -/
def timeText (now : Instant) : String :=
  let t := { now with offset := 0 }.localTime
  String.ofList (t.dateAndTime ++ '.' :: Decimal.padded 6 (t.nanosecond / 1000) ++ ['Z'])

/-- The line for a notice. -/
def line (d : Display) (now : Instant) (n : Notice) : String :=
  let time := d.paint .faint (timeText now)
  let label := d.paint (.plain n.severity.hue) n.severity.label
  s!"{time} {label} {harmless n.text}\n"

end Notice

end SchemaEvolution.CommandLine
