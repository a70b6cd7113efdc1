import SchemaEvolution.CommandLine.Style
import SchemaEvolution.Json.Printer
import SchemaEvolution.Plan.Warning

/-!
# Listings

What is printed about a plan and about the types and actions that plans may name.
-/

namespace SchemaEvolution.CommandLine

/-! ## Plans -/

/-- A change as an entry of a list in JSON. -/
def changeNode (c : RenderedChange) : Node :=
  .table
    [("index", .ofNat c.index),
     ("kind", .text c.kind.name),
     ("forward", .text c.forward.sql),
     ("revert", (c.revert.map fun s => Node.text s.sql).getD .null)]

/-- All changes of a plan in JSON. -/
def planJson (p : Plan) : String :=
  Json.print (.indented 0) (.ofList (p.render.map changeNode))

namespace Display

variable (d : Display)

/-- A label with what it stands for. -/
def labelled (label : String) (style : Style) (text : String) : String :=
  s!"  {d.paint .faint label} {d.paint style text}"

/-- The lines for a change. -/
def changeLines (c : RenderedChange) : List String :=
  let index := s!"#{c.index}"
  let revert :=
    match c.revert with
    | some s => d.labelled "revert: " (.plain .yellow) s.sql
    | none => d.labelled "revert: " (.plain .red) "irreversible"
  [s!"{d.paint (.plain .cyan) index} {d.paint .strong c.kind.name}",
   d.labelled "forward:" (.plain .green) c.forward.sql,
   revert]

/-- The line for a warning. -/
def warningLine (w : Warning) : String :=
  let mark := d.paint (.plain .yellow) "⚠"
  s!"  {mark} {w.message}"

/-- The lines for the warnings about a plan, if there are any. -/
def warningLines (warnings : List Warning) : List String :=
  if warnings.isEmpty then []
  else "" :: d.paint (.alert .yellow) "Warnings:" :: warnings.map d.warningLine

/-- The lines for a plan. -/
def planLines (p : Plan) : List String :=
  [d.paint .heading "Migration Plan"] ++
  (p.name.map (d.labelled "Name:" (.plain .white))).toList ++
  (p.description.map (d.labelled "Description:" (.plain .white))).toList ++
  [""] ++
  p.render.flatMap d.changeLines ++
  d.warningLines p.warnings

end Display

/-! ## Types and actions -/

/-- The types with the spellings that are accepted for them. -/
def typeSpellings : List (ColumnType × String) :=
  [(.string (some 255), "varchar(N), string(N)"),
   (.string none, "varchar, string"),
   (.timestamp, "timestamp"),
   (.timestampWithTimeZone, "timestamp with time zone, timestamptz"),
   (.interval, "interval"),
   (.ipAddress, "inet, ip_address"),
   (.date, "date"),
   (.bool, "boolean, bool"),
   (.serial, "serial"),
   (.integer, "integer, int"),
   (.double, "double precision, double")]

namespace Display

variable (d : Display)

/-- The width of the first two columns of the table of types. -/
def cellWidth : Nat := 26

/-- The width of the line below the names of the columns. -/
def ruleWidth : Nat := 80

/-- The names of the columns. -/
def typeHeader : String :=
  let cell := d.paintCell .strong cellWidth
  " ".intercalate [cell "Type", cell "SQL", d.paint .strong "Plan spelling"]

/-- The line for a type. -/
def typeLine (entry : ColumnType × String) : String :=
  " ".intercalate
    [d.paintCell (.plain .yellow) cellWidth entry.1.name,
     d.paintCell (.plain .cyan) cellWidth entry.1.sql,
     d.paint .faint entry.2]

/-- The lines for all types and actions. -/
def typeLines : List String :=
  [d.paint .heading "Data Types", "", d.typeHeader,
   d.paint .faint (String.ofList (List.replicate ruleWidth '─'))] ++
  typeSpellings.map d.typeLine ++
  ["", d.paint .heading "Referential Actions", ""] ++
  ReferentialAction.all.map fun a => "  " ++ d.paint (.plain .yellow) a.sql

end Display

end SchemaEvolution.CommandLine
