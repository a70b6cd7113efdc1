import SchemaEvolution.Document.Record
import SchemaEvolution.Settings

/-!
# Settings in documents

Reading and writing of settings. The output format is a choice: a name, or a table with that name as
its only key. The two document formats refuse a bad choice in words of their own.
-/

namespace SchemaEvolution

namespace OutputFormat

/-- The format with a name. -/
def ofName (name : String) : Except DecodeError OutputFormat :=
  match all.find? fun f => f.name == name with
  | some f => .ok f
  | none => .error (.unknownChoice name (all.map OutputFormat.name))

/-- Refuses what stands under the name of a format in TOML, unless it is empty. -/
def checkEmpty : Node → Except DecodeError Unit
  | .table [] | .list _ [] => .ok ()
  | .table _ | .list .bracketed _ => .error (.choice .notEmptyTable)
  | .list .headed _ => .error (.choice .notEmptyList)
  | .text _ => .error (.choice (.notTable "string"))
  | .integer _ => .error (.choice (.notTable "integer"))
  | .real _ => .error (.choice (.notTable "float"))
  | .bool _ => .error (.choice (.notTable "boolean"))
  | .moment => .error (.choice (.notTable "datetime"))
  | .null => .error (.choice (.notTable "none"))

/-- Refuses what stands under the name of a format in JSON, unless it is null. -/
def checkNull : Node → Except DecodeError Unit
  | .null => .ok ()
  | n => .error (.wrongKind n.found .unit)

/-- Reads a format. -/
def decode : Origin → Node → Except DecodeError OutputFormat
  | _, .text s => ofName s
  | .toml, .table [(name, n)] => do
    let f ← ofName name
    checkEmpty n
    return f
  | .toml, .table [] => .error (.choice .noEntry)
  | .toml, .table _ => .error (.choice .manyEntries)
  | .toml, _ => .error (.choice .notTextOrTable)
  | .json, .table [(name, n)] => do
    let f ← ofName name
    checkNull n
    return f
  | .json, .table _ => .error (.choice .notSingleEntry)
  | .json, n => .error (.wrongKind n.found .choice)

end OutputFormat

namespace Settings

/-- The keys of settings. -/
inductive Key where
  | format
  | terminator
  | directory
  | allowPartialRevert
deriving DecidableEq

/-- Settings as documents write them. -/
def shape : RecordShape Key where
  title := "Config"
  keys := [.format, .terminator, .directory, .allowPartialRevert]
  name
    | .format => "format"
    | .terminator => "terminator"
    | .directory => "migrations_dir"
    | .allowPartialRevert => "allow_partial_revert"
  closed := true

/-- Reads one member. -/
def put (origin : Origin) (s : Settings) : Key → Node → Except DecodeError Settings
  | .format, n => return { s with format := ← OutputFormat.decode origin n }
  | .terminator, n => return { s with terminator := ← n.asText }
  | .directory, n => return { s with directory := ← n.asPath }
  | .allowPartialRevert, n => return { s with allowPartialRevert := ← n.asBool }

/-- Reads settings; what is not given is as by default. -/
def decode (origin : Origin) (n : Node) : Except DecodeError Settings := do
  let (settings, _) ← shape.fill .document (put origin) Settings.default n
  return settings

/-- The value of one member as documents write it. -/
def member (s : Settings) : Key → Node
  | .format => .text s.format.name
  | .terminator => .text s.terminator
  | .directory => .text s.directory
  | .allowPartialRevert => .bool s.allowPartialRevert

/-- Writes settings, all of them. -/
def encode (s : Settings) : Node :=
  .table (shape.keys.map fun k => (shape.name k, s.member k))

end Settings

end SchemaEvolution
