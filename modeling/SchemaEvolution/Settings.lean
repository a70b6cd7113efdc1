import SchemaEvolution.Path

/-!
# Settings

How scripts are printed, where new plans go, and whether a revert may leave changes out. A settings
file gives some of these; the rest is as in `Settings.default`.
-/

namespace SchemaEvolution

/-- How the statements of a script are printed. -/
inductive OutputFormat where
  | sql
  | json
deriving DecidableEq

/-- All formats, in the order in which messages list them. -/
def OutputFormat.all : List OutputFormat := [sql, json]

/-- The name of a format in settings and on the command line. -/
def OutputFormat.name : OutputFormat → String
  | sql => "sql"
  | json => "json"

/-- What can be set. -/
structure Settings where
  format : OutputFormat := .sql
  /-- What follows each statement of a script. -/
  terminator : String := ";"
  /-- The directory for new plans. -/
  directory : String := "migrations"
  /-- Whether a revert leaves out what cannot be undone instead of failing. -/
  allowPartialRevert : Bool := false
deriving DecidableEq

namespace Settings

/-- The settings that hold where nothing is set. -/
protected def default : Settings := {}

/-- Statements as a script: each with the terminator, on a line of its own. -/
def script (s : Settings) (statements : List String) : String :=
  "\n".intercalate (statements.map (· ++ s.terminator))

/-! ## Where settings are looked for -/

/-- The settings file in the working directory. -/
def localFile : String := "schemashift.toml"

/-- The settings file in the user's directory for such files. -/
def userFile (configHome : String) : String :=
  Path.join (Path.join configHome "schemashift") "config.toml"

/-- The files in which settings are looked for, the most specific one first. -/
def searchPaths (configHome : Option String) : List String :=
  localFile :: (configHome.map userFile).toList

end Settings

end SchemaEvolution
