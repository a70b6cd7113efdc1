import SchemaEvolution.Calendar

/-!
# New plan files

A new plan starts from a skeleton: a file that is named after the time and the migration, and that
holds the name and, in comments, an example of a change.
-/

namespace SchemaEvolution.Plan

/-- What a new plan is made from. -/
structure Skeleton where
  name : String
  created : Instant

namespace Skeleton

/-- Whether a migration may have a name: only letters, digits and underscores of ASCII. -/
def isName (name : String) : Bool :=
  !name.isEmpty && name.toList.all fun c => c.isAlphanum || c = '_'

/-- The name of the file. Files sort by the time at which they were created. -/
def fileName (s : Skeleton) : String :=
  s.created.localTime.stamp ++ "_" ++ s.name ++ ".toml"

/-- The lines of the file. -/
def lines (s : Skeleton) : List String :=
  [s!"# Migration: {s.name}",
   s!"# Created: {s.created.localTime.rfc3339}",
   "name = \"" ++ s.name ++ "\"",
   "",
   "# [[change]]",
   "# kind = \"create_table\"",
   "# name = \"example\"",
   "#",
   "# [[change.fields]]",
   "# name = \"id\"",
   "# type = \"serial\"",
   "# primary_key = true"]

/-- The content of the file. -/
def content (s : Skeleton) : String :=
  String.join (s.lines.map (· ++ "\n"))

end Skeleton

end SchemaEvolution.Plan
