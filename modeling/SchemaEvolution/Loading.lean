import SchemaEvolution.Document.Plan
import SchemaEvolution.Document.Settings
import SchemaEvolution.FileTree
import SchemaEvolution.Toml

/-!
# Loading plans and settings

Plans and settings are TOML files. A plan is read from the file that is named. Settings are read from
the file that is named, or from the first of the files in which they are looked for; one file alone
decides, and without any the settings are those by default.
-/

namespace SchemaEvolution

/-! ## Texts -/

/-- Why a text is not what it should be. -/
inductive TextError where
  | notToml
  | rejected (reason : DecodeError)
deriving DecidableEq

/-- The reason in words. -/
def TextError.message : TextError → String
  | notToml => "the text is not TOML"
  | rejected reason => reason.message .toml

/-- Reads a text with a reader for documents. -/
def Node.decodeToml {α : Type} (decode : Node → Except DecodeError α) (text : String) :
    Except TextError α :=
  match Toml.read text with
  | none => .error .notToml
  | some n => (decode n).mapError .rejected

/-- Reads a plan. -/
def Plan.ofToml (text : String) : Except TextError Plan :=
  Node.decodeToml Plan.decode text

/-- Reads settings. -/
def Settings.ofToml (text : String) : Except TextError Settings :=
  Node.decodeToml (Settings.decode .toml) text

/-! ## Files -/

/-- Why a file cannot be loaded. -/
inductive LoadError where
  | file (reason : FileError)
  | plan (reason : TextError)
  | settings (reason : TextError)
deriving DecidableEq

/-- The reason in words. -/
def LoadError.message : LoadError → String
  | file reason => s!"IO error: {reason.message}"
  | plan reason => s!"Plan error: {reason.message}"
  | settings reason => s!"Configuration error: {reason.message}"

/-- The reason with all that is behind it, as a part of a longer message. What is wrong with a text
ends its line. -/
def LoadError.account (e : LoadError) : String :=
  match e with
  | file reason => s!"{e.message}: {reason.message}"
  | plan _ | settings _ => e.message ++ "\n"

/-- Loads the plan in a file. -/
def Plan.load (tree : FileTree) (path : String) : Except LoadError Plan := do
  let text ← (tree.readText path).mapError .file
  (ofToml text).mapError .plan

namespace Settings

/-- Loads the settings in a file. -/
def loadFile (tree : FileTree) (path : String) : Except LoadError Settings := do
  let text ← (tree.readText path).mapError .file
  (ofToml text).mapError .settings

/-- The file that decides the settings: the one that is named, or else the first one that exists of
those in which they are looked for. -/
def source? (tree : FileTree) (configHome named : Option String) : Option String :=
  named.or ((searchPaths configHome).find? tree.isFile)

/-- Loads the settings. -/
def load (tree : FileTree) (configHome named : Option String) : Except LoadError Settings :=
  match source? tree configHome named with
  | some path => loadFile tree path
  | none => .ok .default

end Settings

end SchemaEvolution
