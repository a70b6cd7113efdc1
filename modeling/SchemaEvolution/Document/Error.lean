import SchemaEvolution.Column
import SchemaEvolution.Document
import SchemaEvolution.Text.Quoted

/-!
# Why a document is refused

A document that is well formed may still not be a plan or settings. `DecodeError` gives the causes
and `DecodeError.message` their wording.
-/

namespace SchemaEvolution

/-- What stands in a document where something else is wanted. -/
inductive Found where
  | null
  | bool (value : Bool)
  | integer (value : Int)
  | real (value : Binary64)
  | text (value : String)
  | list
  | table
deriving DecidableEq

/-- What a node is where something else is wanted. A date counts as a table. -/
def Node.found : Node → Found
  | .null => .null
  | .bool b => .bool b
  | .integer n => .integer n
  | .real x => .real x
  | .text s => .text s
  | .moment => .table
  | .list _ _ => .list
  | .table _ => .table

/-- How messages about a document write real numbers: those about TOML never use an exponent. -/
def Origin.layout : Origin → Binary64.Layout
  | .toml => { least := none, greatest := none, signed := false }
  | .json => { least := some (-4), greatest := some 16, signed := true }

/-- What was found, in words. -/
def Found.describe (origin : Origin) : Found → String
  | null => "null"
  | bool b => s!"boolean `{b}`"
  | integer n => s!"integer `{n}`"
  | real x => s!"floating point `{x.text origin.layout}`"
  | text s => s!"string {Text.quoted s}"
  | list => "sequence"
  | table => "map"

/-- What a document should hold at some place. -/
inductive Wanted where
  | string
  | boolean
  | sequence
  | path
  | unit
  | kind
  | change
  | choice
  | record (title : String)
deriving DecidableEq

/-- What was wanted, in words. -/
def Wanted.describe : Wanted → String
  | string => "a string"
  | boolean => "a boolean"
  | sequence => "a sequence"
  | path => "path string"
  | unit => "unit"
  | kind => "variant identifier"
  | change => "internally tagged enum Change"
  | choice => "string or map"
  | record title => s!"struct {title}"

/-- An option that a primary key cannot have. -/
inductive Column.Conflict where
  | nullable
  | unique
  | references
deriving DecidableEq

/-- Why the option is refused. -/
def Column.Conflict.reason : Column.Conflict → String
  | nullable => "primary key cannot also set allow_null"
  | unique => "primary key cannot also be unique"
  | references => "primary key cannot also reference another table"

/-- What holds a record that is written as a list of its members. -/
inductive Holder where
  | document
  | change
deriving DecidableEq

/-- Why a choice that is written as a table is refused. -/
inductive ChoiceError where
  | notTextOrTable
  | noEntry
  | manyEntries
  | notSingleEntry
  | notTable (found : String)
  | notEmptyTable
  | notEmptyList
deriving DecidableEq

/-- The refusal in words. -/
def ChoiceError.message : ChoiceError → String
  | notTextOrTable => "wanted string or table"
  | noEntry => "wanted exactly 1 element, found 0 elements"
  | manyEntries => "wanted exactly 1 element, more than 1 element"
  | notSingleEntry => "invalid value: map, expected map with a single key"
  | notTable found => s!"expected table, found {found}"
  | notEmptyTable => "expected empty table"
  | notEmptyList => "expected empty array"

/-- Why a document cannot be read as what it should be. -/
inductive DecodeError where
  | wrongKind (found : Found) (wanted : Wanted)
  | missing (key : String)
  | unknownKey (key : String) (known : List String)
  | unknownChoice (name : String) (known : List String)
  /-- A record written as a list that is too short. -/
  | tooFew (found : Nat) (title : String) (size : Nat)
  /-- A record written as a list that is too long. -/
  | tooMany (found size : Nat) (holder : Holder)
  | keyword (error : KeywordError)
  | conflict (column : String) (option : Column.Conflict)
  | noConstraint
  | choice (error : ChoiceError)
deriving DecidableEq

namespace DecodeError

/-- A name between backticks. -/
def ticked (name : String) : String :=
  s!"`{name}`"

/-- The names to choose from, in words. -/
def alternatives : List String → String
  | [a] => ticked a
  | [a, b] => s!"{ticked a} or {ticked b}"
  | names => "one of " ++ ", ".intercalate (names.map ticked)

/-- The error in words. -/
def message (origin : Origin) : DecodeError → String
  | wrongKind found wanted => s!"invalid type: {found.describe origin}, expected {wanted.describe}"
  | missing key => s!"missing field {ticked key}"
  | unknownKey key known => s!"unknown field {ticked key}, expected {alternatives known}"
  | unknownChoice name known => s!"unknown variant {ticked name}, expected {alternatives known}"
  | tooFew found title size =>
    s!"invalid length {found}, expected struct {title} with {size} elements"
  | tooMany found _ .document => s!"invalid length {found}, expected fewer elements in array"
  | tooMany found size .change => s!"invalid length {found}, expected {size} elements in sequence"
  | keyword error => error.message
  | conflict column option => s!"Conflicting options on field '{column}': {option.reason}"
  | noConstraint => "no variant of enum ConstraintKind found in flattened data"
  | choice error => error.message

end DecodeError

end SchemaEvolution
