import SchemaEvolution.Decimal.Binary64

/-!
# Documents

The tree that a plan or a settings file is read into, whichever format it is written in. The entries
of a table stand in the order in which they are visited: as they appear in a TOML file, sorted by
key in JSON. Errors depend on that order; what is read without an error does not.
-/

namespace SchemaEvolution

/-- The formats in which documents are written. -/
inductive Origin where
  | toml
  | json
deriving DecidableEq

/-- How a list is written: in brackets, or as tables that each have a header of their own. -/
inductive Node.ListForm where
  | bracketed
  | headed
deriving DecidableEq

/-- A document or a part of it. -/
inductive Node where
  | null
  | bool (value : Bool)
  | integer (value : Int)
  | real (value : Binary64)
  | text (value : String)
  /-- A date, a time or both. No record has a member of this kind, so its value is not kept. -/
  | moment
  | list (form : Node.ListForm) (items : List Node)
  | table (entries : List (String × Node))
deriving Inhabited

namespace Node

/-- A list in brackets. -/
def ofList (items : List Node) : Node :=
  .list .bracketed items

/-- A list of texts. -/
def ofTexts (texts : List String) : Node :=
  ofList (texts.map .text)

/-- A number that counts something. -/
def ofNat (n : Nat) : Node :=
  .integer n

end Node

end SchemaEvolution
