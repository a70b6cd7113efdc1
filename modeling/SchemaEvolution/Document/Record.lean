import SchemaEvolution.Document.Error

/-!
# Records in documents

A record is written as a table with its keys, in any order, or as the list of its members in the
order in which they are declared, where members with a default may be left out at the end. Both
forms fill the same draft, one member at a time and in the order of the document, so the first bad
member decides the error. What is missing is looked at when the draft is complete.
-/

namespace SchemaEvolution

/-! ## Simple members -/

namespace Node

/-- The text that a node holds. -/
def asText : Node → Except DecodeError String
  | .text s => .ok s
  | n => .error (.wrongKind n.found .string)

/-- The truth value that a node holds. -/
def asBool : Node → Except DecodeError Bool
  | .bool b => .ok b
  | n => .error (.wrongKind n.found .boolean)

/-- The path that a node holds. -/
def asPath : Node → Except DecodeError String
  | .text s => .ok s
  | n => .error (.wrongKind n.found .path)

/-- The items of a list, each read in the same way. -/
def asList {α : Type} (item : Node → Except DecodeError α) : Node → Except DecodeError (List α)
  | .list _ items => items.mapM item
  | n => .error (.wrongKind n.found .sequence)

/-- A list of texts. -/
def asTexts (n : Node) : Except DecodeError (List String) :=
  n.asList asText

/-- Something that may be absent, which a null says too. -/
def asOption {α : Type} (read : Node → Except DecodeError α) : Node → Except DecodeError (Option α)
  | .null => .ok none
  | n => some <$> read n

end Node

/-- The result of reading a keyword, as a result of reading a document. -/
def DecodeError.ofKeyword {α : Type} : Except KeywordError α → Except DecodeError α
  | .ok a => .ok a
  | .error e => .error (.keyword e)

/-! ## Records -/

/-- What documents say about the records of one type. -/
structure RecordShape (Key : Type) where
  /-- The name of the type in messages. -/
  title : String
  /-- The keys in the order of the members. -/
  keys : List Key
  /-- A key as it is written. -/
  name : Key → String
  /-- Whether a table may have no other keys. -/
  closed : Bool

/-- The form in which a record is written. -/
inductive RecordForm where
  | keyed
  | positional (size : Nat)
deriving DecidableEq

namespace RecordShape

variable {Key Draft : Type} (shape : RecordShape Key)

/-- The keys as they are written. -/
def names : List String :=
  shape.keys.map shape.name

/-- The key with a name. -/
def key? (name : String) : Option Key :=
  shape.keys.find? fun k => shape.name k == name

/-- One entry of a table put into a draft. -/
def putEntry (put : Draft → Key → Node → Except DecodeError Draft) (draft : Draft)
    (entry : String × Node) : Except DecodeError Draft :=
  match shape.key? entry.1 with
  | some k => put draft k entry.2
  | none => if shape.closed then .error (.unknownKey entry.1 shape.names) else .ok draft

/-- A record as a draft and the form in which it was written. -/
def fill (holder : Holder) (put : Draft → Key → Node → Except DecodeError Draft) (empty : Draft) :
    Node → Except DecodeError (Draft × RecordForm)
  | .table entries => do
    let draft ← entries.foldlM (shape.putEntry put) empty
    return (draft, .keyed)
  | .list _ items => do
    let draft ← (shape.keys.zip items).foldlM (fun draft (k, n) => put draft k n) empty
    if shape.keys.length < items.length then
      throw (.tooMany items.length shape.keys.length holder)
    return (draft, .positional items.length)
  | .moment => do
    -- a date is a table with one key that no record has
    let draft ← shape.putEntry put empty ("$__toml_private_datetime", .null)
    return (draft, .keyed)
  | n => .error (.wrongKind n.found (.record shape.title))

/-- The error for a member that is not there. -/
def absent (form : RecordForm) (key : Key) : DecodeError :=
  match form with
  | .keyed => .missing (shape.name key)
  | .positional size => .tooFew size shape.title shape.keys.length

/-- A member that has to be there. -/
def require {α : Type} (form : RecordForm) (key : Key) : Option α → Except DecodeError α
  | some a => .ok a
  | none => .error (shape.absent form key)

end RecordShape

end SchemaEvolution
