import SchemaEvolution.Keyword

/-!
# Referential actions

What happens to a row when the row it refers to is deleted or its key changes.
-/

namespace SchemaEvolution

/-- A referential action of SQL. -/
inductive ReferentialAction where
  | noAction
  | cascade
  | setNull
  | setDefault
deriving DecidableEq, Inhabited

namespace ReferentialAction

/-- All actions, in the order of listings. -/
def all : List ReferentialAction := [noAction, cascade, setNull, setDefault]

/-- The action as SQL writes it. -/
def sql : ReferentialAction → String
  | noAction => "NO ACTION"
  | cascade => "CASCADE"
  | setNull => "SET NULL"
  | setDefault => "SET DEFAULT"

open Keyword (fixed) in
/-- The words for referential actions. -/
def vocabulary : Vocabulary ReferentialAction where
  subject := "referential action"
  keywords :=
    [fixed [.word "no", .gap, .word "action"] noAction,
     fixed [.word "none"] noAction,
     fixed [.word "cascade"] cascade,
     fixed [.word "set", .gap, .word "null"] setNull,
     fixed [.word "set", .gap, .word "default"] setDefault]

/-- Reads the word for a referential action. -/
def read (text : String) : Except KeywordError ReferentialAction :=
  vocabulary.read text

end ReferentialAction

end SchemaEvolution
