import SchemaEvolution.Keyword

/-!
# Column types

The data types a column can have: their names in listings, their SQL, and the words that plans use
for them. `ColumnType.read` accepts several spellings of one type; `ColumnType.sql` writes the one
that SQL knows, which is itself a spelling that is read.
-/

namespace SchemaEvolution

/-- The data type of a column. -/
inductive ColumnType where
  /-- Text, of at most the given number of characters if there is one. -/
  | string (length : Option UInt32)
  | timestamp
  | timestampWithTimeZone
  | interval
  | ipAddress
  | date
  | bool
  | serial
  | integer
  | double
deriving DecidableEq

namespace ColumnType

/-- The name of the type in listings; the length of a string is no part of it. -/
def name : ColumnType → String
  | string _ => "string"
  | timestamp => "timestamp"
  | timestampWithTimeZone => "timestamp-with-timezone"
  | interval => "interval"
  | ipAddress => "ip-address"
  | date => "date"
  | bool => "bool"
  | serial => "serial"
  | integer => "integer"
  | double => "double"

/-- The type as SQL writes it. -/
def sql : ColumnType → String
  | string (some length) => s!"varchar({Decimal.text length.toNat})"
  | string none => "varchar"
  | timestamp => "timestamp"
  | timestampWithTimeZone => "timestamp with time zone"
  | interval => "interval"
  | ipAddress => "inet"
  | date => "date"
  | bool => "boolean"
  | serial => "SERIAL"
  | integer => "integer"
  | double => "double precision"

/-- The types without a length. -/
def all : List ColumnType :=
  [string none, timestamp, timestampWithTimeZone, interval, ipAddress, date, bool, serial, integer,
   double]

/-! ## Reading -/

/-- The number in parentheses at the front of a text and what follows. There is none if the
parentheses are not closed, hold anything but digits, or hold a number of more than 32 bits. -/
def length? (s : List Char) : Option (UInt32 × List Char) :=
  match s.dropWhile Keyword.isSeparator with
  | '(' :: inner =>
    let inner := inner.dropWhile Keyword.isSeparator
    let digits := inner.takeWhile Char.isDigit
    match (inner.dropWhile Char.isDigit).dropWhile Keyword.isSeparator with
    | ')' :: rest =>
      let n := Decimal.value 10 digits
      if digits = [] then none
      else if n < UInt32.size then some (UInt32.ofNat n, rest)
      else none
    | _ => none
  | _ => none

/-- A string type from what follows its word: the length, where one is given, belongs to it. -/
def stringFrom (s : List Char) : ColumnType × List Char :=
  match length? s with
  | some (length, rest) => (string (some length), rest)
  | none => (string none, s)

open Keyword (fixed) in
/-- The words for column types. A spelling that extends another one stands before it. -/
def vocabulary : Vocabulary ColumnType where
  subject := "data type"
  keywords :=
    [⟨[.word "varchar"], stringFrom⟩,
     ⟨[.word "string"], stringFrom⟩,
     fixed [.word "timestamp", .space, .word "with", .space, .word "time", .space, .word "zone"]
       timestampWithTimeZone,
     fixed [.word "timestamptz"] timestampWithTimeZone,
     fixed [.word "timestamp"] timestamp,
     fixed [.word "interval"] interval,
     fixed [.word "inet"] ipAddress,
     fixed [.word "ip_address"] ipAddress,
     fixed [.word "date"] date,
     fixed [.word "boolean"] bool,
     fixed [.word "bool"] bool,
     fixed [.word "serial"] serial,
     fixed [.word "integer"] integer,
     fixed [.word "int"] integer,
     fixed [.word "double", .space, .word "precision"] double,
     fixed [.word "double"] double]

/-- Reads the word for a column type. -/
def read (text : String) : Except KeywordError ColumnType :=
  vocabulary.read text

end ColumnType

end SchemaEvolution
