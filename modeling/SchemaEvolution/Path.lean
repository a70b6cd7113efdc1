import SchemaEvolution.Text.Split

/-!
# Paths

A path is text. Its names are separated by slashes, it starts at the root or in the working
directory, and each name but the last has to lead to a directory. The place that it means is written
as the shortest path from the root: every name in it leads further down. The root itself is the
empty place.
-/

namespace SchemaEvolution

namespace Path

/-- The names in a path. -/
def names (path : String) : List String :=
  ((Text.split '/' path.toList).filter (· ≠ [])).map String.ofList

/-- Whether a path starts at the root. -/
def isAbsolute (path : String) : Bool :=
  path.toList.head? == some '/'

/-- Whether a path ends in a slash, and so can only mean a directory. -/
def endsInSlash (path : String) : Bool :=
  path.toList.getLast? == some '/'

/-- The names without those at the end that stay in place. -/
def trimmed (names : List String) : List String :=
  (names.reverse.dropWhile (· == ".")).reverse

/-- The names of the directory that holds what a path means. -/
def parent (names : List String) : List String :=
  trimmed (trimmed names).dropLast

/-- The path of something in a directory. -/
def join (directory name : String) : String :=
  if isAbsolute name || directory.isEmpty then name
  else if endsInSlash directory then directory ++ name
  else directory ++ "/" ++ name

/-! ## Places -/

/-- The place with a name in the directory at a place. -/
def child (place name : String) : String :=
  place ++ "/" ++ name

/-- The place of the directory that holds a place; the root holds itself. -/
def up (place : String) : String :=
  String.ofList ((place.toList.reverse.dropWhile (· ≠ '/')).drop 1).reverse

/-- The place that a name leads to. -/
def next (place name : String) : String :=
  if name = "." then place
  else if name = ".." then up place
  else child place name

/-- The places on the way that names lead from a place, both ends included. -/
def places (place : String) : List String → List String
  | [] => [place]
  | name :: names => place :: places (next place name) names

/-- The place that an absolute path means. -/
def place (path : String) : String :=
  (names path).foldl next ""

end Path

end SchemaEvolution
